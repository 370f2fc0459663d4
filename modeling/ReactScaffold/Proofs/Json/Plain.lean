import ReactScaffold.Proofs.Json.Strings

/-!
# Documents of plain text

A document in which no string holds a lone surrogate half is written with characters only, so it
has octets.
-/

namespace ReactScaffold

namespace Text.WideText

/-- The text holds characters only. -/
def IsPlain (t : WideText) : Prop := ∃ cs, t = ofChars cs

theorem isPlain_ofChars (cs : List Char) : IsPlain (ofChars cs) := ⟨cs, rfl⟩

theorem IsPlain.append {t u : WideText} (ht : IsPlain t) (hu : IsPlain u) : IsPlain (t ++ u) := by
  obtain ⟨cs, rfl⟩ := ht
  obtain ⟨ds, rfl⟩ := hu
  exact ⟨cs ++ ds, (ofChars_append cs ds).symm⟩

theorem IsPlain.cons {t : WideText} (c : Char) (ht : IsPlain t) : IsPlain (.scalar c :: t) :=
  (isPlain_ofChars [c]).append ht

theorem isPlain_of_chars? {t : WideText} {cs : List Char} (h : chars? t = some cs) :
    IsPlain t := by
  induction t generalizing cs with
  | nil => exact ⟨[], rfl⟩
  | cons p t ih =>
      cases p with
      | half n => cases h
      | scalar c =>
          rw [chars?, List.mapM_cons] at h
          cases hrest : chars? t with
          | none =>
              rw [chars?] at hrest
              rw [hrest] at h
              cases h
          | some ds => exact (ih hrest).cons c

theorem isPlain_of_string? {t : WideText} {s : String} (h : string? t = some s) : IsPlain t := by
  obtain ⟨cs, hcs, -⟩ := Option.map_eq_some_iff.1 h
  exact isPlain_of_chars? hcs

end Text.WideText

namespace Json

open Text

/-- A value that holds no lone surrogate half, neither in its strings nor in its names. -/
inductive Plain : Document → Prop where
  | null : Plain .null
  | bool {b : Bool} : Plain (.bool b)
  | int {n : Int} : Plain (.int n)
  | float {x : Decimal.Binary64} : Plain (.float x)
  | str {t : WideText} (text : t.IsPlain) : Plain (.str t)
  | arr {items : List Document} (each : ∀ v ∈ items, Plain v) : Plain (.arr items)
  | obj {members : List (WideText × Document)}
      (names : ∀ m ∈ members, m.1.IsPlain) (each : ∀ m ∈ members, Plain m.2) :
      Plain (.obj members)

mutual

theorem plain_of_plain? : (v : Document) → {w : Json String} → plain? v = some w → Plain v
  | .null, _, _ => .null
  | .bool _, _, _ => .bool
  | .int _, _, _ => .int
  | .float _, _, _ => .float
  | .str t, w, h => by
      obtain ⟨s, hs, -⟩ := Option.map_eq_some_iff.1 h
      exact .str (WideText.isPlain_of_string? hs)
  | .arr items, w, h => by
      obtain ⟨ws, hws, -⟩ := Option.map_eq_some_iff.1 h
      exact .arr (plain_of_plainItems? items hws)
  | .obj members, w, h => by
      obtain ⟨ws, hws, -⟩ := Option.map_eq_some_iff.1 h
      have hmembers := plain_of_plainMembers? members hws
      exact .obj (fun m hm => (hmembers m hm).1) fun m hm => (hmembers m hm).2

theorem plain_of_plainItems? : (items : List Document) → {ws : List (Json String)} →
    plainItems? items = some ws → ∀ v ∈ items, Plain v
  | [], _, _ => by simp
  | v :: items, ws, h => by
      obtain ⟨w, hw, h⟩ := Option.bind_eq_some_iff.1 h
      obtain ⟨more, hmore, -⟩ := Option.bind_eq_some_iff.1 h
      rw [List.forall_mem_cons]
      exact ⟨plain_of_plain? v hw, plain_of_plainItems? items hmore⟩

theorem plain_of_plainMembers? : (members : List (WideText × Document)) →
    {ws : List (String × Json String)} → plainMembers? members = some ws →
      ∀ m ∈ members, WideText.IsPlain m.1 ∧ Plain m.2
  | [], _, _ => by simp
  | (k, v) :: members, ws, h => by
      obtain ⟨name, hname, h⟩ := Option.bind_eq_some_iff.1 h
      obtain ⟨w, hw, h⟩ := Option.bind_eq_some_iff.1 h
      obtain ⟨more, hmore, -⟩ := Option.bind_eq_some_iff.1 h
      rw [List.forall_mem_cons]
      exact ⟨⟨WideText.isPlain_of_string? hname, plain_of_plain? v hw⟩,
        plain_of_plainMembers? members hmore⟩

end

theorem isPlain_printString {t : WideText} (ht : t.IsPlain) : WideText.IsPlain (printString t) := by
  obtain ⟨cs, rfl⟩ := ht
  refine ⟨'"' :: (cs.flatMap escapeChar ++ ['"']), ?_⟩
  simp [printString, WideText.ofChars, List.flatMap_map, List.map_flatMap, escapePoint]

theorem isPlain_lineBreak (level : Nat) : WideText.IsPlain (Layout.indented.lineBreak level) :=
  WideText.isPlain_ofChars _

theorem isPlain_printItems {items : List Document}
    (h : ∀ v ∈ items, ∀ level, WideText.IsPlain (print .indented level v)) (level : Nat) :
    WideText.IsPlain (printItems .indented level items) := by
  induction items with
  | nil => exact WideText.isPlain_ofChars []
  | cons v items ih =>
      have hv := h v List.mem_cons_self level
      have hitems := ih fun w hw => h w (List.mem_cons_of_mem v hw)
      exact (((WideText.isPlain_ofChars [',']).append (isPlain_lineBreak level)).append hv).append
        hitems

theorem isPlain_printMembers {members : List (WideText × Document)}
    (h : ∀ m ∈ members, m.1.IsPlain ∧ ∀ level, WideText.IsPlain (print .indented level m.2))
    (level : Nat) : WideText.IsPlain (printMembers .indented level members) := by
  induction members with
  | nil => exact WideText.isPlain_ofChars []
  | cons m members ih =>
      obtain ⟨k, v⟩ := m
      obtain ⟨hk, hv⟩ := h (k, v) List.mem_cons_self
      have hmembers := ih fun x hx => h x (List.mem_cons_of_mem _ hx)
      exact (((((WideText.isPlain_ofChars [',']).append (isPlain_lineBreak level)).append
        (isPlain_printString hk)).append (WideText.isPlain_ofChars [':', ' '])).append
          (hv level)).append hmembers

theorem Plain.isPlain_print {v : Document} (hv : Plain v) (level : Nat) :
    WideText.IsPlain (print .indented level v) := by
  induction hv generalizing level with
  | null => exact WideText.isPlain_ofChars _
  | @bool b =>
      cases b with
      | true => exact WideText.isPlain_ofChars _
      | false => exact WideText.isPlain_ofChars _
  | int => exact WideText.isPlain_ofChars _
  | float => exact WideText.isPlain_ofChars _
  | str text => exact isPlain_printString text
  | @arr items each ih =>
      cases items with
      | nil => exact WideText.isPlain_ofChars _
      | cons v items =>
          have hv := ih v List.mem_cons_self (level + 1)
          have hitems :=
            isPlain_printItems (fun w hw => ih w (List.mem_cons_of_mem v hw)) (level + 1)
          exact (((((isPlain_lineBreak (level + 1)).cons '[').append hv).append hitems).append
            (isPlain_lineBreak level)).append (WideText.isPlain_ofChars [']'])
  | @obj members names each ih =>
      cases members with
      | nil => exact WideText.isPlain_ofChars _
      | cons m members =>
          obtain ⟨k, v⟩ := m
          have hk := names (k, v) List.mem_cons_self
          have hv := ih (k, v) List.mem_cons_self (level + 1)
          have hmembers := isPlain_printMembers (fun x hx =>
            ⟨names x (List.mem_cons_of_mem _ hx), ih x (List.mem_cons_of_mem _ hx)⟩) (level + 1)
          exact (((((((isPlain_lineBreak (level + 1)).cons '\x7b').append
            (isPlain_printString hk)).append (WideText.isPlain_ofChars [':', ' '])).append
              hv).append hmembers).append (isPlain_lineBreak level)).append
                (WideText.isPlain_ofChars ['\x7d'])

/-- A plain document is written with characters only. -/
theorem Plain.isPlain_dumpDocument {v : Document} (hv : Plain v) :
    WideText.IsPlain (dumpDocument v) :=
  (hv.isPlain_print 0).append (WideText.isPlain_ofChars ['\n'])

end Json

end ReactScaffold
