import ReactScaffold.Proofs.Json.LineEnding

/-!
# Written documents are read back

A document within the limits of the reader that is written without lone surrogate halves is read
back as the document itself. The text of a value is taken apart along the layout, each part is read
back by induction on the value, and the number of steps is bounded by the length of the text.
-/

namespace ReactScaffold.Json

open Decimal Text

/-- Every text of the value is read as the value, given two steps for each of its characters. -/
def ReadsBack (rules : Rules) (depth : Nat) (v : Document) : Prop :=
  ∀ {level : Nat} {cs rest : List Char} {fuel : Nat},
    print .indented level v = WideText.ofChars cs → NumberEnd rest → 2 * cs.length ≤ fuel →
      readValue rules fuel depth (cs ++ rest) = .ok (v, rest)

variable {rules : Rules} {fuel depth level : Nat}

theorem readItems_last {v : Document} {cs after left : List Char}
    (hv : readValue rules fuel depth cs = .ok (v, after))
    (hend : skipSpace after = ']' :: left) :
    readItems rules (fuel + 1) depth cs = .ok ([v], left) := by
  rw [readItems, hv, ok_bind]
  dsimp only
  rw [hend]
  rfl

theorem readItems_more {v : Document} {vs : List Document} {cs after more left : List Char}
    (hv : readValue rules fuel depth cs = .ok (v, after))
    (hcomma : skipSpace after = ',' :: more)
    (hvs : readItems rules fuel depth (skipSpace more) = .ok (vs, left)) :
    readItems rules (fuel + 1) depth cs = .ok (v :: vs, left) := by
  rw [readItems, hv, ok_bind]
  dsimp only
  rw [hcomma]
  show (readItems rules fuel depth (skipSpace more) >>= _) = _
  rw [hvs]
  rfl

theorem readMembers_last {k : WideText} {v : Document}
    {cs afterName afterColon after left : List Char}
    (hk : readName rules cs = .ok (k, afterName)) (hcolon : passColon afterName = .ok afterColon)
    (hv : readValue rules fuel depth afterColon = .ok (v, after))
    (hend : skipSpace after = '\x7d' :: left) :
    readMembers rules (fuel + 1) depth cs = .ok ([(k, v)], left) := by
  rw [readMembers, hk, ok_bind]
  dsimp only
  rw [hcolon, ok_bind, hv, ok_bind]
  dsimp only
  rw [hend]
  rfl

theorem readMembers_more {k : WideText} {v : Document} {ms : List (WideText × Document)}
    {cs afterName afterColon after more left : List Char}
    (hk : readName rules cs = .ok (k, afterName)) (hcolon : passColon afterName = .ok afterColon)
    (hv : readValue rules fuel depth afterColon = .ok (v, after))
    (hcomma : skipSpace after = ',' :: more)
    (hms : readMembers rules fuel depth (skipSpace more) = .ok (ms, left)) :
    readMembers rules (fuel + 1) depth cs = .ok ((k, v) :: ms, left) := by
  rw [readMembers, hk, ok_bind]
  dsimp only
  rw [hcolon, ok_bind, hv, ok_bind]
  dsimp only
  rw [hcomma]
  show (readMembers rules fuel depth (skipSpace more) >>= _) = _
  rw [hms]
  rfl

theorem readName_memberText (rules : Rules) (name value rest : List Char) :
    readName rules (memberText name value ++ rest) =
      .ok (WideText.ofChars name, ':' :: ' ' :: (value ++ rest)) := by
  have htext : memberText name value ++ rest =
      '"' :: (name.flatMap escapeChar ++ '"' :: (':' :: ' ' :: (value ++ rest))) := by
    simp [memberText]
  rw [htext]
  exact readString_escape rules name _

theorem passColon_value {value : List Char} (hstart : ∃ c ds, value = c :: ds ∧ startsValue c)
    (rest : List Char) : passColon (':' :: ' ' :: (value ++ rest)) = .ok (value ++ rest) := by
  obtain ⟨c, ds, rfl, hc⟩ := hstart
  have hskip : skipSpace (' ' :: (c :: ds ++ rest)) = c :: ds ++ rest :=
    skipSpace_cons (isSpace_of_startsValue hc) (ds ++ rest)
  unfold passColon
  rw [skipSpace_cons (by decide)]
  exact congrArg Except.ok hskip

/-- The items of a written array are read back up to the end of the array. -/
theorem readItems_print {v : Document} {items : List Document}
    (hreadable : ∀ w ∈ v :: items, Readable depth w)
    (hback : ∀ w ∈ v :: items, ReadsBack rules depth w) {first others : List Char}
    (hfirst : print .indented level v = WideText.ofChars first)
    (hothers : printItems .indented level items = WideText.ofChars others)
    (outer : Nat) (rest : List Char) (hfuel : 2 * (first.length + others.length) ≤ fuel) :
    readItems rules (fuel + 1) depth (first ++ (others ++ (lineBreakText outer ++ ']' :: rest))) =
      .ok (v :: items, rest) := by
  induction items generalizing v first others fuel with
  | nil =>
      obtain rfl : [] = others := WideText.ofChars_injective hothers
      have hvalue := hback v (by simp) hfirst (numberEnd_lineBreak outer (']' :: rest))
        (show 2 * first.length ≤ fuel by omega)
      exact readItems_last hvalue (skipSpace_lineBreak_cons outer (by decide) rest)
  | cons w items ih =>
      obtain ⟨second, last, hsecond, hlast, rfl⟩ := items_text hothers
      obtain ⟨c, ds, rfl, hc⟩ := print_start (hreadable w (by simp)) hsecond
      obtain ⟨fuel, rfl⟩ := Nat.exists_eq_add_of_le' (show 1 ≤ fuel by simp at hfuel; omega)
      have hmore := ih (fun x hx => hreadable x (List.mem_cons_of_mem v hx))
        (fun x hx => hback x (List.mem_cons_of_mem v hx)) hsecond hlast
        (show 2 * ((c :: ds).length + last.length) ≤ fuel by simp at hfuel ⊢; omega)
      rw [List.cons_append, ← skipSpace_lineBreak_cons level (isSpace_of_startsValue hc)] at hmore
      have hvalue := hback v (by simp) hfirst
        (numberEnd_cons (by decide : ','.isDigit = false ∧ _) (lineBreakText level ++
          (c :: ds ++ last) ++ (lineBreakText outer ++ ']' :: rest)))
        (show 2 * first.length ≤ fuel + 1 by omega)
      exact readItems_more hvalue (skipSpace_cons (by decide) _) (by simpa using hmore)

/-- The members of a written object are read back up to the end of the object. -/
theorem readMembers_print {name : List Char} {v : Document} {members : List (WideText × Document)}
    (hreadable : ∀ m ∈ (WideText.ofChars name, v) :: members, Readable depth m.2)
    (hback : ∀ m ∈ (WideText.ofChars name, v) :: members, ReadsBack rules depth m.2)
    {value others : List Char} (hvalue : print .indented level v = WideText.ofChars value)
    (hothers : printMembers .indented level members = WideText.ofChars others)
    (outer : Nat) (rest : List Char) (hfuel : 2 * (value.length + others.length) ≤ fuel) :
    readMembers rules (fuel + 1) depth
        (memberText name value ++ (others ++ (lineBreakText outer ++ '\x7d' :: rest))) =
      .ok ((WideText.ofChars name, v) :: members, rest) := by
  have hv : Readable depth v := hreadable _ List.mem_cons_self
  have hbackv : ReadsBack rules depth v := hback _ List.mem_cons_self
  have hcolon := passColon_value (print_start hv hvalue)
    (others ++ (lineBreakText outer ++ '\x7d' :: rest))
  have hname := readName_memberText rules name value
    (others ++ (lineBreakText outer ++ '\x7d' :: rest))
  induction members generalizing name v value others fuel with
  | nil =>
      obtain rfl : [] = others := WideText.ofChars_injective hothers
      have hread := hbackv hvalue (numberEnd_lineBreak outer ('\x7d' :: rest))
        (show 2 * value.length ≤ fuel by omega)
      exact readMembers_last hname hcolon hread (skipSpace_lineBreak_cons outer (by decide) rest)
  | cons m members ih =>
      obtain ⟨k, w⟩ := m
      obtain ⟨second, text, last, rfl, hsecond, hlast, rfl⟩ := members_text hothers
      obtain ⟨fuel, rfl⟩ := Nat.exists_eq_add_of_le' (show 1 ≤ fuel by simp at hfuel; omega)
      have hw : Readable depth w := hreadable (WideText.ofChars second, w) (by simp)
      have hmore := ih (fun x hx => hreadable x (List.mem_cons_of_mem _ hx))
        (fun x hx => hback x (List.mem_cons_of_mem _ hx)) hsecond hlast
        (show 2 * (text.length + last.length) ≤ fuel by
          simp [memberText] at hfuel
          omega)
        hw (hback (WideText.ofChars second, w) (by simp))
        (passColon_value (print_start hw hsecond) _) (readName_memberText rules second text _)
      rw [memberText, List.cons_append,
        ← skipSpace_lineBreak_cons level (by decide : isSpace '"' = false)] at hmore
      have hread := hbackv hvalue
        (numberEnd_cons (by decide : ','.isDigit = false ∧ _) (lineBreakText level ++
          (memberText second text ++ last) ++ (lineBreakText outer ++ '\x7d' :: rest)))
        (show 2 * value.length ≤ fuel + 1 by omega)
      refine readMembers_more hname hcolon ?_ (skipSpace_cons (by decide) _) hmore
      simpa [memberText] using hread

/-- A value is read back when its text, the same on every level, is read as the value. -/
theorem readsBack_of_text {v : Document} {text : List Char} (hne : text ≠ [])
    (hprint : ∀ level, print .indented level v = WideText.ofChars text)
    (hread : ∀ fuel rest, NumberEnd rest →
      readValue rules (fuel + 1) depth (text ++ rest) = .ok (v, rest)) :
    ReadsBack rules depth v := by
  intro level cs rest fuel h hrest hfuel
  obtain rfl := WideText.ofChars_injective ((hprint level).symm.trans h)
  have hlength := List.length_pos_iff.2 hne
  obtain ⟨fuel, rfl⟩ := Nat.exists_eq_add_of_le' (show 1 ≤ fuel by omega)
  exact hread fuel rest hrest

/-- A number is read back when its text is read as the number. -/
theorem readsBack_of_startsNumber {v : Document} {text : List Char}
    (hstart : ∃ c cs, text = c :: cs ∧ startsNumber c)
    (hprint : ∀ level, print .indented level v = WideText.ofChars text)
    (hread : ∀ rest, NumberEnd rest → readScalar rules (text ++ rest) = .ok (v, rest)) :
    ReadsBack rules depth v := by
  obtain ⟨c, cs, rfl, hc⟩ := hstart
  refine readsBack_of_text (List.cons_ne_nil c cs) hprint fun fuel rest hrest => ?_
  rw [← hread rest hrest]
  exact readValue_of_startsNumber rules fuel depth hc (cs ++ rest)

theorem readsBack_null : ReadsBack rules depth .null :=
  readsBack_of_text (List.cons_ne_nil 'n' ['u', 'l', 'l']) (fun _ => rfl) fun _ _ _ => rfl

theorem readsBack_bool (b : Bool) : ReadsBack rules depth (.bool b) := by
  cases b with
  | true =>
      exact readsBack_of_text (List.cons_ne_nil 't' ['r', 'u', 'e']) (fun _ => rfl) fun _ _ _ => rfl
  | false =>
      exact readsBack_of_text (List.cons_ne_nil 'f' ['a', 'l', 's', 'e']) (fun _ => rfl)
        fun _ _ _ => rfl

theorem readsBack_str (t : WideText) : ReadsBack rules depth (.str t) := by
  intro level cs rest fuel h hrest hfuel
  obtain ⟨ds, rfl, rfl⟩ := printString_eq_ofChars h
  obtain ⟨fuel, rfl⟩ := Nat.exists_eq_add_of_le' (show 1 ≤ fuel by simp at hfuel; omega)
  show (readString rules (ds.flatMap escapeChar ++ ['"'] ++ rest)).map _ = _
  rw [List.append_assoc, List.singleton_append, readString_escape]
  rfl

/-- An array is read back when its items are. -/
theorem readsBack_arr {items : List Document} (each : ∀ v ∈ items, Readable depth v)
    (hback : ∀ v ∈ items, ReadsBack rules depth v) : ReadsBack rules (depth + 1) (.arr items) := by
  cases items with
  | nil =>
      exact readsBack_of_text (List.cons_ne_nil '[' [']']) (fun _ => rfl) fun _ _ _ => rfl
  | cons v items =>
      intro level cs rest fuel h hrest hfuel
      obtain ⟨first, others, hfirst, hothers, rfl⟩ := array_text h
      obtain ⟨fuel, rfl⟩ := Nat.exists_eq_add_of_le' (show 2 ≤ fuel by simp at hfuel; omega)
      obtain ⟨c, ds, rfl, hc⟩ := print_start (each v List.mem_cons_self) hfirst
      have hitems := readItems_print each hback hfirst hothers level rest
        (show 2 * ((c :: ds).length + others.length) ≤ fuel by
          simp [lineBreakText] at hfuel ⊢
          omega)
      have hskip := skipSpace_lineBreak_cons (level + 1) (isSpace_of_startsValue hc)
        (ds ++ (others ++ (lineBreakText level ++ ']' :: rest)))
      rw [List.cons_append, ← hskip] at hitems
      have hne := ne_of_startsValue hc (d := ']') rfl
      have hread := (readValue_arr (by rw [hskip]; simpa using hne)).trans
        (congrArg (Except.map _) hitems)
      simpa [Except.map] using hread

/-- An object whose names differ is read back when its values are. -/
theorem readsBack_obj {members : List (WideText × Document)}
    (names : (OrderedMap.keys members).Nodup) (each : ∀ m ∈ members, Readable depth m.2)
    (hback : ∀ m ∈ members, ReadsBack rules depth m.2) :
    ReadsBack rules (depth + 1) (.obj members) := by
  cases members with
  | nil =>
      exact readsBack_of_text (List.cons_ne_nil '\x7b' ['\x7d']) (fun _ => rfl) fun _ _ _ => rfl
  | cons m members =>
      intro level cs rest fuel h hrest hfuel
      obtain ⟨k, v⟩ := m
      obtain ⟨name, value, others, rfl, hvalue, hothers, rfl⟩ := object_text h
      obtain ⟨fuel, rfl⟩ := Nat.exists_eq_add_of_le' (show 2 ≤ fuel by simp at hfuel; omega)
      have hmembers := readMembers_print each hback hvalue hothers level rest
        (show 2 * (value.length + others.length) ≤ fuel by
          simp [lineBreakText, memberText] at hfuel ⊢
          omega)
      have hskip := skipSpace_lineBreak_cons (level + 1) (by decide : isSpace '"' = false)
        (name.flatMap escapeChar ++ ('"' :: ':' :: ' ' :: value) ++
          (others ++ (lineBreakText level ++ '\x7d' :: rest)))
      rw [memberText, List.cons_append, ← hskip] at hmembers
      have hread := (readValue_obj (by rw [hskip]; simp)).trans
        (congrArg (Except.map _) hmembers)
      simpa [memberText, Except.map, OrderedMap.ofEntries_of_nodup names] using hread

/-- A value within the limits of the reader is read back. -/
theorem Readable.readsBack (hrules : rules.limitsFractions = false) {v : Document}
    (hv : Readable depth v) : ReadsBack rules depth v := by
  induction hv with
  | null => exact readsBack_null
  | @bool _ b => exact readsBack_bool b
  | @int _ n digits =>
      exact readsBack_of_startsNumber (startsNumber_printInt n) (fun _ => rfl)
        fun rest hrest => readScalar_printInt rules digits hrest
  | @float _ x canonical =>
      exact readsBack_of_startsNumber (startsNumber_text canonical) (fun _ => rfl)
        fun rest hrest => readScalar_text hrules canonical hrest
  | @str _ t => exact readsBack_str t
  | arr each ih => exact readsBack_arr each ih
  | obj names each ih => exact readsBack_obj names each ih

/-- A text that consists of a value that is read back, and of blanks after it, is read as the
value. -/
theorem parseBy_of_readsBack {v : Document} (hv : Readable rules.maxNesting v)
    (hback : ReadsBack rules rules.maxNesting v) {text blanks : List Char}
    (htext : print .indented 0 v = WideText.ofChars text) (hend : NumberEnd blanks)
    (hblanks : skipSpace blanks = []) : parseBy rules (text ++ blanks) = .ok v := by
  obtain ⟨c, ds, rfl, hc⟩ := print_start hv htext
  have hmark := ne_of_startsValue hc (d := '\uFEFF') rfl
  have hread := hback htext hend
    (show 2 * (c :: ds).length ≤ fuelFor (c :: ds ++ blanks) by simp [fuelFor]; omega)
  have hskip : skipSpace (c :: ds ++ blanks) = c :: ds ++ blanks :=
    skipSpace_cons (isSpace_of_startsValue hc) (ds ++ blanks)
  unfold parseBy
  split
  · exact absurd (List.cons.inj ‹_›).1 hmark
  · rw [hskip, hread, ok_bind]
    dsimp only
    rw [hblanks]
    rfl

/-- The text of a document that is within the limits of the reader and has no lone surrogate
halves is read as the document. -/
theorem parse_dumpDocument {v : Document} (hv : Readable Rules.lenient.maxNesting v)
    {cs : List Char} (h : dumpDocument v = WideText.ofChars cs) : parse cs = .ok v := by
  obtain ⟨text, rfl, htext⟩ := WideText.append_ofChars_eq ['\n'] h
  exact parseBy_of_readsBack hv (hv.readsBack rfl) htext
    (numberEnd_cons (by decide : '\n'.isDigit = false ∧ _) []) rfl

/-- The octets of a document that is within the limits of the reader are decoded and read as the
document. -/
theorem parse_of_encodeWide {v : Document} (hv : Readable Rules.lenient.maxNesting v)
    {octets : List UInt8} (h : Utf8.encodeWide (dumpDocument v) = .ok octets) :
    ∃ cs, Utf8.decode octets = .ok cs ∧ parse (normalizeLineEndings cs) = .ok v := by
  obtain ⟨cs, hcs, rfl⟩ := Utf8.encodeWide_eq_ok_iff.1 h
  have hreturn : '\r' ∉ cs := by
    intro hmem
    have hdump : .scalar '\r' ∈ dumpDocument v := hcs ▸ List.mem_map_of_mem hmem
    rw [dumpDocument, List.mem_append, List.mem_singleton] at hdump
    rcases hdump with hprint | hend
    · exact notMem_print hv 0 hprint
    · exact absurd hend (by decide)
  refine ⟨cs, Utf8.decode_encode cs, ?_⟩
  rw [normalizeLineEndings_of_notMem hreturn]
  exact parse_dumpDocument hv hcs

end ReactScaffold.Json
