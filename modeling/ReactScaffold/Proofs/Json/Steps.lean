import ReactScaffold.Json.Parser
import ReactScaffold.Proofs.Outcome

/-!
# Steps of the readers

What the readers of values, items and members do with one step of their fuel. `readValue_step`,
`readItems_step` and `readMembers_step` say in which ways a step can succeed; what holds of all that
is read follows from one case for each way. The equations at the end say what a step gives behind an
opening bracket.
-/

namespace ReactScaffold.Json

open Text

variable {rules : Rules} {fuel depth : Nat}

theorem enter?_eq_some (hrules : rules.emptyNests = true) {inner : Nat} {empty : Bool}
    (h : rules.enter? depth empty = some inner) : depth = inner + 1 := by
  cases depth with
  | zero =>
      rw [Rules.enter?, hrules, Bool.not_true, Bool.and_false] at h
      cases h
  | succ depth =>
      obtain rfl : depth = inner := Option.some.inj h
      rfl

/-! ## The ways to succeed -/

/-- The ways in which a value is read, by rules under which an empty array takes up a level. -/
inductive ValueStep (rules : Rules) (fuel : Nat) :
    Nat → List Char → Document → List Char → Prop where
  | str {depth : Nat} {rest left : List Char} {t : WideText}
      (string : readString rules rest = .ok (t, left)) :
      ValueStep rules fuel depth ('"' :: rest) (.str t) left
  | objEmpty {depth : Nat} {rest left : List Char} (closed : skipSpace rest = '\x7d' :: left) :
      ValueStep rules fuel (depth + 1) ('\x7b' :: rest) (.obj []) left
  | obj {depth : Nat} {rest left : List Char} {ms : List (WideText × Document)}
      (members : readMembers rules fuel depth (skipSpace rest) = .ok (ms, left)) :
      ValueStep rules fuel (depth + 1) ('\x7b' :: rest) (.obj (OrderedMap.ofEntries ms)) left
  | arrEmpty {depth : Nat} {rest left : List Char} (closed : skipSpace rest = ']' :: left) :
      ValueStep rules fuel (depth + 1) ('[' :: rest) (.arr []) left
  | arr {depth : Nat} {rest left : List Char} {vs : List Document}
      (items : readItems rules fuel depth (skipSpace rest) = .ok (vs, left)) :
      ValueStep rules fuel (depth + 1) ('[' :: rest) (.arr vs) left
  | scalar {depth : Nat} {cs left : List Char} {v : Document}
      (scalar : readScalar rules cs = .ok (v, left)) : ValueStep rules fuel depth cs v left

theorem readValue_step (hrules : rules.emptyNests = true) {cs left : List Char} {v : Document}
    (h : readValue rules (fuel + 1) depth cs = .ok (v, left)) :
    ValueStep rules fuel depth cs v left := by
  unfold readValue at h
  split at h
  · obtain ⟨⟨t, after⟩, hstring, heq⟩ := map_eq_ok h
    obtain ⟨rfl, rfl⟩ := Prod.mk.inj heq
    exact .str hstring
  · dsimp only at h
    split at h
    · cases h
    · rename_i inner henter
      obtain rfl := enter?_eq_some hrules henter
      split at h
      · obtain ⟨rfl, rfl⟩ := Prod.mk.inj (Except.ok.inj h)
        exact .objEmpty ‹_›
      · obtain ⟨⟨ms, after⟩, hmembers, heq⟩ := map_eq_ok h
        obtain ⟨rfl, rfl⟩ := Prod.mk.inj heq
        exact .obj hmembers
  · dsimp only at h
    split at h
    · cases h
    · rename_i inner henter
      obtain rfl := enter?_eq_some hrules henter
      split at h
      · obtain ⟨rfl, rfl⟩ := Prod.mk.inj (Except.ok.inj h)
        exact .arrEmpty ‹_›
      · obtain ⟨⟨vs, after⟩, hitems, heq⟩ := map_eq_ok h
        obtain ⟨rfl, rfl⟩ := Prod.mk.inj heq
        exact .arr hitems
  · exact .scalar h

/-- The ways in which items are read up to the end of their array. -/
inductive ItemsStep (rules : Rules) (fuel depth : Nat) (cs : List Char) :
    List Document → List Char → Prop where
  | last {v : Document} {after left : List Char}
      (value : readValue rules fuel depth cs = .ok (v, after))
      (closed : skipSpace after = ']' :: left) : ItemsStep rules fuel depth cs [v] left
  | more {v : Document} {vs : List Document} {after more left : List Char}
      (value : readValue rules fuel depth cs = .ok (v, after))
      (comma : skipSpace after = ',' :: more)
      (items : readItems rules fuel depth (skipSpace more) = .ok (vs, left)) :
      ItemsStep rules fuel depth cs (v :: vs) left

theorem readItems_step {cs left : List Char} {vs : List Document}
    (h : readItems rules (fuel + 1) depth cs = .ok (vs, left)) :
    ItemsStep rules fuel depth cs vs left := by
  unfold readItems at h
  obtain ⟨⟨v, afterValue⟩, hvalue, h⟩ := bind_eq_ok h
  dsimp only at h
  split at h
  · rename_i hclosed
    obtain ⟨rfl, rfl⟩ := Prod.mk.inj (Except.ok.inj h)
    exact .last hvalue hclosed
  · rename_i hcomma
    obtain ⟨⟨more, after⟩, hitems, h⟩ := bind_eq_ok h
    obtain ⟨rfl, rfl⟩ := Prod.mk.inj (Except.ok.inj h)
    exact .more hvalue hcomma hitems
  · cases h

/-- The ways in which members are read up to the end of their object. -/
inductive MembersStep (rules : Rules) (fuel depth : Nat) (cs : List Char) :
    List (WideText × Document) → List Char → Prop where
  | last {k : WideText} {v : Document} {afterName afterColon after left : List Char}
      (name : readName rules cs = .ok (k, afterName)) (colon : passColon afterName = .ok afterColon)
      (value : readValue rules fuel depth afterColon = .ok (v, after))
      (closed : skipSpace after = '\x7d' :: left) : MembersStep rules fuel depth cs [(k, v)] left
  | more {k : WideText} {v : Document} {ms : List (WideText × Document)}
      {afterName afterColon after more left : List Char}
      (name : readName rules cs = .ok (k, afterName)) (colon : passColon afterName = .ok afterColon)
      (value : readValue rules fuel depth afterColon = .ok (v, after))
      (comma : skipSpace after = ',' :: more)
      (members : readMembers rules fuel depth (skipSpace more) = .ok (ms, left)) :
      MembersStep rules fuel depth cs ((k, v) :: ms) left

theorem readMembers_step {cs left : List Char} {ms : List (WideText × Document)}
    (h : readMembers rules (fuel + 1) depth cs = .ok (ms, left)) :
    MembersStep rules fuel depth cs ms left := by
  unfold readMembers at h
  obtain ⟨⟨k, afterName⟩, hname, h⟩ := bind_eq_ok h
  obtain ⟨afterColon, hcolon, h⟩ := bind_eq_ok h
  obtain ⟨⟨v, afterValue⟩, hvalue, h⟩ := bind_eq_ok h
  dsimp only at h
  split at h
  · rename_i hclosed
    obtain ⟨rfl, rfl⟩ := Prod.mk.inj (Except.ok.inj h)
    exact .last hname hcolon hvalue hclosed
  · rename_i hcomma
    obtain ⟨⟨more, after⟩, hmembers, h⟩ := bind_eq_ok h
    obtain ⟨rfl, rfl⟩ := Prod.mk.inj (Except.ok.inj h)
    exact .more hname hcolon hvalue hcomma hmembers
  · cases h

/-! ## Behind an opening bracket -/

theorem readValue_arrEmpty {cs left : List Char} (hclosed : skipSpace cs = ']' :: left) :
    readValue rules (fuel + 1) (depth + 1) ('[' :: cs) = .ok (.arr [], left) := by
  rw [readValue]
  simp only [hclosed]
  rfl

theorem readValue_objEmpty {cs left : List Char} (hclosed : skipSpace cs = '\x7d' :: left) :
    readValue rules (fuel + 1) (depth + 1) ('\x7b' :: cs) = .ok (.obj [], left) := by
  rw [readValue]
  simp only [hclosed]
  rfl

theorem readValue_arr {cs : List Char} (hne : (skipSpace cs).head? ≠ some ']') :
    readValue rules (fuel + 1) (depth + 1) ('[' :: cs) =
      (readItems rules fuel depth (skipSpace cs)).map fun (vs, left) => (.arr vs, left) := by
  have henter : rules.enter? (depth + 1) ((skipSpace cs).head? = some ']') = some depth := rfl
  rw [readValue]
  dsimp only
  rw [henter]
  dsimp only
  split
  · rename_i left hbody
    exact absurd (by rw [hbody, List.head?_cons]) hne
  · rfl

theorem readValue_obj {cs : List Char} (hne : (skipSpace cs).head? ≠ some '\x7d') :
    readValue rules (fuel + 1) (depth + 1) ('\x7b' :: cs) =
      (readMembers rules fuel depth (skipSpace cs)).map fun (ms, left) =>
        (.obj (OrderedMap.ofEntries ms), left) := by
  have henter : rules.enter? (depth + 1) ((skipSpace cs).head? = some '\x7d') = some depth := rfl
  rw [readValue]
  dsimp only
  rw [henter]
  dsimp only
  split
  · rename_i left hbody
    exact absurd (by rw [hbody, List.head?_cons]) hne
  · rfl

end ReactScaffold.Json
