import ReactScaffold.Json.Parser
import ReactScaffold.Json.Printer
import Mathlib

/-!
# Written strings are read back

A written string without lone surrogate halves is read as the string itself, whatever follows its
closing quote.
-/

namespace ReactScaffold

namespace Text.WideText

theorem ofChars_injective {cs ds : List Char} (h : ofChars cs = ofChars ds) : cs = ds :=
  List.map_injective_iff.2 (fun _ _ => CodePoint.scalar.inj) h

theorem ofString_injective : Function.Injective ofString := fun _ _ h =>
  String.toList_injective (ofChars_injective h)

theorem ofChars_append (cs ds : List Char) : ofChars (cs ++ ds) = ofChars cs ++ ofChars ds :=
  List.map_append

/-- The parts of a text of characters are texts of characters. -/
theorem append_eq_ofChars {t u : WideText} {cs : List Char} (h : t ++ u = ofChars cs) :
    ∃ ds es, cs = ds ++ es ∧ t = ofChars ds ∧ u = ofChars es := by
  obtain ⟨ds, es, hcs, ht, hu⟩ := List.append_eq_map_iff.1 h
  exact ⟨ds, es, hcs, ht.symm, hu.symm⟩

/-- What stands in front of given characters in a text of characters. -/
theorem append_ofChars_eq {t : WideText} (ds : List Char) {cs : List Char}
    (h : t ++ ofChars ds = ofChars cs) : ∃ es, cs = es ++ ds ∧ t = ofChars es := by
  obtain ⟨es, ds', rfl, ht, hds⟩ := append_eq_ofChars h
  obtain rfl := ofChars_injective hds
  exact ⟨es, rfl, ht⟩

theorem cons_eq_ofChars {c : Char} {t : WideText} {cs : List Char}
    (h : .scalar c :: t = ofChars cs) : ∃ ds, cs = c :: ds ∧ t = ofChars ds := by
  cases cs with
  | nil => cases h
  | cons d ds =>
    obtain ⟨hhead, htail⟩ := List.cons.inj h
    exact ⟨ds, by rw [CodePoint.scalar.inj hhead], htail⟩

end Text.WideText

namespace Json

open Text

/-- The number of a control character is written with four digits, the first two being zeros. -/
theorem hexDigits_control {n : Nat} (h : n < 0x20) :
    ∃ a b, (hexDigits 4 n).toList = ['0', '0', a, b] ∧ hexNumber? '0' '0' a b = some n := by
  interval_cases n <;> exact ⟨_, _, rfl, rfl⟩

theorem codePoint_ofNat_toNat (c : Char) : CodePoint.ofNat c.toNat = .scalar c := by
  have hvalid : c.toNat < 0xD800 ∨ (0xDFFF < c.toNat ∧ c.toNat < 0x110000) := c.valid
  rw [CodePoint.ofNat, dif_neg (by omega), Char.ofNat_toNat]

/-- One written character is read as the character. -/
theorem stringTail_escapeChar (opened : Nat) (c next : Char) (rest : List Char) :
    stringTail opened (escapeChar c ++ next :: rest) =
      (stringTail opened (next :: rest)).map fun (tail, left) => (.scalar c :: tail, left) := by
  unfold escapeChar
  split_ifs with h1 h2 h3 h4 h5 h6 h7 hcontrol
  · subst h1
    rfl
  · subst h2
    rfl
  · subst h3
    rfl
  · subst h4
    rfl
  · subst h5
    rfl
  · subst h6
    rfl
  · subst h7
    rfl
  · obtain ⟨a, b, htext, hvalue⟩ := hexDigits_control hcontrol
    rw [htext]
    show stringTail opened ('\\' :: 'u' :: '0' :: '0' :: a :: b :: next :: rest) = _
    rw [stringTail, hvalue]
    simp only [codePoint_ofNat_toNat]
    rfl
  · rw [List.singleton_append, stringTail, if_neg hcontrol]
    · rfl
    all_goals simp_all

theorem stringTail_escape (opened : Nat) (cs rest : List Char) :
    stringTail opened (cs.flatMap escapeChar ++ '"' :: rest) = .ok (WideText.ofChars cs, rest) := by
  induction cs with
  | nil => rfl
  | cons c cs ih =>
      obtain ⟨next, more, hmore⟩ :
          ∃ next more, cs.flatMap escapeChar ++ '"' :: rest = next :: more :=
        List.exists_cons_of_ne_nil (by simp)
      rw [List.flatMap_cons, List.append_assoc, hmore, stringTail_escapeChar, ← hmore, ih]
      rfl

theorem joinHalves_ofChars (cs : List Char) :
    joinHalves (WideText.ofChars cs) = WideText.ofChars cs := by
  induction cs with
  | nil => rfl
  | cons c cs ih =>
      show joinHalves (.scalar c :: WideText.ofChars cs) = .scalar c :: WideText.ofChars cs
      rw [joinHalves, ih]
      intro h l more he
      cases he

/-- The rest of a written string is read as the string. -/
theorem readString_escape (rules : Rules) (cs rest : List Char) :
    readString rules (cs.flatMap escapeChar ++ '"' :: rest) =
      .ok (WideText.ofChars cs, rest) := by
  rw [readString, stringTail_escape]
  show (if _ then _ else _) = _
  rw [joinHalves_ofChars, WideText.chars?_ofChars, Option.isSome_some, Bool.or_true, if_pos rfl]
  rfl

/-- A written string that holds characters only is made of these characters. -/
theorem printString_eq_ofChars {t : WideText} {cs : List Char}
    (h : printString t = WideText.ofChars cs) :
    ∃ ds, t = WideText.ofChars ds ∧ cs = '"' :: (ds.flatMap escapeChar ++ ['"']) := by
  obtain ⟨body, rfl, hbody⟩ := WideText.cons_eq_ofChars h
  obtain ⟨inner, quote, rfl, hinner, hquote⟩ := WideText.append_eq_ofChars hbody
  obtain ⟨quoteTail, rfl, hnil⟩ := WideText.cons_eq_ofChars hquote
  obtain rfl : [] = quoteTail := WideText.ofChars_injective hnil
  clear h hbody hquote hnil
  suffices ∃ ds, t = WideText.ofChars ds ∧ inner = ds.flatMap escapeChar by
    obtain ⟨ds, rfl, rfl⟩ := this
    exact ⟨ds, rfl, rfl⟩
  induction t generalizing inner with
  | nil => exact ⟨[], rfl, WideText.ofChars_injective hinner.symm⟩
  | cons p t ih =>
      rw [List.flatMap_cons] at hinner
      obtain ⟨first, others, rfl, hfirst, hothers⟩ := WideText.append_eq_ofChars hinner
      obtain ⟨ds, rfl, rfl⟩ := ih others hothers
      cases p with
      | half n =>
          cases first with
          | nil => cases hfirst
          | cons c first => cases hfirst
      | scalar c =>
          obtain rfl : escapeChar c = first := WideText.ofChars_injective hfirst
          exact ⟨c :: ds, rfl, rfl⟩

end Json

end ReactScaffold
