import ReactScaffold.Proofs.Json.Limits
import ReactScaffold.Proofs.Json.Number
import ReactScaffold.Proofs.Json.Strings
import ReactScaffold.Proofs.Text.ReadBack

/-!
# The text of a document

How the text of a value begins, and how the text of an array or an object is put together from the
texts of its parts.
-/

namespace ReactScaffold.Json

open Decimal Text

/-! ## The first characters of written values -/

/-- Whether a written number may begin with the character. -/
def startsNumber (c : Char) : Bool := c.isDigit || c = '-' || c = 'N' || c = 'I'

/-- Whether a written value may begin with the character. -/
def startsValue (c : Char) : Bool :=
  startsNumber c || c = 'n' || c = 't' || c = 'f' || c = '"' || c = '[' || c = '\x7b'

theorem ne_of_startsNumber {c d : Char} (hc : startsNumber c) (hd : startsNumber d = false) :
    c ≠ d := by
  rintro rfl
  rw [hc] at hd
  cases hd

theorem startsValue_of_startsNumber {c : Char} (h : startsNumber c) : startsValue c := by
  simp [startsValue, h]

theorem ne_of_startsValue {c d : Char} (hc : startsValue c) (hd : startsValue d = false) :
    c ≠ d := by
  rintro rfl
  rw [hc] at hd
  cases hd

theorem isSpace_of_startsValue {c : Char} (h : startsValue c) : isSpace c = false := by
  have hblank := ne_of_startsValue h (d := ' ') rfl
  have htab := ne_of_startsValue h (d := '\t') rfl
  have hline := ne_of_startsValue h (d := '\n') rfl
  have hreturn := ne_of_startsValue h (d := '\r') rfl
  simp [isSpace, hblank, htab, hline, hreturn]

theorem startsNumber_signText (negative : Bool) {digits : List Char} (hne : digits ≠ [])
    (hdigits : ∀ c ∈ digits, c.isDigit) (rest : List Char) :
    ∃ c cs, signText negative ++ (digits ++ rest) = c :: cs ∧ startsNumber c := by
  obtain ⟨d, ds, rfl⟩ := List.exists_cons_of_ne_nil hne
  have hd : d.isDigit := hdigits d (by simp)
  cases negative with
  | true => exact ⟨'-', d :: ds ++ rest, rfl, rfl⟩
  | false => exact ⟨d, ds ++ rest, rfl, by simp [startsNumber, hd]⟩

theorem startsNumber_printInt (n : Int) : ∃ c cs, printInt n = c :: cs ∧ startsNumber c := by
  have hdigits : ∀ c ∈ Nat.toDigits 10 n.natAbs, c.isDigit := fun _ => isDigit_of_mem_digits
  have htext := printInt_append n []
  rw [List.append_nil] at htext
  rw [htext]
  exact startsNumber_signText _ Nat.toDigits_ne_nil hdigits []

theorem startsNumber_text {x : Binary64} (hx : x.Canonical) :
    ∃ c cs, (x.text floatNames).toList = c :: cs ∧ startsNumber c := by
  cases x with
  | nan => exact ⟨'N', ['a', 'N'], rfl, rfl⟩
  | infinite negative =>
      cases negative with
      | true => exact ⟨'-', "Infinity".toList, rfl, rfl⟩
      | false => exact ⟨'I', "nfinity".toList, rfl, rfl⟩
  | finite negative significand exponent =>
      obtain ⟨htext, hwell, -, -⟩ := finiteNumeral_writes negative hx
      show ∃ c cs, (Decimal.finiteText negative significand exponent).toList = c :: cs ∧ _
      rw [htext, Numeral.text, List.append_assoc]
      exact startsNumber_signText negative hwell.whole_ne_nil hwell.whole_digits _

theorem readValue_of_startsNumber (rules : Rules) (fuel depth : Nat) {c : Char}
    (hc : startsNumber c) (cs : List Char) :
    readValue rules (fuel + 1) depth (c :: cs) = readScalar rules (c :: cs) := by
  have hquote := ne_of_startsNumber hc (d := '"') rfl
  have hbrace := ne_of_startsNumber hc (d := '\x7b') rfl
  have hbracket := ne_of_startsNumber hc (d := '[') rfl
  unfold readValue
  split
  · exact absurd (List.cons.inj ‹_›).1 hquote
  · exact absurd (List.cons.inj ‹_›).1 hbrace
  · exact absurd (List.cons.inj ‹_›).1 hbracket
  · rfl

/-! ## Blanks between values -/

theorem skipSpace_cons {c : Char} (hc : isSpace c = false) (cs : List Char) :
    skipSpace (c :: cs) = c :: cs := by
  simp [skipSpace, hc]

/-- The characters of a line break. -/
def lineBreakText (level : Nat) : List Char := '\n' :: List.replicate (2 * level) ' '

theorem skipSpace_lineBreak (level : Nat) (cs : List Char) :
    skipSpace (lineBreakText level ++ cs) = skipSpace cs := by
  have hall : ∀ c ∈ lineBreakText level, isSpace c := by
    intro c hc
    rcases List.mem_cons.1 hc with rfl | hblank
    · rfl
    · rw [List.eq_of_mem_replicate hblank]
      rfl
  exact List.dropWhile_append_of_pos hall

theorem skipSpace_lineBreak_cons (level : Nat) {c : Char} (hc : isSpace c = false)
    (cs : List Char) : skipSpace (lineBreakText level ++ c :: cs) = c :: cs := by
  rw [skipSpace_lineBreak, skipSpace_cons hc]

theorem numberEnd_lineBreak (level : Nat) (cs : List Char) :
    NumberEnd (lineBreakText level ++ cs) := numberEnd_cons (by decide) _

/-! ## The parts of written arrays and objects -/

theorem array_text {level : Nat} {v : Document} {items : List Document} {cs : List Char}
    (h : print .indented level (arr (v :: items)) = WideText.ofChars cs) :
    ∃ first others, print .indented (level + 1) v = WideText.ofChars first ∧
      printItems .indented (level + 1) items = WideText.ofChars others ∧
      cs = '[' :: (lineBreakText (level + 1) ++ (first ++ (others ++
        (lineBreakText level ++ [']'])))) := by
  rw [print] at h
  obtain ⟨body₁, rfl, h₁⟩ := WideText.append_ofChars_eq [']'] h
  obtain ⟨body₂, rfl, h₂⟩ := WideText.append_ofChars_eq (lineBreakText level) h₁
  obtain ⟨body₃, others, rfl, h₃, hothers⟩ := WideText.append_eq_ofChars h₂
  obtain ⟨opened, first, rfl, h₄, hfirst⟩ := WideText.append_eq_ofChars h₃
  obtain rfl : '[' :: lineBreakText (level + 1) = opened := WideText.ofChars_injective h₄
  exact ⟨first, others, hfirst, hothers, by simp only [List.append_assoc, List.cons_append]⟩

theorem items_text {level : Nat} {v : Document} {items : List Document} {cs : List Char}
    (h : printItems .indented level (v :: items) = WideText.ofChars cs) :
    ∃ first others, print .indented level v = WideText.ofChars first ∧
      printItems .indented level items = WideText.ofChars others ∧
      cs = ',' :: (lineBreakText level ++ (first ++ others)) := by
  rw [printItems] at h
  obtain ⟨body, others, rfl, h₁, hothers⟩ := WideText.append_eq_ofChars h
  obtain ⟨opened, first, rfl, h₂, hfirst⟩ := WideText.append_eq_ofChars h₁
  obtain rfl : ',' :: lineBreakText level = opened := WideText.ofChars_injective h₂
  exact ⟨first, others, hfirst, hothers, by simp only [List.append_assoc, List.cons_append]⟩

/-- The written form of a member: its name in quotes, a colon, a blank and its value. -/
def memberText (name value : List Char) : List Char :=
  '"' :: (name.flatMap escapeChar ++ ('"' :: ':' :: ' ' :: value))

theorem member_text {level : Nat} {k : WideText} {v : Document} {opening : WideText}
    {cs : List Char}
    (h : opening ++ printString k ++ WideText.ofString ": " ++ print .indented level v =
      WideText.ofChars cs) :
    ∃ start name value, opening = WideText.ofChars start ∧ k = WideText.ofChars name ∧
      print .indented level v = WideText.ofChars value ∧ cs = start ++ memberText name value := by
  obtain ⟨body₁, value, rfl, h₁, hvalue⟩ := WideText.append_eq_ofChars h
  obtain ⟨body₂, rfl, h₂⟩ := WideText.append_ofChars_eq [':', ' '] h₁
  obtain ⟨start, quotedName, rfl, hstart, hname⟩ := WideText.append_eq_ofChars h₂
  obtain ⟨name, rfl, rfl⟩ := printString_eq_ofChars hname
  exact ⟨start, name, value, hstart, rfl, hvalue, by simp [memberText]⟩

theorem object_text {level : Nat} {k : WideText} {v : Document}
    {members : List (WideText × Document)} {cs : List Char}
    (h : print .indented level (obj ((k, v) :: members)) = WideText.ofChars cs) :
    ∃ name value others, k = WideText.ofChars name ∧
      print .indented (level + 1) v = WideText.ofChars value ∧
      printMembers .indented (level + 1) members = WideText.ofChars others ∧
      cs = '\x7b' :: (lineBreakText (level + 1) ++ (memberText name value ++ (others ++
        (lineBreakText level ++ ['\x7d'])))) := by
  rw [print] at h
  obtain ⟨body₁, rfl, h₁⟩ := WideText.append_ofChars_eq ['\x7d'] h
  obtain ⟨body₂, rfl, h₂⟩ := WideText.append_ofChars_eq (lineBreakText level) h₁
  obtain ⟨body₃, others, rfl, h₃, hothers⟩ := WideText.append_eq_ofChars h₂
  obtain ⟨opened, name, value, h₄, hname, hvalue, rfl⟩ := member_text h₃
  obtain rfl : '\x7b' :: lineBreakText (level + 1) = opened := WideText.ofChars_injective h₄
  exact ⟨name, value, others, hname, hvalue, hothers,
    by simp only [List.append_assoc, List.cons_append]⟩

theorem members_text {level : Nat} {k : WideText} {v : Document}
    {members : List (WideText × Document)} {cs : List Char}
    (h : printMembers .indented level ((k, v) :: members) = WideText.ofChars cs) :
    ∃ name value others, k = WideText.ofChars name ∧
      print .indented level v = WideText.ofChars value ∧
      printMembers .indented level members = WideText.ofChars others ∧
      cs = ',' :: (lineBreakText level ++ (memberText name value ++ others)) := by
  rw [printMembers] at h
  obtain ⟨body, others, rfl, h₁, hothers⟩ := WideText.append_eq_ofChars h
  obtain ⟨opened, name, value, h₂, hname, hvalue, rfl⟩ := member_text h₁
  obtain rfl : ',' :: lineBreakText level = opened := WideText.ofChars_injective h₂
  exact ⟨name, value, others, hname, hvalue, hothers,
    by simp only [List.append_assoc, List.cons_append]⟩

theorem print_start {depth level : Nat} {v : Document} (hv : Readable depth v) {cs : List Char}
    (h : print .indented level v = WideText.ofChars cs) :
    ∃ c ds, cs = c :: ds ∧ startsValue c := by
  have hnumber {text : List Char} (hstart : ∃ c ds, text = c :: ds ∧ startsNumber c)
      (he : WideText.ofChars text = WideText.ofChars cs) :
      ∃ c ds, cs = c :: ds ∧ startsValue c := by
    obtain rfl := WideText.ofChars_injective he
    obtain ⟨c, ds, rfl, hc⟩ := hstart
    exact ⟨c, ds, rfl, startsValue_of_startsNumber hc⟩
  cases hv with
  | null =>
      obtain rfl : ['n', 'u', 'l', 'l'] = cs := WideText.ofChars_injective h
      exact ⟨_, _, rfl, rfl⟩
  | @bool _ b =>
      cases b with
      | true =>
          obtain rfl : ['t', 'r', 'u', 'e'] = cs := WideText.ofChars_injective h
          exact ⟨_, _, rfl, rfl⟩
      | false =>
          obtain rfl : ['f', 'a', 'l', 's', 'e'] = cs := WideText.ofChars_injective h
          exact ⟨_, _, rfl, rfl⟩
  | int => exact hnumber (startsNumber_printInt _) h
  | float canonical => exact hnumber (startsNumber_text canonical) h
  | str =>
      obtain ⟨ds, -, rfl⟩ := printString_eq_ofChars h
      exact ⟨_, _, rfl, rfl⟩
  | @arr _ items =>
      cases items with
      | nil =>
          obtain rfl : ['[', ']'] = cs := WideText.ofChars_injective h
          exact ⟨_, _, rfl, rfl⟩
      | cons v items =>
          obtain ⟨first, others, -, -, rfl⟩ := array_text h
          exact ⟨_, _, rfl, rfl⟩
  | @obj _ members =>
      cases members with
      | nil =>
          obtain rfl : ['\x7b', '\x7d'] = cs := WideText.ofChars_injective h
          exact ⟨_, _, rfl, rfl⟩
      | cons m members =>
          obtain ⟨name, value, others, -, -, -, rfl⟩ := object_text h
          exact ⟨_, _, rfl, rfl⟩

end ReactScaffold.Json
