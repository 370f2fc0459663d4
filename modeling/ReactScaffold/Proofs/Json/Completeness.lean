import ReactScaffold.Proofs.Json.ReadBack
import ReactScaffold.Proofs.Json.Soundness

/-!
# What is spelled is read

A text of the grammar is read as what it stands for, unless it goes beyond one of the two limits of
the reader; then it fails because of that limit and not because anything is missed. With
`parse_sound` this tells the texts that are read.
-/

namespace ReactScaffold.Json

open Decimal Text

/-! ## Strings -/

theorem escapedChar?_ne_u {e c : Char} (h : escapedChar? e = some c) : e ≠ 'u' := by
  rintro rfl
  cases h

theorem SpellsHalves.stringTail {body : List Char} {t : WideText} (h : SpellsHalves body t)
    (opened : Nat) (rest : List Char) :
    stringTail opened (body ++ '"' :: rest) = .ok (t, rest) := by
  induction h with
  | nil => rfl
  | @plain c cs t hcontrol hquote hescape _ ih =>
    rw [List.cons_append, Json.stringTail, if_neg (by omega), ih]
    · rfl
    · exact hquote
    · exact fun he => absurd he hescape
    · exact fun _ _ _ _ _ _ he => absurd he hescape
    · exact fun _ _ he => absurd he hescape
  | @escape e c cs t hletter _ ih =>
    have hne := escapedChar?_ne_u hletter
    rw [List.cons_append, List.cons_append, Json.stringTail, if_neg hne, hletter]
    · dsimp only
      rw [ih]
      rfl
    · exact fun _ _ _ _ _ _ he => absurd he hne
  | @number a b c d n cs t hdigits _ ih =>
    obtain ⟨next, more, hmore⟩ : ∃ next more, cs ++ '"' :: rest = next :: more :=
      List.exists_cons_of_ne_nil (by simp)
    simp only [List.cons_append]
    rw [hmore, Json.stringTail, hdigits]
    dsimp only
    rw [← hmore, ih]
    rfl

theorem SpellsString.start {lit : List Char} {t : WideText} (h : SpellsString lit t) :
    ∃ cs, lit = '"' :: cs := by
  cases h with
  | quoted inside => exact ⟨_, rfl⟩

theorem SpellsString.readString {cs : List Char} {t : WideText} (h : SpellsString ('"' :: cs) t)
    (rest : List Char) : readString .lenient (cs ++ rest) = .ok (t, rest) := by
  cases h with
  | @quoted body halves inside =>
    have htail := inside.stringTail ((body ++ ['"'] ++ rest).length + 1) rest
    rw [List.append_assoc] at htail ⊢
    rw [Json.readString]
    simp only [List.singleton_append] at htail ⊢
    rw [htail]
    rfl

theorem SpellsString.readName {lit : List Char} {t : WideText} (h : SpellsString lit t)
    (rest : List Char) : readName .lenient (lit ++ rest) = .ok (t, rest) := by
  obtain ⟨cs, rfl⟩ := h.start
  exact h.readString rest

/-! ## Numbers -/

theorem exponentSign_digits {digits : List Char} (hne : digits ≠ [])
    (hdigits : ∀ c ∈ digits, c.isDigit) (rest : List Char) :
    exponentSign (digits ++ rest) = (false, digits ++ rest) := by
  obtain ⟨d, ds, rfl⟩ := List.exists_cons_of_ne_nil hne
  have hminus := ne_of_isDigit (hdigits d List.mem_cons_self) (d := '-') rfl
  have hplus := ne_of_isDigit (hdigits d List.mem_cons_self) (d := '+') rfl
  rw [List.cons_append, exponentSign]
  · exact fun _ he => hminus (List.cons.inj he).1
  · exact fun _ he => hplus (List.cons.inj he).1

/-- The exponent is read behind its mark and its sign. -/
theorem exponentPart_of_sign {mark : Char} (hmark : mark = 'e' ∨ mark = 'E')
    {signed digits rest : List Char} {negative : Bool}
    (hsign : exponentSign signed = (negative, digits ++ rest)) (hne : digits ≠ [])
    (hdigits : ∀ c ∈ digits, c.isDigit) (hrest : NumberEnd rest) :
    exponentPart (mark :: signed) =
      (some (withSign negative (Nat.ofDigitChars 10 digits 0)), rest) := by
  have hspan := spanDigits_append hdigits hrest.no_digit
  rw [exponentPart_cons, if_pos hmark, hsign]
  dsimp only
  rw [hspan, if_neg (mt List.isEmpty_iff.1 hne)]
  rfl

theorem SpellsExponent.exponentPart {text : List Char} {exponent : Option Int}
    (h : SpellsExponent text exponent) {rest : List Char} (hrest : NumberEnd rest) :
    exponentPart (text ++ rest) = (exponent, rest) := by
  cases h with
  | missing => exact exponentPart_append none hrest
  | plain hmark hne hdigits =>
    exact exponentPart_of_sign hmark (exponentSign_digits hne hdigits rest) hne hdigits hrest
  | @plus mark digits hmark hne hdigits =>
    have hsign : exponentSign ('+' :: (digits ++ rest)) = (false, digits ++ rest) := rfl
    exact exponentPart_of_sign hmark hsign hne hdigits hrest
  | @minus mark digits hmark hne hdigits =>
    have hsign : exponentSign ('-' :: (digits ++ rest)) = (true, digits ++ rest) := rfl
    exact exponentPart_of_sign hmark hsign hne hdigits hrest

/-- An exponent does not begin like a fraction. -/
theorem SpellsExponent.no_fraction {text : List Char} {exponent : Option Int}
    (h : SpellsExponent text exponent) {rest : List Char} (hrest : NumberEnd rest) :
    (∀ c ∈ (text ++ rest).head?, c.isDigit = false) ∧ (text ++ rest).head? ≠ some '.' := by
  have hmark {mark : Char} (hmark : mark = 'e' ∨ mark = 'E') (cs : List Char) :
      (∀ c ∈ (mark :: cs).head?, c.isDigit = false) ∧ (mark :: cs).head? ≠ some '.' := by
    rcases hmark with rfl | rfl <;> simp
  cases h with
  | missing => exact ⟨hrest.no_digit, fun he => (hrest '.' he).2.1 rfl⟩
  | plain h _ _ => exact hmark h _
  | plus h _ _ => exact hmark h _
  | minus h _ _ => exact hmark h _

/-- A number is read from its parts. -/
theorem readScalar_of_spelled {x : Numeral} (hx : x.WellFormed) (negative : Bool)
    {exponent : List Char} (hspelled : SpellsExponent exponent x.exponent) {rest : List Char}
    (hrest : NumberEnd rest) :
    readScalar .lenient (signText negative ++
        (x.whole ++ (Numeral.fractionText x.fraction ++ (exponent ++ rest)))) =
      if x.fraction = [] ∧ x.exponent = none then
        if maxDigits < x.whole.length then .error (.tooManyDigits x.whole.length)
        else .ok (.int (withSign negative (Nat.ofDigitChars 10 x.whole 0)), rest)
      else .ok (.float (.ofDecimal negative x.digits x.scale), rest) := by
  obtain ⟨hno_digit, hno_point⟩ := hspelled.no_fraction hrest
  have hsign := splitSign_append negative (head?_ne_of_digit hx.whole_ne_nil hx.whole_digits
    (c := '-') rfl (Numeral.fractionText x.fraction ++ (exponent ++ rest)))
  have hafter : ∀ c ∈ (Numeral.fractionText x.fraction ++ (exponent ++ rest)).head?,
      c.isDigit = false := by
    unfold Numeral.fractionText
    split_ifs
    · exact hno_digit
    · simp
  have hwhole := wholePart_append hx hafter
  have hfraction := fractionPart_append hx.fraction_digits hno_digit fun _ => hno_point
  rw [readScalar_of_digit .lenient negative hx.whole_ne_nil hx.whole_digits,
    readNumber_of_parts hsign hwhole hfraction (hspelled.exponentPart hrest)]

/-! ## Values, arrays and objects -/

/-- A limit of the reader is passed. -/
def Flaw.IsLimit : Flaw → Prop
  | .miss _ _ => False
  | .tooManyDigits _ | .nestedTooDeeply _ => True

theorem Flaw.isLimit_iff {flaw : Flaw} :
    flaw.IsLimit ↔ ∀ expected left, flaw ≠ .miss expected left := by
  cases flaw with
  | miss expected left => exact ⟨False.elim, fun h => h expected left rfl⟩
  | tooManyDigits count => exact ⟨fun _ _ _ => Flaw.noConfusion, fun _ => trivial⟩
  | nestedTooDeeply container => exact ⟨fun _ _ _ => Flaw.noConfusion, fun _ => trivial⟩

/-- A result is given, unless the text is beyond a limit and the reader says so. -/
def Gives {α : Type} (beyond : Prop) (x : Except Flaw α) (a : α) : Prop :=
  x = .ok a ∨ beyond ∧ ∃ flaw : Flaw, flaw.IsLimit ∧ x = .error flaw

/-- What follows from a given result is given when it is given from there on. -/
theorem Gives.bind {α β : Type} {beyond : Prop} {x : Except Flaw α} {f : α → Except Flaw β} {a : α}
    {b : β} (h : Gives beyond x a) (hf : Gives beyond (f a) b) : Gives beyond (x >>= f) b := by
  rcases h with rfl | ⟨hbeyond, flaw, hlimit, rfl⟩
  · exact hf
  · exact .inr ⟨hbeyond, flaw, hlimit, rfl⟩

theorem Gives.map {α β : Type} {beyond : Prop} {x : Except Flaw α} {a : α}
    (h : Gives beyond x a) (f : α → β) : Gives beyond (x.map f) (f a) := by
  rcases h with rfl | ⟨hbeyond, flaw, hlimit, rfl⟩
  · exact .inl rfl
  · exact .inr ⟨hbeyond, flaw, hlimit, rfl⟩

variable {beyond : Prop} {fuel depth : Nat}

theorem gives_readItems_last {v : Document} {cs after left : List Char}
    (hv : Gives beyond (readValue .lenient fuel depth cs) (v, after))
    (hend : skipSpace after = ']' :: left) :
    Gives beyond (readItems .lenient (fuel + 1) depth cs) ([v], left) := by
  rw [readItems]
  refine hv.bind (.inl ?_)
  dsimp only
  rw [hend]
  rfl

theorem gives_readItems_more {v : Document} {vs : List Document} {cs after more left : List Char}
    (hv : Gives beyond (readValue .lenient fuel depth cs) (v, after))
    (hcomma : skipSpace after = ',' :: more)
    (hvs : Gives beyond (readItems .lenient fuel depth (skipSpace more)) (vs, left)) :
    Gives beyond (readItems .lenient (fuel + 1) depth cs) (v :: vs, left) := by
  rw [readItems]
  refine hv.bind ?_
  dsimp only
  rw [hcomma]
  exact hvs.bind (.inl rfl)

theorem gives_readMembers_last {k : WideText} {v : Document}
    {cs afterName afterColon after left : List Char}
    (hk : readName .lenient cs = .ok (k, afterName)) (hcolon : passColon afterName = .ok afterColon)
    (hv : Gives beyond (readValue .lenient fuel depth afterColon) (v, after))
    (hend : skipSpace after = '\x7d' :: left) :
    Gives beyond (readMembers .lenient (fuel + 1) depth cs) ([(k, v)], left) := by
  rw [readMembers, hk, ok_bind]
  dsimp only
  rw [hcolon, ok_bind]
  refine hv.bind (.inl ?_)
  dsimp only
  rw [hend]
  rfl

theorem gives_readMembers_more {k : WideText} {v : Document} {ms : List (WideText × Document)}
    {cs afterName afterColon after more left : List Char}
    (hk : readName .lenient cs = .ok (k, afterName)) (hcolon : passColon afterName = .ok afterColon)
    (hv : Gives beyond (readValue .lenient fuel depth afterColon) (v, after))
    (hcomma : skipSpace after = ',' :: more)
    (hms : Gives beyond (readMembers .lenient fuel depth (skipSpace more)) (ms, left)) :
    Gives beyond (readMembers .lenient (fuel + 1) depth cs) ((k, v) :: ms, left) := by
  rw [readMembers, hk, ok_bind]
  dsimp only
  rw [hcolon, ok_bind]
  refine hv.bind ?_
  dsimp only
  rw [hcomma]
  exact hms.bind (.inl rfl)

theorem skipSpace_append {a : List Char} (ha : Blank a) (cs : List Char) :
    skipSpace (a ++ cs) = skipSpace cs := by
  refine List.dropWhile_append_of_pos fun c hc => ?_
  rcases ha c hc with rfl | rfl | rfl | rfl <;> rfl

/-- No blank follows, and nothing that could belong to a number. -/
structure Closed (rest : List Char) : Prop where
  no_space : skipSpace rest = rest
  numberEnd : NumberEnd rest

theorem Closed.of_cons {c : Char} (hspace : isSpace c = false)
    (h : c.isDigit = false ∧ c ≠ '.' ∧ c ≠ 'e' ∧ c ≠ 'E') (cs : List Char) : Closed (c :: cs) :=
  ⟨skipSpace_cons hspace cs, numberEnd_cons h cs⟩

theorem Closed.nil : Closed [] := ⟨rfl, fun c hc => by cases hc⟩

theorem Closed.numberEnd_append {rest b : List Char} (h : Closed rest) (hb : Blank b) :
    NumberEnd (b ++ rest) := by
  cases b with
  | nil => exact h.numberEnd
  | cons c b =>
    refine numberEnd_cons ?_ (b ++ rest)
    rcases hb c List.mem_cons_self with rfl | rfl | rfl | rfl <;> decide

/-- A text begins with a character that begins a value. -/
def StartsValue (cs : List Char) : Prop := ∃ c ds, cs = c :: ds ∧ startsValue c

theorem StartsValue.append {cs : List Char} (h : StartsValue cs) (rest : List Char) :
    StartsValue (cs ++ rest) := by
  obtain ⟨c, ds, rfl, hc⟩ := h
  exact ⟨c, ds ++ rest, rfl, hc⟩

theorem StartsValue.no_space {cs : List Char} (h : StartsValue cs) : skipSpace cs = cs := by
  obtain ⟨c, ds, rfl, hc⟩ := h
  exact skipSpace_cons (isSpace_of_startsValue hc) ds

theorem StartsValue.head?_ne {cs : List Char} (h : StartsValue cs) {c : Char}
    (hc : startsValue c = false) : cs.head? ≠ some c := by
  obtain ⟨d, ds, rfl, hd⟩ := h
  simpa using ne_of_startsValue hd hc

/-- How the reader takes a part that is spelled by the given text. -/
def Takes (most depth : Nat) (lit : List Char) : Part → Prop
  | .value v => StartsValue lit ∧ ∀ {rest : List Char} {limit fuel : Nat}, NumberEnd rest →
      2 * lit.length ≤ fuel →
        Gives (maxDigits < most ∨ limit < depth)
          (readValue .lenient fuel limit (lit ++ rest)) (v, rest)
  | .padded v => ∀ {rest : List Char}, Closed rest → StartsValue (skipSpace (lit ++ rest)) ∧
      ∃ left, skipSpace left = rest ∧ ∀ {limit fuel : Nat}, 2 * lit.length ≤ fuel →
        Gives (maxDigits < most ∨ limit < depth)
          (readValue .lenient fuel limit (skipSpace (lit ++ rest))) (v, left)
  | .items vs => ∀ rest : List Char, StartsValue (skipSpace (lit ++ ']' :: rest)) ∧
      ∀ {limit fuel : Nat}, 2 * lit.length + 1 ≤ fuel →
        Gives (maxDigits < most ∨ limit < depth)
          (readItems .lenient fuel limit (skipSpace (lit ++ ']' :: rest))) (vs, rest)
  | .member k v => ∀ {rest : List Char}, Closed rest → StartsValue (skipSpace (lit ++ rest)) ∧
      ∃ afterName afterColon left,
        readName .lenient (skipSpace (lit ++ rest)) = .ok (k, afterName) ∧
        passColon afterName = .ok afterColon ∧ skipSpace left = rest ∧
        ∀ {limit fuel : Nat}, 2 * lit.length ≤ fuel →
          Gives (maxDigits < most ∨ limit < depth)
            (readValue .lenient fuel limit afterColon) (v, left)
  | .members ms => ∀ rest : List Char, StartsValue (skipSpace (lit ++ '\x7d' :: rest)) ∧
      ∀ {limit fuel : Nat}, 2 * lit.length + 1 ≤ fuel →
        Gives (maxDigits < most ∨ limit < depth)
          (readMembers .lenient fuel limit (skipSpace (lit ++ '\x7d' :: rest))) (ms, rest)

variable {most : Nat}

/-- A value whose text is read as such, whatever the limits. -/
theorem takes_of_read {v : Document} {lit : List Char} (hstart : StartsValue lit)
    (hread : ∀ {rest : List Char} {limit fuel : Nat}, NumberEnd rest →
      Gives (maxDigits < most ∨ limit < depth) (readValue .lenient (fuel + 1) limit (lit ++ rest))
        (v, rest)) : Takes most depth lit (.value v) := by
  refine ⟨hstart, fun {rest limit fuel} hrest hfuel => ?_⟩
  obtain ⟨c, ds, rfl, -⟩ := hstart
  obtain ⟨fuel, rfl⟩ := Nat.exists_eq_add_of_le' (show 1 ≤ fuel by simp at hfuel; omega)
  exact hread hrest

theorem startsValue_signText (negative : Bool) {digits : List Char} (hne : digits ≠ [])
    (hdigits : ∀ c ∈ digits, c.isDigit) (rest : List Char) :
    StartsValue (signText negative ++ (digits ++ rest)) := by
  obtain ⟨c, cs, hcs, hc⟩ := startsNumber_signText negative hne hdigits rest
  exact ⟨c, cs, hcs, startsValue_of_startsNumber hc⟩

/-- A number is read as a scalar. -/
theorem readValue_signText (limit : Nat) (negative : Bool) {digits : List Char}
    (hne : digits ≠ []) (hdigits : ∀ c ∈ digits, c.isDigit) (rest : List Char) :
    readValue .lenient (fuel + 1) limit (signText negative ++ (digits ++ rest)) =
      readScalar .lenient (signText negative ++ (digits ++ rest)) := by
  obtain ⟨c, cs, hcs, hc⟩ := startsNumber_signText negative hne hdigits rest
  rw [hcs]
  exact readValue_of_startsNumber .lenient fuel limit hc cs

theorem takes_int (negative : Bool) {digits : List Char}
    (hdigits : (Numeral.mk digits [] none).WellFormed) (hfits : digits.length ≤ most) :
    Takes most depth (signText negative ++ digits)
      (.value (.int (withSign negative (Nat.ofDigitChars 10 digits 0)))) := by
  have hstart := startsValue_signText negative hdigits.whole_ne_nil hdigits.whole_digits []
  rw [List.append_nil] at hstart
  refine takes_of_read hstart fun {rest limit fuel} hrest => ?_
  have hread := readScalar_of_spelled hdigits negative .missing hrest
  have hfraction : Numeral.fractionText [] = [] := if_pos rfl
  simp only [hfraction, List.nil_append, and_self, if_true] at hread
  rw [List.append_assoc, readValue_signText limit negative hdigits.whole_ne_nil
    hdigits.whole_digits, hread]
  split_ifs with hmany
  · exact .inr ⟨.inl (by omega), .tooManyDigits digits.length, trivial, rfl⟩
  · exact .inl rfl

theorem takes_float (negative : Bool) {x : Numeral} {exponent : List Char} (hx : x.WellFormed)
    (hbinary : x.IsBinary) (hspelled : SpellsExponent exponent x.exponent) :
    Takes most depth
      (signText negative ++ (x.whole ++ (Numeral.fractionText x.fraction ++ exponent)))
      (.value (.float (.ofDecimal negative x.digits x.scale))) := by
  refine takes_of_read (startsValue_signText negative hx.whole_ne_nil hx.whole_digits _)
    fun {rest limit fuel} hrest => .inl ?_
  rw [List.append_assoc, List.append_assoc, List.append_assoc,
    readValue_signText limit negative hx.whole_ne_nil hx.whole_digits,
    readScalar_of_spelled hx negative hspelled hrest, if_neg (not_and_or.2 hbinary)]

theorem takes_str {lit : List Char} {t : WideText} (hstring : SpellsString lit t) :
    Takes most depth lit (.value (.str t)) := by
  obtain ⟨cs, rfl⟩ := hstring.start
  refine takes_of_read ⟨'"', cs, rfl, rfl⟩ fun {rest limit fuel} _ => .inl ?_
  show (Json.readString .lenient (cs ++ rest)).map _ = _
  rw [hstring.readString rest]
  rfl

theorem Gives.imp {α : Type} {beyond' : Prop} {x : Except Flaw α} {a : α} (h : Gives beyond x a)
    (himp : beyond → beyond') : Gives beyond' x a :=
  Or.imp_right (And.imp_left himp) h

theorem enter?_zero (empty : Bool) : Rules.lenient.enter? 0 empty = none := by
  cases empty <;> rfl

theorem readValue_array_zero (cs : List Char) :
    readValue .lenient (fuel + 1) 0 ('[' :: cs) = .error (.nestedTooDeeply .array) := by
  rw [readValue]
  simp only [enter?_zero]

theorem readValue_object_zero (cs : List Char) :
    readValue .lenient (fuel + 1) 0 ('\x7b' :: cs) = .error (.nestedTooDeeply .object) := by
  rw [readValue]
  simp only [enter?_zero]

/-- Either there is no level left, and the reader says so, or one less is left inside. -/
theorem gives_nested {container : Container} {cs left : List Char} {v : Document}
    (hzero : readValue .lenient (fuel + 1) 0 cs = .error (.nestedTooDeeply container))
    (hinner : ∀ limit, Gives (maxDigits < most ∨ limit < depth)
      (readValue .lenient (fuel + 1) (limit + 1) cs) (v, left)) (limit : Nat) :
    Gives (maxDigits < most ∨ limit < depth + 1) (readValue .lenient (fuel + 1) limit cs)
      (v, left) := by
  cases limit with
  | zero => exact .inr ⟨.inr (Nat.succ_pos depth), .nestedTooDeeply container, trivial, hzero⟩
  | succ limit => exact (hinner limit).imp (Or.imp_right Nat.succ_lt_succ)

theorem takes_arrEmpty {a : List Char} (ha : Blank a) :
    Takes most (depth + 1) ('[' :: (a ++ [']'])) (.value (.arr [])) := by
  refine takes_of_read ⟨_, _, rfl, rfl⟩ fun {rest limit fuel} _ => ?_
  rw [List.cons_append]
  refine gives_nested (readValue_array_zero _) (fun limit => .inl ?_) limit
  refine readValue_arrEmpty ?_
  rw [List.append_assoc, skipSpace_append ha]
  exact skipSpace_cons rfl rest

theorem takes_objEmpty {a : List Char} (ha : Blank a) :
    Takes most (depth + 1) ('\x7b' :: (a ++ ['\x7d'])) (.value (.obj [])) := by
  refine takes_of_read ⟨_, _, rfl, rfl⟩ fun {rest limit fuel} _ => ?_
  rw [List.cons_append]
  refine gives_nested (readValue_object_zero _) (fun limit => .inl ?_) limit
  refine readValue_objEmpty ?_
  rw [List.append_assoc, skipSpace_append ha]
  exact skipSpace_cons rfl rest

theorem takes_arr {cs : List Char} {vs : List Document} (h : Takes most depth cs (.items vs)) :
    Takes most (depth + 1) ('[' :: (cs ++ [']'])) (.value (.arr vs)) := by
  refine ⟨⟨_, _, rfl, rfl⟩, fun {rest limit fuel} _ hfuel => ?_⟩
  obtain ⟨hstart, hitems⟩ := h rest
  obtain ⟨fuel, rfl⟩ := Nat.exists_eq_add_of_le' (show 1 ≤ fuel by simp at hfuel; omega)
  rw [List.cons_append, List.append_assoc, List.singleton_append]
  refine gives_nested (readValue_array_zero _) (fun limit => ?_) limit
  rw [readValue_arr (hstart.head?_ne rfl)]
  exact (hitems (by simp at hfuel; omega)).map _

theorem takes_obj {cs : List Char} {ms : List (WideText × Document)}
    {m : OrderedMap WideText Document} (h : Takes most depth cs (.members ms))
    (hm : OrderedMap.Collapses ms m) :
    Takes most (depth + 1) ('\x7b' :: (cs ++ ['\x7d'])) (.value (.obj m)) := by
  obtain rfl := OrderedMap.collapses_iff.1 hm
  refine ⟨⟨_, _, rfl, rfl⟩, fun {rest limit fuel} _ hfuel => ?_⟩
  obtain ⟨hstart, hmembers⟩ := h rest
  obtain ⟨fuel, rfl⟩ := Nat.exists_eq_add_of_le' (show 1 ≤ fuel by simp at hfuel; omega)
  rw [List.cons_append, List.append_assoc, List.singleton_append]
  refine gives_nested (readValue_object_zero _) (fun limit => ?_) limit
  rw [readValue_obj (hstart.head?_ne rfl)]
  exact (hmembers (by simp at hfuel; omega)).map _

theorem takes_padded {a cs b : List Char} {v : Document} (ha : Blank a)
    (h : Takes most depth cs (.value v)) (hb : Blank b) :
    Takes most depth (a ++ (cs ++ b)) (.padded v) := by
  obtain ⟨hstart, hread⟩ := h
  intro rest hrest
  have hskip : skipSpace (a ++ (cs ++ b) ++ rest) = cs ++ (b ++ rest) := by
    rw [List.append_assoc, skipSpace_append ha, List.append_assoc]
    exact (hstart.append _).no_space
  rw [hskip]
  refine ⟨hstart.append _, b ++ rest, ?_, fun {limit fuel} hfuel => ?_⟩
  · rw [skipSpace_append hb, hrest.no_space]
  · exact hread (hrest.numberEnd_append hb) (by simp at hfuel; omega)

theorem takes_lastItem {cs : List Char} {v : Document} (h : Takes most depth cs (.padded v)) :
    Takes most depth cs (.items [v]) := by
  intro rest
  obtain ⟨hstart, left, hleft, hread⟩ := h (.of_cons (c := ']') (by decide) (by decide) rest)
  refine ⟨hstart, fun {limit fuel} hfuel => ?_⟩
  obtain ⟨fuel, rfl⟩ := Nat.exists_eq_add_of_le' (show 1 ≤ fuel by omega)
  exact gives_readItems_last (hread (by omega)) hleft

theorem takes_moreItems {cs ds : List Char} {v : Document} {vs : List Document}
    (h : Takes most depth cs (.padded v)) (h' : Takes most depth ds (.items vs)) :
    Takes most depth (cs ++ ',' :: ds) (.items (v :: vs)) := by
  intro rest
  obtain ⟨hstart, left, hleft, hread⟩ :=
    h (.of_cons (c := ',') (by decide) (by decide) (ds ++ ']' :: rest))
  rw [List.append_assoc, List.cons_append]
  refine ⟨hstart, fun {limit fuel} hfuel => ?_⟩
  obtain ⟨fuel, rfl⟩ := Nat.exists_eq_add_of_le' (show 1 ≤ fuel by omega)
  rw [List.length_append, List.length_cons] at hfuel
  exact gives_readItems_more (hread (by omega)) hleft ((h' rest).2 (by omega))

theorem takes_member {a name b cs : List Char} {k : WideText} {v : Document} (ha : Blank a)
    (hname : SpellsString name k) (hb : Blank b) (h : Takes most depth cs (.padded v)) :
    Takes most depth (a ++ (name ++ (b ++ ':' :: cs))) (.member k v) := by
  intro rest hrest
  obtain ⟨-, left, hleft, hread⟩ := h hrest
  have hstart : StartsValue name := by
    obtain ⟨ds, rfl⟩ := hname.start
    exact ⟨'"', ds, rfl, rfl⟩
  have hskip : skipSpace (a ++ (name ++ (b ++ ':' :: cs)) ++ rest) =
      name ++ (b ++ ':' :: (cs ++ rest)) := by
    rw [List.append_assoc, skipSpace_append ha, List.append_assoc, List.append_assoc]
    exact (hstart.append _).no_space
  have hcolon : passColon (b ++ ':' :: (cs ++ rest)) = .ok (skipSpace (cs ++ rest)) := by
    rw [passColon, skipSpace_append hb, skipSpace_cons (by decide)]
    rfl
  rw [hskip]
  refine ⟨hstart.append _, _, _, left, hname.readName _, hcolon, hleft,
    fun {limit fuel} hfuel => hread ?_⟩
  simp at hfuel
  omega

theorem takes_lastMember {cs : List Char} {k : WideText} {v : Document}
    (h : Takes most depth cs (.member k v)) : Takes most depth cs (.members [(k, v)]) := by
  intro rest
  obtain ⟨hstart, afterName, afterColon, left, hname, hcolon, hleft, hread⟩ :=
    h (.of_cons (c := '\x7d') (by decide) (by decide) rest)
  refine ⟨hstart, fun {limit fuel} hfuel => ?_⟩
  obtain ⟨fuel, rfl⟩ := Nat.exists_eq_add_of_le' (show 1 ≤ fuel by omega)
  exact gives_readMembers_last hname hcolon (hread (by omega)) hleft

theorem takes_moreMembers {cs ds : List Char} {k : WideText} {v : Document}
    {ms : List (WideText × Document)} (h : Takes most depth cs (.member k v))
    (h' : Takes most depth ds (.members ms)) :
    Takes most depth (cs ++ ',' :: ds) (.members ((k, v) :: ms)) := by
  intro rest
  obtain ⟨hstart, afterName, afterColon, left, hname, hcolon, hleft, hread⟩ :=
    h (.of_cons (c := ',') (by decide) (by decide) (ds ++ '\x7d' :: rest))
  rw [List.append_assoc, List.cons_append]
  refine ⟨hstart, fun {limit fuel} hfuel => ?_⟩
  obtain ⟨fuel, rfl⟩ := Nat.exists_eq_add_of_le' (show 1 ≤ fuel by omega)
  rw [List.length_append, List.length_cons] at hfuel
  exact gives_readMembers_more hname hcolon (hread (by omega)) hleft ((h' rest).2 (by omega))

theorem Spells.takes {lit : List Char} {part : Part} (h : Spells most depth lit part) :
    Takes most depth lit part := by
  induction h with
  | null => exact takes_of_read ⟨_, _, rfl, rfl⟩ fun _ => .inl rfl
  | true => exact takes_of_read ⟨_, _, rfl, rfl⟩ fun _ => .inl rfl
  | false => exact takes_of_read ⟨_, _, rfl, rfl⟩ fun _ => .inl rfl
  | nan => exact takes_of_read ⟨_, _, rfl, rfl⟩ fun _ => .inl rfl
  | infinity negative =>
    cases negative with
    | true => exact takes_of_read ⟨_, _, rfl, rfl⟩ fun _ => .inl rfl
    | false => exact takes_of_read ⟨_, _, rfl, rfl⟩ fun _ => .inl rfl
  | int negative isWhole fits => exact takes_int negative isWhole fits
  | float negative wellFormed isBinary spelled =>
    exact takes_float negative wellFormed isBinary spelled
  | str string => exact takes_str string
  | arrEmpty blank => exact takes_arrEmpty blank
  | arr items ih => exact takes_arr ih
  | objEmpty blank => exact takes_objEmpty blank
  | obj members collapses ih => exact takes_obj ih collapses
  | padded before value after ih => exact takes_padded before ih after
  | lastItem value ih => exact takes_lastItem ih
  | moreItems value others ih ih' => exact takes_moreItems ih ih'
  | member before string after value ih => exact takes_member before string after ih
  | lastMember member ih => exact takes_lastMember ih
  | moreMembers member others ih ih' => exact takes_moreMembers ih ih'

/-- A text that is spelled is read, or goes beyond a limit of the reader. -/
theorem gives_parse {cs : List Char} {v : Document} (h : Spells most depth cs (.padded v)) :
    Gives (maxDigits < most ∨ Rules.lenient.maxNesting < depth) (parse cs) v := by
  obtain ⟨hstart, left, hleft, hread⟩ := h.takes .nil
  rw [List.append_nil] at hstart hread
  have hmark : cs.head? ≠ some '\uFEFF' := by
    rintro hhead
    obtain ⟨rest, rfl⟩ := List.head?_eq_some_iff.1 hhead
    rw [skipSpace_cons (by decide)] at hstart
    exact hstart.head?_ne rfl rfl
  unfold parse parseBy
  split
  · exact absurd rfl hmark
  · refine (hread (show 2 * cs.length ≤ fuelFor cs by simp [fuelFor])).bind (.inl ?_)
    dsimp only
    rw [hleft]
    rfl

/-- The texts that are read are those that are spelled within the limits of the reader. -/
theorem parse_eq_ok_iff {cs : List Char} {v : Document} :
    parse cs = .ok v ↔ Spells maxDigits Rules.lenient.maxNesting cs (.padded v) := by
  refine ⟨parse_sound, fun h => ?_⟩
  rcases gives_parse h with hok | ⟨hbeyond, -⟩
  · exact hok
  · exact absurd hbeyond (by simp)

end ReactScaffold.Json
