import ReactScaffold.Proofs.Text.Statements

/-!
# Style objects, classes and rules

Elements are styled by objects or by classes. The objects stand in a constant named `styles`, and
elements refer to its entries: `stylesOf` gives what a source text declares and what it refers to.
Classes stand in attributes, the values of which `classNamesOf` gives, and in tables of quoted
texts, which `tableTextsOf` gives; `classesIn` takes such a value apart. What a class looks like is
said by rules of a stylesheet, of which `selectorsOf` gives the selectors.
-/

namespace ReactScaffold

open Text

/-! ## Style objects -/

/-- What a source text says about the constant of style objects: that it is declared, what entries
it has, and where an entry is referred to. -/
inductive StyleMention where
  | constant
  | entry (name : String)
  | use (name : String)
deriving DecidableEq, Repr

/-- The words that the reading of style objects looks for. -/
inductive StyleWord where
  | const
  | styles
deriving DecidableEq, Repr

/-- The characters of a word. -/
def StyleWord.chars : StyleWord → List Char
  | const => ['c', 'o', 'n', 's', 't']
  | styles => ['s', 't', 'y', 'l', 'e', 's']

/-- Where the reading of style objects is: between words, or in a word with the rests of those that
it may still become, either of them behind the word `const` or not; behind `styles` and a dot; in
the name of a reference; or in the constant, that is before its entries, before an entry, in the
name of an entry, in its value, in so many further brackets, or in a quoted text of the value. -/
inductive StyleState where
  | gap (const : Bool)
  | word (const : Bool) (begun : List (StyleWord × List Char))
  | dot
  | reference (before : List Char)
  | head
  | item
  | entry (before : List Char)
  | value (depth : ℕ)
  | quoted (mark : Char) (depth : ℕ)
deriving DecidableEq, Repr

namespace StyleState

/-- The state after a character that does not go on with a word. -/
def between (const : Bool) (c : Char) : StyleState :=
  if isWordChar c then
    word const ([StyleWord.const, .styles].filterMap fun w => Phrases.advance? c (w, w.chars))
  else gap (const && isBlank c)

/-- The state after a character of the value of an entry. A value ends with a comma or with the
constant. -/
def inValue (depth : ℕ) (c : Char) : StyleState :=
  if c = '\'' || c = '"' then quoted c depth
  else if c = '\x7b' || c = '[' || c = '(' then value (depth + 1)
  else if c = '\x7d' || c = ']' || c = ')' then
    match depth with
    | 0 => gap false
    | further + 1 => value further
  else if c = ',' && depth = 0 then item
  else value depth

/-- What is found at a character that ends a word, and the state after it. -/
def endWord (const : Bool) (begun : List (StyleWord × List Char)) (c : Char) :
    List StyleMention × StyleState :=
  match begun.find? fun b => b.2.isEmpty with
  | some (.const, _) => ([], between true c)
  | some (.styles, _) =>
    if const then ([.constant], head) else ([], if c = '.' then dot else between false c)
  | none => ([], between false c)

end StyleState

/-- The reader of style objects. -/
def styleReader : Reader StyleState StyleMention where
  start := .gap false
  step
    | .gap const, c => ([], .between const c)
    | .word const begun, c =>
      if isWordChar c then ([], .word const (begun.filterMap (Phrases.advance? c)))
      else StyleState.endWord const begun c
    | .dot, c => ([], if isWordChar c then .reference [c] else .between false c)
    | .reference before, c =>
      if isWordChar c then ([], .reference (c :: before))
      else ([.use (String.ofList before.reverse)], .between false c)
    | .head, c => ([], if c = '\x7b' then .item else .head)
    | .item, c =>
      ([], if c = '\x7d' then .gap false else if isWordChar c then .entry [c] else .item)
    | .entry before, c =>
      if isWordChar c then ([], .entry (c :: before))
      else ([.entry (String.ofList before.reverse)], .inValue 0 c)
    | .value depth, c => ([], .inValue depth c)
    | .quoted mark depth, c => ([], if c = mark then .value depth else .quoted mark depth)
  calm := [.gap false, .word false []]

/-- What a source text says about the constant of style objects, in the order of the text. -/
def stylesOf (content : String) : List StyleMention := styleReader.read content.toList

example : stylesOf ("import './styles/a';\n" ++
    "const styles: R = \x7b b: \x7b c: '\x7d,' \x7d, d \x7d;\n" ++
    "const e = styles.b; const f = [styles.d, mystyles.g, styles. h, const];") =
    [.constant, .entry "b", .entry "d", .use "b", .use "d"] := by decide +kernel

/-- No word that the reading looks for begins like a title. -/
theorem StyleState.between_eq_word {c : Char} (hc : isWordChar c = true)
    (hlower : c.isLower = false) : between false c = word false [] := by
  have hconst : 'c' ≠ c := by rintro rfl; cases hlower
  have hstyles : 's' ≠ c := by rintro rfl; cases hlower
  rw [between, if_pos hc]
  simp [Phrases.advance?, StyleWord.chars, hconst, hstyles]

theorem passesTitles_styleReader : styleReader.PassesTitles := by
  have hword (c : Char) (hc : isWordChar c = true) :
      styleReader.step (.word false []) c = ([], .word false []) := by
    show (if isWordChar c then _ else _) = _
    rw [if_pos hc]
    rfl
  refine Reader.passesTitles_of_words (Reader.reads_titleWord (.word false []) (by decide)
    (fun st hst c hc hlower => ?_) hword) ?_
  · fin_cases hst
    · exact congrArg _ (StyleState.between_eq_word hc hlower)
    · exact hword c hc
  · unfold Reader.Reads
    decide

/-! ## Classes -/

/-- The classes in the value of an attribute. -/
def classesIn (value : String) : List (List Char) :=
  (value.toList.splitOnP isBlank).filter fun w => !w.isEmpty

example : classesIn " a b--c  d" = [['a'], ['b', '-', '-', 'c'], ['d']] := by decide +kernel

/-- A state before a value in which a part of the cue, or all of it, is missing. -/
def ClassState.Seeks (st : ClassState) : Prop := ∃ rest ∈ classCue.tails.take 11, st = outside rest

/-- A state in a value. -/
def ClassState.IsInside (st : ClassState) : Prop := ∃ before, st = inside before

theorem ClassState.seek_spec {rest : List Char} (h : rest ∈ classCue.tails.take 11) (c : Char) :
    (seek rest c).Seeks ∨ (seek rest c).IsInside := by
  have htail : classCue.tail ∈ classCue.tails.take 11 := by decide
  have hcue : classCue ∈ classCue.tails.take 11 := by decide
  cases rest with
  | nil => exact absurd h (by decide)
  | cons d more =>
    rw [seek]
    split_ifs with heq hempty hc
    · exact .inr ⟨[], rfl⟩
    · refine .inl ⟨more, ?_, rfl⟩
      fin_cases h
      all_goals first | decide | exact absurd rfl hempty
    · exact .inl ⟨_, htail, rfl⟩
    · exact .inl ⟨_, hcue, rfl⟩

theorem ClassState.step_inside {c : Char} (hc : c ≠ '"') (before : List Char) :
    classReader.step (inside before) c = ([], inside (c :: before)) := if_neg hc

theorem ClassState.run_spec {st : ClassState} (h : st.Seeks ∨ st.IsInside) (cs : List Char) :
    (classReader.run st cs).2.Seeks ∨ (classReader.run st cs).2.IsInside := by
  induction cs generalizing st with
  | nil => exact h
  | cons c cs ih =>
    refine ih ?_
    rcases h with ⟨rest, hrest, rfl⟩ | ⟨before, rfl⟩
    · exact seek_spec hrest c
    · by_cases hc : c = '"'
      · subst hc
        exact .inl ⟨classCue, by decide, rfl⟩
      · exact .inr ⟨c :: before, congrArg Prod.snd (step_inside hc before)⟩

/-- A value that has begun is found, or is left unfinished. -/
theorem ClassState.IsInside.run {st : ClassState} (h : st.IsInside) (cs : List Char) :
    (classReader.run st cs).1 ≠ [] ∨ (classReader.run st cs).2.IsInside := by
  induction cs generalizing st with
  | nil => exact .inr h
  | cons c cs ih =>
    obtain ⟨before, rfl⟩ := h
    rw [Reader.run_cons]
    by_cases hc : c = '"'
    · subst hc
      exact .inl (List.cons_ne_nil _ _)
    · rw [step_inside hc]
      exact ih ⟨_, rfl⟩

/-- Behind the cue a value begins. -/
theorem ClassState.Seeks.run_classCue {st : ClassState} (h : st.Seeks) :
    classReader.run st classCue = ([], inside []) := by
  obtain ⟨rest, hrest, rfl⟩ := h
  fin_cases hrest
  all_goals decide

/-- A text in which the reader finds no value, and is not left in one, does not contain the cue. -/
theorem not_classCue_isInfix {cs : List Char}
    (h : classReader.run classReader.start cs = ([], classReader.start)) : ¬classCue <:+: cs := by
  rintro ⟨as, bs, rfl⟩
  rw [List.append_assoc, Reader.run_append, Prod.mk.injEq, List.append_eq_nil_iff] at h
  obtain ⟨⟨-, hfound⟩, hlast⟩ := h
  have hstart : classReader.start.Seeks := ⟨classCue, by decide, rfl⟩
  have houtside : ¬classReader.start.IsInside := by
    rintro ⟨before, hbefore⟩
    cases hbefore
  -- Behind the cue the reader is in a value, whatever state it was in before.
  have hinside {st : ClassState} (hst : st.IsInside) (ds : List Char)
      (hnone : (classReader.run st ds).1 = []) : (classReader.run st ds).2.IsInside :=
    (hst.run ds).resolve_left (not_not.2 hnone)
  rcases ClassState.run_spec (.inl hstart) as with hseeks | hst
  · rw [Reader.run_append, hseeks.run_classCue] at hfound hlast
    exact houtside (hlast ▸ hinside ⟨[], rfl⟩ bs hfound)
  · exact houtside (hlast ▸ hinside hst _ hfound)

/-! ## Tables -/

/-- What comes before the name of a constant. -/
def constCue : List Char := ['c', 'o', 'n', 's', 't', ' ']

/-- What the tables of the button begin with. -/
def tableCues : List (List Char) := [
  constCue ++ ['b', 'a', 's', 'e'], constCue ++ ['v', 'a', 'r', 'i', 'a', 'n', 't', 's'],
  constCue ++ ['s', 'i', 'z', 'e', 's']]

/-- Where the reading of tables is: before a table, with the rests of the cues that have begun; in a
table, which goes up to a semicolon; or in a quoted text of the table. -/
inductive TableState where
  | outside (rests : List (List Char))
  | inside
  | quoted (mark : Char) (before : List Char)
deriving DecidableEq, Repr

/-- The state after a character before a table. -/
def TableState.seek (rests : List (List Char)) (c : Char) : TableState :=
  let next := advance (tableCues ++ rests) c
  if next.contains [] then inside else outside next

/-- The reader of the quoted texts in tables. -/
def tableReader : Reader TableState String where
  start := .outside []
  step
    | .outside rests, c => ([], .seek rests c)
    | .inside, c =>
      ([], if c = '\'' || c = '"' then .quoted c [] else if c = ';' then .outside [] else .inside)
    | .quoted mark before, c =>
      if c = mark then ([String.ofList before.reverse], .inside)
      else ([], .quoted mark (c :: before))
  calm := []

/-- The quoted texts in the tables of a source text, in their order. -/
def tableTextsOf (content : String) : List String := tableReader.read content.toList

example : tableTextsOf ("const base: string = 'a b';\nconst c = 'd';\n" ++
    "const sizes = \x7b\n  e: 'f;',\n  g: \"h\" \x7d;\nx('i');") = ["a b", "f;", "h"] := by
  decide +kernel

/-! ## Rules -/

/-- The selectors of the rule that has this before its block. A rule of another kind begins with
`@` and has none. -/
def selectorsIn (head : List Char) : List (List Char) :=
  if (stripBlank head).head? = some '@' then [] else (head.splitOn ',').map stripBlank

/-- Where the reading of rules is: before a block, with the characters read so far; in a block, in
so many further blocks; behind a slash, which may begin a comment; in a comment; or in a comment
behind a star. What is behind a comment goes on where the comment was met. -/
inductive RuleState where
  | outside (before : List Char)
  | block (depth : ℕ)
  | slash (met : RuleState)
  | comment (met : RuleState)
  | star (met : RuleState)
deriving DecidableEq, Repr

namespace RuleState

/-- What is found at a character that begins no comment, and the state after it. -/
def go : RuleState → Char → List (List Char) × RuleState
  | outside before, c =>
    if c = '\x7b' then (selectorsIn before.reverse, block 0)
    else if c = ';' || before.isEmpty && isBlank c then ([], outside [])
    else ([], outside (c :: before))
  | block depth, c =>
    ([], if c = '\x7b' then block (depth + 1)
      else if c = '\x7d' then
        match depth with
        | 0 => outside []
        | further + 1 => block further
      else block depth)
  | st, _ => ([], st)

/-- What is found at a character outside of comments, and the state after it. -/
def next (st : RuleState) (c : Char) : List (List Char) × RuleState :=
  if c = '/' then ([], slash st) else st.go c

end RuleState

/-- The reader of the selectors of rules. -/
def ruleReader : Reader RuleState (List Char) where
  start := .outside []
  step
    | .slash met, c => if c = '*' then ([], .comment met) else (met.go '/').2.next c
    | .comment met, c => ([], if c = '*' then .star met else .comment met)
    | .star met, c => ([], if c = '/' then met else if c = '*' then .star met else .comment met)
    | st, c => st.next c
  calm := []

/-- The selectors of the rules of a stylesheet, those of nested rules left out. -/
def selectorsOf (content : String) : List (List Char) := ruleReader.read content.toList

example : selectorsOf ("@a b; /* .c \x7b */ .d,\n.e \x7b f: g; \x7d\n" ++
    "@h \x7b .i \x7b j: k; \x7d \x7d .l:m/**/\x7b\x7d") =
    [['.', 'd'], ['.', 'e'], ['.', 'l', ':', 'm']] := by decide +kernel

end ReactScaffold
