import ReactScaffold.Proofs.Text.Mentions

/-!
# Class names and import statements

What a source text does when it runs shows, among other things, in the class names that its elements
carry and in the modules that it loads. `classNamesOf` gives the values of attributes of the form
`className="..."`. `loadsOf` gives the modules of import statements; those that import types only
load nothing. A title contains neither.
-/

namespace ReactScaffold

open Text

/-! ## Class names -/

/-- What comes before the value of the attribute. -/
def classCue : List Char := ['c', 'l', 'a', 's', 's', 'N', 'a', 'm', 'e', '=', '"']

/-- Where the reading of class names is: before a value, with the characters that the cue is
missing, or in a value. -/
inductive ClassState where
  | outside (rest : List Char)
  | inside (before : List Char)
deriving DecidableEq, Repr

/-- The state after a character before a value. -/
def ClassState.seek (rest : List Char) (c : Char) : ClassState :=
  match rest with
  | d :: more =>
    if d = c then (if more.isEmpty then inside [] else outside more)
    -- The cue has no other character like its first, so a mismatch can only begin it anew.
    else if c = 'c' then outside classCue.tail
    else outside classCue
  | [] => outside classCue

/-- The reader of class names. -/
def classReader : Reader ClassState String where
  start := .outside classCue
  step
    | .outside rest, c => ([], .seek rest c)
    | .inside before, c =>
      if c = '"' then ([String.ofList before.reverse], .outside classCue)
      else ([], .inside (c :: before))
  calm := (classCue.tails.take 10).map .outside

/-- The class names in a source text, in their order. -/
def classNamesOf (content : String) : List String := classReader.read content.toList

example :
    classNamesOf "<a className=\"b c\"><d cclassName=\"\" class=\"e\" className=\x7bf\x7d />" =
      ["b c", ""] := by decide +kernel

/-! ## Import statements -/

/-- The word after which a statement imports types only. -/
def typeWord : List Char := ['t', 'y', 'p', 'e']

/-- Where the reading of import statements is: at the beginning of a line; in the word `import`; at
the beginning of what is imported, where the word `type` may stand; behind it; in the quoted name of
the module; or in what is left of a line. -/
inductive StatementState where
  | outset
  | keyword (rest : List Char)
  | modifier (rest : List Char)
  | clause
  | quoted (mark : Char) (before : List Char)
  | idle
deriving DecidableEq, Repr

namespace StatementState

/-- The state after a character at the beginning of a line. Stylesheets write `@import`. -/
def start (c : Char) : StatementState :=
  if isBlank c || c = '@' then outset
  else if c = 'i' then keyword ['m', 'p', 'o', 'r', 't']
  else idle

/-- The state after a character of a line in which nothing more is imported. -/
def leave (c : Char) : StatementState := if c = '\n' then outset else idle

/-- The state after a character in or behind the word `import`. -/
def spell (rest : List Char) (c : Char) : StatementState :=
  match rest with
  | d :: more => if c = d then keyword more else leave c
  | [] =>
    if c = '\'' || c = '"' then quoted c []
    else if isBlank c then modifier typeWord
    else leave c

/-- The state after a character where the word `type` may stand. -/
def qualify (rest : List Char) (c : Char) : StatementState :=
  if c = '\'' || c = '"' then quoted c []
  else
    match rest with
    | d :: more =>
      if c = d then modifier more
      else if isBlank c && rest = typeWord then modifier typeWord
      else clause
    | [] => if isBlank c then leave c else clause

end StatementState

/-- The reader of the modules that are loaded. -/
def statementReader : Reader StatementState String where
  start := .outset
  step
    | .outset, c => ([], .start c)
    | .keyword rest, c => ([], .spell rest c)
    | .modifier rest, c => ([], .qualify rest c)
    | .clause, c => ([], if c = '\'' || c = '"' then .quoted c [] else .clause)
    | .quoted mark before, c =>
      if c = mark then ([String.ofList before.reverse], .idle) else ([], .quoted mark (c :: before))
    | .idle, c => ([], .leave c)
  calm := [.outset, .idle]

/-- The modules of the import statements of a source text that do not import types only, in their
order. -/
def loadsOf (content : String) : List String := statementReader.read content.toList

example : loadsOf ("import a from 'b';\nimport type c from 'd';\n  import 'e';\n" ++
    "f(import('g'));\nimportant('h');\nimport typed, \x7b i,\n j \x7d from \"k\";\n@import \"l\";") =
    ["b", "e", "k", "l"] := by decide +kernel

/-! ## Titles -/

/-- The reader of class names and of the modules that are loaded. -/
def sourceReader : Reader (ClassState × StatementState) (String ⊕ String) :=
  classReader.both statementReader

theorem classNamesOf_eq (content : String) :
    classNamesOf content = (sourceReader.read content.toList).filterMap Sum.getLeft? :=
  (classReader.read_both statementReader content.toList).1.symm

theorem loadsOf_eq (content : String) :
    loadsOf content = (sourceReader.read content.toList).filterMap Sum.getRight? :=
  (classReader.read_both statementReader content.toList).2.symm

/-- Only the sign of equality leads out of the calm states. -/
theorem seek_mem_calm {rest : List Char} (hrest : rest ∈ classCue.tails.take 10) {c : Char}
    (hc : '=' ≠ c) : ClassState.seek rest c ∈ classReader.calm := by
  fin_cases hrest
  all_goals
    simp only [ClassState.seek, List.isEmpty_cons, Bool.false_eq_true, if_false]
    split_ifs
    all_goals first | decide | contradiction

theorem passesTitles_classReader : classReader.PassesTitles := by
  refine Reader.passesTitles_of_chars fun c hc st hst => ?_
  obtain ⟨rest, hrest, rfl⟩ := List.mem_map.1 hst
  have hequals : '=' ≠ c := by
    rintro rfl
    revert hc
    decide
  exact ⟨_, seek_mem_calm hrest hequals, rfl⟩

/-- No statement begins like a title. -/
theorem StatementState.start_eq_idle {c : Char} (hc : isWordChar c = true)
    (hlower : c.isLower = false) : start c = idle := by
  have hat : c ≠ '@' := by rintro rfl; cases hc
  have hcue : c ≠ 'i' := by rintro rfl; cases hlower
  simp [start, isBlank_of_isWordChar hc, hat, hcue]

theorem StatementState.leave_eq_idle {c : Char} (hc : isWordChar c = true) : leave c = idle := by
  rw [leave, if_neg]
  rintro rfl
  cases hc

theorem passesTitles_statementReader : statementReader.PassesTitles := by
  refine Reader.passesTitles_of_words (Reader.reads_titleWord .idle (by decide)
    (fun st hst c hc hlower => ?_) fun c hc => ?_) ?_
  · fin_cases hst
    · exact congrArg _ (StatementState.start_eq_idle hc hlower)
    · exact congrArg _ (StatementState.leave_eq_idle hc)
  · exact congrArg _ (StatementState.leave_eq_idle hc)
  · unfold Reader.Reads
    decide

/-- The title that is made of the name of a project names no class and loads nothing. -/
theorem passesTitles_sourceReader : sourceReader.PassesTitles :=
  passesTitles_classReader.both passesTitles_statementReader

end ReactScaffold
