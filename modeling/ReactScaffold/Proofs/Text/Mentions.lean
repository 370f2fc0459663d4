import ReactScaffold.Proofs.Text.Phrases
import ReactScaffold.Proofs.Text.Titles

/-!
# What a source text mentions

A module is imported by a quoted name that follows `from`, `import` or `require`, with nothing but
blanks and opening parentheses in between. `importsOf` gives the names of such modules, in scripts
and in stylesheets alike. `directivesOf` gives what is written for Tailwind in stylesheets, wherever
it stands in the text. A title mentions nothing.
-/

namespace ReactScaffold

open Text

/-- Moves the rests that go on with the character past it. -/
def advance (rests : List (List Char)) (c : Char) : List (List Char) :=
  rests.filterMap fun
    | d :: rest => if d = c then some rest else none
    | [] => none

/-! ## Imports -/

/-- The words after which a quoted text names a module. -/
def importCues : List (List Char) :=
  [['f', 'r', 'o', 'm'], ['i', 'm', 'p', 'o', 'r', 't'], ['r', 'e', 'q', 'u', 'i', 'r', 'e']]

/-- Where the reading of imports is: between words, in a word with the rests of the cues that it may
still become, behind a cue, or in the quoted name of a module. -/
inductive ImportState where
  | gap
  | word (rests : List (List Char))
  | cue
  | quoted (mark : Char) (before : List Char)
deriving DecidableEq, Repr

namespace ImportState

/-- The state after a character that does not go on with a word. -/
def between (c : Char) : ImportState := if isWordChar c then word (advance importCues c) else gap

/-- The state after a character behind a cue. -/
def behindCue (c : Char) : ImportState :=
  if c = '\'' || c = '"' then quoted c []
  else if isBlank c || c = '(' then cue
  else between c

end ImportState

/-- The reader of imported modules. -/
def importReader : Reader ImportState String where
  start := .gap
  step
    | .gap, c => ([], .between c)
    | .word rests, c =>
      ([], if isWordChar c then .word (advance rests c)
        else if rests.contains [] then .behindCue c
        else .gap)
    | .cue, c => ([], .behindCue c)
    | .quoted mark before, c =>
      if c = mark then ([String.ofList before.reverse], .gap) else ([], .quoted mark (c :: before))
  calm := [.gap, .word []]

/-- The modules that a source text imports, in their order. -/
def importsOf (content : String) : List String := importReader.read content.toList

example : importsOf "import a, { b } from 'c';\nrequire (\"d\"); important('e'); @import 'f';" =
    ["c", "d", "f"] := by decide +kernel

/-! ## Directives -/

/-- What stylesheets write for Tailwind: its directives, those for its layers in particular, and
the import of its fourth version. -/
inductive Directive where
  | tailwind
  | base
  | components
  | utilities
  | apply
  | customVariant
  | importTailwind
deriving DecidableEq, Repr

namespace Directive

/-- All directives. -/
def all : List Directive :=
  [tailwind, base, components, utilities, apply, customVariant, importTailwind]

theorem mem_all (d : Directive) : d ∈ all := by
  cases d
  all_goals decide

/-- The characters of a directive behind the sign that it begins with. -/
def word : Directive → List Char
  | tailwind => ['t', 'a', 'i', 'l', 'w', 'i', 'n', 'd']
  | base => ['t', 'a', 'i', 'l', 'w', 'i', 'n', 'd', ' ', 'b', 'a', 's', 'e', ';']
  | components =>
    ['t', 'a', 'i', 'l', 'w', 'i', 'n', 'd', ' ', 'c', 'o', 'm', 'p', 'o', 'n', 'e', 'n', 't', 's',
      ';']
  | utilities =>
    ['t', 'a', 'i', 'l', 'w', 'i', 'n', 'd', ' ', 'u', 't', 'i', 'l', 'i', 't', 'i', 'e', 's', ';']
  | apply => ['a', 'p', 'p', 'l', 'y']
  | customVariant => ['c', 'u', 's', 't', 'o', 'm', '-', 'v', 'a', 'r', 'i', 'a', 'n', 't']
  | importTailwind =>
    ['i', 'm', 'p', 'o', 'r', 't', ' ', '"', 't', 'a', 'i', 'l', 'w', 'i', 'n', 'd', 'c', 's', 's',
      '"']

/-- The directives as phrases. -/
def phrases : Phrases Directive := ⟨'@', all, word⟩

/-- The written form of a directive. -/
def text (d : Directive) : String := phrases.text d

example : all.map text = ["@tailwind", "@tailwind base;", "@tailwind components;",
    "@tailwind utilities;", "@apply", "@custom-variant", "@import \"tailwindcss\""] := by decide

end Directive

/-- The directives in a text, in the order in which they end. -/
def directivesOf (content : String) : List Directive :=
  Directive.phrases.reader.read content.toList

/-- A directive is found in a text just if it is a part of the text. -/
theorem Directive.mem_directivesOf {d : Directive} {content : String} :
    d ∈ directivesOf content ↔ d.text.toList <:+: content.toList := Phrases.mem_read d.mem_all

/-! ## Titles -/

/-- The reader of modules and directives. -/
def mentionReader : Reader (ImportState × List (Directive × List Char)) (String ⊕ Directive) :=
  importReader.both Directive.phrases.reader

/-- A module is imported just if it is mentioned. -/
theorem mem_importsOf {content m : String} :
    m ∈ importsOf content ↔ .inl m ∈ mentionReader.read content.toList := by
  rw [importsOf, ← (importReader.read_both Directive.phrases.reader content.toList).1]
  simp [mentionReader]

/-- A directive is a part of a text just if it is mentioned. -/
theorem Directive.isInfix_iff {d : Directive} {content : String} :
    d.text.toList <:+: content.toList ↔ .inr d ∈ mentionReader.read content.toList := by
  rw [← mem_directivesOf, directivesOf,
    ← (importReader.read_both Directive.phrases.reader content.toList).2]
  simp [mentionReader]

/-- No cue begins like a title. -/
theorem advance_importCues {c : Char} (h : c.isLower = false) : advance importCues c = [] := by
  have hne (d : Char) (hd : d.isLower = true) : d ≠ c := by
    rintro rfl
    rw [h] at hd
    cases hd
  simp [advance, importCues, hne 'f' rfl, hne 'i' rfl, hne 'r' rfl]

theorem passesTitles_importReader : importReader.PassesTitles := by
  refine Reader.passesTitles_of_words (Reader.reads_titleWord (.word []) (by decide)
    (fun st hst c hc hlower => ?_) fun c hc => ?_) ?_
  · fin_cases hst
    · show (([] : List String), ImportState.between c) = _
      rw [ImportState.between, if_pos hc, advance_importCues hlower]
    · show (([] : List String), if isWordChar c then _ else _) = _
      rw [if_pos hc]
      rfl
  · show (([] : List String), if isWordChar c then _ else _) = _
    rw [if_pos hc]
    rfl
  · unfold Reader.Reads
    decide

theorem passesTitles_directives : Directive.phrases.reader.PassesTitles := by
  refine Reader.passesTitles_of_chars fun c hc st hst => ⟨[], List.mem_singleton_self _, ?_⟩
  obtain rfl := List.mem_singleton.1 hst
  have hat : c ≠ '@' := by
    rintro rfl
    revert hc
    decide
  exact Phrases.step_of_ne hat

/-- The title that is made of the name of a project mentions nothing. -/
theorem passesTitles_mentionReader : mentionReader.PassesTitles :=
  passesTitles_importReader.both passesTitles_directives

end ReactScaffold
