import ReactScaffold.Proofs.Text.Mentions

/-!
# Items of lists in source texts

A list or a table in a source text begins behind a cue, as in `plugins: [`. `itemsBehind` gives the
names of its items: what an item begins with, be it in quotes or not. The rest of an item goes up to
the next comma that stands in no further brackets.
-/

namespace ReactScaffold

/-- Where the reading of items is: before the list, with the characters that the cue is missing;
before an item; in the name of an item, in quotes or not; or behind the name, in so many further
brackets. -/
inductive ItemState where
  | outside (rest : List Char)
  | gap
  | quoted (mark : Char) (before : List Char)
  | word (before : List Char)
  | behind (depth : Nat)
deriving DecidableEq, Repr

/-- The characters that open a bracket. -/
def openings : List Char := ['(', '[', '\x7b']

/-- The characters that close a bracket. -/
def closings : List Char := [')', ']', '\x7d']

namespace ItemState

variable (cue : List Char)

/-- The state after a character before the list. -/
def seek (rest : List Char) (c : Char) : ItemState :=
  match rest with
  | d :: more =>
    if d = c then (if more.isEmpty then gap else outside more)
    else if cue.head? = some c then outside cue.tail
    else outside cue
  | [] => outside cue

/-- The state after a character before an item. -/
def begin (c : Char) : ItemState :=
  if c = '\'' || c = '"' then quoted c []
  else if closings.contains c then outside cue
  else if isWordChar c then word [c]
  else gap

/-- The state after a character behind the name of an item. -/
def pass (depth : Nat) (c : Char) : ItemState :=
  if openings.contains c then behind (depth + 1)
  else if closings.contains c then (if depth = 0 then outside cue else behind (depth - 1))
  else if c = ',' && depth = 0 then gap
  else behind depth

end ItemState

/-- The reader of the names of items in lists behind a cue. -/
def itemReader (cue : List Char) : Reader ItemState String where
  start := .outside cue
  step
    | .outside rest, c => ([], .seek cue rest c)
    | .gap, c => ([], .begin cue c)
    | .quoted mark before, c =>
      if c = mark then ([String.ofList before.reverse], .behind 0) else ([], .quoted mark (c :: before))
    | .word before, c =>
      if isWordChar c then ([], .word (c :: before))
      else ([String.ofList before.reverse], .pass cue 0 c)
    | .behind depth, c => ([], .pass cue depth c)
  calm := []

/-- The names of the items in lists behind a cue. -/
def itemsBehind (cue : List Char) (content : String) : List String :=
  (itemReader cue).read content.toList

example : itemsBehind ['i', 'n', ' ', '['] "run in [a(b, c), 'd.e': [f], g];" = ["a", "d.e", "g"] := by
  decide +kernel

end ReactScaffold
