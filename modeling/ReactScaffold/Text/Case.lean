import ReactScaffold.Text.CaseTable

/-!
# Letter case

Upper case is taken character by character and may lengthen the text. Lower case depends on the
neighbours in one place: a capital sigma becomes the final form when a letter stands before it
and none after it, marks in between not counted.
-/

namespace ReactScaffold.Text

/-- The image of a code point under the first run that covers it. -/
def runImage? (runs : List CaseRun) (c : Nat) : Option Nat :=
  (runs.find? (·.covers c)).map fun r => ((c : Int) + r.delta).toNat

/-- The image of a character under a mapping given by its runs and its expansions. -/
def mapChar (runs : List CaseRun) (expansions : List (Nat × List Nat)) (c : Char) : List Char :=
  match expansions.lookup c.toNat with
  | some image => image.map Char.ofNat
  | none =>
    match runImage? runs c.toNat with
    | some image => [Char.ofNat image]
    | none => [c]

/-- The upper-case form of a character. -/
def upperChar (c : Char) : List Char := mapChar upperRuns upperExpansions c

/-- The lower-case form of a character that stands alone. -/
def lowerChar (c : Char) : List Char := mapChar lowerRuns lowerExpansions c

/-- Whether a letter with case comes first, characters without a bearing on case passed over. -/
def meetsLetter (cs : List Char) : Bool :=
  match cs.dropWhile fun c => inRanges caseIgnorableRanges c.toNat with
  | [] => false
  | c :: _ => inRanges casedRanges c.toNat

/-- The lower-case form of `rest` when the characters of `before`, the nearest first, precede it. -/
def lowerAfter (before : List Char) : List Char → List Char
  | [] => []
  | c :: rest =>
    let image :=
      if c = 'Σ' then
        [if meetsLetter before && !meetsLetter rest then 'ς' else 'σ']
      else
        lowerChar c
    image ++ lowerAfter (c :: before) rest

/-- The lower-case form of a text. -/
def lower (s : String) : String := String.ofList (lowerAfter [] s.toList)

end ReactScaffold.Text
