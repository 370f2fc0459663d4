/-!
# Blank characters

The characters that separate words: the blank, the line and column controls, the four
information separators and the space separators of the character database. The zero-width
space and the byte-order mark are not among them.
-/

namespace ReactScaffold.Text

/-- The closed ranges of code points that are blank. -/
def blankRanges : List (Nat × Nat) := [
  (0x09, 0x0D), (0x1C, 0x20), (0x85, 0x85), (0xA0, 0xA0), (0x1680, 0x1680), (0x2000, 0x200A),
  (0x2028, 0x2029), (0x202F, 0x202F), (0x205F, 0x205F), (0x3000, 0x3000)
]

/-- Whether the character is blank. -/
def isBlank (c : Char) : Bool :=
  blankRanges.any fun r => r.1 ≤ c.toNat && c.toNat ≤ r.2

/-- The characters without the blank ones at both ends. -/
def stripBlank (cs : List Char) : List Char :=
  ((cs.dropWhile isBlank).reverse.dropWhile isBlank).reverse

/-- The text without the blank characters at both ends. -/
def strip (s : String) : String := String.ofList (stripBlank s.toList)

end ReactScaffold.Text
