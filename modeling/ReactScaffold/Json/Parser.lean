import ReactScaffold.Json.Basic

/-!
# Reading data values

`parse` reads one value that takes up the whole text, blanks around it aside. Numbers that are not
finite are accepted by name. A failure states what was expected and how many characters were left
when it was missed. Two limits guard the reader: the digits of a whole number and the depth to
which arrays and objects are nested. `Rules` say where the limits apply and whether a string may
hold lone surrogate halves.
-/

namespace ReactScaffold.Json

open Decimal Text

/-- The most digits a whole number may have. -/
def maxDigits : Nat := 4300

/-- What a reader lets pass: how deep arrays and objects may be nested, whether those that are
empty count as a level, whether the limit on digits also holds for numbers with a fraction or an
exponent, and whether lone surrogate halves are accepted. -/
structure Rules where
  maxNesting : Nat
  emptyNests : Bool
  limitsFractions : Bool
  acceptsHalves : Bool
deriving DecidableEq, Repr

/-- The rules for data files in general. -/
def Rules.lenient : Rules where
  maxNesting := 980
  emptyNests := true
  limitsFractions := false
  acceptsHalves := true

/-- The rules for files that must hold plain text. -/
def Rules.strict : Rules where
  maxNesting := 200
  emptyNests := false
  limitsFractions := true
  acceptsHalves := false

/-- The levels that may be opened after an array or an object, out of those that may be opened
with it. -/
def Rules.enter? (r : Rules) (depth : Nat) (empty : Bool) : Option Nat :=
  match depth with
  | 0 => if empty && !r.emptyNests then some 0 else none
  | depth + 1 => some depth

/-- What a text lacks or has too much of at some place. -/
inductive Expected where
  | value
  | memberName
  | colon
  | comma
  | closingQuote
  | noControl
  | escape
  | unicodeEscape
  | textEnd
  | noByteOrderMark
deriving DecidableEq, Repr

/-- The words for a miss. -/
def Expected.words : Expected → String
  | .value => "Expecting value"
  | .memberName => "Expecting property name enclosed in double quotes"
  | .colon => "Expecting ':' delimiter"
  | .comma => "Expecting ',' delimiter"
  | .closingQuote => "Unterminated string starting at"
  | .noControl => "Invalid control character at"
  | .escape => "Invalid \\escape"
  | .unicodeEscape => "Invalid \\uXXXX escape"
  | .textEnd => "Extra data"
  | .noByteOrderMark => "Unexpected UTF-8 BOM (decode using utf-8-sig)"

/-- The two kinds of values that hold others. -/
inductive Container where
  | array
  | object
deriving DecidableEq, Repr

/-- Why a text is not read as a value: a miss with the characters left at that place, or a limit
that is passed. -/
inductive Flaw where
  | miss (expected : Expected) (left : Nat)
  | tooManyDigits (count : Nat)
  | nestedTooDeeply (container : Container)
deriving DecidableEq, Repr

/-- A place in a text: line and column from one, characters before it. -/
structure Place where
  line : Nat
  column : Nat
  offset : Nat
deriving DecidableEq, Repr

/-- The place before which the given characters stand. -/
def Place.after (read : List Char) : Place where
  line := read.count '\n' + 1
  column := (read.reverse.takeWhile (· ≠ '\n')).length + 1
  offset := read.length

/-- The description of a flaw of the text. -/
def Flaw.message (text : List Char) : Flaw → String
  | .miss expected left =>
    let p := Place.after (text.take (text.length - left))
    expected.words ++ ": line " ++ toString p.line ++ " column " ++ toString p.column ++
      " (char " ++ toString p.offset ++ ")"
  | .tooManyDigits count =>
    "Exceeds the limit (" ++ toString maxDigits ++
      " digits) for integer string conversion: value has " ++ toString count ++
      " digits; use sys.set_int_max_str_digits() to increase the limit"
  | .nestedTooDeeply container =>
    let kind := match container with
      | .array => "array"
      | .object => "object"
    "maximum recursion depth exceeded while decoding a JSON " ++ kind ++
      " from a unicode string"

/-- Whether the character may stand around values. -/
def isSpace (c : Char) : Bool := c = ' ' || c = '\t' || c = '\n' || c = '\r'

/-- The text after leading blanks. -/
def skipSpace (cs : List Char) : List Char := cs.dropWhile isSpace

/-- The value of a hexadecimal digit. -/
def hexValue? (c : Char) : Option Nat :=
  if '0' ≤ c ∧ c ≤ '9' then some (c.toNat - '0'.toNat)
  else if 'a' ≤ c ∧ c ≤ 'f' then some (c.toNat - 'a'.toNat + 10)
  else if 'A' ≤ c ∧ c ≤ 'F' then some (c.toNat - 'A'.toNat + 10)
  else none

/-- The number that four hexadecimal digits write. -/
def hexNumber? (a b c d : Char) : Option Nat := do
  return (← hexValue? a) * 0x1000 + (← hexValue? b) * 0x100 + (← hexValue? c) * 0x10
    + (← hexValue? d)

/-- The character that an escape of one letter stands for. -/
def escapedChar? (c : Char) : Option Char :=
  match c with
  | '"' => some '"'
  | '\\' => some '\\'
  | '/' => some '/'
  | 'b' => some '\x08'
  | 'f' => some '\x0c'
  | 'n' => some '\n'
  | 'r' => some '\r'
  | 't' => some '\t'
  | _ => none

/-- Reads the inside of a string up to its closing quote. `opened` counts the characters from the
opening quote on. An escape by number needs a character after its four digits. -/
def stringTail (opened : Nat) : List Char → Except Flaw (WideText × List Char)
  | [] => .error (.miss .closingQuote opened)
  | '"' :: rest => .ok ([], rest)
  | ['\\'] => .error (.miss .closingQuote opened)
  | '\\' :: 'u' :: a :: b :: c :: d :: next :: rest =>
    match hexNumber? a b c d with
    | none => .error (.miss .unicodeEscape (rest.length + 6))
    | some n => do
      let (tail, left) ← stringTail opened (next :: rest)
      return (CodePoint.ofNat n :: tail, left)
  | '\\' :: e :: rest =>
    if e = 'u' then .error (.miss .unicodeEscape (rest.length + 1))
    else
      match escapedChar? e with
      | none => .error (.miss .escape (rest.length + 2))
      | some c => do
        let (tail, left) ← stringTail opened rest
        return (.scalar c :: tail, left)
  | c :: rest =>
    if c.toNat < 0x20 then .error (.miss .noControl (rest.length + 1))
    else do
      let (tail, left) ← stringTail opened rest
      return (.scalar c :: tail, left)

/-- Joins each high surrogate half with a low one that follows it. -/
def joinHalves : WideText → WideText
  | .half h :: .half l :: rest =>
    if h.val < 0x400 ∧ 0x400 ≤ l.val then
      .scalar (Char.ofNat (0x10000 + h.val * 0x400 + (l.val - 0x400))) :: joinHalves rest
    else
      .half h :: joinHalves (.half l :: rest)
  | p :: rest => p :: joinHalves rest
  | [] => []

/-- Reads a string after its opening quote. -/
def readString (rules : Rules) (cs : List Char) : Except Flaw (WideText × List Char) := do
  let (t, left) ← stringTail (cs.length + 1) cs
  let t := joinHalves t
  if rules.acceptsHalves || (WideText.chars? t).isSome then return (t, left)
  else .error (.miss .unicodeEscape cs.length)

/-- Splits off the leading digits. -/
def spanDigits (cs : List Char) : List Char × List Char :=
  (cs.takeWhile Char.isDigit, cs.dropWhile Char.isDigit)

/-- The digits before the point of a number: a zero, or digits that do not start with one. -/
def wholePart (cs : List Char) : Option (List Char × List Char) :=
  match cs with
  | [] => none
  | c :: rest =>
    if c = '0' then some (['0'], rest)
    else if c.isDigit then some (spanDigits cs)
    else none

/-- The digits after the point, when a point and a digit follow. -/
def fractionPart (cs : List Char) : List Char × List Char :=
  match cs with
  | '.' :: rest => if (spanDigits rest).1.isEmpty then ([], cs) else spanDigits rest
  | _ => ([], cs)

/-- The exponent, when one is written with a digit. -/
def exponentPart (cs : List Char) : Option Int × List Char :=
  match cs with
  | [] => (none, cs)
  | e :: rest =>
    if e = 'e' ∨ e = 'E' then
      let (negative, unsigned) := match rest with
        | '-' :: r => (true, r)
        | '+' :: r => (false, r)
        | r => (false, r)
      let (digits, left) := spanDigits unsigned
      if digits.isEmpty then (none, cs)
      else
        let n : Int := Nat.ofDigitChars 10 digits 0
        (some (if negative then -n else n), left)
    else (none, cs)

/-- Whether a minus sign leads the text, and what follows it. -/
def splitSign (cs : List Char) : Bool × List Char :=
  match cs with
  | '-' :: r => (true, r)
  | r => (false, r)

/-- Reads a number. One without fraction and exponent is whole. -/
def readNumber (rules : Rules) (cs : List Char) : Except Flaw (Document × List Char) :=
  let (negative, unsigned) := splitSign cs
  match wholePart unsigned with
  | none => .error (.miss .value cs.length)
  | some (whole, afterWhole) =>
    let (fraction, afterFraction) := fractionPart afterWhole
    let (exponent, left) := exponentPart afterFraction
    let isWhole := fraction.isEmpty && exponent.isNone
    if (isWhole || rules.limitsFractions) && maxDigits < whole.length then
      .error (.tooManyDigits whole.length)
    else if isWhole then
      let n : Int := Nat.ofDigitChars 10 whole 0
      .ok (.int (if negative then -n else n), left)
    else
      let digits := Nat.ofDigitChars 10 (whole ++ fraction) 0
      .ok (.float (.ofDecimal negative digits (exponent.getD 0 - fraction.length)), left)

/-- Reads a value that is written by a name, or a number. -/
def readScalar (rules : Rules) (cs : List Char) : Except Flaw (Document × List Char) :=
  match cs with
  | 'n' :: 'u' :: 'l' :: 'l' :: rest => .ok (.null, rest)
  | 't' :: 'r' :: 'u' :: 'e' :: rest => .ok (.bool true, rest)
  | 'f' :: 'a' :: 'l' :: 's' :: 'e' :: rest => .ok (.bool false, rest)
  | 'N' :: 'a' :: 'N' :: rest => .ok (.float .nan, rest)
  | 'I' :: 'n' :: 'f' :: 'i' :: 'n' :: 'i' :: 't' :: 'y' :: rest =>
    .ok (.float (.infinite false), rest)
  | '-' :: 'I' :: 'n' :: 'f' :: 'i' :: 'n' :: 'i' :: 't' :: 'y' :: rest =>
    .ok (.float (.infinite true), rest)
  | _ => readNumber rules cs

/-- Reads a string where a member name is due. -/
def readName (rules : Rules) (cs : List Char) : Except Flaw (WideText × List Char) :=
  match cs with
  | '"' :: rest => readString rules rest
  | _ => .error (.miss .memberName cs.length)

/-- Passes the colon after a member name, and blanks around it. -/
def passColon (cs : List Char) : Except Flaw (List Char) :=
  match skipSpace cs with
  | ':' :: rest => .ok (skipSpace rest)
  | left => .error (.miss .colon left.length)

mutual

/-- Reads a value, given the levels that may still be opened. -/
def readValue (rules : Rules) (fuel depth : Nat) (cs : List Char) :
    Except Flaw (Document × List Char) :=
  match fuel with
  | 0 => .error (.miss .value cs.length)
  | fuel + 1 =>
    match cs with
    | '"' :: rest => (readString rules rest).map fun (t, left) => (.str t, left)
    | '\x7b' :: rest =>
      let body := skipSpace rest
      match rules.enter? depth (body.head? = some '\x7d') with
      | none => .error (.nestedTooDeeply .object)
      | some depth =>
        match body with
        | '\x7d' :: left => .ok (.obj [], left)
        | body =>
          (readMembers rules fuel depth body).map fun (ms, left) =>
            (.obj (OrderedMap.ofEntries ms), left)
    | '[' :: rest =>
      let body := skipSpace rest
      match rules.enter? depth (body.head? = some ']') with
      | none => .error (.nestedTooDeeply .array)
      | some depth =>
        match body with
        | ']' :: left => .ok (.arr [], left)
        | body => (readItems rules fuel depth body).map fun (vs, left) => (.arr vs, left)
    | _ => readScalar rules cs

/-- Reads the items of an array up to its end. -/
def readItems (rules : Rules) (fuel depth : Nat) (cs : List Char) :
    Except Flaw (List Document × List Char) :=
  match fuel with
  | 0 => .error (.miss .value cs.length)
  | fuel + 1 => do
    let (v, afterValue) ← readValue rules fuel depth cs
    match skipSpace afterValue with
    | ']' :: left => return ([v], left)
    | ',' :: more =>
      let (vs, left) ← readItems rules fuel depth (skipSpace more)
      return (v :: vs, left)
    | left => .error (.miss .comma left.length)

/-- Reads the members of an object up to its end. -/
def readMembers (rules : Rules) (fuel depth : Nat) (cs : List Char) :
    Except Flaw (List (WideText × Document) × List Char) :=
  match fuel with
  | 0 => .error (.miss .value cs.length)
  | fuel + 1 => do
    let (k, afterName) ← readName rules cs
    let (v, afterValue) ← readValue rules fuel depth (← passColon afterName)
    match skipSpace afterValue with
    | '\x7d' :: left => return ([(k, v)], left)
    | ',' :: more =>
      let (ms, left) ← readMembers rules fuel depth (skipSpace more)
      return ((k, v) :: ms, left)
    | left => .error (.miss .comma left.length)

end

/-- Enough steps for a text: each character is looked at by two of the readers at most. -/
def fuelFor (cs : List Char) : Nat := 2 * cs.length + 2

/-- Reads the value that a text consists of, by the given rules. -/
def parseBy (rules : Rules) (cs : List Char) : Except Flaw Document :=
  match cs with
  | '\uFEFF' :: _ => .error (.miss .noByteOrderMark cs.length)
  | _ => do
    let (v, afterValue) ← readValue rules (fuelFor cs) rules.maxNesting (skipSpace cs)
    match skipSpace afterValue with
    | [] => return v
    | left => .error (.miss .textEnd left.length)

/-- Reads the value that a text consists of. -/
def parse (cs : List Char) : Except Flaw Document := parseBy .lenient cs

end ReactScaffold.Json
