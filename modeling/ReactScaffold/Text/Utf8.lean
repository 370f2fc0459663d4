import ReactScaffold.Text.CodePoint
import ReactScaffold.Text.Quoted

/-!
# Text as octets

`encode` writes characters as octets. `scan` reads octets into characters and flaws, a flaw being
the longest start of a character that cannot be continued. Strict decoding stops at the first
flaw, lossy decoding puts a replacement character in its place.
-/

namespace ReactScaffold.Text.Utf8

/-- The octets of a character. -/
def encodeChar (c : Char) : List UInt8 :=
  let n := c.toNat
  if n < 0x80 then
    [UInt8.ofNat n]
  else if n < 0x800 then
    [UInt8.ofNat (0xC0 + n / 0x40), UInt8.ofNat (0x80 + n % 0x40)]
  else if n < 0x10000 then
    [UInt8.ofNat (0xE0 + n / 0x1000), UInt8.ofNat (0x80 + n / 0x40 % 0x40),
      UInt8.ofNat (0x80 + n % 0x40)]
  else
    [UInt8.ofNat (0xF0 + n / 0x40000), UInt8.ofNat (0x80 + n / 0x1000 % 0x40),
      UInt8.ofNat (0x80 + n / 0x40 % 0x40), UInt8.ofNat (0x80 + n % 0x40)]

/-- The octets of a text. -/
def encode (cs : List Char) : List UInt8 := cs.flatMap encodeChar

/-- Why octets are not the form of a character. -/
inductive Flaw where
  | invalidStart
  | invalidContinuation
  | unexpectedEnd
deriving DecidableEq, Repr

/-- The words for a flaw. -/
def Flaw.reason : Flaw → String
  | .invalidStart => "invalid start byte"
  | .invalidContinuation => "invalid continuation byte"
  | .unexpectedEnd => "unexpected end of data"

/-- A character, or a flaw that takes up the given octets. -/
inductive Piece where
  | char (c : Char)
  | flaw (f : Flaw) (octets : List UInt8)
deriving DecidableEq, Repr

/-- A character of which some octets have been read: how many are owed, the range of the next
one, the number so far and the octets read, the last one first. -/
structure Begun where
  owed : Nat
  low : Nat
  high : Nat
  bits : Nat
  octets : List UInt8
deriving DecidableEq, Repr

/-- What a first octet means: a character by itself, a character begun, or nothing. -/
def begin? (b : UInt8) : Option Begun :=
  let n := b.toNat
  if 0xC2 ≤ n && n ≤ 0xDF then some ⟨1, 0x80, 0xBF, n - 0xC0, [b]⟩
  else if n = 0xE0 then some ⟨2, 0xA0, 0xBF, 0, [b]⟩
  else if n = 0xED then some ⟨2, 0x80, 0x9F, 0xD, [b]⟩
  else if 0xE1 ≤ n && n ≤ 0xEF then some ⟨2, 0x80, 0xBF, n - 0xE0, [b]⟩
  else if n = 0xF0 then some ⟨3, 0x90, 0xBF, 0, [b]⟩
  else if 0xF1 ≤ n && n ≤ 0xF3 then some ⟨3, 0x80, 0xBF, n - 0xF0, [b]⟩
  else if n = 0xF4 then some ⟨3, 0x80, 0x8F, 4, [b]⟩
  else none

/-- Reads one octet where a character may start. -/
def first (b : UInt8) : List Piece × Option Begun :=
  if b.toNat < 0x80 then ([.char (Char.ofNat b.toNat)], none)
  else
    match begin? b with
    | some begun => ([], some begun)
    | none => ([.flaw .invalidStart [b]], none)

/-- Reads one octet inside a character. -/
def extend (p : Begun) (b : UInt8) : List Piece × Option Begun :=
  if p.low ≤ b.toNat && b.toNat ≤ p.high then
    let bits := p.bits * 0x40 + (b.toNat - 0x80)
    if p.owed ≤ 1 then ([.char (Char.ofNat bits)], none)
    else ([], some ⟨p.owed - 1, 0x80, 0xBF, bits, b :: p.octets⟩)
  else
    let (pieces, begun) := first b
    (.flaw .invalidContinuation p.octets.reverse :: pieces, begun)

/-- The pieces of a list of octets, of which `begun` have been read before. -/
def scan (begun : Option Begun) : List UInt8 → List Piece
  | [] =>
    match begun with
    | none => []
    | some p => [.flaw .unexpectedEnd p.octets.reverse]
  | b :: rest =>
    let (pieces, next) :=
      match begun with
      | none => first b
      | some p => extend p b
    pieces ++ scan next rest

/-- Octets that are no text: what is wrong, where it starts and which octets it takes up. -/
structure Undecodable where
  flaw : Flaw
  start : Nat
  octets : List UInt8
deriving DecidableEq, Repr

/-- The description of a decoding failure. -/
def Undecodable.message (e : Undecodable) : String :=
  let place :=
    match e.octets with
    | [b] => "byte 0x" ++ hexDigits 2 b.toNat ++ " in position " ++ toString e.start
    | _ =>
      "bytes in position " ++ toString e.start ++ "-" ++ toString (e.start + e.octets.length - 1)
  "'utf-8' codec can't decode " ++ place ++ ": " ++ e.flaw.reason

/-- The characters of pieces that start at the given octet, or the first flaw. -/
def strict (start : Nat) : List Piece → Except Undecodable (List Char)
  | [] => .ok []
  | .char c :: rest => (strict (start + (encodeChar c).length) rest).map (c :: ·)
  | .flaw f octets :: _ => .error ⟨f, start, octets⟩

/-- The text of octets that have no flaw. -/
def decode (octets : List UInt8) : Except Undecodable (List Char) := strict 0 (scan none octets)

/-- The character of a piece, a flaw replaced. -/
def Piece.lossy : Piece → Char
  | .char c => c
  | .flaw _ _ => '\uFFFD'

/-- The text of any octets, with a replacement character for each flaw. -/
def decodeLossy (octets : List UInt8) : List Char := (scan none octets).map Piece.lossy

/-- A text that has no octets: the first run of lone surrogate halves, and where it starts. -/
structure Unencodable where
  start : Nat
  halves : List (Fin 0x800)
deriving DecidableEq, Repr

/-- The description of an encoding failure. -/
def Unencodable.message (e : Unencodable) : String :=
  let place :=
    match e.halves with
    | [n] => "character '\\u" ++ hexDigits 4 (0xD800 + n) ++ "' in position " ++ toString e.start
    | _ =>
      "characters in position " ++ toString e.start ++ "-" ++
        toString (e.start + e.halves.length - 1)
  "'utf-8' codec can't encode " ++ place ++ ": surrogates not allowed"

/-- The surrogate halves that a text begins with. -/
def leadingHalves : WideText → List (Fin 0x800)
  | .half n :: rest => n :: leadingHalves rest
  | _ => []

/-- The octets of the text from the given position on. -/
def encodeWideFrom (start : Nat) : WideText → Except Unencodable (List UInt8)
  | [] => .ok []
  | .scalar c :: rest => (encodeWideFrom (start + 1) rest).map (encodeChar c ++ ·)
  | .half n :: rest => .error ⟨start, n :: leadingHalves rest⟩

/-- The octets of a text without lone surrogate halves. -/
def encodeWide (t : WideText) : Except Unencodable (List UInt8) := encodeWideFrom 0 t

end ReactScaffold.Text.Utf8
