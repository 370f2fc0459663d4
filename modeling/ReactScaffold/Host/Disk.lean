import ReactScaffold.Host.OsError
import ReactScaffold.Host.Path
import ReactScaffold.OrderedMap

/-!
# Disk

A disk says of each place whether there is a file or a directory. A place is the list of names
that lead to it from the root, and the root is a directory. Paths are followed part by part: each
part but the last must lead to a directory, and a double dot leads from a directory to the one
above.
-/

namespace ReactScaffold

/-- What is at a place. -/
inductive Inode where
  | file (content : List UInt8)
  | directory
deriving DecidableEq, Repr

/-- A place on a disk. -/
abbrev Place := List String

/-- The files and directories below the root. -/
structure Disk where
  inodes : OrderedMap Place Inode := []
deriving DecidableEq, Repr

/-- The most octets that a name may have. -/
def maxNameOctets : Nat := 255

/-- The most octets that a path may have. -/
def maxPathOctets : Nat := 4095

namespace Disk

/-- What is at a place, if anything. -/
def get? (d : Disk) (place : Place) : Option Inode :=
  if place = [] then some .directory else OrderedMap.get? d.inodes place

/-- Puts something at a place. -/
def set (d : Disk) (place : Place) (i : Inode) : Disk := ⟨OrderedMap.insert d.inodes place i⟩

theorem get?_set_self (d : Disk) {place : Place} (i : Inode) (h : place ≠ []) :
    (d.set place i).get? place = some i := by
  simp [get?, set, h]

theorem get?_set_of_ne (d : Disk) {place other : Place} (i : Inode) (h : place ≠ other) :
    (d.set place i).get? other = d.get? other := by
  simp only [get?, set, OrderedMap.get?_insert_of_ne _ _ h]

/-- Takes one part of a path from a place. -/
def step (d : Disk) (place : Place) (part : String) : Except Refusal Place :=
  match d.get? place with
  | none => .error .notFound
  | some (.file _) => .error .notDirectory
  | some .directory =>
    if part = ".." then .ok place.dropLast
    else if maxNameOctets < part.utf8ByteSize then .error .nameTooLong
    else .ok (place ++ [part])

/-- The place that a path leads to. There need not be anything. -/
def walk (d : Disk) (cwd : Place) (p : Path) : Except Refusal Place :=
  if maxPathOctets < p.text.utf8ByteSize then .error .nameTooLong
  else p.parts.foldlM d.step (if p.isAbsolute then [] else cwd)

/-- What a path leads to. -/
def find (d : Disk) (cwd : Place) (p : Path) : Except Refusal Inode := do
  match d.get? (← d.walk cwd p) with
  | some i => .ok i
  | none => .error .notFound

/-- Whether a path leads to a directory. -/
def isDirectory (d : Disk) (cwd : Place) (p : Path) : Bool :=
  match d.find cwd p with
  | .ok .directory => true
  | _ => false

/-- Whether a path leads to anything. That it cannot be followed is an answer only as long as its
names are no longer than names can be. -/
def contains (d : Disk) (cwd : Place) (p : Path) : Except Refusal Bool :=
  match d.find cwd p with
  | .ok _ => .ok true
  | .error .nameTooLong => .error .nameTooLong
  | .error _ => .ok false

/-- The content of the file that a path leads to. -/
def readFile (d : Disk) (cwd : Place) (p : Path) : Except Refusal (List UInt8) := do
  match ← d.find cwd p with
  | .file content => .ok content
  | .directory => .error .isDirectory

/-- Writes a file, in a directory that exists. -/
def writeFile (d : Disk) (cwd : Place) (p : Path) (content : List UInt8) : Except Refusal Disk := do
  let place ← d.walk cwd p
  match d.get? place with
  | some .directory => .error .isDirectory
  | _ => .ok (d.set place (.file content))

/-- Makes a directory where there is nothing, in a directory that exists. -/
def makeDirectory (d : Disk) (cwd : Place) (p : Path) : Except Refusal Disk := do
  let place ← d.walk cwd p
  match d.get? place with
  | some _ => .error .exists
  | none => .ok (d.set place .directory)

/-- Makes a directory, unless it is there. -/
def ensureLast (d : Disk) (cwd : Place) (p : Path) : Disk × Option OsError :=
  match d.makeDirectory cwd p with
  | .ok made => (made, none)
  | .error r =>
    if r ≠ .notFound ∧ d.isDirectory cwd p then (d, none) else (d, some (r.error p.text))

/-- Makes a directory and the missing ones above it, given the parts of the path in reverse order.
What was made before a failure stays. -/
def ensureReversed (d : Disk) (cwd : Place) (anchor : Anchor) (parts : List String) :
    Disk × Option OsError :=
  let p : Path := ⟨anchor, parts.reverse⟩
  match parts, d.makeDirectory cwd p with
  | _ :: above, .error .notFound =>
    match ensureReversed d cwd anchor above with
    | (d, none) => d.ensureLast cwd p
    | failed => failed
  | _, _ => d.ensureLast cwd p

/-- Makes a directory and the missing ones above it. A directory that is there is left alone. -/
def ensureDirectory (d : Disk) (cwd : Place) (p : Path) : Disk × Option OsError :=
  d.ensureReversed cwd p.anchor p.parts.reverse

end Disk

end ReactScaffold
