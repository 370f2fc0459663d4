import ReactScaffold.Json.Literal
import ReactScaffold.Json.Printer

/-!
# The manifest of a package

A manifest is an object; its member `scripts` maps names to commands. Scripts are merged into it:
a name that is there keeps its place and takes the new command, other names are appended. Scripts
may also be given as a list of pairs, whose keys need not be texts.
-/

namespace ReactScaffold

open Decimal Text

/-- The members of a document that is an object. -/
abbrev Members := OrderedMap WideText Json.Document

/-- Why the scripts of a manifest are no mapping. -/
inductive ScriptsFault where
  | notIterable (kind : String)
  | notPair (index : Nat)
  | wrongLength (index length : Nat)
  | badKey (kind : String)
deriving DecidableEq, Repr

/-- The description of a fault. -/
def ScriptsFault.message : ScriptsFault → String
  | .notIterable kind => "'" ++ kind ++ "' object is not iterable"
  | .notPair index =>
    "cannot convert dictionary update sequence element #" ++ toString index ++ " to a sequence"
  | .wrongLength index length =>
    "dictionary update sequence element #" ++ toString index ++ " has length " ++
      toString length ++ "; 2 is required"
  | .badKey kind => "unhashable type: '" ++ kind ++ "'"

/-- What tells two keys apart: texts by their code points, numbers and truth values by their
number. -/
inductive Key where
  | null
  | int (n : Int)
  | float (x : Binary64)
  | text (t : WideText)
deriving DecidableEq, Repr

/-- The key that a value is, if it can be one. -/
def Key.ofDocument? : Json.Document → Option Key
  | .null => some .null
  | .bool b => some (.int (if b then 1 else 0))
  | .int n => some (.int n)
  | .float x =>
    match x.int? with
    | some n => some (.int n)
    | none => some (.float x)
  | .str t => some (.text t)
  | .arr _ | .obj _ => none

/-- The name under which a member with the given key is written. -/
def keyName : Json.Document → WideText
  | .str t => t
  | v => Json.inlineText v

/-- Scripts by key, each with the name that is written for its key. -/
abbrev KeyedScripts := OrderedMap Key (WideText × Json.Document)

/-- Sets the value of a key. The name stays that of the first occurrence. -/
def KeyedScripts.put (m : KeyedScripts) (k : Key) (name : WideText) (v : Json.Document) :
    KeyedScripts :=
  match OrderedMap.get? m k with
  | some (first, _) => OrderedMap.insert m k (first, v)
  | none => OrderedMap.insert m k (name, v)

/-- The items of a value that stands for a pair. -/
def pairItems? : Json.Document → Option (List Json.Document)
  | .arr items => some items
  | .str t => some (t.map fun p => .str [p])
  | .obj members => some (members.map fun m => .str m.1)
  | _ => none

/-- Adds pairs, the first of which has the given index. -/
def KeyedScripts.addPairs (m : KeyedScripts) (index : Nat) :
    List Json.Document → Except ScriptsFault KeyedScripts
  | [] => .ok m
  | v :: rest =>
    match pairItems? v with
    | none => .error (.notPair index)
    | some [k, value] =>
      match Key.ofDocument? k with
      | none => .error (.badKey k.kindName)
      | some key => addPairs (m.put key (keyName k) value) (index + 1) rest
    | some items => .error (.wrongLength index items.length)

/-- Whether a value counts as no scripts at all. -/
def isVacant : Json.Document → Bool
  | .null => true
  | .bool b => !b
  | .int n => n = 0
  | .float x => x.isZero
  | .str t => t.isEmpty
  | .arr items => items.isEmpty
  | .obj members => members.isEmpty

/-- The scripts after entries are merged into them. -/
def mergeScripts (scripts : Json.Document) (entries : Members) : Except ScriptsFault Members :=
  if isVacant scripts then .ok (OrderedMap.insertAll [] entries)
  else
    match scripts with
    | .obj members => .ok (OrderedMap.insertAll members entries)
    | .arr items => do
      let given ← KeyedScripts.addPairs [] 0 items
      let merged := entries.foldl (fun m e => KeyedScripts.put m (.text e.1) e.1 e.2) given
      return merged.map (·.2)
    | .str _ => .error (.wrongLength 0 1)
    | v => .error (.notIterable v.kindName)

/-- The name of the member that holds the scripts. -/
def scriptsName : WideText := WideText.ofString "scripts"

/-- Script entries as members. -/
def scriptMembers (entries : OrderedMap String String) : Members :=
  entries.map fun e => (WideText.ofString e.1, .str (WideText.ofString e.2))

/-- The manifest after script entries are merged into it. -/
def mergeIntoManifest (manifest : Members) (entries : OrderedMap String String) :
    Except ScriptsFault Members := do
  let scripts := (OrderedMap.get? manifest scriptsName).getD .null
  let merged ← mergeScripts scripts (scriptMembers entries)
  return OrderedMap.insert manifest scriptsName (.obj merged)

end ReactScaffold
