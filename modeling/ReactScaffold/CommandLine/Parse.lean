import ReactScaffold.CommandLine.Token

/-!
# Reading a command line

Options apply in order. Short options without a value may share one dash, and the last of them may
take the rest as its value. One operand names the project; what is left over is an error once
everything else has been read.
-/

namespace ReactScaffold

open Text

/-- Why a command line leads to no run. -/
inductive Stop where
  | help
  | misuse (e : UsageError)
deriving DecidableEq, Repr

/-- An option with its value. Options without a value, and two dashes in place of a value, have
none. -/
abbrev Use := Flag × Option String

/-- The options in one argument: those that are complete, and the last one if its value may follow
as an argument of its own. -/
structure Cluster where
  complete : List Use := []
  last : Option Flag := none
deriving DecidableEq, Repr

/-- The cluster with an option without value in front. -/
def Cluster.after (f : Flag) (c : Cluster) : Cluster :=
  { c with complete := (f, none) :: c.complete }

/-- Whether an option is spelled with two dashes. -/
def Flag.isLong (f : Flag) : Bool := ['-', '-'].isPrefixOf f.name.toList

/-- The value that is attached to an option. Two dashes are taken away. -/
def attachedValue (cs : List Char) : Option String :=
  if cs = ['-', '-'] then none else some (String.ofList cs)

/-- The options in an argument that starts with the given option and goes on with characters. They
are the value of the first option that takes one; before that, each is an option of one letter. -/
def cluster (f : Flag) (attached : List Char) : Except UsageError Cluster :=
  if f.effect.takesValue then .ok { complete := [(f, attachedValue attached)] }
  else
    let ignored : Except UsageError Cluster :=
      .error (.valueIgnored f.title (String.ofList attached))
    match attached with
    | [] => ignored
    | c :: rest =>
      if f.isLong then ignored
      else
        match Flag.ofName? (String.ofList ['-', c]), rest with
        | none, _ => ignored
        | some next, [] => .ok { complete := [(f, none)], last := some next }
        | some next, rest => (cluster next rest).map (Cluster.after f)

/-- The options in the argument that a token is. -/
def clusterOf (f : Flag) : Option (List Char) → Except UsageError Cluster
  | none => .ok { last := some f }
  | some attached => cluster f attached

/-- The answer that the value of an option with choices is. No value at all is an empty list. -/
def Flag.readChoice (f : Flag) (choices : List String) :
    Option String → Except Stop (Json String)
  | none => .ok (.arr [])
  | some value =>
    if choices.contains value then .ok (.str value)
    else .error (.misuse (.invalidChoice f.title value choices))

/-- The path that the value of an option is. -/
def PathArgument.ofValue : Option String → PathArgument
  | none => .dashes
  | some value => .path (Path.ofText value)

/-- The invocation after an option is applied with its value. -/
def Flag.apply (f : Flag) (i : Invocation) (value : Option String) : Except Stop Invocation :=
  match f.effect with
  | .showHelp => .error .help
  | .choose answer choices => do
    return { i with answers := OrderedMap.insert i.answers answer (← f.readChoice choices value) }
  | .switch answer on => .ok { i with answers := OrderedMap.insert i.answers answer (.bool on) }
  | .assumeDefaults => .ok { i with assumeDefaults := true }
  | .replayFrom => .ok { i with replayFrom := some (.ofValue value) }
  | .saveTo => .ok { i with saveTo := some (.ofValue value) }
  | .outputDir => .ok { i with outputDir := some (.ofValue value) }
  | .dryRun => .ok { i with dryRun := true }
  | .verbose => .ok { i with verbose := true }

/-- The invocation after several options are applied. -/
def applyAll (i : Invocation) (uses : List Use) : Except Stop Invocation :=
  uses.foldlM (fun i use => use.1.apply i use.2) i

/-- What has been read of a command line: the invocation so far, whether the place of the operand
is taken, and what is left over. -/
structure Reading where
  invocation : Invocation := {}
  operandRead : Bool := false
  leftOver : List String := []
deriving BEq, Repr

namespace Reading

/-- The reading after the operand is read. -/
def withOperand (r : Reading) (text : String) : Reading :=
  { r with
    invocation.answers := OrderedMap.insert r.invocation.answers "project_name" (.str text)
    operandRead := true }

/-- The reading with something more left over. -/
def leave (r : Reading) (text : String) : Reading := { r with leftOver := r.leftOver ++ [text] }

/-- The reading after the options of an argument are applied. -/
def apply (r : Reading) (uses : List Use) : Except Stop Reading := do
  return { r with invocation := ← applyAll r.invocation uses }

/-- Reads tokens. Two dashes next to the operand go with it. -/
def read (r : Reading) : List Token → Except Stop Reading
  | [] => .ok r
  | .unknown text :: rest => read (r.leave text) rest
  | .operand text :: rest =>
    if r.operandRead then read (r.leave text) rest
    else
      match rest with
      | .terminator :: rest => read (r.withOperand text) rest
      | rest => read (r.withOperand text) rest
  | .terminator :: rest =>
    if r.operandRead then read (r.leave "--") rest
    else
      match rest with
      | .operand text :: rest => read (r.withOperand text) rest
      | rest => read { r with operandRead := true } rest
  | .option f attached :: rest => do
    let c ← (clusterOf f attached).mapError .misuse
    match c.last with
    | none => read (← r.apply c.complete) rest
    | some last =>
      if last.effect.takesValue then
        match rest with
        | .operand text :: rest => read (← r.apply (c.complete ++ [(last, some text)])) rest
        | _ => .error (.misuse (.valueExpected last.title))
      else read (← r.apply (c.complete ++ [(last, none)])) rest

end Reading

/-- The invocation that a command line is. -/
def Invocation.parse (arguments : List String) : Except Stop Invocation := do
  let ts ← (tokens arguments).mapError .misuse
  let r ← ({} : Reading).read ts
  if r.leftOver.isEmpty then return r.invocation
  else .error (.misuse (.unrecognized r.leftOver))

end ReactScaffold
