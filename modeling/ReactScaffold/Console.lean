/-!
# What a run shows and records

Everything that a run shows is an event, in the order in which it is shown. Remarks are recorded
beside it; which of them are kept depends on the settings.
-/

namespace ReactScaffold

/-- Something that is shown. Texts may carry markup. -/
inductive Event where
  | out (text : String)
  | err (text : String)
  | prompt (text : String)
  | invalid (text : String)
  | rule (title style : String)
  | panel (title text : String)
  | table (title : String) (headers : List String) (rows : List (List String))
  | status (text : String)
deriving DecidableEq, Repr

/-- The part of the program that makes a remark. -/
inductive Topic where
  | answers
  | plan
  | baseProject
  | processes
  | steps
  | run
deriving DecidableEq, Repr

/-- How much a remark matters. -/
inductive Level where
  | debug
  | info
deriving DecidableEq, Repr

/-- A remark about the course of a run. -/
structure Remark where
  level : Level
  topic : Topic
  text : String
deriving DecidableEq, Repr

/-- A text in bold of the given colour. -/
def bold (color text : String) : String :=
  "[bold " ++ color ++ "]" ++ text ++ "[/bold " ++ color ++ "]"

/-- The report of a success. -/
def Event.success (text : String) : Event := .out (bold "green" text)

/-- The report of an error. -/
def Event.error (text : String) : Event := .err (bold "red" text)

/-- The report of something to be aware of. -/
def Event.warning (text : String) : Event := .out (bold "yellow" text)

/-- An empty line. -/
def Event.blank : Event := .out ""

/-- A heading with empty lines around it. -/
def headingEvents (title : String) : List Event :=
  [.blank, .rule (bold "bright_cyan" (" " ++ title ++ " ")) "bright_cyan", .blank]

end ReactScaffold
