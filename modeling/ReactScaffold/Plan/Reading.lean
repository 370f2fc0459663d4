import ReactScaffold.Plan.Basic
import ReactScaffold.Project.Choices
import ReactScaffold.Validation.Reading

/-!
# Plans from data

A plan is read from a list of objects. The member `kind` of each says which step it describes and
which other members it needs.
-/

namespace ReactScaffold

/-- Reads the items of a list, each at its place. -/
def readItems {α : Type} (path : List Locator) (read : List Locator → Json String → Checked α)
    (v : Json String) : Checked (List α) :=
  match v with
  | .arr items => .all (items.mapIdx fun i item => read (path ++ [.index i]) item)
  | _ => .fail path .notTuple

/-- Reads a package. -/
def Dependency.read (path : List Locator) (v : Json String) : Checked Dependency :=
  match v with
  | .obj members =>
    ((requiredMember members path "name" readText).map Dependency.mk).app
      (memberOr members path "dev" false readBool)
  | _ => .fail path (.notInstance "Dependency")

/-- Reads a mapping from texts to texts. -/
def readTextMap (path : List Locator) (v : Json String) : Checked (OrderedMap String String) :=
  match v with
  | .obj members =>
    .all (members.map fun m => (readText (path ++ [.field m.1]) m.2).map fun s => (m.1, s))
  | _ => .fail path .notMapping

/-- Reads the step that the word for its kind announces. -/
def Step.readAs? (tag : String) (members : List (String × Json String)) (path : List Locator) :
    Option (Checked Step) :=
  let path := path ++ [.field tag]
  let text (name : String) : Checked String := requiredMember members path name readText
  match tag with
  | "ensure_directory" => some ((text "path").map .ensureDirectory)
  | "install_dependencies" =>
    some <| ((requiredMember members path "manager" (readChoice PackageManager)).map
        .installDependencies)
      |>.app (requiredMember members path "packages" fun p => readItems p Dependency.read)
      |>.app (memberOr members path "description" "dependencies" readText)
  | "write_file" => some (((text "path").map .writeFile).app (text "content"))
  | "merge_manifest_scripts" =>
    some <| ((requiredMember members path "entries" readTextMap).map .mergeManifestScripts).app
      (memberOr members path "manifest" "package.json" readText)
  | _ => none

/-- Reads a step. -/
def Step.read (path : List Locator) (v : Json String) : Checked Step :=
  match v with
  | .obj members =>
    match OrderedMap.get? members "kind" with
    | none => .fail path .noTag
    | some tag =>
      let known := match tag with
        | .str s => Step.readAs? s members path
        | _ => none
      known.getD (.fail path (.unknownTag tag.display))
  | _ => .fail path .notTagged

/-- The plan that a list of objects describes. -/
def Plan.ofData (steps : Json String) : Except Invalid Plan :=
  ((readItems [.field "steps"] Step.read steps).map Plan.mk).get "GenerationPlan"

end ReactScaffold
