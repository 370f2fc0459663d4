import ReactScaffold.Proofs.Dialogue.Query
import ReactScaffold.Proofs.Session.Exchange
import Mathlib

/-!
# The fields of a project

The answers of a project stand in twelve fields. Collecting them settles the fields one after the
other, and each field by the same rule: a value that is given is taken; otherwise the query of the
field is put if the field applies, or takes its default when nobody is there to be asked. A field
with a governor applies where the governor has been answered by one particular word. That the
collector does this is `collect_eq`.
-/

namespace ReactScaffold

open Text

/-- A field of a project. -/
inductive Field where
  | projectName
  | framework
  | router
  | language
  | packageManager
  | styling
  | tailwindVersion
  | stateManagement
  | icons
  | codeQuality
  | testing
  | apiClient
deriving DecidableEq, Repr

namespace Field

/-- The fields in the order in which they are settled. -/
def all : List Field :=
  [.projectName, .framework, .router, .language, .packageManager, .styling, .tailwindVersion,
    .stateManagement, .icons, .codeQuality, .testing, .apiClient]

/-- The name of the answer that stands in the field. -/
def name : Field → String
  | projectName => "project_name"
  | framework => "framework"
  | router => "router"
  | language => "language"
  | packageManager => "package_manager"
  | styling => "styling"
  | tailwindVersion => "tailwind_version"
  | stateManagement => "state_management"
  | icons => "icons"
  | codeQuality => "code_quality"
  | testing => "testing"
  | apiClient => "api_client"

/-- What is asked for the field. The package manager that is preferred is the default of its
query. -/
def query (preferred : PackageManager) : Field → Query
  | projectName => .name
  | framework => .ofAxis "Which framework?" Framework.reactVite
  | router => .ofAxis "Which Next.js router?" Router.app
  | language => .ofAxis "Which language?" Language.typescript
  | packageManager => .ofAxis "Which package manager?" preferred
  | styling => .ofAxis "Which styling solution?" Styling.tailwind
  | tailwindVersion => .ofAxis "Which Tailwind CSS version?" TailwindVersion.v3
  | stateManagement => .ofAxis "Which state management library?" StateManagement.none
  | icons => .ofAxis "Which icon library?" Icons.none
  | codeQuality => .switch "Set up ESLint, Prettier, Husky and Commitlint?"
  | testing => .switch "Set up Vitest and Testing Library?"
  | apiClient => .switch "Add an Axios API client?"

/-- The field that decides whether the field applies, and the word that it must be answered by. -/
def governor? : Field → Option (Field × String)
  | router => some (framework, Axis.value Framework.nextjs)
  | tailwindVersion => some (styling, Axis.value Styling.tailwind)
  | _ => none

theorem map_name_all : all.map name = Project.answerNames := rfl

end Field

/-- What stands in each field, as far as it is settled. -/
abbrev Values := Field → Option (Json String)

namespace Values

/-- No field is settled. -/
def empty : Values := fun _ => none

/-- The word that stands in a field. -/
def word? (values : Values) (field : Field) : Option String :=
  match values field with
  | some (.str word) => some word
  | _ => none

/-- The values of the fields as answers, in their order. -/
def toAnswers (values : Values) : Answers :=
  Field.all.filterMap fun field => (values field).map fun v => (field.name, v)

end Values

/-- Whether the field is asked for after these values. -/
def Field.applies (values : Values) (field : Field) : Bool :=
  field.governor?.all fun g => values.word? g.1 = some g.2

theorem Checked.get_map {α β : Type} (type : String) (f : α → β) (c : Checked α) :
    (c.map f).get type = (c.get type).map f := by
  obtain ⟨value?, issues⟩ := c
  cases value? <;> cases issues <;> rfl

theorem Field.name_injective : Function.Injective Field.name := by
  intro field other h
  cases field <;> cases other <;> first | rfl | exact absurd h (by decide)

/-! ## Values as answers -/

namespace Values

theorem mem_toAnswers {values : Values} {e : String × Json String} :
    e ∈ values.toAnswers ↔ ∃ field, values field = some e.2 ∧ field.name = e.1 := by
  have hall (field : Field) : field ∈ Field.all := by cases field <;> decide
  simp only [toAnswers, List.mem_filterMap, Option.map_eq_some_iff, Prod.ext_iff]
  exact ⟨fun ⟨field, _, v, hv, hname, hvalue⟩ => ⟨field, hvalue ▸ hv, hname⟩,
    fun ⟨field, hv, hname⟩ => ⟨field, hall field, e.2, hv, hname, rfl⟩⟩

theorem nodup_keys_toAnswers (values : Values) : (OrderedMap.keys values.toAnswers).Nodup := by
  rw [OrderedMap.keys, toAnswers, List.map_filterMap]
  refine List.Nodup.filterMap (fun f g name hf hg => Field.name_injective ?_) (by decide)
  simp only [Option.map_map, Option.mem_def, Option.map_eq_some_iff, Function.comp_apply] at hf hg
  obtain ⟨-, -, rfl⟩ := hf
  obtain ⟨-, -, hname⟩ := hg
  exact hname.symm

@[simp]
theorem get?_toAnswers (values : Values) (field : Field) :
    OrderedMap.get? values.toAnswers field.name = values field := by
  cases hvalue : values field with
  | some v =>
    have hmem : (field.name, v) ∈ values.toAnswers := mem_toAnswers.2 ⟨field, hvalue, rfl⟩
    exact OrderedMap.get?_of_mem values.nodup_keys_toAnswers hmem
  | none =>
    refine OrderedMap.get?_eq_none_iff.2 fun hkey => ?_
    obtain ⟨e, he, hname⟩ := List.mem_map.1 hkey
    obtain ⟨other, hother, heq⟩ := mem_toAnswers.1 he
    rw [← Field.name_injective (heq.trans hname), hother] at hvalue
    cases hvalue

variable {values : Values} {name : Json String} {framework : Framework} {router : Option Router}
  {language : Language} {packageManager : PackageManager} {styling : Styling}
  {tailwindVersion : Option TailwindVersion} {stateManagement : StateManagement} {icons : Icons}
  {codeQuality testing apiClient : Bool}

/-- Values that stand for choices and switches describe the project of these, under the name that
is read last. -/
theorem check_toAnswers (hname : values .projectName = some name)
    (hframework : values .framework = some (.str (Axis.value framework)))
    (hrouter : values .router = router.map fun a => .str (Axis.value a))
    (hlanguage : values .language = some (.str (Axis.value language)))
    (hmanager : values .packageManager = some (.str (Axis.value packageManager)))
    (hstyling : values .styling = some (.str (Axis.value styling)))
    (hversion : values .tailwindVersion = tailwindVersion.map fun a => .str (Axis.value a))
    (hstate : values .stateManagement = some (.str (Axis.value stateManagement)))
    (hicons : values .icons = some (.str (Axis.value icons)))
    (hquality : values .codeQuality = some (.bool codeQuality))
    (htesting : values .testing = some (.bool testing))
    (hclient : values .apiClient = some (.bool apiClient)) :
    Project.check values.toAnswers = (readName [.field "project_name"] name).map fun name =>
      { name, framework, router, language, packageManager, styling, tailwindVersion,
        stateManagement, icons, codeQuality, testing, apiClient } := by
  have hget {field : Field} {v? : Option (Json String)} (h : values field = v?) (key : String)
      (hkey : field.name = key) : OrderedMap.get? values.toAnswers key = v? := by
    rw [← hkey, values.get?_toAnswers, h]
  have hoptional {α : Type} [Axis α] [LawfulAxis α] {field : Field} {a? : Option α}
      (h : values field = a?.map fun a => .str (Axis.value a)) (key : String)
      (hkey : field.name = key) :
      memberOr values.toAnswers [] key none (readOptional α) = .pass a? := by
    cases a? with
    | none => rw [memberOr, hget h key hkey, Option.map_none]
    | some a => exact memberOr_optional (hget h key hkey)
  simp only [Project.check, requiredMember_of_get? (hget hname "project_name" rfl),
    memberOr_choice (hget hframework "framework" rfl), hoptional hrouter "router" rfl,
    memberOr_choice (hget hlanguage "language" rfl),
    memberOr_choice (hget hmanager "package_manager" rfl),
    memberOr_choice (hget hstyling "styling" rfl), hoptional hversion "tailwind_version" rfl,
    memberOr_choice (hget hstate "state_management" rfl),
    memberOr_choice (hget hicons "icons" rfl), memberOr_switch (hget hquality "code_quality" rfl),
    memberOr_switch (hget htesting "testing" rfl), memberOr_switch (hget hclient "api_client" rfl),
    Checked.app_pass, Checked.map_map]

end Values

namespace Collector

/-- What comes to stand in a field after these values. -/
def settle (c : Collector) (answers : Answers) (values : Values) (field : Field) :
    Action Session (Option (Json String)) :=
  match answers.given? field.name with
  | some v => some <$> Action.ofExcept id ((field.query c.packageManager).take v)
  | none =>
    if field.applies values then
      if c.interactive then some <$> (field.query c.packageManager).question.ask
      else some <$> Action.ofExcept id (field.query c.packageManager).unattended
    else pure none

/-- The values after some fields are settled, one after the other. -/
def settleAll (c : Collector) (answers : Answers) : List Field → Values → Action Session Values
  | [], values => pure values
  | field :: fields, values => do
    let v? ← c.settle answers values field
    c.settleAll answers fields (Function.update values field v?)

/-- The project that the values describe, with the remark that is made about it. -/
def finish (values : Values) : Action Session Project := do
  let p ← Action.ofExcept (fun e => .fault (.invalid e)) (Project.ofAnswers values.toAnswers)
  Session.remark .debug .answers ("Collected configuration: " ++ (Json.obj p.toAnswers).literal)
  return p

theorem perform_finish (values : Values) (s : Session) :
    (finish values).perform s =
      ((Project.ofAnswers values.toAnswers).mapError fun e => .fault (.invalid e),
        { s with remarks := s.remarks ++
            (Project.ofAnswers values.toAnswers).toOption.toList.map Project.collected }) := by
  rw [finish, Action.perform_bind, Action.perform_ofExcept]
  cases Project.ofAnswers values.toAnswers with
  | ok p => rfl
  | error e => simp [Except.mapError, Except.toOption]

section Settle

variable {c : Collector} {answers : Answers} {values : Values} {field : Field} {text : String}

theorem settle_of_given {v : Json String} (h : answers.given? field.name = some v) :
    c.settle answers values field =
      some <$> Action.ofExcept id ((field.query c.packageManager).take v) := by
  rw [settle, h]

theorem settle_of_not_applies (h : answers.given? field.name = none)
    (happlies : field.applies values = false) : c.settle answers values field = pure none := by
  simp [settle, h, happlies]

theorem settle_of_applies (h : answers.given? field.name = none)
    (happlies : field.applies values = true) :
    c.settle answers values field =
      if c.interactive then some <$> (field.query c.packageManager).question.ask
      else some <$> Action.ofExcept id (field.query c.packageManager).unattended := by
  simp [settle, h, happlies]

theorem settle_choice {α : Type} [Axis α] {default : α}
    (hquery : field.query c.packageManager = .ofAxis text default)
    (happlies : field.applies values = true) :
    c.settle answers values field =
      (fun a => some (.str (Axis.value a))) <$> c.choose answers field.name text default := by
  unfold choose
  cases hgiven : answers.given? field.name with
  | some v => rw [settle_of_given hgiven, hquery, Query.take_ofAxis, Functor.map_map]
  | none =>
    rw [settle_of_applies hgiven happlies, hquery, Query.ask_ofAxis, Functor.map_map]
    cases c.interactive <;> rfl

theorem settle_gated {α : Type} [Axis α] {default : α}
    (hquery : field.query c.packageManager = .ofAxis text default) {applies : Bool}
    (happlies : field.applies values = applies) :
    c.settle answers values field = (Option.map fun a => .str (Axis.value a)) <$>
      c.chooseGated answers applies field.name text default := by
  cases applies with
  | true =>
    rw [settle_choice hquery happlies, chooseGated, if_pos rfl, Functor.map_map]
    rfl
  | false =>
    rw [chooseGated, if_neg (by decide)]
    cases hgiven : answers.given? field.name with
    | some v =>
      rw [settle_of_given hgiven, hquery, Query.take_ofAxis, Functor.map_map, Functor.map_map]
      rfl
    | none =>
      rw [settle_of_not_applies hgiven happlies]
      rfl

theorem settle_switch (hquery : field.query c.packageManager = .switch text)
    (happlies : field.applies values = true) :
    c.settle answers values field =
      (fun on => some (.bool on)) <$> c.confirm answers field.name text := by
  unfold confirm
  cases hgiven : answers.given? field.name with
  | some v =>
    rw [settle_of_given hgiven, hquery]
    rfl
  | none =>
    rw [settle_of_applies hgiven happlies, hquery, Query.ask_switch, Functor.map_map]
    cases c.interactive <;> rfl

theorem settle_projectName :
    c.settle answers values .projectName = some <$> c.projectName answers := by
  unfold projectName
  cases hgiven : answers.given? "project_name" with
  | some v => exact settle_of_given hgiven
  | none =>
    rw [settle_of_applies hgiven rfl, Field.query, Query.ask_name]
    cases c.interactive <;> rfl

end Settle

section Collect

variable {c : Collector} {answers : Answers}

/-- Fields are settled by an action before the rest of the collecting, if the first of them is. -/
theorem settleAll_cons_bind {α β : Type} {field : Field} {fields : List Field} {values : Values}
    {a : Action Session α} {g : α → Option (Json String)} {k : Values → Action Session β}
    {l : α → Action Session β} (hsettle : c.settle answers values field = g <$> a)
    (hrest : ∀ x, c.settleAll answers fields (Function.update values field (g x)) >>= k = l x) :
    c.settleAll answers (field :: fields) values >>= k = a >>= l := by
  rw [settleAll, hsettle, bind_assoc, bind_map_left]
  exact congrArg (a >>= ·) (funext hrest)

/-- Collecting settles all fields, and reads the project from what stands in them. -/
theorem collect_eq :
    c.collect answers = c.settleAll answers Field.all Values.empty >>= finish := by
  symm
  -- One field after the other; for the gated ones it remains to say when they apply.
  refine settleAll_cons_bind settle_projectName fun name => ?_
  refine settleAll_cons_bind (settle_choice rfl rfl) fun framework => ?_
  refine settleAll_cons_bind (settle_gated rfl ?_) fun router => ?_
  · cases framework <;> rfl
  refine settleAll_cons_bind (settle_choice rfl rfl) fun language => ?_
  refine settleAll_cons_bind (settle_choice rfl rfl) fun packageManager => ?_
  refine settleAll_cons_bind (settle_choice rfl rfl) fun styling => ?_
  refine settleAll_cons_bind (settle_gated rfl ?_) fun tailwindVersion => ?_
  · cases styling <;> rfl
  refine settleAll_cons_bind (settle_choice rfl rfl) fun stateManagement => ?_
  refine settleAll_cons_bind (settle_choice rfl rfl) fun icons => ?_
  refine settleAll_cons_bind (settle_switch rfl rfl) fun codeQuality => ?_
  refine settleAll_cons_bind (settle_switch rfl rfl) fun testing => ?_
  refine settleAll_cons_bind (settle_switch rfl rfl) fun apiClient => ?_
  rw [settleAll, pure_bind, finish, Project.ofAnswers,
    Values.check_toAnswers rfl rfl rfl rfl rfl rfl rfl rfl rfl rfl rfl rfl, Checked.get_map]
  cases (readName [.field "project_name"] name).get "ProjectConfig" <;> rfl

end Collect

end Collector

end ReactScaffold
