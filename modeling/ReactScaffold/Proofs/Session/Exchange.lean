import ReactScaffold.CommandLine.Run
import ReactScaffold.Proofs.Plan.Compile
import ReactScaffold.Proofs.Project.Naming
import ReactScaffold.Proofs.Session.Conversation
import ReactScaffold.Proofs.Text.Blank

/-!
# Exchanges

An exchange is a prompt with the line that is typed at it. `Action.Takes` says which exchanges an
action consists of and what it comes to. Collecting the answers of a project takes the exchanges
for those answers that are not given yet, in their fixed order: `takes_collect`.
-/

namespace ReactScaffold

open Text

/-- A prompt and the line that is typed at it. -/
structure Exchange where
  prompt : String
  line : String

namespace Action

variable {α β : Type}

/-- The action gives a value after the exchanges. It takes these lines, shows these prompts, makes
the remarks, and leaves everything else as it is. -/
def Takes (a : Action Session α) (exchanges : List Exchange) (remarks : List Remark) (x : α) :
    Prop :=
  ∀ (s : Session) (rest : List (Option String)),
    s.input = exchanges.map (fun e => some e.line) ++ rest →
      a.perform s = (.ok x, { s with
        input := rest
        shown := s.shown ++ exchanges.map fun e => .prompt e.prompt
        remarks := s.remarks ++ remarks })

theorem takes_nil_of_perform {a : Action Session α} {x : α}
    (h : ∀ s, a.perform s = (.ok x, s)) : Takes a [] [] x := by
  rintro s rest rfl
  simp [h s]

theorem takes_pure (x : α) : Takes (pure x) [] [] x := takes_nil_of_perform fun _ => rfl

theorem takes_ofExcept {ε : Type} {f : ε → Failure} {r : Except ε α} {x : α} (h : r = .ok x) :
    Takes (ofExcept f r) [] [] x := by
  subst h
  exact takes_pure x

theorem takes_remark (level : Level) (topic : Topic) (text : String) :
    Takes (Session.remark level topic text) [] [⟨level, topic, text⟩] () := by
  rintro s rest rfl
  simp [Session.remark, Session.addRemark]

variable {a : Action Session α} {f : α → Action Session β} {x : α} {y : β}
  {first second : List Exchange} {before after : List Remark}

theorem Takes.bind (ha : Takes a first before x) (hf : Takes (f x) second after y) :
    Takes (a >>= f) (first ++ second) (before ++ after) y := by
  intro s rest hinput
  rw [List.map_append, List.append_assoc] at hinput
  rw [perform_bind, ha s _ hinput]
  dsimp only
  rw [hf _ rest rfl]
  simp only [List.map_append, List.append_assoc]

theorem Takes.map (ha : Takes a first before x) (g : α → β) : Takes (g <$> a) first before (g x) := by
  intro s rest hinput
  rw [map_eq_pure_bind, perform_bind, ha s rest hinput]
  rfl

end Action

namespace Session

open ReactScaffold.Action

/-- A line that is accepted answers the question. -/
theorem takes_ask {α : Type} {q : Question α} {line : String} {x : α} (h : q.accept line = .ok x) :
    Takes q.ask [⟨q.prompt, line⟩] [] x := by
  intro s rest hinput
  have hput : q.put s.input = ([.prompt q.prompt], .ok x, rest) := by
    rw [hinput, List.map_singleton, List.singleton_append, Question.put, h]
  rw [Question.ask, perform_bind, perform_modifyGet]
  dsimp only
  rw [hput]
  simp [Except.mapError]

/-! ## Lines that are accepted -/

/-- An axis on which each word is typed as it stands: it is not empty, has no blanks around it and
does not start with a dash. -/
class TypedAxis (α : Type) [Axis α] : Prop extends LawfulAxis α where
  strip_value (a : α) : strip (Axis.value a) = Axis.value a
  isEmpty_value (a : α) : (Axis.value a).isEmpty = false
  head?_value (a : α) : (Axis.value a).toList.head? ≠ some '-'

instance : TypedAxis Framework :=
  ⟨by rintro ⟨⟩ <;> decide +kernel, by rintro ⟨⟩ <;> rfl, by rintro ⟨⟩ <;> decide⟩

instance : TypedAxis Router :=
  ⟨by rintro ⟨⟩ <;> decide +kernel, by rintro ⟨⟩ <;> rfl, by rintro ⟨⟩ <;> decide⟩

instance : TypedAxis Language :=
  ⟨by rintro ⟨⟩ <;> decide +kernel, by rintro ⟨⟩ <;> rfl, by rintro ⟨⟩ <;> decide⟩

instance : TypedAxis PackageManager :=
  ⟨by rintro ⟨⟩ <;> decide +kernel, by rintro ⟨⟩ <;> rfl, by rintro ⟨⟩ <;> decide⟩

instance : TypedAxis Styling :=
  ⟨by rintro ⟨⟩ <;> decide +kernel, by rintro ⟨⟩ <;> rfl, by rintro ⟨⟩ <;> decide⟩

instance : TypedAxis TailwindVersion :=
  ⟨by rintro ⟨⟩ <;> decide +kernel, by rintro ⟨⟩ <;> rfl, by rintro ⟨⟩ <;> decide⟩

instance : TypedAxis StateManagement :=
  ⟨by rintro ⟨⟩ <;> decide +kernel, by rintro ⟨⟩ <;> rfl, by rintro ⟨⟩ <;> decide⟩

instance : TypedAxis Icons :=
  ⟨by rintro ⟨⟩ <;> decide +kernel, by rintro ⟨⟩ <;> rfl, by rintro ⟨⟩ <;> decide⟩

theorem accept_choiceQuestion {α : Type} [Axis α] [TypedAxis α] (text : String) (default a : α) :
    (choiceQuestion text default).accept (Axis.value a) = .ok a := by
  simp only [choiceQuestion, TypedAxis.isEmpty_value, TypedAxis.strip_value,
    LawfulAxis.ofValue?_value]
  rfl

/-- The line that answers a yes or a no. -/
def switchLine (on : Bool) : String := if on then "y" else "n"

theorem accept_switchQuestion (text : String) (on : Bool) :
    (switchQuestion text).accept (switchLine on) = .ok on := by
  have hempty : (switchLine on).isEmpty = false := by cases on <;> rfl
  have hlower : lower (strip (switchLine on)) = switchLine on := by cases on <;> decide +kernel
  simp only [switchQuestion, hempty, hlower]
  cases on <;> rfl

theorem isBlank_of_isNameChar {c : Char} (h : isNameChar c = true) : isBlank c = false := by
  simp only [isNameChar, Bool.or_eq_true, decide_eq_true_eq] at h
  rcases h with (h | rfl) | rfl
  · exact isBlank_of_isAlphanum h
  · decide
  · decide

theorem accept_nameQuestion (name : ProjectName) :
    nameQuestion.accept name.text = .ok name.text := by
  have hvalid := name.valid
  have hall : ∀ c ∈ name.text.toList, isBlank c = false := by
    rw [isProjectName, Bool.and_eq_true, List.all_eq_true] at hvalid
    exact fun c hc => isBlank_of_isNameChar (hvalid.2 c hc)
  have hstrip : strip name.text = name.text := by
    rw [strip, stripBlank_of_all hall, String.ofList_toList]
  have hempty : name.text.toList.isEmpty = false := by
    rw [isProjectName, Bool.and_eq_true, Bool.not_eq_true'] at hvalid
    exact hvalid.1
  have hfault : nameFault? name.text = none := by
    simp [nameFault?, stripBlank_of_all hall, hempty, hvalid]
  simp only [nameQuestion, hstrip, hfault]

/-! ## Answers that are given, and others -/

/-- The exchange for an answer, unless it is given. -/
def exchangeFor (answers : Answers) (name prompt line : String) : List Exchange :=
  if (answers.given? name).isNone then [⟨prompt, line⟩] else []

section Collector

variable {c : Collector} {answers : Answers} {name text : String}

theorem takes_takeChoice {α : Type} [Axis α] [LawfulAxis α] (a : α) :
    Takes (takeChoice α (.str (Axis.value a))) [] [] a :=
  takes_ofExcept (by simp [Axis.choose, LawfulAxis.ofValue?_value])

theorem takes_choose {α : Type} [Axis α] [TypedAxis α] (hc : c.interactive = true) {a : α}
    (h : ∀ v, answers.given? name = some v → v = .str (Axis.value a)) (default : α) :
    Takes (c.choose answers name text default)
      (exchangeFor answers name (choiceQuestion text default).prompt (Axis.value a)) [] a := by
  unfold Collector.choose exchangeFor
  cases hgiven : answers.given? name with
  | some v =>
      rw [h v hgiven]
      exact takes_takeChoice a
  | none =>
      simp only [hc]
      exact takes_ask (accept_choiceQuestion text default a)

/-- A gated choice that applies is taken like any other; one that does not apply is not given and
not asked for. -/
theorem takes_chooseGated {α : Type} [Axis α] [TypedAxis α] (hc : c.interactive = true)
    {a? : Option α} {applies : Bool} (happlies : applies = a?.isSome)
    (h : ∀ v, answers.given? name = some v → ∃ a, a? = some a ∧ v = .str (Axis.value a))
    (default : α) :
    Takes (c.chooseGated answers applies name text default)
      (a?.elim [] fun a =>
        exchangeFor answers name (choiceQuestion text default).prompt (Axis.value a)) [] a? := by
  subst happlies
  unfold Collector.chooseGated
  cases a? with
  | some a =>
      have hgiven : ∀ v, answers.given? name = some v → v = .str (Axis.value a) := by
        intro v hv
        obtain ⟨b, hb, hvalue⟩ := h v hv
        rwa [Option.some.inj hb]
      exact (takes_choose hc hgiven default).map some
  | none =>
      have hnone : answers.given? name = none := by
        cases hgiven : answers.given? name with
        | none => rfl
        | some v =>
            obtain ⟨a, ha, -⟩ := h v hgiven
            cases ha
      rw [hnone]
      exact takes_pure none

theorem takes_confirm (hc : c.interactive = true) {on : Bool}
    (h : ∀ v, answers.given? name = some v → v = .bool on) :
    Takes (c.confirm answers name text)
      (exchangeFor answers name (switchQuestion text).prompt (switchLine on)) [] on := by
  unfold Collector.confirm exchangeFor
  cases hgiven : answers.given? name with
  | some v =>
      rw [h v hgiven]
      exact takes_pure on
  | none =>
      simp only [hc]
      exact takes_ask (accept_switchQuestion text on)

theorem takes_projectName (hc : c.interactive = true) {projectName : ProjectName}
    (h : ∀ v, answers.given? "project_name" = some v → v = .str projectName.text) :
    Takes (c.projectName answers)
      (exchangeFor answers "project_name" nameQuestion.prompt projectName.text) []
      (.str projectName.text) := by
  unfold Collector.projectName exchangeFor
  cases hgiven : answers.given? "project_name" with
  | some v =>
      rw [h v hgiven]
      exact takes_pure _
  | none =>
      simp only [hc]
      exact (takes_ask (accept_nameQuestion projectName)).map Json.str

end Collector

end Session

namespace Project

open ReactScaffold.Action Session

/-- The exchanges for those answers of a project that are not given, in their order. The package
manager that the settings prefer is the default of its question. -/
def exchanges (p : Project) (preferred : PackageManager) (answers : Answers) : List Exchange :=
  let choice {α : Type} [Axis α] (name text : String) (default a : α) : List Exchange :=
    exchangeFor answers name (choiceQuestion text default).prompt (Axis.value a)
  let switch (name text : String) (on : Bool) : List Exchange :=
    exchangeFor answers name (switchQuestion text).prompt (switchLine on)
  List.flatten
    [exchangeFor answers "project_name" nameQuestion.prompt p.name.text,
      choice "framework" "Which framework?" .reactVite p.framework,
      p.router.elim [] (choice "router" "Which Next.js router?" .app),
      choice "language" "Which language?" .typescript p.language,
      choice "package_manager" "Which package manager?" preferred p.packageManager,
      choice "styling" "Which styling solution?" .tailwind p.styling,
      p.tailwindVersion.elim [] (choice "tailwind_version" "Which Tailwind CSS version?" .v3),
      choice "state_management" "Which state management library?" .none p.stateManagement,
      choice "icons" "Which icon library?" .none p.icons,
      switch "code_quality" "Set up ESLint, Prettier, Husky and Commitlint?" p.codeQuality,
      switch "testing" "Set up Vitest and Testing Library?" p.testing,
      switch "api_client" "Add an Axios API client?" p.apiClient]

/-- The remark that is made when the answers of a project are collected. -/
def collected (p : Project) : Remark :=
  ⟨.debug, .answers, "Collected configuration: " ++ (Json.obj p.toAnswers).literal⟩

/-- The answers are among those of the project. -/
def Gives (answers : Answers) (p : Project) : Prop :=
  ∀ name v, answers.given? name = some v → Answers.given? p.toAnswers name = some v

/-- An optional answer is the word of a choice, if it is given. -/
theorem exists_of_given_optional {α : Type} [Axis α] {answers : Answers} {name : String}
    {a? : Option α} (h : OrderedMap.get? answers name = some (match a? with
      | some a => .str (Axis.value a)
      | none => .null)) {v : Json String} (hv : answers.given? name = some v) :
    ∃ a, a? = some a ∧ v = .str (Axis.value a) := by
  unfold Answers.given? at hv
  rw [h] at hv
  cases a? with
  | none => cases hv
  | some a => exact ⟨a, rfl, (Option.some.inj hv).symm⟩

/-- Whatever part of the answers of a project is given, the rest of them is asked for, and the
project is collected. -/
theorem takes_collect {p : Project} (hgates : p.gatingFault? = none) {c : Collector}
    (hc : c.interactive = true) {answers : Answers} (h : Gives answers p) :
    Takes (c.collect answers) (p.exchanges c.packageManager answers) [p.collected] p := by
  have hof {name : String} {v : Json String} (hp : Answers.given? p.toAnswers name = some v) :
      ∀ w, answers.given? name = some w → w = v :=
    fun w hw => Option.some.inj ((h name w hw).symm.trans hp)
  have hrouter : ∀ v, answers.given? "router" = some v →
      ∃ a, p.router = some a ∧ v = .str (Axis.value a) :=
    fun v hv => exists_of_given_optional rfl (h _ v hv)
  have hversion : ∀ v, answers.given? "tailwind_version" = some v →
      ∃ a, p.tailwindVersion = some a ∧ v = .str (Axis.value a) :=
    fun v hv => exists_of_given_optional rfl (h _ v hv)
  have hgated := gated_of_gatingFault? hgates
  have hread : (readName [.field "project_name"] (.str p.name.text)).get "ProjectConfig" =
      .ok p.name := by
    rw [readName_text]
    rfl
  refine (takes_projectName hc (hof rfl)).bind ?_
  refine (takes_choose hc (hof rfl) _).bind ?_
  refine (takes_chooseGated hc hgated.router.symm hrouter _).bind ?_
  refine (takes_choose hc (hof rfl) _).bind ?_
  refine (takes_choose hc (hof rfl) _).bind ?_
  refine (takes_choose hc (hof rfl) _).bind ?_
  refine (takes_chooseGated hc hgated.tailwindVersion.symm hversion _).bind ?_
  refine (takes_choose hc (hof rfl) _).bind ?_
  refine (takes_choose hc (hof rfl) _).bind ?_
  refine (takes_confirm hc (hof rfl)).bind ?_
  refine (takes_confirm hc (hof rfl)).bind ?_
  refine (takes_confirm hc (hof rfl)).bind ?_
  refine (takes_ofExcept hread).bind ?_
  exact (takes_remark _ _ _).bind (takes_pure p)

end Project

end ReactScaffold
