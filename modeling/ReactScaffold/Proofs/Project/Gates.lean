import ReactScaffold.Proofs.Dialogue.Query
import ReactScaffold.Proofs.Project.Naming

/-!
# Gated answers

The rule that the router and the Tailwind version are given just where they apply is kept in three
places: the check of a project finds the first answer that breaks it, the defaults mend a project
that breaks it, and the collector asks for a gated answer only where it applies. `gates_agree` says
that the three agree: the defaults leave just the projects that pass the check, and a project that
was collected passes it unless an answer was given where it does not apply.
-/

namespace ReactScaffold

open ReactScaffold.Action

namespace Project

variable {p : Project}

/-- The project that answers describe, its gated answers filled in where they apply and dropped
where they do not. -/
def withDefaults (answers : Answers) : Except Invalid Project :=
  (ofAnswers answers).map normalized

theorem withDefaults_toAnswers (p : Project) : withDefaults p.toAnswers = .ok p.normalized := by
  rw [withDefaults, ofAnswers_toAnswers]
  rfl

/-- A project passes the check just when its gated answers are given where they apply. -/
theorem gatingFault?_eq_none_iff : p.gatingFault? = none ↔ p.Gated := by
  constructor
  · exact gated_of_gatingFault?
  · rintro ⟨hrouter, hversion⟩
    unfold gatingFault?
    cases hnext : p.isNextjs <;> cases hstyling : decide (p.styling = .tailwind) <;>
      simp_all [Option.isNone_iff_eq_none, Option.isSome_iff_ne_none]

theorem gated_normalized (p : Project) : p.normalized.Gated where
  router := by
    show (if p.isNextjs then some (p.router.getD .app) else none).isSome = p.isNextjs
    cases p.isNextjs <;> rfl
  tailwindVersion := by
    show (if p.styling = .tailwind then some (p.tailwindVersion.getD .v3) else none).isSome = _
    split_ifs with h
    · exact (decide_eq_true h).symm
    · exact (decide_eq_false h).symm

/-- Where the gated answers are given as they apply there is nothing to mend. -/
theorem Gated.normalized_eq (h : p.Gated) : p.normalized = p := by
  have hrouter : (if p.isNextjs then some (p.router.getD .app) else none) = p.router := by
    rw [← h.router]
    cases p.router <;> rfl
  have hversion : (if p.styling = .tailwind then some (p.tailwindVersion.getD .v3) else none) =
      p.tailwindVersion := by
    have happlies := h.tailwindVersion
    cases hgiven : p.tailwindVersion with
    | none =>
      rw [hgiven] at happlies
      exact if_neg (of_decide_eq_false happlies.symm)
    | some version =>
      rw [hgiven] at happlies
      exact if_pos (of_decide_eq_true happlies.symm)
  rw [normalized, hrouter, hversion]

/-- The projects that pass the check are those that the defaults leave as they are. -/
theorem gatingFault?_eq_none_iff_normalized_eq : p.gatingFault? = none ↔ p.normalized = p := by
  rw [gatingFault?_eq_none_iff]
  refine ⟨Gated.normalized_eq, fun h => ?_⟩
  rw [← h]
  exact p.gated_normalized

/-- A gated answer that is never missing can only be given where it does not apply, and the router
comes first. -/
theorem gatingFault?_of_given (hrouter : p.isNextjs = true → p.router.isSome = true)
    (hversion : p.styling = .tailwind → p.tailwindVersion.isSome = true) :
    p.gatingFault? =
      if p.isNextjs = false ∧ p.router.isSome = true then some .routerUnused
      else if p.styling ≠ .tailwind ∧ p.tailwindVersion.isSome = true then
        some .tailwindVersionUnused
      else none := by
  unfold gatingFault?
  cases hnext : p.isNextjs <;> cases hgiven : p.router <;>
    by_cases hstyling : p.styling = .tailwind <;> cases hfound : p.tailwindVersion <;>
    simp_all

end Project

/-! ## Projects that are collected -/

namespace Collector

variable {c : Collector} {answers : Answers}

/-- A gated answer comes to be given just where it applies or where it was given from the start. -/
theorem yields_chooseGated {α : Type} [Axis α] {applies : Bool} {name text : String}
    {default : α} :
    Yields (fun a? : Option α => a?.isSome = (applies || (answers.given? name).isSome))
      (c.chooseGated answers applies name text default) := by
  have hsome (a : Action Session α) :
      Yields (fun a? : Option α => a?.isSome = true) (some <$> a) := by
    intro s a? t h
    rw [perform_map] at h
    obtain ⟨x, -, rfl⟩ := map_eq_ok (Prod.mk.inj h).1
    rfl
  unfold chooseGated
  cases applies with
  | true => exact hsome _
  | false =>
    rw [if_neg Bool.false_ne_true]
    cases answers.given? name with
    | some v => exact hsome _
    | none =>
      intro s a? t h
      obtain rfl := Except.ok.inj (Prod.mk.inj h).1
      rfl

/-- In a project that was collected the gated answers are given where they apply, and otherwise
just when they were given from the start. -/
theorem yields_collect :
    Yields (fun p : Project =>
        p.router.isSome = (p.isNextjs || (answers.given? "router").isSome) ∧
        p.tailwindVersion.isSome =
          (decide (p.styling = .tailwind) || (answers.given? "tailwind_version").isSome))
      (c.collect answers) := by
  unfold collect
  refine .bind fun name => .bind fun framework => ?_
  refine yields_chooseGated.bind_of fun router hrouter => ?_
  refine .bind fun language => .bind fun packageManager => .bind fun styling => ?_
  refine yields_chooseGated.bind_of fun tailwindVersion hversion => ?_
  refine .bind fun stateManagement => .bind fun icons => .bind fun codeQuality => ?_
  refine .bind fun testing => .bind fun apiClient => .bind fun name => .bind fun _ => ?_
  intro s p t h
  obtain rfl := Except.ok.inj (Prod.mk.inj h).1
  exact ⟨hrouter, hversion⟩

end Collector

/-! ## The agreement -/

/-- Compiling the project is refused because of the answer in the given field. -/
def Plan.Refuses (p : Project) (field : String) : Prop :=
  ∃ fault reason, Plan.compile p = .error fault ∧
    fault.failure = .scaffold (.invalidConfiguration field reason)

namespace Plan

variable {p : Project}

theorem refuses_iff {field : String} :
    Plan.Refuses p field ↔ ∃ fault, p.gatingFault? = some fault ∧ fault.field = field := by
  constructor
  · rintro ⟨fault, reason, hcompile, hfailure⟩
    cases hgates : p.gatingFault? with
    | none =>
      obtain ⟨files, hplan, -⟩ := exists_compile hgates
      cases hplan.symm.trans hcompile
    | some found =>
      rw [compile, hgates] at hcompile
      obtain rfl := Except.error.inj hcompile
      refine ⟨found, rfl, ?_⟩
      exact (ScaffoldError.invalidConfiguration.inj (Failure.scaffold.inj hfailure)).1
  · rintro ⟨fault, hgates, rfl⟩
    refine ⟨.gating fault, fault.reason, ?_, rfl⟩
    rw [compile, hgates]

theorem exists_compile_iff : (∃ plan, Plan.compile p = .ok plan) ↔ p.gatingFault? = none := by
  constructor
  · rintro ⟨plan, hplan⟩
    unfold compile at hplan
    split at hplan
    · cases hplan
    · assumption
  · intro hgates
    obtain ⟨files, hplan, -⟩ := exists_compile hgates
    exact ⟨_, hplan⟩

end Plan

namespace Project

/-- A router was given for a project that is none of Next.js. -/
def StrayRouter (answers : Answers) (p : Project) : Prop :=
  answers.given? "router" ≠ none ∧ p.framework ≠ .nextjs

/-- A Tailwind version was given for a project with other styling. -/
def StrayVersion (answers : Answers) (p : Project) : Prop :=
  answers.given? "tailwind_version" ≠ none ∧ p.styling ≠ .tailwind

/-- A collected project breaks a gate just when a gated answer was given where it does not
apply. -/
theorem gatingFault?_of_collect {c : Collector} {answers : Answers} {s t : Session} {p : Project}
    (h : (c.collect answers).perform s = (.ok p, t)) [Decidable (StrayRouter answers p)]
    [Decidable (StrayVersion answers p)] :
    p.gatingFault? =
      if StrayRouter answers p then some .routerUnused
      else if StrayVersion answers p then some .tailwindVersionUnused
      else none := by
  obtain ⟨hrouter, hversion⟩ := Collector.yields_collect s p t h
  have hstray : (p.isNextjs = false ∧ p.router.isSome = true) ↔ StrayRouter answers p := by
    rw [hrouter, StrayRouter, ← Option.isSome_iff_ne_none, isNextjs]
    by_cases hnext : p.framework = .nextjs <;> simp [hnext]
  have hother : (p.styling ≠ .tailwind ∧ p.tailwindVersion.isSome = true) ↔
      StrayVersion answers p := by
    rw [hversion, StrayVersion, ← Option.isSome_iff_ne_none]
    by_cases hstyling : p.styling = .tailwind <;> simp [hstyling]
  rw [gatingFault?_of_given]
  · simp only [hstray, hother]
  · intro hnext
    rw [hrouter, hnext, Bool.true_or]
  · intro hstyling
    rw [hversion, decide_eq_true hstyling, Bool.true_or]

/-- The check of the gates, the defaults and the collector agree. A project passes the check just
when the defaults leave it as it is. The defaults change nothing but the gated answers, what they
leave passes the check, and they leave it as it is. The plan of a collected project is refused just
when a gated answer was given where it does not apply, the router being reported first; otherwise
there is a plan. -/
theorem gates_agree :
    (∀ p : Project, p.gatingFault? = none ↔ withDefaults p.toAnswers = .ok p) ∧
    (∀ answers : Answers,
      match ofAnswers answers with
      | .error e => withDefaults answers = .error e
      | .ok p => ∃ router tailwindVersion,
          withDefaults answers = .ok { p with router, tailwindVersion } ∧
          ({ p with router, tailwindVersion } : Project).gatingFault? = none ∧
          withDefaults ({ p with router, tailwindVersion } : Project).toAnswers =
            .ok { p with router, tailwindVersion }) ∧
    ∀ (c : Collector) (answers : Answers) (s t : Session) (p : Project),
      (c.collect answers).perform s = (.ok p, t) →
        (Plan.Refuses p "router" ↔ StrayRouter answers p) ∧
        (Plan.Refuses p "tailwind_version" ↔ ¬ StrayRouter answers p ∧ StrayVersion answers p) ∧
        ((∃ field, Plan.Refuses p field) ↔ StrayRouter answers p ∨ StrayVersion answers p) ∧
        ((∃ plan, Plan.compile p = .ok plan) ↔
          ¬ (StrayRouter answers p ∨ StrayVersion answers p)) := by
  have hdefaults (p : Project) : p.gatingFault? = none ↔ withDefaults p.toAnswers = .ok p := by
    rw [withDefaults_toAnswers, gatingFault?_eq_none_iff_normalized_eq]
    exact ⟨congrArg Except.ok, Except.ok.inj⟩
  refine ⟨hdefaults, fun answers => ?_, fun c answers s t p h => ?_⟩
  · cases hread : ofAnswers answers with
    | error e =>
      show (ofAnswers answers).map normalized = .error e
      rw [hread]
      rfl
    | ok p =>
      have hgates : p.normalized.gatingFault? = none :=
        gatingFault?_eq_none_iff.2 p.gated_normalized
      refine ⟨p.normalized.router, p.normalized.tailwindVersion, ?_, hgates,
        (hdefaults p.normalized).1 hgates⟩
      show (ofAnswers answers).map normalized = .ok p.normalized
      rw [hread]
      rfl
  · classical
    have hfault := gatingFault?_of_collect h
    simp only [Plan.refuses_iff, Plan.exists_compile_iff, hfault]
    by_cases hrouter : StrayRouter answers p <;> by_cases hversion : StrayVersion answers p <;>
      simp [hrouter, hversion, GatingFault.field]

end Project

end ReactScaffold
