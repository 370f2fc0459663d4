import ReactScaffold.Proofs.Dialogue.Fields
import Mathlib

/-!
# Collecting without anyone to ask

Without anyone to ask, each query takes its default. An empty line at the prompt does the same, so
the two ways of collecting echo each other: one after as many empty lines as it puts queries, the
other without reading anything. Only the name has no default.
-/

namespace ReactScaffold

namespace Action

variable {α β : Type}

/-- The action ends in the result after the exchanges. It takes these lines, shows these prompts,
makes the remarks, and leaves everything else as it is. -/
def Ends (a : Action Session α) (exchanges : List Exchange) (remarks : List Remark)
    (result : Except Failure α) : Prop :=
  ∀ (s : Session) (rest : List (Option String)),
    s.input = exchanges.map (fun e => some e.line) ++ rest →
      a.perform s = (result, { s with
        input := rest
        shown := s.shown ++ exchanges.map fun e => .prompt e.prompt
        remarks := s.remarks ++ remarks })

theorem takes_iff_ends {a : Action Session α} {exchanges : List Exchange} {remarks : List Remark}
    {x : α} : Takes a exchanges remarks x ↔ Ends a exchanges remarks (.ok x) := Iff.rfl

theorem ends_ofExcept (r : Except Failure α) : Ends (ofExcept id r) [] [] r := by
  rintro s rest rfl
  cases r <;> simp [Except.mapError]

section Bind

variable {a : Action Session α} {f : α → Action Session β} {first second : List Exchange}
  {before after : List Remark}

theorem Ends.bind_error {e : Failure} (ha : Ends a first before (.error e)) :
    Ends (a >>= f) first before (.error e) := by
  intro s rest hinput
  rw [perform_bind, ha s rest hinput]

theorem Ends.bind {x : α} {r : Except Failure β} (ha : Ends a first before (.ok x))
    (hf : Ends (f x) second after r) : Ends (a >>= f) (first ++ second) (before ++ after) r := by
  intro s rest hinput
  rw [List.map_append, List.append_assoc] at hinput
  rw [perform_bind, ha s _ hinput]
  dsimp only
  rw [hf _ rest rfl]
  simp only [List.map_append, List.append_assoc]

theorem Ends.map {r : Except Failure α} (ha : Ends a first before r) (g : α → β) :
    Ends (g <$> a) first before (r.map g) := by
  intro s rest hinput
  rw [perform_map, ha s rest hinput]

end Bind

/-- The first action, an empty line being typed at each of its prompts, ends as the second does
without any. -/
def Echoes (a b : Action Session α) : Prop :=
  ∃ (prompts : List String) (remarks : List Remark) (result : Except Failure α),
    Ends a (prompts.map fun prompt => ⟨prompt, ""⟩) remarks result ∧ Ends b [] remarks result

variable {a b : Action Session α} {f g : α → Action Session β}

theorem Ends.echoes {remarks : List Remark} {result : Except Failure α}
    (h : Ends a [] remarks result) : Echoes a a := ⟨[], remarks, result, h, h⟩

theorem Echoes.bind (h : Echoes a b) (hf : ∀ x, Echoes (f x) (g x)) :
    Echoes (a >>= f) (b >>= g) := by
  obtain ⟨first, before, result, ha, hb⟩ := h
  cases result with
  | error e => exact ⟨first, before, .error e, ha.bind_error, hb.bind_error⟩
  | ok x =>
    obtain ⟨second, after, result, hfx, hgx⟩ := hf x
    refine ⟨first ++ second, before ++ after, result, ?_, hb.bind hgx⟩
    rw [List.map_append]
    exact ha.bind hfx

theorem Echoes.map (h : Echoes a b) (g : α → β) : Echoes (g <$> a) (g <$> b) := by
  obtain ⟨prompts, remarks, result, ha, hb⟩ := h
  exact ⟨prompts, remarks, result.map g, ha.map g, hb.map g⟩

end Action

open ReactScaffold.Action

/-- An empty line is accepted for what the answer is when nobody is asked. -/
theorem Query.echoes_ask {q : Query} (h : q ≠ .name) :
    Echoes q.question.ask (ofExcept id q.unattended) := by
  obtain ⟨v, haccept, hunattended⟩ := Option.map_eq_some_iff.1 (accept?_empty h)
  have hquestion : q.question.accept "" = .ok v := by simp only [question, haccept]
  refine ⟨[q.prompt], [], .ok v, takes_iff_ends.1 (Session.takes_ask hquestion), ?_⟩
  rw [← hunattended]
  exact ends_ofExcept _

namespace Collector

variable {answers : Answers} (preferred : PackageManager)

/-- Each field that is given, or that has a default, is settled alike. -/
theorem echoes_settle {values : Values} {field : Field}
    (hname : field = .projectName → (answers.given? field.name).isSome) :
    Echoes (settle ⟨true, preferred⟩ answers values field)
      (settle ⟨false, preferred⟩ answers values field) := by
  cases hgiven : answers.given? field.name with
  | some v =>
    rw [settle_of_given hgiven, settle_of_given hgiven]
    exact ((ends_ofExcept _).map some).echoes
  | none =>
    cases happlies : field.applies values with
    | false =>
      rw [settle_of_not_applies hgiven happlies, settle_of_not_applies hgiven happlies]
      exact (ends_ofExcept (.ok none)).echoes
    | true =>
      rw [settle_of_applies hgiven happlies, settle_of_applies hgiven happlies]
      refine (Query.echoes_ask fun hquery => ?_).map some
      -- Only the name has no default, and it is given.
      have hfield : field = .projectName := by cases field <;> first | rfl | cases hquery
      rw [hgiven] at hname
      cases hname hfield

theorem echoes_settleAll (hname : (answers.given? "project_name").isSome) (fields : List Field)
    (values : Values) :
    Echoes (settleAll ⟨true, preferred⟩ answers fields values)
      (settleAll ⟨false, preferred⟩ answers fields values) := by
  induction fields generalizing values with
  | nil => exact (ends_ofExcept (.ok values)).echoes
  | cons field fields ih =>
    refine (echoes_settle preferred ?_).bind fun v? => ih _
    rintro rfl
    exact hname

theorem ends_finish (values : Values) :
    Ends (finish values) []
      ((Project.ofAnswers values.toAnswers).toOption.toList.map Project.collected)
      ((Project.ofAnswers values.toAnswers).mapError fun e => .fault (.invalid e)) := by
  rintro s rest rfl
  rw [perform_finish]
  simp

/-- Collecting with a name that is given, and an empty line at each prompt, comes to what
collecting without prompts comes to. -/
theorem echoes_collect (hname : (answers.given? "project_name").isSome) :
    Echoes (collect ⟨true, preferred⟩ answers) (collect ⟨false, preferred⟩ answers) := by
  rw [collect_eq, collect_eq]
  refine (echoes_settleAll preferred hname _ _).bind fun values => ?_
  exact (ends_finish values).echoes

/-- Neither way of collecting takes a word that is no styling. -/
theorem echoes_collect_unknown_styling :
    Echoes (collect ⟨true, .bun⟩ [("project_name", .str "my-app"), ("styling", .str "sass")])
      (collect ⟨false, .bun⟩ [("project_name", .str "my-app"), ("styling", .str "sass")]) :=
  echoes_collect .bun rfl

end Collector

end ReactScaffold
