import ReactScaffold.Proofs.CommandLine.Spelling
import ReactScaffold.Proofs.Session.Exchange

/-!
# Two routes to a project

The answers of a project can be spelled on a command line, or typed at the prompts that a command
line without arguments leads to. Both ways come to the project, and so to the same plan:
`Project.resolve_spelled_and_typed`.
-/

namespace ReactScaffold

open ReactScaffold.Action Text

/-- Whether the value is the missing one. -/
def Json.isNull {τ : Type} : Json τ → Bool
  | .null => true
  | _ => false

/-! ## Command lines that give all answers -/

theorem spells_choice {α : Type} [Axis α] {name answer : String}
    (h : (Flag.ofName? name).map Flag.effect = some (.choose answer (Axis.values α))) (a : α) :
    Spells [name, Axis.value a] (answer, .str (Axis.value a)) := by
  obtain ⟨f, hf, heffect⟩ := Option.map_eq_some_iff.1 h
  have hname : f.name = name := by simpa [Flag.ofName?] using List.find?_some hf
  subst hname
  exact .apart (Flag.mem_all_of_ofName? hf) heffect _

/-- An optional choice is spelled if there is one. -/
theorem spells_optional {α : Type} [Axis α] {name answer : String}
    (h : (Flag.ofName? name).map Flag.effect = some (.choose answer (Axis.values α)))
    (a? : Option α) :
    List.Forall₂ Spells (a?.elim [] fun a => [[name, Axis.value a]])
      (List.filter (fun e => !e.2.isNull) [(answer, match a? with
        | some a => .str (Axis.value a)
        | none => .null)]) := by
  cases a? with
  | none => exact .nil
  | some a => exact .cons (spells_choice h a) .nil

theorem spells_switch {on off answer : String}
    (hon : (Flag.ofName? on).map Flag.effect = some (.switch answer true))
    (hoff : (Flag.ofName? off).map Flag.effect = some (.switch answer false)) (b : Bool) :
    Spells [if b then on else off] (answer, .bool b) := by
  have hswitch {name : String} {b : Bool}
      (h : (Flag.ofName? name).map Flag.effect = some (.switch answer b)) :
      Spells [name] (answer, .bool b) := by
    obtain ⟨f, hf, heffect⟩ := Option.map_eq_some_iff.1 h
    have hname : f.name = name := by simpa [Flag.ofName?] using List.find?_some hf
    subst hname
    exact .switch (Flag.mem_all_of_ofName? hf) heffect
  cases b with
  | true => exact hswitch hon
  | false => exact hswitch hoff

namespace Project

/-- The answers that a project has. A gated answer that does not apply is none of them. -/
def givenAnswers (p : Project) : Answers := p.toAnswers.filter fun e => !e.2.isNull

/-- A spelling of each answer that a project has. -/
def spellings (p : Project) : List (List String) :=
  [[p.name.text], ["--framework", Axis.value p.framework]] ++
    (p.router.elim [] (fun router => [["--router", Axis.value router]]) ++
    ([["--language", Axis.value p.language],
      ["--package-manager", Axis.value p.packageManager],
      ["--styling", Axis.value p.styling]] ++
    (p.tailwindVersion.elim [] (fun version => [["--tailwind-version", Axis.value version]]) ++
    [["--state", Axis.value p.stateManagement],
      ["--icons", Axis.value p.icons],
      [if p.codeQuality then "--code-quality" else "--no-code-quality"],
      [if p.testing then "--testing" else "--no-testing"],
      [if p.apiClient then "--api-client" else "--no-api-client"]])))

/-- The command line that gives the answers of a project in their order. -/
def arguments (p : Project) : List String := p.spellings.flatten

theorem spellsAll_arguments (p : Project) : SpellsAll p.arguments p.givenAnswers := by
  refine ⟨p.spellings, p.givenAnswers, rfl, ?_, .refl _⟩
  show List.Forall₂ Spells _
    (List.filter _ ([_, _] ++ ([_] ++ ([_, _, _] ++ ([_] ++ [_, _, _, _, _])))))
  simp only [List.filter_append]
  refine List.rel_append ?_ (List.rel_append (spells_optional ?_ p.router)
    (List.rel_append ?_ (List.rel_append (spells_optional ?_ p.tailwindVersion) ?_)))
  · exact .cons (.name _) (.cons (spells_choice (by decide +kernel) _) .nil)
  · decide +kernel
  · exact .cons (spells_choice (by decide +kernel) _) (.cons (spells_choice (by decide +kernel) _)
      (.cons (spells_choice (by decide +kernel) _) .nil))
  · decide +kernel
  · exact .cons (spells_choice (by decide +kernel) _) (.cons (spells_choice (by decide +kernel) _)
      (.cons (spells_switch (by decide +kernel) (by decide +kernel) _)
      (.cons (spells_switch (by decide +kernel) (by decide +kernel) _)
      (.cons (spells_switch (by decide +kernel) (by decide +kernel) _) .nil))))

/-- The answers of a project can be given on a command line if its name can. -/
theorem spellable_of_mem_toAnswers {p : Project} (hname : p.name.text.toList.head? ≠ some '-') :
    ∀ e ∈ p.toAnswers, Spellable e := by
  have hchoice {α : Type} [Axis α] [Session.TypedAxis α] {name : String} (a : α)
      (h : choicesOf? name = some (Axis.values α)) : Spellable (name, .str (Axis.value a)) := by
    intro word hword
    obtain rfl := Json.str.inj hword
    refine ⟨Session.TypedAxis.head?_value a, fun choices hchoices => ?_⟩
    rw [← Option.some.inj (h.symm.trans hchoices)]
    exact List.mem_map_of_mem (List.mem_of_find?_eq_some (LawfulAxis.ofValue?_value a))
  have hoptional {α : Type} [Axis α] [Session.TypedAxis α] {name : String} (a? : Option α)
      (h : choicesOf? name = some (Axis.values α)) : Spellable (name, match a? with
        | some a => .str (Axis.value a)
        | none => .null) := by
    cases a? with
    | none => exact fun word hword => by cases hword
    | some a => exact hchoice a h
  have hswitch {name : String} (on : Bool) : Spellable (name, .bool on) :=
    fun word hword => by cases hword
  have hnone : choicesOf? "project_name" = none := by decide +kernel
  simp only [toAnswers, List.forall_mem_cons]
  refine ⟨?_, hchoice _ ?_, hoptional _ ?_, hchoice _ ?_, hchoice _ ?_, hchoice _ ?_,
    hoptional _ ?_, hchoice _ ?_, hchoice _ ?_, hswitch _, hswitch _, hswitch _,
    List.forall_mem_nil _⟩
  · intro word hword
    obtain rfl := Json.str.inj hword
    refine ⟨hname, fun choices hchoices => ?_⟩
    cases hnone.symm.trans hchoices
  all_goals decide +kernel

/-! ## Answers that are all given -/

theorem given?_eq_some_iff {answers : Answers} {name : String} {v : Json String} :
    answers.given? name = some v ↔ OrderedMap.get? answers name = some v ∧ v.isNull = false := by
  cases hget : OrderedMap.get? answers name with
  | none => simp [Answers.given?, hget]
  | some found =>
    by_cases hnull : found = .null
    · subst hnull
      have hnot : .null = v → ¬v.isNull = false := fun h => by simp [← h, Json.isNull]
      simpa [Answers.given?, hget] using hnot
    · have hgiven : answers.given? name = some found := by
        unfold Answers.given?
        rw [hget]
        split
        · rename_i h
          exact absurd (Option.some.inj h) hnull
        · rfl
      have hfound : found.isNull = false := by cases found <;> first | exact absurd rfl hnull | rfl
      rw [hgiven]
      exact ⟨fun h => ⟨h, Option.some.inj h ▸ hfound⟩, And.left⟩

/-- The answers that a project has are given, in whatever order they stand. -/
theorem given?_of_perm {p : Project} {answers : Answers} (h : answers.Perm p.givenAnswers)
    (name : String) : answers.given? name = Answers.given? p.toAnswers name := by
  have hnodup : (OrderedMap.keys p.givenAnswers).Nodup :=
    (nodup_keys_toAnswers p).sublist (List.filter_sublist.map _)
  refine Option.ext fun v => ?_
  rw [given?_eq_some_iff, given?_eq_some_iff, OrderedMap.get?_perm h hnodup]
  refine and_congr_left fun hv => ⟨fun hget => ?_, fun hget => ?_⟩
  · exact OrderedMap.get?_of_mem (nodup_keys_toAnswers p)
      (List.mem_of_mem_filter (OrderedMap.mem_of_get?_eq_some hget))
  · refine OrderedMap.get?_of_mem hnodup (e := (name, v)) (List.mem_filter.2 ⟨?_, by simp [hv]⟩)
    exact OrderedMap.mem_of_get?_eq_some hget

/-- A project all of whose answers are given is collected without an exchange. -/
theorem exchanges_of_perm {p : Project} {answers : Answers} (h : answers.Perm p.givenAnswers)
    (preferred : PackageManager) : p.exchanges preferred answers = [] := by
  have hnil {name prompt line : String} (hsome : (Answers.given? p.toAnswers name).isSome) :
      Session.exchangeFor answers name prompt line = [] := by
    rw [Session.exchangeFor, given?_of_perm h, if_neg]
    simpa [Option.isSome_iff_ne_none] using hsome
  simp only [exchanges, List.flatten_eq_nil_iff, List.forall_mem_cons]
  refine ⟨hnil rfl, hnil rfl, ?_, hnil rfl, hnil rfl, hnil rfl, ?_, hnil rfl, hnil rfl, hnil rfl,
    hnil rfl, hnil rfl, List.forall_mem_nil _⟩
  · cases hr : p.router with
    | none => rfl
    | some router => exact hnil (by simp [Answers.given?, toAnswers, OrderedMap.get?, hr])
  · cases hv : p.tailwindVersion with
    | none => rfl
    | some version => exact hnil (by simp [Answers.given?, toAnswers, OrderedMap.get?, hv])

/-! ## Both routes -/

/-- The remark that is made when a plan is compiled follows what came before. -/
theorem takes_compile {p : Project} {plan : Plan} (h : Plan.compile p = .ok plan) :
    ∃ r, Takes (Session.compile p) [] [r] plan :=
  ⟨_, (takes_ofExcept h).bind ((takes_remark _ _ _).bind (takes_pure plan))⟩

/-- An invocation that gives some answers of a project comes to the project by the exchanges for the
others. -/
theorem takes_resolveProject {p : Project} (hgates : p.gatingFault? = none) (answers : Answers)
    (h : Gives answers p) (settings : Settings) :
    (Session.resolveProject { answers } settings).Takes
      (p.exchanges settings.defaultPackageManager answers) [p.collected] p :=
  takes_collect hgates rfl h

/-- Flags and prompts are two spellings of the same answers. A project within the gates whose name
does not start with a dash is what every command line resolves to that spells each of its answers
once, in whatever order, and nothing is asked then; and it is what the empty command line resolves
to when its answers are typed at the prompts, and exactly these lines are taken. Either way the same
plan is compiled. -/
theorem resolve_spelled_and_typed {p : Project} (hgates : p.gatingFault? = none)
    (hname : p.name.text.toList.head? ≠ some '-') :
    ∃ plan r, Plan.compile p = .ok plan ∧
      SpellsAll p.arguments p.givenAnswers ∧
      (∀ arguments, SpellsAll arguments p.givenAnswers →
        ∃ i, Invocation.parse arguments = .ok i ∧ ∀ settings,
          (Session.resolveProject i settings).Takes [] [p.collected] p ∧
          (Session.resolveProject i settings >>= Session.compile).Takes [] [p.collected, r] plan) ∧
      ∃ i, Invocation.parse [] = .ok i ∧ ∀ settings,
        let typed := p.exchanges settings.defaultPackageManager []
        (Session.resolveProject i settings).Takes typed [p.collected] p ∧
        (Session.resolveProject i settings >>= Session.compile).Takes typed [p.collected, r]
          plan := by
  obtain ⟨files, hplan, -⟩ := Plan.exists_compile hgates
  obtain ⟨r, hcompile⟩ := takes_compile hplan
  have hnodup : (OrderedMap.keys p.givenAnswers).Nodup :=
    (nodup_keys_toAnswers p).sublist (List.filter_sublist.map _)
  refine ⟨_, r, hplan, p.spellsAll_arguments, fun arguments hspells => ?_, {}, rfl,
    fun settings => ?_⟩
  · obtain ⟨answers, hperm, hparse⟩ := Invocation.parse_of_spelling hspells
      (fun e he => spellable_of_mem_toAnswers hname e (List.mem_of_mem_filter he)) hnodup
    refine ⟨_, hparse, fun settings => ?_⟩
    have hresolve := takes_resolveProject hgates answers
      (fun name v hv => by rwa [given?_of_perm hperm] at hv) settings
    rw [exchanges_of_perm hperm] at hresolve
    exact ⟨hresolve, hresolve.bind hcompile⟩
  · have hresolve := takes_resolveProject hgates [] nofun settings
    exact ⟨hresolve, by simpa using hresolve.bind hcompile⟩

/-- A project with both gated answers. -/
def pagesProject : Project where
  name := ⟨"my-shop_2", rfl⟩
  framework := .nextjs
  router := some .pages
  tailwindVersion := some .v4
  stateManagement := .zustand
  testing := true

/-- Its answers on a command line, and its answers typed before a line that is not read. -/
theorem resolve_spelled_and_typed_pages :
    pagesProject.gatingFault? = none ∧ pagesProject.name.text.toList.head? ≠ some '-' ∧
    (∃ i, Invocation.parse ["my-shop_2", "--framework", "nextjs", "--router", "pages",
        "--language", "typescript", "--package-manager", "npm", "--styling", "tailwind",
        "--tailwind-version", "v4", "--state", "zustand", "--icons", "none",
        "--no-code-quality", "--testing", "--no-api-client"] = .ok i ∧
      (Session.resolveProject i {}).perform { input := [some "unread"] } =
        (.ok pagesProject, { input := [some "unread"], remarks := [pagesProject.collected] })) ∧
    ∃ i, Invocation.parse [] = .ok i ∧
      (Session.resolveProject i {}).perform
        { input := List.map some ["my-shop_2", "nextjs", "pages", "typescript", "npm", "tailwind",
            "v4", "zustand", "none", "n", "y", "n", "unread"] } =
        (.ok pagesProject,
          { input := [some "unread"]
            shown := (pagesProject.exchanges .npm []).map fun e => .prompt e.prompt
            remarks := [pagesProject.collected] }) := by
  have hgates : pagesProject.gatingFault? = none := by decide
  have hname : pagesProject.name.text.toList.head? ≠ some '-' := by decide
  obtain ⟨plan, r, -, hspells, hspelled, i, hi, htyped⟩ := resolve_spelled_and_typed hgates hname
  obtain ⟨j, hj, hresolve⟩ := hspelled _ hspells
  exact ⟨hgates, hname, ⟨j, hj, (hresolve {}).1 _ _ rfl⟩, i, hi, (htyped {}).1 _ _ rfl⟩

end Project

end ReactScaffold
