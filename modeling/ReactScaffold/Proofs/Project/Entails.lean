import ReactScaffold.Proofs.File.Folder
import ReactScaffold.Proofs.Project.Cases

/-!
# What follows from facts

Facts about a project entail other facts: a project without Next.js has no `app` directory, and one
with Shadcn uses Tailwind. `Fact.rules` lists what follows from what. With the rules, something can
be checked case by case before a project is known: `Cases.Always`.
-/

namespace ReactScaffold

namespace Fact

/-- What follows from what. -/
structure Rule where
  premises : List Fact
  conclusions : List Fact
deriving DecidableEq, Repr

/-- The rules that hold in every project. -/
def rules : List Rule := [
  ⟨[.lacks .nextjs], [.lacks .appRouter]⟩,
  ⟨[.has .appRouter], [.has .nextjs]⟩,
  ⟨[.has .nextjs], [.lacks .protectedRoute]⟩,
  ⟨[.has .protectedRoute], [.lacks .nextjs]⟩,
  ⟨[.has .protectedRoute, .lacks .zustand], [.has .redux]⟩,
  ⟨[.has .redux], [.has .providers, .lacks .zustand, .lacks .tanstack]⟩,
  ⟨[.has .zustand], [.lacks .providers, .lacks .redux, .lacks .tanstack]⟩,
  ⟨[.has .tanstack], [.has .providers, .lacks .redux, .lacks .zustand]⟩,
  ⟨[.styling .tailwind], [.has .tailwind, .lacks .shadcn]⟩,
  ⟨[.styling .shadcn], [.has .tailwind, .has .shadcn, .lacks .tailwindV4]⟩,
  ⟨[.styling .vanillaCss], [.lacks .tailwind, .lacks .shadcn, .lacks .tailwindV4]⟩,
  ⟨[.styling .none], [.lacks .tailwind, .lacks .shadcn, .lacks .tailwindV4]⟩,
  ⟨[.lacks .tailwind], [.lacks .shadcn, .lacks .tailwindV4]⟩,
  ⟨[.has .shadcn], [.styling .shadcn, .has .tailwind, .lacks .tailwindV4]⟩,
  ⟨[.has .tailwindV4], [.styling .tailwind, .has .tailwind, .lacks .shadcn]⟩]

/-- The facts with what follows from them by the rules. -/
def close (facts : List Fact) : List Fact :=
  facts ++ rules.flatMap fun r => if r.premises.all facts.contains then r.conclusions else []

/-- Whether some of the facts exclude one another. -/
def clash (facts : List Fact) : Bool := facts.any fun f => facts.any fun g => f.excludes g

variable {p : Project} {facts : List Fact}

theorem Rule.holds {r : Rule} (hr : r ∈ rules) (h : r.premises.all p.meets = true) :
    r.conclusions.all p.meets = true := by
  fin_cases hr
  all_goals
    simp only [List.all_cons, List.all_nil, Bool.and_true, Project.meets, Project.has,
      Project.isNextjs, Project.isAppRouter, Project.usesTailwind, Project.hasProtectedRoute,
      Project.hasAuthStore, Project.needsProviders] at h ⊢
    grind

theorem all_close (h : facts.all p.meets = true) : (close facts).all p.meets = true := by
  rw [close, List.all_append, h, Bool.true_and, List.all_flatMap, List.all_eq_true]
  intro r hr
  split_ifs with hpremises
  · refine r.holds hr (List.all_eq_true.2 fun f hf => List.all_eq_true.1 h f ?_)
    simpa using List.all_eq_true.1 hpremises f hf
  · rfl

/-- No project meets facts that exclude one another. -/
theorem clash_eq_false (h : facts.all p.meets = true) : clash facts = false := by
  by_contra hclash
  rw [Bool.not_eq_false, clash] at hclash
  obtain ⟨f, hf, hany⟩ := List.any_eq_true.1 hclash
  obtain ⟨g, hg, hexcludes⟩ := List.any_eq_true.1 hany
  have hmeets := List.all_eq_true.1 h g hg
  rw [Project.meets_of_excludes hexcludes (List.all_eq_true.1 h f hf)] at hmeets
  cases hmeets

end Fact

namespace Flavor

/-- The flavors that projects have. -/
def all : List Flavor :=
  [(false, false), (true, false), (true, true)].flatMap fun router =>
    [true, false].map fun typescript => ⟨router.1, router.2, typescript⟩

theorem mem_all (p : Project) : p.flavor ∈ all := by
  have happ : p.isAppRouter = true → p.isNextjs = true := fun h => (Bool.and_eq_true_iff.1 h).1
  unfold Project.flavor
  revert happ
  cases p.isNextjs <;> cases p.isAppRouter <;> cases p.isTypescript
  all_goals decide

/-- Whether projects of a flavor have a trait. -/
def fact (t : Trait) (b : Bool) : Fact := if b then .has t else .lacks t

/-- The facts about projects of a flavor. -/
def facts (f : Flavor) : List Fact :=
  [fact .nextjs f.nextjs, fact .appRouter f.appRouter, fact .typescript f.typescript]

theorem meets_fact (p : Project) (t : Trait) : p.meets (fact t (p.has t)) = true := by
  cases h : p.has t
  all_goals simp [fact, Project.meets, h]

theorem all_facts (p : Project) : p.flavor.facts.all p.meets = true := by
  simp only [facts, List.all_cons, List.all_nil, Bool.and_true, Bool.and_eq_true]
  exact ⟨meets_fact p .nextjs, meets_fact p .appRouter, meets_fact p .typescript⟩

/-- Whether it depends on the flavor alone if a project meets the fact. -/
def settles : Fact → Bool
  | .has t | .lacks t => [Trait.nextjs, .appRouter, .typescript].contains t
  | _ => false

theorem meets_eq_contains (p : Project) {fact : Fact} (h : settles fact = true) :
    p.meets fact = p.flavor.facts.contains fact := by
  have hhas (t : Trait) (ht : t ∈ [Trait.nextjs, .appRouter, .typescript]) :
      p.meets (.has t) = p.flavor.facts.contains (.has t) ∧
        p.meets (.lacks t) = p.flavor.facts.contains (.lacks t) := by
    simp only [Project.meets, Project.flavor, facts]
    have hn : p.has .nextjs = p.isNextjs := rfl
    have ha : p.has .appRouter = p.isAppRouter := rfl
    have hl : p.has .typescript = p.isTypescript := rfl
    fin_cases ht
    · rw [hn]
      cases p.isNextjs <;> cases p.isAppRouter <;> cases p.isTypescript
      all_goals decide
    · rw [ha]
      cases p.isNextjs <;> cases p.isAppRouter <;> cases p.isTypescript
      all_goals decide
    · rw [hl]
      cases p.isNextjs <;> cases p.isAppRouter <;> cases p.isTypescript
      all_goals decide
  cases fact with
  | has t => exact (hhas t (by simpa [settles] using h)).1
  | lacks t => exact (hhas t (by simpa [settles] using h)).2
  | styling | icons | manager => cases h

end Flavor

namespace Cases

variable {α β : Type} {p : Project}

/-- In projects of every flavor, what there is in a case passes the test, given what is known in
this case. -/
def Always (c : Cases α) (test : Flavor → List Fact → α → Bool) : Prop :=
  ∀ f ∈ Flavor.all, ∀ o ∈ c.under f.facts,
    test f (Fact.close o.1) o.2 = true ∨ Fact.clash (Fact.close o.1) = true

instance (c : Cases α) (test : Flavor → List Fact → α → Bool) : Decidable (c.Always test) :=
  inferInstanceAs (Decidable (∀ f ∈ Flavor.all, ∀ o ∈ c.under f.facts, _))

/-- What there is for a project passes the test, given some facts about the project. -/
theorem Always.exists_facts {c : Cases α} {test : Flavor → List Fact → α → Bool}
    (h : c.Always test) {x : α} (hx : x ∈ c.given p) :
    ∃ known : List Fact, known.all p.meets = true ∧ test p.flavor known x = true := by
  have hunder : x ∈ (c.under p.flavor.facts).given p := by
    rwa [given_under, Flavor.all_facts, if_pos rfl]
  obtain ⟨facts, hmem, hfacts⟩ := mem_given.1 hunder
  have hknown := Fact.all_close hfacts
  rcases h p.flavor (Flavor.mem_all p) _ hmem with htest | hclash
  · exact ⟨_, hknown, htest⟩
  · rw [Fact.clash_eq_false hknown] at hclash
    cases hclash

/-- A test that whatever there is passes. -/
structure Check (c : Cases α) where
  test : Flavor → List Fact → α → Bool
  always : c.Always test

/-- A mark that nothing has unless a fact is known. -/
structure Mark (c : Cases α) (fact : Fact) where
  marked : Flavor → α → Bool
  always : c.Always fun f known x => !marked f x || known.contains fact

/-- What there is for a project that does not meet the fact does not have the mark. -/
theorem Mark.eq_false {c : Cases α} {fact : Fact} (m : c.Mark fact) (hfact : p.meets fact = false)
    {x : α} (hx : x ∈ c.given p) : m.marked p.flavor x = false := by
  obtain ⟨known, hknown, htest⟩ := m.always.exists_facts hx
  rw [Bool.or_eq_true] at htest
  rcases htest with hgood | hmem
  · simpa using hgood
  · rw [List.all_eq_true.1 hknown fact (by simpa using hmem)] at hfact
    cases hfact

/-- Whether there is something that passes the test in a case that is known to apply. -/
def offers (c : Cases β) (known : List Fact) (test : β → Bool) : Bool :=
  c.any fun o => test o.2 && o.1.all known.contains

theorem exists_of_offers {c : Cases β} {known : List Fact} {test : β → Bool}
    (hknown : known.all p.meets = true) (h : c.offers known test = true) :
    ∃ y ∈ c.given p, test y = true := by
  obtain ⟨o, ho, h⟩ := List.any_eq_true.1 h
  obtain ⟨htest, hfacts⟩ := Bool.and_eq_true_iff.1 h
  refine ⟨o.2, mem_given.2 ⟨o.1, ho, List.all_eq_true.2 fun f hf => ?_⟩, htest⟩
  exact List.all_eq_true.1 hknown f (by simpa using List.all_eq_true.1 hfacts f hf)

/-- What there is in the cases that apply to projects of a flavor. -/
def inFlavor (f : Flavor) (c : Cases α) : List α :=
  List.map (·.2) (List.filter (fun o => o.1.all f.facts.contains) c)

/-- Cases that depend on the flavor alone. -/
def OfFlavor (c : Cases α) : Bool := c.all fun o => o.1.all Flavor.settles

theorem given_of_ofFlavor {c : Cases α} (h : c.OfFlavor = true) :
    c.given p = c.inFlavor p.flavor := by
  rw [given, inFlavor]
  congr 1
  refine List.filter_congr fun o ho => ?_
  have hfacts := List.all_eq_true.1 (List.all_eq_true.1 h o ho)
  rw [Bool.eq_iff_iff, List.all_eq_true, List.all_eq_true]
  exact forall₂_congr fun fact hfact => by
    rw [Flavor.meets_eq_contains p (hfacts fact hfact)]

end Cases

end ReactScaffold
