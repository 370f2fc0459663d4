import ReactScaffold.Project.Basic
import Mathlib

/-!
# Cases

What is generated for a project depends on a few facts about it. `Cases` lists what there is case by
case, each case with the facts under which it applies, before a project is known. `Cases.given`
takes the cases that apply to a project. Facts that exclude one another are told apart when cases
are combined.
-/

namespace ReactScaffold

/-- What a project has or has not. -/
inductive Trait where
  | nextjs
  | appRouter
  | typescript
  | tailwind
  | shadcn
  | tailwindV4
  | redux
  | zustand
  | tanstack
  | protectedRoute
  | providers
  | apiClient
  | testing
  | codeQuality
deriving DecidableEq, Repr

/-- Whether the project has the trait. -/
def Project.has (p : Project) : Trait → Bool
  | .nextjs => p.isNextjs
  | .appRouter => p.isAppRouter
  | .typescript => p.isTypescript
  | .tailwind => p.usesTailwind
  | .shadcn => p.styling = .shadcn
  | .tailwindV4 => p.styling = .tailwind && p.tailwindVersion = some .v4
  | .redux => p.stateManagement = .redux
  | .zustand => p.stateManagement = .zustand
  | .tanstack => p.stateManagement = .tanstackQuery
  | .protectedRoute => p.hasProtectedRoute
  | .providers => p.needsProviders
  | .apiClient => p.apiClient
  | .testing => p.testing
  | .codeQuality => p.codeQuality

/-- A fact about a project. -/
inductive Fact where
  | has (t : Trait)
  | lacks (t : Trait)
  | styling (s : Styling)
  | icons (i : Icons)
  | manager (m : PackageManager)
deriving DecidableEq, Repr

/-- Whether the fact is one about the project. -/
def Project.meets (p : Project) : Fact → Bool
  | .has t => p.has t
  | .lacks t => !p.has t
  | .styling s => p.styling = s
  | .icons i => p.icons = i
  | .manager m => p.packageManager = m

/-- Whether no project meets both facts, as far as that can be seen from the facts. -/
def Fact.excludes : Fact → Fact → Bool
  | .has t, .lacks u | .lacks t, .has u => t = u
  | .styling s, .styling t => s ≠ t
  | .icons i, .icons j => i ≠ j
  | .manager m, .manager n => m ≠ n
  | _, _ => false

theorem Project.meets_of_excludes {p : Project} {f g : Fact} (h : f.excludes g = true)
    (hf : p.meets f = true) : p.meets g = false := by
  unfold Fact.excludes at h
  split at h
  · obtain rfl := of_decide_eq_true h
    simpa [meets] using hf
  · obtain rfl := of_decide_eq_true h
    simpa [meets] using hf
  · have hne := of_decide_eq_true h
    obtain rfl := of_decide_eq_true hf
    exact decide_eq_false hne
  · have hne := of_decide_eq_true h
    obtain rfl := of_decide_eq_true hf
    exact decide_eq_false hne
  · have hne := of_decide_eq_true h
    obtain rfl := of_decide_eq_true hf
    exact decide_eq_false hne
  · cases h

/-- Facts with more facts, unless some of them exclude one another. -/
def Fact.combine (facts more : List Fact) : Option (List Fact) :=
  if more.any fun f => facts.any fun g => g.excludes f then none
  else some (facts ++ more.filter fun f => !facts.contains f)

/-- What there is case by case, each case with the facts under which it applies. -/
abbrev Cases (α : Type) := List (List Fact × α)

/-- What there is in the cases that apply to the project. -/
def Cases.given {α : Type} (p : Project) (c : Cases α) : List α :=
  (c.filter fun o => o.1.all p.meets).map (·.2)

theorem Fact.all_of_combine {p : Project} {facts more both : List Fact}
    (h : combine facts more = some both) :
    both.all p.meets = (facts.all p.meets && more.all p.meets) := by
  obtain ⟨-, ⟨⟩⟩ := Option.ite_none_left_eq_some.1 h
  rw [Bool.eq_iff_iff]
  simp only [List.all_append, Bool.and_eq_true, List.all_eq_true, List.mem_filter]
  refine and_congr_right fun hfacts => ⟨fun hnew f hf => ?_, fun hmore f hf => hmore f hf.1⟩
  by_cases hmem : f ∈ facts
  · exact hfacts f hmem
  · exact hnew f ⟨hf, by simpa using hmem⟩

theorem Fact.all_of_combine_eq_none {p : Project} {facts more : List Fact}
    (h : combine facts more = none) : (facts.all p.meets && more.all p.meets) = false := by
  rw [combine, ite_eq_left_iff] at h
  have hany : more.any (fun f => facts.any fun g => g.excludes f) = true := by
    by_contra hnot
    cases h hnot
  obtain ⟨f, hf, hany⟩ := List.any_eq_true.1 hany
  obtain ⟨g, hg, hexcludes⟩ := List.any_eq_true.1 hany
  rw [Bool.and_eq_false_iff, List.all_eq_false, List.all_eq_false]
  by_cases hmeets : p.meets g = true
  · exact .inr ⟨f, hf, by simp [Project.meets_of_excludes hexcludes hmeets]⟩
  · exact .inl ⟨g, hg, by simpa using hmeets⟩

namespace Cases

variable {α β : Type}

/-- What there is in every case. -/
def pure (x : α) : Cases α := [([], x)]

/-- All of these under the facts. -/
def of (facts : List Fact) (xs : List α) : Cases α := List.map (fun x => (facts, x)) xs

/-- The cases with what there is mapped. -/
def map (f : α → β) (c : Cases α) : Cases β := List.map (fun o => (o.1, f o.2)) c

/-- The cases with what there is mapped, where that is mapped at all. -/
def filterMap (f : α → Option β) (c : Cases α) : Cases β :=
  List.filterMap (fun o => (f o.2).map fun y => (o.1, y)) c

/-- The cases under more facts. -/
def under (facts : List Fact) (c : Cases α) : Cases α :=
  List.filterMap (fun o => (Fact.combine facts o.1).map fun both => (both, o.2)) c

/-- The cases of what there is in each case. -/
def bind (c : Cases α) (f : α → Cases β) : Cases β := c.flatMap fun o => (f o.2).under o.1

/-- The cases with what there is mapped, if that succeeds in every case. -/
def traverse (f : α → Option β) : Cases α → Option (Cases β)
  | [] => some []
  | (facts, x) :: rest => do return (facts, ← f x) :: (← traverse f rest)

variable {p : Project}

@[simp] theorem given_nil : given p ([] : Cases α) = [] := rfl

@[simp] theorem given_pure (x : α) : (pure x).given p = [x] := rfl

theorem given_cons (facts : List Fact) (x : α) (c : Cases α) :
    given p ((facts, x) :: c) = if facts.all p.meets then x :: c.given p else c.given p := by
  unfold given
  rw [List.filter_cons]
  split_ifs
  · rfl
  · rfl

@[simp] theorem given_append (c d : Cases α) : given p (c ++ d) = c.given p ++ d.given p := by
  simp [given]

@[simp] theorem given_of (facts : List Fact) (xs : List α) :
    (of facts xs).given p = if facts.all p.meets then xs else [] := by
  unfold given of
  rw [List.filter_map, List.map_map]
  split_ifs with h
  · simp [Function.comp_def, h]
  · simp [Function.comp_def, h]

/-- What is there whatever the project is there for the project. -/
theorem given_of_nil (xs : List α) : (of [] xs).given p = xs := given_of [] xs

theorem given_flatMap (f : β → Cases α) (xs : List β) :
    given p (xs.flatMap f) = xs.flatMap fun x => (f x).given p := by
  induction xs with
  | nil => rfl
  | cons x xs ih => rw [List.flatMap_cons, given_append, ih, List.flatMap_cons]

theorem mem_given {c : Cases α} {x : α} :
    x ∈ c.given p ↔ ∃ facts, (facts, x) ∈ c ∧ facts.all p.meets = true := by
  simp [given]

@[simp] theorem given_map (f : α → β) (c : Cases α) : (c.map f).given p = (c.given p).map f := by
  simp [given, map, List.filter_map, Function.comp_def]

@[simp] theorem given_filterMap (f : α → Option β) (c : Cases α) :
    (c.filterMap f).given p = (c.given p).filterMap f := by
  induction c with
  | nil => rfl
  | cons o c ih =>
      obtain ⟨facts, x⟩ := o
      rw [given_cons]
      cases hx : f x with
      | none =>
          have hstep : filterMap f ((facts, x) :: c) = filterMap f c := by simp [filterMap, hx]
          rw [hstep, ih]
          split_ifs
          · simp [hx]
          · rfl
      | some y =>
          have hstep : filterMap f ((facts, x) :: c) = (facts, y) :: filterMap f c := by
            simp [filterMap, hx]
          rw [hstep, given_cons, ih]
          split_ifs
          · simp [hx]
          · rfl

theorem given_under (facts : List Fact) (c : Cases α) :
    (c.under facts).given p = if facts.all p.meets then c.given p else [] := by
  induction c with
  | nil => simp [under]
  | cons o c ih =>
      obtain ⟨more, x⟩ := o
      rw [given_cons]
      cases hcombine : Fact.combine facts more with
      | none =>
          have hstep : under facts ((more, x) :: c) = under facts c := by
            simp [under, hcombine]
          have hboth := Fact.all_of_combine_eq_none (p := p) hcombine
          rw [hstep, ih]
          split_ifs with hfacts hmore
          · simp [hfacts, hmore] at hboth
          · rfl
          · rfl
      | some both =>
          have hstep : under facts ((more, x) :: c) = (both, x) :: under facts c := by
            simp [under, hcombine]
          rw [hstep, given_cons, ih, Fact.all_of_combine hcombine]
          by_cases hfacts : facts.all p.meets = true
          · simp only [hfacts, Bool.true_and, if_true]
          · simp [hfacts]

@[simp] theorem given_bind (c : Cases α) (f : α → Cases β) :
    (c.bind f).given p = (c.given p).flatMap fun x => (f x).given p := by
  induction c with
  | nil => rfl
  | cons o c ih =>
      obtain ⟨facts, x⟩ := o
      have hstep : bind ((facts, x) :: c) f = (f x).under facts ++ bind c f := rfl
      rw [hstep, given_append, given_under, ih, given_cons]
      split_ifs
      · rfl
      · rfl

/-- What succeeds in every case succeeds in those that apply. -/
theorem forall₂_of_traverse {f : α → Option β} {c : Cases α} {d : Cases β}
    (h : traverse f c = some d) : List.Forall₂ (fun x y => f x = some y) (c.given p) (d.given p) := by
  induction c generalizing d with
  | nil =>
      obtain rfl := Option.some.inj h
      exact .nil
  | cons o c ih =>
      obtain ⟨facts, x⟩ := o
      obtain ⟨y, hy, h⟩ := Option.bind_eq_some_iff.1 h
      obtain ⟨rest, hrest, h⟩ := Option.bind_eq_some_iff.1 h
      obtain rfl := Option.some.inj h
      rw [given_cons, given_cons]
      split_ifs
      · exact .cons hy (ih hrest)
      · exact ih hrest

/-- If one thing is there, what it is mapped to is. -/
theorem exists_of_traverse {f : α → Option β} {c : Cases α} {d : Cases β} {x : α}
    (h : traverse f c = some d) (hc : c.given p = [x]) : ∃ y, d.given p = [y] ∧ f x = some y := by
  have hall := forall₂_of_traverse (p := p) h
  rw [hc] at hall
  obtain ⟨y, _, hy, hnil, heq⟩ := List.forall₂_cons_left_iff.1 hall
  rw [List.forall₂_nil_left_iff.1 hnil] at heq
  exact ⟨y, heq, hy⟩

/-- If no case depends on facts but the known ones, what is there is what there is under these. -/
theorem given_eq_of_known {known : List Fact} {c : Cases α} (hknown : known.all p.meets = true)
    (h : ∀ o ∈ c.under known, ∀ f ∈ o.1, f ∈ known) :
    c.given p = List.map (·.2) (c.under known) := by
  have hunder : (c.under known).given p = c.given p := by rw [given_under, if_pos hknown]
  rw [← hunder, given, List.filter_eq_self.2]
  exact fun o ho => List.all_eq_true.2 fun f hf => List.all_eq_true.1 hknown f (h o ho f hf)

/-! ## Cases of a trait -/

/-- The fact that projects are not about which it is said that they have or lack the trait. -/
def opposite (t : Trait) (b : Bool) : Fact := if b then .lacks t else .has t

/-- The cases of projects that have a trait, or of those that lack it. The facts that say so are
left out. -/
def resolve (t : Trait) (b : Bool) (c : Cases α) : Cases α :=
  (List.filter (fun o => !o.1.contains (opposite t b)) c).map fun o =>
    (o.1.filter fun f => f ≠ .has t && f ≠ .lacks t, o.2)

theorem meets_opposite {t : Trait} {b : Bool} (h : p.has t = b) :
    p.meets (opposite t b) = false := by
  subst h
  cases h : p.has t <;> simp [opposite, Project.meets, h]

theorem all_resolve {t : Trait} {b : Bool} (h : p.has t = b) (facts : List Fact) :
    ((facts.filter fun f => f ≠ .has t && f ≠ .lacks t).all p.meets &&
      !facts.contains (opposite t b)) = facts.all p.meets := by
  rw [Bool.eq_iff_iff]
  simp only [Bool.and_eq_true, List.all_eq_true, List.mem_filter, Bool.not_eq_true',
    decide_eq_true_eq, List.contains_eq_mem, decide_eq_false_iff_not]
  constructor
  · -- A fact that was left out and does not hold would be the opposite one.
    rintro ⟨hothers, hnot⟩ f hf
    by_contra hmeets
    refine hmeets (hothers f ⟨hf, ?_, ?_⟩)
    · rintro rfl
      have hb : b = false := h.symm.trans (Bool.eq_false_iff.2 hmeets)
      rw [hb] at hnot
      exact hnot hf
    · rintro rfl
      have hb : b = true := h.symm.trans (by simpa [Project.meets] using hmeets)
      rw [hb] at hnot
      exact hnot hf
  · intro hall
    refine ⟨fun f hf => hall f hf.1, fun hmem => ?_⟩
    have hmeets := hall _ hmem
    rw [meets_opposite h] at hmeets
    cases hmeets

/-- Nothing is lost in a project that has or lacks the trait, as it is said. -/
theorem given_resolve {t : Trait} {b : Bool} (h : p.has t = b) (c : Cases α) :
    (c.resolve t b).given p = c.given p := by
  simp only [given, resolve, List.filter_map, List.filter_filter, List.map_map, Function.comp_def,
    all_resolve h]

theorem given_congr {q : Project} {c : Cases α} (h : ∀ o ∈ c, ∀ f ∈ o.1, p.meets f = q.meets f) :
    c.given p = c.given q := by
  refine congrArg _ (List.filter_congr fun o ho => ?_)
  rw [Bool.eq_iff_iff, List.all_eq_true, List.all_eq_true]
  exact forall₂_congr fun f hf => by rw [h o ho f hf]

end Cases

end ReactScaffold
