import ReactScaffold.Proofs.Host.Way
import ReactScaffold.Proofs.Project.Naming
import ReactScaffold.Proofs.Session.Conversation

/-!
# Work inside a directory

The steps of a plan change the disk below the working directory only, apart from what the commands
leave that they start there. What one step keeps is lifted to a whole run.
-/

namespace ReactScaffold

open ReactScaffold.Action Text

/-- The second disk differs from the first below the place only, where a place is not below
itself. -/
def Disk.ChangesBelow (root : Place) (d d' : Disk) : Prop :=
  ∀ place, d'.get? place = d.get? place ∨ ∃ names, names ≠ [] ∧ place = root ++ names

namespace Disk

variable {d d' : Disk} {root : Place} {names : List String}

theorem ChangesBelow.refl (root : Place) (d : Disk) : d.ChangesBelow root d := fun _ => .inl rfl

theorem ChangesBelow.get?_root (h : d.ChangesBelow root d') : d'.get? root = d.get? root := by
  rcases h root with hsame | ⟨names, hne, hroot⟩
  · exact hsame
  · exact absurd (List.self_eq_append_right.1 hroot) hne

theorem changesBelow_set (hne : names ≠ []) (i : Inode) :
    d.ChangesBelow root (d.set (root ++ names) i) := by
  intro place
  by_cases hplace : root ++ names = place
  · exact .inr ⟨names, hne, hplace.symm⟩
  · exact .inl (get?_set_of_ne d i hplace)

/-- The directories that are made on the way along names that lead downwards from a directory are
below it. -/
theorem Fills.changesBelow (h : Fills d d' (Path.placesOnWay ⟨.here, names⟩ root))
    (hup : ".." ∉ names) (hroot : d.get? root = some .directory) : d.ChangesBelow root d' := by
  intro place
  rcases h place with hsame | ⟨hmem, hnone, -⟩
  · exact .inl hsame
  · obtain ⟨first, hfirst, rfl⟩ := Path.mem_placesOnWay.1 hmem
    rw [Path.walkUp_of_notMem fun hmem => hup (hfirst.subset hmem)] at hnone ⊢
    refine .inr ⟨first, ?_, rfl⟩
    rintro rfl
    rw [List.append_nil] at hnone
    cases hnone.symm.trans hroot

end Disk

namespace Session

/-- The second session comes from the first by what the tool itself changes below the working
directory and by commands that are started there, each of which leaves what it leaves. -/
inductive WorksInside (programs : Programs) (s : Session) : Session → Prop where
  | refl : WorksInside programs s s
  | change {t u : Session} (before : WorksInside programs s t) (cwd : u.cwd = t.cwd)
      (history : u.history = t.history) (below : t.disk.ChangesBelow t.cwd u.disk) :
      WorksInside programs s u
  | starts {t u : Session} {commands : List (List String)} (before : WorksInside programs s t)
      (after : t.AfterStarts programs u commands) : WorksInside programs s u

variable {programs : Programs} {s t u : Session}

theorem WorksInside.trans (h : WorksInside programs s t) (h' : WorksInside programs t u) :
    WorksInside programs s u := by
  induction h' with
  | refl => exact h
  | change _ hcwd hhistory hbelow ih => exact .change ih hcwd hhistory hbelow
  | starts _ hafter ih => exact .starts ih hafter

/-- The working directory stays a directory. -/
theorem WorksInside.here (h : WorksInside programs s t)
    (hs : s.disk.get? s.cwd = some .directory) : t.disk.get? t.cwd = some .directory := by
  induction h with
  | refl => exact hs
  | change _ hcwd _ hbelow ih =>
      rw [hcwd, hbelow.get?_root]
      exact ih
  | starts _ hafter ih =>
      rw [hafter.cwd, hafter.disk]
      exact Disk.keepsDirectories_foldl_leaves programs _ _ _ _ ih

theorem Untouched.worksInside (h : Untouched s t) : WorksInside programs s t :=
  .change .refl h.cwd h.history (by rw [h.disk]; exact .refl _ _)

/-- From a directory, the second session comes from the first by work inside the directory. -/
def Inside (programs : Programs) (s t : Session) : Prop :=
  s.disk.get? s.cwd = some .directory → WorksInside programs s t

instance : IsPreorder Session (Inside programs) where
  refl _ := fun _ => .refl
  trans _ _ _ h h' := fun hs => (h hs).trans (h' ((h hs).here hs))

theorem Untouched.inside (h : Untouched s t) : Inside programs s t := fun _ => h.worksInside

theorem inside_display (e : Event) : Leads (Inside programs) (display e) :=
  leads_modify fun _ => Untouched.inside ⟨rfl, rfl, rfl⟩

theorem inside_displayAll (es : List Event) : Leads (Inside programs) (displayAll es) := by
  induction es with
  | nil => exact leads_pure ()
  | cons e es ih => exact (inside_display e).bind fun _ => ih

theorem inside_remark (level : Level) (topic : Topic) (text : String) :
    Leads (Inside programs) (remark level topic text) :=
  leads_modify fun _ => Untouched.inside ⟨rfl, rfl, rfl⟩

theorem inside_runCommand (command : List String) :
    Leads (Inside programs) ((operations programs).runCommand command) := by
  intro s _
  obtain ⟨t, hafter, heq | ⟨e, heq, -⟩⟩ := perform_runCommand_cases programs command s
  · rw [heq]
    exact .starts .refl hafter
  · rw [heq]
    exact .starts .refl hafter

/-! ## Steps -/

theorem target_of_plain {path : String} (h : Path.Plain path) :
    target none path = ⟨.here, namesOf path⟩ := h.ofText_eq

theorem inside_ensureDirectory {path : String} (h : Path.Plain path) :
    Leads (Inside programs) (ensureDirectory none path) := by
  intro s hs
  have hfills := s.disk.fills_ensureDirectory s.cwd (target none path)
  rw [target_of_plain h] at hfills
  have hbelow := hfills.changesBelow (fun hmem => (h.downward _ hmem).1 rfl) hs
  rcases perform_ensureDirectory_cases none path s with
    ⟨-, heq⟩ | ⟨-, ⟨d, hensure, heq⟩ | ⟨d, e, hensure, heq⟩⟩
  · rw [heq]
    exact .refl
  · rw [← target_of_plain h, hensure] at hbelow
    rw [heq]
    exact .change .refl rfl rfl hbelow
  · rw [← target_of_plain h, hensure] at hbelow
    rw [heq]
    exact .change .refl rfl rfl hbelow

theorem inside_writeFile {path : String} (h : Path.Plain path) (content : WideText) :
    Leads (Inside programs) (writeFile none path content) := by
  intro s hs
  have hset {place : Place} (hwalk : s.disk.walk s.cwd (target none path) = .ok place)
      (i : Inode) : s.disk.ChangesBelow s.cwd (s.disk.set place i) := by
    rw [Disk.walk_eq_resolve hwalk, target_of_plain h]
    show s.disk.ChangesBelow s.cwd (s.disk.set (Path.walkUp s.cwd (namesOf path)) i)
    rw [Path.walkUp_of_notMem fun hmem => (h.downward _ hmem).1 rfl]
    exact Disk.changesBelow_set h.nonempty i
  rcases perform_writeFile_cases none path content s with
    ⟨-, heq⟩ | ⟨reason, heq⟩ | ⟨-, place, hwalk, -, ⟨octets, -, heq⟩ | ⟨e, -, heq⟩⟩
  · rw [heq]
    exact .refl
  · rw [heq]
    exact .refl
  · rw [heq]
    exact .change .refl rfl rfl (hset hwalk _)
  · rw [heq]
    exact .change .refl rfl rfl (hset hwalk _)

/-- A step whose path is plain works inside the working directory. -/
theorem inside_apply {step : Step} (h : ∀ path, step.path? = some path → Path.Plain path) :
    Leads (Inside programs) (step.apply (operations programs)) := by
  cases step with
  | ensureDirectory path => exact inside_ensureDirectory (h path rfl)
  | writeFile path content => exact inside_writeFile (h path rfl) _
  | installDependencies manager packages description =>
      intro s _
      obtain ⟨commands, t, -, hafter, heq | ⟨e, heq, -⟩⟩ :=
        perform_installDependencies_cases programs manager packages description s
      · rw [heq]
        exact .starts .refl hafter
      · rw [heq]
        exact .starts .refl hafter
  | mergeManifestScripts entries manifest =>
      intro s hs
      rcases perform_mergeManifestScripts_cases programs entries manifest s with
        ⟨failure, -, heq⟩ | ⟨members, -, ⟨f, -, heq⟩ | ⟨merged, -, heq⟩⟩
      · rw [heq]
        exact .refl
      · rw [heq]
        exact .refl
      · rw [heq]
        exact inside_writeFile (h manifest rfl) _ s hs

/-- A run of steps whose paths are plain works inside the working directory. -/
theorem inside_runSteps {steps : List Step}
    (h : ∀ step ∈ steps, ∀ path, step.path? = some path → Path.Plain path) (index : Nat)
    (s : Session) : Inside programs s (runSteps (operations programs) index steps s).state := by
  induction steps generalizing index s with
  | nil => exact fun _ => .refl
  | cons step steps ih =>
      have hstep : Leads (Inside programs) _ := inside_apply (h step List.mem_cons_self)
      have hfirst := hstep s
      cases hperform : (step.apply (operations programs)).perform s with
      | mk result t =>
          rw [hperform] at hfirst
          cases result with
          | ok x =>
              rw [runSteps_cons_of_ok _ index steps hperform]
              exact IsTrans.trans _ _ _ hfirst
                (ih (fun step hmem => h step (List.mem_cons_of_mem _ hmem)) (index + 1) t)
          | error failure =>
              rw [runSteps_cons_of_error _ index steps hperform]
              cases failure with
              | fault f => exact hfirst
              | scaffold e => exact IsTrans.trans _ _ _ hfirst (Untouched.inside ⟨rfl, rfl, rfl⟩)

/-- A plan whose paths are plain is run inside the working directory. -/
theorem inside_runPlan {plan : Plan}
    (h : ∀ step ∈ plan.steps, ∀ path, step.path? = some path → Path.Plain path) :
    Leads (Inside programs) (runPlan programs plan) := by
  intro s
  have hrun : Inside programs s (runSteps (operations programs) 0 plan.steps s).state :=
    inside_runSteps h 0 s
  rw [perform_runPlan]
  cases (plan.run (operations programs) s).outcome with
  | error failure => exact hrun
  | ok reports => exact IsTrans.trans _ _ _ hrun (Untouched.inside ⟨rfl, rfl, rfl⟩)

end Session

end ReactScaffold
