import ReactScaffold.Proofs.Execution.Steps
import ReactScaffold.Proofs.Host.Tree

/-!
# What is made on the way to a directory

A directory is ensured by making directories on the way to it where nothing was. This holds of any
path, also of one that leads upwards, and on any disk. Whatever else is done, by the program itself
or by a process, directories stay.
-/

namespace ReactScaffold

/-- The places that a path leads through, each after a first of its parts. -/
def Path.placesOnWay (p : Path) (cwd : Place) : List Place :=
  p.parts.inits.map (walkUp (p.anchor.start cwd))

theorem Path.mem_placesOnWay {p : Path} {cwd place : Place} :
    place ∈ p.placesOnWay cwd ↔
      ∃ first, first <+: p.parts ∧ walkUp (p.anchor.start cwd) first = place := by
  simp [placesOnWay]

theorem Path.resolve_mem_placesOnWay (p : Path) (cwd : Place) :
    (p.resolve cwd).parts ∈ p.placesOnWay cwd :=
  mem_placesOnWay.2 ⟨p.parts, List.prefix_rfl, rfl⟩

namespace Disk

variable {d d' d'' : Disk} {cwd : Place}

theorem KeepsDirectories.refl (d : Disk) : KeepsDirectories d d := fun _ h => h

theorem KeepsDirectories.trans (h : KeepsDirectories d d') (h' : KeepsDirectories d' d'') :
    KeepsDirectories d d'' := fun place hplace => h' place (h place hplace)

theorem Fills.keepsDirectories {places : List Place} (h : Fills d d' places) :
    KeepsDirectories d d' := by
  intro place hplace
  rcases h place with hsame | ⟨-, -, hmade⟩
  · exact hsame.trans hplace
  · exact hmade

theorem fills_ensureLast (d : Disk) (cwd : Place) (p : Path) :
    Fills d (d.ensureLast cwd p).1 (p.placesOnWay cwd) := by
  rcases d.ensureLast_cases cwd p with ⟨place, hwalk, hnone, heq⟩ | ⟨place, -, -, heq⟩ | ⟨e, heq⟩
  · obtain rfl := walk_eq_resolve hwalk
    rw [heq]
    refine (fills_set hnone).mono fun place hplace => ?_
    rw [List.mem_singleton.1 hplace]
    exact p.resolve_mem_placesOnWay cwd
  · rw [heq]
    exact .refl d _
  · rw [heq]
    exact .refl d _

theorem placesOnWay_reverse_subset (a : Anchor) (last : String) (above : List String) :
    Path.placesOnWay ⟨a, above.reverse⟩ cwd ⊆
      Path.placesOnWay ⟨a, (last :: above).reverse⟩ cwd := by
  intro place hplace
  obtain ⟨first, hfirst, rfl⟩ := Path.mem_placesOnWay.1 hplace
  refine Path.mem_placesOnWay.2 ⟨first, hfirst.trans ?_, rfl⟩
  rw [List.reverse_cons]
  exact List.prefix_append _ _

theorem fills_ensureReversed (d : Disk) (cwd : Place) (a : Anchor) (parts : List String) :
    Fills d (d.ensureReversed cwd a parts).1 (Path.placesOnWay ⟨a, parts.reverse⟩ cwd) := by
  refine ensureReversed_induction (P := fun parts result =>
    Fills d result.1 (Path.placesOnWay ⟨a, parts.reverse⟩ cwd)) d cwd a ?_ ?_ ?_ parts
  · exact fun parts => d.fills_ensureLast cwd _
  · exact fun last above d₁ _ _ ih =>
      (ih.mono (placesOnWay_reverse_subset a last above)).trans (d₁.fills_ensureLast cwd _)
  · exact fun last above d₁ e ih => ih.mono (placesOnWay_reverse_subset a last above)

/-- Ensuring a directory makes directories on the way to it where nothing was, and changes nothing
else. -/
theorem fills_ensureDirectory (d : Disk) (cwd : Place) (p : Path) :
    Fills d (d.ensureDirectory cwd p).1 (p.placesOnWay cwd) := by
  have h := d.fills_ensureReversed cwd p.anchor p.parts.reverse
  rwa [List.reverse_reverse] at h

/-! ## Processes -/

theorem keepsDirectories_leave (cwd : Place) (d : Disk) (entry : String × Option (List UInt8)) :
    KeepsDirectories d (Session.leave cwd d entry) := by
  unfold Session.leave
  cases entry.2 with
  | none => exact (d.fills_ensureDirectory cwd _).keepsDirectories
  | some content =>
      have hparent := (d.fills_ensureDirectory cwd (Path.ofText entry.1).parent).keepsDirectories
      dsimp only
      cases hwrite : (d.ensureDirectory cwd (Path.ofText entry.1).parent).1.writeFile cwd
          (Path.ofText entry.1) content with
      | error r => exact hparent
      | ok d' =>
          obtain ⟨place, -, hnot, rfl⟩ := writeFile_eq_ok_iff.1 hwrite
          exact hparent.trans (keepsDirectories_set hnot _)

theorem keepsDirectories_leaves (programs : Programs) (cwd : Place) (d : Disk)
    (command : List String) : KeepsDirectories d (programs.leaves cwd d command) := by
  unfold Programs.leaves
  cases programs command with
  | refused e missing => exact .refl d
  | started f =>
      dsimp only
      induction f.created generalizing d with
      | nil => exact .refl d
      | cons entry entries ih => exact (keepsDirectories_leave cwd d entry).trans (ih _)

/-- Commands keep the directories there are. -/
theorem keepsDirectories_foldl_leaves (programs : Programs) (cwd : Place) (d : Disk)
    (commands : List (List String)) :
    KeepsDirectories d (commands.foldl (programs.leaves cwd) d) := by
  induction commands generalizing d with
  | nil => exact .refl d
  | cons command commands ih =>
      exact (keepsDirectories_leaves programs cwd d command).trans (ih _)

end Disk

end ReactScaffold
