import ReactScaffold.Proofs.Host.Way

/-!
# Paths below a directory

A path that is joined to one that leads to a directory is followed as it is followed from that
directory. Hence files are read and written and directories are ensured below a root as they are
with the root for the working directory, as long as the joined path is not too long as a whole.
-/

namespace ReactScaffold

namespace Path

/-- The path is no longer as a whole than a path may be. -/
def IsShort (p : Path) : Prop := p.text.utf8ByteSize ≤ maxPathOctets

theorem join_here (root : Path) (names : List String) :
    root.join ⟨.here, names⟩ = ⟨root.anchor, root.parts ++ names⟩ := rfl

theorem text_of_ne_nil {a : Anchor} {parts : List String} (h : parts ≠ []) :
    (⟨a, parts⟩ : Path).text = a.text ++ "/".intercalate parts := by
  simp [text, h]

theorem isShort_nil (a : Anchor) : (⟨a, []⟩ : Path).IsShort := by
  unfold IsShort
  cases a <;> decide

/-- A path is within the limit when it is the beginning of one that is. -/
theorem IsShort.of_prefix {a : Anchor} {first parts : List String}
    (h : (⟨a, parts⟩ : Path).IsShort) (hfirst : first <+: parts) :
    (⟨a, first⟩ : Path).IsShort := by
  by_cases hnil : first = []
  · rw [hnil]
    exact isShort_nil a
  · obtain ⟨rest, rfl⟩ := hfirst
    have hsize := utf8ByteSize_intercalate_append "/" first rest
    unfold IsShort at h ⊢
    rw [text_of_ne_nil (List.append_ne_nil_of_left_ne_nil hnil rest),
      String.utf8ByteSize_append] at h
    rw [text_of_ne_nil hnil, String.utf8ByteSize_append]
    omega

section Join

variable {root : Path} {names : List String} (h : (root.join ⟨.here, names⟩).IsShort)
include h

/-- A path is within the limit when it is so below a root. -/
theorem IsShort.of_join : (⟨.here, names⟩ : Path).IsShort := by
  by_cases hnil : names = []
  · rw [hnil]
    exact isShort_nil .here
  · have hsize := utf8ByteSize_intercalate_append "/" root.parts names
    rw [join_here] at h
    unfold IsShort at h ⊢
    rw [text_of_ne_nil (List.append_ne_nil_of_right_ne_nil _ hnil),
      String.utf8ByteSize_append] at h
    rw [text_here hnil]
    omega

/-- Fewer names below a root are within the limit when more are. -/
theorem IsShort.of_prefix_join {first : List String} (hfirst : first <+: names) :
    (root.join ⟨.here, first⟩).IsShort := by
  rw [join_here] at h ⊢
  exact h.of_prefix ((List.prefix_append_right_inj _).2 hfirst)

end Join

end Path

/-- The words for a refusal are the reason of the error that it is. -/
theorem Refusal.reason_error (r : Refusal) (path : String) : (r.error path).reason = r.text := by
  cases r with
  | notFound => rfl
  | «exists» => rfl
  | notDirectory => rfl
  | isDirectory => rfl
  | nameTooLong => rfl

namespace Disk

variable {d d' : Disk} {cwd place : Place} {root p : Path} {names : List String}

/-- The path leads to a directory, which is at the place. -/
structure StandsFor (d : Disk) (cwd : Place) (root : Path) (place : Place) : Prop where
  walk : d.walk cwd root = .ok place
  directory : d.get? place = some .directory

theorem StandsFor.keep (h : d.StandsFor cwd root place) (hkeeps : KeepsDirectories d d') :
    d'.StandsFor cwd root place where
  walk := hkeeps.walk h.walk
  directory := hkeeps place h.directory

/-- The path without parts stands for the directory that paths with its anchor start from. -/
theorem standsFor_start (a : Anchor) (h : d.get? (a.start cwd) = some .directory) :
    d.StandsFor cwd ⟨a, []⟩ (a.start cwd) where
  walk := walk_eq_foldlM (Path.isShort_nil a)
  directory := h

/-! ## Following a path -/

section Join

variable (h : d.StandsFor cwd root place) (hshort : (root.join ⟨.here, names⟩).IsShort)
include h hshort

/-- A path below a root is followed as it is from the directory that the root stands for. -/
theorem StandsFor.walk_join :
    d.walk cwd (root.join ⟨.here, names⟩) = d.walk place ⟨.here, names⟩ := by
  have hroot := h.walk
  rw [walk_eq_foldlM (utf8ByteSize_le_of_walk_eq hroot (by simp))] at hroot
  rw [walk_eq_foldlM hshort, walk_eq_foldlM hshort.of_join]
  show (root.parts ++ names).foldlM d.step (root.anchor.start cwd) = names.foldlM d.step place
  rw [List.foldlM_append, hroot, ok_bind]

theorem StandsFor.find_join :
    d.find cwd (root.join ⟨.here, names⟩) = d.find place ⟨.here, names⟩ := by
  rw [find, find, h.walk_join hshort]

theorem StandsFor.isDirectory_join :
    d.isDirectory cwd (root.join ⟨.here, names⟩) = d.isDirectory place ⟨.here, names⟩ := by
  rw [isDirectory, isDirectory, h.find_join hshort]

theorem StandsFor.readFile_join :
    d.readFile cwd (root.join ⟨.here, names⟩) = d.readFile place ⟨.here, names⟩ := by
  rw [readFile, readFile, h.find_join hshort]

theorem StandsFor.writeFile_join (content : List UInt8) :
    d.writeFile cwd (root.join ⟨.here, names⟩) content =
      d.writeFile place ⟨.here, names⟩ content := by
  rw [writeFile, writeFile, h.walk_join hshort]

theorem StandsFor.makeDirectory_join :
    d.makeDirectory cwd (root.join ⟨.here, names⟩) = d.makeDirectory place ⟨.here, names⟩ := by
  rw [makeDirectory, makeDirectory, h.walk_join hshort]

end Join

/-! ## Ensuring a directory -/

/-- A directory that is there is left alone. -/
theorem StandsFor.ensureDirectory (h : d.StandsFor cwd root place) :
    d.ensureDirectory cwd root = (d, none) := by
  have hmake : d.makeDirectory cwd root = .error .exists := by
    rw [makeDirectory, h.walk, ok_bind, h.directory]
  have hthere : d.isDirectory cwd root = true := by
    rw [isDirectory, find, h.walk, ok_bind, h.directory]
  rw [Disk.ensureDirectory, ensureReversed_of_ne_notFound (by simp [hmake]), List.reverse_reverse,
    ensureLast, hmake]
  simp [hthere]

theorem standsFor_of_ensureLast (h : d.ensureLast cwd p = (d', none)) :
    ∃ place, d'.StandsFor cwd p place := by
  rcases d.ensureLast_cases cwd p with
    ⟨place, hwalk, hnone, heq⟩ | ⟨place, hwalk, hnode, heq⟩ | ⟨e, heq⟩
  · obtain ⟨rfl, -⟩ := Prod.mk.inj (heq.symm.trans h)
    have hnot : d.get? place ≠ some .directory := by simp [hnone]
    exact ⟨place, (keepsDirectories_set hnot _).walk hwalk,
      get?_set_self d _ (ne_nil_of_get?_ne_directory hnot)⟩
  · obtain ⟨rfl, -⟩ := Prod.mk.inj (heq.symm.trans h)
    exact ⟨place, hwalk, hnode⟩
  · cases heq.symm.trans h

/-- The path of a directory that was ensured stands for it. -/
theorem standsFor_of_ensureDirectory (h : d.ensureDirectory cwd p = (d', none)) :
    ∃ place, d'.StandsFor cwd p place := by
  obtain heq | ⟨last, above, d₁, -, -, -, heq⟩ | ⟨last, above, d₁, e, -, -, heq⟩ :=
    d.ensureReversed_cases cwd p.anchor p.parts.reverse
  · rw [List.reverse_reverse] at heq
    exact standsFor_of_ensureLast (heq.symm.trans h)
  · rw [List.reverse_reverse] at heq
    exact standsFor_of_ensureLast (heq.symm.trans h)
  · cases heq.symm.trans h

/-- The same disk, and errors for the same reason if any. The paths that the errors concern may be
different. -/
inductive Agree : Disk × Option OsError → Disk × Option OsError → Prop where
  | done (d : Disk) : Agree (d, none) (d, none)
  | failed (d : Disk) {e e' : OsError} (h : e.reason = e'.reason) : Agree (d, some e) (d, some e')

theorem Agree.eq_done {x : Disk × Option OsError} (h : Agree x (d, none)) : x = (d, none) := by
  cases h with
  | done => rfl

theorem StandsFor.ensureLast_join (h : d.StandsFor cwd root place)
    (hshort : (root.join ⟨.here, names⟩).IsShort) :
    Agree (d.ensureLast cwd (root.join ⟨.here, names⟩)) (d.ensureLast place ⟨.here, names⟩) := by
  rw [ensureLast, ensureLast, h.makeDirectory_join hshort, h.isDirectory_join hshort]
  cases d.makeDirectory place ⟨.here, names⟩ with
  | ok made => exact .done made
  | error r =>
      dsimp only
      split_ifs
      · exact .done d
      · exact .failed d (by rw [Refusal.reason_error, Refusal.reason_error])

/-- The missing directories below a root are made one after the other as they are from the
directory that it stands for. -/
theorem StandsFor.ensureReversed_join (h : d.StandsFor cwd root place) {parts : List String}
    (hshort : (root.join ⟨.here, parts.reverse⟩).IsShort) :
    Agree (d.ensureReversed cwd root.anchor (parts ++ root.parts.reverse))
      (d.ensureReversed place .here parts) := by
  induction parts with
  | nil =>
      -- the root is there, so nothing above it is looked at
      have hroot : d.ensureReversed cwd root.anchor root.parts.reverse = _ := h.ensureDirectory
      have hhere : d.ensureReversed place .here [] = _ :=
        (standsFor_start .here h.directory).ensureDirectory
      rw [List.nil_append, hroot, hhere]
      exact .done d
  | cons last above ih =>
      have hjoin : (⟨root.anchor, (last :: (above ++ root.parts.reverse)).reverse⟩ : Path) =
          root.join ⟨.here, (last :: above).reverse⟩ := by
        simp [Path.join_here]
      have hmake := h.makeDirectory_join hshort
      rw [← hjoin] at hmake
      rw [List.cons_append]
      by_cases hmissing : d.makeDirectory place ⟨.here, (last :: above).reverse⟩ = .error .notFound
      · -- what is above has been made on both sides, or has failed on both
        have hkeeps := (d.fills_ensureReversed place .here above).keepsDirectories
        have habove := ih (hshort.of_prefix_join (by simp))
        cases hx : d.ensureReversed cwd root.anchor (above ++ root.parts.reverse)
        cases hy : d.ensureReversed place .here above
        rw [hx, hy] at habove
        rw [hy] at hkeeps
        cases habove with
        | done =>
            rw [ensureReversed_of_notFound (hmake.trans hmissing) hx,
              ensureReversed_of_notFound hmissing hy, hjoin]
            exact (h.keep hkeeps).ensureLast_join hshort
        | failed _ hreason =>
            rw [ensureReversed_of_failed (hmake.trans hmissing) hx,
              ensureReversed_of_failed hmissing hy]
            exact .failed _ hreason
      · rw [ensureReversed_of_ne_notFound (hmake.trans_ne hmissing),
          ensureReversed_of_ne_notFound hmissing, hjoin]
        exact h.ensureLast_join hshort

/-- A directory is ensured below a root as it is from the directory that the root stands for. -/
theorem StandsFor.ensureDirectory_join (h : d.StandsFor cwd root place)
    (hshort : (root.join ⟨.here, names⟩).IsShort) :
    Agree (d.ensureDirectory cwd (root.join ⟨.here, names⟩))
      (d.ensureDirectory place ⟨.here, names⟩) := by
  have hshort' : (root.join ⟨.here, names.reverse.reverse⟩).IsShort := by
    rwa [List.reverse_reverse]
  have hreversed := h.ensureReversed_join hshort'
  rwa [← List.reverse_append] at hreversed

end Disk

end ReactScaffold
