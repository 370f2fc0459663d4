import ReactScaffold.Host.Disk
import ReactScaffold.Proofs.OrderedMap
import ReactScaffold.Proofs.Outcome
import Mathlib

/-!
# Reading and writing below directories

A path is followed through directories only, so it leads to the same place on every disk that has
these directories. Writing a file changes what is at one place, which was no directory; hence the
same path leads there afterwards, and everything else stays.
-/

namespace ReactScaffold

namespace Disk

variable {d d' : Disk} {cwd place : Place} {p : Path}

/-- Every directory of the first disk is one of the second. -/
def KeepsDirectories (d d' : Disk) : Prop :=
  ∀ place, d.get? place = some .directory → d'.get? place = some .directory

theorem step_eq_ok {part : String} {next : Place} (h : d.step place part = .ok next) :
    d.get? place = some .directory := by
  unfold step at h
  split at h
  · cases h
  · cases h
  · assumption

theorem eq_of_step_eq_ok {part : String} {next : Place} (h : d.step place part = .ok next) :
    next = if part = ".." then place.dropLast else place ++ [part] := by
  rw [step, step_eq_ok h] at h
  dsimp only at h
  split_ifs at h ⊢ with hup
  · exact (Except.ok.inj h).symm
  · exact (Except.ok.inj h).symm

/-- A path that can be followed leads where it leads lexically. -/
theorem walk_eq_resolve (h : d.walk cwd p = .ok place) : place = (p.resolve cwd).parts := by
  suffices ∀ {parts : List String} {start last : Place}, parts.foldlM d.step start = .ok last →
      last = Path.walkUp start parts by
    by_cases hlong : maxPathOctets < p.text.utf8ByteSize
    · rw [walk, if_pos hlong] at h
      cases h
    · rw [walk, if_neg hlong] at h
      exact this h
  intro parts start last h
  induction parts generalizing start with
  | nil => exact (Except.ok.inj h).symm
  | cons part parts ih =>
      rw [List.foldlM_cons] at h
      obtain ⟨next, hnext, hrest⟩ := bind_eq_ok h
      rw [ih hrest, eq_of_step_eq_ok hnext]
      rfl

theorem KeepsDirectories.step (hkeeps : KeepsDirectories d d') {part : String} {next : Place}
    (h : d.step place part = .ok next) : d'.step place part = .ok next := by
  have hdirectory := step_eq_ok h
  rw [Disk.step, hdirectory] at h
  rw [Disk.step, hkeeps place hdirectory]
  exact h

theorem KeepsDirectories.foldlM (hkeeps : KeepsDirectories d d') {parts : List String}
    {start last : Place} (h : parts.foldlM d.step start = .ok last) :
    parts.foldlM d'.step start = .ok last := by
  induction parts generalizing start with
  | nil => exact h
  | cons part parts ih =>
      rw [List.foldlM_cons] at h ⊢
      obtain ⟨next, hnext, hrest⟩ := bind_eq_ok h
      rw [hkeeps.step hnext]
      exact ih hrest

/-- A path leads to the same place as long as the directories stay. -/
theorem KeepsDirectories.walk (hkeeps : KeepsDirectories d d') (h : d.walk cwd p = .ok place) :
    d'.walk cwd p = .ok place := by
  unfold Disk.walk at h ⊢
  split_ifs at h ⊢ with hlong
  · exact hkeeps.foldlM h
  · exact hkeeps.foldlM h

theorem keepsDirectories_set (h : d.get? place ≠ some .directory) (i : Inode) :
    KeepsDirectories d (d.set place i) := by
  intro other hother
  have hne : place ≠ other := by
    rintro rfl
    exact h hother
  rw [get?_set_of_ne d i hne]
  exact hother

theorem ne_nil_of_get?_ne_directory (h : d.get? place ≠ some .directory) : place ≠ [] := by
  rintro rfl
  exact h rfl

theorem readFile_eq_ok_iff {content : List UInt8} :
    d.readFile cwd p = .ok content ↔
      ∃ place, d.walk cwd p = .ok place ∧ d.get? place = some (.file content) := by
  constructor
  · intro h
    obtain ⟨i, hfind, hfile⟩ := bind_eq_ok h
    obtain ⟨place, hwalk, hnode⟩ := bind_eq_ok hfind
    cases i with
    | directory => cases hfile
    | file found =>
        obtain rfl := Except.ok.inj hfile
        refine ⟨place, hwalk, ?_⟩
        cases hget : d.get? place with
        | none =>
            rw [hget] at hnode
            cases hnode
        | some j =>
            rw [hget] at hnode
            rw [Except.ok.inj hnode]
  · rintro ⟨place, hwalk, hfile⟩
    have hfind : d.find cwd p = .ok (.file content) := by
      rw [find, hwalk, ok_bind, hfile]
    rw [readFile, hfind, ok_bind]

theorem writeFile_eq_ok_iff {content : List UInt8} :
    d.writeFile cwd p content = .ok d' ↔
      ∃ place, d.walk cwd p = .ok place ∧ d.get? place ≠ some .directory ∧
        d' = d.set place (.file content) := by
  constructor
  · intro h
    obtain ⟨place, hwalk, hwrite⟩ := bind_eq_ok h
    refine ⟨place, hwalk, ?_⟩
    split at hwrite
    · cases hwrite
    · rename_i hnot
      exact ⟨hnot, (Except.ok.inj hwrite).symm⟩
  · rintro ⟨place, hwalk, hnot, rfl⟩
    rw [writeFile, hwalk, ok_bind]
    split
    · exact absurd ‹_› hnot
    · rfl

/-- What was written at the end of a path is read there. -/
theorem readFile_set (hwalk : d.walk cwd p = .ok place) (hnot : d.get? place ≠ some .directory)
    (content : List UInt8) : (d.set place (.file content)).readFile cwd p = .ok content := by
  rw [readFile_eq_ok_iff]
  exact ⟨place, (keepsDirectories_set hnot _).walk hwalk,
    get?_set_self d _ (ne_nil_of_get?_ne_directory hnot)⟩

theorem set_set (d : Disk) (place : Place) (i j : Inode) :
    (d.set place i).set place j = d.set place j := by
  rw [set, set, set, OrderedMap.insert_insert_self]

/-- The disk with files of the given contents at the given places. -/
def writeAll (d : Disk) (entries : List (Place × List UInt8)) : Disk :=
  entries.foldl (fun d e => d.set e.1 (.file e.2)) d

theorem writeAll_cons (d : Disk) (e : Place × List UInt8) (entries : List (Place × List UInt8)) :
    d.writeAll (e :: entries) = (d.set e.1 (.file e.2)).writeAll entries := rfl

theorem writeAll_concat (d : Disk) (entries : List (Place × List UInt8)) (place : Place)
    (content : List UInt8) :
    d.writeAll (entries ++ [(place, content)]) = (d.writeAll entries).set place (.file content) :=
  List.foldl_append

theorem get?_writeAll_of_notMem {entries : List (Place × List UInt8)}
    (h : place ∉ entries.map Prod.fst) : (d.writeAll entries).get? place = d.get? place := by
  induction entries generalizing d with
  | nil => rfl
  | cons e entries ih =>
      rw [List.map_cons, List.mem_cons, not_or] at h
      obtain ⟨hne, hrest⟩ := h
      rw [writeAll_cons, ih hrest, get?_set_of_ne d _ (Ne.symm hne)]

theorem keepsDirectories_writeAll {entries : List (Place × List UInt8)}
    (h : ∀ e ∈ entries, d.get? e.1 ≠ some .directory) :
    KeepsDirectories d (d.writeAll entries) := by
  intro place hplace
  rw [get?_writeAll_of_notMem]
  · exact hplace
  · intro hmem
    obtain ⟨e, he, rfl⟩ := List.mem_map.1 hmem
    exact h e he hplace

/-- What files make of a place does not depend on the disk if one of them is there. -/
theorem get?_writeAll_congr {entries : List (Place × List UInt8)}
    (h : place ∉ entries.map Prod.fst → d.get? place = d'.get? place) :
    (d.writeAll entries).get? place = (d'.writeAll entries).get? place := by
  induction entries generalizing d d' with
  | nil => exact h (List.not_mem_nil)
  | cons e entries ih =>
      rw [writeAll_cons, writeAll_cons]
      refine ih fun hrest => ?_
      by_cases heq : e.1 = place
      · subst heq
        by_cases hroot : e.1 = []
        · rw [hroot]
          rfl
        · rw [get?_set_self d _ hroot, get?_set_self d' _ hroot]
      · rw [get?_set_of_ne d _ heq, get?_set_of_ne d' _ heq]
        exact h (by simpa [Ne.symm heq] using hrest)

/-- Files do not make a place a directory. -/
theorem get?_writeAll_ne_directory {entries : List (Place × List UInt8)}
    (h : d.get? place ≠ some .directory) :
    (d.writeAll entries).get? place ≠ some .directory := by
  induction entries generalizing d with
  | nil => exact h
  | cons e entries ih =>
      rw [writeAll_cons]
      refine ih ?_
      by_cases heq : e.1 = place
      · rw [heq, get?_set_self d _ (ne_nil_of_get?_ne_directory h)]
        simp
      · rw [get?_set_of_ne d _ heq]
        exact h

/-- A file that is written once holds what was written. -/
theorem get?_writeAll_of_mem {entries : List (Place × List UInt8)} {e : Place × List UInt8}
    (hnodup : (entries.map Prod.fst).Nodup) (h : e ∈ entries) (hplace : e.1 ≠ []) :
    (d.writeAll entries).get? e.1 = some (.file e.2) := by
  induction entries generalizing d with
  | nil => cases h
  | cons first entries ih =>
      rw [List.map_cons, List.nodup_cons] at hnodup
      obtain ⟨honce, hrest⟩ := hnodup
      rw [writeAll_cons]
      rcases List.mem_cons.1 h with rfl | hmem
      · rw [get?_writeAll_of_notMem honce, get?_set_self d _ hplace]
      · exact ih hrest hmem

end Disk

end ReactScaffold
