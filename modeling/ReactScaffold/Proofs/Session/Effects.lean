import ReactScaffold.Proofs.Host.Conditions
import ReactScaffold.Proofs.Text.Decoding

/-!
# What an operation on files does

Ensuring a directory and writing a file succeed under conditions on the tree that are said here in
full, and make of it what they are meant to. Elsewhere they fail and change nothing. Each of them
may be repeated.
-/

namespace ReactScaffold

open Text

/-- No part of the path is a double dot or too long, and the path has no NUL. -/
structure Path.IsOrdinary (p : Path) : Prop where
  downward : Downward p.parts
  admissible : Session.Admissible p

theorem Path.Spells.isOrdinary {limit : Nat} {text : String} {names : List String}
    (h : Spells limit text names) (hshort : ∀ name ∈ names, name.utf8ByteSize ≤ maxNameOctets) :
    (ofText text).IsOrdinary where
  downward name hname := by
    rw [h.ofText_eq] at hname
    refine ⟨?_, hshort name hname⟩
    rintro rfl
    exact ne_of_isPlainName (h.plain _ hname) rfl rfl
  admissible := by
    rw [h.ofText_eq]
    exact h.notMem_text

theorem Path.Spells.isShort_iff {limit : Nat} {text : String} {names : List String}
    (h : Spells limit text names) :
    (ofText text).IsShort ↔ text.utf8ByteSize ≤ maxPathOctets := by
  rw [h.ofText_eq, IsShort, text_here h.nonempty, ← h.text_eq]

namespace Session

variable {α : Type} {s : Session} {root : Option Path} {path : String}

/-- Where it is allowed the action succeeds and makes a disk as it is said; elsewhere it fails with
an error that names the path. Nothing else changes. -/
structure DoesJust (action : Action Session Unit) (s : Session) (path : String) (allowed : Prop)
    (made : Disk → Prop) : Prop where
  succeeds (h : allowed) : ∃ d, action.perform s = (.ok (), { s with disk := d }) ∧ made d
  refuses (h : ¬ allowed) : ∃ reason,
    action.perform s = (.error (.scaffold (.fileSystem path reason)), s)

/-- Performing the action again gives what it gave and changes nothing more. -/
def Repeats (action : Action Session α) (s : Session) : Prop :=
  action.perform (action.perform s).2 = action.perform s

theorem repeats_of_unchanged {action : Action Session α} (h : (action.perform s).2 = s) :
    Repeats action s := by
  rw [Repeats, h]

/-! ## Ensuring a directory -/

section EnsureDirectory

variable (hs : s.disk.Rooted s.cwd) (hp : (target root path).IsOrdinary)
include hs hp

/-- An ordinary directory that cannot be ensured leaves the disk as it was. -/
theorem eq_of_ensureDirectory_failed {d : Disk} {e : OsError}
    (h : s.disk.ensureDirectory s.cwd (target root path) = (d, some e)) : d = s.disk :=
  (hs.ensureDirectory_failed hp.downward.descends h).2 fun name hname => (hp.downward name hname).2

theorem doesJust_ensureDirectory :
    DoesJust (ensureDirectory root path) s path
      ((target root path).IsShort ∧ s.disk.NoFileAt ((target root path).ancestry s.cwd))
      (fun d => s.disk.Adds d ((target root path).ancestry s.cwd)) where
  succeeds := by
    rintro ⟨hshort, hfile⟩
    obtain ⟨d, hd⟩ := hs.exists_ensured hp.downward hshort hfile
    refine ⟨d, ?_, (hs.ensured hp.downward.descends hd).2.2⟩
    rw [perform_ensureDirectory_of_admissible hp.admissible, hd]
  refuses := by
    intro hnot
    rcases perform_ensureDirectory_cases root path s with
      ⟨hno, -⟩ | ⟨-, ⟨d, hd, -⟩ | ⟨d, e, hd, heq⟩⟩
    · exact absurd hp.admissible hno
    · obtain ⟨hshort, hfile, -⟩ := hs.ensured hp.downward.descends hd
      exact absurd ⟨hshort, hfile⟩ hnot
    · rw [heq, eq_of_ensureDirectory_failed hs hp hd]
      exact ⟨_, rfl⟩

theorem repeats_ensureDirectory : Repeats (ensureDirectory root path) s := by
  rcases perform_ensureDirectory_cases root path s with
    ⟨-, heq⟩ | ⟨-, ⟨d, hd, heq⟩ | ⟨d, e, hd, heq⟩⟩
  · exact repeats_of_unchanged (by rw [heq])
  · -- the directory is there now, so it is left alone
    obtain ⟨place, hplace⟩ := Disk.standsFor_of_ensureDirectory hd
    rw [Repeats, heq, perform_ensureDirectory_of_admissible hp.admissible, hplace.ensureDirectory]
  · exact repeats_of_unchanged (by rw [heq, eq_of_ensureDirectory_failed hs hp hd])

end EnsureDirectory

/-! ## Writing a file -/

theorem doesJust_writeFile (hs : s.disk.Rooted s.cwd) (hp : (target root path).IsOrdinary)
    (content : String) :
    DoesJust (writeFile root path (.ofString content)) s path
      ((target root path).IsShort ∧
        s.disk.get? ((target root path).parent.resolve s.cwd).parts = some .directory ∧
        s.disk.get? ((target root path).resolve s.cwd).parts ≠ some .directory)
      (fun d => s.disk.Puts d ((target root path).resolve s.cwd).parts
        (.file content.toByteArray.data.toList)) := by
  have hperform := perform_writeFile_of_admissible hp.admissible (.ofString content) s
  rw [Utf8.encodeWide_ofString, Utf8.encode_toList] at hperform
  dsimp only at hperform
  constructor
  · intro hallowed
    rw [(hs.writeFile_eq_ok_iff hp.downward).2 ⟨hallowed, rfl⟩] at hperform
    exact ⟨_, hperform, Disk.puts_set s.disk (Disk.ne_nil_of_get?_ne_directory hallowed.2.2) _⟩
  · intro hnot
    cases hwrite : s.disk.writeFile s.cwd (target root path) content.toByteArray.data.toList with
    | ok d => exact absurd ((hs.writeFile_eq_ok_iff hp.downward).1 hwrite).1 hnot
    | error r =>
        rw [hwrite] at hperform
        exact ⟨_, hperform⟩

/-- A text is written as octets, with a result, that do not depend on the session. -/
theorem exists_perform_writeFile (hadmissible : Admissible (target root path))
    (content : WideText) :
    ∃ octets result, ∀ s : Session, (writeFile root path content).perform s =
      match s.disk.writeFile s.cwd (target root path) octets with
      | .ok disk => (result, { s with disk })
      | .error r => (.error ((r.error (target root path).text).report path), s) := by
  cases hencode : Utf8.encodeWide content with
  | ok octets =>
      refine ⟨octets, .ok (), fun s => ?_⟩
      have hperform := perform_writeFile_of_admissible hadmissible content s
      rw [hencode] at hperform
      exact hperform
  | error e =>
      refine ⟨[], .error (.fault (.unencodable e)), fun s => ?_⟩
      have hperform := perform_writeFile_of_admissible hadmissible content s
      rw [hencode] at hperform
      exact hperform

theorem repeats_writeFile (root : Option Path) (path : String) (content : WideText)
    (s : Session) : Repeats (writeFile root path content) s := by
  by_cases hadmissible : Admissible (target root path)
  · obtain ⟨octets, result, hperform⟩ := exists_perform_writeFile hadmissible content
    rw [Repeats, hperform, hperform]
    cases hwrite : s.disk.writeFile s.cwd (target root path) octets with
    | ok d =>
        dsimp only
        rw [Disk.writeFile_again hwrite]
    | error r =>
        dsimp only
        rw [hwrite]
  · exact repeats_of_unchanged (by rw [perform_writeFile_of_not_admissible hadmissible])

end Session

end ReactScaffold
