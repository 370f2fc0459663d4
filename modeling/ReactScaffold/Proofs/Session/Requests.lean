import ReactScaffold.Proofs.Session.Effects

/-!
# Operations on files below a root

Operations on files are performed one after the other, below a root or from the working directory.
A root that is a directory makes no difference to one that stands in it: what one operation does is
the same (`mirrors_action`), hence so is what all of them do (`performAll_standAt`).
-/

namespace ReactScaffold

open ReactScaffold.Action Text

namespace Session

/-- An operation on files. -/
inductive FileRequest where
  | ensureDirectory (path : String)
  | writeFile (path : String) (content : WideText)
  | readJson (path : String)
  | writeJson (path : String) (document : Json.Document)

namespace FileRequest

/-- The path that the operation is given. -/
def path : FileRequest → String
  | ensureDirectory path => path
  | writeFile path _ => path
  | readJson path => path
  | writeJson path _ => path

/-- What is done for the operation, below a root if there is one. What is read is its result. -/
def action (root : Option Path) : FileRequest → Action Session (Option Members)
  | ensureDirectory path => (fun _ => none) <$> Session.ensureDirectory root path
  | writeFile path content => (fun _ => none) <$> Session.writeFile root path content
  | readJson path => some <$> Session.readJson root path
  | writeJson path document => (fun _ => none) <$> Session.writeJson root path document

/-- Performs operations one after the other, each of them whatever became of those before. -/
def performAll (root : Option Path) :
    List FileRequest → Session → List (Except Failure (Option Members)) × Session
  | [], s => ([], s)
  | q :: rest, s =>
    let (result, t) := (q.action root).perform s
    let (results, u) := performAll root rest t
    (result :: results, u)

end FileRequest

variable {α β : Type} {s : Session} {root : Path} {place : Place} {path : String}

/-- The session with the place for its working directory. -/
def standAt (s : Session) (place : Place) : Session := { s with cwd := place }

/-- The path that the text writes is relative, and below the root it is not too long as a whole. -/
structure LiesBelow (root : Path) (path : String) : Prop where
  relative : (Path.ofText path).isAbsolute = false
  short : (root.join (Path.ofText path)).IsShort

theorem LiesBelow.exists_names (h : LiesBelow root path) :
    ∃ names, Path.ofText path = ⟨.here, names⟩ ∧ (root.join ⟨.here, names⟩).IsShort := by
  obtain ⟨hrelative, hshort⟩ := h
  cases hp : Path.ofText path with
  | mk a names =>
      rw [hp] at hrelative hshort
      obtain rfl : a = .here := by simpa [Path.isAbsolute] using hrelative
      exact ⟨names, rfl, hshort⟩

/-! ## One operation -/

/-- From the place the second action does what the first one does, with the same result. -/
def Mirrors (a b : Action Session α) (s : Session) (place : Place) : Prop :=
  b.perform (s.standAt place) = ((a.perform s).1, (a.perform s).2.standAt place)

theorem Mirrors.map {a b : Action Session α} (h : Mirrors a b s place) (f : α → β) :
    Mirrors (f <$> a) (f <$> b) s place := by
  rw [Mirrors, perform_map, perform_map, h]

section Mirrors

variable (hroot : Admissible root) (hbelow : LiesBelow root path)
include hroot hbelow

theorem admissible_target_iff :
    Admissible (target (some root) path) ↔ Admissible (target none path) := by
  obtain ⟨names, hnames, -⟩ := hbelow.exists_names
  rw [admissible_iff] at hroot
  simp only [target, hnames, admissible_iff, Path.join_here, List.mem_append]
  exact ⟨fun h part hpart => h part (.inr hpart), fun h part => Or.rec (hroot part) (h part)⟩

/-- Paths with a NUL are refused on both sides before the disk is looked at. -/
theorem mirrors_of_admissible {a b : Action Session α}
    (ha : ¬ Admissible (target (some root) path) →
      ∀ s, a.perform s = (.error (.fault .nulInPath), s))
    (hb : ¬ Admissible (target none path) → ∀ s, b.perform s = (.error (.fault .nulInPath), s))
    (hab : Admissible (target (some root) path) → Admissible (target none path) →
      Mirrors a b s place) : Mirrors a b s place := by
  have hiff := admissible_target_iff hroot hbelow
  by_cases hadmissible : Admissible (target none path)
  · exact hab (hiff.2 hadmissible) hadmissible
  · rw [Mirrors, ha fun hyes => hadmissible (hiff.1 hyes), hb hadmissible]

variable (h : s.disk.StandsFor s.cwd root place)
include h

theorem mirrors_ensureDirectory :
    Mirrors (ensureDirectory (some root) path) (ensureDirectory none path) s place := by
  refine mirrors_of_admissible hroot hbelow perform_ensureDirectory_of_not_admissible
    perform_ensureDirectory_of_not_admissible fun hjoined hadmissible => ?_
  obtain ⟨names, hnames, hshort⟩ := hbelow.exists_names
  rw [Mirrors, perform_ensureDirectory_of_admissible hadmissible,
    perform_ensureDirectory_of_admissible hjoined]
  have hagree := h.ensureDirectory_join hshort
  simp only [target, hnames, standAt]
  cases hx : s.disk.ensureDirectory s.cwd (root.join ⟨.here, names⟩)
  cases hy : s.disk.ensureDirectory place ⟨.here, names⟩
  rw [hx, hy] at hagree
  cases hagree with
  | done => rfl
  | failed _ hreason => simp only [OsError.report, hreason]

theorem mirrors_writeFile (content : WideText) :
    Mirrors (writeFile (some root) path content) (writeFile none path content) s place := by
  refine mirrors_of_admissible hroot hbelow (perform_writeFile_of_not_admissible · content)
    (perform_writeFile_of_not_admissible · content) fun hjoined hadmissible => ?_
  obtain ⟨names, hnames, hshort⟩ := hbelow.exists_names
  rw [Mirrors, perform_writeFile_of_admissible hadmissible,
    perform_writeFile_of_admissible hjoined]
  simp only [target, hnames, standAt, h.writeFile_join hshort, report_error]
  split
  · split <;> rfl
  · split <;> rfl

theorem mirrors_readJson :
    Mirrors (readJson (some root) path) (readJson none path) s place := by
  refine mirrors_of_admissible hroot hbelow perform_readJson_of_not_admissible
    perform_readJson_of_not_admissible fun hjoined hadmissible => ?_
  obtain ⟨names, hnames, hshort⟩ := hbelow.exists_names
  rw [Mirrors, perform_readJson_of_admissible hadmissible,
    perform_readJson_of_admissible hjoined]
  simp only [target, hnames, standAt, h.readFile_join hshort, report_error]

end Mirrors

/-- An operation does below a root what it does in the directory that the root stands for. -/
theorem mirrors_action (hroot : Admissible root) {q : FileRequest}
    (hbelow : LiesBelow root q.path) (h : s.disk.StandsFor s.cwd root place) :
    Mirrors (q.action (some root)) (q.action none) s place := by
  cases q with
  | ensureDirectory path => exact (mirrors_ensureDirectory hroot hbelow h).map _
  | writeFile path content => exact (mirrors_writeFile hroot hbelow h content).map _
  | readJson path => exact (mirrors_readJson hroot hbelow h).map _
  | writeJson path document => exact (mirrors_writeFile hroot hbelow h _).map _

/-- An operation changes the disk only, and keeps its directories. -/
theorem exists_disk_action (root : Option Path) (q : FileRequest) (s : Session) :
    ∃ d, ((q.action root).perform s).2 = { s with disk := d } ∧
      Disk.KeepsDirectories s.disk d := by
  have hwrite (path : String) (content : WideText) :
      ∃ d, ((writeFile root path content).perform s).2 = { s with disk := d } ∧
        Disk.KeepsDirectories s.disk d := by
    rcases perform_writeFile_cases root path content s with
      ⟨-, heq⟩ | ⟨reason, heq⟩ | ⟨-, place, -, hnot, ⟨octets, -, heq⟩ | ⟨e, -, heq⟩⟩
    · exact ⟨s.disk, by rw [heq], .refl _⟩
    · exact ⟨s.disk, by rw [heq], .refl _⟩
    · exact ⟨_, by rw [heq], Disk.keepsDirectories_set hnot _⟩
    · exact ⟨_, by rw [heq], Disk.keepsDirectories_set hnot _⟩
  cases q with
  | ensureDirectory path =>
      have hkeeps := (s.disk.fills_ensureDirectory s.cwd (target root path)).keepsDirectories
      simp only [FileRequest.action, perform_map]
      rcases perform_ensureDirectory_cases root path s with
        ⟨-, heq⟩ | ⟨-, ⟨d, hd, heq⟩ | ⟨d, e, hd, heq⟩⟩
      · exact ⟨s.disk, by rw [heq], .refl _⟩
      · exact ⟨d, by rw [heq], by rwa [hd] at hkeeps⟩
      · exact ⟨d, by rw [heq], by rwa [hd] at hkeeps⟩
  | writeFile path content =>
      simp only [FileRequest.action, perform_map]
      exact hwrite path content
  | readJson path =>
      simp only [FileRequest.action, perform_map]
      refine ⟨s.disk, ?_, .refl _⟩
      by_cases hadmissible : Admissible (target root path)
      · rw [perform_readJson_of_admissible hadmissible]
      · rw [perform_readJson_of_not_admissible hadmissible]
  | writeJson path document =>
      simp only [FileRequest.action, perform_map]
      exact hwrite path _

/-! ## All operations -/

/-- Operations do below a root what they do in the directory that the root stands for. -/
theorem performAll_standAt (hroot : Admissible root) {requests : List FileRequest}
    (hbelow : ∀ q ∈ requests, LiesBelow root q.path) (h : s.disk.StandsFor s.cwd root place) :
    FileRequest.performAll none requests (s.standAt place) =
      ((FileRequest.performAll (some root) requests s).1,
        (FileRequest.performAll (some root) requests s).2.standAt place) := by
  induction requests generalizing s with
  | nil => rfl
  | cons q rest ih =>
      obtain ⟨hq, hrest⟩ := List.forall_mem_cons.1 hbelow
      -- the root stands for the same directory after the first operation
      obtain ⟨d, ht, hkeeps⟩ := exists_disk_action (some root) q s
      have hnext : ((q.action (some root)).perform s).2.disk.StandsFor
          ((q.action (some root)).perform s).2.cwd root place := by
        rw [ht]
        exact h.keep hkeeps
      have hfirst : (q.action none).perform (s.standAt place) = _ := mirrors_action hroot hq h
      simp only [FileRequest.performAll, hfirst, ih hrest hnext]

theorem performAll_ensureDirectory (root : Option Path) (path : String) (s : Session) :
    (FileRequest.performAll root [.ensureDirectory path] s).1 =
      [((ensureDirectory root path).perform s).1.map fun _ => none] := by
  simp only [FileRequest.performAll, FileRequest.action, perform_map]

/-- A session on a tree with a directory and a file. -/
def sampleTree : Session where
  disk := ⟨[(["src"], .directory), (["notes"], .file [])]⟩

theorem rooted_sampleTree : sampleTree.disk.Rooted [] := by
  have hsrc : (({} : Disk).set ["src"] .directory).Rooted [] :=
    Disk.rooted_empty.set (by simp [Disk.get?, OrderedMap.get?]) rfl _
  have hnotes : (({} : Disk).set ["src"] .directory).get? ["notes"] ≠ some .directory := by decide
  exact hsrc.set hnotes rfl (.file [])

/-- A name of 250 characters. -/
@[irreducible] def longName : String := String.ofList (List.replicate 250 'n')

/-- Nine names of 250 characters. -/
def deepNames : List String := List.replicate 9 longName

/-- The text of the path along the nine names. -/
@[irreducible] def deepPath : String := "/".intercalate deepNames

theorem utf8ByteSize_replicate (n : Nat) :
    (String.ofList (List.replicate n 'n')).utf8ByteSize = n := by
  induction n with
  | zero => rfl
  | succ n ih =>
      rw [List.replicate_succ, String.ofList_cons, String.utf8ByteSize_append,
        String.utf8ByteSize_singleton, ih, show 'n'.utf8Size = 1 from rfl, Nat.add_comm]

theorem utf8ByteSize_longName : longName.utf8ByteSize = 250 := by
  unfold longName
  exact utf8ByteSize_replicate 250

theorem utf8ByteSize_deep (n : Nat) :
    ("/".intercalate (List.replicate (n + 1) longName)).utf8ByteSize = 251 * n + 250 := by
  induction n with
  | zero =>
      rw [List.replicate_succ, List.replicate_zero, String.intercalate_singleton]
      exact utf8ByteSize_longName
  | succ n ih =>
      rw [List.replicate_succ, String.intercalate_cons_of_ne_nil (by simp),
        String.utf8ByteSize_append, String.utf8ByteSize_append, ih, utf8ByteSize_longName]
      have hslash : "/".utf8ByteSize = 1 := rfl
      omega

theorem isPlainName_longName : isPlainName longName.toList = true := by
  unfold longName
  rw [String.toList_ofList, isPlainName, List.any_replicate, List.all_replicate]
  decide

theorem spells_deepPath : Path.Spells deepPath.length deepPath deepNames where
  text_eq := by
    unfold deepPath
    rfl
  nonempty := List.cons_ne_nil _ _
  plain name hname := by
    rw [List.eq_of_mem_replicate hname]
    exact isPlainName_longName
  short := le_rfl

theorem ofText_deepPath : Path.ofText deepPath = ⟨.here, deepNames⟩ := spells_deepPath.ofText_eq

theorem isShort_deepPath : (Path.ofText deepPath).IsShort := by
  have hsize : deepPath.utf8ByteSize = 251 * 8 + 250 := by
    unfold deepPath
    exact utf8ByteSize_deep 8
  rw [spells_deepPath.isShort_iff, hsize, maxPathOctets]
  omega

/-- The deep path below itself. -/
theorem target_deepPath :
    target (some ⟨.here, deepNames⟩) deepPath = ⟨.here, List.replicate 18 longName⟩ := by
  rw [target, ofText_deepPath, Path.join_here, deepNames, List.replicate_append_replicate]

theorem not_isShort_deepPath :
    ¬ (target (some ⟨.here, deepNames⟩) deepPath).IsShort := by
  rw [target_deepPath, Path.IsShort, Path.text_here (by simp), utf8ByteSize_deep 17, maxPathOctets]
  omega

theorem isOrdinary_deepNames (n : Nat) :
    (⟨.here, List.replicate n longName⟩ : Path).IsOrdinary := by
  refine ⟨fun name h => ?_, admissible_iff.2 fun part h => ?_⟩
  · rw [List.eq_of_mem_replicate h, utf8ByteSize_longName, maxNameOctets]
    refine ⟨?_, by omega⟩
    intro hup
    exact ne_of_isPlainName isPlainName_longName rfl (congrArg String.toList hup)
  · rw [List.eq_of_mem_replicate h]
    exact notMem_of_isPlainName isPlainName_longName rfl

/-- The disk with the directories of the deep path. -/
@[irreducible] def deepDisk : Disk := (({} : Disk).ensureDirectory [] ⟨.here, deepNames⟩).1

/-- The deep path stands for the last of its directories, and there are no files. -/
theorem deepDisk_properties :
    deepDisk.Rooted [] ∧ deepDisk.StandsFor [] ⟨.here, deepNames⟩ deepNames ∧
      ∀ places, deepDisk.NoFileAt places := by
  have hp : Path.Downward (⟨.here, deepNames⟩ : Path).parts := (isOrdinary_deepNames 9).downward
  have hshort := isShort_deepPath
  rw [ofText_deepPath] at hshort
  obtain ⟨d, hd⟩ := Disk.rooted_empty.exists_ensured hp hshort (Disk.noFileAt_empty _)
  have hrooted := Disk.rooted_empty.ensureDirectory ⟨.here, deepNames⟩
  obtain ⟨place, hplace⟩ := Disk.standsFor_of_ensureDirectory hd
  obtain rfl : place = deepNames :=
    (Disk.walk_eq_resolve hplace.walk).trans (Path.resolve_of_descends hp.descends [])
  unfold deepDisk
  rw [hd] at hrooted ⊢
  exact ⟨hrooted, hplace, fun places =>
    (Disk.rooted_empty.ensured hp.descends hd).2.2.noFileAt (Disk.noFileAt_empty places)⟩

/-- A session whose disk holds the directories of the deep path. -/
def deepSession : Session where
  disk := deepDisk

end Session

end ReactScaffold
