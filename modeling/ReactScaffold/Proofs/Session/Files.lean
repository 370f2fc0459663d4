import ReactScaffold.Session.Files
import ReactScaffold.Proofs.Host.Disk
import ReactScaffold.Proofs.Host.Path
import ReactScaffold.Proofs.Json.ReadBack

/-!
# Reading and writing documents in a session

When a session reads an object and when it writes a document, said in terms of its disk; and that a
written object is read back.
-/

namespace ReactScaffold.Session

open Text ReactScaffold.Action

variable {s s' : Session} {root : Option Path} {path : String}

/-- The text of the path can be handed to the operating system. -/
def Admissible (p : Path) : Prop := '\x00' ∉ p.text.toList

/-- A path can be handed to the operating system when its parts can. -/
theorem admissible_iff {p : Path} : Admissible p ↔ ∀ part ∈ p.parts, '\x00' ∉ part.toList := by
  have hanchor (a : Anchor) : '\x00' ∉ a.text.toList := by cases a <;> decide
  unfold Admissible Path.text
  split_ifs with hhere
  · have hnil : p.parts = [] := by simp_all
    simp [hnil]
  · rw [String.toList_append, List.mem_append, String.toList_intercalate]
    constructor
    · intro h part hpart hzero
      exact h (.inr (mem_intercalate_of_mem (List.mem_map_of_mem hpart) hzero))
    · rintro h (hmem | hmem)
      · exact hanchor _ hmem
      · rcases mem_of_mem_intercalate hmem with hslash | ⟨cs, hcs, hzero⟩
        · exact absurd hslash (by decide)
        · obtain ⟨part, hpart, rfl⟩ := List.mem_map.1 hcs
          exact h part hpart hzero

/-- The path leads to a file that holds the object. -/
def HoldsObject (s : Session) (p : Path) (members : Members) : Prop :=
  Admissible p ∧ ∃ octets cs, s.disk.readFile s.cwd p = .ok octets ∧
    Utf8.decode octets = .ok cs ∧ Json.parse (normalizeLineEndings cs) = .ok (.obj members)

theorem perform_requirePath_of_admissible {p : Path} (h : Admissible p) (s : Session) :
    (requirePath p).perform s = (.ok (), s) := by
  rw [requirePath, if_neg (by rwa [List.contains_iff_mem])]
  rfl

theorem perform_requirePath_of_not_admissible {p : Path} (h : ¬ Admissible p) (s : Session) :
    (requirePath p).perform s = (.error (.fault .nulInPath), s) := by
  have hmem : '\x00' ∈ p.text.toList := Decidable.not_not.1 h
  rw [requirePath, if_pos (List.contains_iff_mem.2 hmem)]
  rfl

theorem perform_readOctets_of_admissible {p : Path} (h : Admissible p) (s : Session) :
    (readOctets p).perform s =
      (.ok ((s.disk.readFile s.cwd p).mapError fun r => r.error p.text), s) := by
  simp only [readOctets, perform_bind, perform_requirePath_of_admissible h, perform_get,
    perform_pure]
  cases s.disk.readFile s.cwd p with
  | ok octets => rfl
  | error r => rfl

theorem perform_writeOctets_of_admissible {p : Path} (h : Admissible p) (octets : List UInt8)
    (s : Session) :
    (writeOctets p octets).perform s =
      match s.disk.writeFile s.cwd p octets with
      | .ok disk => (.ok none, { s with disk })
      | .error r => (.ok (some (r.error p.text)), s) := by
  simp only [writeOctets, perform_bind, perform_requirePath_of_admissible h, perform_modifyGet]
  cases s.disk.writeFile s.cwd p octets with
  | ok disk => rfl
  | error r => rfl

theorem parseObject_eq_ok {cs : List Char} {members : Members}
    (h : parseObject path cs = .ok members) : Json.parse cs = .ok (.obj members) := by
  unfold parseObject at h
  dsimp only at h
  split at h
  · obtain rfl := Except.ok.inj h
    assumption
  · cases h
  · cases h
  · cases h

theorem perform_readJson_of_not_admissible (h : ¬ Admissible (target root path)) (s : Session) :
    (readJson root path).perform s = (.error (.fault .nulInPath), s) := by
  rw [readJson, perform_bind, readOctets, perform_bind, perform_requirePath_of_not_admissible h]

/-- What becomes of reading an object. -/
theorem perform_readJson_of_admissible (h : Admissible (target root path)) (s : Session) :
    (readJson root path).perform s =
      (match s.disk.readFile s.cwd (target root path) with
        | .error r => .error ((r.error (target root path).text).report path)
        | .ok octets =>
          match Utf8.decode octets with
          | .error e =>
            .error (.scaffold (.fileSystem path ("not valid UTF-8: " ++ e.flaw.reason)))
          | .ok cs => parseObject path (normalizeLineEndings cs), s) := by
  rw [readJson, perform_bind, perform_readOctets_of_admissible h]
  cases s.disk.readFile s.cwd (target root path) with
  | error r => rfl
  | ok octets =>
      dsimp only [Except.mapError]
      cases Utf8.decode octets with
      | error e => rfl
      | ok cs =>
          dsimp only
          rw [perform_ofExcept]
          cases parseObject path (normalizeLineEndings cs) with
          | error f => rfl
          | ok members => rfl

theorem holdsObject_of_readJson {members : Members}
    (h : (readJson root path).perform s = (.ok members, s')) :
    s' = s ∧ HoldsObject s (target root path) members := by
  by_cases hadmissible : Admissible (target root path)
  · rw [perform_readJson_of_admissible hadmissible, Prod.mk.injEq] at h
    obtain ⟨hresult, rfl⟩ := h
    split at hresult
    · cases hresult
    · rename_i octets hread
      split at hresult
      · cases hresult
      · rename_i cs hdecode
        exact ⟨rfl, hadmissible, octets, cs, hread, hdecode, parseObject_eq_ok hresult⟩
  · cases (perform_readJson_of_not_admissible hadmissible s).symm.trans h

theorem readJson_of_holdsObject {members : Members} (h : HoldsObject s (target root path) members) :
    (readJson root path).perform s = (.ok members, s) := by
  obtain ⟨hadmissible, octets, cs, hread, hdecode, hparse⟩ := h
  rw [readJson, perform_bind, perform_readOctets_of_admissible hadmissible, hread]
  dsimp only [Except.mapError]
  rw [hdecode]
  dsimp only
  rw [perform_ofExcept, parseObject, hparse]
  rfl

/-- Reading an object changes nothing, and succeeds just when the file holds the object. -/
theorem perform_readJson_eq_ok_iff {members : Members} :
    (readJson root path).perform s = (.ok members, s') ↔
      s' = s ∧ HoldsObject s (target root path) members := by
  constructor
  · exact holdsObject_of_readJson
  · rintro ⟨rfl, h⟩
    exact readJson_of_holdsObject h

/-- A text is written when it has octets and the path leads to no directory. -/
theorem perform_writeFile_of_walk {content : WideText} {octets : List UInt8} {place : Place}
    (hadmissible : Admissible (target root path)) (hencode : Utf8.encodeWide content = .ok octets)
    (hwalk : s.disk.walk s.cwd (target root path) = .ok place)
    (hnot : s.disk.get? place ≠ some .directory) :
    (writeFile root path content).perform s =
      (.ok (), { s with disk := s.disk.set place (.file octets) }) := by
  have hwrite : s.disk.writeFile s.cwd (target root path) octets =
      .ok (s.disk.set place (.file octets)) :=
    Disk.writeFile_eq_ok_iff.2 ⟨place, hwalk, hnot, rfl⟩
  simp only [writeFile, hencode, perform_bind, perform_writeOctets_of_admissible hadmissible,
    hwrite]
  rfl

theorem perform_writeFile_of_not_admissible (h : ¬ Admissible (target root path))
    (content : WideText) (s : Session) :
    (writeFile root path content).perform s = (.error (.fault .nulInPath), s) := by
  have hrefused (octets : List UInt8) : (writeOctets (target root path) octets).perform s =
      (.error (.fault .nulInPath), s) := by
    rw [writeOctets, perform_bind, perform_requirePath_of_not_admissible h]
  unfold writeFile
  cases Utf8.encodeWide content with
  | ok octets => rw [perform_bind, hrefused]
  | error e => rw [perform_bind, hrefused]

/-- What becomes of writing a text. One that has no octets leaves an empty file. -/
theorem perform_writeFile_of_admissible (h : Admissible (target root path)) (content : WideText)
    (s : Session) :
    (writeFile root path content).perform s =
      match Utf8.encodeWide content with
      | .ok octets =>
        match s.disk.writeFile s.cwd (target root path) octets with
        | .ok disk => (.ok (), { s with disk })
        | .error r => (.error ((r.error (target root path).text).report path), s)
      | .error e =>
        match s.disk.writeFile s.cwd (target root path) [] with
        | .ok disk => (.error (.fault (.unencodable e)), { s with disk })
        | .error r => (.error ((r.error (target root path).text).report path), s) := by
  unfold writeFile
  cases Utf8.encodeWide content with
  | ok octets =>
      simp only [perform_bind, perform_writeOctets_of_admissible h]
      cases s.disk.writeFile s.cwd (target root path) octets with
      | ok disk => rfl
      | error r => rfl
  | error e =>
      simp only [perform_bind, perform_writeOctets_of_admissible h]
      cases s.disk.writeFile s.cwd (target root path) [] with
      | ok disk => rfl
      | error r => rfl

/-- All that writing a text can come to. -/
theorem perform_writeFile_cases (root : Option Path) (path : String) (content : WideText)
    (s : Session) :
    (¬ Admissible (target root path) ∧
        (writeFile root path content).perform s = (.error (.fault .nulInPath), s)) ∨
      (∃ reason, (writeFile root path content).perform s =
        (.error (.scaffold (.fileSystem path reason)), s)) ∨
      Admissible (target root path) ∧ ∃ place, s.disk.walk s.cwd (target root path) = .ok place ∧
        s.disk.get? place ≠ some .directory ∧
        ((∃ octets, Utf8.encodeWide content = .ok octets ∧
            (writeFile root path content).perform s =
              (.ok (), { s with disk := s.disk.set place (.file octets) })) ∨
          ∃ e, Utf8.encodeWide content = .error e ∧
            (writeFile root path content).perform s =
              (.error (.fault (.unencodable e)),
                { s with disk := s.disk.set place (.file []) })) := by
  by_cases hadmissible : Admissible (target root path)
  · rw [perform_writeFile_of_admissible hadmissible]
    cases hencode : Utf8.encodeWide content with
    | ok octets =>
        dsimp only
        cases hwrite : s.disk.writeFile s.cwd (target root path) octets with
        | error r => exact .inr (.inl ⟨_, rfl⟩)
        | ok disk =>
            obtain ⟨place, hwalk, hnot, rfl⟩ := Disk.writeFile_eq_ok_iff.1 hwrite
            exact .inr (.inr ⟨hadmissible, place, hwalk, hnot, .inl ⟨octets, rfl, rfl⟩⟩)
    | error e =>
        dsimp only
        cases hwrite : s.disk.writeFile s.cwd (target root path) [] with
        | error r => exact .inr (.inl ⟨_, rfl⟩)
        | ok disk =>
            obtain ⟨place, hwalk, hnot, rfl⟩ := Disk.writeFile_eq_ok_iff.1 hwrite
            exact .inr (.inr ⟨hadmissible, place, hwalk, hnot, .inr ⟨e, rfl, rfl⟩⟩)
  · exact .inl ⟨hadmissible, perform_writeFile_of_not_admissible hadmissible content s⟩

theorem admissible_of_writeFile {content : WideText}
    (h : (writeFile root path content).perform s = (.ok (), s')) :
    Admissible (target root path) := by
  by_contra hadmissible
  rw [perform_writeFile_of_not_admissible hadmissible] at h
  cases h

/-- A text that was written has octets, and the path leads to no directory. -/
theorem exists_walk_of_writeFile {content : WideText}
    (h : (writeFile root path content).perform s = (.ok (), s')) :
    ∃ octets place, Utf8.encodeWide content = .ok octets ∧
      s.disk.walk s.cwd (target root path) = .ok place ∧
      s.disk.get? place ≠ some .directory ∧
      s' = { s with disk := s.disk.set place (.file octets) } := by
  rcases perform_writeFile_cases root path content s with
    ⟨-, heq⟩ | ⟨reason, heq⟩ | ⟨-, place, hwalk, hnot, ⟨octets, hencode, heq⟩ | ⟨e, -, heq⟩⟩
  · cases heq.symm.trans h
  · cases heq.symm.trans h
  · obtain ⟨-, rfl⟩ := Prod.mk.inj (heq.symm.trans h)
    exact ⟨octets, place, hencode, hwalk, hnot, rfl⟩
  · cases heq.symm.trans h

/-- An object whose octets are written is held by the file. -/
theorem holdsObject_set {written : Members} {octets : List UInt8} {place : Place}
    (hadmissible : Admissible (target root path))
    (hreadable : Json.Readable Json.Rules.lenient.maxNesting (.obj written))
    (hencode : Utf8.encodeWide (Json.dumpDocument (.obj written)) = .ok octets)
    (hwalk : s.disk.walk s.cwd (target root path) = .ok place)
    (hnot : s.disk.get? place ≠ some .directory) :
    HoldsObject { s with disk := s.disk.set place (.file octets) } (target root path) written := by
  obtain ⟨cs, hdecode, hparse⟩ := Json.parse_of_encodeWide hreadable hencode
  exact ⟨hadmissible, octets, cs, Disk.readFile_set hwalk hnot octets, hdecode, hparse⟩

/-- An object that was written where an object is held is held there afterwards. -/
theorem holdsObject_of_writeJson {members written : Members}
    (hmembers : HoldsObject s (target root path) members)
    (hreadable : Json.Readable Json.Rules.lenient.maxNesting (.obj written))
    (h : (writeJson root path (.obj written)).perform s = (.ok (), s')) :
    HoldsObject s' (target root path) written ∧
      ∃ octets place, s.disk.walk s.cwd (target root path) = .ok place ∧
        s' = { s with disk := s.disk.set place (.file octets) } := by
  obtain ⟨octets, place, hencode, hwalk, hnot, rfl⟩ := exists_walk_of_writeFile h
  exact ⟨holdsObject_set hmembers.1 hreadable hencode hwalk hnot, octets, place, hwalk, rfl⟩

/-! ## What each operation comes to -/

/-- A refusal is reported with the path as it was given. -/
theorem report_error (r : Refusal) (text path : String) :
    (r.error text).report path = .scaffold (.fileSystem path r.text) := by
  cases r with
  | notFound => rfl
  | «exists» => rfl
  | notDirectory => rfl
  | isDirectory => rfl
  | nameTooLong => rfl

theorem perform_ensureDirectory_of_not_admissible (h : ¬ Admissible (target root path))
    (s : Session) :
    (ensureDirectory root path).perform s = (.error (.fault .nulInPath), s) := by
  rw [ensureDirectory, perform_bind, makeDirectories, perform_bind,
    perform_requirePath_of_not_admissible h]

/-- What becomes of ensuring a directory. -/
theorem perform_ensureDirectory_of_admissible (h : Admissible (target root path)) (s : Session) :
    (ensureDirectory root path).perform s =
      match s.disk.ensureDirectory s.cwd (target root path) with
      | (disk, none) => (.ok (), { s with disk })
      | (disk, some e) => (.error (e.report path), { s with disk }) := by
  simp only [ensureDirectory, makeDirectories, perform_bind, perform_requirePath_of_admissible h,
    perform_modifyGet]
  cases s.disk.ensureDirectory s.cwd (target root path) with
  | mk disk failed =>
      cases failed with
      | none => rfl
      | some e => rfl

/-- All that ensuring a directory can come to. -/
theorem perform_ensureDirectory_cases (root : Option Path) (path : String) (s : Session) :
    (¬ Admissible (target root path) ∧
        (ensureDirectory root path).perform s = (.error (.fault .nulInPath), s)) ∨
      Admissible (target root path) ∧
        ((∃ d, s.disk.ensureDirectory s.cwd (target root path) = (d, none) ∧
            (ensureDirectory root path).perform s = (.ok (), { s with disk := d })) ∨
          ∃ d e, s.disk.ensureDirectory s.cwd (target root path) = (d, some e) ∧
            (ensureDirectory root path).perform s =
              (.error (.scaffold (.fileSystem path e.reason)), { s with disk := d })) := by
  by_cases hadmissible : Admissible (target root path)
  · rw [perform_ensureDirectory_of_admissible hadmissible]
    refine .inr ⟨hadmissible, ?_⟩
    cases s.disk.ensureDirectory s.cwd (target root path) with
    | mk d failed =>
        cases failed with
        | none => exact .inl ⟨d, rfl, rfl⟩
        | some e => exact .inr ⟨d, e, rfl, rfl⟩
  · exact .inl ⟨hadmissible, perform_ensureDirectory_of_not_admissible hadmissible s⟩

theorem perform_ensureDirectory_of_failed {d : Disk} {e : OsError}
    (hadmissible : Admissible (target root path))
    (hfailed : s.disk.ensureDirectory s.cwd (target root path) = (d, some e)) :
    (ensureDirectory root path).perform s = (.error (e.report path), { s with disk := d }) := by
  rw [perform_ensureDirectory_of_admissible hadmissible, hfailed]

/-- The path leads to a file whose text is beyond what the reader can take. -/
def HoldsUnreadable (s : Session) (p : Path) (flaw : Json.Flaw) : Prop :=
  Admissible p ∧ (∀ expected left, flaw ≠ .miss expected left) ∧
    ∃ octets cs, s.disk.readFile s.cwd p = .ok octets ∧ Utf8.decode octets = .ok cs ∧
      Json.parse (normalizeLineEndings cs) = .error flaw

/-- An object cannot be read for a reason that is told with the path, or because the path cannot be
handed over or the text is beyond what the reader can take. -/
theorem perform_readJson_eq_error {failure : Failure}
    (h : (readJson root path).perform s = (.error failure, s')) :
    s' = s ∧
      ((∃ reason, failure = .scaffold (.fileSystem path reason)) ∨
        (¬ Admissible (target root path) ∧ failure = .fault .nulInPath) ∨
        ∃ flaw, HoldsUnreadable s (target root path) flaw ∧ failure = .fault (.json flaw)) := by
  by_cases hadmissible : Admissible (target root path)
  · rw [perform_readJson_of_admissible hadmissible, Prod.mk.injEq] at h
    obtain ⟨hresult, rfl⟩ := h
    refine ⟨rfl, ?_⟩
    split at hresult
    · cases hresult
      exact .inl ⟨_, rfl⟩
    · rename_i octets hread
      split at hresult
      · cases hresult
        exact .inl ⟨_, rfl⟩
      · rename_i cs hdecode
        unfold parseObject at hresult
        dsimp only at hresult
        split at hresult
        · cases hresult
        · cases hresult
          exact .inl ⟨_, rfl⟩
        · cases hresult
          exact .inl ⟨_, rfl⟩
        · rename_i flaw hmiss hparse
          cases hresult
          exact .inr (.inr ⟨flaw, ⟨hadmissible, hmiss, octets, cs, hread, hdecode, hparse⟩, rfl⟩)
  · rw [perform_readJson_of_not_admissible hadmissible, Prod.mk.injEq] at h
    obtain ⟨hresult, rfl⟩ := h
    exact ⟨rfl, .inr (.inl ⟨hadmissible, (Except.error.inj hresult).symm⟩)⟩

theorem perform_readJson_of_unreadable {flaw : Json.Flaw}
    (h : HoldsUnreadable s (target root path) flaw) :
    (readJson root path).perform s = (.error (.fault (.json flaw)), s) := by
  obtain ⟨hadmissible, hmiss, octets, cs, hread, hdecode, hparse⟩ := h
  rw [perform_readJson_of_admissible hadmissible, hread]
  dsimp only
  rw [hdecode]
  dsimp only
  rw [parseObject, hparse]
  cases flaw with
  | miss expected left => exact absurd rfl (hmiss expected left)
  | tooManyDigits count => rfl
  | nestedTooDeeply container => rfl

/-- What becomes of writing a text where a file can be read. -/
theorem perform_writeFile_of_readFile {octets : List UInt8}
    (hadmissible : Admissible (target root path))
    (hread : s.disk.readFile s.cwd (target root path) = .ok octets) (content : WideText) :
    ∃ place, s.disk.walk s.cwd (target root path) = .ok place ∧
      s.disk.get? place ≠ some .directory ∧
      (writeFile root path content).perform s =
        match Utf8.encodeWide content with
        | .ok written => (.ok (), { s with disk := s.disk.set place (.file written) })
        | .error e =>
          (.error (.fault (.unencodable e)), { s with disk := s.disk.set place (.file []) }) := by
  obtain ⟨place, hwalk, hfile⟩ := Disk.readFile_eq_ok_iff.1 hread
  have hnot : s.disk.get? place ≠ some .directory := by simp [hfile]
  have hwrite (written : List UInt8) : s.disk.writeFile s.cwd (target root path) written =
      .ok (s.disk.set place (.file written)) :=
    Disk.writeFile_eq_ok_iff.2 ⟨place, hwalk, hnot, rfl⟩
  refine ⟨place, hwalk, hnot, ?_⟩
  rw [perform_writeFile_of_admissible hadmissible]
  simp only [hwrite]

end ReactScaffold.Session
