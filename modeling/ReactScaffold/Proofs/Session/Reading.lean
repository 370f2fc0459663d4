import ReactScaffold.Proofs.Json.Excess
import ReactScaffold.Proofs.Session.Files
import ReactScaffold.Proofs.Text.Decoding

/-!
# When an object is read

An object is read just from a file with the octets of a text that is spelled as the object. What
else there may be at the path is reported with the path as it was given, but for a path that cannot
be handed to the operating system and a text that goes beyond the limits of the reader.
-/

namespace ReactScaffold

open Text

namespace Session

variable {s : Session} {root : Option Path} {path : String} {p : Path} {cs : List Char}

/-- The path leads to a file with the octets of the text. Each line ending counts as a line feed. -/
def HoldsText (s : Session) (p : Path) (cs : List Char) : Prop :=
  Admissible p ∧ ∃ place written, s.disk.walk s.cwd p = .ok place ∧
    s.disk.get? place = some (.file (Utf8.encode written)) ∧ normalizeLineEndings written = cs

/-- A path holds a text just when its octets are read and decoded. -/
theorem holdsText_iff :
    HoldsText s p cs ↔ Admissible p ∧ ∃ octets written, s.disk.readFile s.cwd p = .ok octets ∧
      Utf8.decode octets = .ok written ∧ normalizeLineEndings written = cs := by
  refine and_congr_right fun _ => ?_
  constructor
  · rintro ⟨place, written, hwalk, hfile, hlines⟩
    exact ⟨_, written, Disk.readFile_eq_ok_iff.2 ⟨place, hwalk, hfile⟩, Utf8.decode_encode written,
      hlines⟩
  · rintro ⟨octets, written, hread, hdecode, hlines⟩
    obtain rfl := Utf8.decode_eq_ok_iff.1 hdecode
    obtain ⟨place, hwalk, hfile⟩ := Disk.readFile_eq_ok_iff.1 hread
    exact ⟨place, written, hwalk, hfile, hlines⟩

theorem holdsObject_iff {members : Members} :
    HoldsObject s p members ↔ ∃ cs, HoldsText s p cs ∧
      Json.Spells Json.maxDigits Json.Rules.lenient.maxNesting cs (.padded (.obj members)) := by
  constructor
  · rintro ⟨hadmissible, octets, written, hread, hdecode, hparse⟩
    exact ⟨_, holdsText_iff.2 ⟨hadmissible, octets, written, hread, hdecode, rfl⟩,
      Json.parse_eq_ok_iff.1 hparse⟩
  · rintro ⟨_, htext, hspells⟩
    obtain ⟨hadmissible, octets, written, hread, hdecode, rfl⟩ := holdsText_iff.1 htext
    exact ⟨hadmissible, octets, written, hread, hdecode, Json.parse_eq_ok_iff.2 hspells⟩

theorem holdsUnreadable_iff {flaw : Json.Flaw} :
    HoldsUnreadable s p flaw ↔
      flaw.IsLimit ∧ ∃ cs, HoldsText s p cs ∧ Json.parse cs = .error flaw := by
  constructor
  · rintro ⟨hadmissible, hlimit, octets, written, hread, hdecode, hparse⟩
    exact ⟨Json.Flaw.isLimit_iff.2 hlimit, _,
      holdsText_iff.2 ⟨hadmissible, octets, written, hread, hdecode, rfl⟩, hparse⟩
  · rintro ⟨hlimit, _, htext, hparse⟩
    obtain ⟨hadmissible, octets, written, hread, hdecode, rfl⟩ := holdsText_iff.1 htext
    exact ⟨hadmissible, Json.Flaw.isLimit_iff.1 hlimit, octets, written, hread, hdecode, hparse⟩

/-- Reading leaves everything as it was. -/
theorem perform_readJson_state (root : Option Path) (path : String) (s : Session) :
    ((readJson root path).perform s).2 = s := by
  rcases h : (readJson root path).perform s with ⟨result, s'⟩
  cases result with
  | ok members => exact (perform_readJson_eq_ok_iff.1 h).1
  | error failure => exact (perform_readJson_eq_error h).1

theorem readJson_eq_ok_iff {members : Members} :
    ((readJson root path).perform s).1 = .ok members ↔
      HoldsObject s (target root path) members := by
  constructor
  · intro h
    exact (perform_readJson_eq_ok_iff.1 (Prod.ext h (perform_readJson_state root path s))).2
  · intro h
    rw [readJson_of_holdsObject h]

/-- Reading changes nothing and gives an object just where a path that can be handed over leads to a
file with the octets of a text that is spelled as the object within the limits of the reader.
Everything else is reported with the path as it was given, with two exceptions: the path cannot be
handed over, or the text has more digits in a row or more opening brackets than the limits allow.
The first always is an exception, and of the second each text that is spelled, though only beyond
the limits. -/
theorem readJson_accounts (root : Option Path) (path : String) (s : Session) :
    ((readJson root path).perform s).2 = s ∧
    (∀ members, ((readJson root path).perform s).1 = .ok members ↔
      ∃ cs, HoldsText s (target root path) cs ∧
        Json.Spells Json.maxDigits Json.Rules.lenient.maxNesting cs (.padded (.obj members))) ∧
    (∀ failure, ((readJson root path).perform s).1 = .error failure →
      (∃ reason, failure = .scaffold (.fileSystem path reason)) ∨
      (¬ Admissible (target root path) ∧ failure = .fault .nulInPath) ∨
      ∃ flaw : Json.Flaw, failure = .fault (.json flaw) ∧ flaw.IsLimit ∧
        ∃ cs, HoldsText s (target root path) cs ∧
          flaw.Excess Json.Rules.lenient.maxNesting cs) ∧
    (¬ Admissible (target root path) →
      ((readJson root path).perform s).1 = .error (.fault .nulInPath)) ∧
    ∀ cs most depth v, HoldsText s (target root path) cs →
      Json.Spells most depth cs (.padded v) →
      (∀ w, ¬ Json.Spells Json.maxDigits Json.Rules.lenient.maxNesting cs (.padded w)) →
      ∃ flaw : Json.Flaw, flaw.IsLimit ∧
        ((readJson root path).perform s).1 = .error (.fault (.json flaw)) := by
  refine ⟨perform_readJson_state root path s, fun members => ?_, fun failure h => ?_, fun h => ?_,
    fun cs most depth v htext hspells hbeyond => ?_⟩
  · rw [readJson_eq_ok_iff, holdsObject_iff]
  · have hstate := perform_readJson_state root path s
    obtain ⟨-, hreason | hpath | ⟨flaw, hflaw, rfl⟩⟩ :=
      perform_readJson_eq_error (Prod.ext h hstate)
    · exact .inl hreason
    · exact .inr (.inl hpath)
    · obtain ⟨hlimit, cs, htext, hparse⟩ := holdsUnreadable_iff.1 hflaw
      exact .inr (.inr ⟨flaw, rfl, hlimit, cs, htext, Json.excess_parse hparse⟩)
  · rw [perform_readJson_of_not_admissible h]
  · obtain ⟨flaw, hlimit, hparse⟩ := Json.exists_limit_of_spells hspells hbeyond
    refine ⟨flaw, hlimit, ?_⟩
    rw [perform_readJson_of_unreadable (holdsUnreadable_iff.2 ⟨hlimit, cs, htext, hparse⟩)]

/-- A null character in the path is not reported as an error that concerns the path. -/
theorem readJson_null_character :
    ∃ failure, ((readJson none "a\x00b").perform {}).1 = .error failure ∧
      ∀ given reason, failure ≠ .scaffold (.fileSystem given reason) :=
  ⟨.fault .nulInPath, rfl, fun _ _ => Failure.noConfusion⟩

end Session

end ReactScaffold
