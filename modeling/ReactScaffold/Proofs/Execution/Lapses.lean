import ReactScaffold.Proofs.Execution.Steps
import ReactScaffold.Proofs.Manifest

/-!
# Faults that end a run

A step whose commands or files fail is reported as failed. A step lapses when it ends with a fault
instead, which ends the run while the step is still announced as running. It is said of each kind of
step when that happens.
-/

namespace ReactScaffold

open ReactScaffold.Action Session Text

variable {programs : Programs} {s t : Session}

/-- The step ends with a fault: its path cannot be handed to the operating system, or its manifest
is beyond what the reader can take, has no scripts that entries can be merged into, or has a text
that cannot be written. -/
def Step.Lapses (s : Session) : Step → Prop
  | .ensureDirectory path => ¬ Admissible (target none path)
  | .installDependencies _ _ _ => False
  | .writeFile path _ => ¬ Admissible (target none path)
  | .mergeManifestScripts entries path =>
    ¬ Admissible (target none path) ∨ (∃ flaw, HoldsUnreadable s (target none path) flaw) ∨
      ∃ members, HoldsObject s (target none path) members ∧
        (¬ IsScripts ((OrderedMap.get? members scriptsName).getD .null) ∨
          ∃ merged, mergeIntoManifest members entries = .ok merged ∧
            ¬ WideText.IsPlain (Json.dumpDocument (.obj merged)))

theorem isPlain_of_encodeWide {text : WideText} {octets : List UInt8}
    (h : Utf8.encodeWide text = .ok octets) : WideText.IsPlain text := by
  obtain ⟨cs, rfl, -⟩ := Utf8.encodeWide_eq_ok_iff.1 h
  exact WideText.isPlain_ofChars cs

theorem not_isPlain_of_encodeWide {text : WideText} {e : Utf8.Unencodable}
    (h : Utf8.encodeWide text = .error e) : ¬ WideText.IsPlain text := by
  rintro ⟨cs, rfl⟩
  cases (Utf8.encodeWide_eq_ok_iff.2 ⟨cs, rfl, rfl⟩).symm.trans h

/-- Writing a text ends with a fault only if the path cannot be handed over or the text has no
octets. -/
theorem writeFile_fault_cases {path : String} {content : WideText} {f : Fault}
    (h : (Session.writeFile none path content).perform s = (.error (.fault f), t)) :
    ¬ Admissible (target none path) ∨ ¬ WideText.IsPlain content := by
  rcases perform_writeFile_cases none path content s with
    ⟨hadmissible, -⟩ | ⟨reason, heq⟩ | ⟨-, place, -, -, ⟨octets, -, heq⟩ | ⟨e, hencode, -⟩⟩
  · exact .inl hadmissible
  · cases heq.symm.trans h
  · cases heq.symm.trans h
  · exact .inr (not_isPlain_of_encodeWide hencode)

/-- A step that lapses ends with a fault. -/
theorem Step.exists_fault_of_lapses (programs : Programs) {step : Step} (h : step.Lapses s) :
    ∃ f t, (step.apply (operations programs)).perform s = (.error (.fault f), t) := by
  cases step with
  | ensureDirectory path =>
      exact ⟨_, s, perform_ensureDirectory_of_not_admissible h s⟩
  | installDependencies manager packages description => cases h
  | writeFile path content => exact ⟨_, s, perform_writeFile_of_not_admissible h _ s⟩
  | mergeManifestScripts entries path =>
      rcases h with hadmissible | ⟨flaw, hflaw⟩ | ⟨members, hholds, hscripts⟩
      · exact ⟨_, s, perform_mergeManifestScripts_of_error
          (perform_readJson_of_not_admissible hadmissible s)⟩
      · exact ⟨_, s, perform_mergeManifestScripts_of_error (perform_readJson_of_unreadable hflaw)⟩
      · rw [perform_mergeManifestScripts_of_holdsObject hholds]
        cases hmerge : mergeIntoManifest members entries with
        | error f => exact ⟨_, s, rfl⟩
        | ok merged =>
            -- the scripts can be merged, so it is the text that cannot be written
            obtain hno | ⟨found, hfound, htext⟩ := hscripts
            · exact absurd (exists_mergeIntoManifest_iff.1 ⟨merged, hmerge⟩) hno
            · obtain rfl := Except.ok.inj (hmerge.symm.trans hfound)
              obtain ⟨hadmissible, octets, cs, hread, -⟩ := hholds
              obtain ⟨place, -, -, hwrite⟩ := perform_writeFile_of_readFile hadmissible hread
                (Json.dumpDocument (.obj merged))
              cases hencode : Utf8.encodeWide (Json.dumpDocument (.obj merged)) with
              | ok written => exact absurd (isPlain_of_encodeWide hencode) htext
              | error e =>
                  rw [hencode] at hwrite
                  exact ⟨_, _, hwrite⟩

/-- A step that ends with a fault lapses. -/
theorem Step.lapses_of_fault {step : Step} {f : Fault}
    (h : (step.apply (operations programs)).perform s = (.error (.fault f), t)) :
    step.Lapses s := by
  cases step with
  | ensureDirectory path =>
      rcases perform_ensureDirectory_cases none path s with
        ⟨hadmissible, -⟩ | ⟨-, ⟨d, -, heq⟩ | ⟨d, e, -, heq⟩⟩
      · exact hadmissible
      · cases heq.symm.trans h
      · cases heq.symm.trans h
  | installDependencies manager packages description =>
      obtain ⟨commands, u, -, -, hend⟩ :=
        perform_installDependencies_cases programs manager packages description s
      rcases hend with heq | ⟨e, heq, -⟩
      · cases heq.symm.trans h
      · cases heq.symm.trans h
  | writeFile path content =>
      refine (writeFile_fault_cases h).resolve_right ?_
      exact not_not.2 (WideText.isPlain_ofChars content.toList)
  | mergeManifestScripts entries path =>
      rcases perform_mergeManifestScripts_cases programs entries path s with
        ⟨failure, hread, heq⟩ | ⟨members, hholds, ⟨g, hmerge, -⟩ | ⟨merged, hmerge, heq⟩⟩
      · obtain ⟨-, ⟨reason, rfl⟩ | ⟨hadmissible, -⟩ | ⟨flaw, hflaw, -⟩⟩ :=
          perform_readJson_eq_error hread
        · cases heq.symm.trans h
        · exact .inl hadmissible
        · exact .inr (.inl ⟨flaw, hflaw⟩)
      · refine .inr (.inr ⟨members, hholds, .inl fun hscripts => ?_⟩)
        obtain ⟨merged, hmerged⟩ := exists_mergeIntoManifest_iff.2 hscripts
        cases hmerge.symm.trans hmerged
      · refine .inr (.inr ⟨members, hholds, .inr ⟨merged, hmerge, ?_⟩⟩)
        exact (writeFile_fault_cases (heq.symm.trans h)).resolve_left (not_not.2 hholds.1)

theorem isOutside_of_writeFile {path : String} {content : WideText} {e : ScaffoldError}
    (h : (Session.writeFile none path content).perform s = (.error (.scaffold e), t)) :
    e.IsOutside := by
  rcases perform_writeFile_cases none path content s with
    ⟨-, heq⟩ | ⟨reason, heq⟩ | ⟨-, place, -, -, ⟨octets, -, heq⟩ | ⟨e, -, heq⟩⟩
  · cases heq.symm.trans h
  · cases heq.symm.trans h
    trivial
  · cases heq.symm.trans h
  · cases heq.symm.trans h

/-- A step that is reported as failed has an outside error. -/
theorem Step.isOutside_of_error {step : Step} {e : ScaffoldError}
    (h : (step.apply (operations programs)).perform s = (.error (.scaffold e), t)) :
    e.IsOutside := by
  cases step with
  | ensureDirectory path =>
      rcases perform_ensureDirectory_cases none path s with
        ⟨-, heq⟩ | ⟨-, ⟨d, -, heq⟩ | ⟨d, e, -, heq⟩⟩
      · cases heq.symm.trans h
      · cases heq.symm.trans h
      · cases heq.symm.trans h
        trivial
  | installDependencies manager packages description =>
      obtain ⟨commands, u, -, -, hend⟩ :=
        perform_installDependencies_cases programs manager packages description s
      rcases hend with heq | ⟨e', heq, houtside⟩
      · cases heq.symm.trans h
      · cases heq.symm.trans h
        exact houtside
  | writeFile path content => exact isOutside_of_writeFile h
  | mergeManifestScripts entries path =>
      rcases perform_mergeManifestScripts_cases programs entries path s with
        ⟨failure, hread, heq⟩ | ⟨members, hholds, ⟨g, hmerge, heq⟩ | ⟨merged, hmerge, heq⟩⟩
      · cases heq.symm.trans h
        obtain ⟨-, ⟨reason, hreason⟩ | ⟨-, hfault⟩ | ⟨flaw, -, hfault⟩⟩ :=
          perform_readJson_eq_error hread
        · cases hreason
          trivial
        · cases hfault
        · cases hfault
      · cases heq.symm.trans h
      · exact isOutside_of_writeFile (heq.symm.trans h)

/-! ## Runs -/

/-- Each step that is announced as running is announced as ended later. -/
def RunningEnds : List StepReport → Prop
  | [] => True
  | r :: rest =>
    (r.status = .running → ∃ ended ∈ rest, ended.index = r.index ∧
      (ended.status = .succeeded ∨ ended.status = .failed)) ∧ RunningEnds rest

theorem RunningEnds.append {first rest : List StepReport} (h : RunningEnds first)
    (h' : RunningEnds rest) : RunningEnds (first ++ rest) := by
  induction first with
  | nil => exact h'
  | cons r first ih =>
      refine ⟨fun hrunning => ?_, ih h.2⟩
      obtain ⟨ended, hmem, hended⟩ := h.1 hrunning
      exact ⟨ended, List.mem_append_left _ hmem, hended⟩

theorem runningEnds_pending (index : Nat) (steps : List Step) :
    RunningEnds (reportsFrom [.pending] index steps) := by
  induction steps generalizing index with
  | nil => trivial
  | cons step steps ih => exact ⟨nofun, ih (index + 1)⟩

theorem runningEnds_succeeded (index : Nat) (steps : List Step) :
    RunningEnds (reportsFrom [.running, .succeeded] index steps) := by
  induction steps generalizing index with
  | nil => trivial
  | cons step steps ih =>
      exact ⟨fun _ => ⟨_, List.mem_cons_self, rfl, .inl rfl⟩, nofun, ih (index + 1)⟩

/-- The run comes to a step that lapses. -/
def Plan.Lapses (programs : Programs) (plan : Plan) (s : Session) : Prop :=
  ∃ done step rest t, plan.steps = done ++ step :: rest ∧
    (Step.applyAll (operations programs) done).perform s = (.ok (), t) ∧ step.Lapses t

/-- The run ends well with all its steps, or as the failure of a step for an outside error; and
each step that was announced as running has ended. -/
def Plan.IsReported (plan : Plan) (course : Course Session) : Prop :=
  (course.outcome = .ok (reportsFrom [.succeeded] 0 plan.steps) ∨
    ∃ (index : Nat) (step : Step) (e : ScaffoldError),
      course.outcome = .error (.scaffold (.step index step e)) ∧
        plan.steps[index]? = some step ∧ e.IsOutside) ∧
    RunningEnds course.reports

/-- The text of a manifest whose scripts are a number. -/
def numberText : List Char := "\x7b\"scripts\":5\x7d".toList

/-- A session whose disk holds the manifest. -/
def numberSession : Session where
  disk := ⟨[(["package.json"], .file (Utf8.encode numberText))]⟩

theorem numberSession_holdsObject :
    numberSession.HoldsObject (target none "package.json") [(scriptsName, .int 5)] := by
  have hparse : Json.parse (normalizeLineEndings numberText) =
      .ok (.obj [(scriptsName, .int 5)]) := by cbv
  refine ⟨?_, Utf8.encode numberText, numberText, by cbv, Utf8.decode_encode numberText, hparse⟩
  unfold Session.Admissible
  decide

/-- A plan that merges a script. -/
def scriptPlan : Plan := ⟨[.mergeManifestScripts [("dev", "vite")] "package.json"]⟩

end ReactScaffold
