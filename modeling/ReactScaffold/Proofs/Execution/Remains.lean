import ReactScaffold.Proofs.Execution.Steps
import ReactScaffold.Proofs.Host.Tree

/-!
# What a failed run leaves

A run that fails leaves the work of the steps before the one that fails. Of that step there is
nothing but what its commands have left, and directories that were made above one with a name that
is too long.
-/

namespace ReactScaffold

open ReactScaffold.Action Session Text

variable {programs : Programs} {s t u : Session}

/-! ## Steps keep the disk a tree -/

theorem Disk.Rooted.leaves {d : Disk} {cwd : Place} (h : d.Rooted cwd) (programs : Programs)
    (commands : List (List String)) : (commands.foldl (programs.leaves cwd) d).Rooted cwd := by
  induction commands generalizing d with
  | nil => exact h
  | cons command commands ih =>
      refine ih ?_
      unfold Programs.leaves
      cases programs command with
      | refused e missing => exact h
      | started f => exact h.leaveAll f.created

/-- The disk of the session is a tree in which the working directory is. -/
def Session.Rooted (s : Session) : Prop := s.disk.Rooted s.cwd

theorem Session.Rooted.ensureDirectory (h : s.Rooted) (root : Option Path) (path : String) :
    ((Session.ensureDirectory root path).perform s).2.Rooted := by
  have hrooted := Disk.Rooted.ensureDirectory h (target root path)
  rcases perform_ensureDirectory_cases root path s with
    ⟨-, heq⟩ | ⟨-, ⟨d, hensure, heq⟩ | ⟨d, e, hensure, heq⟩⟩
  · rwa [heq]
  · rw [hensure] at hrooted
    rwa [heq]
  · rw [hensure] at hrooted
    rwa [heq]

theorem Session.Rooted.writeFile (h : s.Rooted) (root : Option Path) (path : String)
    (content : WideText) : ((Session.writeFile root path content).perform s).2.Rooted := by
  rcases perform_writeFile_cases root path content s with
    ⟨-, heq⟩ | ⟨reason, heq⟩ | ⟨-, place, hwalk, hnot, ⟨octets, -, heq⟩ | ⟨e, -, heq⟩⟩
  · rwa [heq]
  · rwa [heq]
  · rw [heq]
    exact Disk.Rooted.set h hnot (Disk.Rooted.walk h hwalk) _
  · rw [heq]
    exact Disk.Rooted.set h hnot (Disk.Rooted.walk h hwalk) _

theorem Session.Rooted.apply (h : s.Rooted) (step : Step) :
    ((step.apply (operations programs)).perform s).2.Rooted := by
  cases step with
  | ensureDirectory path => exact h.ensureDirectory none path
  | writeFile path content => exact h.writeFile none path _
  | installDependencies manager packages description =>
      obtain ⟨commands, t, -, hstarts, hend⟩ :=
        perform_installDependencies_cases programs manager packages description s
      have hrooted : t.Rooted := by
        rw [Session.Rooted, hstarts.disk, hstarts.cwd]
        exact Disk.Rooted.leaves h programs commands
      rcases hend with heq | ⟨e, heq, -⟩
      · rwa [heq]
      · rwa [heq]
  | mergeManifestScripts entries manifest =>
      rcases perform_mergeManifestScripts_cases programs entries manifest s with
        ⟨failure, -, heq⟩ | ⟨members, -, ⟨f, -, heq⟩ | ⟨merged, -, heq⟩⟩
      · rwa [heq]
      · rwa [heq]
      · rw [heq]
        exact h.writeFile none manifest _

/-- Steps keep the disk a tree. -/
theorem Session.Rooted.applyAll (h : s.Rooted) (steps : List Step) :
    ((Step.applyAll (operations programs) steps).perform s).2.Rooted := by
  induction steps generalizing s with
  | nil => exact h
  | cons step steps ih =>
      have hstep := @Session.Rooted.apply programs s h step
      rw [Step.perform_applyAll_cons]
      cases hperform : (step.apply (operations programs)).perform s with
      | mk result t =>
          rw [hperform] at hstep
          cases result with
          | error failure => exact hstep
          | ok x => exact ih hstep

/-! ## What a step leaves that fails -/

/-- What is left of a step that fails: of a command what it has left itself, of a directory those
made above it when a name is too long. A manifest that cannot be turned into octets is not
considered. -/
def Step.Remains (programs : Programs) (s t : Session) (failure : Failure) : Step → Prop
  | .ensureDirectory path =>
    t.history = s.history ∧ Disk.Fills s.disk t.disk ((Path.ofText path).placesAbove s.cwd) ∧
      ((∀ name ∈ (Path.ofText path).parts, name.utf8ByteSize ≤ maxNameOctets) → t.disk = s.disk)
  | .installDependencies manager packages _ =>
    ∃ commands, commands <+: addCommands manager packages ∧ s.AfterStarts programs t commands
  | .writeFile _ _ => t.history = s.history ∧ t.disk = s.disk
  | .mergeManifestScripts _ _ =>
    t.history = s.history ∧ ((∀ e, failure ≠ .fault (.unencodable e)) → t.disk = s.disk)

theorem remains_ensureDirectory {path : String} {failure : Failure} (hrooted : s.Rooted)
    (hpath : (Path.ofText path).Descends)
    (h : (Session.ensureDirectory none path).perform s = (.error failure, t)) :
    (Step.ensureDirectory path).Remains programs s t failure := by
  rcases perform_ensureDirectory_cases none path s with
    ⟨-, heq⟩ | ⟨-, ⟨d, -, heq⟩ | ⟨d, e, hensure, heq⟩⟩
  · obtain ⟨-, rfl⟩ := Prod.mk.inj (heq.symm.trans h)
    exact ⟨rfl, .refl _ _, fun _ => rfl⟩
  · cases heq.symm.trans h
  · obtain ⟨-, rfl⟩ := Prod.mk.inj (heq.symm.trans h)
    exact ⟨rfl, Disk.Rooted.ensureDirectory_failed hrooted hpath hensure⟩

/-- A text that cannot be written leaves the session as it was, unless it has no octets. -/
theorem writeFile_error_cases {path : String} {content : WideText} {failure : Failure}
    (h : (Session.writeFile none path content).perform s = (.error failure, t)) :
    t = s ∨ ∃ e disk, Utf8.encodeWide content = .error e ∧ failure = .fault (.unencodable e) ∧
      t = { s with disk } := by
  rcases perform_writeFile_cases none path content s with
    ⟨-, heq⟩ | ⟨reason, heq⟩ | ⟨-, place, -, -, ⟨octets, -, heq⟩ | ⟨e, hencode, heq⟩⟩
  · exact .inl (Prod.mk.inj (heq.symm.trans h)).2.symm
  · exact .inl (Prod.mk.inj (heq.symm.trans h)).2.symm
  · cases heq.symm.trans h
  · obtain ⟨hfailure, rfl⟩ := Prod.mk.inj (heq.symm.trans h)
    exact .inr ⟨e, _, hencode, (Except.error.inj hfailure).symm, rfl⟩

/-- What is left of a step that fails on a tree. -/
theorem Step.remains_of_error {step : Step} {failure : Failure} (hrooted : s.Rooted)
    (hpath : ∀ path, step = .ensureDirectory path → (Path.ofText path).Descends)
    (h : (step.apply (operations programs)).perform s = (.error failure, t)) :
    step.Remains programs s t failure := by
  cases step with
  | ensureDirectory path => exact remains_ensureDirectory hrooted (hpath path rfl) h
  | writeFile path content =>
      rcases writeFile_error_cases h with rfl | ⟨e, -, hencode, -⟩
      · exact ⟨rfl, rfl⟩
      · cases (Utf8.encodeWide_ofString content).symm.trans hencode
  | installDependencies manager packages description =>
      obtain ⟨commands, u, hbegins, hstarts, hend⟩ :=
        perform_installDependencies_cases programs manager packages description s
      rcases hend with heq | ⟨e, heq, -⟩
      · rw [heq] at h
        cases h
      · obtain ⟨-, rfl⟩ := Prod.mk.inj (heq.symm.trans h)
        exact ⟨commands, hbegins, hstarts⟩
  | mergeManifestScripts entries manifest =>
      rcases perform_mergeManifestScripts_cases programs entries manifest s with
        ⟨_, -, heq⟩ | ⟨members, -, ⟨f, -, heq⟩ | ⟨merged, -, heq⟩⟩
      · obtain ⟨-, rfl⟩ := Prod.mk.inj (heq.symm.trans h)
        exact ⟨rfl, fun _ => rfl⟩
      · obtain ⟨-, rfl⟩ := Prod.mk.inj (heq.symm.trans h)
        exact ⟨rfl, fun _ => rfl⟩
      · rcases writeFile_error_cases (heq.symm.trans h) with rfl | ⟨e, disk, -, hfailure, rfl⟩
        · exact ⟨rfl, fun _ => rfl⟩
        · exact ⟨rfl, fun hencode => absurd hfailure (hencode e)⟩

/-- What is left is the same after the failure has been reported and remarked on. -/
theorem Step.Remains.report {step : Step} {e reported : ScaffoldError}
    (h : step.Remains programs s t (.scaffold e)) (text : String) :
    step.Remains programs s ((operations programs).remark text t) (.scaffold reported) := by
  cases step with
  | ensureDirectory path => exact h
  | writeFile path content => exact h
  | installDependencies manager packages description =>
      obtain ⟨commands, hbegins, hstarts⟩ := h
      exact ⟨commands, hbegins, hstarts.cwd, hstarts.history, hstarts.disk⟩
  | mergeManifestScripts entries manifest =>
      exact ⟨h.1, fun _ => h.2 fun e => by simp⟩

/-- A plan that is run on a tree and fails leaves what its first steps have done, which all
succeeded, and what remains of the next one, which failed. -/
theorem Plan.run_remains {plan : Plan} {failure : Failure} (hrooted : s.Rooted)
    (hpaths : ∀ path ∈ plan.directories, (Path.ofText path).Descends)
    (hfailed : (plan.run (operations programs) s).outcome = .error failure) :
    ∃ done step rest t, plan.steps = done ++ step :: rest ∧
      (Step.applyAll (operations programs) done).perform s = (.ok (), t) ∧
      (∃ cause u, (step.apply (operations programs)).perform t = (.error cause, u)) ∧
      step.Remains programs t (plan.run (operations programs) s).state failure := by
  have hrun : (plan.run (operations programs) s).outcome =
        (runSteps (operations programs) 0 plan.steps s).outcome ∧
      (plan.run (operations programs) s).state =
        (runSteps (operations programs) 0 plan.steps s).state := ⟨rfl, rfl⟩
  rw [hrun.1] at hfailed
  rw [hrun.2]
  rcases runSteps_cases (operations programs) 0 plan.steps s with
    ⟨t, -, heq⟩ | ⟨done, step, rest, t, cause, u, hsteps, hdone, hstep, heq⟩
  · rw [heq] at hfailed
    cases hfailed
  · refine ⟨done, step, rest, t, hsteps, hdone, ⟨cause, u, hstep⟩, ?_⟩
    have hbefore := @Session.Rooted.applyAll programs s hrooted done
    rw [hdone] at hbefore
    have hpath : ∀ path, step = .ensureDirectory path → (Path.ofText path).Descends := by
      rintro path rfl
      exact hpaths path (List.mem_filterMap.2 ⟨.ensureDirectory path, by simp [hsteps], rfl⟩)
    have hremains := Step.remains_of_error hbefore hpath hstep
    rw [heq] at hfailed ⊢
    cases cause with
    | fault f =>
        obtain rfl := Except.error.inj hfailed
        exact hremains
    | scaffold e =>
        obtain rfl := Except.error.inj hfailed
        exact hremains.report _

/-- A plan that makes a directory below a file. -/
def blockedPlan : Plan :=
  ⟨[.ensureDirectory "src", .writeFile "src/a" "x", .ensureDirectory "src/a/b"]⟩

theorem rooted_empty : Session.Rooted {} := Disk.rooted_empty

/-- The plan fails in its last step. -/
theorem Plan.run_remains_blocked :
    ∃ failure done step rest t, Session.Rooted {} ∧
      (∀ path ∈ blockedPlan.directories, (Path.ofText path).Descends) ∧
      (blockedPlan.run (operations fun _ => .started {}) {}).outcome = .error failure ∧
      blockedPlan.steps = done ++ step :: rest ∧
      (Step.applyAll (operations fun _ => .started {}) done).perform {} = (.ok (), t) ∧
      (∃ cause u, (step.apply (operations fun _ => .started {})).perform t = (.error cause, u)) ∧
      step.Remains (fun _ => .started {}) t
        (blockedPlan.run (operations fun _ => .started {}) {}).state failure := by
  have hpaths : ∀ path ∈ blockedPlan.directories, (Path.ofText path).Descends := by
    unfold Path.Descends
    decide
  have hfails : (blockedPlan.run (operations fun _ => .started {}) {}).outcome.isOk = false := by
    decide +kernel
  cases hfailed : (blockedPlan.run (operations fun _ => .started {}) {}).outcome with
  | ok reports =>
      rw [hfailed] at hfails
      cases hfails
  | error failure =>
      obtain ⟨done, step, rest, t, h⟩ := Plan.run_remains rooted_empty hpaths hfailed
      exact ⟨failure, done, step, rest, t, rooted_empty, hpaths, rfl, h⟩

/-! ## What may be left nevertheless -/

/-- A path below a directory whose last name is too long. -/
def longPath : String := "a/" ++ String.ofList (List.replicate 256 'x')

theorem toList_longPath : longPath.toList = 'a' :: '/' :: List.replicate 256 'x' :=
  String.toList_append.trans (congrArg _ String.toList_ofList)

theorem ofText_longPath :
    Path.ofText longPath = ⟨.here, ["a", String.ofList (List.replicate 256 'x')]⟩ := by
  unfold Path.ofText
  rw [toList_longPath]
  decide +kernel

theorem admissible_longPath : Admissible (target none longPath) := by
  have htext : (⟨.here, ["a", String.ofList (List.replicate 256 'x')]⟩ : Path).text =
      longPath := by
    simp only [Path.text, Anchor.text, longPath, String.intercalate]
    rfl
  rw [target, ofText_longPath, Admissible, htext, toList_longPath]
  decide +kernel

theorem ensureDirectory_longPath :
    ({} : Disk).ensureDirectory [] (target none longPath) =
      (⟨[(["a"], .directory)]⟩,
        some (Refusal.nameTooLong.error (target none longPath).text)) := by
  rw [target, ofText_longPath]
  decide +kernel

theorem perform_longPath : (Session.ensureDirectory none longPath).perform {} =
    (.error (.scaffold (.fileSystem longPath Refusal.nameTooLong.text)),
      { disk := ⟨[(["a"], .directory)]⟩ }) := by
  have hfailed : ({} : Session).disk.ensureDirectory ({} : Session).cwd (target none longPath) =
      _ := ensureDirectory_longPath
  rw [perform_ensureDirectory_of_failed admissible_longPath hfailed, report_error]

/-- The text of a manifest with half a surrogate pair. -/
def halfText : List Char := "\x7b\"a\":\"\\ud800\"\x7d".toList

/-- The members of the manifest. -/
def halfManifest : Members := [(WideText.ofString "a", .str [.half 0])]

/-- A session whose disk holds the manifest. -/
def halfSession : Session where
  disk := ⟨[(["package.json"], .file (Utf8.encode halfText))]⟩

theorem halfSession_holdsObject :
    halfSession.HoldsObject (target none "package.json") halfManifest := by
  have hparse : Json.parse (normalizeLineEndings halfText) = .ok (.obj halfManifest) := by cbv
  refine ⟨?_, Utf8.encode halfText, halfText, by cbv, Utf8.decode_encode halfText, hparse⟩
  unfold Session.Admissible
  decide

/-- The manifest is emptied when scripts are merged into it. -/
theorem perform_halfManifest (programs : Programs) :
    ∃ e place, ((Step.mergeManifestScripts [] "package.json").apply
        (operations programs)).perform halfSession =
        (.error (.fault (.unencodable e)),
          { halfSession with disk := halfSession.disk.set place (.file []) }) ∧
      (halfSession.disk.set place (.file [])).readFile [] (target none "package.json") =
        .ok [] := by
  have hmerge : mergeIntoManifest halfManifest [] =
      .ok (OrderedMap.insert halfManifest scriptsName (.obj [])) := by cbv
  have hencode : Utf8.encodeWide (Json.dumpDocument
      (.obj (OrderedMap.insert halfManifest scriptsName (.obj [])))) = .error ⟨10, [0]⟩ := by cbv
  obtain ⟨hadmissible, octets, cs, hread, -⟩ := halfSession_holdsObject
  obtain ⟨place, hwalk, hnot, hwrite⟩ := perform_writeFile_of_readFile hadmissible hread
    (Json.dumpDocument (.obj (OrderedMap.insert halfManifest scriptsName (.obj []))))
  rw [hencode] at hwrite
  refine ⟨⟨10, [0]⟩, place, ?_, Disk.readFile_set hwalk hnot []⟩
  rw [perform_mergeManifestScripts_of_holdsObject halfSession_holdsObject, hmerge]
  exact hwrite

/-- A directory is left by a plan that only has to make another one below it, and a manifest is
emptied by a plan that only has to merge scripts into it. -/
theorem Plan.run_leaves_more :
    ((Path.ofText longPath).Descends ∧
      ((⟨[.ensureDirectory longPath]⟩ : Plan).run (operations fun _ => .started {}) {}).outcome =
        .error (.scaffold (.step 0 (.ensureDirectory longPath)
          (.fileSystem longPath Refusal.nameTooLong.text))) ∧
      ((⟨[.ensureDirectory longPath]⟩ : Plan).run
        (operations fun _ => .started {}) {}).state.history = [] ∧
      ((⟨[.ensureDirectory longPath]⟩ : Plan).run
        (operations fun _ => .started {}) {}).state.disk.get? ["a"] = some .directory ∧
      ({} : Disk).get? ["a"] = none) ∧
    ∃ e, ((⟨[.mergeManifestScripts [] "package.json"]⟩ : Plan).run
          (operations fun _ => .started {}) halfSession).outcome =
        .error (.fault (.unencodable e)) ∧
      ((⟨[.mergeManifestScripts [] "package.json"]⟩ : Plan).run
        (operations fun _ => .started {}) halfSession).state.disk.readFile []
          (target none "package.json") = .ok [] ∧
      halfSession.disk.readFile [] (target none "package.json") = .ok (Utf8.encode halfText) ∧
      Utf8.encode halfText ≠ [] := by
  constructor
  · have hstep : ((Step.ensureDirectory longPath).apply
        (operations fun _ => .started {})).perform {} = _ := perform_longPath
    have hdescends : (Path.ofText longPath).Descends := by
      rw [ofText_longPath, Path.Descends]
      decide +kernel
    rw [Plan.run, runSteps_cons_of_error _ 0 [] hstep]
    exact ⟨hdescends, rfl, rfl, rfl, rfl⟩
  · obtain ⟨e, place, hstep, hempty⟩ := perform_halfManifest fun _ => .started {}
    rw [Plan.run, runSteps_cons_of_error _ 0 [] hstep]
    exact ⟨e, rfl, hempty, by cbv, by decide⟩

end ReactScaffold
