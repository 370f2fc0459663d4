import ReactScaffold.Proofs.CommandLine.Parse
import ReactScaffold.Proofs.CommandLine.Timeline
import ReactScaffold.Proofs.Execution.Lapses
import ReactScaffold.Proofs.Plan.Compile

/-!
# Faults that end a run without a report

A run reports its failures, except a few faults. `Invocation.Lapse` lists these with their causes on
the command line, among the files and among the lines that are typed, and `Action.FailsBy` says of
an action that it fails by no other. Here it is shown of the answers.
-/

namespace ReactScaffold

open ReactScaffold.Action Text

/-- The failure is reported at the end of a run. -/
def Failure.IsCaught : Failure → Prop
  | .scaffold _ | .fault (.os _) | .fault (.invalid _) | .fault .interrupted => True
  | _ => False

/-- A part of the path holds the character that no path may hold. -/
def Path.HoldsZero (p : Path) : Prop := ∃ part ∈ p.parts, '\x00' ∈ part.toList

/-- The faults by which what an invocation asks for ends without a report, each with its cause and
the session that is left. -/
inductive Invocation.Lapse (i : Invocation) (settings : Settings) (start : Start) :
    Fault → Session → Prop where
  /-- Two dashes stand where the choice of an option should be. -/
  | choice {answer axis : String} {t : Session} (option : (choicesOf? answer).isSome)
      (given : OrderedMap.get? i.answers answer = some (.arr [])) :
      Lapse i settings start (.unknownChoice ⟨.arr [], axis⟩) t
  /-- Two dashes stand where the path of a file should be. -/
  | path {t : Session} (given : i.replayFrom = some .dashes ∨ i.saveTo = some .dashes) :
      Lapse i settings start .notAPath t
  /-- Two dashes stand where the directory for projects should be. -/
  | directory {t : Session} (given : settings.outputDir = .dashes) :
      Lapse i settings start .noDirectory t
  /-- A path that is given cannot be handed to the operating system. -/
  | zero {p : Path} {t : Session} (given : i.replayFrom = some (.path p) ∨
        i.saveTo = some (.path p) ∨ settings.outputDir = .path p) (zero : p.HoldsZero) :
      Lapse i settings start .nulInPath t
  /-- The file that holds saved answers is no text. -/
  | saved {p : Path} {octets : List UInt8} {e : Utf8.Undecodable} {t : Session}
      (given : i.replayFrom = some (.path p)) (content : t.disk.readFile t.cwd p = .ok octets)
      (text : Utf8.decode octets = .error e) : Lapse i settings start (.undecodable e) t
  /-- A question is asked when no line is left. -/
  | input {t : Session} (asked : i.replayFrom = none ∧ i.assumeDefaults = false)
      (left : t.input = []) : Lapse i settings start .endOfInput t
  /-- The manifest of the base project cannot take the scripts of the project. -/
  | manifest {p : Project} {f : Fault} {s t : Session} (real : settings.dryRun = false)
      (lapses : (Step.mergeManifestScripts p.scripts manifestPath).Lapses s)
      (ended : ((Step.mergeManifestScripts p.scripts manifestPath).apply
        (Session.operations start.programs)).perform s = (.error (.fault f), t)) :
      Lapse i settings start f t
  /-- The run has taken no finite time. -/
  | duration {e : Decimal.DurationError} {t : Session} (real : settings.dryRun = false)
      (endless : start.elapsed.magnitude? = none) : Lapse i settings start (.duration e) t

namespace Action

variable {α β : Type} {L : Fault → Session → Prop}

/-- A failure of the action is reported, or is one of the given faults in the session after it. -/
def FailsBy (L : Fault → Session → Prop) (a : Action Session α) : Prop :=
  ∀ s f t, a.perform s = (.error f, t) → f.IsCaught ∨ ∃ g, f = .fault g ∧ L g t

theorem failsBy_pure (x : α) : FailsBy L (pure x) := by
  intro s f t h
  cases h

theorem failsBy_throw {f : Failure} (hf : f.IsCaught) : FailsBy L (throw f : Action Session α) := by
  intro s g t h
  cases h
  exact .inl hf

theorem failsBy_fail {f : Fault} (hf : ∀ t, L f t) : FailsBy L (fail f : Action Session α) := by
  intro s g t h
  cases h
  exact .inr ⟨f, rfl, hf s⟩

theorem failsBy_ofExcept {ε : Type} {f : ε → Failure} {x : Except ε α}
    (hf : ∀ e, x = .error e → (f e).IsCaught) : FailsBy L (ofExcept f x) := by
  cases x with
  | ok a => exact failsBy_pure a
  | error e => exact failsBy_throw (hf e rfl)

theorem FailsBy.bind_of_yield {a : Action Session α} {f : α → Action Session β}
    (ha : FailsBy L a) (hf : ∀ x s, (a.perform s).1 = .ok x → FailsBy L (f x)) :
    FailsBy L (a >>= f) := by
  intro s e t h
  rcases perform_bind_eq_error h with hfailed | ⟨x, u, hperform, hrest⟩
  · exact ha s e t hfailed
  · exact hf x s (congrArg Prod.fst hperform) u e t hrest

theorem FailsBy.bind {a : Action Session α} {f : α → Action Session β} (ha : FailsBy L a)
    (hf : ∀ x, FailsBy L (f x)) : FailsBy L (a >>= f) := ha.bind_of_yield fun x _ _ => hf x

theorem FailsBy.map {a : Action Session α} (ha : FailsBy L a) (f : α → β) :
    FailsBy L (f <$> a) := by
  rw [map_eq_pure_bind]
  exact ha.bind fun x => failsBy_pure (f x)

end Action

/-! ## Paths that cannot be handed over -/

theorem Path.holdsZero_of_not_admissible {p : Path} (h : ¬ Session.Admissible p) :
    p.HoldsZero := by
  rw [Session.admissible_iff] at h
  push Not at h
  exact h

/-- A project is put at a path that can be handed over when its directory can. -/
theorem Path.holdsZero_of_join {parent : Path} {name : ProjectName}
    (h : (parent.join (Path.ofText name.text)).HoldsZero) : parent.HoldsZero := by
  have hname : ¬ (Path.ofText name.text).HoldsZero := by
    rintro ⟨part, hpart, hzero⟩
    obtain ⟨cs, hcs, rfl⟩ := List.mem_map.1 hpart
    rw [String.toList_ofList] at hzero
    have hmem := mem_of_mem_splitSlashes (List.mem_of_mem_filter hcs) hzero
    have hvalid := name.valid
    rw [isProjectName, Bool.and_eq_true] at hvalid
    exact absurd (List.all_eq_true.1 hvalid.2 _ hmem) (by decide)
  unfold Path.join at h
  split_ifs at h with habsolute
  · exact absurd h hname
  · obtain ⟨part, hpart, hzero⟩ := h
    rcases List.mem_append.1 hpart with hmem | hmem
    · exact ⟨part, hmem, hzero⟩
    · exact absurd ⟨part, hmem, hzero⟩ hname

theorem Path.holdsZero_of_parent {p : Path} (h : p.parent.HoldsZero) : p.HoldsZero := by
  obtain ⟨part, hpart, hzero⟩ := h
  exact ⟨part, List.mem_of_mem_dropLast hpart, hzero⟩

/-- How the answers of an invocation are collected. -/
def Invocation.collector (i : Invocation) (settings : Settings) : Collector where
  interactive := !i.assumeDefaults
  packageManager := settings.defaultPackageManager

namespace Session

variable {start : Start} {i : Invocation} {settings : Settings} {L : Fault → Session → Prop}

/-! ## Actions on the session -/

theorem failsBy_modify (f : Session → Session) : FailsBy L (modify f) := by
  intro s e t h
  cases h

theorem failsBy_display (e : Event) : FailsBy L (display e) := failsBy_modify _

theorem failsBy_displayAll (es : List Event) : FailsBy L (displayAll es) := by
  intro s f t h
  rw [perform_displayAll] at h
  cases h

theorem failsBy_remark (level : Level) (topic : Topic) (text : String) :
    FailsBy L (remark level topic text) := failsBy_modify _

theorem failsBy_requirePath {p : Path} (hp : p.HoldsZero → ∀ t, L .nulInPath t) :
    FailsBy L (requirePath p) := by
  intro s f t h
  by_cases hadmissible : Admissible p
  · rw [perform_requirePath_of_admissible hadmissible] at h
    cases h
  · rw [perform_requirePath_of_not_admissible hadmissible] at h
    cases h
    exact .inr ⟨_, rfl, hp (Path.holdsZero_of_not_admissible hadmissible) _⟩

theorem failsBy_modifyGet {α : Type} (f : Session → α × Session) :
    FailsBy L (modifyGet f : Action Session α) := by
  intro s e t h
  cases h

theorem failsBy_get {α : Type} {f : Session → Action Session α} (hf : ∀ x, FailsBy L (f x)) :
    FailsBy L (get >>= f) := fun s => hf s s

theorem failsBy_makeDirectories {p : Path} (hp : p.HoldsZero → ∀ t, L .nulInPath t) :
    FailsBy L (makeDirectories p) := (failsBy_requirePath hp).bind fun _ => failsBy_modifyGet _

theorem failsBy_writeOctets {p : Path} (hp : p.HoldsZero → ∀ t, L .nulInPath t)
    (octets : List UInt8) : FailsBy L (writeOctets p octets) :=
  (failsBy_requirePath hp).bind fun _ => failsBy_modifyGet _

theorem failsBy_resolvePath {p : Path} (hp : p.HoldsZero → ∀ t, L .nulInPath t) :
    FailsBy L (resolvePath p) :=
  (failsBy_requirePath hp).bind fun _ => failsBy_get fun _ => failsBy_pure _

theorem failsBy_requireNone (e : Option OsError) : FailsBy L (requireNone e) := by
  cases e with
  | none => exact failsBy_pure ()
  | some e => exact failsBy_throw trivial

theorem failsBy_requireVacant (p : Path) : FailsBy L (requireVacant p) := by
  refine failsBy_get fun x => failsBy_get fun y => ?_
  split
  · exact failsBy_throw trivial
  · exact failsBy_pure ()
  · exact failsBy_throw trivial

theorem failsBy_changeDirectory {p : Path} (hp : p.HoldsZero → ∀ t, L .nulInPath t) :
    FailsBy L (changeDirectory p) := by
  refine (failsBy_requirePath hp).bind fun _ => failsBy_get fun s => ?_
  split
  · exact failsBy_throw trivial
  · split
    · exact failsBy_modify _
    · exact failsBy_throw trivial
    · exact failsBy_throw trivial

theorem failsBy_runProcess (programs : Programs) (command : List String)
    (directory : Option String) : FailsBy L (runProcess programs command directory) := by
  refine (failsBy_remark _ _ _).bind fun _ => ?_
  intro s f t h
  have hrun : (launch programs command directory >>= judge command).perform s =
      (.error f, t) := h
  obtain ⟨after, hlaunch, -⟩ := perform_launch programs command directory s
  rw [perform_bind, hlaunch] at hrun
  rcases perform_judge_cases command (programs command) after with ⟨ended, heq⟩ | ⟨e, heq, -⟩
  · cases heq.symm.trans hrun
  · cases heq.symm.trans hrun
    exact .inl trivial

/-! ## The answers -/

/-- A dialogue that fails was interrupted, or has used up its lines. -/
theorem put_eq_error {α : Type} {q : Question α} {lines left : List (Option String)}
    {events : List Event} {f : Failure} (h : q.put lines = (events, .error f, left)) :
    f = .fault .interrupted ∨ f = .fault .endOfInput ∧ left = [] := by
  induction lines generalizing events with
  | nil =>
      cases h
      exact .inr ⟨rfl, rfl⟩
  | cons line rest ih =>
      cases line with
      | none =>
          cases h
          exact .inl rfl
      | some line =>
          unfold Question.put at h
          split at h
          · cases h
          · obtain ⟨-, hrest⟩ := Prod.mk.inj h
            exact ih (Prod.ext rfl hrest)

theorem failsBy_ask {α : Type} (q : Question α)
    (hend : ∀ t : Session, t.input = [] → L .endOfInput t) : FailsBy L q.ask := by
  intro s f t h
  cases hput : q.put s.input with
  | mk events rest =>
      obtain ⟨result, left⟩ := rest
      have hask : q.ask.perform s =
          (result.mapError id, { s with shown := s.shown ++ events, input := left }) := by
        rw [Question.ask, perform_bind, perform_modifyGet, hput]
        exact perform_ofExcept id result _
      rw [hask] at h
      cases result with
      | ok a => cases h
      | error e =>
          cases h
          rcases put_eq_error hput with rfl | ⟨rfl, rfl⟩
          · exact .inl trivial
          · exact .inr ⟨_, rfl, hend _ rfl⟩

theorem get?_of_given? {answers : Answers} {name : String} {v : Json String}
    (h : answers.given? name = some v) : OrderedMap.get? answers name = some v := by
  unfold Answers.given? at h
  split at h
  · cases h
  · exact h

theorem exists_ofValue?_of_mem {α : Type} [Axis α] {word : String} (h : word ∈ Axis.values α) :
    ∃ a, Axis.ofValue? α word = some a := by
  obtain ⟨a, ha, rfl⟩ := List.mem_map.1 h
  rw [← Option.isSome_iff_exists, Axis.ofValue?, List.find?_isSome]
  exact ⟨a, ha, beq_self_eq_true _⟩

theorem failsBy_question {α : Type} (q : Question α) (hreplay : i.replayFrom = none)
    (hask : (i.collector settings).interactive = true) :
    FailsBy (i.Lapse settings start) q.ask :=
  failsBy_ask q fun _ hleft =>
    .input ⟨hreplay, by simpa [Invocation.collector] using hask⟩ hleft

section Answers

variable (hchosen : i.Chosen) (hreplay : i.replayFrom = none)

include hchosen in
theorem failsBy_takeChoice {α : Type} [Axis α] {name : String} {v : Json String}
    (hname : choicesOf? name = some (Axis.values α)) (hv : i.answers.given? name = some v) :
    FailsBy (i.Lapse settings start) (takeChoice α v) := by
  rcases hchosen name _ hname v (get?_of_given? hv) with rfl | ⟨word, hword, rfl⟩
  · exact failsBy_fail fun t => .choice (by rw [hname]; rfl) (get?_of_given? hv)
  · obtain ⟨a, ha⟩ := exists_ofValue?_of_mem hword
    rw [takeChoice, Axis.choose, ha]
    exact failsBy_pure a

include hchosen hreplay in
theorem failsBy_choose {α : Type} [Axis α] {name : String} (text : String) (default : α)
    (hname : choicesOf? name = some (Axis.values α)) :
    FailsBy (i.Lapse settings start)
      ((i.collector settings).choose i.answers name text default) := by
  unfold Collector.choose
  split
  · exact failsBy_takeChoice hchosen hname ‹_›
  · split_ifs with hask
    · exact failsBy_question _ hreplay hask
    · exact failsBy_pure default

include hchosen hreplay in
theorem failsBy_chooseGated {α : Type} [Axis α] (applies : Bool) {name : String} (text : String)
    (default : α) (hname : choicesOf? name = some (Axis.values α)) :
    FailsBy (i.Lapse settings start)
      ((i.collector settings).chooseGated i.answers applies name text default) := by
  unfold Collector.chooseGated
  split_ifs
  · exact (failsBy_choose hchosen hreplay text default hname).map _
  · split
    · exact (failsBy_takeChoice hchosen hname ‹_›).map _
    · exact failsBy_pure none

include hreplay

theorem failsBy_confirm (name text : String) :
    FailsBy (i.Lapse settings start) ((i.collector settings).confirm i.answers name text) := by
  unfold Collector.confirm
  split
  · exact failsBy_pure _
  · split_ifs with hask
    · exact failsBy_question _ hreplay hask
    · exact failsBy_pure false

theorem failsBy_projectName :
    FailsBy (i.Lapse settings start) ((i.collector settings).projectName i.answers) := by
  unfold Collector.projectName
  split
  · exact failsBy_pure _
  · split_ifs with hask
    · exact (failsBy_question _ hreplay hask).map _
    · exact failsBy_throw trivial

include hchosen

theorem failsBy_collect :
    FailsBy (i.Lapse settings start) ((i.collector settings).collect i.answers) := by
  refine (failsBy_projectName hreplay).bind fun name => ?_
  refine (failsBy_choose hchosen hreplay _ _ (by decide +kernel)).bind fun framework => ?_
  refine (failsBy_chooseGated hchosen hreplay _ _ _ (by decide +kernel)).bind fun router => ?_
  refine (failsBy_choose hchosen hreplay _ _ (by decide +kernel)).bind fun language => ?_
  refine (failsBy_choose hchosen hreplay _ _ (by decide +kernel)).bind fun packageManager => ?_
  refine (failsBy_choose hchosen hreplay _ _ (by decide +kernel)).bind fun styling => ?_
  refine (failsBy_chooseGated hchosen hreplay _ _ _ (by decide +kernel)).bind fun version => ?_
  refine (failsBy_choose hchosen hreplay _ _ (by decide +kernel)).bind fun state => ?_
  refine (failsBy_choose hchosen hreplay _ _ (by decide +kernel)).bind fun icons => ?_
  refine (failsBy_confirm hreplay _ _).bind fun codeQuality => ?_
  refine (failsBy_confirm hreplay _ _).bind fun testing => ?_
  refine (failsBy_confirm hreplay _ _).bind fun apiClient => ?_
  refine FailsBy.bind (failsBy_ofExcept fun _ _ => trivial) fun name => ?_
  exact (failsBy_remark _ _ _).bind fun _ => failsBy_pure _

end Answers

theorem failsBy_loadProject {p : Path} (hgiven : i.replayFrom = some (.path p)) :
    FailsBy (i.Lapse settings start) (loadProject p) := by
  intro s f t h
  by_cases hadmissible : Admissible p
  · rw [loadProject, perform_bind, perform_readOctets_of_admissible hadmissible] at h
    cases hread : s.disk.readFile s.cwd p with
    | error r =>
        rw [hread] at h
        cases h
        exact .inl trivial
    | ok octets =>
        rw [hread] at h
        dsimp only [Except.mapError] at h
        rw [perform_ofExcept, Project.ofSavedFile] at h
        cases hdecode : Utf8.decode octets with
        | error e =>
            rw [hdecode] at h
            cases h
            exact .inr ⟨_, rfl, .saved hgiven hread hdecode⟩
        | ok cs =>
            rw [hdecode] at h
            dsimp only at h
            cases hproject : Project.ofSavedText (normalizeLineEndings cs) with
            | error e =>
                rw [hproject] at h
                cases h
                exact .inl trivial
            | ok q =>
                rw [hproject] at h
                cases h
  · rw [loadProject, perform_bind, readOctets, perform_bind,
      perform_requirePath_of_not_admissible hadmissible] at h
    cases h
    exact .inr ⟨_, rfl, .zero (.inl hgiven) (Path.holdsZero_of_not_admissible hadmissible)⟩

theorem failsBy_renameProject (p : Project) (answers : Answers) :
    FailsBy L (renameProject p answers) := by
  unfold renameProject
  split
  · split_ifs
    · exact failsBy_pure p
    · exact failsBy_ofExcept fun _ _ => trivial
  · exact failsBy_pure p

theorem failsBy_resolveProject (hchosen : i.Chosen) :
    FailsBy (i.Lapse settings start) (resolveProject i settings) := by
  unfold resolveProject
  cases hreplay : i.replayFrom with
  | none => exact failsBy_collect hchosen hreplay
  | some given =>
      cases given with
      | dashes => exact failsBy_fail fun t => .path (.inl hreplay)
      | path p =>
          exact (failsBy_loadProject hreplay).bind fun q => failsBy_renameProject q i.answers

end Session

end ReactScaffold
