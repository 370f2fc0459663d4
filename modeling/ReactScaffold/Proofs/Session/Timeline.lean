import ReactScaffold.Session.Operations
import Mathlib

/-!
# What happens in the course of an action

`Action.Follows` says of an action on a session that the processes it starts and the moves it makes
are a beginning of a given list, that it goes on after a process only when that succeeded, and that
it ends well only when the whole list has happened. The relation is kept by sequencing.
-/

namespace ReactScaffold

/-- A command succeeds when its process can be started, ends and ends with zero. -/
def Programs.Succeeds (programs : Programs) (command : List String) : Prop :=
  ∃ f, programs command = .started f ∧ f.hangs = false ∧ f.code.getD 0 = 0

variable {programs : Programs}

/-- Nothing happens after a process that does not succeed. -/
def InOrder (programs : Programs) (h : List Happening) : Prop :=
  ∀ before l after, h = before ++ .started l :: after → after ≠ [] → programs.Succeeds l.command

/-- Every process succeeds. -/
def AllSucceed (programs : Programs) (h : List Happening) : Prop :=
  ∀ l, .started l ∈ h → programs.Succeeds l.command

/-- The working directory after happenings: that of the last move, if there is one. -/
def placeAfter (cwd : Place) (h : List Happening) : Place :=
  h.foldl (fun place happening =>
    match happening with
    | .started _ => place
    | .moved target => target) cwd

theorem placeAfter_append (cwd : Place) (h k : List Happening) :
    placeAfter cwd (h ++ k) = placeAfter (placeAfter cwd h) k := List.foldl_append

theorem InOrder.nil : InOrder programs [] := by
  intro before l after h
  simp at h

theorem AllSucceed.nil : AllSucceed programs [] := by
  intro l h
  cases h

theorem AllSucceed.append {h k : List Happening} (hh : AllSucceed programs h)
    (hk : AllSucceed programs k) : AllSucceed programs (h ++ k) := by
  intro l hl
  rcases List.mem_append.1 hl with hmem | hmem
  · exact hh l hmem
  · exact hk l hmem

/-- What happens after processes that all succeed may be put behind them. -/
theorem AllSucceed.append_inOrder {h k : List Happening} (hh : AllSucceed programs h)
    (hk : InOrder programs k) : InOrder programs (h ++ k) := by
  intro before l after heq hafter
  rcases List.append_eq_append_iff.1 heq with ⟨middle, rfl, hmiddle⟩ | ⟨middle, rfl, hmiddle⟩
  · exact hk middle l after hmiddle hafter
  · cases middle with
    | nil => exact hk [] l after (by simpa using hmiddle.symm) hafter
    | cons first middle =>
        obtain ⟨rfl, -⟩ := List.cons.inj hmiddle
        exact hh l (by simp)

theorem inOrder_singleton (x : Happening) : InOrder programs [x] := by
  intro before l after heq hafter
  rcases List.singleton_eq_append_iff.1 heq with ⟨-, hcons⟩ | ⟨-, hnil⟩
  · exact absurd (List.cons.inj hcons).2 hafter
  · cases hnil

namespace Action

variable {α β : Type} {cwd : Place} {t u : List Happening}

theorem exists_of_perform_bind {a : Action Session α} {f : α → Action Session β} {s s' : Session}
    {y : β} (h : (a >>= f).perform s = (.ok y, s')) :
    ∃ x middle, a.perform s = (.ok x, middle) ∧ (f x).perform middle = (.ok y, s') := by
  rw [perform_bind] at h
  cases hperform : a.perform s with
  | mk result middle =>
      rw [hperform] at h
      cases result with
      | error e => cases h
      | ok x => exact ⟨x, middle, rfl, h⟩

theorem perform_bind_eq_error {a : Action Session α} {f : α → Action Session β} {s s' : Session}
    {e : Failure} (h : (a >>= f).perform s = (.error e, s')) :
    a.perform s = (.error e, s') ∨
      ∃ x middle, a.perform s = (.ok x, middle) ∧ (f x).perform middle = (.error e, s') := by
  rw [perform_bind] at h
  cases hperform : a.perform s with
  | mk result middle =>
      rw [hperform] at h
      cases result with
      | error e' =>
          cases h
          exact .inl rfl
      | ok x => exact .inr ⟨x, middle, rfl, h⟩

/-- What happens in the action, started in the given working directory, is a beginning of the
list. -/
def Follows (programs : Programs) (cwd : Place) (a : Action Session α) (t : List Happening) :
    Prop :=
  ∀ s : Session, s.cwd = cwd → ∃ h, (a.perform s).2.history = s.history ++ h ∧ h <+: t ∧
    InOrder programs h ∧ (a.perform s).2.cwd = placeAfter cwd h ∧
    ∀ x, (a.perform s).1 = .ok x → h = t ∧ AllSucceed programs h

theorem follows_of_quiet {a : Action Session α}
    (h : ∀ s, (a.perform s).2.history = s.history ∧ (a.perform s).2.cwd = s.cwd) :
    Follows programs cwd a [] := by
  rintro s rfl
  exact ⟨[], by simpa using (h s).1, List.prefix_rfl, .nil, (h s).2, fun _ _ => ⟨rfl, .nil⟩⟩

theorem follows_pure (x : α) : Follows programs cwd (pure x) [] :=
  follows_of_quiet fun _ => ⟨rfl, rfl⟩

/-- An action that fails at once may stand in front of anything. -/
theorem follows_throw (f : Failure) : Follows programs cwd (throw f : Action Session α) t := by
  rintro s rfl
  exact ⟨[], (List.append_nil _).symm, List.nil_prefix, .nil, rfl, fun x h => by cases h⟩

theorem Follows.bind_of_yield {a : Action Session α} {f : α → Action Session β}
    (ha : Follows programs cwd a t)
    (hf : ∀ x s, (a.perform s).1 = .ok x → Follows programs (placeAfter cwd t) (f x) u) :
    Follows programs cwd (a >>= f) (t ++ u) := by
  intro s hs
  obtain ⟨h, hhistory, hbegins, horder, hcwd, hok⟩ := ha s hs
  rw [perform_bind]
  cases hperform : a.perform s with
  | mk result after =>
      rw [hperform] at hhistory hcwd hok
      cases result with
      | error e =>
          exact ⟨h, hhistory, hbegins.trans (List.prefix_append t u), horder, hcwd,
            fun x heq => by cases heq⟩
      | ok x =>
          obtain ⟨rfl, hall⟩ := hok x rfl
          obtain ⟨k, khistory, kbegins, korder, kcwd, kok⟩ :=
            hf x s (congrArg Prod.fst hperform) after hcwd
          refine ⟨h ++ k, ?_, (List.prefix_append_right_inj h).2 kbegins,
            hall.append_inOrder korder, ?_, fun y hy => ?_⟩
          · dsimp only at hhistory ⊢
            rw [khistory, hhistory, List.append_assoc]
          · dsimp only
            rw [kcwd, placeAfter_append]
          · obtain ⟨rfl, kall⟩ := kok y hy
            exact ⟨rfl, hall.append kall⟩

theorem Follows.bind {a : Action Session α} {f : α → Action Session β}
    (ha : Follows programs cwd a t) (hf : ∀ x, Follows programs (placeAfter cwd t) (f x) u) :
    Follows programs cwd (a >>= f) (t ++ u) := ha.bind_of_yield fun x _ _ => hf x

/-- A quiet action in front changes nothing. -/
theorem Follows.after {a : Action Session α} {f : α → Action Session β}
    (ha : Follows programs cwd a []) (hf : ∀ x, Follows programs cwd (f x) u) :
    Follows programs cwd (a >>= f) u := by
  simpa using ha.bind hf

/-- A quiet action behind changes nothing. -/
theorem Follows.before {a : Action Session α} {f : α → Action Session β}
    (ha : Follows programs cwd a t) (hf : ∀ x, Follows programs (placeAfter cwd t) (f x) []) :
    Follows programs cwd (a >>= f) t := by
  simpa using ha.bind hf

theorem Follows.map {a : Action Session α} (ha : Follows programs cwd a t) (f : α → β) :
    Follows programs cwd (f <$> a) t := by
  rw [map_eq_pure_bind]
  exact ha.before fun x => follows_pure (f x)

theorem follows_get {f : Session → Action Session β} (hf : ∀ x, Follows programs cwd (f x) u) :
    Follows programs cwd (get >>= f) u := by
  intro s hs
  exact hf s s hs

theorem follows_modify {f : Session → Session}
    (h : ∀ s, (f s).history = s.history ∧ (f s).cwd = s.cwd) :
    Follows programs cwd (modify f) [] := follows_of_quiet h

theorem follows_modifyGet {f : Session → α × Session}
    (h : ∀ s, (f s).2.history = s.history ∧ (f s).2.cwd = s.cwd) :
    Follows programs cwd (modifyGet f : Action Session α) [] := follows_of_quiet h

theorem follows_ofExcept {ε : Type} (f : ε → Failure) (x : Except ε α) :
    Follows programs cwd (ofExcept f x) [] := by
  cases x with
  | ok a => exact follows_pure a
  | error e => exact follows_throw (f e)

end Action

namespace Session

open ReactScaffold.Action Text

variable {cwd : Place}

/-! ## Actions in which nothing happens -/

theorem follows_display (e : Event) : Follows programs cwd (display e) [] :=
  follows_modify fun _ => ⟨rfl, rfl⟩

theorem follows_displayAll (es : List Event) : Follows programs cwd (displayAll es) [] := by
  induction es with
  | nil => exact follows_pure ()
  | cons e es ih => exact (follows_display e).after fun _ => ih

theorem follows_remark (level : Level) (topic : Topic) (text : String) :
    Follows programs cwd (remark level topic text) [] := follows_modify fun _ => ⟨rfl, rfl⟩

theorem follows_requirePath (p : Path) : Follows programs cwd (requirePath p) [] := by
  unfold requirePath
  split_ifs
  · exact follows_throw _
  · exact follows_pure ()

theorem follows_makeDirectories (p : Path) : Follows programs cwd (makeDirectories p) [] :=
  (follows_requirePath p).after fun _ => follows_modifyGet fun _ => ⟨rfl, rfl⟩

theorem follows_writeOctets (p : Path) (octets : List UInt8) :
    Follows programs cwd (writeOctets p octets) [] := by
  refine (follows_requirePath p).after fun _ => follows_modifyGet fun s => ?_
  split
  · exact ⟨rfl, rfl⟩
  · exact ⟨rfl, rfl⟩

theorem follows_readOctets (p : Path) : Follows programs cwd (readOctets p) [] :=
  (follows_requirePath p).after fun _ => follows_get fun _ => follows_get fun _ => follows_pure _

theorem follows_reportFor (path : String) (e : Option OsError) :
    Follows programs cwd (reportFor path e) [] := by
  cases e with
  | none => exact follows_pure ()
  | some e => exact follows_throw _

theorem follows_ensureDirectory (root : Option Path) (path : String) :
    Follows programs cwd (ensureDirectory root path) [] :=
  (follows_makeDirectories _).after fun e => follows_reportFor path e

theorem follows_writeFile (root : Option Path) (path : String) (content : WideText) :
    Follows programs cwd (writeFile root path content) [] := by
  unfold writeFile
  cases Utf8.encodeWide content with
  | ok octets => exact (follows_writeOctets _ octets).after fun e => follows_reportFor path e
  | error e =>
      refine (follows_writeOctets _ []).after fun e => ?_
      exact (follows_reportFor path e).after fun _ => follows_throw _

theorem follows_readJson (root : Option Path) (path : String) :
    Follows programs cwd (readJson root path) [] := by
  refine (follows_readOctets _).after fun octets => ?_
  cases octets with
  | error e => exact follows_throw _
  | ok octets =>
      cases hdecode : Utf8.decode octets with
      | error e =>
          simp only [hdecode]
          exact follows_throw _
      | ok cs =>
          simp only [hdecode]
          exact follows_ofExcept _ _

/-! ## Processes -/

/-- Starting a process is one happening, whatever becomes of it. -/
theorem perform_launch (programs : Programs) (command : List String)
    (directory : Option String) (s : Session) :
    ∃ after, (launch programs command directory).perform s = (.ok (programs command), after) ∧
      after.history = s.history ++ [.started ⟨command, launchDirectory directory⟩] ∧
      after.cwd = s.cwd := by
  unfold launch
  cases programs command with
  | refused e missing => exact ⟨_, rfl, rfl, rfl⟩
  | started f => exact ⟨_, rfl, rfl, rfl⟩

/-- What is made of the outcome of a command that has to succeed. -/
def judge (command : List String) : Outcome → Action Session Completion
  | .refused e missing => Action.refuse (launchError command e missing)
  | .started f => do
    let ended ← Action.ofExcept (fun e => .scaffold (launchError command e false))
      (f.complete command none)
    if ended.code ≠ 0 then Action.refuse (.process command ended.code ended.errors)
    else return ended

/-- The result of a command that has to succeed. -/
def verdict (command : List String) : Outcome → Except Failure Completion
  | .refused e missing => .error (.scaffold (launchError command e missing))
  | .started f =>
    if f.hangs then .error (.scaffold (launchError command .timeout false))
    else if f.code.getD 0 = 0 then .ok ⟨0, outputText f.output, outputText f.errors, false⟩
    else .error (.scaffold (.process command (f.code.getD 0) (outputText f.errors)))

/-- The outcome of a command decides its result and changes nothing. -/
theorem perform_judge_eq_verdict (command : List String) (outcome : Outcome) (s : Session) :
    (judge command outcome).perform s = (verdict command outcome, s) := by
  cases outcome with
  | refused e missing => rfl
  | started f =>
      rw [judge, perform_bind, perform_ofExcept]
      cases hhangs : f.hangs with
      | true => simp [Finish.complete, verdict, hhangs, Except.mapError]
      | false =>
          by_cases hcode : f.code.getD 0 = 0
          · simp [Finish.complete, verdict, hhangs, hcode, Except.mapError]
          · simp [Finish.complete, verdict, hhangs, hcode, Except.mapError]

theorem perform_judge (programs : Programs) (command : List String) (s : Session) :
    ∃ result, (judge command (programs command)).perform s = (result, s) ∧
      ∀ c, result = .ok c → programs.Succeeds command := by
  refine ⟨_, perform_judge_eq_verdict command (programs command) s, fun c h => ?_⟩
  unfold verdict at h
  split at h
  · cases h
  · rename_i f houtcome
    split_ifs at h with hhangs hcode
    exact ⟨f, houtcome, by simpa using hhangs, hcode⟩

/-- A command that has to succeed is one happening, and a success when the action ends well. -/
theorem follows_runProcess (command : List String) (directory : Option String) :
    Follows programs cwd (runProcess programs command directory)
      [.started ⟨command, launchDirectory directory⟩] := by
  refine (follows_remark _ _ _).after fun _ => ?_
  rintro s rfl
  obtain ⟨after, hlaunch, hhistory, hcwd⟩ :=
    perform_launch programs command directory s
  obtain ⟨result, hjudge, hsuccess⟩ := perform_judge programs command after
  have hperform : (launch programs command directory >>= judge command).perform s =
      (result, after) := by
    rw [perform_bind, hlaunch]
    exact hjudge
  refine ⟨[.started ⟨command, launchDirectory directory⟩], ?_, List.prefix_rfl,
    inOrder_singleton _, ?_, fun c hc => ⟨rfl, ?_⟩⟩
  · exact (congrArg (fun r => r.2.history) hperform).trans hhistory
  · exact (congrArg (fun r => r.2.cwd) hperform).trans hcwd
  · intro l hl
    obtain rfl := Happening.started.inj (List.mem_singleton.1 hl)
    exact hsuccess c ((congrArg Prod.fst hperform).symm.trans hc)

end Session

end ReactScaffold
