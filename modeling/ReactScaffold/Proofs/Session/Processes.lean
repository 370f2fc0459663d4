import ReactScaffold.Proofs.Session.Timeline
import ReactScaffold.Proofs.Text.Blank
import ReactScaffold.Proofs.Text.Decoding

/-!
# How commands end

A runner hands command lines to a machine, in the environment of the processes that it starts. Each
command starts one process, and whatever becomes of it is either a good end with the code zero or
the error of that command.
-/

namespace ReactScaffold

open ReactScaffold.Action Text

/-! ## Outputs -/

/-- An output that is text is given as it is, but for the blanks at its ends. -/
theorem outputText_of_decode {octets : List UInt8} {cs : List Char}
    (h : Utf8.decode octets = .ok cs) :
    outputText (some octets) = String.ofList (stripBlank cs) := by
  have hlossy : Utf8.decodeLossy octets = cs := by
    rw [Utf8.decodeLossy, Utf8.eq_map_char_of_strict h, List.map_map]
    exact List.map_id cs
  rw [outputText, Option.getD_some, hlossy]

/-- An output has no blanks at its ends. -/
theorem strip_outputText (octets : Option (List UInt8)) :
    strip (outputText octets) = outputText octets := by
  rw [strip, outputText, String.toList_ofList, stripBlank_stripBlank]

/-! ## Outcomes -/

/-- The code and the text of the error that an outcome is for a command which has to succeed: what
is missing has the code of the shell for it, and so has all else that keeps a program from running
to its end. A process that has ended gives its own code and what it wrote about its errors. -/
inductive Outcome.FailsWith (program : String) : Outcome → Int → String → Prop where
  | missing (e : OsError) :
      FailsWith program (.refused e true) 127 ("executable not found: " ++ program)
  | notStarted (e : OsError) :
      FailsWith program (.refused e false) 126 ("cannot run " ++ program ++ ": " ++ e.reason)
  | notWaitedFor (f : Finish) (hhangs : f.hangs = true) :
      FailsWith program (.started f) 126 ("cannot run " ++ program ++ ": ")
  | ended (f : Finish) (code : Int) (hhangs : f.hangs = false) (hcode : f.code = some code)
      (hne : code ≠ 0) : FailsWith program (.started f) code (outputText f.errors)

/-- What a command gives that comes to a good end. -/
def Finish.success (f : Finish) : Completion :=
  ⟨0, outputText f.output, outputText f.errors, false⟩

/-- The process was started and has ended by itself, without a code or with the code zero. -/
def Outcome.SucceedsWith (outcome : Outcome) (c : Completion) : Prop :=
  ∃ f, outcome = .started f ∧ f.hangs = false ∧ (f.code = none ∨ f.code = some 0) ∧ c = f.success

namespace Session

variable {program : String} {arguments : List String} {outcome : Outcome}

theorem launchError_timeout : launchError (program :: arguments) .timeout false =
    .process (program :: arguments) 126 ("cannot run " ++ program ++ ": ") := by
  simp [launchError, OsError.reason, OsError.message]

theorem getD_eq_zero_iff {code : Option Int} : code.getD 0 = 0 ↔ code = none ∨ code = some 0 := by
  cases code <;> simp

theorem verdict_eq_ok_iff {c : Completion} :
    verdict (program :: arguments) outcome = .ok c ↔ outcome.SucceedsWith c := by
  unfold Outcome.SucceedsWith
  cases outcome with
  | refused e missing => simp [verdict]
  | started f =>
      simp only [verdict, ← getD_eq_zero_iff, Outcome.started.injEq, exists_eq_left']
      split_ifs with hhangs hcode
      · simp [hhangs]
      · simp [hhangs, hcode, Finish.success, eq_comm]
      · simp [hcode]

theorem verdict_eq_error_iff {failure : Failure} :
    verdict (program :: arguments) outcome = .error failure ↔
      ∃ code text, outcome.FailsWith program code text ∧
        failure = .scaffold (.process (program :: arguments) code text) := by
  constructor
  · intro h
    cases outcome with
    | refused e missing =>
        cases Except.error.inj h
        cases missing with
        | true => exact ⟨_, _, .missing e, rfl⟩
        | false => exact ⟨_, _, .notStarted e, rfl⟩
    | started f =>
        unfold verdict at h
        dsimp only at h
        split_ifs at h with hhangs hcode
        · cases h
          exact ⟨_, _, .notWaitedFor f hhangs, congrArg _ launchError_timeout⟩
        · cases h
          rw [getD_eq_zero_iff, not_or] at hcode
          obtain ⟨code, hsome⟩ := Option.ne_none_iff_exists'.1 hcode.1
          refine ⟨code, _, .ended f code (by simpa using hhangs) hsome ?_, by rw [hsome]; rfl⟩
          exact fun hzero => hcode.2 (hzero ▸ hsome)
  · rintro ⟨code, text, hfails, rfl⟩
    cases hfails with
    | missing e => rfl
    | notStarted e => rfl
    | notWaitedFor f hhangs => simp [verdict, hhangs, launchError_timeout]
    | ended f code hhangs hcode hne => simp [verdict, hhangs, hcode, hne]

end Session

theorem Outcome.FailsWith.code_ne_zero {program : String} {outcome : Outcome} {code : Int}
    {text : String} (h : outcome.FailsWith program code text) : code ≠ 0 := by
  cases h with
  | missing e => decide
  | notStarted e => decide
  | notWaitedFor f hhangs => decide
  | ended f code hhangs hcode hne => exact hne

/-! ## Runners -/

/-- Where commands are run: what becomes of a command line in an environment, the environment of the
parent and the variables that are added to it. -/
structure Runner where
  machine : Option Environment → Programs
  parent : Environment
  extra : Environment

namespace Runner

/-- What becomes of the command lines of the runner. -/
def programs (r : Runner) : Programs := r.machine (childEnvironment r.parent r.extra)

/-- Runs a program with arguments. -/
def run (r : Runner) (program : String) (arguments : List String) (cwd : Option String) :
    Action Session Completion :=
  Session.runProcess r.programs (program :: arguments) cwd

/-- One run of a program: one process is started, and its outcome is translated in full. -/
structure Runs (r : Runner) (program : String) (arguments : List String) (cwd : Option String)
    (s t : Session) (result : Except Failure Completion) : Prop where
  perform_eq : (r.run program arguments cwd).perform s = (result, t)
  history : t.history = s.history ++ [.started ⟨program :: arguments, launchDirectory cwd⟩]
  cwd : t.cwd = s.cwd
  ok_iff (c : Completion) :
    result = .ok c ↔ (r.programs (program :: arguments)).SucceedsWith c
  error_iff (failure : Failure) :
    result = .error failure ↔ ∃ code text,
      (r.programs (program :: arguments)).FailsWith program code text ∧
        failure = .scaffold (.process (program :: arguments) code text)
  code_ne_zero (command : List String) (code : Int) (text : String)
    (h : result = .error (.scaffold (.process command code text))) : code ≠ 0

end Runner

end ReactScaffold
