import ReactScaffold.CommandLine.Run
import Mathlib

/-!
# Conversations

`Action.Leads` says of an action that a relation holds between the session before it and the one
after it, however the action ends; a relation that is reflexive and transitive is kept by
sequencing. Making up a project is a conversation: lines are typed, events shown and remarks made,
and nothing else changes.
-/

namespace ReactScaffold

/-- Whether an event is a table. -/
def Event.isTable : Event → Bool
  | .table _ _ _ => true
  | _ => false

namespace Action

variable {α β : Type} {R : Session → Session → Prop}

/-- The relation holds between the session before the action and the one after it. -/
def Leads (R : Session → Session → Prop) (a : Action Session α) : Prop :=
  ∀ s, R s (a.perform s).2

theorem leads_modifyGet {f : Session → α × Session} (h : ∀ s, R s (f s).2) :
    Leads R (modifyGet f : Action Session α) := h

theorem leads_modify {f : Session → Session} (h : ∀ s, R s (f s)) : Leads R (modify f) := h

theorem leads_get {f : Session → Action Session β} (hf : ∀ x, Leads R (f x)) :
    Leads R (get >>= f) := fun s => hf s s

variable [IsPreorder Session R]

theorem leads_of_perform {a : Action Session α} (h : ∀ s, (a.perform s).2 = s) : Leads R a := by
  intro s
  rw [h s]
  exact Std.Refl.refl s

theorem leads_pure (x : α) : Leads R (pure x) := leads_of_perform fun _ => rfl

theorem leads_throw (f : Failure) : Leads R (throw f : Action Session α) :=
  leads_of_perform fun _ => rfl

theorem leads_ofExcept {ε : Type} (f : ε → Failure) (x : Except ε α) : Leads R (ofExcept f x) := by
  cases x with
  | ok a => exact leads_pure a
  | error e => exact leads_throw (f e)

theorem Leads.bind {a : Action Session α} {f : α → Action Session β} (ha : Leads R a)
    (hf : ∀ x, Leads R (f x)) : Leads R (a >>= f) := by
  intro s
  have hs := ha s
  rw [perform_bind]
  cases hperform : a.perform s with
  | mk result t =>
      rw [hperform] at hs
      cases result with
      | error e => exact hs
      | ok x => exact IsTrans.trans _ _ _ hs (hf x t)

theorem Leads.map {a : Action Session α} (ha : Leads R a) (f : α → β) : Leads R (f <$> a) := by
  rw [map_eq_pure_bind]
  exact ha.bind fun x => leads_pure (f x)

end Action

namespace Session

open ReactScaffold.Action Text

/-- In the second session the world is as it is in the first. -/
structure Untouched (s t : Session) : Prop where
  disk : t.disk = s.disk
  cwd : t.cwd = s.cwd
  history : t.history = s.history

theorem Untouched.refl (s : Session) : Untouched s s := ⟨rfl, rfl, rfl⟩

theorem Untouched.trans {s t u : Session} (h : Untouched s t) (h' : Untouched t u) :
    Untouched s u :=
  ⟨h'.disk.trans h.disk, h'.cwd.trans h.cwd, h'.history.trans h.history⟩

/-- The second session is the first after lines were typed, events shown and remarks made. None of
the events is a table. -/
structure Converses (s t : Session) : Prop extends Untouched s t where
  shown : ∃ events, t.shown = s.shown ++ events ∧ ∀ e ∈ events, e.isTable = false

theorem Untouched.converses {s t : Session} (h : Untouched s t) (hshown : t.shown = s.shown) :
    Converses s t :=
  ⟨h, [], by rw [hshown, List.append_nil], fun e he => by cases he⟩

instance : IsPreorder Session Converses where
  refl s := (Untouched.refl s).converses rfl
  trans s t u h h' := by
    obtain ⟨first, hfirst, hplain⟩ := h.shown
    obtain ⟨second, hsecond, hplain'⟩ := h'.shown
    refine ⟨h.toUntouched.trans h'.toUntouched, first ++ second,
      by rw [hsecond, hfirst, List.append_assoc], fun e he => ?_⟩
    rcases List.mem_append.1 he with hmem | hmem
    · exact hplain e hmem
    · exact hplain' e hmem

theorem converses_display {e : Event} (he : e.isTable = false) : Leads Converses (display e) :=
  leads_modify fun _ => ⟨⟨rfl, rfl, rfl⟩, [e], rfl, fun _ h => List.mem_singleton.1 h ▸ he⟩

theorem converses_remark (level : Level) (topic : Topic) (text : String) :
    Leads Converses (remark level topic text) :=
  leads_modify fun _ => Untouched.converses ⟨rfl, rfl, rfl⟩ rfl

theorem leads_requirePath {R : Session → Session → Prop} [IsPreorder Session R] (p : Path) :
    Leads R (requirePath p) := by
  unfold requirePath
  split_ifs
  · exact leads_throw _
  · exact leads_pure ()

theorem leads_readOctets {R : Session → Session → Prop} [IsPreorder Session R] (p : Path) :
    Leads R (readOctets p) :=
  (leads_requirePath p).bind fun _ => leads_get fun _ => leads_get fun _ => leads_pure _

/-! ## Questions -/

theorem isTable_of_mem_put {α : Type} {q : Question α}
    (hq : ∀ line e, q.accept line = .error e → e.isTable = false) (lines : List (Option String)) :
    ∀ e ∈ (q.put lines).1, e.isTable = false := by
  have hprompt : ∀ e ∈ [Event.prompt q.prompt], e.isTable = false := fun e he => by
    rw [List.mem_singleton.1 he]
    rfl
  induction lines with
  | nil => exact hprompt
  | cons line lines ih =>
      cases line with
      | none => exact hprompt
      | some line =>
          rw [Question.put]
          cases haccept : q.accept line with
          | ok a => exact hprompt
          | error rejection =>
              exact List.forall_mem_cons.2 ⟨rfl, List.forall_mem_cons.2
                ⟨hq line rejection haccept, ih⟩⟩

theorem converses_ask {α : Type} {q : Question α}
    (hq : ∀ line e, q.accept line = .error e → e.isTable = false) : Leads Converses q.ask :=
  Leads.bind (leads_modifyGet fun _ => ⟨⟨rfl, rfl, rfl⟩, _, rfl, isTable_of_mem_put hq _⟩)
    fun _ => leads_ofExcept _ _

theorem converses_choiceQuestion {α : Type} [Axis α] (text : String) (default : α) :
    Leads Converses (choiceQuestion text default).ask := by
  refine converses_ask fun line e he => ?_
  unfold choiceQuestion at he
  dsimp only at he
  split_ifs at he
  split at he
  · cases he
  · cases he
    rfl

theorem converses_switchQuestion (text : String) : Leads Converses (switchQuestion text).ask := by
  refine converses_ask fun line e he => ?_
  unfold switchQuestion at he
  dsimp only at he
  split_ifs at he
  cases he
  rfl

theorem converses_nameQuestion : Leads Converses nameQuestion.ask := by
  refine converses_ask fun line e he => ?_
  unfold nameQuestion at he
  dsimp only at he
  split at he
  · cases he
  · cases he
    rfl

/-! ## The answers -/

theorem converses_choose {α : Type} [Axis α] (c : Collector) (answers : Answers)
    (name text : String) (default : α) :
    Leads Converses (c.choose answers name text default) := by
  unfold Collector.choose
  split
  · exact leads_ofExcept _ _
  · split_ifs
    · exact converses_choiceQuestion text default
    · exact leads_pure _

theorem converses_chooseGated {α : Type} [Axis α] (c : Collector) (answers : Answers)
    (applies : Bool) (name text : String) (default : α) :
    Leads Converses (c.chooseGated answers applies name text default) := by
  unfold Collector.chooseGated
  split_ifs
  · exact (converses_choose c answers name text default).map _
  · split
    · exact Leads.map (leads_ofExcept _ _) _
    · exact leads_pure _

theorem converses_confirm (c : Collector) (answers : Answers) (name text : String) :
    Leads Converses (c.confirm answers name text) := by
  unfold Collector.confirm
  split
  · exact leads_pure _
  · split_ifs
    · exact converses_switchQuestion text
    · exact leads_pure _

theorem converses_projectName (c : Collector) (answers : Answers) :
    Leads Converses (c.projectName answers) := by
  unfold Collector.projectName
  split
  · exact leads_pure _
  · split_ifs
    · exact converses_nameQuestion.map _
    · exact leads_throw _

theorem converses_collect (c : Collector) (answers : Answers) :
    Leads Converses (c.collect answers) := by
  refine (converses_projectName c answers).bind fun name => ?_
  refine (converses_choose c answers _ _ _).bind fun framework => ?_
  refine (converses_chooseGated c answers _ _ _ _).bind fun router => ?_
  refine (converses_choose c answers _ _ _).bind fun language => ?_
  refine (converses_choose c answers _ _ _).bind fun packageManager => ?_
  refine (converses_choose c answers _ _ _).bind fun styling => ?_
  refine (converses_chooseGated c answers _ _ _ _).bind fun tailwindVersion => ?_
  refine (converses_choose c answers _ _ _).bind fun stateManagement => ?_
  refine (converses_choose c answers _ _ _).bind fun icons => ?_
  refine (converses_confirm c answers _ _).bind fun codeQuality => ?_
  refine (converses_confirm c answers _ _).bind fun testing => ?_
  refine (converses_confirm c answers _ _).bind fun apiClient => ?_
  refine Leads.bind (leads_ofExcept _ _) fun name => (converses_remark _ _ _).bind fun _ => ?_
  exact leads_pure _

theorem converses_loadProject (path : Path) : Leads Converses (loadProject path) := by
  refine (leads_readOctets path).bind fun octets => ?_
  cases octets with
  | error e => exact leads_throw _
  | ok octets => exact leads_ofExcept _ _

theorem converses_renameProject (p : Project) (answers : Answers) :
    Leads Converses (renameProject p answers) := by
  unfold renameProject
  split
  · split_ifs
    · exact leads_pure _
    · exact leads_ofExcept _ _
  · exact leads_pure _

theorem leads_requireGiven {R : Session → Session → Prop} [IsPreorder Session R]
    (a : PathArgument) : Leads R (requireGiven a) := by
  cases a with
  | path p => exact leads_pure _
  | dashes => exact leads_throw _

/-- A project is made up in a conversation. -/
theorem converses_resolveProject (i : Invocation) (settings : Settings) :
    Leads Converses (resolveProject i settings) := by
  unfold resolveProject
  split
  · refine (leads_requireGiven _).bind fun path => (converses_loadProject path).bind fun p => ?_
    exact converses_renameProject p i.answers
  · exact converses_collect _ _

theorem converses_compile (p : Project) : Leads Converses (compile p) :=
  Leads.bind (leads_ofExcept _ _) fun _ => (converses_remark _ _ _).bind fun _ => leads_pure _

end Session

end ReactScaffold
