import ReactScaffold.Failure

/-!
# Actions

An action changes a state and gives a value or fails. What it changed before a failure stays
changed.
-/

namespace ReactScaffold

/-- A computation on a state that may fail. -/
abbrev Action (σ α : Type) := ExceptT Failure (StateM σ) α

namespace Action

variable {σ α : Type}

/-- The result of an action in a state, and the state after it. -/
def perform (a : Action σ α) (s : σ) : Except Failure α × σ := (ExceptT.run a).run s

@[simp] theorem perform_pure (a : α) (s : σ) : perform (pure a) s = (.ok a, s) := rfl

@[simp] theorem perform_throw (f : Failure) (s : σ) :
    perform (throw f : Action σ α) s = (.error f, s) := rfl

@[simp] theorem perform_get (s : σ) : perform (get : Action σ σ) s = (.ok s, s) := rfl

@[simp] theorem perform_modify (f : σ → σ) (s : σ) :
    perform (modify f : Action σ Unit) s = (.ok (), f s) := rfl

@[simp] theorem perform_modifyGet {β : Type} (f : σ → β × σ) (s : σ) :
    perform (modifyGet f : Action σ β) s = (.ok (f s).1, (f s).2) := rfl

theorem perform_bind {β : Type} (a : Action σ α) (f : α → Action σ β) (s : σ) :
    perform (a >>= f) s =
      match perform a s with
      | (.ok x, s) => perform (f x) s
      | (.error e, s) => (.error e, s) := by
  simp only [perform, ExceptT.run_bind, StateT.run_bind]
  cases h : (ExceptT.run a).run s with
  | mk r s' => cases r <;> rfl

theorem perform_map {β : Type} (f : α → β) (a : Action σ α) (s : σ) :
    perform (f <$> a) s = ((perform a s).1.map f, (perform a s).2) := by
  rw [map_eq_pure_bind, perform_bind]
  cases h : perform a s with
  | mk r s' => cases r <;> rfl

/-- Stops with a scaffold error. -/
def refuse (e : ScaffoldError) : Action σ α := throw (.scaffold e)

/-- Stops with a fault. -/
def fail (f : Fault) : Action σ α := throw (.fault f)

/-- The value of an outcome, its error being turned into a failure. -/
def ofExcept {ε : Type} (f : ε → Failure) (x : Except ε α) : Action σ α :=
  match x with
  | .ok a => pure a
  | .error e => throw (f e)

@[simp] theorem perform_refuse (e : ScaffoldError) (s : σ) :
    perform (refuse e : Action σ α) s = (.error (.scaffold e), s) := rfl

@[simp] theorem perform_fail (f : Fault) (s : σ) :
    perform (fail f : Action σ α) s = (.error (.fault f), s) := rfl

@[simp] theorem perform_ofExcept {ε : Type} (f : ε → Failure) (x : Except ε α) (s : σ) :
    perform (ofExcept f x : Action σ α) s = (x.mapError f, s) := by
  cases x <;> rfl

end Action

end ReactScaffold
