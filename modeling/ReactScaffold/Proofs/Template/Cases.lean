import ReactScaffold.Proofs.Project.Cases
import ReactScaffold.Proofs.Template.Render

/-!
# Expressions by cases

What an expression stands for is found case by case from what the names stand for in each case. In
the cases that apply to a project it is what the expression stands for in a scope of the project.
-/

namespace ReactScaffold

/-- What is known of the names of a template: what they stand for case by case; the items of lists
that are made up of parts, each of them by cases; and the names whose titles mention nothing. -/
structure Survey where
  values : Var → Option (Cases Value)
  lists : Var → Option (List (Cases (List (Json String)))) := fun _ => none
  titled : Var → Bool := fun _ => false

/-- The survey in which one more name is known. -/
def Survey.set (K : Survey) (v : Var) (c : Cases Value) : Survey where
  values w := if w = v then some c else K.values w
  lists w := if w = v then none else K.lists w
  titled w := !decide (w = v) && K.titled w

/-- What the switch of a call is given as, by cases. -/
def Survey.switch (K : Survey) : Option Var → Option (Cases (List (String × Value)))
  | none => some (.pure [])
  | some v => (K.values v).map (Cases.map fun x => [("annotate", x)])

mutual

/-- What an expression stands for, by cases. -/
def Expr.cases (K : Survey) : Expr → Option (Cases (Except TemplateFault Value))
  | .var v => (K.values v).map (Cases.map Except.ok)
  | .str t => some (.pure (.ok (.data (.str t))))
  | .list items => some (.pure (.ok (.data (texts items))))
  | .member e m => (e.cases K).map (Cases.map fun x => do (← x).member m)
  | .call callee args annotate => do
    let callees ← callee.cases K
    let arguments ← Expr.casesAll K args
    let switches ← K.switch annotate
    return callees.bind fun f => arguments.bind fun xs => switches.map fun named => do
      (← f).call (← xs) named
  | .join parts =>
    (Expr.casesAll K parts).map (Cases.map fun xs => do
      return .data (.str (String.join (← (← xs).mapM Value.display))))
  | .title _ => none
  | .choose v yes no => do
    let tests ← K.values v
    let first ← yes.cases K
    let second ← no.cases K
    return tests.bind fun x =>
      match x.holds with
      | .ok true => first
      | .ok false => second
      | .error e => .pure (.error e)

/-- What each of some expressions stands for, by cases. -/
def Expr.casesAll (K : Survey) : List Expr → Option (Cases (Except TemplateFault (List Value)))
  | [] => some (.pure (.ok []))
  | e :: rest => do
    let first ← e.cases K
    let others ← Expr.casesAll K rest
    return first.bind fun x => others.map fun xs => do return (← x) :: (← xs)

end

/-- Whether a condition holds, by cases. -/
def Condition.cases (K : Survey) : Condition → Option (Cases (Except TemplateFault Bool))
  | .holds e => (e.cases K).map (Cases.map fun x => do (← x).holds)
  | .not c => (c.cases K).map (Cases.map fun b => b.map (!·))
  | .both c d => do
    let first ← c.cases K
    let second ← d.cases K
    return first.bind fun b => second.map fun b' => do if ← b then b' else return false

/-- The items of what an expression stands for, in parts, each of them by cases. -/
def Expr.parts (K : Survey) (e : Expr) : Option (List (Cases (List (Json String)))) :=
  let listed :=
    match e with
    | .var v => K.lists v
    | _ => none
  listed.or do
    let c ← e.cases K
    let items ← c.traverse fun x => (do (← x).items : Except _ _).toOption
    return [items]

/-- In the scope, names stand for what the survey gives for the project. -/
structure Scope.Meets (s : Scope) (K : Survey) (p : Project) : Prop where
  values (v : Var) (c : Cases Value) (h : K.values v = some c) : c.given p = [s.get v]
  lists (v : Var) (parts : List (Cases (List (Json String)))) (h : K.lists v = some parts) :
    (s.get v).items = .ok (parts.flatMap fun c => (c.given p).flatten)

variable {s : Scope} {K : Survey} {p : Project}

theorem Scope.get_set (s : Scope) (v w : Var) (x : Value) :
    (s.set v x).get w = if w = v then x else s.get w := by
  unfold Scope.get Scope.set
  split_ifs
  · rfl
  · rfl

theorem Scope.Meets.set (hs : s.Meets K p) (v : Var) {c : Cases Value} {x : Value}
    (hc : c.given p = [x]) : (s.set v x).Meets (K.set v c) p where
  values w d h := by
    rw [Scope.get_set]
    unfold Survey.set at h
    dsimp only at h
    split_ifs at h ⊢ with hw
    · rw [← Option.some.inj h, hc]
    · exact hs.values w d h
  lists w parts h := by
    rw [Scope.get_set]
    unfold Survey.set at h
    dsimp only at h
    split_ifs at h ⊢ with hw
    exact hs.lists w parts h

theorem Survey.given_switch (hs : s.Meets K p) {annotate : Option Var}
    {c : Cases (List (String × Value))} (h : K.switch annotate = some c) :
    c.given p = [annotate.toList.map fun v => ("annotate", s.get v)] := by
  cases annotate with
  | none =>
      obtain rfl := Option.some.inj h
      rfl
  | some v =>
      obtain ⟨d, hd, rfl⟩ := Option.map_eq_some_iff.1 h
      rw [Cases.given_map, hs.values v d hd]
      rfl

mutual

/-- In the cases that apply, an expression stands for what it stands for in the scope. -/
theorem Expr.given_cases (hs : s.Meets K p) : (e : Expr) →
    {c : Cases (Except TemplateFault Value)} → e.cases K = some c → c.given p = [e.eval s]
  | .var v, c, h => by
      obtain ⟨d, hd, rfl⟩ := Option.map_eq_some_iff.1 h
      rw [Cases.given_map, hs.values v d hd]
      rfl
  | .str t, c, h => by
      obtain rfl := Option.some.inj h
      rfl
  | .list items, c, h => by
      obtain rfl := Option.some.inj h
      rfl
  | .member e m, c, h => by
      obtain ⟨d, hd, rfl⟩ := Option.map_eq_some_iff.1 h
      rw [Cases.given_map, Expr.given_cases hs e hd]
      rfl
  | .call callee args annotate, c, h => by
      obtain ⟨callees, hcallees, h⟩ := Option.bind_eq_some_iff.1 h
      obtain ⟨arguments, harguments, h⟩ := Option.bind_eq_some_iff.1 h
      obtain ⟨switches, hswitches, h⟩ := Option.bind_eq_some_iff.1 h
      obtain rfl := Option.some.inj h
      simp only [Cases.given_bind, Cases.given_map, Expr.given_cases hs callee hcallees,
        Expr.given_casesAll hs args harguments, Survey.given_switch hs hswitches,
        List.flatMap_singleton, List.map_singleton]
      rfl
  | .join parts, c, h => by
      obtain ⟨d, hd, rfl⟩ := Option.map_eq_some_iff.1 h
      rw [Cases.given_map, Expr.given_casesAll hs parts hd]
      rfl
  | .title e, c, h => by cases h
  | .choose v yes no, c, h => by
      obtain ⟨tests, htests, h⟩ := Option.bind_eq_some_iff.1 h
      obtain ⟨first, hfirst, h⟩ := Option.bind_eq_some_iff.1 h
      obtain ⟨second, hsecond, h⟩ := Option.bind_eq_some_iff.1 h
      obtain rfl := Option.some.inj h
      have hyes := Expr.given_cases hs yes hfirst
      have hno := Expr.given_cases hs no hsecond
      rw [Cases.given_bind, hs.values v tests htests, List.flatMap_singleton, Expr.eval]
      cases (s.get v).holds with
      | error e => rfl
      | ok b =>
          cases b with
          | true => exact hyes
          | false => exact hno

theorem Expr.given_casesAll (hs : s.Meets K p) : (es : List Expr) →
    {c : Cases (Except TemplateFault (List Value))} → Expr.casesAll K es = some c →
      c.given p = [Expr.evalAll s es]
  | [], c, h => by
      obtain rfl := Option.some.inj h
      rfl
  | e :: es, c, h => by
      obtain ⟨first, hfirst, h⟩ := Option.bind_eq_some_iff.1 h
      obtain ⟨others, hothers, h⟩ := Option.bind_eq_some_iff.1 h
      obtain rfl := Option.some.inj h
      simp only [Cases.given_bind, Cases.given_map, Expr.given_cases hs e hfirst,
        Expr.given_casesAll hs es hothers, List.flatMap_singleton, List.map_singleton]
      rfl

end

theorem Condition.given_cases (hs : s.Meets K p) {cnd : Condition}
    {c : Cases (Except TemplateFault Bool)} (h : cnd.cases K = some c) :
    c.given p = [cnd.eval s] := by
  induction cnd generalizing c with
  | holds e =>
      obtain ⟨d, hd, rfl⟩ := Option.map_eq_some_iff.1 h
      rw [Cases.given_map, e.given_cases hs hd]
      rfl
  | not cnd ih =>
      obtain ⟨d, hd, rfl⟩ := Option.map_eq_some_iff.1 h
      rw [Cases.given_map, ih hd]
      rfl
  | both cnd other ihc ihd =>
      obtain ⟨first, hfirst, h⟩ := Option.bind_eq_some_iff.1 h
      obtain ⟨second, hsecond, h⟩ := Option.bind_eq_some_iff.1 h
      obtain rfl := Option.some.inj h
      simp only [Cases.given_bind, Cases.given_map, ihc hfirst, ihd hsecond,
        List.flatMap_singleton, List.map_singleton]
      rfl

/-- The items of the parts that apply are those of what the expression stands for. -/
theorem Expr.items_of_parts (hs : s.Meets K p) {e : Expr} {parts : List (Cases (List (Json String)))}
    (h : e.parts K = some parts) :
    ∃ x, e.eval s = .ok x ∧ x.items = .ok (parts.flatMap fun c => (c.given p).flatten) := by
  have hgeneral {c : Cases (Except TemplateFault Value)} {d : Cases (List (Json String))}
      (hc : e.cases K = some c)
      (hd : c.traverse (fun x => (do (← x).items : Except _ _).toOption) = some d) :
      ∃ x, e.eval s = .ok x ∧ x.items = .ok ([d].flatMap fun c => (c.given p).flatten) := by
    obtain ⟨items, hitems, heval⟩ := Cases.exists_of_traverse hd (e.given_cases hs hc)
    cases hx : e.eval s with
    | error fault =>
        rw [hx] at heval
        cases heval
    | ok x =>
        rw [hx] at heval
        refine ⟨x, rfl, ?_⟩
        change x.items.toOption = some items at heval
        cases hxs : x.items with
        | error fault =>
            rw [hxs] at heval
            cases heval
        | ok xs =>
            rw [hxs] at heval
            obtain rfl := Option.some.inj heval
            simp [hitems]
  unfold Expr.parts at h
  dsimp only at h
  rcases Option.or_eq_some_iff.1 h with hlisted | ⟨-, h⟩
  · split at hlisted
    · exact ⟨_, rfl, hs.lists _ parts hlisted⟩
    · cases hlisted
  · obtain ⟨c, hc, h⟩ := Option.bind_eq_some_iff.1 h
    obtain ⟨d, hd, h⟩ := Option.bind_eq_some_iff.1 h
    obtain rfl := Option.some.inj h
    exact hgeneral hc hd

end ReactScaffold
