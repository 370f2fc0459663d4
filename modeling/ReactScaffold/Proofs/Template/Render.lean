import Mathlib
import ReactScaffold.Proofs.Outcome
import ReactScaffold.Proofs.Template.Shape

/-!
# Templates that are checked can be rendered

In a scope that gives every name a value of its shape, an expression stands for a value of its
shape, and a template that is checked has a text.
-/

namespace ReactScaffold

variable {s : Scope} {Γ : Context}

/-! ## Values -/

namespace Value

variable {v : Value} {sh : Shape}

theorem Has.exists_data (h : v.Has sh) (hdata : sh.isData = true) : ∃ j, v = .data j := by
  cases h with
  | datum j => exact ⟨j, rfl⟩
  | text s => exact ⟨_, rfl⟩
  | word s => exact ⟨_, rfl⟩
  | list vs => exact ⟨_, rfl⟩
  | mapping members => exact ⟨_, rfl⟩
  | dialect f => cases hdata
  | method m => cases hdata

theorem Has.exists_display (h : v.Has sh) (hdata : sh.isData = true) :
    ∃ t, v.display = .ok t := by
  obtain ⟨j, rfl⟩ := h.exists_data hdata
  exact ⟨j.display, rfl⟩

theorem Has.exists_holds (h : v.Has sh) : ∃ b, v.holds = .ok b := by
  cases h with
  | dialect f => exact ⟨true, rfl⟩
  | method m => exact ⟨true, rfl⟩
  | _ => exact ⟨_, rfl⟩

theorem Has.exists_title (h : v.Has sh) (htext : sh.isText = true) :
    ∃ w, v.title = .ok w ∧ w.Has .text := by
  cases h with
  | text s => exact ⟨_, rfl, .text _⟩
  | word s => exact ⟨_, rfl, .text _⟩
  | _ => cases htext

theorem Has.exists_items (h : v.Has sh) (hitems : sh.isIterable = true) :
    ∃ items, v.items = .ok items := by
  cases h with
  | text s => exact ⟨_, rfl⟩
  | word s => exact ⟨_, rfl⟩
  | list vs => exact ⟨_, rfl⟩
  | mapping members => exact ⟨_, rfl⟩
  | _ => cases hitems

theorem Has.exists_entries (h : v.Has .mapping) : ∃ entries, v.entries = .ok entries := by
  cases h with
  | mapping members => exact ⟨members, rfl⟩

/-- A dialect has the members of its kind. -/
theorem exists_member?_eq_some (f : Dialect) {m : Member} (h : f.kind.member? m = some sh) :
    ∃ w, f.member? m = some w ∧ w.Has sh := by
  suffices ∃ w, f.member? m = some w ∧ w.shape? = some sh by
    obtain ⟨w, hw, hshape⟩ := this
    exact ⟨w, hw, has_of_shape? hshape⟩
  cases f
  all_goals cases m
  all_goals first | exact ⟨_, rfl, h⟩ | cases h

theorem Has.exists_member (h : v.Has sh) {m : Member} {result : Shape}
    (hmember : sh.member? m = some result) : ∃ w, v.member m = .ok w ∧ w.Has result := by
  cases h with
  | dialect f =>
      obtain ⟨w, hw, hhas⟩ := exists_member?_eq_some f hmember
      refine ⟨w, ?_, hhas⟩
      rw [member, hw]
  | _ => cases hmember

end Value

/-! ## Calls -/

theorem Value.Has.exists_key {α : Type} {find : String → Option α} {v : Value} {sh : Shape}
    (h : v.Has sh) (hkey : sh.isKey find = true) :
    ∃ word a, v = .data (.str word) ∧ find word = some a := by
  cases h with
  | word s =>
      obtain ⟨a, ha⟩ := Option.isSome_iff_exists.1 hkey
      exact ⟨s, a, rfl, ha⟩
  | _ => cases hkey

/-- Texts that are found in a table are keys of it. -/
theorem exists_keys {α : Type} {find : String → Option α} {vs : List Value} {shapes : List Shape}
    (h : List.Forall₂ Value.Has vs shapes) (hkeys : shapes.all (Shape.isKey find) = true) :
    ∃ js keys, vs.mapM Value.get = .ok js ∧ js.mapM (tableKey find) = .ok keys := by
  induction h with
  | nil => exact ⟨[], [], rfl, rfl⟩
  | @cons v sh vs shapes hv hvs ih =>
      rw [List.all_cons, Bool.and_eq_true] at hkeys
      obtain ⟨word, a, rfl, ha⟩ := hv.exists_key hkeys.1
      obtain ⟨js, keys, hjs, hall⟩ := ih hkeys.2
      have hkey : tableKey find (.str word) = .ok a := by rw [tableKey, ha]; rfl
      refine ⟨.str word :: js, a :: keys, ?_, ?_⟩
      · rw [List.mapM_cons, hjs]
        rfl
      · rw [List.mapM_cons, hkey, hall]
        rfl

/-- Data can be displayed. -/
theorem exists_displays {vs : List Value} {shapes : List Shape}
    (h : List.Forall₂ Value.Has vs shapes) (hdata : shapes.all Shape.isData = true) :
    ∃ ts, vs.mapM Value.display = .ok ts := by
  induction h with
  | nil => exact ⟨[], rfl⟩
  | @cons v sh vs shapes hv hvs ih =>
      rw [List.all_cons, Bool.and_eq_true] at hdata
      obtain ⟨t, ht⟩ := hv.exists_display hdata.1
      obtain ⟨ts, hts⟩ := ih hdata.2
      refine ⟨t :: ts, ?_⟩
      rw [List.mapM_cons, ht, hts]
      rfl

namespace Method

/-- A method that looks roles up gives a text for those that it finds. -/
theorem exists_apply_attr (f : StylingDialect) {word : String} {role : Role}
    (h : Role.ofName? word = some role) :
    ∃ t, (attr f).apply ⟨[.str word], none⟩ = .ok (.str t) := by
  simp only [apply, Arguments.value, List.headD_cons, tableKey, h]
  split_ifs
  · exact ⟨_, rfl⟩
  · exact ⟨_, rfl⟩

theorem apply_glyph (f : IconDialect) {word : String} {role : IconRole}
    (h : IconRole.ofName? word = some role) :
    (glyph f).apply ⟨[.str word], none⟩ = .ok (.str (f.glyph role)) := by
  simp only [apply, Arguments.value, List.headD_cons, tableKey, h]
  rfl

theorem exists_apply_stylesBlock (f : StylingDialect) (switch : Option (Json String))
    {js : List (Json String)} {roles : List Role}
    (h : js.mapM (tableKey Role.ofName?) = .ok roles) :
    ∃ t, (stylesBlock f).apply ⟨js, switch⟩ = .ok (.str t) := by
  simp only [apply, h]
  split_ifs
  · exact ⟨_, rfl⟩
  · exact ⟨_, rfl⟩

theorem exists_apply_importFor (f : IconDialect) {js : List (Json String)}
    {roles : List IconRole} (h : js.mapM (tableKey IconRole.ofName?) = .ok roles) :
    ∃ t, (importFor f).apply ⟨js, none⟩ = .ok (.str t) := by
  simp only [apply, h]
  split_ifs
  · exact ⟨_, rfl⟩
  · exact ⟨_, rfl⟩

end Method

/-- A call whose arguments are data goes to the method. -/
theorem Value.call_method {m : Method} {args : List Value} {values : List (Json String)}
    {switch : Option (Json String)} {a : Arguments} {result : Json String}
    (hargs : args.mapM get = .ok values)
    (hbind : m.signature.bind values (switch.toList.map fun j => ("annotate", j)) = .ok a)
    (happly : m.apply a = .ok result) :
    (Value.method m).call args (switch.toList.map fun j => ("annotate", .data j)) =
      .ok (.data result) := by
  have hnamed : ((switch.toList.map fun j => ("annotate", Value.data j)).mapM
      fun x : String × Value => return (x.1, ← x.2.get) : Except TemplateFault _) =
        .ok (switch.toList.map fun j => ("annotate", j)) := by
    cases switch with
    | none => rfl
    | some j => rfl
  have hcall : m.call values (switch.toList.map fun j => ("annotate", j)) = .ok result := by
    rw [Method.call, hbind]
    exact happly
  show (args.mapM get >>= fun values => _) = _
  rw [hargs]
  show ((List.mapM _ _ : Except TemplateFault (List (String × Json String))) >>= fun _ => _) = _
  rw [hnamed]
  show (m.call values _ >>= fun w => _) = _
  rw [hcall]
  rfl

/-- An allowed call of a method that has a parameter has one argument and no switch. -/
theorem exists_argument {kind : MethodKind} {args : List Value} {shapes : List Shape}
    {switch : Option (Json String)} {result : Shape}
    (hargs : List.Forall₂ Value.Has args shapes)
    (h : kind.call? shapes switch.isSome = some result)
    (hone : kind ≠ .stylesBlock ∧ kind ≠ .importFor) :
    ∃ v a, args = [v] ∧ shapes = [a] ∧ switch = none ∧ v.Has a := by
  have hshapes : ∃ a, shapes = [a] ∧ switch.isSome = false := by
    unfold MethodKind.call? at h
    split at h
    all_goals first | exact ⟨_, rfl, ‹_›⟩ | cases h | simp at hone
  obtain ⟨a, rfl, hswitch⟩ := hshapes
  rcases hargs with _ | ⟨ha, ⟨⟩⟩
  exact ⟨_, a, rfl, rfl, Option.isNone_iff_eq_none.1 (Option.isSome_eq_false_iff.1 hswitch), ha⟩

/-- An allowed call gives data of the promised shape. -/
theorem Value.Has.exists_call {v : Value} {sh result : Shape} {args : List Value}
    {shapes : List Shape} {switch : Option (Json String)} (h : v.Has sh)
    (hargs : List.Forall₂ Value.Has args shapes)
    (hcall : sh.call? shapes switch.isSome = some result) :
    ∃ w, v.call args (switch.toList.map fun j => ("annotate", .data j)) = .ok w ∧
      w.Has result := by
  cases h with
  | method m =>
      change m.kind.call? shapes switch.isSome = some result at hcall
      cases m with
      | typeMark f =>
          obtain ⟨v, a, rfl, rfl, rfl, ha⟩ := exists_argument hargs hcall ⟨nofun, nofun⟩
          obtain ⟨hdata, ⟨⟩⟩ := Option.ite_none_right_eq_some.1 hcall
          obtain ⟨j, rfl⟩ := ha.exists_data hdata
          exact ⟨_, call_method rfl rfl rfl, .datum _⟩
      | value f =>
          obtain ⟨v, a, rfl, rfl, rfl, ha⟩ := exists_argument hargs hcall ⟨nofun, nofun⟩
          obtain ⟨hdata, ⟨⟩⟩ := Option.ite_none_right_eq_some.1 hcall
          obtain ⟨j, rfl⟩ := ha.exists_data hdata
          exact ⟨_, call_method rfl rfl rfl, .datum _⟩
      | attr f =>
          obtain ⟨v, a, rfl, rfl, rfl, ha⟩ := exists_argument hargs hcall ⟨nofun, nofun⟩
          obtain ⟨hkey, ⟨⟩⟩ := Option.ite_none_right_eq_some.1 hcall
          obtain ⟨word, role, rfl, hrole⟩ := ha.exists_key hkey
          obtain ⟨t, ht⟩ := Method.exists_apply_attr f hrole
          exact ⟨_, call_method rfl rfl ht, .text t⟩
      | glyph f =>
          obtain ⟨v, a, rfl, rfl, rfl, ha⟩ := exists_argument hargs hcall ⟨nofun, nofun⟩
          obtain ⟨hkey, ⟨⟩⟩ := Option.ite_none_right_eq_some.1 hcall
          obtain ⟨word, role, rfl, hrole⟩ := ha.exists_key hkey
          exact ⟨_, call_method rfl rfl (Method.apply_glyph f hrole), .text _⟩
      | stylesBlock f =>
          obtain ⟨hkeys, ⟨⟩⟩ := Option.ite_none_right_eq_some.1 hcall
          obtain ⟨js, roles, hjs, hroles⟩ := exists_keys hargs hkeys
          obtain ⟨t, ht⟩ := Method.exists_apply_stylesBlock f switch hroles
          refine ⟨_, call_method hjs ?_ ht, .text t⟩
          cases switch with
          | none => rfl
          | some j => rfl
      | importFor f =>
          cases switch with
          | some j => cases hcall
          | none =>
          obtain ⟨hkeys, ⟨⟩⟩ := Option.ite_none_right_eq_some.1 hcall
          obtain ⟨js, roles, hjs, hroles⟩ := exists_keys hargs hkeys
          obtain ⟨t, ht⟩ := Method.exists_apply_importFor f hroles
          exact ⟨_, call_method hjs rfl ht, .text t⟩
      | addCommand c => cases hcall
  | _ => cases hcall

/-! ## Scopes -/

/-- Every name that has a shape stands for a value of this shape. -/
def Scope.Conforms (s : Scope) (Γ : Context) : Prop :=
  ∀ v sh, Γ v = some sh → ∃ x, s v = some x ∧ x.Has sh

namespace Scope

theorem Conforms.set (hs : s.Conforms Γ) (v : Var) {x : Value} {sh : Shape} (hx : x.Has sh) :
    (s.set v x).Conforms (Γ.set v sh) := by
  intro w other h
  rw [Context.set] at h
  rw [Scope.set]
  split_ifs at h ⊢ with hw
  · obtain rfl := Option.some.inj h
    exact ⟨x, rfl, hx⟩
  · exact hs w other h

theorem Conforms.get_has (hs : s.Conforms Γ) {v : Var} {sh : Shape} (h : Γ v = some sh) :
    (s.get v).Has sh := by
  obtain ⟨x, hx, hhas⟩ := hs v sh h
  rw [Scope.get, hx]
  exact hhas

/-- The switch of a call is data. -/
theorem Conforms.exists_switch (hs : s.Conforms Γ) {annotate : Option Var}
    (h : annotate.all Γ.isDatum = true) :
    ∃ switch : Option (Json String), switch.isSome = annotate.isSome ∧
      (annotate.toList.map fun v => ("annotate", s.get v)) =
        switch.toList.map fun j => ("annotate", .data j) := by
  cases annotate with
  | none => exact ⟨none, rfl, rfl⟩
  | some v =>
      obtain ⟨sh, hsh, hdata⟩ := (Option.any_eq_true _ _).1 h
      obtain ⟨j, hj⟩ := (hs.get_has hsh).exists_data hdata
      refine ⟨some j, rfl, ?_⟩
      rw [Option.toList_some, List.map_singleton, hj]
      rfl

end Scope

/-! ## Expressions -/

mutual

/-- An expression that has a shape stands for a value of this shape. -/
theorem Expr.exists_eval (hs : s.Conforms Γ) : (e : Expr) → {sh : Shape} →
    e.shape? Γ = some sh → ∃ x, e.eval s = .ok x ∧ x.Has sh
  | .var v, sh, h => ⟨s.get v, rfl, hs.get_has h⟩
  | .str t, sh, h => by
      obtain rfl := Option.some.inj h
      exact ⟨_, rfl, .word t⟩
  | .list items, sh, h => by
      obtain rfl := Option.some.inj h
      exact ⟨_, rfl, .list _⟩
  | .member e m, sh, h => by
      obtain ⟨owner, howner, hmember⟩ := Option.bind_eq_some_iff.1 h
      obtain ⟨x, hx, hhas⟩ := Expr.exists_eval hs e howner
      obtain ⟨y, hy, hresult⟩ := hhas.exists_member hmember
      refine ⟨y, ?_, hresult⟩
      show (e.eval s >>= fun x => x.member m) = _
      rw [hx]
      exact hy
  | .call callee args annotate, sh, h => by
      rw [Expr.shape?] at h
      obtain ⟨hannotate, h⟩ := Option.ite_none_right_eq_some.1 h
      obtain ⟨kind, hkind, h⟩ := Option.bind_eq_some_iff.1 h
      obtain ⟨shapes, hshapes, hcall⟩ := Option.bind_eq_some_iff.1 h
      obtain ⟨f, hf, hhas⟩ := Expr.exists_eval hs callee hkind
      obtain ⟨xs, hxs, hall⟩ := Expr.exists_evalAll hs args hshapes
      obtain ⟨switch, hsome, hnamed⟩ := hs.exists_switch hannotate
      rw [← hsome] at hcall
      obtain ⟨y, hy, hresult⟩ := hhas.exists_call hall hcall
      refine ⟨y, ?_, hresult⟩
      rw [Expr.eval, hf, hxs, hnamed]
      exact hy
  | .join parts, sh, h => by
      obtain ⟨shapes, hshapes, h⟩ := Option.bind_eq_some_iff.1 h
      obtain ⟨hdata, ⟨⟩⟩ := Option.ite_none_right_eq_some.1 h
      obtain ⟨xs, hxs, hall⟩ := Expr.exists_evalAll hs parts hshapes
      obtain ⟨ts, hts⟩ := exists_displays hall hdata
      refine ⟨.data (.str (String.join ts)), ?_, .text _⟩
      rw [Expr.eval, hxs]
      show (xs.mapM Value.display >>= fun ts => _) = _
      rw [hts]
      rfl
  | .title e, sh, h => by
      obtain ⟨inner, hinner, h⟩ := Option.bind_eq_some_iff.1 h
      obtain ⟨htext, ⟨⟩⟩ := Option.ite_none_right_eq_some.1 h
      obtain ⟨x, hx, hhas⟩ := Expr.exists_eval hs e hinner
      obtain ⟨y, hy, hresult⟩ := hhas.exists_title htext
      refine ⟨y, ?_, hresult⟩
      rw [Expr.eval, hx]
      exact hy
  | .choose v yes no, sh, h => by
      obtain ⟨test, htest, h⟩ := Option.bind_eq_some_iff.1 h
      obtain ⟨first, hfirst, h⟩ := Option.bind_eq_some_iff.1 h
      obtain ⟨second, hsecond, h⟩ := Option.bind_eq_some_iff.1 h
      obtain ⟨hdata, ⟨⟩⟩ := Option.ite_none_right_eq_some.1 h
      rw [Bool.and_eq_true] at hdata
      obtain ⟨b, hb⟩ := (hs.get_has htest).exists_holds
      obtain ⟨x, hx, hxhas⟩ := Expr.exists_eval hs yes hfirst
      obtain ⟨y, hy, hyhas⟩ := Expr.exists_eval hs no hsecond
      obtain ⟨i, rfl⟩ := hxhas.exists_data hdata.1
      obtain ⟨j, rfl⟩ := hyhas.exists_data hdata.2
      rw [Expr.eval, hb, hx, hy]
      cases b with
      | true => exact ⟨_, rfl, .datum i⟩
      | false => exact ⟨_, rfl, .datum j⟩

theorem Expr.exists_evalAll (hs : s.Conforms Γ) : (es : List Expr) → {shapes : List Shape} →
    Expr.shapes? Γ es = some shapes →
      ∃ xs, Expr.evalAll s es = .ok xs ∧ List.Forall₂ Value.Has xs shapes
  | [], shapes, h => by
      obtain rfl := Option.some.inj h
      exact ⟨[], rfl, .nil⟩
  | e :: es, shapes, h => by
      obtain ⟨sh, hsh, h⟩ := Option.bind_eq_some_iff.1 h
      obtain ⟨rest, hrest, rfl⟩ := Option.map_eq_some_iff.1 h
      obtain ⟨x, hx, hhas⟩ := Expr.exists_eval hs e hsh
      obtain ⟨xs, hxs, hall⟩ := Expr.exists_evalAll hs es hrest
      refine ⟨x :: xs, ?_, .cons hhas hall⟩
      rw [Expr.evalAll, hx, hxs]
      rfl

end

/-! ## Nodes -/

theorem Condition.exists_eval (hs : s.Conforms Γ) {c : Condition} (h : c.checks Γ = true) :
    ∃ b, c.eval s = .ok b := by
  induction c with
  | holds e =>
      obtain ⟨sh, hsh⟩ := Option.isSome_iff_exists.1 h
      obtain ⟨x, hx, hhas⟩ := e.exists_eval hs hsh
      rw [Condition.eval, hx]
      exact hhas.exists_holds
  | not c ih =>
      obtain ⟨b, hb⟩ := ih h
      exact ⟨!b, by rw [Condition.eval, hb]; rfl⟩
  | both c d ihc ihd =>
      rw [Condition.checks, Bool.and_eq_true] at h
      obtain ⟨b, hb⟩ := ihc h.1
      obtain ⟨b', hb'⟩ := ihd h.2
      rw [Condition.eval, hb, hb']
      cases b with
      | true => exact ⟨b', rfl⟩
      | false => exact ⟨false, rfl⟩

theorem Piece.exists_render (hs : s.Conforms Γ) {piece : Piece} (h : piece.checks Γ = true) :
    ∃ t, piece.render s = .ok t := by
  cases piece with
  | text t => exact ⟨t, rfl⟩
  | hole e =>
      obtain ⟨sh, hsh, hdata⟩ := (Option.any_eq_true _ _).1 h
      obtain ⟨x, hx, hhas⟩ := e.exists_eval hs hsh
      rw [Piece.render, hx]
      exact hhas.exists_display hdata

theorem Piece.exists_renderAll (hs : s.Conforms Γ) {pieces : List Piece}
    (h : pieces.all (Piece.checks Γ) = true) : ∃ t, Piece.renderAll s pieces = .ok t := by
  obtain ⟨ts, hts⟩ := exists_mapM_eq_ok fun piece hpiece =>
    Piece.exists_render hs (List.all_eq_true.1 h piece hpiece)
  rw [Piece.renderAll, hts]
  exact ⟨String.join ts, rfl⟩

mutual

/-- A node that is checked has a text. -/
theorem Node.exists_render : (n : Node) → {s : Scope} → {Γ : Context} → s.Conforms Γ →
    n.checks Γ = true → ∃ t, n.render s = .ok t
  | .text t, s, Γ, hs, h => ⟨t ++ "\n", rfl⟩
  | .line pieces, s, Γ, hs, h => by
      obtain ⟨t, ht⟩ := Piece.exists_renderAll hs h
      rw [Node.render, ht]
      exact ⟨t ++ "\n", rfl⟩
  | .inline pieces, s, Γ, hs, h => Piece.exists_renderAll hs h
  | .branch c yes no, s, Γ, hs, h => by
      rw [Node.checks, Bool.and_eq_true, Bool.and_eq_true] at h
      obtain ⟨b, hb⟩ := Condition.exists_eval hs h.1.1
      rw [Node.render, hb]
      cases b with
      | true => exact Node.exists_renderAll yes hs h.1.2
      | false => exact Node.exists_renderAll no hs h.2
  | .each v source body, s, Γ, hs, h => by
      rw [Node.checks, Bool.and_eq_true] at h
      obtain ⟨sh, hsh, hitems⟩ := (Option.any_eq_true _ _).1 h.1
      obtain ⟨x, hx, hhas⟩ := source.exists_eval hs hsh
      obtain ⟨items, hitems⟩ := hhas.exists_items hitems
      obtain ⟨ts, hts⟩ := exists_mapM_eq_ok fun item (_ : item ∈ items) =>
        Node.exists_renderAll body (hs.set v (.datum item)) h.2
      refine ⟨String.join ts, ?_⟩
      rw [Node.render, hx]
      show (x.items >>= fun items => _) = _
      rw [hitems, ok_bind, hts]
      rfl
  | .eachEntry k v source body, s, Γ, hs, h => by
      rw [Node.checks, Bool.and_eq_true, decide_eq_true_eq] at h
      obtain ⟨x, hx, hhas⟩ := source.exists_eval hs h.1
      obtain ⟨entries, hentries⟩ := hhas.exists_entries
      obtain ⟨ts, hts⟩ := exists_mapM_eq_ok fun e (_ : e ∈ entries) =>
        Node.exists_renderAll body ((hs.set k (.text e.1)).set v (.datum e.2)) h.2
      refine ⟨String.join ts, ?_⟩
      rw [Node.render, hx]
      show (x.entries >>= fun entries => _) = _
      rw [hentries, ok_bind, hts]
      rfl
  | .bind v value body, s, Γ, hs, h => by
      obtain ⟨sh, hsh, hbody⟩ := (Option.any_eq_true _ _).1 h
      obtain ⟨x, hx, hhas⟩ := value.exists_eval hs hsh
      rw [Node.render, hx]
      exact Node.exists_renderAll body (hs.set v hhas) hbody

theorem Node.exists_renderAll : (nodes : List Node) → {s : Scope} → {Γ : Context} →
    s.Conforms Γ → Node.checkAll Γ nodes = true → ∃ t, Node.renderAll s nodes = .ok t
  | [], s, Γ, hs, h => ⟨"", rfl⟩
  | n :: nodes, s, Γ, hs, h => by
      rw [Node.checkAll, Bool.and_eq_true] at h
      obtain ⟨t, ht⟩ := Node.exists_render n hs h.1
      obtain ⟨rest, hrest⟩ := Node.exists_renderAll nodes hs h.2
      refine ⟨t ++ rest, ?_⟩
      rw [Node.renderAll, ht, hrest]
      rfl

end

/-- A template that is checked has a text in every scope that conforms to the context. -/
theorem Template.exists_render {t : Template} (hs : s.Conforms Γ) (h : t.checks Γ = true) :
    ∃ text, t.render s = .ok text := Node.exists_renderAll t.body hs h

end ReactScaffold
