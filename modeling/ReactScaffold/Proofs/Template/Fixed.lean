import Mathlib
import ReactScaffold.Proofs.Outcome
import ReactScaffold.Template.Basic

/-!
# What a template makes of one name

An expression that does not mention a name stands for the same value whatever the name stands for.
A template may mention a name in some pieces only, which are called open. Whatever the name stands
for, the template then gives one fixed pattern, filled with the word that the open pieces show.
-/

namespace ReactScaffold

/-! ## Names that are not mentioned -/

/-- The scopes give the same values to all names but one. -/
def Scope.AgreeOff (v : Var) (s t : Scope) : Prop := ∀ w, w ≠ v → s w = t w

namespace Scope

variable {s : Scope} {v w : Var} {x y : Value}

theorem agreeOff_set : (s.set v x).AgreeOff v s := fun _ h => if_neg h

theorem set_comm (h : w ≠ v) : (s.set v x).set w y = (s.set w y).set v x := by
  funext u
  simp only [set]
  split_ifs with hw hv hv <;> first | rfl | exact absurd (hw.symm.trans hv) h

end Scope

mutual

/-- Whether an expression mentions the name. -/
def Expr.mentions (v : Var) : Expr → Bool
  | .var w => w = v
  | .str _ | .list _ => false
  | .member e _ => e.mentions v
  | .call callee args annotate =>
    callee.mentions v || Expr.anyMentions v args || annotate.any (· = v)
  | .join parts => Expr.anyMentions v parts
  | .title e => e.mentions v
  | .choose w yes no => w = v || yes.mentions v || no.mentions v

/-- Whether one of the expressions mentions the name. -/
def Expr.anyMentions (v : Var) : List Expr → Bool
  | [] => false
  | e :: rest => e.mentions v || Expr.anyMentions v rest

end

/-- Whether a condition mentions the name. -/
def Condition.mentions (v : Var) : Condition → Bool
  | .holds e => e.mentions v
  | .not c => c.mentions v
  | .both c d => c.mentions v || d.mentions v

/-- Whether a piece mentions the name. -/
def Piece.mentions (v : Var) : Piece → Bool
  | .text _ => false
  | .hole e => e.mentions v

section Congr

variable {v : Var} {s t : Scope}

theorem Scope.AgreeOff.get (hs : s.AgreeOff v t) {w : Var} (h : decide (w = v) = false) :
    s.get w = t.get w := by
  rw [Scope.get, Scope.get, hs w (of_decide_eq_false h)]

mutual

theorem Expr.eval_congr (hs : s.AgreeOff v t) : (e : Expr) → e.mentions v = false →
    e.eval s = e.eval t
  | .var w, h => congrArg Except.ok (hs.get h)
  | .str _, _ => rfl
  | .list _, _ => rfl
  | .member e m, h => by rw [Expr.eval, Expr.eval, Expr.eval_congr hs e h]
  | .call callee args annotate, h => by
    simp only [Expr.mentions, Bool.or_eq_false_iff] at h
    have hannotate : (annotate.toList.map fun w => ("annotate", s.get w)) =
        annotate.toList.map fun w => ("annotate", t.get w) := by
      cases annotate with
      | none => rfl
      | some w => simp [hs.get h.2]
    rw [Expr.eval, Expr.eval, Expr.eval_congr hs callee h.1.1, Expr.evalAll_congr hs args h.1.2,
      hannotate]
  | .join parts, h => by rw [Expr.eval, Expr.eval, Expr.evalAll_congr hs parts h]
  | .title e, h => by rw [Expr.eval, Expr.eval, Expr.eval_congr hs e h]
  | .choose w yes no, h => by
    simp only [Expr.mentions, Bool.or_eq_false_iff] at h
    rw [Expr.eval, Expr.eval, hs.get h.1.1, Expr.eval_congr hs yes h.1.2, Expr.eval_congr hs no h.2]

theorem Expr.evalAll_congr (hs : s.AgreeOff v t) : (es : List Expr) →
    Expr.anyMentions v es = false → Expr.evalAll s es = Expr.evalAll t es
  | [], _ => rfl
  | e :: es, h => by
    rw [Expr.anyMentions, Bool.or_eq_false_iff] at h
    rw [Expr.evalAll, Expr.evalAll, Expr.eval_congr hs e h.1, Expr.evalAll_congr hs es h.2]

end

theorem Condition.eval_congr (hs : s.AgreeOff v t) {c : Condition} (h : c.mentions v = false) :
    c.eval s = c.eval t := by
  induction c with
  | holds e => rw [Condition.eval, Condition.eval, Expr.eval_congr hs e h]
  | not c ih => rw [Condition.eval, Condition.eval, ih h]
  | both c d ihc ihd =>
    rw [Condition.mentions, Bool.or_eq_false_iff] at h
    rw [Condition.eval, Condition.eval, ihc h.1, ihd h.2]

theorem Piece.render_congr (hs : s.AgreeOff v t) {piece : Piece} (h : piece.mentions v = false) :
    piece.render s = piece.render t := by
  cases piece with
  | text => rfl
  | hole e => rw [Piece.render, Piece.render, Expr.eval_congr hs e h]

end Congr

/-! ## Patterns -/

theorem join_cons (t : String) (ts : List String) :
    String.join (t :: ts) = t ++ String.join ts := by
  rw [← List.singleton_append, String.join_append]
  simp [String.join]

/-- A text with places at which a word is put in. -/
abbrev Pattern := List (Option String)

namespace Pattern

/-- The pattern with the word at its places. -/
def fill (word : String) (pattern : Pattern) : String :=
  String.join (pattern.map fun piece => piece.getD word)

/-- The pattern without any places that is a text. -/
def ofText (t : String) : Pattern := [some t]

@[simp]
theorem fill_ofText (word t : String) : fill word (ofText t) = t := by
  simp [fill, ofText, String.join]

@[simp]
theorem fill_place (word : String) : fill word [none] = word := by
  simp [fill, String.join]

theorem fill_append (word : String) (first second : Pattern) :
    fill word (first ++ second) = fill word first ++ fill word second := by
  rw [fill, List.map_append, String.join_append]
  rfl

end Pattern

/-! ## Templates that are fixed up to a word -/

mutual

/-- Whether a node mentions the name in open pieces only. -/
def Node.isFixed (v : Var) (isOpen : Piece → Bool) : Node → Bool
  | .text _ => true
  | .line pieces | .inline pieces =>
    pieces.all fun piece => isOpen piece || !piece.mentions v
  | .branch c yes no =>
    !c.mentions v && Node.allFixed v isOpen yes && Node.allFixed v isOpen no
  | .each w source body => w ≠ v && !source.mentions v && Node.allFixed v isOpen body
  | .eachEntry k w source body =>
    k ≠ v && w ≠ v && !source.mentions v && Node.allFixed v isOpen body
  | .bind w value body => w ≠ v && !value.mentions v && Node.allFixed v isOpen body

/-- Whether all nodes mention the name in open pieces only. -/
def Node.allFixed (v : Var) (isOpen : Piece → Bool) : List Node → Bool
  | [] => true
  | n :: rest => n.isFixed v isOpen && Node.allFixed v isOpen rest

end

/-- The open pieces show the word when the name has the value. -/
def Shows (v : Var) (isOpen : Piece → Bool) (x : Value) (word : String) : Prop :=
  ∀ piece, isOpen piece = true → ∀ s : Scope, piece.render (s.set v x) = .ok word

/-- Whatever value the name has, the outcome is the same pattern, filled with the word that the
open pieces show. -/
def Woven (v : Var) (isOpen : Piece → Bool) (s : Scope)
    (render : Scope → Except TemplateFault String) : Prop :=
  ∃ r : Except TemplateFault Pattern, ∀ x word, Shows v isOpen x word →
    render (s.set v x) = r.map (Pattern.fill word)

section Weave

variable {v : Var} {isOpen : Piece → Bool} {s : Scope}

theorem woven_of_const {render : Scope → Except TemplateFault String}
    (h : ∀ x, render (s.set v x) = render s) : Woven v isOpen s render := by
  refine ⟨(render s).map Pattern.ofText, fun x word _ => ?_⟩
  rw [h]
  cases render s <;> simp [Except.map]

theorem Woven.append {f g : Scope → Except TemplateFault String} (hf : Woven v isOpen s f)
    (hg : Woven v isOpen s g) : Woven v isOpen s fun s => return (← f s) ++ (← g s) := by
  obtain ⟨r, hr⟩ := hf
  obtain ⟨r', hr'⟩ := hg
  refine ⟨do return (← r) ++ (← r'), fun x word hx => ?_⟩
  simp only [hr x word hx, hr' x word hx]
  cases r with
  | error e => rfl
  | ok first =>
    cases r' with
    | error e => rfl
    | ok second => exact congrArg Except.ok (Pattern.fill_append word first second).symm

theorem Woven.congr {f g : Scope → Except TemplateFault String}
    (h : ∀ x, f (s.set v x) = g (s.set v x)) (hg : Woven v isOpen s g) : Woven v isOpen s f := by
  obtain ⟨r, hr⟩ := hg
  exact ⟨r, fun x word hx => (h x).trans (hr x word hx)⟩

theorem joinM_cons {α : Type} (f : α → Except TemplateFault String) (a : α) (items : List α) :
    ((a :: items).mapM f >>= fun ts => pure (String.join ts)) =
      f a >>= fun t => (items.mapM f >>= fun ts => pure (String.join ts)) >>= fun rest =>
        pure (t ++ rest) := by
  rw [List.mapM_cons]
  cases f a with
  | error e => rfl
  | ok t =>
    cases items.mapM f with
    | error e => rfl
    | ok ts => exact congrArg Except.ok (join_cons t ts)

theorem woven_mapM {α : Type} {f : α → Scope → Except TemplateFault String} {items : List α}
    (h : ∀ a ∈ items, Woven v isOpen s (f a)) :
    Woven v isOpen s fun s => return String.join (← items.mapM fun a => f a s) := by
  induction items with
  | nil => exact woven_of_const fun _ => rfl
  | cons a items ih =>
    rw [List.forall_mem_cons] at h
    exact (h.1.append (ih h.2)).congr fun x => joinM_cons (fun a => f a (s.set v x)) a items

theorem woven_bind {α : Type} {e : Scope → Except TemplateFault α}
    {f : α → Scope → Except TemplateFault String} (he : ∀ x, e (s.set v x) = e s)
    (hf : ∀ a, Woven v isOpen s (f a)) : Woven v isOpen s fun s => e s >>= fun a => f a s := by
  cases hvalue : e s with
  | error fault =>
    refine woven_of_const fun x => ?_
    rw [he, hvalue]
    rfl
  | ok a =>
    refine (hf a).congr fun x => ?_
    rw [he, hvalue]
    rfl

theorem Woven.under {f : Scope → Except TemplateFault String} {w : Var} {y : Value} (hw : w ≠ v)
    (h : Woven v isOpen (s.set w y) f) : Woven v isOpen s fun s => f (s.set w y) := by
  obtain ⟨r, hr⟩ := h
  refine ⟨r, fun x word hx => ?_⟩
  exact (congrArg f (Scope.set_comm hw)).trans (hr x word hx)

theorem Piece.woven {piece : Piece} (h : (isOpen piece || !piece.mentions v) = true) :
    Woven v isOpen s fun s => piece.render s := by
  cases hopen : isOpen piece with
  | true =>
    refine ⟨.ok [none], fun x word hx => (hx piece hopen s).trans ?_⟩
    exact congrArg Except.ok (Pattern.fill_place word).symm
  | false =>
    rw [hopen, Bool.false_or, Bool.not_eq_true'] at h
    exact woven_of_const fun x => piece.render_congr Scope.agreeOff_set h

theorem Piece.woven_all {pieces : List Piece}
    (h : (pieces.all fun piece => isOpen piece || !piece.mentions v) = true) :
    Woven v isOpen s fun s => Piece.renderAll s pieces :=
  woven_mapM fun _ hpiece => Piece.woven (List.all_eq_true.1 h _ hpiece)

mutual

theorem Node.woven : (n : Node) → {s : Scope} → n.isFixed v isOpen = true →
    Woven v isOpen s fun s => n.render s
  | .text t, s, _ => woven_of_const fun _ => rfl
  | .line pieces, s, h => by
    have hend : Woven v isOpen s fun _ => pure "\n" := woven_of_const fun _ => rfl
    exact (Piece.woven_all h).append hend
  | .inline pieces, s, h => Piece.woven_all h
  | .branch c yes no, s, h => by
    simp only [Node.isFixed, Bool.and_eq_true, Bool.not_eq_true'] at h
    refine woven_bind (fun x => c.eval_congr Scope.agreeOff_set h.1.1) fun b => ?_
    cases b with
    | true => exact Node.woven_all yes h.1.2
    | false => exact Node.woven_all no h.2
  | .each w source body, s, h => by
    simp only [Node.isFixed, Bool.and_eq_true, Bool.not_eq_true', decide_eq_true_eq] at h
    refine woven_bind (fun x => source.eval_congr Scope.agreeOff_set h.1.2) fun value => ?_
    -- The items are found without the name, and the loop binds another name.
    refine woven_bind (fun _ => rfl) fun items => woven_mapM fun item _ => ?_
    exact (Node.woven_all body h.2).under h.1.1
  | .eachEntry k w source body, s, h => by
    simp only [Node.isFixed, Bool.and_eq_true, Bool.not_eq_true', decide_eq_true_eq] at h
    refine woven_bind (fun x => source.eval_congr Scope.agreeOff_set h.1.2) fun value => ?_
    refine woven_bind (fun _ => rfl) fun entries => woven_mapM fun entry _ => ?_
    exact ((Node.woven_all body h.2).under h.1.1.2).under h.1.1.1
  | .bind w value body, s, h => by
    simp only [Node.isFixed, Bool.and_eq_true, Bool.not_eq_true', decide_eq_true_eq] at h
    refine woven_bind (fun x => value.eval_congr Scope.agreeOff_set h.1.2) fun value => ?_
    exact (Node.woven_all body h.2).under h.1.1

theorem Node.woven_all : (nodes : List Node) → {s : Scope} → Node.allFixed v isOpen nodes = true →
    Woven v isOpen s fun s => Node.renderAll s nodes
  | [], s, _ => woven_of_const fun _ => rfl
  | n :: nodes, s, h => by
    rw [Node.allFixed, Bool.and_eq_true] at h
    exact (Node.woven n h.1).append (Node.woven_all nodes h.2)

end

/-- A template that mentions a name in open pieces only gives one pattern, filled with the word that
the open pieces show. -/
theorem Template.woven {t : Template} (h : Node.allFixed v isOpen t.body = true) (s : Scope) :
    Woven v isOpen s t.render := Node.woven_all t.body h

/-- A template that does not mention a name gives the same text whatever the name stands for. -/
theorem Template.render_set {t : Template} (h : Node.allFixed v (fun _ => false) t.body = true)
    (s : Scope) (x y : Value) : t.render (s.set v x) = t.render (s.set v y) := by
  obtain ⟨r, hr⟩ := t.woven h s
  have hshows (z : Value) : Shows v (fun _ => false) z "" :=
    fun _ hopen => absurd hopen Bool.false_ne_true
  exact (hr x "" (hshows x)).trans (hr y "" (hshows y)).symm

end Weave

end ReactScaffold
