import ReactScaffold.Proofs.Template.Cases
import ReactScaffold.Proofs.Text.Reader

/-!
# Reading templates

A template is read before a project is known: `Node.scan` gives what a reader will find in the text
of a node, by cases, and the states in which it may be left. Each line is read in every case that
its holes may come to. `Template.read_of_scan` says that in the text for a project the reader finds
just what the template was found to hold in the cases that apply.
-/

namespace ReactScaffold

open Text

variable {σ ρ : Type}

/-- What there is in all cases, if it is the same in all of them. -/
def Cases.merge {α : Type} [DecidableEq α] : Cases α → Cases α
  | [] => []
  | (facts, x) :: rest => if rest.all fun o => o.2 = x then .pure x else (facts, x) :: rest

section Scan

variable [DecidableEq σ] [DecidableEq ρ]

/-- What is found in a piece of a line, and the states at its end. A title is read in calm states
alone. -/
def Piece.scan (R : Reader σ ρ) (K : Survey) (states : List σ) :
    Piece → Option (Cases (List ρ × List σ))
  | .text t => (R.settle states (charsOf t)).map .pure
  | .hole (.title (.var v)) =>
    if K.titled v && states.all R.calm.contains then some (.pure ([], R.calm)) else none
  | .hole e => do
    let c ← (← e.cases K).traverse fun x => do
      R.settle states (charsOf (← (do (← x).display : Except _ _).toOption))
    return c.merge

/-- What is found in the pieces of a line and the characters behind them. -/
def Piece.scanAll (R : Reader σ ρ) (K : Survey) (behind : List Char) (states : List σ) :
    List Piece → Option (Cases (List ρ × List σ))
  | [] => (R.settle states behind).map .pure
  | piece :: rest => do
    let first ← piece.scan R K states
    let both ← first.traverse fun o => do
      return (← Piece.scanAll R K behind o.2 rest).map fun more => (o.1 ++ more.1, more.2)
    return both.bind id

/-- What is found in a line, each finding with its cases, and the states in which any of the cases
leaves the reader. -/
def gather {α : Type} (found : α → Cases ρ) (c : Cases (α × List σ)) : Cases ρ × List σ :=
  (c.bind fun o => found o.1, (c.flatMap fun o => o.2.2).dedup)

/-- What is found, if the reader comes back to the states. -/
def steady (states : List σ) (scanned : Option (Cases ρ × List σ)) : Option (Cases ρ) := do
  let (found, last) ← scanned
  if last.all states.contains then some found else none

mutual

/-- What is found in the text of a node, by cases, and the states at its end. -/
def Node.scan (R : Reader σ ρ) (K : Survey) (states : List σ) : Node → Option (Cases ρ × List σ)
  | .text t => (R.settle states (charsOf t ++ ['\n'])).map fun o => (.of [] o.1, o.2)
  | .line pieces => (Piece.scanAll R K ['\n'] states pieces).map (gather (.of []))
  | .inline pieces => (Piece.scanAll R K [] states pieces).map (gather (.of []))
  | .branch cnd yes no => do
    let c ← (← cnd.cases K).traverse fun b => do
      if ← b.toOption then Node.scanAll R K [] states yes else Node.scanAll R K [] states no
    return gather id c
  | .each v source body => do
    let found ← (← source.parts K).mapM fun part => part.traverse fun items => items.mapM fun x =>
      steady states (Node.scanAll R (K.set v (.pure (.data x))) [] states body)
    return (found.flatMap fun c => c.bind List.flatten, states)
  | .eachEntry k v source body => do
    let found ← (← source.cases K).traverse fun x => do
      (← (do (← x).entries : Except _ _).toOption).mapM fun e => steady states
        (Node.scanAll R ((K.set k (.pure (.data (.str e.1)))).set v (.pure (.data e.2))) [] states body)
    return (found.bind List.flatten, states)
  | .bind v value body => do
    let c ← (← value.cases K).traverse Except.toOption
    Node.scanAll R (K.set v c) [] states body

/-- What is found in the text of some nodes after what was found before them. -/
def Node.scanAll (R : Reader σ ρ) (K : Survey) (before : Cases ρ) (states : List σ) :
    List Node → Option (Cases ρ × List σ)
  | [] => some (before, states)
  | n :: rest =>
    match n.scan R K states with
    | none => none
    | some ([], last) =>
      if last = [R.start] then Node.scanAll R K before [R.start] rest
      else Node.scanAll R K before last rest
    | some (o :: found, last) => Node.scanAll R K (before ++ o :: found) last rest

end

/-- What is found in the text of a template, if the reader is left where it starts. -/
def Template.scan (R : Reader σ ρ) (K : Survey) (t : Template) : Option (Cases ρ) :=
  steady [R.start] (Node.scanAll R K [] [R.start] t.body)

end Scan

/-! ## What is found when a template is rendered -/

namespace Reader

variable {R : Reader σ ρ} {states mid last : List σ} {cs ds : List Char} {found more : List ρ}

/-- What is found after nothing is all that is found. -/
theorem reads_of_exists (h : ∃ rest, found = [] ++ rest ∧ R.Reads states cs rest last) :
    R.Reads states cs found last := by
  obtain ⟨rest, rfl, hread⟩ := h
  exact hread

theorem reads_of_settle [DecidableEq σ] [DecidableEq ρ]
    (h : R.settle states cs = some (found, last)) : R.Reads states cs found last :=
  fun _ hst => run_of_settle h hst

/-- The reader finds this in the texts of the items, one after the other, and comes back to the
states. -/
def ReadsEach {α ε : Type} (R : Reader σ ρ) (states : List σ) (text : α → Except ε String)
    (xs : List α) (found : List ρ) : Prop :=
  ∀ ts, xs.mapM text = .ok ts → R.Reads states (String.join ts).toList found states

section Each

variable {α ε : Type} {text : α → Except ε String} {xs ys : List α}

theorem readsEach_nil : R.ReadsEach states text [] [] := by
  rintro ts ⟨⟩
  exact R.reads_nil states

theorem readsEach_singleton {x : α}
    (h : ∀ t, text x = .ok t → R.Reads states t.toList found states) :
    R.ReadsEach states text [x] found := by
  intro ts hts
  rw [List.mapM_cons] at hts
  obtain ⟨t, ht, hts⟩ := bind_eq_ok hts
  obtain rfl := Except.ok.inj hts
  show R.Reads states (String.join [t]).toList found states
  rw [String.toList_join, List.flatMap_singleton]
  exact h t ht

theorem ReadsEach.append (hxs : R.ReadsEach states text xs found)
    (hys : R.ReadsEach states text ys more) :
    R.ReadsEach states text (xs ++ ys) (found ++ more) := by
  intro ts hts
  rw [List.mapM_append] at hts
  obtain ⟨first, hfirst, hts⟩ := bind_eq_ok hts
  obtain ⟨others, hothers, hts⟩ := bind_eq_ok hts
  obtain rfl := Except.ok.inj hts
  rw [String.join_append, String.toList_append]
  exact (hxs first hfirst).append (hys others hothers)

theorem readsEach_flatMap {β γ : Type} {bs : List β} {cs : List γ} {f : β → List α}
    {g : γ → List ρ}
    (h : List.Forall₂ (fun b c => R.ReadsEach states text (f b) (g c)) bs cs) :
    R.ReadsEach states text (bs.flatMap f) (cs.flatMap g) := by
  induction h with
  | nil => exact readsEach_nil
  | cons hfirst _ ih => exact hfirst.append ih

end Each

end Reader

theorem Cases.given_merge {α : Type} [DecidableEq α] {p : Project} {c : Cases α} {x : α}
    (h : c.given p = [x]) : c.merge.given p = [x] := by
  cases c with
  | nil => cases h
  | cons o rest =>
      obtain ⟨facts, y⟩ := o
      rw [merge]
      split_ifs with hall
      · have hx : x ∈ given p ((facts, y) :: rest) := by
          rw [h]
          exact List.mem_singleton_self x
        obtain ⟨o, ho, rfl⟩ := List.mem_map.1 hx
        rw [given_pure]
        rcases List.mem_cons.1 (List.mem_of_mem_filter ho) with rfl | hrest
        · rfl
        · rw [of_decide_eq_true (List.all_eq_true.1 hall o hrest)]
      · exact h

/-- What a reader needs to know of a scope: what the names stand for, and that nothing is found in
titles. -/
structure Scope.Suits (s : Scope) (R : Reader σ ρ) (K : Survey) (p : Project) : Prop
    extends s.Meets K p where
  titles (v : Var) (h : K.titled v = true) (x : Value) (t : String)
    (hx : (s.get v).title = .ok x) (ht : x.display = .ok t) :
    R.Reads R.calm t.toList [] R.calm

theorem Scope.Suits.set {s : Scope} {R : Reader σ ρ} {K : Survey} {p : Project}
    (hs : s.Suits R K p) (v : Var) {c : Cases Value} {x : Value} (hc : c.given p = [x]) :
    (s.set v x).Suits R (K.set v c) p where
  toMeets := hs.toMeets.set v hc
  titles w h y t hy ht := by
    obtain ⟨hne, hw⟩ := Bool.and_eq_true_iff.1 h
    rw [Scope.get_set, if_neg (by simpa using hne)] at hy
    exact hs.titles w hw y t hy ht

section Scan

variable [DecidableEq σ] {s : Scope} {R : Reader σ ρ} {K : Survey} {p : Project}
  {states : List σ}

/-- What is found in the case that applies is found, and the reader comes to one of the states. -/
theorem reads_of_gather {α : Type} {found : α → Cases ρ} {c : Cases (α × List σ)}
    {cs : List Char} {o : α × List σ} (hc : c.given p = [o])
    (ho : R.Reads states cs ((found o.1).given p) o.2) :
    R.Reads states cs ((gather found c).1.given p) (gather found c).2 := by
  have hgiven : o ∈ c.given p := by
    rw [hc]
    exact List.mem_singleton_self o
  obtain ⟨case, hcase, rfl⟩ := List.mem_map.1 hgiven
  rw [gather, Cases.given_bind, hc, List.flatMap_singleton]
  exact ho.mono fun st hst => List.mem_dedup.2
    (List.mem_flatMap.2 ⟨case, List.mem_of_mem_filter hcase, hst⟩)

theorem reads_of_steady {scanned : Option (Cases ρ × List σ)} {found : Cases ρ} {cs : List Char}
    (h : steady states scanned = some found)
    (hscan : ∀ c last, scanned = some (c, last) → R.Reads states cs (c.given p) last) :
    R.Reads states cs (found.given p) states := by
  obtain ⟨⟨c, last⟩, hc, h⟩ := Option.bind_eq_some_iff.1 h
  obtain ⟨hlast, hfound⟩ := Option.ite_none_right_eq_some.1 h
  obtain rfl := Option.some.inj hfound
  exact (hscan c last hc).mono fun st hst => by simpa using List.all_eq_true.1 hlast st hst

/-- The reader finds in the texts of items what was found in the bodies that were scanned for
them. -/
theorem readsEach_of_scan {α : Type} {text : α → Except TemplateFault String}
    {scan : α → Option (Cases ρ × List σ)} {xs : List α} {founds : List (Cases ρ)}
    (h : xs.mapM (fun x => steady states (scan x)) = some founds)
    (hscan : ∀ x t c last, scan x = some (c, last) → text x = .ok t →
      R.Reads states t.toList (c.given p) last) :
    R.ReadsEach states text xs (Cases.given p founds.flatten) := by
  rw [← List.flatMap_id, Cases.given_flatMap, ← List.flatMap_singleton' xs]
  refine Reader.readsEach_flatMap ((forall₂_of_mapM_eq_some h).imp fun x c hc => ?_)
  exact Reader.readsEach_singleton fun t ht =>
    reads_of_steady hc fun d last hd => hscan x t d last hd ht

variable [DecidableEq ρ]

theorem Piece.reads_of_scan (hs : s.Suits R K p) {piece : Piece} {c : Cases (List ρ × List σ)}
    {t : String} (h : piece.scan R K states = some c) (ht : piece.render s = .ok t) :
    ∃ o, c.given p = [o] ∧ R.Reads states t.toList o.1 o.2 := by
  unfold Piece.scan at h
  split at h
  · obtain ⟨o, ho, rfl⟩ := Option.map_eq_some_iff.1 h
    obtain rfl := Except.ok.inj ht
    rw [charsOf_eq] at ho
    exact ⟨o, rfl, Reader.reads_of_settle ho⟩
  · rename_i v
    obtain ⟨hcalm, hnone⟩ := Option.ite_none_right_eq_some.1 h
    obtain rfl := Option.some.inj hnone
    obtain ⟨htitled, hstates⟩ := Bool.and_eq_true_iff.1 hcalm
    obtain ⟨x, hx, hdisplay⟩ := bind_eq_ok ht
    refine ⟨_, rfl, fun st hst => hs.titles v htitled x t hx hdisplay st ?_⟩
    simpa using List.all_eq_true.1 hstates st hst
  · rename_i e _
    obtain ⟨d, hd, h⟩ := Option.bind_eq_some_iff.1 h
    obtain ⟨c, hc, h⟩ := Option.bind_eq_some_iff.1 h
    obtain rfl := Option.some.inj h
    obtain ⟨o, ho, hread⟩ := Cases.exists_of_traverse hc (e.given_cases hs.toMeets hd)
    obtain ⟨text, htext, hread⟩ := Option.bind_eq_some_iff.1 hread
    obtain rfl := Except.ok.inj ((toOption_eq_some htext).symm.trans ht)
    rw [charsOf_eq] at hread
    exact ⟨o, Cases.given_merge ho, Reader.reads_of_settle hread⟩

theorem Piece.reads_of_scanAll (hs : s.Suits R K p) {behind : List Char} {pieces : List Piece}
    {c : Cases (List ρ × List σ)} {ts : List String}
    (h : Piece.scanAll R K behind states pieces = some c)
    (hts : pieces.mapM (Piece.render s) = .ok ts) :
    ∃ o, c.given p = [o] ∧ R.Reads states ((String.join ts).toList ++ behind) o.1 o.2 := by
  induction pieces generalizing states c ts with
  | nil =>
      obtain ⟨o, ho, rfl⟩ := Option.map_eq_some_iff.1 h
      obtain rfl := Except.ok.inj hts
      exact ⟨o, rfl, Reader.reads_of_settle ho⟩
  | cons piece pieces ih =>
      rw [List.mapM_cons] at hts
      obtain ⟨t, ht, hts⟩ := bind_eq_ok hts
      obtain ⟨rest, hrest, hts⟩ := bind_eq_ok hts
      obtain rfl := Except.ok.inj hts
      obtain ⟨first, hfirst, h⟩ := Option.bind_eq_some_iff.1 h
      obtain ⟨both, hboth, h⟩ := Option.bind_eq_some_iff.1 h
      obtain rfl := Option.some.inj h
      obtain ⟨o, ho, hread⟩ := Piece.reads_of_scan hs hfirst ht
      obtain ⟨d, hd, hmore⟩ := Cases.exists_of_traverse hboth ho
      obtain ⟨more, hscan, hmore⟩ := Option.bind_eq_some_iff.1 hmore
      obtain rfl := Option.some.inj hmore
      obtain ⟨o', ho', hread'⟩ := ih hscan hrest
      refine ⟨(o.1 ++ o'.1, o'.2), ?_, ?_⟩
      · rw [Cases.given_bind, hd, List.flatMap_singleton, id, Cases.given_map, ho']
        rfl
      · rw [String.toList_join, List.flatMap_cons, ← String.toList_join, List.append_assoc]
        exact hread.append hread'

theorem Piece.reads_of_gather (hs : s.Suits R K p) {behind : List Char} {pieces : List Piece}
    {o : Cases ρ × List σ} {t : String}
    (h : (Piece.scanAll R K behind states pieces).map (gather (.of [])) = some o)
    (ht : Piece.renderAll s pieces = .ok t) :
    R.Reads states (t.toList ++ behind) (o.1.given p) o.2 := by
  obtain ⟨c, hc, rfl⟩ := Option.map_eq_some_iff.1 h
  obtain ⟨ts, hts, ht⟩ := bind_eq_ok ht
  obtain rfl := Except.ok.inj ht
  obtain ⟨found, hfound, hread⟩ := Piece.reads_of_scanAll hs hc hts
  exact ReactScaffold.reads_of_gather hfound (by rwa [Cases.given_of_nil])

mutual

/-- The reader finds in the text of a node what was found in the node. -/
theorem Node.reads_of_scan : (n : Node) → {s : Scope} → {K : Survey} → {states last : List σ} →
    {c : Cases ρ} → {t : String} → s.Suits R K p → n.scan R K states = some (c, last) →
      n.render s = .ok t → R.Reads states t.toList (c.given p) last
  | .text cs, s, K, states, last, c, t, hs, h, ht => by
      obtain ⟨o, ho, ho'⟩ := Option.map_eq_some_iff.1 h
      obtain ⟨rfl, rfl⟩ := Prod.mk.inj ho'
      obtain rfl := Except.ok.inj ht
      rw [charsOf_eq] at ho
      rw [Cases.given_of_nil, String.toList_append]
      exact Reader.reads_of_settle ho
  | .line pieces, s, K, states, last, c, t, hs, h, ht => by
      obtain ⟨line, hline, ht⟩ := bind_eq_ok ht
      obtain rfl := Except.ok.inj ht
      rw [String.toList_append]
      exact Piece.reads_of_gather hs h hline
  | .inline pieces, s, K, states, last, c, t, hs, h, ht => by
      have hread := Piece.reads_of_gather hs h ht
      rwa [List.append_nil] at hread
  | .branch cnd yes no, s, K, states, last, c, t, hs, h, ht => by
      obtain ⟨d, hd, h⟩ := Option.bind_eq_some_iff.1 h
      obtain ⟨e, he, h⟩ := Option.bind_eq_some_iff.1 h
      obtain ⟨rfl, rfl⟩ := Prod.mk.inj (Option.some.inj h)
      obtain ⟨o, ho, hscan⟩ :=
        Cases.exists_of_traverse he (Condition.given_cases hs.toMeets hd)
      obtain ⟨b, hb, hscan⟩ := Option.bind_eq_some_iff.1 hscan
      rw [Node.render, toOption_eq_some hb, ok_bind] at ht
      refine ReactScaffold.reads_of_gather ho ?_
      cases b with
      | true => exact Reader.reads_of_exists (Node.reads_of_scanAll yes hs hscan ht)
      | false => exact Reader.reads_of_exists (Node.reads_of_scanAll no hs hscan ht)
  | .each v source body, s, K, states, last, c, t, hs, h, ht => by
      obtain ⟨parts, hparts, h⟩ := Option.bind_eq_some_iff.1 h
      obtain ⟨found, hfound, h⟩ := Option.bind_eq_some_iff.1 h
      obtain ⟨rfl, rfl⟩ := Prod.mk.inj (Option.some.inj h)
      obtain ⟨x, hx, hitems⟩ := source.items_of_parts hs.toMeets hparts
      rw [Node.render, hx, ok_bind, hitems, ok_bind] at ht
      obtain ⟨ts, hts, ht⟩ := bind_eq_ok ht
      obtain rfl := Except.ok.inj ht
      rw [Cases.given_flatMap]
      refine Reader.readsEach_flatMap ((forall₂_of_mapM_eq_some hfound).imp ?_) ts hts
      intro part cases hpart
      rw [Cases.given_bind, ← List.flatMap_id]
      refine Reader.readsEach_flatMap ((Cases.forall₂_of_traverse hpart).imp ?_)
      intro items founds hitems
      exact readsEach_of_scan hitems fun item t c last hscan ht => Reader.reads_of_exists
        (Node.reads_of_scanAll body (hs.set v (Cases.given_pure _)) hscan ht)
  | .eachEntry k v source body, s, K, states, last, c, t, hs, h, ht => by
      obtain ⟨d, hd, h⟩ := Option.bind_eq_some_iff.1 h
      obtain ⟨found, hfound, h⟩ := Option.bind_eq_some_iff.1 h
      obtain ⟨rfl, rfl⟩ := Prod.mk.inj (Option.some.inj h)
      obtain ⟨founds, hfounds, hscan⟩ :=
        Cases.exists_of_traverse hfound (source.given_cases hs.toMeets hd)
      obtain ⟨entries, hentries, hscan⟩ := Option.bind_eq_some_iff.1 hscan
      obtain ⟨x, hx, hentries⟩ := bind_eq_ok (toOption_eq_some hentries)
      rw [Node.render, hx, ok_bind, hentries, ok_bind] at ht
      obtain ⟨ts, hts, ht⟩ := bind_eq_ok ht
      obtain rfl := Except.ok.inj ht
      rw [Cases.given_bind, hfounds, List.flatMap_singleton]
      exact readsEach_of_scan hscan (fun entry t c last hscan ht => Reader.reads_of_exists
        (Node.reads_of_scanAll body ((hs.set k (Cases.given_pure _)).set v (Cases.given_pure _))
          hscan ht)) ts hts
  | .bind v value body, s, K, states, last, c, t, hs, h, ht => by
      obtain ⟨d, hd, h⟩ := Option.bind_eq_some_iff.1 h
      obtain ⟨e, he, h⟩ := Option.bind_eq_some_iff.1 h
      obtain ⟨x, hx, heval⟩ := Cases.exists_of_traverse he (value.given_cases hs.toMeets hd)
      rw [Node.render, toOption_eq_some heval, ok_bind] at ht
      exact Reader.reads_of_exists (Node.reads_of_scanAll body (hs.set v hx) h ht)

theorem Node.reads_of_scanAll : (nodes : List Node) → {s : Scope} → {K : Survey} →
    {before : Cases ρ} → {states last : List σ} → {c : Cases ρ} → {t : String} →
      s.Suits R K p → Node.scanAll R K before states nodes = some (c, last) →
        Node.renderAll s nodes = .ok t →
          ∃ found, c.given p = before.given p ++ found ∧ R.Reads states t.toList found last
  | [], s, K, before, states, last, c, t, hs, h, ht => by
      obtain ⟨rfl, rfl⟩ := Prod.mk.inj (Option.some.inj h)
      obtain rfl := Except.ok.inj ht
      exact ⟨[], (List.append_nil _).symm, R.reads_nil states⟩
  | n :: nodes, s, K, before, states, last, c, t, hs, h, ht => by
      obtain ⟨first, hfirst, ht⟩ := bind_eq_ok ht
      obtain ⟨rest, hrest, ht⟩ := bind_eq_ok ht
      obtain rfl := Except.ok.inj ht
      rw [Node.scanAll] at h
      split at h
      · cases h
      · rename_i mid hscan
        have hnil := Node.reads_of_scan n hs hscan hfirst
        have hscan' : Node.scanAll R K before mid nodes = some (c, last) := by
          split_ifs at h with hstart
          · rwa [hstart]
          · exact h
        obtain ⟨found, hfound, hread⟩ := Node.reads_of_scanAll nodes hs hscan' hrest
        rw [String.toList_append]
        exact ⟨found, hfound, hnil.append hread⟩
      · rename_i o more mid hscan
        have hmore := Node.reads_of_scan n hs hscan hfirst
        obtain ⟨found, hfound, hread⟩ := Node.reads_of_scanAll nodes hs h hrest
        refine ⟨Cases.given p (o :: more) ++ found, ?_, ?_⟩
        · rw [hfound, Cases.given_append, List.append_assoc]
        · rw [String.toList_append]
          exact hmore.append hread

end

/-- In the text of a template a reader finds what was found in the template, in the cases that
apply, and is left where it starts. -/
theorem Template.run_of_scan {template : Template} {c : Cases ρ} {t : String}
    (hs : s.Suits R K p) (h : template.scan R K = some c) (ht : template.render s = .ok t) :
    R.run R.start t.toList = (c.given p, R.start) := by
  have hread := reads_of_steady h fun d last hd =>
    Reader.reads_of_exists (Node.reads_of_scanAll _ hs hd ht)
  obtain ⟨next, hnext, hrun⟩ := hread R.start (List.mem_singleton_self _)
  rw [hrun, List.mem_singleton.1 hnext]

theorem Template.read_of_scan {template : Template} {c : Cases ρ} {t : String}
    (hs : s.Suits R K p) (h : template.scan R K = some c) (ht : template.render s = .ok t) :
    R.read t.toList = c.given p := congrArg Prod.fst (Template.run_of_scan hs h ht)

end Scan

end ReactScaffold
