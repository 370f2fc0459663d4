import ReactScaffold.CommandLine.Parse
import ReactScaffold.Proofs.Outcome
import ReactScaffold.Proofs.OrderedMap
import Mathlib

/-!
# What reading a command line keeps

Every option that is read from a command line is one of those that there are. So what these options
and the operand keep of an invocation is kept by reading. In this way the answers that options
choose are choices of theirs.
-/

namespace ReactScaffold

open Text

/-! ## The options that are read -/

theorem Flag.mem_all_of_ofName? {name : String} {f : Flag} (h : Flag.ofName? name = some f) :
    f ∈ Flag.all := List.mem_of_find?_eq_some h

/-- The option of the token, if it is one, is one of those that there are. -/
def Token.Known : Token → Prop
  | .option f _ => f ∈ Flag.all
  | _ => True

theorem mem_all_of_mem_candidates {cs : List Char} {f : Flag} {attached : Option (List Char)}
    (h : (f, attached) ∈ candidates cs) : f ∈ Flag.all := by
  unfold candidates at h
  split at h
  · obtain ⟨g, hg, heq⟩ := List.mem_map.1 h
    rw [← (Prod.mk.inj heq).1]
    exact List.mem_of_mem_filter hg
  · obtain ⟨g, hg, heq⟩ := List.mem_map.1 h
    rw [← (Prod.mk.inj heq).1]
    exact List.mem_of_mem_filter hg
  · cases h

theorem Token.known_of_dashedToken {argument : String} {token : Token}
    (h : dashedToken argument = .ok token) : token.Known := by
  unfold dashedToken at h
  dsimp only at h
  split at h
  · rename_i hname
    obtain rfl := Except.ok.inj h
    exact Flag.mem_all_of_ofName? hname
  · split at h
    · obtain rfl := Except.ok.inj h
      unfold unmatchedToken
      split_ifs
      · trivial
      · trivial
    · rename_i f attached hcandidates
      obtain rfl := Except.ok.inj h
      exact mem_all_of_mem_candidates (by rw [hcandidates]; exact List.mem_singleton_self _)
    · cases h

theorem Token.known_of_ofArgument {argument : String} {token : Token}
    (h : Token.ofArgument argument = .ok token) : token.Known := by
  unfold Token.ofArgument at h
  split_ifs at h with hdash hsingle
  · obtain rfl := Except.ok.inj h
    trivial
  · split at h
    · rename_i f hname
      obtain rfl := Except.ok.inj h
      exact Flag.mem_all_of_ofName? hname
    · obtain rfl := Except.ok.inj h
      trivial
  · split at h
    · rename_i f hname
      obtain rfl := Except.ok.inj h
      exact Flag.mem_all_of_ofName? hname
    · exact known_of_dashedToken h

/-- The options of a command line are those that there are. -/
theorem Token.known_of_tokens {arguments : List String} {ts : List Token}
    (h : tokens arguments = .ok ts) : ∀ token ∈ ts, token.Known := by
  induction arguments generalizing ts with
  | nil =>
      obtain rfl := Except.ok.inj h
      exact List.forall_mem_nil _
  | cons argument rest ih =>
      unfold tokens at h
      split_ifs at h with hdashes
      · obtain rfl := Except.ok.inj h
        intro token htoken
        rcases List.mem_cons.1 htoken with rfl | hrest
        · trivial
        · obtain ⟨text, -, rfl⟩ := List.mem_map.1 hrest
          trivial
      · obtain ⟨token, htoken, h⟩ := bind_eq_ok h
        obtain ⟨more, hmore, h⟩ := bind_eq_ok h
        obtain rfl := Except.ok.inj h
        exact List.forall_mem_cons.2 ⟨known_of_ofArgument htoken, ih hmore⟩

/-- The options of the cluster are those that there are. -/
def Cluster.Known (c : Cluster) : Prop :=
  (∀ use ∈ c.complete, use.1 ∈ Flag.all) ∧ ∀ f, c.last = some f → f ∈ Flag.all

theorem Cluster.known_of_cluster {f : Flag} {attached : List Char} {c : Cluster}
    (hf : f ∈ Flag.all) (h : cluster f attached = .ok c) : c.Known := by
  induction attached generalizing f c with
  | nil =>
      unfold cluster at h
      split_ifs at h
      obtain rfl := Except.ok.inj h
      exact ⟨List.forall_mem_singleton.2 hf, nofun⟩
  | cons letter rest ih =>
      unfold cluster at h
      split_ifs at h
      · obtain rfl := Except.ok.inj h
        exact ⟨List.forall_mem_singleton.2 hf, nofun⟩
      · dsimp only at h
        split at h
        · cases h
        · rename_i next hnext
          obtain rfl := Except.ok.inj h
          refine ⟨List.forall_mem_singleton.2 hf, fun g hg => ?_⟩
          rw [← Option.some.inj hg]
          exact Flag.mem_all_of_ofName? hnext
        · rename_i next hnext _
          obtain ⟨d, hd, rfl⟩ := map_eq_ok h
          have hknown := ih (Flag.mem_all_of_ofName? hnext) hd
          exact ⟨List.forall_mem_cons.2 ⟨hf, hknown.1⟩, hknown.2⟩

theorem Cluster.known_of_clusterOf {f : Flag} {attached : Option (List Char)} {c : Cluster}
    (hf : f ∈ Flag.all) (h : (clusterOf f attached).mapError Stop.misuse = .ok c) : c.Known := by
  cases attached with
  | none =>
      obtain rfl := Except.ok.inj h
      exact ⟨List.forall_mem_nil _, fun g hg => Option.some.inj hg ▸ hf⟩
  | some cs =>
      have h : (cluster f cs).mapError Stop.misuse = .ok c := h
      cases hcluster : cluster f cs with
      | error e =>
          rw [hcluster] at h
          cases h
      | ok d =>
          rw [hcluster] at h
          obtain rfl := Except.ok.inj h
          exact known_of_cluster hf hcluster

/-! ## What reading keeps -/

/-- The operand and each option keep the property of an invocation. -/
structure Invocation.Kept (P : Invocation → Prop) : Prop where
  start : P {}
  operand (i : Invocation) (text : String) (h : P i) :
    P { i with answers := OrderedMap.insert i.answers "project_name" (.str text) }
  option (f : Flag) (known : f ∈ Flag.all) (i j : Invocation) (value : Option String) (h : P i)
    (happly : f.apply i value = .ok j) : P j

section Kept

variable {P : Invocation → Prop}

theorem Invocation.Kept.applyAll (hP : Invocation.Kept P) {uses : List Use} {i j : Invocation}
    (huses : ∀ use ∈ uses, use.1 ∈ Flag.all) (hi : P i)
    (h : ReactScaffold.applyAll i uses = .ok j) : P j := by
  unfold ReactScaffold.applyAll at h
  induction uses generalizing i with
  | nil => exact Except.ok.inj h ▸ hi
  | cons use uses ih =>
      obtain ⟨huse, hrest⟩ := List.forall_mem_cons.1 huses
      rw [List.foldlM_cons] at h
      obtain ⟨k, hk, h⟩ := bind_eq_ok h
      exact ih hrest (hP.option use.1 huse i k use.2 hi hk) h

theorem Invocation.Kept.apply (hP : Invocation.Kept P) {r r' : Reading} {uses : List Use}
    (huses : ∀ use ∈ uses, use.1 ∈ Flag.all) (hr : P r.invocation) (h : r.apply uses = .ok r') :
    P r'.invocation := by
  obtain ⟨i, hi, h⟩ := bind_eq_ok h
  obtain rfl := Except.ok.inj h
  exact hP.applyAll huses hr hi

/-- Reading keeps what the operand and each option keep. -/
theorem Invocation.Kept.read (hP : Invocation.Kept P) {r r' : Reading} {ts : List Token}
    (hts : ∀ token ∈ ts, token.Known) (hr : P r.invocation) (h : r.read ts = .ok r') :
    P r'.invocation := by
  -- reading may take two tokens at once, so the induction is on how many there are
  induction hn : ts.length using Nat.strong_induction_on generalizing r ts with
  | _ n ih =>
    subst hn
    have further {q : Reading} {rest : List Token} (hrest : q.read rest = .ok r')
        (hlt : rest.length < ts.length) (hsub : rest ⊆ ts) (hq : P q.invocation) :
        P r'.invocation :=
      ih _ hlt (fun token htoken => hts token (hsub htoken)) hq hrest rfl
    have hskip {token : Token} {rest : List Token} : rest ⊆ token :: rest :=
      List.subset_cons_self _ _
    have hskip₂ {token other : Token} {rest : List Token} : rest ⊆ token :: other :: rest :=
      fun x hx => List.mem_cons_of_mem _ (List.mem_cons_of_mem _ hx)
    unfold Reading.read at h
    split at h
    · exact Except.ok.inj h ▸ hr
    · exact further h (by simp) hskip hr
    · split_ifs at h with hread
      · exact further h (by simp) hskip hr
      · split at h
        · exact further h (by simp) hskip₂ (hP.operand _ _ hr)
        · exact further h (by simp) hskip (hP.operand _ _ hr)
    · split_ifs at h with hread
      · exact further h (by simp) hskip hr
      · split at h
        · exact further h (by simp) hskip₂ (hP.operand _ _ hr)
        · exact further h (by simp) hskip hr
    · rename_i f attached rest
      obtain ⟨c, hc, h⟩ := bind_eq_ok h
      obtain ⟨hcomplete, hlast⟩ :=
        Cluster.known_of_clusterOf (hts (.option f attached) List.mem_cons_self) hc
      split at h
      · obtain ⟨next, hnext, hrest⟩ := bind_eq_ok h
        exact further hrest (by simp) hskip (hP.apply hcomplete hr hnext)
      · rename_i last hsome
        have huses (value : Option String) : ∀ use ∈ c.complete ++ [(last, value)],
            use.1 ∈ Flag.all := by
          intro use huse
          rcases List.mem_append.1 huse with hmem | hmem
          · exact hcomplete use hmem
          · rw [List.mem_singleton.1 hmem]
            exact hlast last hsome
        split_ifs at h with hvalue
        · split at h
          · obtain ⟨next, hnext, hrest⟩ := bind_eq_ok h
            exact further hrest (by simp) hskip₂ (hP.apply (huses _) hr hnext)
          · cases h
        · obtain ⟨next, hnext, hrest⟩ := bind_eq_ok h
          exact further hrest (by simp) hskip (hP.apply (huses _) hr hnext)

/-- The invocation of a command line has what the operand and each option keep. -/
theorem Invocation.Kept.parse (hP : Invocation.Kept P) {arguments : List String} {i : Invocation}
    (h : Invocation.parse arguments = .ok i) : P i := by
  obtain ⟨ts, hts, h⟩ := bind_eq_ok h
  obtain ⟨r, hread, h⟩ := bind_eq_ok h
  split_ifs at h with hleft
  obtain rfl := Except.ok.inj h
  refine hP.read ?_ hP.start hread
  cases htokens : tokens arguments with
  | error e =>
      rw [htokens] at hts
      cases hts
  | ok found =>
      rw [htokens] at hts
      obtain rfl := Except.ok.inj hts
      exact Token.known_of_tokens htokens

end Kept

/-! ## Answers that options choose -/

/-- The choices of the option that chooses the answer of the given name, if there is one. -/
def choicesOf? (answer : String) : Option (List String) :=
  Flag.all.findSome? fun f =>
    match f.effect with
    | .choose name choices => if name = answer then some choices else none
    | _ => none

/-- Whether the effect of an option goes with the choices of the answer that it gives. -/
def Effect.agrees : Effect → Bool
  | .choose answer choices => choicesOf? answer = some choices
  | .switch answer _ => choicesOf? answer = none
  | _ => true

theorem agrees_of_mem_all {f : Flag} (h : f ∈ Flag.all) : f.effect.agrees = true := by
  have hall : Flag.all.all (fun f => f.effect.agrees) = true := by decide +kernel
  exact List.all_eq_true.1 hall f h

/-- An answer that an option chooses is one of the choices, or nothing where two dashes stand. -/
def Invocation.Chosen (i : Invocation) : Prop :=
  ∀ answer choices, choicesOf? answer = some choices → ∀ v,
    OrderedMap.get? i.answers answer = some v → v = .arr [] ∨ ∃ word ∈ choices, v = .str word

theorem Invocation.Chosen.insert {i : Invocation} (hi : i.Chosen) {name : String}
    {given : Json String}
    (hgiven : ∀ choices, choicesOf? name = some choices →
      given = .arr [] ∨ ∃ word ∈ choices, given = .str word) :
    Invocation.Chosen { i with answers := OrderedMap.insert i.answers name given } := by
  intro answer choices hchoices v hv
  by_cases heq : name = answer
  · subst heq
    rw [OrderedMap.get?_insert_self] at hv
    obtain rfl := Option.some.inj hv
    exact hgiven choices hchoices
  · rw [OrderedMap.get?_insert_of_ne _ _ heq] at hv
    exact hi answer choices hchoices v hv

theorem readChoice_eq_ok {f : Flag} {choices : List String} {value : Option String}
    {v : Json String} (h : f.readChoice choices value = .ok v) :
    v = .arr [] ∨ ∃ word ∈ choices, v = .str word := by
  unfold Flag.readChoice at h
  split at h
  · exact .inl (Except.ok.inj h).symm
  · split_ifs at h with hmem
    exact .inr ⟨_, List.contains_iff_mem.1 hmem, (Except.ok.inj h).symm⟩

theorem Invocation.kept_chosen : Invocation.Kept Invocation.Chosen where
  start answer choices _ v hv := by cases hv
  operand i text h := by
    refine h.insert fun choices hchoices => ?_
    have hnone : choicesOf? "project_name" = none := by decide +kernel
    rw [hnone] at hchoices
    cases hchoices
  option f known i j value h happly := by
    have hagrees := agrees_of_mem_all known
    unfold Flag.apply at happly
    split at happly
    · cases happly
    · rename_i answer choices heffect
      rw [heffect] at hagrees
      obtain ⟨v, hv, happly⟩ := bind_eq_ok happly
      obtain rfl := Except.ok.inj happly
      refine h.insert fun found hfound => ?_
      obtain rfl := Option.some.inj ((of_decide_eq_true hagrees).symm.trans hfound)
      exact readChoice_eq_ok hv
    · rename_i answer on heffect
      rw [heffect] at hagrees
      obtain rfl := Except.ok.inj happly
      refine h.insert fun found hfound => ?_
      cases (of_decide_eq_true hagrees).symm.trans hfound
    all_goals
      obtain rfl := Except.ok.inj happly
      exact h

end ReactScaffold
