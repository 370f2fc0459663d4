import Mathlib

/-!
# Readers

A reader goes through a text character by character, and may find something at each of them. What
is found in two texts after one another is what is found in the first, and then in the second from
the state in which the first was left. `Reader.settle` reads a text from several states at once, as
long as the same is found from all of them.
-/

namespace ReactScaffold

namespace Text

/-! ## Characters by octets -/

/-- The characters of a text all of whose octets are ASCII. -/
def asciiChars? (s : String) : Option (List Char) :=
  let octets := s.toByteArray.data.toList
  if octets.all fun b => b.toNat < 128 then some (octets.map fun b => Char.ofNat b.toNat) else none

/-- The characters of a text. The octets of a literal are cheaper to evaluate than its characters,
so they are taken where they say the same. -/
def charsOf (s : String) : List Char := (asciiChars? s).getD s.toList

theorem octets_eq (s : String) :
    s.toByteArray.data.toList = s.toList.flatMap String.utf8EncodeChar := by
  conv_lhs => rw [← s.ofList_toList]
  rw [String.toByteArray_ofList, List.utf8Encode, List.data_toByteArray]

/-- A character whose octets are ASCII is its one octet. -/
theorem utf8EncodeChar_of_forall_lt {c : Char}
    (h : ∀ b ∈ String.utf8EncodeChar c, b.toNat < 128) :
    (String.utf8EncodeChar c).map (fun b => Char.ofNat b.toNat) = [c] := by
  unfold String.utf8EncodeChar at h ⊢
  dsimp only at h ⊢
  split_ifs at h ⊢ with h₁ h₂ h₃
  · have hn : c.toNat % 256 = c.toNat := Nat.mod_eq_of_lt (Nat.lt_of_le_of_lt h₁ (by decide))
    simp [UInt8.toNat_ofNat', hn]
  all_goals
    have hb := h _ List.mem_cons_self
    rw [UInt8.toNat_ofNat'] at hb
    omega

theorem charsOf_eq (s : String) : charsOf s = s.toList := by
  unfold charsOf asciiChars?
  dsimp only
  split_ifs with h
  · rw [octets_eq] at h ⊢
    rw [Option.getD_some]
    generalize s.toList = cs at h
    induction cs with
    | nil => rfl
    | cons c cs ih =>
        rw [List.flatMap_cons, List.all_append, Bool.and_eq_true] at h
        rw [List.flatMap_cons, List.map_append, ih h.2]
        have hc : ∀ b ∈ String.utf8EncodeChar c, b.toNat < 128 :=
          fun b hb => of_decide_eq_true (List.all_eq_true.1 h.1 b hb)
        rw [utf8EncodeChar_of_forall_lt hc, List.singleton_append]
  · rfl

end Text

/-- A reader starts in a state. Each character changes the state, and something may be found at it.
While the reader is calm, titles leave it calm. -/
structure Reader (σ ρ : Type) where
  start : σ
  step : σ → Char → List ρ × σ
  calm : List σ

namespace Reader

variable {σ τ ρ ω : Type}

/-- What is found in a text from a state on, and the state at the end. -/
def run (R : Reader σ ρ) (st : σ) : List Char → List ρ × σ
  | [] => ([], st)
  | c :: cs =>
    let (found, next) := R.step st c
    let (more, last) := R.run next cs
    (found ++ more, last)

variable (R : Reader σ ρ)

/-- What is found in a text. -/
def read (cs : List Char) : List ρ := (R.run R.start cs).1

theorem run_cons (st : σ) (c : Char) (cs : List Char) :
    R.run st (c :: cs) =
      ((R.step st c).1 ++ (R.run (R.step st c).2 cs).1, (R.run (R.step st c).2 cs).2) := rfl

theorem run_append (st : σ) (cs ds : List Char) :
    R.run st (cs ++ ds) =
      ((R.run st cs).1 ++ (R.run (R.run st cs).2 ds).1, (R.run (R.run st cs).2 ds).2) := by
  induction cs generalizing st with
  | nil => rfl
  | cons c cs ih => simp only [List.cons_append, run_cons, ih, List.append_assoc]

theorem run_append_of_eq {st mid last : σ} {cs ds : List Char} {found more : List ρ}
    (hcs : R.run st cs = (found, mid)) (hds : R.run mid ds = (more, last)) :
    R.run st (cs ++ ds) = (found ++ more, last) := by
  rw [run_append, hcs, hds]

/-! ## Two readers at once -/

/-- Two readers that read the same text. -/
def both (Q : Reader τ ω) : Reader (σ × τ) (ρ ⊕ ω) where
  start := (R.start, Q.start)
  step st c :=
    match R.step st.1 c, Q.step st.2 c with
    | ([], next), ([], last) => ([], (next, last))
    | (found, next), (other, last) => (found.map .inl ++ other.map .inr, (next, last))
  calm := R.calm ×ˢ Q.calm

theorem step_both (Q : Reader τ ω) (st : σ) (other : τ) (c : Char) :
    (R.both Q).step (st, other) c =
      ((R.step st c).1.map .inl ++ (Q.step other c).1.map .inr,
        ((R.step st c).2, (Q.step other c).2)) := by
  unfold both
  dsimp only
  split
  · rename_i hR hQ
    rw [hR, hQ]
    rfl
  · rename_i hR hQ
    rw [hR, hQ]

theorem run_both (Q : Reader τ ω) (st : σ) (other : τ) (cs : List Char) :
    ((R.both Q).run (st, other) cs).1.filterMap Sum.getLeft? = (R.run st cs).1 ∧
      ((R.both Q).run (st, other) cs).1.filterMap Sum.getRight? = (Q.run other cs).1 := by
  induction cs generalizing st other with
  | nil => exact ⟨rfl, rfl⟩
  | cons c cs ih =>
      obtain ⟨hleft, hright⟩ := ih (R.step st c).2 (Q.step other c).2
      constructor
      · rw [run_cons, run_cons, List.filterMap_append, step_both]
        refine congrArg₂ (· ++ ·) ?_ hleft
        simp [List.filterMap_append, List.filterMap_map, Function.comp_def]
      · rw [run_cons, run_cons, List.filterMap_append, step_both]
        refine congrArg₂ (· ++ ·) ?_ hright
        simp [List.filterMap_append, List.filterMap_map, Function.comp_def]

theorem run_both_snd (Q : Reader τ ω) (st : σ) (other : τ) (cs : List Char) :
    ((R.both Q).run (st, other) cs).2 = ((R.run st cs).2, (Q.run other cs).2) := by
  induction cs generalizing st other with
  | nil => rfl
  | cons c cs ih =>
      rw [run_cons, step_both]
      exact ih _ _

/-- Where neither of two readers finds anything, nothing is found. -/
theorem run_both_of_nil {Q : Reader τ ω} {st last : σ} {other rest : τ} {cs : List Char}
    (hst : R.run st cs = ([], last)) (hother : Q.run other cs = ([], rest)) :
    (R.both Q).run (st, other) cs = ([], (last, rest)) := by
  obtain ⟨hleft, hright⟩ := R.run_both Q st other cs
  have hlast := R.run_both_snd Q st other cs
  rw [hst, hother] at hlast
  rw [hst] at hleft
  rw [hother] at hright
  refine Prod.ext ?_ hlast
  cases hfound : ((R.both Q).run (st, other) cs).1 with
  | nil => rfl
  | cons x xs =>
      rw [hfound] at hleft hright
      cases x with
      | inl x => cases hleft
      | inr x => cases hright

theorem read_both (Q : Reader τ ω) (cs : List Char) :
    ((R.both Q).read cs).filterMap Sum.getLeft? = R.read cs ∧
      ((R.both Q).read cs).filterMap Sum.getRight? = Q.read cs := R.run_both Q _ _ cs

/-! ## Reading from several states -/

/-- What is found in a text after what was found before, the last first, and the state at the end.
Whether anything is found is settled at each character, so that the evaluation of a long text is not
put off to its end. -/
def sweep (R : Reader σ ρ) (before : List ρ) (st : σ) : List Char → List ρ × σ
  | [] => (before.reverse, st)
  | c :: cs =>
    match R.step st c with
    | ([], next) => sweep R before next cs
    | (x :: found, next) => sweep R ((x :: found).reverse ++ before) next cs

theorem sweep_eq (before : List ρ) (st : σ) (cs : List Char) :
    R.sweep before st cs = (before.reverse ++ (R.run st cs).1, (R.run st cs).2) := by
  induction cs generalizing before st with
  | nil => simp [sweep, run]
  | cons c cs ih =>
      rw [sweep, run_cons]
      cases hstep : R.step st c with
      | mk found next =>
          cases found with
          | nil => exact ih before next
          | cons x found =>
              dsimp only
              rw [ih]
              simp

section Settle

variable [DecidableEq σ] [DecidableEq ρ]

/-- What is found in a text from each of the states, if it is the same, and the states at the end. -/
def settle (states : List σ) (cs : List Char) : Option (List ρ × List σ) :=
  match states.map fun st => R.sweep [] st cs with
  | [] => none
  | (found, last) :: others =>
    if others.all fun o => o.1 = found then some (found, (last :: others.map (·.2)).dedup) else none

variable {R}

theorem run_of_settle {states last : List σ} {cs : List Char} {found : List ρ}
    (h : R.settle states cs = some (found, last)) {st : σ} (hst : st ∈ states) :
    ∃ next ∈ last, R.run st cs = (found, next) := by
  have hsweep : (fun st => R.sweep [] st cs) = fun st => R.run st cs :=
    funext fun st => by rw [sweep_eq, List.reverse_nil, List.nil_append]
  unfold settle at h
  rw [hsweep] at h
  have hmem : R.run st cs ∈ states.map fun st => R.run st cs := List.mem_map_of_mem hst
  split at h
  · rename_i hnil
    rw [hnil] at hmem
    cases hmem
  · rename_i first next others heq
    rw [heq] at hmem
    obtain ⟨hall, ⟨⟩⟩ := Option.ite_none_right_eq_some.1 h
    rcases List.mem_cons.1 hmem with hfirst | hother
    · exact ⟨next, List.mem_dedup.2 List.mem_cons_self, hfirst⟩
    · refine ⟨(R.run st cs).2, List.mem_dedup.2 (List.mem_cons_of_mem _
        (List.mem_map_of_mem hother)), ?_⟩
      rw [← of_decide_eq_true (List.all_eq_true.1 hall _ hother)]

end Settle

/-! ## Finding the same from several states -/

section Reads

variable {states mid last : List σ} {cs ds : List Char} {found more : List ρ}

/-- From each of the states, the reader finds the same in the text and comes to one of the last
states. -/
def Reads (R : Reader σ ρ) (states : List σ) (cs : List Char) (found : List ρ)
    (last : List σ) : Prop :=
  ∀ st ∈ states, ∃ next ∈ last, R.run st cs = (found, next)

theorem reads_nil (R : Reader σ ρ) (states : List σ) : R.Reads states [] [] states :=
  fun st hst => ⟨st, hst, rfl⟩

variable {R}

theorem Reads.append (hcs : R.Reads states cs found mid) (hds : R.Reads mid ds more last) :
    R.Reads states (cs ++ ds) (found ++ more) last := by
  intro st hst
  obtain ⟨next, hnext, hrun⟩ := hcs st hst
  obtain ⟨final, hfinal, hrest⟩ := hds next hnext
  exact ⟨final, hfinal, R.run_append_of_eq hrun hrest⟩

theorem Reads.mono (h : R.Reads states cs found mid) (hlast : mid ⊆ last) :
    R.Reads states cs found last := by
  intro st hst
  obtain ⟨next, hnext, hrun⟩ := h st hst
  exact ⟨next, hlast hnext, hrun⟩

/-- Nothing is found in a text if nothing is found at any of its characters. -/
theorem reads_of_forall
    (h : ∀ c ∈ cs, ∀ st ∈ states, ∃ next ∈ states, R.step st c = ([], next)) :
    R.Reads states cs [] states := by
  induction cs with
  | nil => exact R.reads_nil states
  | cons c cs ih =>
      obtain ⟨hc, hcs⟩ := List.forall_mem_cons.1 h
      intro st hst
      obtain ⟨mid, hmid, hstep⟩ := hc st hst
      obtain ⟨next, hnext, hrun⟩ := ih hcs mid hmid
      refine ⟨next, hnext, ?_⟩
      rw [run_cons, hstep, hrun]
      rfl

/-- Two readers at once find nothing where each of them finds nothing. -/
theorem Reads.both {Q : Reader τ ω} {others rest : List τ} (h : R.Reads states cs [] last)
    (hother : Q.Reads others cs [] rest) :
    (R.both Q).Reads (states ×ˢ others) cs [] (last ×ˢ rest) := by
  rintro ⟨st, other⟩ hmem
  obtain ⟨hst, hother'⟩ := List.mem_product.1 hmem
  obtain ⟨next, hnext, hrun⟩ := h st hst
  obtain ⟨final, hfinal, hrest⟩ := hother other hother'
  exact ⟨(next, final), List.mem_product.2 ⟨hnext, hfinal⟩, R.run_both_of_nil hrun hrest⟩

end Reads

end Reader

end ReactScaffold
