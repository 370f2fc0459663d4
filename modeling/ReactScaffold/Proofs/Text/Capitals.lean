import Mathlib
import ReactScaffold.Text.Title

/-!
# Capitals

The upper-case form of a character is made of characters that are their own upper-case forms, and
unless the character separates words none of them does (`unmarked_of_mem_upperChar`). The tables are
compared run by run.
-/

namespace ReactScaffold.Text

/-! ## Runs that do not meet -/

namespace CaseRun

variable {r s : CaseRun} {n : Nat}

/-- The code points that the run is mapped to. -/
def image (r : CaseRun) : CaseRun :=
  ⟨(r.first + r.delta).toNat, (r.last + r.delta).toNat, r.step, 0⟩

/-- The run of one code point. -/
def single (n : Nat) : CaseRun := ⟨n, n, 1, 0⟩

/-- Whether all code points of the run are even or all of them are odd. -/
def alternates (r : CaseRun) : Bool := r.step == 2 || r.first == r.last

/-- Whether no code point can be in both runs: one ends before the other begins, or one has even
code points and the other has odd ones. -/
def apart (r s : CaseRun) : Bool :=
  Nat.blt r.last s.first || Nat.blt s.last r.first ||
    (r.alternates && s.alternates && (r.first + s.first) % 2 == 1)

theorem covers_iff :
    r.covers n = true ↔ r.first ≤ n ∧ n ≤ r.last ∧ (n - r.first) % r.step = 0 := by
  simp [covers, and_assoc]

theorem covers_single {m : Nat} : (single m).covers n = true ↔ n = m := by
  rw [covers_iff]
  simp only [single, Nat.mod_one, and_true]
  omega

theorem mod_two_of_covers (h : r.covers n = true) (halternates : r.alternates = true) :
    n % 2 = r.first % 2 := by
  obtain ⟨hfirst, hlast, hstep⟩ := covers_iff.1 h
  simp only [alternates, Bool.or_eq_true, beq_iff_eq] at halternates
  rcases halternates with htwo | hone
  · rw [htwo] at hstep
    omega
  · omega

theorem covers_eq_false_of_apart (h : r.apart s = true) (hr : r.covers n = true) :
    s.covers n = false := by
  rw [Bool.eq_false_iff]
  intro hs
  obtain ⟨hrfirst, hrlast, -⟩ := covers_iff.1 hr
  obtain ⟨hsfirst, hslast, -⟩ := covers_iff.1 hs
  simp only [apart, Bool.or_eq_true, Bool.and_eq_true, Nat.blt_eq, beq_iff_eq] at h
  rcases h with (hbefore | hafter) | ⟨⟨hralternates, hsalternates⟩, hodd⟩
  · omega
  · omega
  · have hr2 := mod_two_of_covers hr hralternates
    have hs2 := mod_two_of_covers hs hsalternates
    omega

theorem covers_image (hfirst : 0 ≤ (r.first : Int) + r.delta) (h : r.covers n = true) :
    r.image.covers ((n : Int) + r.delta).toNat = true := by
  obtain ⟨hle, hlast, hstep⟩ := covers_iff.1 h
  rw [covers_iff]
  refine ⟨?_, ?_, ?_⟩
  · simp only [image]
    omega
  · simp only [image]
    omega
  · have hsub : ((n : Int) + r.delta).toNat - r.image.first = n - r.first := by
      simp only [image]
      omega
    rw [hsub]
    exact hstep

end CaseRun

open CaseRun

/-! ## The tables -/

/-- The code points that separate words. -/
def separatorRuns : List CaseRun :=
  single 0x2D :: single 0x5F :: blankRanges.map fun r => ⟨r.1, r.2, 1, 0⟩

/-- The code points that separate words or are mapped to upper case. -/
def markedRuns : List CaseRun :=
  upperRuns ++ upperExpansions.map (fun e => single e.1) ++ separatorRuns

/-- The code point does not separate words and is its own upper-case form. -/
def Unmarked (n : Nat) : Prop := ∀ s ∈ markedRuns, s.covers n = false

theorem delta_bounds : ∀ r ∈ upperRuns, 0 ≤ (r.first : Int) + r.delta := by
  decide +kernel

theorem images_apart : (upperRuns.all fun r => markedRuns.all r.image.apart) = true := by
  decide +kernel

theorem expansions_unmarked :
    (upperExpansions.all fun e => e.2.all fun n => markedRuns.all fun s => !s.covers n) = true := by
  decide +kernel

theorem unmarked_zero : Unmarked 0 := by
  have hall : (markedRuns.all fun s => !s.covers 0) = true := by decide +kernel
  simpa [Unmarked] using hall

theorem unmarked_image {r : CaseRun} (hr : r ∈ upperRuns) {n : Nat} (h : r.covers n = true) :
    Unmarked ((n : Int) + r.delta).toNat := by
  have hall := List.all_eq_true.1 images_apart r hr
  exact fun s hs => covers_eq_false_of_apart (List.all_eq_true.1 hall s hs)
    (covers_image (delta_bounds r hr) h)

theorem unmarked_of_mem_expansion {e : Nat × List Nat} (he : e ∈ upperExpansions) {n : Nat}
    (hn : n ∈ e.2) : Unmarked n := by
  have hall := List.all_eq_true.1 (List.all_eq_true.1 expansions_unmarked e he) n hn
  exact fun s hs => by simpa using List.all_eq_true.1 hall s hs

theorem Unmarked.toNat_ofNat {n : Nat} (h : Unmarked n) : Unmarked (Char.ofNat n).toNat := by
  rw [Char.toNat_ofNat]
  split_ifs
  · exact h
  · exact unmarked_zero

/-! ## Upper-case forms -/

theorem runImage?_eq_some {c image : Nat} (h : runImage? upperRuns c = some image) :
    ∃ r ∈ upperRuns, r.covers c = true ∧ image = ((c : Int) + r.delta).toNat := by
  obtain ⟨r, hr, rfl⟩ := Option.map_eq_some_iff.1 h
  have hcovers := List.find?_some hr
  exact ⟨r, List.mem_of_find?_eq_some hr, hcovers, rfl⟩

theorem mem_of_lookup_eq_some {c : Nat} {image : List Nat}
    (h : upperExpansions.lookup c = some image) : (c, image) ∈ upperExpansions := by
  obtain ⟨before, after, hsplit, -⟩ := List.lookup_eq_some_iff.1 h
  rw [hsplit]
  exact List.mem_append_right _ List.mem_cons_self

theorem isSeparator_of_unmarked {c : Char} (h : Unmarked c.toNat) : isSeparator c = false := by
  have hsingle {d : Char} (hd : single d.toNat ∈ markedRuns) : c ≠ d := by
    rintro rfl
    have hcovers := h _ hd
    rw [Bool.eq_false_iff] at hcovers
    exact hcovers (covers_single.2 rfl)
  have hblank : isBlank c = false := by
    rw [isBlank, List.any_eq_false]
    intro r hr hrange
    have hcovers := h ⟨r.1, r.2, 1, 0⟩ (List.mem_append_right _ (by simp [separatorRuns, hr]))
    simp only [Bool.and_eq_true, decide_eq_true_eq] at hrange
    rw [Bool.eq_false_iff] at hcovers
    exact hcovers (covers_iff.2 ⟨hrange.1, hrange.2, Nat.mod_one _⟩)
  have hhyphen : c ≠ '-' := hsingle (List.mem_append_right _ List.mem_cons_self)
  have hunderscore : c ≠ '_' :=
    hsingle (List.mem_append_right _ (List.mem_cons_of_mem _ List.mem_cons_self))
  simp [isSeparator, hhyphen, hunderscore, hblank]

theorem upperChar_of_unmarked {c : Char} (h : Unmarked c.toNat) : upperChar c = [c] := by
  unfold upperChar mapChar
  cases hexpansion : upperExpansions.lookup c.toNat with
  | some image =>
      have hmem : single c.toNat ∈ markedRuns := List.mem_append_left _ (List.mem_append_right _
        (List.mem_map.2 ⟨_, mem_of_lookup_eq_some hexpansion, rfl⟩))
      have hcovers := h _ hmem
      rw [covers_single.2 rfl] at hcovers
      cases hcovers
  | none =>
      cases hrun : runImage? upperRuns c.toNat with
      | some image =>
          obtain ⟨r, hr, hcovered, -⟩ := runImage?_eq_some hrun
          have hcovers := h r (List.mem_append_left _ (List.mem_append_left _ hr))
          rw [hcovered] at hcovers
          cases hcovers
      | none => rfl

theorem upperChar_ne_nil (c : Char) : upperChar c ≠ [] := by
  have hall : (upperExpansions.all fun e => !e.2.isEmpty) = true := by decide +kernel
  unfold upperChar mapChar
  cases hexpansion : upperExpansions.lookup c.toNat with
  | some image =>
      have himage := List.all_eq_true.1 hall _ (mem_of_lookup_eq_some hexpansion)
      simpa using himage
  | none => cases runImage? upperRuns c.toNat <;> exact List.cons_ne_nil _ _

/-- A character that no table mentions and that does not separate words. -/
theorem unmarked_of_none {c : Char} (hc : isSeparator c = false)
    (hexpansion : upperExpansions.lookup c.toNat = none)
    (hrun : runImage? upperRuns c.toNat = none) : Unmarked c.toNat := by
  have hsingle {n : Nat} (h : c.toNat ≠ n) : (single n).covers c.toNat = false := by
    rw [Bool.eq_false_iff]
    exact fun hcovers => h (covers_single.1 hcovers)
  have htoNat {d : Char} (h : c ≠ d) : c.toNat ≠ d.toNat := fun heq =>
    h (by rw [← Char.ofNat_toNat c, heq, Char.ofNat_toNat])
  simp only [isSeparator, Bool.or_eq_false_iff, beq_eq_false_iff_ne, isBlank,
    List.any_eq_false] at hc
  obtain ⟨⟨hhyphen, hunderscore⟩, hblank⟩ := hc
  intro s hs
  simp only [markedRuns, separatorRuns, List.mem_append, List.mem_cons, List.mem_map] at hs
  rcases hs with (hs | ⟨e, he, rfl⟩) | rfl | rfl | ⟨r, hr, rfl⟩
  · simpa using List.find?_eq_none.1 (Option.map_eq_none_iff.1 hrun) s hs
  · exact hsingle (by simpa using List.lookup_eq_none_iff.1 hexpansion e he)
  · exact hsingle (htoNat hhyphen)
  · exact hsingle (htoNat hunderscore)
  · simpa [covers, Nat.mod_one] using hblank r hr

/-- In upper case a character that does not separate words is made of characters that do not either,
and that are their own upper-case forms. -/
theorem unmarked_of_mem_upperChar {c : Char} (hc : isSeparator c = false) {d : Char}
    (hd : d ∈ upperChar c) : Unmarked d.toNat := by
  unfold upperChar mapChar at hd
  cases hexpansion : upperExpansions.lookup c.toNat with
  | some image =>
      rw [hexpansion] at hd
      obtain ⟨n, hn, rfl⟩ := List.mem_map.1 hd
      exact (unmarked_of_mem_expansion (mem_of_lookup_eq_some hexpansion) hn).toNat_ofNat
  | none =>
      rw [hexpansion] at hd
      cases hrun : runImage? upperRuns c.toNat with
      | some image =>
          rw [hrun] at hd
          obtain rfl := List.mem_singleton.1 hd
          obtain ⟨r, hr, hcovered, rfl⟩ := runImage?_eq_some hrun
          exact (unmarked_image hr hcovered).toNat_ofNat
      | none =>
          rw [hrun] at hd
          obtain rfl := List.mem_singleton.1 hd
          exact unmarked_of_none hc hexpansion hrun

end ReactScaffold.Text
