import ReactScaffold.Text.Blank
import Mathlib

/-!
# Blank characters at the ends

A text that is stripped neither begins nor ends with a blank character, and one that does neither
is left as it is by stripping it. Letters and digits are not blank.
-/

namespace ReactScaffold.Text

theorem isBlank_of_isAlphanum {c : Char} (h : c.isAlphanum = true) : isBlank c = false := by
  have hrange : 48 ≤ c.toNat ∧ c.toNat ≤ 122 := by
    have hn : c.toNat = c.val.toNat := rfl
    simp [Char.isAlphanum, Char.isAlpha, Char.isUpper, Char.isLower, Char.isDigit,
      UInt32.le_iff_toNat_le] at h
    omega
  simp [isBlank, blankRanges]
  omega

section Strip

variable {cs : List Char}

theorem head?_dropWhile_isBlank {c : Char} (h : (cs.dropWhile isBlank).head? = some c) :
    isBlank c = false := by
  have hhead := List.head?_dropWhile_not isBlank cs
  rw [h] at hhead
  simpa using hhead

theorem getLast?_stripBlank {c : Char} (h : (stripBlank cs).getLast? = some c) :
    isBlank c = false := by
  rw [stripBlank, List.getLast?_reverse] at h
  exact head?_dropWhile_isBlank h

theorem head?_stripBlank {c : Char} (h : (stripBlank cs).head? = some c) : isBlank c = false := by
  have hprefix : stripBlank cs <+: cs.dropWhile isBlank := by
    rw [← List.reverse_suffix, stripBlank, List.reverse_reverse]
    exact List.dropWhile_suffix isBlank
  obtain ⟨more, hmore⟩ := hprefix
  have hhead : (cs.dropWhile isBlank).head? = some c := by
    rw [← hmore, List.head?_append, h]
    rfl
  exact head?_dropWhile_isBlank hhead

theorem dropWhile_isBlank_of_head? (h : ∀ c, cs.head? = some c → isBlank c = false) :
    cs.dropWhile isBlank = cs := by
  cases cs with
  | nil => rfl
  | cons c cs => exact List.dropWhile_cons_of_neg (by simp [h c rfl])

/-- Stripping changes nothing where no blank is at an end. -/
theorem stripBlank_of_ends (hhead : ∀ c, cs.head? = some c → isBlank c = false)
    (hlast : ∀ c, cs.getLast? = some c → isBlank c = false) : stripBlank cs = cs := by
  rw [stripBlank, dropWhile_isBlank_of_head? hhead,
    dropWhile_isBlank_of_head? fun c hc => hlast c (List.head?_reverse ▸ hc), List.reverse_reverse]

theorem stripBlank_of_all (h : ∀ c ∈ cs, isBlank c = false) : stripBlank cs = cs :=
  stripBlank_of_ends (fun c hc => h c (List.mem_of_mem_head? hc))
    fun c hc => h c (List.mem_of_getLast? hc)

theorem stripBlank_stripBlank (cs : List Char) : stripBlank (stripBlank cs) = stripBlank cs :=
  stripBlank_of_ends (fun _ => head?_stripBlank) fun _ => getLast?_stripBlank

end Strip

end ReactScaffold.Text
