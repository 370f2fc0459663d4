import ReactScaffold.Project.Name
import ReactScaffold.Proofs.Host.Path
import ReactScaffold.Proofs.Text.Blank
import ReactScaffold.Proofs.Text.Reader
import ReactScaffold.Proofs.Text.Words

/-!
# Titles in texts

The title of a project is made of the words of its name, each of which begins with a capital letter
or a digit. A reader that finds nothing in such words finds nothing in any title:
`Reader.passesTitles_of_words`.
-/

namespace ReactScaffold

open Text

/-- Whether the character may stand in a word of a program. -/
def isWordChar (c : Char) : Bool := c.isAlphanum || c = '_' || c = '$'

theorem isBlank_of_isWordChar {c : Char} (h : isWordChar c = true) : isBlank c = false := by
  simp only [isWordChar, Bool.or_eq_true, decide_eq_true_eq] at h
  rcases h with (h | rfl) | rfl
  · exact isBlank_of_isAlphanum h
  · decide
  · decide

/-! ## Words of titles -/

/-- A word of a title: it is made of letters and digits, and does not begin with a small letter. -/
structure TitleWord (w : List Char) : Prop where
  wordChars (c : Char) (h : c ∈ w) : isWordChar c = true
  begins : ∃ c rest, w = c :: rest ∧ c.isLower = false

/-- Whether the character has an upper-case form that is one digit or capital letter. -/
def hasPlainUpper (c : Char) : Bool :=
  match upperChar c with
  | [d] => d.isAlphanum && !d.isLower
  | _ => false

theorem hasPlainUpper_of_isAlphanum {c : Char} (h : c.isAlphanum = true) :
    hasPlainUpper c = true := by
  have hdigits : ∀ n < 10, hasPlainUpper (Char.ofNat (48 + n)) = true := by decide +kernel
  have hcapitals : ∀ n < 26, hasPlainUpper (Char.ofNat (65 + n)) = true := by decide +kernel
  have hsmall : ∀ n < 26, hasPlainUpper (Char.ofNat (97 + n)) = true := by decide +kernel
  have hrange {start : ℕ} (hstart : start ≤ c.toNat) :
      Char.ofNat (start + (c.toNat - start)) = c := by
    rw [Nat.add_sub_cancel' hstart, Char.ofNat_toNat]
  simp only [Char.isAlphanum, Char.isAlpha, Char.isUpper, Char.isLower, Char.isDigit,
    Bool.or_eq_true, Bool.and_eq_true, decide_eq_true_eq, UInt32.le_iff_toNat_le] at h
  rcases h with (⟨hlow, hhigh⟩ | ⟨hlow, hhigh⟩) | ⟨hlow, hhigh⟩
  · change c.toNat ≤ 90 at hhigh
    rw [← hrange hlow]
    exact hcapitals _ (Nat.sub_lt_left_of_lt_add hlow (Nat.lt_succ_of_le hhigh))
  · change c.toNat ≤ 122 at hhigh
    rw [← hrange hlow]
    exact hsmall _ (Nat.sub_lt_left_of_lt_add hlow (Nat.lt_succ_of_le hhigh))
  · change c.toNat ≤ 57 at hhigh
    rw [← hrange hlow]
    exact hdigits _ (Nat.sub_lt_left_of_lt_add hlow (Nat.lt_succ_of_le hhigh))

/-- In upper case a letter or digit is a capital letter or a digit. -/
theorem upperChar_of_isAlphanum {c : Char} (h : c.isAlphanum = true) :
    ∃ d, upperChar c = [d] ∧ d.isAlphanum = true ∧ d.isLower = false := by
  have hplain := hasPlainUpper_of_isAlphanum h
  unfold hasPlainUpper at hplain
  split at hplain
  · rename_i d hd
    rw [Bool.and_eq_true, Bool.not_eq_true'] at hplain
    exact ⟨d, hd, hplain⟩
  · cases hplain

/-- The characters of names that do not separate words are letters and digits. -/
theorem isSeparator_eq_false_iff {c : Char} (h : isNameChar c = true) :
    isSeparator c = false ↔ c.isAlphanum = true := by
  constructor
  · intro hsep
    simp only [isNameChar, Bool.or_eq_true, decide_eq_true_eq] at h
    rcases h with (h | rfl) | rfl
    · exact h
    · cases hsep
    · cases hsep
  · intro halphanum
    have hne {d : Char} (hd : d.isAlphanum = false) : c ≠ d := fun heq => by
      rw [← heq, halphanum] at hd
      cases hd
    simp [isSeparator, isBlank_of_isAlphanum halphanum, hne (d := '-') rfl, hne (d := '_') rfl]

theorem isAlphanum_of_mem_words {name : ProjectName} {w : List Char}
    (hw : w ∈ words name.text.toList) {c : Char} (hc : c ∈ w) : c.isAlphanum = true := by
  have hvalid := name.valid
  rw [isProjectName, Bool.and_eq_true] at hvalid
  have hname := List.all_eq_true.1 hvalid.2 c (mem_of_mem_words hw hc)
  exact (isSeparator_eq_false_iff hname).1 ((isWord_of_mem_words hw).2 c hc)

theorem titleWord_capitalize {name : ProjectName} {w : List Char}
    (hw : w ∈ words name.text.toList) : TitleWord (capitalize w) := by
  have hall : ∀ c ∈ w, c.isAlphanum = true := fun c hc => isAlphanum_of_mem_words hw hc
  have hchar {c : Char} (hc : c.isAlphanum = true) : isWordChar c = true := by
    simp [isWordChar, hc]
  cases w with
  | nil => exact absurd rfl (isWord_of_mem_words hw).1
  | cons c rest =>
      obtain ⟨hc, hrest⟩ := List.forall_mem_cons.1 hall
      obtain ⟨d, hupper, hd, hbegins⟩ := upperChar_of_isAlphanum hc
      have hcapital : capitalize (c :: rest) = d :: rest := by rw [capitalize, hupper]; rfl
      rw [hcapital]
      exact ⟨List.forall_mem_cons.2 ⟨hchar hd, fun e he => hchar (hrest e he)⟩, d, rest, rfl,
        hbegins⟩

/-! ## Readers of titles -/

namespace Reader

variable {σ τ ρ ω : Type} {R : Reader σ ρ}

/-- The reader finds nothing in titles and stays calm. -/
def PassesTitles (R : Reader σ ρ) : Prop :=
  ∀ name : ProjectName, R.Reads R.calm (titleCase name.text).toList [] R.calm

/-- A reader that is never calm reads no title at all. -/
theorem passesTitles_of_calm_eq_nil (h : R.calm = []) : R.PassesTitles := by
  intro name st hst
  rw [h] at hst
  cases hst

theorem PassesTitles.both {Q : Reader τ ω} (hR : R.PassesTitles) (hQ : Q.PassesTitles) :
    (R.both Q).PassesTitles := fun name => (hR name).both (hQ name)

/-- A reader that finds nothing in words of titles, and nothing between them, finds nothing in
titles. -/
theorem passesTitles_of_words (hword : ∀ w, TitleWord w → R.Reads R.calm w [] R.calm)
    (hblank : R.Reads R.calm [' '] [] R.calm) : R.PassesTitles := by
  intro name
  rw [titleCase, String.toList_ofList]
  have hwords : ∀ w ∈ (words name.text.toList).map capitalize, TitleWord w := by
    intro w hw
    obtain ⟨v, hv, rfl⟩ := List.mem_map.1 hw
    exact titleWord_capitalize hv
  generalize (words name.text.toList).map capitalize = ws at hwords
  induction ws with
  | nil => exact R.reads_nil R.calm
  | cons w ws ih =>
      obtain ⟨hw, hws⟩ := List.forall_mem_cons.1 hwords
      cases ws with
      | nil =>
          rw [joinWords, List.intercalate_singleton]
          exact hword w hw
      | cons v ws =>
          have hjoin : joinWords (w :: v :: ws) = w ++ ([' '] ++ joinWords (v :: ws)) :=
            joinWords_cons_cons w v ws
          rw [hjoin]
          exact (hword w hw).append (hblank.append (ih hws))

/-- A reader passes a word of a title if its first character leads into a state in which nothing
more is found up to the end of the word. -/
theorem reads_titleWord (within : σ) (hwithin : within ∈ R.calm)
    (hbegins : ∀ st ∈ R.calm, ∀ c, isWordChar c = true → c.isLower = false →
      R.step st c = ([], within))
    (hgoesOn : ∀ c, isWordChar c = true → R.step within c = ([], within)) (w : List Char)
    (hw : TitleWord w) : R.Reads R.calm w [] R.calm := by
  obtain ⟨c, rest, rfl, hlower⟩ := hw.begins
  obtain ⟨hc, hrest⟩ := List.forall_mem_cons.1 hw.wordChars
  intro st hst
  have hmore : R.Reads [within] rest [] [within] := reads_of_forall fun d hd st hst =>
    ⟨within, List.mem_singleton_self _, List.mem_singleton.1 hst ▸ hgoesOn d (hrest d hd)⟩
  obtain ⟨next, hnext, hrun⟩ := hmore within (List.mem_singleton_self _)
  refine ⟨within, hwithin, ?_⟩
  rw [run_cons, hbegins st hst c hc hlower, hrun, List.mem_singleton.1 hnext]
  rfl

/-- A reader that passes over all characters of words and blanks finds nothing in titles. -/
theorem passesTitles_of_chars (h : ∀ c, c = ' ' ∨ isWordChar c = true →
    ∀ st ∈ R.calm, ∃ next ∈ R.calm, R.step st c = ([], next)) : R.PassesTitles := by
  refine passesTitles_of_words (fun w hw => reads_of_forall fun c hc => ?_)
    (reads_of_forall fun c hc => ?_)
  · exact h c (.inr (hw.wordChars c hc))
  · exact h c (.inl (List.mem_singleton.1 hc))

end Reader

end ReactScaffold
