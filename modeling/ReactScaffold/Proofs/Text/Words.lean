import ReactScaffold.Text.Title
import Mathlib.Data.List.Basic

/-!
# Words of a text

The words of a text are its maximal runs of characters that do not separate (`hasWords_iff`). A
separator cuts a text into two texts whose words do not touch, which is the one equation that all
else about words follows from (`words_append_separator`). Words that are joined by blanks are the
words of the result.
-/

namespace ReactScaffold.Text

/-- The characters make a word: there is one at least, and none of them separates. -/
def IsWord (w : List Char) : Prop := w ≠ [] ∧ ∀ c ∈ w, isSeparator c = false

/-- The text has these words in this order. A word takes in all characters up to the next separator
or the end. -/
inductive HasWords : List Char → List (List Char) → Prop where
  | nil : HasWords [] []
  | separator {c : Char} {rest : List Char} {ws : List (List Char)} (hc : isSeparator c = true)
      (h : HasWords rest ws) : HasWords (c :: rest) ws
  | word {w rest : List Char} {ws : List (List Char)} (hw : IsWord w)
      (hmax : ∀ c, rest.head? = some c → isSeparator c = true) (h : HasWords rest ws) :
      HasWords (w ++ rest) (w :: ws)

/-! ## Cutting at a separator -/

theorem consWord_append (word : List Char) (others more : List (List Char)) :
    consWord word (others ++ more) = consWord word others ++ more := by
  unfold consWord
  split_ifs <;> rfl

theorem leadingWord_append_separator (x : List Char) {c : Char} (hc : isSeparator c = true)
    (y : List Char) :
    leadingWord (x ++ c :: y) = ((leadingWord x).1, (leadingWord x).2 ++ words y) := by
  induction x with
  | nil => simp [leadingWord, hc, words]
  | cons a x ih =>
      rw [List.cons_append, leadingWord, ih, leadingWord]
      dsimp only
      split_ifs
      · rw [consWord_append]
      · rfl

/-- No word reaches across a separator. -/
theorem words_append_separator (x : List Char) {c : Char} (hc : isSeparator c = true)
    (y : List Char) : words (x ++ c :: y) = words x ++ words y := by
  rw [words, leadingWord_append_separator x hc y, consWord_append]
  rfl

@[simp] theorem words_nil : words [] = [] := rfl

theorem words_cons_separator {c : Char} (hc : isSeparator c = true) (y : List Char) :
    words (c :: y) = words y := words_append_separator [] hc y

theorem words_of_isWord {w : List Char} (h : IsWord w) : words w = [w] := by
  have hleading : ∀ w : List Char, (∀ c ∈ w, isSeparator c = false) → leadingWord w = (w, []) := by
    intro w hw
    induction w with
    | nil => rfl
    | cons c w ih =>
        obtain ⟨hc, hrest⟩ := List.forall_mem_cons.1 hw
        rw [leadingWord, ih hrest]
        simp [hc]
  rw [words, hleading w h.2, consWord, if_neg (by simpa using h.1)]

/-! ## Maximal runs -/

/-- The words are the only ones that the text has. -/
theorem HasWords.eq_words {cs : List Char} {ws : List (List Char)} (h : HasWords cs ws) :
    ws = words cs := by
  induction h with
  | nil => rfl
  | separator hc h ih => rw [ih, words_cons_separator hc]
  | @word w rest ws hw hmax h ih =>
      cases rest with
      | nil => rw [List.append_nil, words_of_isWord hw, ih, words_nil]
      | cons c rest =>
          have hc := hmax c rfl
          rw [words_append_separator w hc, words_of_isWord hw, ih, words_cons_separator hc]
          rfl

theorem exists_hasWords (cs : List Char) : ∃ ws, HasWords cs ws := by
  -- the word that a text begins with ends at a separator, and the rest has words
  suffices h : ∃ w rest ws, cs = w ++ rest ∧ (∀ c ∈ w, isSeparator c = false) ∧
      (∀ c, rest.head? = some c → isSeparator c = true) ∧ HasWords rest ws by
    obtain ⟨w, rest, ws, rfl, hw, hmax, hrest⟩ := h
    by_cases hne : w = []
    · exact ⟨ws, hne ▸ hrest⟩
    · exact ⟨w :: ws, .word ⟨hne, hw⟩ hmax hrest⟩
  induction cs with
  | nil => exact ⟨[], [], [], rfl, nofun, nofun, .nil⟩
  | cons c cs ih =>
      obtain ⟨w, rest, ws, rfl, hw, hmax, hrest⟩ := ih
      cases hc : isSeparator c with
      | false => exact ⟨c :: w, rest, ws, rfl, List.forall_mem_cons.2 ⟨hc, hw⟩, hmax, hrest⟩
      | true =>
          have hhead : ∀ d, (c :: (w ++ rest)).head? = some d → isSeparator d = true := fun d hd =>
            Option.some.inj hd ▸ hc
          by_cases hne : w = []
          · exact ⟨[], _, ws, rfl, nofun, hhead, .separator hc (hne ▸ hrest)⟩
          · exact ⟨[], _, w :: ws, rfl, nofun, hhead, .separator hc (.word ⟨hne, hw⟩ hmax hrest)⟩

/-- The words of a text are its maximal runs of characters that do not separate. -/
theorem hasWords_iff {cs : List Char} {ws : List (List Char)} :
    HasWords cs ws ↔ ws = words cs := by
  refine ⟨HasWords.eq_words, ?_⟩
  rintro rfl
  obtain ⟨ws, h⟩ := exists_hasWords cs
  exact h.eq_words ▸ h

theorem HasWords.isWord {cs : List Char} {ws : List (List Char)} (h : HasWords cs ws) :
    ∀ w ∈ ws, IsWord w ∧ ∀ c ∈ w, c ∈ cs := by
  induction h with
  | nil => exact nofun
  | separator hc h ih => exact fun w hw => (ih w hw).imp_right fun hsub c hc =>
      List.mem_cons_of_mem _ (hsub c hc)
  | word hw hmax h ih =>
      refine List.forall_mem_cons.2 ⟨⟨hw, fun c hc => List.mem_append_left _ hc⟩, fun v hv => ?_⟩
      exact (ih v hv).imp_right fun hsub c hc => List.mem_append_right _ (hsub c hc)

theorem isWord_of_mem_words {cs w : List Char} (h : w ∈ words cs) : IsWord w :=
  ((hasWords_iff.2 rfl).isWord w h).1

theorem mem_of_mem_words {cs w : List Char} (h : w ∈ words cs) {c : Char} (hc : c ∈ w) : c ∈ cs :=
  ((hasWords_iff.2 rfl).isWord w h).2 c hc

theorem HasWords.isSeparator_of_nil {cs : List Char} (h : HasWords cs []) :
    ∀ c ∈ cs, isSeparator c = true := by
  generalize hws : ([] : List (List Char)) = ws at h
  induction h with
  | nil => exact nofun
  | separator hc h ih => exact List.forall_mem_cons.2 ⟨hc, ih hws⟩
  | word hw hmax h ih => cases hws

/-- A text without words has nothing but separators. -/
theorem words_eq_nil_iff {cs : List Char} : words cs = [] ↔ ∀ c ∈ cs, isSeparator c = true := by
  constructor
  · exact fun h => (hasWords_iff.2 h.symm).isSeparator_of_nil
  · intro h
    induction cs with
    | nil => rfl
    | cons c cs ih =>
        obtain ⟨hc, hrest⟩ := List.forall_mem_cons.1 h
        rw [words_cons_separator hc, ih hrest]

/-! ## Joined words -/

theorem joinWords_cons_cons (v w : List Char) (ws : List (List Char)) :
    joinWords (v :: w :: ws) = v ++ ' ' :: joinWords (w :: ws) := by
  simp [joinWords, List.intercalate_cons_cons]

/-- Words that are joined are the words of the result. -/
theorem words_joinWords {ws : List (List Char)} (h : ∀ w ∈ ws, IsWord w) :
    words (joinWords ws) = ws := by
  induction ws with
  | nil => rfl
  | cons w ws ih =>
      obtain ⟨hw, hws⟩ := List.forall_mem_cons.1 h
      cases ws with
      | nil => rw [joinWords, List.intercalate_singleton, words_of_isWord hw]
      | cons v ws =>
          rw [joinWords_cons_cons, words_append_separator w rfl, words_of_isWord hw, ih hws]
          rfl

end ReactScaffold.Text
