import ReactScaffold.Proofs.Text.Capitals
import ReactScaffold.Proofs.Text.Words

/-!
# Titles as normal forms

The title of a text depends on its words only, and a title is its own title: for the second, a word
in capitals has to be a word again that has its capital already. Both are parts of
`titleCase_normalForm`.
-/

namespace ReactScaffold.Text

/-! ## Words in capitals -/

theorem IsWord.capitalize {w : List Char} (h : IsWord w) : IsWord (capitalize w) := by
  cases w with
  | nil => exact absurd rfl h.1
  | cons c rest =>
      obtain ⟨hc, hrest⟩ := List.forall_mem_cons.1 h.2
      refine ⟨fun hnil => upperChar_ne_nil c (List.append_eq_nil_iff.1 hnil).1, fun d hd => ?_⟩
      rcases List.mem_append.1 hd with hd | hd
      · exact isSeparator_of_unmarked (unmarked_of_mem_upperChar hc hd)
      · exact hrest d hd

theorem capitalize_capitalize {w : List Char} (h : IsWord w) :
    capitalize (capitalize w) = capitalize w := by
  cases w with
  | nil => rfl
  | cons c rest =>
      obtain ⟨d, ds, hupper⟩ := List.exists_cons_of_ne_nil (upperChar_ne_nil c)
      have hd : Unmarked d.toNat :=
        unmarked_of_mem_upperChar (h.2 c List.mem_cons_self) (hupper ▸ List.mem_cons_self)
      have hcapital : capitalize (c :: rest) = d :: (ds ++ rest) := by
        rw [Text.capitalize, hupper, List.cons_append]
      rw [hcapital, Text.capitalize, upperChar_of_unmarked hd]
      rfl

theorem isWord_of_mem_capitals {cs w : List Char} (h : w ∈ (words cs).map capitalize) :
    IsWord w := by
  obtain ⟨v, hv, rfl⟩ := List.mem_map.1 h
  exact (isWord_of_mem_words hv).capitalize

theorem words_titleCase (s : String) :
    words (titleCase s).toList = (words s.toList).map capitalize := by
  rw [titleCase, String.toList_ofList, words_joinWords fun _ => isWord_of_mem_capitals]

/-- A text without a word has no title. -/
theorem titleCase_eq_empty_iff {s : String} :
    titleCase s = "" ↔ ∀ c ∈ s.toList, isSeparator c = true := by
  rw [← words_eq_nil_iff]
  constructor
  · intro h
    have hwords := words_titleCase s
    rw [h] at hwords
    exact List.map_eq_nil_iff.1 hwords.symm
  · intro h
    rw [titleCase, h]
    rfl

/-! ## Joined words -/

/-- Each word but the first has a blank in front of it. -/
theorem joinWords_cons (w : List Char) (ws : List (List Char)) :
    joinWords (w :: ws) = w ++ ws.flatMap (List.cons ' ') := by
  induction ws generalizing w with
  | nil => rw [joinWords, List.intercalate_singleton, List.flatMap_nil, List.append_nil]
  | cons v ws ih => rw [joinWords_cons_cons, ih, List.flatMap_cons, List.cons_append]

theorem countP_isSeparator {w : List Char} (h : IsWord w) : w.countP isSeparator = 0 :=
  List.countP_eq_zero.2 fun c hc => by simp [h.2 c hc]

section Joined

variable {ws : List (List Char)} (h : ∀ w ∈ ws, IsWord w)

include h

theorem head?_joinWords_ne : (joinWords ws).head? ≠ some ' ' := by
  cases ws with
  | nil => exact nofun
  | cons w ws =>
      obtain ⟨hne, hw⟩ := h w List.mem_cons_self
      obtain ⟨c, rest, rfl⟩ := List.exists_cons_of_ne_nil hne
      rw [joinWords_cons]
      rintro ⟨⟩
      cases hw ' ' List.mem_cons_self

theorem getLast?_joinWords_ne : (joinWords ws).getLast? ≠ some ' ' := by
  have hlast {w : List Char} (hw : IsWord w) : w.getLast? ≠ some ' ' := fun hblank => by
    cases hw.2 ' ' (List.mem_of_getLast? hblank)
  cases ws with
  | nil => exact nofun
  | cons w ws =>
      rw [joinWords_cons]
      rcases List.eq_nil_or_concat ws with rfl | ⟨vs, v, rfl⟩
      · rw [List.flatMap_nil, List.append_nil]
        exact hlast (h w List.mem_cons_self)
      · have hv := h v (by simp)
        have hends : w ++ (vs.concat v).flatMap (List.cons ' ') =
            (w ++ vs.flatMap (List.cons ' ') ++ [' ']) ++ v := by
          simp
        rw [hends, List.getLast?_append_of_ne_nil _ hv.1]
        exact hlast hv

theorem eq_blank_of_mem_joinWords {c : Char} (hc : c ∈ joinWords ws)
    (hsep : isSeparator c = true) : c = ' ' := by
  have hnot {w : List Char} (hw : w ∈ ws) : c ∉ w := fun hmem => by
    cases ((h w hw).2 c hmem).symm.trans hsep
  cases ws with
  | nil => cases hc
  | cons w ws =>
      rw [joinWords_cons, List.mem_append, List.mem_flatMap] at hc
      rcases hc with hc | ⟨v, hv, hc⟩
      · exact absurd hc (hnot List.mem_cons_self)
      · rcases List.mem_cons.1 hc with rfl | hc
        · rfl
        · exact absurd hc (hnot (List.mem_cons_of_mem _ hv))

theorem countP_joinWords : (joinWords ws).countP isSeparator = ws.length - 1 := by
  have hblanks : ∀ vs : List (List Char), (∀ v ∈ vs, IsWord v) →
      (vs.flatMap (List.cons ' ')).countP isSeparator = vs.length := by
    intro vs hvs
    induction vs with
    | nil => rfl
    | cons v vs ih =>
        obtain ⟨hv, hrest⟩ := List.forall_mem_cons.1 hvs
        rw [List.flatMap_cons, List.countP_append, List.countP_cons_of_pos rfl,
          countP_isSeparator hv, ih hrest, List.length_cons, Nat.zero_add, Nat.add_comm]
  cases ws with
  | nil => rfl
  | cons w ws =>
      obtain ⟨hw, hws⟩ := List.forall_mem_cons.1 h
      rw [joinWords_cons, List.countP_append, countP_isSeparator hw, hblanks ws hws]
      simp

end Joined

/-! ## Titles -/

/-- The title of a text that has these words: the words in capitals, with one blank between any two
that follow each other. -/
structure IsTitleOf (ws : List (List Char)) (title : String) : Prop where
  toList_eq : title.toList = [' '].intercalate (ws.map capitalize)
  hasWords : HasWords title.toList (ws.map capitalize)
  not_begins : title.toList.head? ≠ some ' '
  not_ends : title.toList.getLast? ≠ some ' '
  separator_eq : ∀ c ∈ title.toList, isSeparator c = true → c = ' '
  separators_eq : title.toList.countP isSeparator = ws.length - 1

theorem isTitleOf_titleCase (s : String) : IsTitleOf (words s.toList) (titleCase s) := by
  have htoList : (titleCase s).toList = joinWords ((words s.toList).map capitalize) := by
    rw [titleCase, String.toList_ofList]
  have hcapitals : ∀ w ∈ (words s.toList).map capitalize, IsWord w := fun _ =>
    isWord_of_mem_capitals
  refine ⟨htoList, hasWords_iff.2 (words_titleCase s).symm, ?_, ?_, fun c hc => ?_, ?_⟩
  · rw [htoList]
    exact head?_joinWords_ne hcapitals
  · rw [htoList]
    exact getLast?_joinWords_ne hcapitals
  · rw [htoList] at hc
    exact eq_blank_of_mem_joinWords hcapitals hc
  · rw [htoList, countP_joinWords hcapitals, List.length_map]

/-- A text has one list of words. Its title is made of them, is the same for all texts with these
words, and is its own title. -/
theorem titleCase_normalForm (s : String) :
    (∃! ws, HasWords s.toList ws) ∧
    (∀ ws, HasWords s.toList ws → IsTitleOf ws (titleCase s)) ∧
    (∀ t ws, HasWords s.toList ws → HasWords t.toList ws → titleCase t = titleCase s) ∧
    titleCase (titleCase s) = titleCase s := by
  refine ⟨⟨words s.toList, hasWords_iff.2 rfl, fun ws => HasWords.eq_words⟩, ?_, ?_, ?_⟩
  · rintro ws hws
    obtain rfl := hws.eq_words
    exact isTitleOf_titleCase s
  · rintro t ws hs ht
    rw [titleCase, titleCase, ← hs.eq_words, ht.eq_words]
  · rw [titleCase, words_titleCase, List.map_map, titleCase]
    congr 2
    exact List.map_congr_left fun w hw => capitalize_capitalize (isWord_of_mem_words hw)

/-- Two texts with the same words. Both words get longer in capitals. -/
theorem titleCase_normalForm_sample :
    HasWords "-ßen_ﬁn ".toList ["ßen".toList, "ﬁn".toList] ∧
      HasWords "ßen \t ﬁn".toList ["ßen".toList, "ﬁn".toList] ∧
      IsTitleOf ["ßen".toList, "ﬁn".toList] "SSen FIn" ∧
      titleCase "ßen \t ﬁn" = "SSen FIn" ∧ titleCase "SSen FIn" = "SSen FIn" := by
  have htitle : titleCase "-ßen_ﬁn " = "SSen FIn" := by decide +kernel
  have hfirst : HasWords "-ßen_ﬁn ".toList ["ßen".toList, "ﬁn".toList] :=
    hasWords_iff.2 (by decide +kernel)
  have hsecond : HasWords "ßen \t ﬁn".toList ["ßen".toList, "ﬁn".toList] :=
    hasWords_iff.2 (by decide +kernel)
  obtain ⟨-, hwords, hsame, hagain⟩ := titleCase_normalForm "-ßen_ﬁn "
  rw [htitle] at hwords hsame hagain
  exact ⟨hfirst, hsecond, hwords _ hfirst, hsame _ _ hfirst hsecond, hagain⟩

end ReactScaffold.Text
