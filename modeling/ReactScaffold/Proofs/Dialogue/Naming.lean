import ReactScaffold.Proofs.Dialogue.Query
import ReactScaffold.Proofs.Session.Exchange

/-!
# The two checks of a project name

A name is checked when it is typed and again among the answers of a project. The check at the
prompt overlooks a line feed at the end, the one of the answers does not. A typed line is stripped
before it is checked, so that a name which was accepted at the prompt is never turned down later.
-/

namespace ReactScaffold

open Text

/-! ## Names as words over an alphabet -/

/-- The characters of project names. -/
def nameAlphabet : List Char :=
  "ABCDEFGHIJKLMNOPQRSTUVWXYZabcdefghijklmnopqrstuvwxyz0123456789_-".toList

/-- The text is a word over the alphabet of names, and not the empty one. -/
def IsName (s : String) : Prop := s ≠ "" ∧ ∀ c ∈ s.toList, c ∈ nameAlphabet

instance (s : String) : Decidable (IsName s) := inferInstanceAs (Decidable (_ ∧ _))

theorem toNat_lt_of_isNameChar {c : Char} (h : isNameChar c = true) : c.toNat < 128 := by
  have hn : c.toNat = c.val.toNat := rfl
  simp only [isNameChar, Bool.or_eq_true, decide_eq_true_eq, Char.isAlphanum, Char.isAlpha,
    Char.isUpper, Char.isLower, Char.isDigit, Bool.and_eq_true, UInt32.le_iff_toNat_le] at h
  rcases h with (h | rfl) | rfl
  · simp at h
    omega
  · decide
  · decide

theorem mem_nameAlphabet {c : Char} : c ∈ nameAlphabet ↔ isNameChar c = true := by
  constructor
  · have hall : nameAlphabet.all isNameChar = true := by decide +kernel
    exact List.all_eq_true.1 hall c
  · have hall : ∀ n < 128, isNameChar (Char.ofNat n) = true → Char.ofNat n ∈ nameAlphabet := by
      decide +kernel
    intro h
    have hmem := hall c.toNat (toNat_lt_of_isNameChar h)
    rw [Char.ofNat_toNat] at hmem
    exact hmem h

theorem isProjectName_iff {s : String} : isProjectName s.toList = true ↔ IsName s := by
  simp only [isProjectName, Bool.and_eq_true, Bool.not_eq_true', List.isEmpty_eq_false_iff, ne_eq,
    String.toList_eq_nil_iff, List.all_eq_true, IsName, mem_nameAlphabet]

/-! ## The check at the prompt -/

/-- A text with a character that is not blank is not empty when it is stripped. -/
theorem stripBlank_ne_nil {cs : List Char} {c : Char} (hc : c ∈ cs) (hblank : isBlank c = false) :
    stripBlank cs ≠ [] := by
  intro hnil
  rw [stripBlank, List.reverse_eq_nil_iff, List.dropWhile_eq_nil_iff] at hnil
  have hrest : cs.dropWhile isBlank = [] := by
    cases hdrop : cs.dropWhile isBlank with
    | nil => rfl
    | cons first rest =>
        have hfirst : isBlank first = true := hnil first (by simp [hdrop])
        rw [head?_dropWhile_isBlank (by rw [hdrop]; rfl)] at hfirst
        cases hfirst
  rw [List.dropWhile_eq_nil_iff.1 hrest c hc] at hblank
  cases hblank

theorem dropFinalLineFeed_append (cs : List Char) : dropFinalLineFeed (cs ++ ['\n']) = cs := by
  rw [dropFinalLineFeed, List.getLast?_concat, if_pos rfl, List.dropLast_concat]

theorem isProjectName_dropFinalLineFeed {s : String}
    (h : isProjectName (dropFinalLineFeed s.toList) = true) :
    IsName s ∨ ∃ t, s = t ++ "\n" ∧ IsName t := by
  by_cases hlast : s.toList.getLast? = some '\n'
  · rw [dropFinalLineFeed, if_pos hlast] at h
    refine .inr ⟨String.ofList s.toList.dropLast, ?_, ?_⟩
    · rw [← String.toList_inj, String.toList_append, String.toList_ofList]
      exact (List.dropLast_append_getLast? '\n' hlast).symm
    · rwa [← isProjectName_iff, String.toList_ofList]
  · rw [dropFinalLineFeed, if_neg hlast] at h
    exact .inl (isProjectName_iff.1 h)

theorem IsName.exists_not_isBlank {s : String} (h : IsName s) :
    ∃ c ∈ s.toList, isBlank c = false := by
  obtain ⟨c, hc⟩ := List.exists_mem_of_ne_nil _ (mt String.toList_eq_nil_iff.1 h.1)
  exact ⟨c, hc, Session.isBlank_of_isNameChar (mem_nameAlphabet.1 (h.2 c hc))⟩

/-- The check at the prompt finds no fault with a name, and with one before a line feed. -/
theorem nameFault?_eq_none_iff {s : String} :
    nameFault? s = none ↔ IsName s ∨ ∃ t, s = t ++ "\n" ∧ IsName t := by
  have hfault : nameFault? s = none ↔ stripBlank s.toList ≠ [] ∧
      (isProjectName s.toList = true ∨ isProjectName (dropFinalLineFeed s.toList) = true) := by
    unfold nameFault?
    split_ifs with hempty hname <;> simp_all
  rw [hfault]
  constructor
  · rintro ⟨-, hname | hname⟩
    · exact .inl (isProjectName_iff.1 hname)
    · exact isProjectName_dropFinalLineFeed hname
  · rintro (hname | ⟨t, rfl, hname⟩)
    · obtain ⟨c, hc, hblank⟩ := hname.exists_not_isBlank
      exact ⟨stripBlank_ne_nil hc hblank, .inl (isProjectName_iff.2 hname)⟩
    · obtain ⟨c, hc, hblank⟩ := hname.exists_not_isBlank
      rw [String.toList_append]
      refine ⟨stripBlank_ne_nil (List.mem_append_left _ hc) hblank, .inr ?_⟩
      rw [show "\n".toList = ['\n'] from rfl, dropFinalLineFeed_append]
      exact isProjectName_iff.2 hname

/-! ## The check of the answers -/

namespace Checked

variable {α β : Type}

/-- The check found a value and no issues. -/
def Passes (c : Checked α) : Prop := ∃ a, c = pass a

theorem passes_map {f : α → β} {c : Checked α} : (c.map f).Passes ↔ c.Passes := by
  obtain ⟨value?, issues⟩ := c
  cases value? <;> simp [Passes, map, pass]

theorem passes_app {f : Checked (α → β)} {c : Checked α} :
    (f.app c).Passes ↔ f.Passes ∧ c.Passes := by
  obtain ⟨function?, before⟩ := f
  obtain ⟨value?, after⟩ := c
  cases function? <;> cases value? <;> simp [Passes, app, pass]

theorem passes_iff_get {c : Checked α} {type : String} : c.Passes ↔ ∃ a, c.get type = .ok a := by
  obtain ⟨value?, issues⟩ := c
  cases value? <;> cases issues <;> simp [Passes, get, pass]

end Checked

open Checked

theorem passes_readName {path : List Locator} {s : String} :
    (readName path (.str s)).Passes ↔ IsName s := by
  rw [← isProjectName_iff]
  by_cases h : isProjectName s.toList = true
  · exact iff_of_true ⟨_, Project.readName_text path ⟨s, h⟩⟩ h
  · refine iff_of_false ?_ h
    rw [readName, ProjectName.ofText?, dif_neg h]
    rintro ⟨name, hpass⟩
    cases hpass

/-- With the text for a name, the answers describe a project. -/
def Answers.Take (answers : Answers) (s : String) : Prop :=
  ∃ p, Project.ofAnswers (OrderedMap.insert answers "project_name" (.str s)) = .ok p

/-- The answers other than the name are read without regard to it. -/
theorem memberOr_insert_name {α : Type} (answers : Answers) (v : Json String) {name : String}
    (h : name ≠ "project_name") (default : α) (read : List Locator → Json String → Checked α) :
    memberOr (OrderedMap.insert answers "project_name" v) [] name default read =
      memberOr answers [] name default read := by
  rw [memberOr, memberOr, OrderedMap.get?_insert_of_ne answers v h.symm]

/-- A text is taken for the name where it is one, and the other answers are as they should be. -/
theorem Answers.exists_take_iff (answers : Answers) :
    ∃ others : Prop, ∀ s, answers.Take s ↔ IsName s ∧ others := by
  have htake (s : String) : answers.Take s ↔
      (Project.check (OrderedMap.insert answers "project_name" (.str s))).Passes :=
    passes_iff_get.symm
  simp (disch := decide) only [htake, Project.check, passes_app, passes_map, requiredMember,
    OrderedMap.get?_insert_self, memberOr_insert_name, passes_readName, and_assoc]
  exact ⟨_, fun s => Iff.rfl⟩

/-- Whether a text is taken for the name does not depend on the other answers. -/
theorem Answers.take_iff (answers : Answers) (s : String) :
    answers.Take s ↔ IsName s ∧ ∃ t, answers.Take t := by
  obtain ⟨others, hothers⟩ := answers.exists_take_iff
  constructor
  · exact fun h => ⟨((hothers s).1 h).1, s, h⟩
  · rintro ⟨hname, t, ht⟩
    exact (hothers s).2 ⟨hname, ((hothers t).1 ht).2⟩

/-- The answers of a project take exactly the names. -/
theorem Project.take_toAnswers_iff (p : Project) (s : String) :
    p.toAnswers.Take s ↔ IsName s := by
  rw [Answers.take_iff, and_iff_left]
  exact ⟨p.name.text, _, p.ofAnswers_insert_name p.name⟩

/-! ## Asking for a name -/

/-- The event that rejects a line which holds no name. -/
def rejectedName (line : String) : Event :=
  .error (if strip line = "" then NameFault.empty else .characters).message

theorem accept_nameQuestion_eq (line : String) :
    nameQuestion.accept line =
      if IsName (strip line) then .ok (strip line) else .error (rejectedName line) := by
  simp only [nameQuestion, nameFault?_strip, isProjectName_iff, rejectedName, List.isEmpty_iff,
    String.toList_eq_nil_iff]
  split_ifs <;> rfl

/-- How typed lines answer the question for a name once some of them are rejected: the next one
holds a name, the user leaves, or there are no more. -/
inductive NameAnswered (rejected : List String) :
    List (Option String) → Except Failure String → List (Option String) → Prop where
  | accepted (line : String) (rest : List (Option String)) (h : IsName (strip line)) :
      NameAnswered rejected (rejected.map some ++ some line :: rest) (.ok (strip line)) rest
  | left (rest : List (Option String)) :
      NameAnswered rejected (rejected.map some ++ none :: rest) (.error (.fault .interrupted)) rest
  | ended : NameAnswered rejected (rejected.map some) (.error (.fault .endOfInput)) []

theorem NameAnswered.isName {rejected : List String} {lines left : List (Option String)}
    {name : String} (h : NameAnswered rejected lines (.ok name) left) : IsName name := by
  cases h
  assumption

/-- One run of the question for a name: the lines that it rejects, and how it is answered. -/
structure AsksForName (s t : Session) (result : Except Failure String) (rejected : List String) :
    Prop where
  perform_eq : nameQuestion.ask.perform s = (result, t)
  not_isName : ∀ line ∈ rejected, ¬ IsName (strip line)
  answered : NameAnswered rejected s.input result t.input
  shown : t.shown = s.shown ++
    rejected.flatMap (fun line => [.prompt "Project name: ", rejectedName line]) ++
      [.prompt "Project name: "]

theorem nameAnswered_put (rejected : List String) {rest : List (Option String)}
    (hrest : ∀ line more, rest = some line :: more → IsName (strip line)) :
    NameAnswered rejected (rejected.map some ++ rest) (nameQuestion.put rest).2.1
        (nameQuestion.put rest).2.2 ∧
      (nameQuestion.put rest).1 = [.prompt "Project name: "] := by
  cases rest with
  | nil =>
      rw [List.append_nil, Question.put]
      exact ⟨.ended, rfl⟩
  | cons first rest =>
      cases first with
      | none =>
          rw [Question.put]
          exact ⟨.left rest, rfl⟩
      | some line =>
          have hline := hrest line rest rfl
          rw [Question.put, accept_nameQuestion_eq, if_pos hline]
          exact ⟨.accepted line rest hline, rfl⟩

theorem exists_asksForName (s : Session) :
    ∃ result t rejected, AsksForName s t result rejected := by
  obtain ⟨rejected, rest, hlines, hrejected, hrest⟩ := nameQuestion.exists_rejected s.input
  have hnot : ∀ line ∈ rejected, ¬ IsName (strip line) := fun line hline hname => by
    obtain ⟨e, he⟩ := hrejected line hline
    rw [accept_nameQuestion_eq, if_pos hname] at he
    cases he
  have hname : ∀ line more, rest = some line :: more → IsName (strip line) := by
    intro line more hmore
    obtain ⟨name, hname⟩ := hrest line more hmore
    by_contra hnone
    rw [accept_nameQuestion_eq, if_neg hnone] at hname
    cases hname
  have hput := nameQuestion.put_rejected
    (fun line hline => (accept_nameQuestion_eq line).trans (if_neg (hnot line hline))) rest
  obtain ⟨hanswered, hshown⟩ := nameAnswered_put rejected hname
  rw [← hlines] at hput hanswered
  have hperform := nameQuestion.perform_ask s
  rw [hput, hshown] at hperform
  exact ⟨_, _, rejected, hperform, hnot, hanswered, (List.append_assoc _ _ _).symm⟩

/-! ## The two checks -/

/-- The two checks of a name agree up to one line feed at the end, and the loop that asks for a
name goes by both of them. -/
structure NameChecksAgree : Prop where
  typed_iff (s : String) : nameFault? s = none ↔ IsName s ∨ ∃ t, s = t ++ "\n" ∧ IsName t
  answered_iff (p : Project) (s : String) : p.toAnswers.Take s ↔ IsName s
  answered_with_iff (answers : Answers) (s : String) :
    answers.Take s ↔ IsName s ∧ ∃ t, answers.Take t
  differ_iff (p : Project) (s : String) :
    ¬ (nameFault? s = none ↔ p.toAnswers.Take s) ↔ ∃ t, s = t ++ "\n" ∧ IsName t
  asked (s : Session) : ∃ result t rejected, AsksForName s t result rejected ∧
    (∀ name, result = .ok name → ∀ p : Project, p.toAnswers.Take name) ∧
    ∀ line ∈ rejected, ∀ p : Project, ¬ p.toAnswers.Take (strip line)

theorem not_isName_append_lineFeed (t : String) : ¬ IsName (t ++ "\n") := by
  intro h
  have hmem : '\n' ∈ (t ++ "\n").toList := by simp
  have hchar := mem_nameAlphabet.1 (h.2 _ hmem)
  cases hchar

theorem nameChecks_agree : NameChecksAgree where
  typed_iff _ := nameFault?_eq_none_iff
  answered_iff := Project.take_toAnswers_iff
  answered_with_iff := Answers.take_iff
  differ_iff p s := by
    rw [nameFault?_eq_none_iff, p.take_toAnswers_iff]
    constructor
    · intro h
      by_contra hnot
      exact h (or_iff_left hnot)
    · rintro ⟨t, rfl, hname⟩ h
      exact not_isName_append_lineFeed t (h.1 (.inr ⟨t, rfl, hname⟩))
  asked s := by
    obtain ⟨result, t, rejected, h⟩ := exists_asksForName s
    refine ⟨result, t, rejected, h, ?_, ?_⟩
    · rintro name rfl p
      rw [p.take_toAnswers_iff]
      exact h.answered.isName
    · intro line hline p
      rw [p.take_toAnswers_iff]
      exact h.not_isName line hline

example : nameFault? "my-app\n" = none ∧ ¬ isProjectName "my-app\n".toList := by decide

end ReactScaffold
