import ReactScaffold.Host.Disk
import Mathlib

/-!
# Texts of relative paths

Plain names that are joined by slashes make the text of a path, and the path that is read from the
text goes from the working directory along these names. Such a text is within the limits of the
operating system as long as it is short.
-/

namespace ReactScaffold

theorem splitSlashes_eq_splitOn (cs : List Char) : splitSlashes cs = cs.splitOn '/' := by
  induction cs with
  | nil => rfl
  | cons c cs ih =>
      rw [List.splitOn_cons_eq_if_modifyHead, splitSlashes.eq_def]
      dsimp only
      rw [ih]
      have hne : cs.splitOn '/' ≠ [] := List.splitOn_ne_nil '/' cs
      generalize cs.splitOn '/' = parts at hne ⊢
      split
      · rfl
      · exact absurd rfl hne
      · rename_i hc
        rw [if_neg (by simpa using hc)]
        rfl

theorem anchorOf_of_ne {cs : List Char} (h : cs.head? ≠ some '/') : anchorOf cs = .here := by
  cases cs with
  | nil => rfl
  | cons c cs =>
      have hc : c ≠ '/' := fun he => h (congrArg some he)
      unfold anchorOf
      split
      all_goals first | rfl | simp_all

/-- Whether a plain name may hold the character. -/
def isPlainChar (c : Char) : Bool := c.isAlphanum || c == '.' || c == '_' || c == '-'

/-- Whether the characters are a name that needs no care: nothing but letters, digits, dots,
underscores and hyphens, and at least one letter or digit. -/
def isPlainName (cs : List Char) : Bool := cs.any Char.isAlphanum && cs.all isPlainChar

section PlainName

variable {cs : List Char}

theorem ne_of_isPlainName (h : isPlainName cs = true) {ds : List Char}
    (hds : ds.any Char.isAlphanum = false) : cs ≠ ds := by
  rintro rfl
  rw [isPlainName, hds] at h
  cases h

theorem notMem_of_isPlainName (h : isPlainName cs = true) {c : Char}
    (hc : isPlainChar c = false) : c ∉ cs := by
  intro hmem
  rw [isPlainName, Bool.and_eq_true] at h
  rw [List.all_eq_true.1 h.2 c hmem] at hc
  cases hc

theorem isPathPart_of_isPlainName (h : isPlainName cs = true) : isPathPart cs = true := by
  have hempty : cs ≠ [] := ne_of_isPlainName h rfl
  have hdot : cs ≠ ['.'] := ne_of_isPlainName h rfl
  simp [isPathPart, hempty, hdot]

theorem isPlainName_append (h : isPlainName cs = true) {ds : List Char}
    (hds : ds.all isPlainChar = true) : isPlainName (cs ++ ds) = true := by
  rw [isPlainName, Bool.and_eq_true] at h ⊢
  rw [List.any_append, List.all_append, h.1, h.2, hds]
  exact ⟨rfl, rfl⟩

end PlainName

theorem mem_of_mem_intercalate {α : Type} {sep : List α} {parts : List (List α)} {x : α}
    (h : x ∈ sep.intercalate parts) : x ∈ sep ∨ ∃ part ∈ parts, x ∈ part := by
  induction parts with
  | nil => simp at h
  | cons part parts ih =>
      by_cases hparts : parts = []
      · subst hparts
        exact .inr ⟨part, List.mem_cons_self, by simpa using h⟩
      · rw [List.intercalate_cons_of_ne_nil hparts, List.mem_append, List.mem_append] at h
        rcases h with (hpart | hsep) | hrest
        · exact .inr ⟨part, List.mem_cons_self, hpart⟩
        · exact .inl hsep
        · rcases ih hrest with hsep | ⟨other, hother, hx⟩
          · exact .inl hsep
          · exact .inr ⟨other, List.mem_cons_of_mem _ hother, hx⟩

theorem mem_intercalate_of_mem {α : Type} {sep part : List α} {parts : List (List α)} {x : α}
    (hpart : part ∈ parts) (hx : x ∈ part) : x ∈ sep.intercalate parts := by
  induction parts with
  | nil => cases hpart
  | cons first rest ih =>
      by_cases hrest : rest = []
      · subst hrest
        rw [List.mem_singleton.1 hpart] at hx
        simpa using hx
      · rw [List.intercalate_cons_of_ne_nil hrest, List.mem_append]
        rcases List.mem_cons.1 hpart with rfl | hmem
        · exact .inl (List.mem_append_left _ hx)
        · exact .inr (ih hmem)

theorem mem_of_mem_splitSlashes {cs part : List Char} {c : Char} (hpart : part ∈ splitSlashes cs)
    (hc : c ∈ part) : c ∈ cs := by
  induction cs generalizing part with
  | nil =>
      rw [List.mem_singleton.1 hpart] at hc
      cases hc
  | cons d cs ih =>
      unfold splitSlashes at hpart
      split at hpart
      · rcases List.mem_cons.1 hpart with rfl | hmem
        · cases hc
        · exact List.mem_cons_of_mem _ (ih hmem hc)
      · rw [List.mem_singleton.1 hpart] at hc
        rw [List.mem_singleton.1 hc]
        exact List.mem_cons_self
      · rename_i first rest _ hsplit
        rcases List.mem_cons.1 hpart with rfl | hmem
        · rcases List.mem_cons.1 hc with rfl | hfirst
          · exact List.mem_cons_self
          · exact List.mem_cons_of_mem _ (ih (by rw [hsplit]; exact List.mem_cons_self) hfirst)
        · exact List.mem_cons_of_mem _ (ih (by rw [hsplit]; exact List.mem_cons_of_mem _ hmem) hc)

theorem utf8ByteSize_le_length (s : String) : s.utf8ByteSize ≤ 4 * s.length := by
  obtain ⟨cs, rfl⟩ : ∃ cs, s = String.ofList cs := ⟨s.toList, String.ofList_toList.symm⟩
  induction cs with
  | nil => decide
  | cons c cs ih =>
      rw [String.length_ofList] at ih ⊢
      rw [String.ofList_cons, String.utf8ByteSize_append, String.utf8ByteSize_singleton,
        List.length_cons]
      have hc := c.utf8Size_le_four
      omega

theorem utf8ByteSize_intercalate_append (sep : String) (first rest : List String) :
    (sep.intercalate first).utf8ByteSize + (sep.intercalate rest).utf8ByteSize ≤
      (sep.intercalate (first ++ rest)).utf8ByteSize := by
  by_cases hfirst : first = []
  · simp [hfirst]
  · by_cases hrest : rest = []
    · simp [hrest]
    · rw [String.intercalate_append_of_ne_nil hfirst hrest]
      simp only [String.utf8ByteSize_append]
      omega

theorem utf8ByteSize_le_intercalate (sep : String) {s : String} {ss : List String} (h : s ∈ ss) :
    s.utf8ByteSize ≤ (sep.intercalate ss).utf8ByteSize := by
  induction ss with
  | nil => cases h
  | cons t ss ih =>
      rcases List.mem_cons.1 h with rfl | hmem
      · have hsize := utf8ByteSize_intercalate_append sep [s] ss
        rw [String.intercalate_singleton] at hsize
        exact (Nat.le_add_right _ _).trans hsize
      · have hne : ss ≠ [] := List.ne_nil_of_mem hmem
        rw [String.intercalate_cons_of_ne_nil hne]
        simp only [String.utf8ByteSize_append]
        have := ih hmem
        omega

namespace Path

/-- The text joins plain names by slashes and has at most so many characters. -/
structure Spells (limit : Nat) (text : String) (names : List String) : Prop where
  text_eq : text = "/".intercalate names
  nonempty : names ≠ []
  plain (name : String) (h : name ∈ names) : isPlainName name.toList = true
  short : text.length ≤ limit

theorem spells_ofList {limit : Nat} (cs : List Char)
    (hplain : (splitSlashes cs).all isPlainName = true) (hshort : cs.length ≤ limit) :
    Spells limit (String.ofList cs) ((splitSlashes cs).map String.ofList) where
  text_eq := by
    apply String.toList_injective
    have hid : String.toList ∘ String.ofList = id := funext fun _ => String.toList_ofList
    rw [String.toList_ofList, String.toList_intercalate, List.map_map, hid, List.map_id,
      splitSlashes_eq_splitOn]
    exact (List.intercalate_splitOn '/').symm
  nonempty := by
    rw [splitSlashes_eq_splitOn]
    simp
  plain name h := by
    obtain ⟨part, hpart, rfl⟩ := List.mem_map.1 h
    rw [String.toList_ofList]
    exact List.all_eq_true.1 hplain part hpart
  short := by rwa [String.length_ofList]

variable {limit : Nat} {text : String} {names : List String}

theorem Spells.mono (h : Spells limit text names) {limit' : Nat} (hle : limit ≤ limit') :
    Spells limit' text names := ⟨h.text_eq, h.nonempty, h.plain, h.short.trans hle⟩

/-- The last name of a path may be made longer. -/
theorem Spells.extend {init : List String} {last : String}
    (h : Spells limit text (init ++ [last])) {more : String}
    (hmore : more.toList.all isPlainChar = true) :
    Spells (limit + more.length) (text ++ more) (init ++ [last ++ more]) where
  text_eq := by
    rw [h.text_eq]
    by_cases hinit : init = []
    · simp [hinit]
    · rw [String.intercalate_append_of_ne_nil hinit (by simp),
        String.intercalate_append_of_ne_nil hinit (by simp)]
      simp [String.append_assoc]
  nonempty := by simp
  plain name hname := by
    rcases List.mem_append.1 hname with hmem | hmem
    · exact h.plain name (List.mem_append_left _ hmem)
    · obtain rfl := List.mem_singleton.1 hmem
      rw [String.toList_append]
      exact isPlainName_append (h.plain last (by simp)) hmore
  short := by
    rw [String.length_append]
    exact Nat.add_le_add_right h.short _

theorem Spells.splitSlashes_eq (h : Spells limit text names) :
    splitSlashes text.toList = names.map String.toList := by
  have hslash : ∀ cs ∈ names.map String.toList, '/' ∉ cs := by
    intro cs hcs
    obtain ⟨name, hname, rfl⟩ := List.mem_map.1 hcs
    exact notMem_of_isPlainName (h.plain name hname) rfl
  have htext : text.toList = ['/'].intercalate (names.map String.toList) := by
    rw [h.text_eq, String.toList_intercalate]
    rfl
  rw [splitSlashes_eq_splitOn, htext]
  exact List.splitOn_intercalate '/' hslash (by simpa using h.nonempty)

/-- A text that spells names is read as the path along these names. -/
theorem Spells.ofText_eq (h : Spells limit text names) : ofText text = ⟨.here, names⟩ := by
  have hfilter : (splitSlashes text.toList).filter isPathPart = names.map String.toList := by
    rw [h.splitSlashes_eq, List.filter_eq_self]
    intro cs hcs
    obtain ⟨name, hname, rfl⟩ := List.mem_map.1 hcs
    exact isPathPart_of_isPlainName (h.plain name hname)
  have hanchor : anchorOf text.toList = .here := by
    refine anchorOf_of_ne fun hhead => ?_
    obtain ⟨cs, hcs⟩ := List.head?_eq_some_iff.1 hhead
    have hsplit := h.splitSlashes_eq
    rw [hcs, splitSlashes] at hsplit
    have hempty : [] ∈ names.map String.toList := by
      rw [← hsplit]
      exact List.mem_cons_self
    obtain ⟨name, hname, hnil⟩ := List.mem_map.1 hempty
    exact ne_of_isPlainName (h.plain name hname) rfl hnil
  have hid : String.ofList ∘ String.toList = id := funext fun _ => String.ofList_toList
  rw [ofText, hfilter, hanchor, List.map_map, hid, List.map_id]

theorem text_here (h : names ≠ []) : (⟨.here, names⟩ : Path).text = "/".intercalate names := by
  rw [Path.text, if_neg (by simpa using h)]
  exact String.empty_append

/-- What a text spells can be handed to the operating system. -/
theorem Spells.notMem_text (h : Spells limit text names) :
    '\x00' ∉ (⟨.here, names⟩ : Path).text.toList := by
  rw [text_here h.nonempty, String.toList_intercalate]
  intro hmem
  rcases mem_of_mem_intercalate hmem with hsep | ⟨cs, hcs, hzero⟩
  · revert hsep
    decide
  · obtain ⟨name, hname, rfl⟩ := List.mem_map.1 hcs
    exact notMem_of_isPlainName (h.plain name hname) rfl hzero

/-- Each of the names leads downwards and is short. -/
def Downward (names : List String) : Prop :=
  ∀ name ∈ names, name ≠ ".." ∧ name.utf8ByteSize ≤ maxNameOctets

/-- The path along any first of the names can be handed to the operating system. -/
def Short (names : List String) : Prop :=
  ∀ first, first <+: names → (⟨.here, first⟩ : Path).text.utf8ByteSize ≤ maxPathOctets

/-- Names that can be followed one after the other from a directory. -/
structure Fits (names : List String) : Prop where
  downward : Downward names
  short : Short names

theorem fits_nil : Fits [] where
  downward name hname := by cases hname
  short first hfirst := by
    rw [List.prefix_nil.1 hfirst]
    decide

theorem Fits.of_prefix (h : Fits names) {first : List String} (hfirst : first <+: names) :
    Fits first where
  downward name hname := h.downward name (hfirst.subset hname)
  short begun hbegun := h.short begun (hbegun.trans hfirst)

theorem Spells.utf8ByteSize_le (h : Spells 60 text names) :
    ("/".intercalate names).utf8ByteSize ≤ 240 := by
  have hsize := utf8ByteSize_le_length text
  have hshort := h.short
  rw [h.text_eq] at hsize hshort
  omega

theorem Spells.downward (h : Spells 60 text names) : Downward names := by
  intro name hname
  refine ⟨?_, ?_⟩
  · rintro rfl
    exact ne_of_isPlainName (h.plain _ hname) rfl rfl
  · have htext := h.utf8ByteSize_le
    have hpart := utf8ByteSize_le_intercalate "/" hname
    unfold maxNameOctets
    omega

/-- Sixty characters are well within the limits. -/
theorem Spells.fits (h : Spells 60 text names) : Fits names := by
  refine ⟨h.downward, fun first hfirst => ?_⟩
  by_cases hempty : first = []
  · subst hempty
    decide
  · obtain ⟨rest, rfl⟩ := hfirst
    have htext := h.utf8ByteSize_le
    have hpart := utf8ByteSize_intercalate_append "/" first rest
    rw [text_here hempty]
    unfold maxPathOctets
    omega

end Path

end ReactScaffold
