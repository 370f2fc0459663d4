import ReactScaffold.Proofs.Text.Reader

/-!
# Phrases

A phrase is looked for wherever it may stand in a text. The phrases that are looked for together
begin with the same character, at which the reader takes all of them up; it goes on with those that
the text goes on with. What is found is just what is part of the text: `Phrases.mem_read`.
-/

namespace ReactScaffold

/-- Phrases that begin with the same character. -/
structure Phrases (α : Type) where
  mark : Char
  all : List α
  rest : α → List Char

namespace Phrases

variable {α : Type} (P : Phrases α)

/-- The characters of a phrase. -/
def chars (a : α) : List Char := P.mark :: P.rest a

/-- The written form of a phrase. -/
def text (a : α) : String := String.ofList (P.chars a)

/-- Moves a phrase that has begun past a character, if it goes on with it. A phrase that has begun
stands with the characters that are missing. -/
def advance? (c : Char) : α × List Char → Option (α × List Char)
  | (a, d :: rest) => if d = c then some (a, rest) else none
  | (_, []) => none

/-- The phrases that have begun after one more character, those included that it completes. -/
def step (begun : List (α × List Char)) (c : Char) : List (α × List Char) :=
  begun.filterMap (advance? c) ++ if c = P.mark then P.all.map fun a => (a, P.rest a) else []

/-- The phrases that are complete, and those of which characters are missing. -/
def settle (begun : List (α × List Char)) : List α × List (α × List Char) :=
  match begun with
  | [] => ([], [])
  | _ :: _ => ((begun.filter fun b => b.2.isEmpty).map (·.1), begun.filter fun b => !b.2.isEmpty)

/-- The reader of the phrases. -/
def reader : Reader (List (α × List Char)) α where
  start := []
  step begun c := settle (P.step begun c)
  calm := [[]]

variable {P}

theorem settle_eq (begun : List (α × List Char)) :
    settle begun =
      ((begun.filter fun b => b.2.isEmpty).map (·.1), begun.filter fun b => !b.2.isEmpty) := by
  cases begun
  all_goals rfl

theorem mem_step {begun : List (α × List Char)} {c : Char} {a : α} {rest : List Char} :
    (a, rest) ∈ P.step begun c ↔ (a, c :: rest) ∈ begun ∨ a ∈ P.all ∧ P.chars a = c :: rest := by
  have hbegun : (a, rest) ∈ begun.filterMap (advance? c) ↔ (a, c :: rest) ∈ begun := by
    rw [List.mem_filterMap]
    constructor
    · rintro ⟨⟨b, cs⟩, hmem, hadvance⟩
      cases cs with
      | nil => cases hadvance
      | cons d cs =>
          obtain ⟨rfl, ⟨⟩⟩ := Option.ite_none_right_eq_some.1 hadvance
          exact hmem
    · exact fun h => ⟨(a, c :: rest), h, if_pos rfl⟩
  rw [step, List.mem_append, hbegun]
  refine or_congr_right ?_
  split_ifs with hc
  · simp [chars, hc]
  · simp [chars, Ne.symm hc]

theorem mem_complete {begun : List (α × List Char)} {a : α} :
    a ∈ (begun.filter fun b => b.2.isEmpty).map (·.1) ↔ (a, []) ∈ begun := by
  constructor
  · intro h
    obtain ⟨⟨b, rest⟩, hmem, rfl⟩ := List.mem_map.1 h
    obtain ⟨hmem, hempty⟩ := List.mem_filter.1 hmem
    obtain rfl := List.isEmpty_iff.1 hempty
    exact hmem
  · exact fun h => List.mem_map.2 ⟨(a, []), List.mem_filter.2 ⟨h, rfl⟩, rfl⟩

/-- A part of the phrase ends the text, and the rest of it is still to come. -/
def Begun (P : Phrases α) (cs : List Char) (a : α) (rest : List Char) : Prop :=
  a ∈ P.all ∧ ∃ part, part ≠ [] ∧ P.chars a = part ++ rest ∧ part <:+ cs

theorem not_begun_nil {a : α} {rest : List Char} : ¬ P.Begun [] a rest := by
  rintro ⟨-, part, hne, -, hpart⟩
  exact hne (List.suffix_nil.1 hpart)

/-- A phrase of which nothing is to come ends the text. -/
theorem begun_nil_iff {cs : List Char} {a : α} :
    P.Begun cs a [] ↔ a ∈ P.all ∧ P.chars a <:+ cs := by
  refine and_congr_right fun _ => ⟨?_, fun h => ⟨P.chars a, nofun, (List.append_nil _).symm, h⟩⟩
  rintro ⟨part, -, hchars, hpart⟩
  rwa [hchars, List.append_nil]

/-- With one more character a phrase goes on with it or begins with it. -/
theorem begun_concat_iff {cs : List Char} {c : Char} {a : α} {rest : List Char} :
    P.Begun (cs ++ [c]) a rest ↔ P.Begun cs a (c :: rest) ∨ a ∈ P.all ∧ P.chars a = c :: rest := by
  constructor
  · rintro ⟨hall, part, hne, hchars, hpart⟩
    rcases List.suffix_concat_iff.1 hpart with rfl | ⟨before, rfl, hbefore⟩
    · exact absurd rfl hne
    · rw [List.append_assoc, List.singleton_append] at hchars
      by_cases hnil : before = []
      · exact .inr ⟨hall, by rw [hchars, hnil, List.nil_append]⟩
      · exact .inl ⟨hall, before, hnil, hchars, hbefore⟩
  · rintro (⟨hall, part, -, hchars, hpart⟩ | ⟨hall, hchars⟩)
    · exact ⟨hall, part ++ [c], by simp, by simp [hchars],
        (List.suffix_append_inj_of_length_eq rfl).2 ⟨hpart, rfl⟩⟩
    · exact ⟨hall, [c], by simp, hchars, List.suffix_append _ _⟩

/-- After a text the phrases have begun of which a part ends the text, and those were found that
are part of it. -/
theorem mem_run (P : Phrases α) (cs : List Char) :
    (∀ a rest, (a, rest) ∈ (P.reader.run [] cs).2 ↔ P.Begun cs a rest ∧ rest ≠ []) ∧
      ∀ a, a ∈ (P.reader.run [] cs).1 ↔ a ∈ P.all ∧ P.chars a <:+: cs := by
  induction cs using List.reverseRecOn with
  | nil =>
      refine ⟨fun a rest => ⟨nofun, fun h => absurd h.1 not_begun_nil⟩, fun a => ⟨nofun, ?_⟩⟩
      rintro ⟨-, h⟩
      cases List.infix_nil.1 h
  | append_singleton cs c ih =>
      obtain ⟨hbegun, hfound⟩ := ih
      have hstep (a : α) (rest : List Char) :
          (a, rest) ∈ P.step (P.reader.run [] cs).2 c ↔ P.Begun (cs ++ [c]) a rest := by
        rw [mem_step, hbegun, begun_concat_iff, and_iff_left (List.cons_ne_nil c rest)]
      rw [Reader.run_append]
      refine ⟨fun a rest => ?_, fun a => ?_⟩
      · show (a, rest) ∈ (settle (P.step _ c)).2 ↔ _
        rw [settle_eq, List.mem_filter, hstep]
        simp
      · show a ∈ (P.reader.run [] cs).1 ++ ((settle (P.step _ c)).1 ++ []) ↔ _
        rw [settle_eq, List.append_nil, List.mem_append, mem_complete, hfound, hstep, begun_nil_iff,
          List.infix_concat_iff, ← and_or_left, or_comm]

/-- A phrase is found in a text just if it is part of the text. -/
theorem mem_read {a : α} (ha : a ∈ P.all) {content : String} :
    a ∈ P.reader.read content.toList ↔ (P.text a).toList <:+: content.toList := by
  rw [text, String.toList_ofList]
  exact ((mem_run P content.toList).2 a).trans (and_iff_right ha)

/-- No phrase begins with any other character. -/
theorem step_of_ne {c : Char} (h : c ≠ P.mark) : P.reader.step [] c = ([], []) := by
  show settle (P.step [] c) = _
  rw [step, if_neg h]
  rfl

end Phrases

end ReactScaffold
