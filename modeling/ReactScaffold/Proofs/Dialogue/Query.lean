import ReactScaffold.Dialogue.Collect
import ReactScaffold.Proofs.Project.Saved
import ReactScaffold.Proofs.Text.Blank
import Mathlib

/-!
# Queries

A query is what is asked for one answer of a project: its name, one of some words, or a yes or a
no. It says by itself which lines are acceptable and which values they stand for. The questions of
the dialogue are the queries, up to the type of the value that they come to: `ask_ofAxis`,
`ask_switch` and `ask_name`.
-/

namespace ReactScaffold

open Text

/-! ## Queries -/

/-- What is asked for one answer of a project. An empty line stands for the default word, or for
no; for the name it stands for nothing. -/
inductive Query where
  | name
  | choice (text axis : String) (words : List String) (default : String)
  | switch (text : String)

namespace Query

/-- The query for a choice. -/
def ofAxis {α : Type} [Axis α] (text : String) (default : α) : Query :=
  .choice text (Axis.name α) (Axis.values α) (Axis.value default)

/-- How the query is put. -/
def prompt : Query → String
  | name => "Project name: "
  | choice text _ words default =>
    text ++ " [" ++ "/".intercalate words ++ "] (" ++ default ++ "): "
  | switch text => text ++ " [y/n] (n): "

/-- The value that a typed line stands for, if the line is acceptable. -/
def accept? : Query → String → Option (Json String)
  | name, line => if isProjectName (strip line).toList then some (.str (strip line)) else none
  | choice _ _ words default, line =>
    if line = "" then some (.str default)
    else if strip line ∈ words then some (.str (strip line))
    else none
  | switch _, line =>
    if line = "" then some (.bool false)
    else if lower (strip line) = "y" then some (.bool true)
    else if lower (strip line) = "n" then some (.bool false)
    else none

/-- The event that answers a line which is not acceptable. -/
def rejection : Query → String → Event
  | name, line =>
    .error (if (strip line).toList.isEmpty then NameFault.empty else .characters).message
  | choice _ _ _ _, _ => notAChoice
  | switch _, _ => notYesOrNo

/-- The query as a question of the dialogue. -/
def question (q : Query) : Question (Json String) where
  prompt := q.prompt
  accept line :=
    match q.accept? line with
    | some v => .ok v
    | none => .error (q.rejection line)

/-- Whether the value can be given as an answer. -/
def admits : Query → Json String → Bool
  | choice _ _ words _, .str word => words.contains word
  | choice _ _ _ _, _ => false
  | _, _ => true

/-- What a value that is given is kept as. -/
def keep : Query → Json String → Json String
  | switch _, v => .bool v.truthy
  | _, v => v

/-- Takes a value that is given. -/
def take (q : Query) (v : Json String) : Except Failure (Json String) :=
  match q with
  | choice _ axis _ _ => if q.admits v then .ok v else .error (.fault (.unknownChoice ⟨v, axis⟩))
  | _ => .ok (q.keep v)

/-- What the answer is when nobody is there to be asked. -/
def unattended : Query → Except Failure (Json String)
  | name => .error (.scaffold
      (.invalidConfiguration "project_name" "a project name is required without prompts"))
  | choice _ _ _ default => .ok (.str default)
  | switch _ => .ok (.bool false)

theorem take_of_admits {q : Query} {v : Json String} (h : q.admits v = true) :
    q.take v = .ok (q.keep v) := by
  cases q with
  | choice text axis words default => exact if_pos h
  | name | switch => rfl

/-- An empty line is the answer of nobody. -/
theorem accept?_empty {q : Query} (h : q ≠ name) : (q.accept? "").map .ok = some q.unattended := by
  cases q with
  | name => exact absurd rfl h
  | choice | switch => rfl

end Query

/-! ## The questions of the dialogue -/

/-- A line without blanks at its ends has no line feed at its end. -/
theorem dropFinalLineFeed_stripBlank (cs : List Char) :
    dropFinalLineFeed (stripBlank cs) = stripBlank cs := by
  refine if_neg fun hlast => ?_
  have hblank : isBlank '\n' = true := by decide
  rw [getLast?_stripBlank hlast] at hblank
  cases hblank

/-- A name that is stripped is judged by its characters alone. -/
theorem nameFault?_strip (line : String) :
    nameFault? (strip line) =
      if isProjectName (strip line).toList then none
      else some (if (strip line).toList.isEmpty then .empty else .characters) := by
  have hstrip : (strip line).toList = stripBlank line.toList := String.toList_ofList
  have hempty : isProjectName ([] : List Char) = false := rfl
  simp only [nameFault?, hstrip, stripBlank_stripBlank, dropFinalLineFeed_stripBlank, Bool.or_self]
  cases hcs : stripBlank line.toList with
  | nil => simp [hempty]
  | cons c cs => simp

namespace Question

variable {α β : Type} {q : Question α} {r : Question β}

theorem put_map (f : α → β) (hprompt : r.prompt = q.prompt)
    (haccept : ∀ line, r.accept line = (q.accept line).map f) (lines : List (Option String)) :
    r.put lines = ((q.put lines).1, (q.put lines).2.1.map f, (q.put lines).2.2) := by
  induction lines with
  | nil => simp [put, hprompt, Except.map]
  | cons line lines ih =>
    cases line with
    | none => simp [put, hprompt, Except.map]
    | some line =>
      rw [put, put, haccept, hprompt]
      cases q.accept line with
      | ok a => rfl
      | error rejection => simp [Except.map, ih]

/-- Lines that are rejected are answered, each on its own, and passed over. -/
theorem put_rejected {answer : String → Event} {rejected : List String}
    (h : ∀ line ∈ rejected, q.accept line = .error (answer line)) (rest : List (Option String)) :
    q.put (rejected.map some ++ rest) =
      (rejected.flatMap (fun line => [.prompt q.prompt, answer line]) ++ (q.put rest).1,
        (q.put rest).2) := by
  induction rejected with
  | nil => rfl
  | cons line rejected ih =>
    rw [List.forall_mem_cons] at h
    rw [List.map_cons, List.cons_append, put, h.1, ih h.2]
    rfl

/-- Typed lines begin with those that are rejected. -/
theorem exists_rejected (q : Question α) (lines : List (Option String)) :
    ∃ (rejected : List String) (rest : List (Option String)),
      lines = rejected.map some ++ rest ∧ (∀ line ∈ rejected, ∃ e, q.accept line = .error e) ∧
      ∀ line more, rest = some line :: more → ∃ a, q.accept line = .ok a := by
  induction lines with
  | nil => exact ⟨[], [], rfl, fun _ h => (by cases h), fun _ _ h => by cases h⟩
  | cons first lines ih =>
    cases first with
    | none => exact ⟨[], none :: lines, rfl, fun _ h => (by cases h), fun _ _ h => by cases h⟩
    | some line =>
      cases haccept : q.accept line with
      | ok a =>
        refine ⟨[], some line :: lines, rfl, fun _ h => (by cases h), fun _ _ h => ?_⟩
        cases h
        exact ⟨a, haccept⟩
      | error e =>
        obtain ⟨rejected, rest, rfl, hrejected, hrest⟩ := ih
        exact ⟨line :: rejected, rest, rfl,
          List.forall_mem_cons.2 ⟨⟨e, haccept⟩, hrejected⟩, hrest⟩

theorem perform_ask (q : Question α) (s : Session) :
    q.ask.perform s = ((q.put s.input).2.1,
      { s with shown := s.shown ++ (q.put s.input).1, input := (q.put s.input).2.2 }) := by
  rw [ask, Action.perform_bind, Action.perform_modifyGet]
  simp only [Action.perform_ofExcept]
  cases (q.put s.input).2.1 <;> rfl

/-- A question that accepts the same lines for other values is the question, its value mapped. -/
theorem ask_map (f : α → β) (hprompt : r.prompt = q.prompt)
    (haccept : ∀ line, r.accept line = (q.accept line).map f) : r.ask = f <$> q.ask := by
  funext s
  show r.ask.perform s = (f <$> q.ask).perform s
  rw [Action.perform_map, perform_ask, perform_ask, put_map f hprompt haccept]

end Question

theorem ofValue?_of_mem {α : Type} [Axis α] {word : String} (h : word ∈ Axis.values α) :
    ∃ a, Axis.ofValue? α word = some a ∧ Axis.value a = word := by
  obtain ⟨a, ha, rfl⟩ := List.mem_map.1 h
  cases hfind : Axis.ofValue? α (Axis.value a) with
  | none => exact absurd (List.find?_eq_none.1 hfind a ha) (by simp)
  | some b => exact ⟨b, rfl, by simpa using List.find?_some hfind⟩

theorem ofValue?_of_notMem {α : Type} [Axis α] {word : String} (h : word ∉ Axis.values α) :
    Axis.ofValue? α word = none :=
  List.find?_eq_none.2 fun a ha hvalue => h (List.mem_map.2 ⟨a, ha, by simpa using hvalue⟩)

namespace Query

theorem ask_ofAxis {α : Type} [Axis α] (text : String) (default : α) :
    (ofAxis text default).question.ask =
      (fun a => .str (Axis.value a)) <$> (choiceQuestion text default).ask := by
  refine Question.ask_map _ rfl fun line => ?_
  simp only [question, choiceQuestion, ofAxis, accept?, rejection, String.isEmpty_iff]
  by_cases hempty : line = ""
  · simp only [if_pos hempty]
    rfl
  · simp only [if_neg hempty]
    by_cases hword : strip line ∈ Axis.values α
    · obtain ⟨a, hvalue, ha⟩ := ofValue?_of_mem hword
      rw [if_pos hword, hvalue, ← ha]
      rfl
    · rw [if_neg hword, ofValue?_of_notMem hword]
      rfl

theorem ask_switch (text : String) :
    (switch text).question.ask = .bool <$> (switchQuestion text).ask := by
  refine Question.ask_map _ rfl fun line => ?_
  simp only [question, switchQuestion, accept?, rejection, String.isEmpty_iff]
  split_ifs <;> rfl

theorem ask_name : name.question.ask = .str <$> nameQuestion.ask := by
  refine Question.ask_map _ rfl fun line => ?_
  simp only [question, nameQuestion, accept?, rejection, nameFault?_strip]
  split_ifs <;> rfl

theorem take_ofAxis {α : Type} [Axis α] (text : String) (default : α) (v : Json String) :
    Action.ofExcept id ((ofAxis text default).take v) =
      (fun a => .str (Axis.value a)) <$> takeChoice α v := by
  cases v with
  | str word =>
    by_cases hword : word ∈ Axis.values α
    · obtain ⟨a, hvalue, ha⟩ := ofValue?_of_mem hword
      have hadmits : (ofAxis text default).admits (.str word) = true :=
        List.contains_iff_mem.2 hword
      rw [take_of_admits hadmits, takeChoice, Axis.choose, hvalue, ← ha]
      rfl
    · have hadmits : (ofAxis text default).admits (.str word) = false :=
        Bool.eq_false_iff.2 fun h => hword (List.contains_iff_mem.1 h)
      have htake : (ofAxis text default).take (.str word) =
          .error (.fault (.unknownChoice ⟨.str word, Axis.name α⟩)) := if_neg (by simp [hadmits])
      rw [htake, takeChoice, Axis.choose, ofValue?_of_notMem hword]
      rfl
  | _ => rfl

end Query

end ReactScaffold
