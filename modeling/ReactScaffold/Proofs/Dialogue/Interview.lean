import ReactScaffold.Proofs.Dialogue.Fields
import Mathlib

/-!
# Interviews

An interview settles fields in their order from the values that are given and the lines that are
typed. A turn is one query that was put, with the lines that were rejected and the line that was
accepted. The interview says which queries are put and what comes to stand in the fields; the lines
of its turns are a prefix of what is typed. Collecting the answers of a project is an interview
about all fields, or one that breaks off at a query which exhausts the lines.
-/

namespace ReactScaffold

open Text

/-! ## One query -/

namespace Query

/-- The events shown for lines that are rejected. -/
def retries (q : Query) (rejected : List String) : List Event :=
  rejected.flatMap fun line => [.prompt q.prompt, q.rejection line]

theorem put_retries {q : Query} {rejected : List String}
    (h : ∀ line ∈ rejected, q.accept? line = none) (rest : List (Option String)) :
    q.question.put (rejected.map some ++ rest) =
      (q.retries rejected ++ (q.question.put rest).1, (q.question.put rest).2) :=
  q.question.put_rejected (fun line hline => by simp only [question, h line hline]) rest

end Query

/-- A query that was put until a line was accepted. -/
structure Turn where
  field : Field
  rejected : List String
  accepted : String

namespace Turn

/-- The lines that the turn takes. -/
def lines (t : Turn) : List String := t.rejected ++ [t.accepted]

/-- The events that the turn shows. -/
def shown (preferred : PackageManager) (t : Turn) : List Event :=
  (t.field.query preferred).retries t.rejected ++ [.prompt (t.field.query preferred).prompt]

/-- The turn comes to a value: the line that it accepts stands for it, and none of the lines
before is acceptable. -/
structure ComesTo (preferred : PackageManager) (t : Turn) (v : Json String) : Prop where
  rejected : ∀ line ∈ t.rejected, (t.field.query preferred).accept? line = none
  accepted : (t.field.query preferred).accept? t.accepted = some v

end Turn

/-- Lines are all rejected, or the first that is not is accepted in a turn. -/
theorem Field.exists_turn_or (preferred : PackageManager) (field : Field) (lines : List String) :
    (∃ t v rest, Turn.field t = field ∧ t.ComesTo preferred v ∧ lines = t.lines ++ rest) ∨
      ∀ line ∈ lines, (field.query preferred).accept? line = none := by
  induction lines with
  | nil => exact .inr fun line hline => by cases hline
  | cons line lines ih =>
    cases haccept : (field.query preferred).accept? line with
    | some v =>
      refine .inl ⟨⟨field, [], line⟩, v, lines, rfl, ⟨fun _ h => ?_, haccept⟩, rfl⟩
      cases h
    | none =>
      rcases ih with ⟨t, v, rest, rfl, ht, rfl⟩ | hnone
      · exact .inl ⟨⟨t.field, line :: t.rejected, t.accepted⟩, v, rest, rfl,
          ⟨List.forall_mem_cons.2 ⟨haccept, ht.rejected⟩, ht.accepted⟩, rfl⟩
      · exact .inr (List.forall_mem_cons.2 ⟨haccept, hnone⟩)

/-- The session after some lines were typed and events shown. -/
def Session.heard (s : Session) (left : List String) (events : List Event) : Session :=
  { s with input := left.map some, shown := s.shown ++ events }

theorem Session.heard_nil {s : Session} {lines : List String} (hinput : s.input = lines.map some) :
    s.heard lines [] = s := by
  simp [heard, ← hinput]

theorem Session.heard_heard (s : Session) (lines left : List String) (first second : List Event) :
    (s.heard lines first).heard left second = s.heard left (first ++ second) := by
  simp [heard]

namespace Question

variable {s : Session} {field : Field} {preferred : PackageManager}

theorem perform_ask_turn {t : Turn} {v : Json String} (ht : t.ComesTo preferred v)
    {rest : List String} (hinput : s.input = (t.lines ++ rest).map some) :
    (t.field.query preferred).question.ask.perform s =
      (.ok v, s.heard rest (t.shown preferred)) := by
  have haccept : (t.field.query preferred).question.accept t.accepted = .ok v := by
    simp only [Query.question, ht.accepted]
  have hput : (t.field.query preferred).question.put s.input =
      (t.shown preferred, .ok v, rest.map some) := by
    rw [hinput, Turn.lines, List.append_assoc, List.map_append, Query.put_retries ht.rejected,
      List.singleton_append, List.map_cons, put, haccept]
    rfl
  rw [perform_ask, hput]
  rfl

theorem perform_ask_exhausted {lines : List String}
    (hlines : ∀ line ∈ lines, (field.query preferred).accept? line = none)
    (hinput : s.input = lines.map some) :
    (field.query preferred).question.ask.perform s = (.error (.fault .endOfInput),
      s.heard [] ((field.query preferred).retries lines ++
        [.prompt (field.query preferred).prompt])) := by
  have hput := Query.put_retries hlines []
  rw [List.append_nil] at hput
  rw [perform_ask, hinput, hput]
  rfl

end Question

/-! ## Interviews -/

/-- The fields are settled by the answers that are given and by the turns. A query is put for each
field that no answer is given for and that applies, in the order of the fields. -/
structure Interview (preferred : PackageManager) (answers : Answers) (fields : List Field)
    (turns : List Turn) (values : Values) : Prop where
  asked : turns.map Turn.field =
    fields.filter fun field => (answers.given? field.name).isNone && field.applies values
  given : ∀ field ∈ fields, ∀ v, answers.given? field.name = some v →
    values field = some ((field.query preferred).keep v)
  typed : ∀ t ∈ turns, ∃ v, t.ComesTo preferred v ∧ values t.field = some v
  skipped : ∀ field ∈ fields, answers.given? field.name = none → field.applies values = false →
    values field = none

/-! ## One field more -/

/-- The field is none of the fields before it, and governs none of them. -/
def Field.Follows (field : Field) (before : List Field) : Prop :=
  ∀ first ∈ before, first ≠ field ∧ ∀ g ∈ first.governor?, g.1 ≠ field

/-- Each field comes once, and after its governor. -/
theorem Field.follows_of_all {before after : List Field} {field : Field}
    (h : all = before ++ field :: after) : field.Follows before := by
  have hpairwise : all.Pairwise fun first second =>
      first ≠ second ∧ ∀ g ∈ first.governor?, g.1 ≠ second := by decide
  rw [h] at hpairwise
  exact fun first hfirst =>
    (List.pairwise_append.1 hpairwise).2.2 first hfirst field List.mem_cons_self

namespace Interview

variable {preferred : PackageManager} {answers : Answers} {before : List Field} {field : Field}
  {turns : List Turn} {values : Values}

theorem nil : Interview preferred answers [] [] Values.empty :=
  ⟨rfl, fun _ h => (by cases h), fun _ h => (by cases h), fun _ h => (by cases h)⟩

theorem field_mem (h : Interview preferred answers before turns values) {t : Turn}
    (ht : t ∈ turns) : t.field ∈ before := by
  have hmem := List.mem_map_of_mem (f := Turn.field) ht
  rw [h.asked] at hmem
  exact List.mem_of_mem_filter hmem

theorem applies_update {first : Field} (v? : Option (Json String))
    (h : ∀ g ∈ first.governor?, g.1 ≠ field) :
    first.applies (Function.update values field v?) = first.applies values := by
  unfold Field.applies
  cases hgovernor : first.governor? with
  | none => rfl
  | some g =>
    have hword : Values.word? (Function.update values field v?) g.1 = values.word? g.1 := by
      simp only [Values.word?, Function.update_of_ne (h g hgovernor)]
    simp only [Option.all_some, hword]

/-- An interview goes on by one field. -/
theorem concat (h : Interview preferred answers before turns values)
    (hfollows : field.Follows before) {more : List Turn} {v? : Option (Json String)}
    (hasked : more.map Turn.field =
      if (answers.given? field.name).isNone && field.applies values then [field] else [])
    (hgiven : ∀ v, answers.given? field.name = some v →
      v? = some ((field.query preferred).keep v))
    (htyped : ∀ t ∈ more, ∃ v, t.ComesTo preferred v ∧ v? = some v)
    (hskipped : answers.given? field.name = none → field.applies values = false → v? = none) :
    Interview preferred answers (before ++ [field]) (turns ++ more)
      (Function.update values field v?) := by
  -- None of the fields before is this one or governed by it, so what is said of them stays true.
  have hself : ∀ g ∈ field.governor?, g.1 ≠ field := by cases field <;> decide
  have hother {first : Field} (hfirst : first ∈ before) :
      Function.update values field v? first = values first :=
    Function.update_of_ne (hfollows first hfirst).1 _ _
  have happlies {first : Field} (hfirst : first ∈ before) :
      first.applies (Function.update values field v?) = first.applies values :=
    applies_update v? (hfollows first hfirst).2
  have hmore : ∀ t ∈ more, t.field = field := by
    intro t ht
    have hmem := List.mem_map_of_mem (f := Turn.field) ht
    rw [hasked] at hmem
    split_ifs at hmem
    · exact List.mem_singleton.1 hmem
    · cases hmem
  refine ⟨?_, ?_, ?_, ?_⟩
  · have hbefore : (before.filter fun first => (answers.given? first.name).isNone &&
        first.applies (Function.update values field v?)) = turns.map Turn.field :=
      (List.filter_congr fun first hfirst => by rw [happlies hfirst]).trans h.asked.symm
    rw [List.map_append, List.filter_append, hbefore, hasked, List.filter_singleton,
      applies_update v? hself]
    cases (answers.given? field.name).isNone && field.applies values <;> rfl
  · intro f hf v hv
    rcases List.mem_append.1 hf with hbefore | hfield
    · rw [hother hbefore]
      exact h.given f hbefore v hv
    · obtain rfl := List.mem_singleton.1 hfield
      rw [Function.update_self]
      exact hgiven v hv
  · intro t ht
    rcases List.mem_append.1 ht with hbefore | hlast
    · rw [hother (h.field_mem hbefore)]
      exact h.typed t hbefore
    · rw [hmore t hlast, Function.update_self]
      exact htyped t hlast
  · intro f hf hnone hnot
    rcases List.mem_append.1 hf with hbefore | hfield
    · rw [hother hbefore]
      rw [happlies hbefore] at hnot
      exact h.skipped f hbefore hnone hnot
    · obtain rfl := List.mem_singleton.1 hfield
      rw [applies_update v? hself] at hnot
      rw [Function.update_self]
      exact hskipped hnone hnot

/-- A field that an answer is given for takes no turn. -/
theorem concat_given (h : Interview preferred answers before turns values)
    (hfollows : field.Follows before) {v : Json String}
    (hgiven : answers.given? field.name = some v) :
    Interview preferred answers (before ++ [field]) turns
      (Function.update values field (some ((field.query preferred).keep v))) := by
  rw [← List.append_nil turns]
  refine h.concat hfollows ?_ ?_ (fun _ ht => by cases ht) ?_
  · rw [hgiven]
    rfl
  · intro w hw
    rw [Option.some.inj (hgiven.symm.trans hw)]
  · intro hnone
    cases hgiven.symm.trans hnone

/-- A field that does not apply takes no turn. -/
theorem concat_skipped (h : Interview preferred answers before turns values)
    (hfollows : field.Follows before) (hnone : answers.given? field.name = none)
    (happlies : field.applies values = false) :
    Interview preferred answers (before ++ [field]) turns
      (Function.update values field none) := by
  rw [← List.append_nil turns]
  refine h.concat hfollows ?_ ?_ (fun _ ht => by cases ht) fun _ _ => rfl
  · rw [happlies, Bool.and_false]
    rfl
  · intro v hv
    cases hnone.symm.trans hv

/-- A field that is asked for takes one turn. -/
theorem concat_turn {t : Turn} (h : Interview preferred answers before turns values)
    (hfollows : t.field.Follows before) (hnone : answers.given? t.field.name = none)
    (happlies : t.field.applies values = true) {v : Json String} (ht : t.ComesTo preferred v) :
    Interview preferred answers (before ++ [t.field]) (turns ++ [t])
      (Function.update values t.field (some v)) := by
  refine h.concat hfollows ?_ ?_ ?_ ?_
  · rw [hnone, happlies]
    rfl
  · intro w hw
    cases hnone.symm.trans hw
  · intro u hu
    rw [List.mem_singleton.1 hu]
    exact ⟨v, ht, rfl⟩
  · intro _ hfalse
    cases happlies.symm.trans hfalse

end Interview

/-! ## Collecting -/

/-- The fields before one are settled, and its query is put but none of the lines is accepted. -/
structure Exhausts (preferred : PackageManager) (answers : Answers) (turns : List Turn)
    (field : Field) (refused : List String) : Prop where
  interview : ∃ before after values, Field.all = before ++ field :: after ∧
    Interview preferred answers before turns values ∧ field.applies values = true
  notGiven : answers.given? field.name = none
  notAccepted : ∀ line ∈ refused, (field.query preferred).accept? line = none

/-- The events that are shown for turns and for a query that is not answered in the end. -/
def shownUntil (preferred : PackageManager) (turns : List Turn) (field : Field)
    (refused : List String) : List Event :=
  turns.flatMap (Turn.shown preferred) ++ (field.query preferred).retries refused ++
    [.prompt (field.query preferred).prompt]

theorem shownUntil_append (preferred : PackageManager) (first more : List Turn) (field : Field)
    (refused : List String) :
    shownUntil preferred (first ++ more) field refused =
      first.flatMap (Turn.shown preferred) ++ shownUntil preferred more field refused := by
  simp [shownUntil]

namespace Collector

variable {c : Collector} {answers : Answers} {before after : List Field} {field : Field}
  {turns : List Turn} {values : Values} {s : Session} {lines : List String}

/-- Every answer that is given can be taken. -/
def Admits (c : Collector) (answers : Answers) : Prop :=
  ∀ field v, answers.given? (Field.name field) = some v →
    (field.query c.packageManager).admits v = true

/-- One field is settled by what is given or in a turn, or its query exhausts the lines. -/
theorem perform_settle (hc : c.interactive = true) (hadmits : c.Admits answers)
    (h : Interview c.packageManager answers before turns values) (hfollows : field.Follows before)
    (hinput : s.input = lines.map some) :
    (∃ more v? rest, Interview c.packageManager answers (before ++ [field]) (turns ++ more)
          (Function.update values field v?) ∧
        lines = more.flatMap Turn.lines ++ rest ∧
        (c.settle answers values field).perform s =
          (.ok v?, s.heard rest (more.flatMap (Turn.shown c.packageManager)))) ∨
      (answers.given? field.name = none ∧ field.applies values = true ∧
        (∀ line ∈ lines, (field.query c.packageManager).accept? line = none) ∧
        (c.settle answers values field).perform s = (.error (.fault .endOfInput),
          s.heard [] (shownUntil c.packageManager [] field lines))) := by
  cases hgiven : answers.given? field.name with
  | some v =>
    refine .inl ⟨[], some ((field.query c.packageManager).keep v), lines, ?_, rfl, ?_⟩
    · rw [List.append_nil]
      exact h.concat_given hfollows hgiven
    · rw [List.flatMap_nil, Session.heard_nil hinput, settle_of_given hgiven,
        Query.take_of_admits (hadmits field v hgiven)]
      rfl
  | none =>
    cases happlies : field.applies values with
    | false =>
      refine .inl ⟨[], none, lines, ?_, rfl, ?_⟩
      · rw [List.append_nil]
        exact h.concat_skipped hfollows hgiven happlies
      · rw [List.flatMap_nil, Session.heard_nil hinput, settle_of_not_applies hgiven happlies]
        rfl
    | true =>
      rw [settle_of_applies hgiven happlies, if_pos hc, Action.perform_map]
      rcases field.exists_turn_or c.packageManager lines with
        ⟨t, v, rest, rfl, ht, rfl⟩ | hnone
      · refine .inl ⟨[t], some v, rest, h.concat_turn hfollows hgiven happlies ht, ?_, ?_⟩
        · rw [List.flatMap_singleton]
        · rw [List.flatMap_singleton, Question.perform_ask_turn ht hinput]
          rfl
      · refine .inr ⟨rfl, rfl, hnone, ?_⟩
        rw [Question.perform_ask_exhausted hnone hinput]
        rfl

/-- Fields are settled one after the other, or the query for one of them exhausts the lines. -/
theorem perform_settleAll (hc : c.interactive = true) (hadmits : c.Admits answers)
    (hall : Field.all = before ++ after)
    (h : Interview c.packageManager answers before turns values)
    (hinput : s.input = lines.map some) :
    (∃ more final rest, Interview c.packageManager answers Field.all (turns ++ more) final ∧
        lines = more.flatMap Turn.lines ++ rest ∧
        (c.settleAll answers after values).perform s =
          (.ok final, s.heard rest (more.flatMap (Turn.shown c.packageManager)))) ∨
      ∃ more field refused, Exhausts c.packageManager answers (turns ++ more) field refused ∧
        lines = more.flatMap Turn.lines ++ refused ∧
        (c.settleAll answers after values).perform s = (.error (.fault .endOfInput),
          s.heard [] (shownUntil c.packageManager more field refused)) := by
  -- The interview about the fields before is the invariant: each field more continues it.
  induction after generalizing before turns values s lines with
  | nil =>
    rw [List.append_nil] at hall
    refine .inl ⟨[], values, lines, ?_, rfl, ?_⟩
    · rw [List.append_nil, hall]
      exact h
    · rw [List.flatMap_nil, Session.heard_nil hinput]
      rfl
  | cons field after ih =>
    have hnext : Field.all = (before ++ [field]) ++ after := by
      rw [hall, List.append_assoc, List.singleton_append]
    rw [settleAll, Action.perform_bind]
    rcases perform_settle hc hadmits h (Field.follows_of_all hall) hinput with
      ⟨first, v?, rest, hinterview, rfl, hperform⟩ | ⟨hnone, happlies, hrefused, hperform⟩
    · rw [hperform]
      dsimp only
      rcases ih hnext hinterview (s := s.heard rest _) rfl with
        ⟨more, final, left, hfinal, rfl, hrest⟩ | ⟨more, stuck, refused, hstuck, rfl, hrest⟩
      · refine .inl ⟨first ++ more, final, left, ?_, ?_, ?_⟩
        · rw [← List.append_assoc]
          exact hfinal
        · rw [List.flatMap_append, List.append_assoc]
        · rw [hrest, List.flatMap_append, Session.heard_heard]
      · refine .inr ⟨first ++ more, stuck, refused, ?_, ?_, ?_⟩
        · rw [← List.append_assoc]
          exact hstuck
        · rw [List.flatMap_append, List.append_assoc]
        · rw [hrest, Session.heard_heard, shownUntil_append]
    · rw [hperform]
      refine .inr ⟨[], field, lines, ⟨⟨before, after, values, hall, ?_, happlies⟩, hnone, hrefused⟩,
        rfl, rfl⟩
      rw [List.append_nil]
      exact h

/-- What collecting comes to when lines are typed: the session after it, and the project or why
there is none. -/
inductive Course (c : Collector) (answers : Answers) (s : Session) (lines : List String) :
    Except Failure Project × Session → Prop
  /-- The project is read from what an interview about all fields leaves in them. -/
  | completed {turns : List Turn} {values : Values} {rest : List String}
      (interview : Interview c.packageManager answers Field.all turns values)
      (taken : lines = turns.flatMap Turn.lines ++ rest) :
      Course c answers s lines
        ((Project.ofAnswers values.toAnswers).mapError fun e => .fault (.invalid e),
          { s.heard rest (turns.flatMap (Turn.shown c.packageManager)) with
            remarks := s.remarks ++
              (Project.ofAnswers values.toAnswers).toOption.toList.map Project.collected })
  /-- The input ends at a query. -/
  | exhausted {turns : List Turn} {field : Field} {refused : List String}
      (exhausts : Exhausts c.packageManager answers turns field refused)
      (taken : lines = turns.flatMap Turn.lines ++ refused) :
      Course c answers s lines (.error (.fault .endOfInput),
        s.heard [] (shownUntil c.packageManager turns field refused))

/-- Each query takes the typed lines up to the first that it accepts, and no line is taken after
the last query. -/
theorem course_perform_collect (hc : c.interactive = true) (hadmits : c.Admits answers)
    (hinput : s.input = lines.map some) :
    c.Course answers s lines ((c.collect answers).perform s) := by
  rw [collect_eq, Action.perform_bind]
  rcases perform_settleAll hc hadmits (List.nil_append _).symm Interview.nil hinput with
    ⟨turns, values, rest, hinterview, htaken, hperform⟩ |
      ⟨turns, field, refused, hexhausts, htaken, hperform⟩
  · rw [hperform]
    dsimp only
    rw [perform_finish]
    exact .completed hinterview htaken
  · rw [hperform]
    exact .exhausted hexhausts htaken

/-- A framework is given, and the first name that is typed is none. -/
theorem course_given_framework :
    Course {} [("framework", .str "nextjs")] { input := [some "my app", some " my-app "] }
      ["my app", " my-app "]
      ((collect {} [("framework", .str "nextjs")]).perform
        { input := [some "my app", some " my-app "] }) := by
  refine course_perform_collect rfl (fun field v hv => ?_) rfl
  cases field with
  | framework =>
    cases hv
    rfl
  | _ => cases hv

end Collector

end ReactScaffold
