import ReactScaffold.CommandLine.Run
import ReactScaffold.Proofs.Host.Tree
import ReactScaffold.Proofs.Plan.Compile
import ReactScaffold.Proofs.Project.Saved
import ReactScaffold.Proofs.Session.Timeline

/-!
# Names of projects and paths of plans

Whichever way a project is made up, the text that is given as its name is checked, so that it is one
component of a path. The paths of a plan are built from names that the program chooses itself, and
lead downwards.
-/

namespace ReactScaffold

open ReactScaffold.Action Text

/-! ## What a check lets through -/

namespace Checked

variable {α β : Type} {P : β → Prop}

/-- Every value that passes the check has the property. -/
def Ensures (P : α → Prop) (c : Checked α) : Prop := ∀ a, c = pass a → P a

theorem Ensures.map {c : Checked α} {f : α → β} (h : c.Ensures fun a => P (f a)) :
    (c.map f).Ensures P := by
  obtain ⟨value?, issues⟩ := c
  intro b hb
  obtain ⟨hvalue, hissues⟩ := Checked.mk.inj hb
  obtain ⟨a, rfl, rfl⟩ := Option.map_eq_some_iff.1 hvalue
  dsimp only at hissues
  subst hissues
  exact h a rfl

theorem Ensures.app {c : Checked α} {f : Checked (α → β)}
    (h : f.Ensures fun g => ∀ a, P (g a)) : (f.app c).Ensures P := by
  obtain ⟨function?, before⟩ := f
  obtain ⟨value?, after⟩ := c
  intro b hb
  obtain ⟨hvalue, hissues⟩ := Checked.mk.inj hb
  obtain ⟨rfl, rfl⟩ := List.append_eq_nil_iff.1 hissues
  cases function? with
  | none => cases hvalue
  | some g =>
      cases value? with
      | none => cases hvalue
      | some a => exact Option.some.inj hvalue ▸ h g rfl a

theorem Ensures.of_get {c : Checked α} {P : α → Prop} (h : c.Ensures P) {type : String} {a : α}
    (hget : c.get type = .ok a) : P a := by
  obtain ⟨value?, issues⟩ := c
  unfold get at hget
  split at hget
  · rename_i value hvalue hissues
    dsimp only at hvalue hissues
    subst hvalue hissues
    exact Except.ok.inj hget ▸ h value rfl
  · cases hget

end Checked

theorem eq_str_of_readName {path : List Locator} {v : Json String} {name : ProjectName}
    (h : readName path v = .pass name) : v = .str name.text := by
  unfold readName at h
  split at h
  · split at h
    · rename_i found hfound
      cases h
      rw [Project.ofText?_eq_some_iff.1 hfound]
    · cases h
  · cases h

namespace Project

theorem ensures_check (answers : Answers) :
    (check answers).Ensures fun p =>
      OrderedMap.get? answers "project_name" = some (.str p.name.text) := by
  have hname : (requiredMember answers [] "project_name" readName).Ensures fun name =>
      OrderedMap.get? answers "project_name" = some (.str name.text) := by
    intro name h
    unfold requiredMember at h
    split at h
    · cases h
    · rename_i v hv
      rw [hv, eq_str_of_readName h]
  unfold check
  refine .app (.app (.app (.app (.app (.app (.app (.app (.app (.app (.app (.map ?_)))))))))))
  exact fun name h _ _ _ _ _ _ _ _ _ _ _ => hname name h

/-- Answers that describe a project give its name. -/
theorem get?_of_ofAnswers {answers : Answers} {p : Project} (h : ofAnswers answers = .ok p) :
    OrderedMap.get? answers "project_name" = some (.str p.name.text) :=
  (ensures_check answers).of_get h

/-- A file that saves a project holds answers that describe it. -/
theorem exists_members_of_ofSavedFile {octets : List UInt8} {p : Project}
    (h : ofSavedFile octets = .ok p) :
    ∃ cs members, Utf8.decode octets = .ok cs ∧
      (Json.parseBy .strict (normalizeLineEndings cs)).toOption.bind Json.plain? =
        some (.obj members) ∧
      ofAnswers members = .ok p := by
  unfold ofSavedFile at h
  cases hdecode : Utf8.decode octets with
  | error e =>
      rw [hdecode] at h
      cases h
  | ok cs =>
      rw [hdecode] at h
      dsimp only at h
      cases hread : ofSavedText (normalizeLineEndings cs) with
      | error e =>
          rw [hread] at h
          cases h
      | ok q =>
          rw [hread] at h
          obtain rfl := Except.ok.inj h
          unfold ofSavedText at hread
          dsimp only at hread
          split at hread
          · cases hread
          · rename_i members hmembers
            exact ⟨cs, members, rfl, hmembers, hread⟩
          · cases hread

end Project

/-! ## Names that are collected -/

namespace Action

variable {α β : Type} {P : β → Prop}

/-- Every value that the action gives has the property. -/
def Yields (P : α → Prop) (a : Action Session α) : Prop :=
  ∀ s x t, a.perform s = (.ok x, t) → P x

theorem Yields.bind_of {Q : α → Prop} {a : Action Session α} {f : α → Action Session β}
    (ha : Yields Q a) (h : ∀ x, Q x → Yields P (f x)) : Yields P (a >>= f) := by
  intro s y t hperform
  obtain ⟨x, u, hx, hrest⟩ := exists_of_perform_bind hperform
  exact h x (ha s x u hx) u y t hrest

theorem Yields.bind {a : Action Session α} {f : α → Action Session β} (h : ∀ x, Yields P (f x)) :
    Yields P (a >>= f) :=
  Yields.bind_of (Q := fun _ => True) (fun _ _ _ _ => trivial) fun x _ => h x

end Action

/-- A value that a question has given was accepted from one of the lines. -/
theorem Question.exists_line_of_put {α : Type} {q : Question α} {lines left : List (Option String)}
    {events : List Event} {a : α} (h : q.put lines = (events, .ok a, left)) :
    ∃ line, some line ∈ lines ∧ q.accept line = .ok a := by
  induction lines generalizing events with
  | nil => cases h
  | cons line rest ih =>
      cases line with
      | none => cases h
      | some line =>
          unfold Question.put at h
          split at h
          · rename_i b haccept
            cases h
            exact ⟨line, List.mem_cons_self, haccept⟩
          · obtain ⟨-, hrest⟩ := Prod.mk.inj h
            obtain ⟨other, hother, haccept⟩ := ih (Prod.ext rfl hrest)
            exact ⟨other, List.mem_cons_of_mem _ hother, haccept⟩

theorem strip_of_accept {line name : String} (h : nameQuestion.accept line = .ok name) :
    strip line = name := by
  unfold nameQuestion at h
  dsimp only at h
  split at h
  · exact Except.ok.inj h
  · cases h

namespace Collector

variable {c : Collector} {answers : Answers} {s t : Session}

/-- The name of a project is given, or was typed with blanks around it. -/
theorem projectName_cases {v : Json String}
    (h : (c.projectName answers).perform s = (.ok v, t)) :
    answers.given? "project_name" = some v ∨
      answers.given? "project_name" = none ∧ ∃ line, some line ∈ s.input ∧
        v = .str (strip line) := by
  unfold projectName at h
  split at h
  · rename_i w hgiven
    obtain rfl := Except.ok.inj (Prod.mk.inj h).1
    exact .inl hgiven
  · rename_i hgiven
    refine .inr ⟨hgiven, ?_⟩
    split_ifs at h
    · rw [map_eq_pure_bind] at h
      obtain ⟨name, u, hask, hname⟩ := exists_of_perform_bind h
      obtain rfl := Except.ok.inj (Prod.mk.inj hname).1
      have hput : ((nameQuestion.put s.input).2.1.mapError id : Except Failure String) =
          .ok name := by
        rw [Question.ask, perform_bind, perform_modifyGet] at hask
        dsimp only at hask
        rw [perform_ofExcept] at hask
        exact (Prod.mk.inj hask).1
      cases hresult : (nameQuestion.put s.input).2.1 with
      | error f =>
          rw [hresult] at hput
          cases hput
      | ok found =>
          rw [hresult] at hput
          obtain rfl := Except.ok.inj hput
          obtain ⟨line, hline, haccept⟩ := Question.exists_line_of_put
            (Prod.ext rfl (Prod.ext hresult rfl) : nameQuestion.put s.input = (_, .ok found, _))
          exact ⟨line, hline, by rw [strip_of_accept haccept]⟩
    · cases h

/-- The name of a project that is collected is the one that was given or typed. -/
theorem exists_projectName_of_collect {p : Project}
    (h : (c.collect answers).perform s = (.ok p, t)) :
    ∃ u, (c.projectName answers).perform s = (.ok (.str p.name.text), u) := by
  unfold collect at h
  obtain ⟨v, u, hname, hrest⟩ := exists_of_perform_bind h
  suffices hyields : Yields (fun p : Project => v = .str p.name.text) _ by
    rw [hyields u p t hrest] at hname
    exact ⟨u, hname⟩
  refine .bind fun framework => .bind fun router => .bind fun language => ?_
  refine .bind fun packageManager => .bind fun styling => .bind fun tailwindVersion => ?_
  refine .bind fun stateManagement => .bind fun icons => .bind fun codeQuality => ?_
  refine .bind fun testing => .bind fun apiClient => ?_
  intro s p t h
  obtain ⟨name, u, hread, h⟩ := exists_of_perform_bind h
  obtain ⟨_, w, -, h⟩ := exists_of_perform_bind h
  cases h
  rw [perform_ofExcept] at hread
  have hensures : (readName [.field "project_name"] v).Ensures fun name => v = .str name.text :=
    fun name h => eq_str_of_readName h
  cases hget : (readName [.field "project_name"] v).get "ProjectConfig" with
  | error e =>
      rw [hget] at hread
      cases hread
  | ok found =>
      rw [hget] at hread
      obtain rfl := Except.ok.inj (Prod.mk.inj hread).1
      exact hensures.of_get hget

end Collector

/-! ## Every way to a project -/

/-- The text is the name of the project. It has letters, digits, underscores and hyphens, at least
one of them, and nothing else. -/
structure Project.IsNamed (p : Project) (text : String) : Prop where
  name_eq : p.name.text = text
  nonempty : text ≠ ""
  characters (c : Char) (h : c ∈ text.toList) : 'A' ≤ c ∧ c ≤ 'Z' ∨ 'a' ≤ c ∧ c ≤ 'z' ∨
    '0' ≤ c ∧ c ≤ '9' ∨ c = '_' ∨ c = '-'

theorem isNameChar_cases {c : Char} (h : isNameChar c = true) :
    'A' ≤ c ∧ c ≤ 'Z' ∨ 'a' ≤ c ∧ c ≤ 'z' ∨ '0' ≤ c ∧ c ≤ '9' ∨ c = '_' ∨ c = '-' := by
  simp only [isNameChar, Char.isAlphanum, Char.isAlpha, Char.isUpper, Char.isLower, Char.isDigit,
    Bool.or_eq_true, Bool.and_eq_true, decide_eq_true_eq] at h
  tauto

theorem Project.isNamed (p : Project) : p.IsNamed p.name.text := by
  have hvalid := p.name.valid
  rw [isProjectName, Bool.and_eq_true] at hvalid
  refine ⟨rfl, fun hempty => ?_, fun c hc => isNameChar_cases (List.all_eq_true.1 hvalid.2 c hc)⟩
  rw [hempty] at hvalid
  cases hvalid.1

/-- On every way to a project the text that is given as its name is checked: from answers, with the
gated answers mended, from the content of a file, from questions, and from a file under another
name. -/
structure Project.NamesAreChecked : Prop where
  answers (answers : Answers) (p : Project) (h : ofAnswers answers = .ok p) :
    ∃ text, OrderedMap.get? answers "project_name" = some (.str text) ∧ p.IsNamed text
  normalized (p : Project) : p.normalized.IsNamed p.name.text
  loaded (octets : List UInt8) (p : Project) (h : ofSavedFile octets = .ok p) :
    ∃ cs members text, Utf8.decode octets = .ok cs ∧
      (Json.parseBy .strict (normalizeLineEndings cs)).toOption.bind Json.plain? =
        some (.obj members) ∧
      OrderedMap.get? members "project_name" = some (.str text) ∧ p.IsNamed text
  collected (c : Collector) (answers : Answers) (s t : Session) (p : Project)
    (h : (c.collect answers).perform s = (.ok p, t)) :
    ∃ text, (answers.given? "project_name" = some (.str text) ∨
      answers.given? "project_name" = none ∧ ∃ line, some line ∈ s.input ∧ strip line = text) ∧
      p.IsNamed text
  renamed (q p : Project) (answers : Answers) (s t : Session)
    (h : (Session.renameProject q answers).perform s = (.ok p, t)) :
    p = q ∨ ∃ text, answers.given? "project_name" = some (.str text) ∧ p.IsNamed text

theorem Project.namesAreChecked : NamesAreChecked where
  answers answers p h := ⟨p.name.text, get?_of_ofAnswers h, p.isNamed⟩
  normalized p := p.normalized.isNamed
  loaded octets p h := by
    obtain ⟨cs, members, hdecode, hmembers, hread⟩ := exists_members_of_ofSavedFile h
    exact ⟨cs, members, p.name.text, hdecode, hmembers, get?_of_ofAnswers hread, p.isNamed⟩
  collected c answers s t p h := by
    obtain ⟨u, hname⟩ := Collector.exists_projectName_of_collect h
    refine ⟨p.name.text, ?_, p.isNamed⟩
    rcases Collector.projectName_cases hname with hgiven | ⟨hnone, line, hline, htext⟩
    · exact .inl hgiven
    · exact .inr ⟨hnone, line, hline, (Json.str.inj htext).symm⟩
  renamed q p answers s t h := by
    unfold Session.renameProject at h
    split at h
    · rename_i name hgiven
      split_ifs at h
      · exact .inl (Except.ok.inj (Prod.mk.inj h).1).symm
      · right
        rw [perform_ofExcept] at h
        cases hread : ofAnswers (OrderedMap.insert q.toAnswers "project_name" (.str name)) with
        | error e =>
            rw [hread] at h
            cases h
        | ok found =>
            rw [hread] at h
            obtain rfl := Except.ok.inj (Prod.mk.inj h).1
            have htext := get?_of_ofAnswers hread
            rw [OrderedMap.get?_insert_self] at htext
            exact ⟨found.name.text, hgiven.trans htext, found.isNamed⟩
    · exact .inl (Except.ok.inj (Prod.mk.inj h).1).symm

/-! ## Where a project is put -/

theorem ProjectName.notMem_text (name : ProjectName) {c : Char} (hc : isNameChar c = false) :
    c ∉ name.text.toList := by
  intro hmem
  have hvalid := name.valid
  rw [isProjectName, Bool.and_eq_true] at hvalid
  rw [List.all_eq_true.1 hvalid.2 c hmem] at hc
  cases hc

/-- A name of a project is one component of a path. -/
theorem ProjectName.ofText_text (name : ProjectName) :
    Path.ofText name.text = ⟨.here, [name.text]⟩ := by
  have hslash : '/' ∉ name.text.toList := name.notMem_text rfl
  have hsplit : splitSlashes name.text.toList = [name.text.toList] := by
    have hjoined : (['/'].intercalate [name.text.toList]).splitOn '/' = [name.text.toList] :=
      List.splitOn_intercalate '/' (fun cs hcs => List.mem_singleton.1 hcs ▸ hslash) (by simp)
    rwa [List.intercalate_singleton, ← splitSlashes_eq_splitOn] at hjoined
  have hpart : isPathPart name.text.toList = true := by
    have hempty : name.text.toList ≠ [] := fun h => by
      have hvalid := name.valid
      rw [h] at hvalid
      cases hvalid
    have hdot : name.text.toList ≠ ['.'] := fun h => by
      have hnot := name.notMem_text (c := '.') rfl
      rw [h] at hnot
      simp at hnot
    simp [isPathPart, hempty, hdot]
  have hanchor : anchorOf name.text.toList = .here :=
    anchorOf_of_ne fun hhead => hslash (List.mem_of_mem_head? hhead)
  rw [Path.ofText, hsplit, hanchor, List.filter_cons_of_pos hpart, List.filter_nil, List.map_cons,
    List.map_nil, String.ofList_toList]

/-- A project is put at a child of the directory for projects. -/
theorem Path.join_name (parent : Path) (name : ProjectName) :
    parent.join (Path.ofText name.text) = ⟨parent.anchor, parent.parts ++ [name.text]⟩ := by
  rw [name.ofText_text]
  rfl

theorem Path.walkUp_append (start : Place) (first rest : List String) :
    walkUp start (first ++ rest) = walkUp (walkUp start first) rest := List.foldl_append

theorem Path.resolve_join_name (parent : Path) (name : ProjectName) (cwd : Place) :
    ((parent.join (Path.ofText name.text)).resolve cwd).parts =
      (parent.resolve cwd).parts ++ [name.text] := by
  have hup : name.text ≠ ".." := fun h => by
    have hnot := name.notMem_text (c := '.') rfl
    rw [h] at hnot
    exact hnot (by decide)
  rw [join_name]
  show walkUp (parent.anchor.start cwd) (parent.parts ++ [name.text]) =
    walkUp (parent.anchor.start cwd) parent.parts ++ [name.text]
  rw [walkUp_append, walkUp_of_notMem (by simpa using hup.symm)]

/-! ## The paths of a plan -/

/-- The path that a step makes or writes. -/
def Step.path? : Step → Option String
  | .ensureDirectory path => some path
  | .installDependencies _ _ _ => none
  | .writeFile path _ => some path
  | .mergeManifestScripts _ manifest => some manifest

/-- The text is a relative path none of whose components is empty, a dot or a double dot. -/
structure Path.IsInner (path : String) : Prop where
  relative : (ofText path).isAbsolute = false
  components (part : List Char) (h : part ∈ splitSlashes path.toList) :
    part ≠ [] ∧ part ≠ ['.'] ∧ part ≠ ['.', '.']

theorem Path.Plain.isInner {path : String} (h : Path.Plain path) : Path.IsInner path where
  relative := by
    rw [Spells.ofText_eq h]
    rfl
  components part hpart := by
    rw [Spells.splitSlashes_eq h] at hpart
    obtain ⟨name, hname, rfl⟩ := List.mem_map.1 hpart
    have hplain := Spells.plain h name hname
    exact ⟨ne_of_isPlainName hplain rfl, ne_of_isPlainName hplain rfl,
      ne_of_isPlainName hplain rfl⟩

/-- The paths of a compiled plan are plain. -/
theorem Plan.plain_of_compile {p : Project} {plan : Plan} (hplan : Plan.compile p = .ok plan)
    {step : Step} (hstep : step ∈ plan.steps) {path : String} (hpath : step.path? = some path) :
    Path.Plain path := by
  obtain ⟨files, rfl, hfiles⟩ := Plan.exists_files_of_compile hplan
  cases step with
  | ensureDirectory directory =>
      cases hpath
      exact p.layout.directory_plain path (Project.ensureDirectory_mem_stepsWith.1 hstep)
  | installDependencies manager packages description => cases hpath
  | writeFile file content =>
      cases hpath
      have hfile : path ∈ p.files.map fun kind => kind.path p := by
        rw [← hfiles]
        exact List.mem_map_of_mem (Project.writeFile_mem_stepsWith.1 hstep)
      exact p.layout.file_plain path (List.mem_cons_of_mem _ hfile)
  | mergeManifestScripts entries manifest =>
      cases hpath
      obtain ⟨-, rfl⟩ := Project.mergeManifestScripts_mem_stepsWith.1 hstep
      exact p.layout.file_plain _ List.mem_cons_self

end ReactScaffold
