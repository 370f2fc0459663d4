import ReactScaffold.Project.Saved
import ReactScaffold.Proofs.Session.Documents

/-!
# Saved projects are read back

A project is saved as one object of words, switches and missing values. Each word is read as the
choice that it was written for, so the answers of a project describe the project again, and so does
the saved text when it is read by the strict rules.
-/

namespace ReactScaffold

open Text

/-! ## Reading one answer -/

/-- An axis on which each word stands for the choice that it is written for. -/
class LawfulAxis (α : Type) [Axis α] : Prop where
  ofValue?_value (a : α) : Axis.ofValue? α (Axis.value a) = some a

instance : LawfulAxis Framework := ⟨fun a => by cases a <;> rfl⟩

instance : LawfulAxis Router := ⟨fun a => by cases a <;> rfl⟩

instance : LawfulAxis Language := ⟨fun a => by cases a <;> rfl⟩

instance : LawfulAxis PackageManager := ⟨fun a => by cases a <;> rfl⟩

instance : LawfulAxis Styling := ⟨fun a => by cases a <;> rfl⟩

instance : LawfulAxis TailwindVersion := ⟨fun a => by cases a <;> rfl⟩

instance : LawfulAxis StateManagement := ⟨fun a => by cases a <;> rfl⟩

instance : LawfulAxis Icons := ⟨fun a => by cases a <;> rfl⟩

namespace Checked

variable {α β γ : Type}

theorem app_pass (f : Checked (α → β)) (a : α) : f.app (pass a) = f.map fun g => g a := by
  obtain ⟨value?, issues⟩ := f
  cases value? with
  | none => simp [app, pass, map]
  | some g => simp [app, pass, map]

theorem map_map (c : Checked α) (f : α → β) (g : β → γ) :
    (c.map f).map g = c.map fun a => g (f a) := by
  simp [map, Function.comp_def]

end Checked

section Members

variable {α : Type} [Axis α] [LawfulAxis α] {answers : Answers} {name : String}

theorem readChoice_value (path : List Locator) (a : α) :
    readChoice α path (.str (Axis.value a)) = .pass a := by
  simp [readChoice, Axis.choose, LawfulAxis.ofValue?_value]

theorem memberOr_choice {a default : α}
    (h : OrderedMap.get? answers name = some (.str (Axis.value a))) :
    memberOr answers [] name default (readChoice α) = .pass a := by
  rw [memberOr, h]
  exact readChoice_value _ a

theorem memberOr_optional {a : Option α}
    (h : OrderedMap.get? answers name = some (match a with
      | some a => .str (Axis.value a)
      | none => .null)) :
    memberOr answers [] name none (readOptional α) = .pass a := by
  rw [memberOr, h]
  cases a with
  | none => rfl
  | some a =>
      show (readChoice α _ (.str (Axis.value a))).map some = _
      rw [readChoice_value]
      rfl

omit [Axis α] [LawfulAxis α] in
theorem memberOr_switch {b default : Bool} (h : OrderedMap.get? answers name = some (.bool b)) :
    memberOr answers [] name default readBool = .pass b := by
  rw [memberOr, h]
  rfl

theorem requiredMember_of_get? {α : Type} {read : List Locator → Json String → Checked α}
    {v : Json String} (h : OrderedMap.get? answers name = some v) :
    requiredMember answers [] name read = read [.field name] v := by
  rw [requiredMember, h]
  rfl

end Members

namespace Project

/-- Answers that agree with those of a project on all but the name describe the project under the
name that they give. -/
theorem check_of_get? {answers : Answers} {p : Project} {v : Json String}
    (hname : OrderedMap.get? answers "project_name" = some v)
    (hothers : ∀ e ∈ p.toAnswers.tail, OrderedMap.get? answers e.1 = some e.2) :
    check answers = (readName [.field "project_name"] v).map fun name => { p with name } := by
  simp only [toAnswers, List.tail_cons, List.forall_mem_cons] at hothers
  obtain ⟨hframework, hrouter, hlanguage, hmanager, hstyling, hversion, hstate, hicons, hquality,
    htesting, hclient, -⟩ := hothers
  simp only [check, requiredMember_of_get? hname, memberOr_choice hframework,
    memberOr_optional hrouter, memberOr_choice hlanguage, memberOr_choice hmanager,
    memberOr_choice hstyling, memberOr_optional hversion, memberOr_choice hstate,
    memberOr_choice hicons, memberOr_switch hquality, memberOr_switch htesting,
    memberOr_switch hclient, Checked.app_pass, Checked.map_map]

/-- The names of the answers, in their order. -/
def answerNames : List String :=
  ["project_name", "framework", "router", "language", "package_manager", "styling",
    "tailwind_version", "state_management", "icons", "code_quality", "testing", "api_client"]

theorem keys_toAnswers (p : Project) : OrderedMap.keys p.toAnswers = answerNames := rfl

theorem nodup_keys_toAnswers (p : Project) : (OrderedMap.keys p.toAnswers).Nodup := by
  rw [keys_toAnswers]
  decide

/-- The answers of a project with another value for the name describe the same project under that
name. -/
theorem check_insert_name (p : Project) (v : Json String) :
    check (OrderedMap.insert p.toAnswers "project_name" v) =
      (readName [.field "project_name"] v).map fun name => { p with name } := by
  refine check_of_get? (OrderedMap.get?_insert_self _ _ _) fun e he => ?_
  have hmem : e ∈ OrderedMap.insert p.toAnswers "project_name" v := List.mem_cons_of_mem _ he
  exact OrderedMap.get?_of_mem (OrderedMap.nodup_keys_insert (nodup_keys_toAnswers p) _ v) hmem

theorem ofText?_eq_some_iff {s : String} {name : ProjectName} :
    ProjectName.ofText? s = some name ↔ name.text = s := by
  constructor
  · intro h
    unfold ProjectName.ofText? at h
    split_ifs at h
    exact (congrArg ProjectName.text (Option.some.inj h)).symm
  · rintro rfl
    exact dif_pos name.valid

theorem readName_text (path : List Locator) (name : ProjectName) :
    readName path (.str name.text) = .pass name := by
  simp only [readName, ofText?_eq_some_iff.2 (rfl : name.text = name.text)]

theorem readName_of_not_isProjectName (path : List Locator) {s : String} (hne : s ≠ "")
    (h : isProjectName s.toList = false) :
    readName path (.str s) = .fail path .patternMismatch := by
  have hnone : ProjectName.ofText? s = none := dif_neg (by simp [h])
  simp [readName, hnone, hne]

/-- The answers of a project describe the project. -/
theorem ofAnswers_toAnswers (p : Project) : ofAnswers p.toAnswers = .ok p := by
  have hcheck : check p.toAnswers = (readName [.field "project_name"] (.str p.name.text)).map
      fun name => { p with name } :=
    check_of_get? rfl fun e he =>
      OrderedMap.get?_of_mem (nodup_keys_toAnswers p) (List.mem_of_mem_tail he)
  rw [ofAnswers, hcheck, readName_text]
  rfl

/-- With a valid name for their own, the answers of a project describe the project of that name. -/
theorem ofAnswers_insert_name (p : Project) (name : ProjectName) :
    ofAnswers (OrderedMap.insert p.toAnswers "project_name" (.str name.text)) =
      .ok { p with name } := by
  rw [ofAnswers, check_insert_name, readName_text]
  rfl

/-- With a name that is none, they describe no project, and the name is all that is wrong. -/
theorem ofAnswers_insert_of_not_isProjectName (p : Project) {s : String} (hne : s ≠ "")
    (h : isProjectName s.toList = false) :
    ofAnswers (OrderedMap.insert p.toAnswers "project_name" (.str s)) =
      .error ⟨"ProjectConfig", [⟨[.field "project_name"], .patternMismatch⟩]⟩ := by
  rw [ofAnswers, check_insert_name, readName_of_not_isProjectName _ hne h]
  rfl

/-! ## The saved text -/

/-- The document that a project is saved as. -/
def document (p : Project) : Json.Document := (Json.obj p.toAnswers).toDocument

/-- The members of the document are texts, switches and missing values. -/
theorem forall_mem_document {q : Json.Document → Prop} (hnull : q .null) (hbool : ∀ b, q (.bool b))
    (hstr : ∀ t, q (.str t)) (p : Project) :
    ∀ m ∈ Json.mapMembers WideText.ofString p.toAnswers, q m.2 := by
  have hoptional {α : Type} [Axis α] (a : Option α) : q (Json.map WideText.ofString (match a with
      | some a => .str (Axis.value a)
      | none => .null)) := by
    cases a with
    | none => exact hnull
    | some a => exact hstr _
  simp only [toAnswers, Json.mapMembers, List.forall_mem_cons]
  exact ⟨hstr _, hstr _, hoptional p.router, hstr _, hstr _, hstr _, hoptional p.tailwindVersion,
    hstr _, hstr _, hbool _, hbool _, hbool _, List.forall_mem_nil _⟩

theorem nodup_keys_document (p : Project) :
    (OrderedMap.keys (Json.mapMembers WideText.ofString p.toAnswers)).Nodup := by
  have hkeys : OrderedMap.keys (Json.mapMembers WideText.ofString p.toAnswers) =
      (OrderedMap.keys p.toAnswers).map WideText.ofString := rfl
  rw [hkeys]
  exact (nodup_keys_toAnswers p).map WideText.ofString_injective

theorem readable_document (p : Project) (depth : Nat) : Json.Readable (depth + 1) p.document :=
  .obj (nodup_keys_document p) (forall_mem_document .null (fun _ => .bool) (fun _ => .str) p)

theorem readsBack_document (rules : Json.Rules) (depth : Nat) (p : Project) :
    Json.ReadsBack rules (depth + 1) p.document :=
  Json.readsBack_obj (nodup_keys_document p)
    (forall_mem_document .null (fun _ => .bool) (fun _ => .str) p)
    (forall_mem_document (q := Json.ReadsBack rules depth) Json.readsBack_null Json.readsBack_bool
      Json.readsBack_str p)

theorem print_document (p : Project) :
    Json.print .indented 0 p.document = WideText.ofString p.savedText := by
  obtain ⟨cs, hcs⟩ := (Json.plain_of_plain? p.document (Json.plain?_toDocument _)).isPlain_print 0
  have htext : p.savedText =
      String.ofList ((Json.print .indented 0 p.document).filterMap CodePoint.char?) := rfl
  rw [htext, hcs, WideText.filterMap_char?_ofChars, WideText.ofString, String.toList_ofList]

/-- The saved text of a project is read as the project. -/
theorem ofSavedText_savedText (p : Project) : ofSavedText p.savedText.toList = .ok p := by
  have hparse : Json.parseBy .strict (p.savedText.toList ++ []) = .ok p.document :=
    Json.parseBy_of_readsBack (readable_document p _) (readsBack_document _ _ p) (print_document p)
      (fun c hc => by cases hc) rfl
  rw [List.append_nil] at hparse
  rw [ofSavedText, hparse]
  simp only [Except.toOption, Option.bind_some, document, Json.plain?_toDocument]
  exact ofAnswers_toAnswers p

theorem notMem_savedText (p : Project) : '\r' ∉ p.savedText.toList := by
  have hprint := Json.notMem_print (readable_document p 0) 0
  rw [print_document] at hprint
  exact fun hmem => hprint (List.mem_map_of_mem hmem)

/-- The file that a project is saved in holds the project. -/
theorem ofSavedFile_savedText (p : Project) :
    ofSavedFile (Utf8.encode p.savedText.toList) = .ok p := by
  rw [ofSavedFile, Utf8.decode_encode]
  simp only [normalizeLineEndings_of_notMem (notMem_savedText p), ofSavedText_savedText]
  rfl

end Project

end ReactScaffold
