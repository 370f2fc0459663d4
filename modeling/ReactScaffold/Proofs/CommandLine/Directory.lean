import ReactScaffold.CommandLine.Run
import ReactScaffold.Proofs.CommandLine.Parse

/-!
# The directory for projects

The directory that projects are put in is read from a text, either of the environment or of the
command line, so a path that is given is written with at least one character.
-/

namespace ReactScaffold

/-- The parts of a path that was read are not empty. -/
theorem Path.ne_empty_of_mem_ofText {s part : String} (h : part ∈ (Path.ofText s).parts) :
    part ≠ "" := by
  obtain ⟨cs, hcs, rfl⟩ := List.mem_map.1 h
  have hpart := (List.mem_filter.1 hcs).2
  rintro hempty
  rw [String.ofList_eq_empty_iff] at hempty
  rw [hempty] at hpart
  exact absurd hpart (by decide)

theorem Path.text_ofText_ne_empty (s : String) : (Path.ofText s).text ≠ "" := by
  have hparts : ∀ part ∈ (Path.ofText s).parts, part ≠ "" := fun _ => ne_empty_of_mem_ofText
  generalize Path.ofText s = p at hparts
  obtain ⟨anchor, parts⟩ := p
  intro h
  unfold Path.text at h
  split_ifs at h with hnowhere
  · exact absurd h (by decide)
  · rw [String.append_eq_empty_iff] at h
    obtain ⟨hanchor, htext⟩ := h
    cases parts with
    | nil =>
        cases anchor with
        | here => exact hnowhere rfl
        | root => exact absurd hanchor (by decide)
        | doubleRoot => exact absurd hanchor (by decide)
    | cons part parts =>
        refine hparts part List.mem_cons_self ?_
        have hlist := congrArg String.toList htext
        rw [String.toList_intercalate] at hlist
        rw [← String.toList_inj]
        cases parts with
        | nil => simpa using hlist
        | cons next parts => simp at hlist

/-- A path argument that is a path was read from a text. -/
def PathArgument.IsRead (a : PathArgument) : Prop :=
  ∀ p, a = .path p → ∃ text, p = Path.ofText text

theorem PathArgument.isRead_ofValue (value : Option String) :
    (PathArgument.ofValue value).IsRead := by
  intro p h
  cases value with
  | none => cases h
  | some text => exact ⟨text, (PathArgument.path.inj h).symm⟩

/-- The directory of an invocation, if it gives one, was read from a text. -/
def Invocation.ReadsDirectory (i : Invocation) : Prop := ∀ a, i.outputDir = some a → a.IsRead

theorem Invocation.kept_readsDirectory : Invocation.Kept Invocation.ReadsDirectory where
  start a ha := by cases ha
  operand i text h := h
  option f known i j value h happly := by
    unfold Flag.apply at happly
    split at happly
    · cases happly
    · obtain ⟨v, -, happly⟩ := bind_eq_ok happly
      obtain rfl := Except.ok.inj happly
      exact h
    all_goals obtain rfl := Except.ok.inj happly
    · exact h
    · exact h
    · exact h
    · exact h
    · intro a ha
      obtain rfl := Option.some.inj ha
      exact PathArgument.isRead_ofValue value
    · exact h
    · exact h

theorem Settings.outputDir_ofEnvironment {env : Environment} {base : Settings}
    (h : Settings.ofEnvironment env = .ok base) :
    base.outputDir = .path (match Settings.lookup env "PRTW_OUTPUT_DIR" with
      | some s => Path.ofText s
      | none => ⟨.here, []⟩) := by
  unfold Settings.ofEnvironment at h
  dsimp only at h
  split at h
  · obtain ⟨manager, -, h⟩ := bind_eq_ok h
    obtain rfl := Except.ok.inj h
    rfl
  · obtain rfl := Except.ok.inj h
    rfl

/-- The directory of the settings of a run, if it is a path, is written with at least one
character. -/
theorem text_outputDir_ne_empty {arguments : List String} {env : Environment} {i : Invocation}
    {settings : Settings} (hparse : Invocation.parse arguments = .ok i)
    (hsettings : i.resolveSettings env = .ok settings) {p : Path}
    (hp : settings.outputDir = .path p) : p.text ≠ "" := by
  obtain ⟨base, hbase, rfl⟩ := map_eq_ok hsettings
  rw [Invocation.settings] at hp
  cases hgiven : i.outputDir with
  | some a =>
      rw [hgiven] at hp
      obtain ⟨text, rfl⟩ := Invocation.kept_readsDirectory.parse hparse a hgiven p hp
      exact Path.text_ofText_ne_empty text
  | none =>
      rw [hgiven] at hp
      have hdirectory : base.outputDir = .path p := hp
      rw [Settings.outputDir_ofEnvironment hbase] at hdirectory
      obtain rfl := PathArgument.path.inj hdirectory
      split
      · exact Path.text_ofText_ne_empty _
      · decide

end ReactScaffold
