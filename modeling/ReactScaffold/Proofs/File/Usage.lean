import ReactScaffold.Proofs.Plan.Influence
import ReactScaffold.Proofs.Project.Entails
import ReactScaffold.Proofs.Text.Styles

/-!
# What generated files use

A source text names classes, loads modules and refers to style objects. Every template is read once,
before a project is known. What is found is the same in both languages. It is also in keeping with
the styling: without one, elements refer to the style objects that their own file declares; with a
styling by classes they carry the classes of roles. The plain stylesheet has a rule for each class
of a role and of the button.
-/

namespace ReactScaffold

open Text

/-- A class attribute, a module that is loaded, or what is said about style objects. -/
abbrev Usage := (String ⊕ String) ⊕ StyleMention

/-- The reader of class names, of modules that are loaded, and of style objects. -/
def usageReader : Reader ((ClassState × StatementState) × StyleState) Usage :=
  sourceReader.both styleReader

theorem passesTitles_usageReader : usageReader.PassesTitles :=
  passesTitles_sourceReader.both passesTitles_styleReader

theorem read_sourceReader (cs : List Char) :
    sourceReader.read cs = (usageReader.read cs).filterMap Sum.getLeft? :=
  (sourceReader.read_both styleReader cs).1.symm

theorem mem_classNamesOf {content value : String} :
    value ∈ classNamesOf content ↔ .inl (.inl value) ∈ usageReader.read content.toList := by
  rw [classNamesOf_eq, read_sourceReader]
  simp

theorem mem_stylesOf {content : String} {m : StyleMention} :
    m ∈ stylesOf content ↔ .inr m ∈ usageReader.read content.toList := by
  rw [stylesOf, ← (sourceReader.read_both styleReader content.toList).2]
  simp [usageReader]

theorem run_classReader_of_run {cs : List Char}
    (h : (usageReader.run usageReader.start cs).2 = usageReader.start) :
    (classReader.run classReader.start cs).2 = classReader.start := by
  have hsource := congrArg Prod.fst ((sourceReader.run_both_snd styleReader _ _ cs).symm.trans h)
  exact congrArg Prod.fst ((classReader.run_both_snd statementReader _ _ cs).symm.trans hsource)

/-! ## Reasons -/

/-- The values of class attributes that a styling gives. Inline styling gives none. -/
def StylingDialect.roleClasses (f : StylingDialect) : List String :=
  if f.isInline then [] else Role.all.map f.role

/-- What is known of the projects that have a kind of file. -/
def FileKind.occasion : FileKind → List Fact
  | .themeToggle => [.has .tailwind]
  | _ => []

theorem fileCases_occasion : fileCases.Always fun _ known kind =>
    kind.occasion.all known.contains := by
  decide +kernel

/-- Whether what is found has its reason, given some facts: classes are those of a role, and style
objects are declared and referred to by inline styling only, each reference with an entry beside
it. -/
def Cases.justifies (c : Cases Usage) (known : List Fact) : Usage → Bool
  | .inl (.inl value) => (Axis.all : List Styling).any fun s =>
      known.contains (.styling s) && s.dialect.roleClasses.contains value
  | .inl (.inr _) => true
  | .inr (.use name) =>
    known.contains (.styling .none) && c.offers known fun o => o = .inr (.entry name)
  | .inr _ => known.contains (.styling .none)

/-- Whether what is found in a template of a kind of file is the same in both languages, and has its
reason in all cases. The configuration of ESLint loads a module for the language. -/
def FileKind.InOrder (kind : FileKind) (c : Cases Usage) : Prop :=
  (kind = .eslintConfig ∨ c.resolve .typescript true = c.resolve .typescript false) ∧
    (c.under kind.occasion).Always fun _ => c.justifies

instance (kind : FileKind) (c : Cases Usage) : Decidable (kind.InOrder c) :=
  inferInstanceAs (Decidable (_ ∧ _))

/-- Whether all templates of a kind of file are in order. -/
def FileKind.AllInOrder (kind : FileKind) : Prop := ∀ t ∈ kind.templates,
  (t.scan usageReader kind.survey).any (fun c => kind.InOrder c) = true

instance (kind : FileKind) : Decidable kind.AllInOrder :=
  inferInstanceAs (Decidable (∀ t ∈ kind.templates, _))

/-! The kinds are evaluated one by one, for what is evaluated together is kept in memory together.
-/

theorem allInOrder_elements {kind : FileKind}
    (h : kind ∈ [.button, .navbar, .footer, .layout, .themeToggle, .protectedRoute]) :
    kind.AllInOrder := by
  fin_cases h
  all_goals decide +kernel

theorem allInOrder_pages {kind : FileKind} (h : kind ∈ [.app, .appRoutes, .rootLayout, .providers,
    .customApp, .homePage, .aboutPage, .dashboardPage]) : kind.AllInOrder := by
  fin_cases h
  all_goals decide +kernel

theorem allInOrder_modules {kind : FileKind} (h : kind ∈ [.zustandStore, .reduxSlice, .reduxStore,
    .reduxHooks, .queryClient, .currentUserHook, .localStorageHook, .utils, .types, .apiClient,
    .envExample, .shadcnUtils, .testSetup, .buttonTest]) : kind.AllInOrder := by
  fin_cases h
  all_goals decide +kernel

theorem allInOrder_configs {kind : FileKind} (h : kind ∈ [.stylesheet, .tailwindConfig,
    .postcssConfig, .shadcnConfig, .viteConfig, .eslintConfig, .vitestConfig, .prettierConfig,
    .prettierIgnore, .lintStagedConfig, .commitlintConfig, .huskyPreCommit, .huskyCommitMsg]) :
    kind.AllInOrder := by
  fin_cases h
  all_goals decide +kernel

theorem FileKind.allInOrder (kind : FileKind) : kind.AllInOrder := by
  cases kind with
  | button | navbar | footer | layout | themeToggle | protectedRoute =>
    exact allInOrder_elements (by decide)
  | app | appRoutes | rootLayout | providers | customApp | homePage | aboutPage | dashboardPage =>
    exact allInOrder_pages (by decide)
  | zustandStore | reduxSlice | reduxStore | reduxHooks | queryClient | currentUserHook
  | localStorageHook | utils | types | apiClient | envExample | shadcnUtils | testSetup
  | buttonTest => exact allInOrder_modules (by decide)
  | stylesheet | tailwindConfig | postcssConfig | shadcnConfig | viteConfig | eslintConfig
  | vitestConfig | prettierConfig | prettierIgnore | lintStagedConfig | commitlintConfig
  | huskyPreCommit | huskyCommitMsg => exact allInOrder_configs (by decide)

variable {p : Project} {kind : FileKind} {content : String}

/-- What is found in the template of every kind of file is in order. -/
theorem FileKind.exists_inOrder (kind : FileKind) (p : Project) :
    ∃ c, (kind.template p).scan usageReader kind.survey = some c ∧ kind.InOrder c := by
  obtain ⟨c, hscan, hc⟩ := (Option.any_eq_true _ _).1
    (kind.allInOrder _ (kind.template_mem_templates p))
  exact ⟨c, hscan, of_decide_eq_true hc⟩

/-- What is found in the template of a file of a project has its reason. -/
theorem FileKind.InOrder.exists_justifies {c : Cases Usage} (hc : kind.InOrder c) (hp : p.Gated)
    (hkind : kind ∈ p.files) {x : Usage} (hx : x ∈ c.given p) :
    ∃ known : List Fact, known.all p.meets = true ∧ c.justifies known x = true := by
  rw [Project.files_eq hp] at hkind
  obtain ⟨facts, hfacts, hoccasion⟩ := fileCases_occasion.exists_facts hkind
  have hmeets : kind.occasion.all p.meets = true := List.all_eq_true.2 fun f hf =>
    List.all_eq_true.1 hfacts f (by simpa using List.all_eq_true.1 hoccasion f hf)
  refine hc.2.exists_facts ?_
  rwa [Cases.given_under, if_pos hmeets]

/-! ## Attributes and references -/

/-- A file is in keeping with a styling. -/
structure IsStyled (s : Styling) (content : String) : Prop where
  /-- Class attributes have the values that the styling gives. -/
  classes (value : String) (h : value ∈ classNamesOf content) : value ∈ s.dialect.roleClasses
  /-- Without a styling there are none. -/
  plain (h : s = .none) : ¬classCue <:+: content.toList
  /-- With a styling by classes there are no style objects. -/
  inline (m : StyleMention) (h : m ∈ stylesOf content) : s = .none
  /-- Each style object that is referred to is declared in the file. -/
  declared (name : String) (h : .use name ∈ stylesOf content) : .entry name ∈ stylesOf content

theorem mem_of_contains {known : List Fact} {f : Fact} (hknown : known.all p.meets = true)
    (h : known.contains f = true) : p.meets f = true :=
  List.all_eq_true.1 hknown f (by simpa using h)

namespace Cases

variable {c : Cases Usage} {known : List Fact}

/-- A class that has its reason is one that the styling of the project gives. -/
theorem mem_roleClasses_of_justifies (hknown : known.all p.meets = true) {value : String}
    (h : c.justifies known (.inl (.inl value)) = true) :
    value ∈ p.styling.dialect.roleClasses := by
  obtain ⟨s, -, hs⟩ := List.any_eq_true.1 h
  obtain ⟨hstyling, hrole⟩ := Bool.and_eq_true_iff.1 hs
  obtain rfl : p.styling = s := of_decide_eq_true (mem_of_contains hknown hstyling)
  simpa using hrole

/-- A style object has its reason in inline styling only. -/
theorem styling_eq_none_of_justifies (hknown : known.all p.meets = true) {m : StyleMention}
    (h : c.justifies known (.inr m) = true) : p.styling = .none := by
  have hnone : known.contains (.styling .none) = true := by
    cases m with
    | constant | entry name => exact h
    | use name => exact (Bool.and_eq_true_iff.1 h).1
  exact of_decide_eq_true (mem_of_contains hknown hnone)

/-- A reference that has its reason stands beside the entry that it is to. -/
theorem entry_mem_of_justifies (hknown : known.all p.meets = true) {name : String}
    (h : c.justifies known (.inr (.use name)) = true) : .inr (.entry name) ∈ c.given p := by
  obtain ⟨x, hx, hentry⟩ := exists_of_offers hknown (Bool.and_eq_true_iff.1 h).2
  rwa [← of_decide_eq_true hentry]

end Cases

/-- Every file of a project is in keeping with its styling. -/
theorem FileKind.isStyled_of_render (hp : p.Gated) (hkind : kind ∈ p.files)
    (h : kind.render p = .ok content) : IsStyled p.styling content := by
  obtain ⟨c, hscan, hc⟩ := kind.exists_inOrder p
  have hrun := run_of_scan passesTitles_usageReader hscan h
  have hread : usageReader.read content.toList = c.given p := congrArg Prod.fst hrun
  have hclasses (value : String) (hvalue : value ∈ classNamesOf content) :
      value ∈ p.styling.dialect.roleClasses := by
    rw [mem_classNamesOf, hread] at hvalue
    obtain ⟨known, hknown, hreason⟩ := hc.exists_justifies hp hkind hvalue
    exact Cases.mem_roleClasses_of_justifies hknown hreason
  have hstyles {m : StyleMention} (hm : m ∈ stylesOf content) : ∃ known : List Fact,
      known.all p.meets = true ∧ c.justifies known (.inr m) = true := by
    rw [mem_stylesOf, hread] at hm
    exact hc.exists_justifies hp hkind hm
  constructor
  · exact hclasses
  · intro hnone
    have hnil : classNamesOf content = [] := List.eq_nil_iff_forall_not_mem.2 fun value hvalue => by
      have hrole := hclasses value hvalue
      rw [hnone] at hrole
      cases hrole
    exact not_classCue_isInfix
      (Prod.ext hnil (run_classReader_of_run (congrArg Prod.snd hrun)))
  · intro m hm
    obtain ⟨known, hknown, hreason⟩ := hstyles hm
    exact Cases.styling_eq_none_of_justifies hknown hreason
  · intro name hm
    obtain ⟨known, hknown, hreason⟩ := hstyles hm
    rw [mem_stylesOf, hread]
    exact Cases.entry_mem_of_justifies hknown hreason

/-! ## The button and the plain stylesheet -/

/-- The texts in the tables of the button. -/
def StylingDialect.tableTexts (f : StylingDialect) : List String :=
  f.buttonBase :: (f.buttonVariants.map (·.2) ++ f.buttonSizes.map (·.2))

theorem scan_button : (Template.button.scan tableReader FileKind.button.survey).any (fun c =>
    decide (∀ typescript : Bool,
      let known := [.styling .vanillaCss, Flavor.fact .typescript typescript]
      (∀ o ∈ c.under known, ∀ f ∈ o.1, f ∈ known) ∧
        List.map (·.2) (c.under known) = Styling.vanillaCss.dialect.tableTexts)) = true := by
  decide +kernel

/-- With the plain stylesheet the tables of the button hold the classes that it has rules for. -/
theorem FileKind.tableTexts_of_render (hstyling : p.styling = .vanillaCss)
    (h : FileKind.button.render p = .ok content) :
    tableTextsOf content = p.styling.dialect.tableTexts := by
  obtain ⟨c, hscan, hc⟩ := (Option.any_eq_true _ _).1 scan_button
  obtain ⟨hfacts, htexts⟩ := of_decide_eq_true hc (p.has .typescript)
  have hknown : [.styling .vanillaCss, Flavor.fact .typescript (p.has .typescript)].all p.meets =
      true := by
    rw [List.all_cons, List.all_cons, Flavor.meets_fact p .typescript]
    simp [Project.meets, hstyling]
  have hread := read_of_scan (Reader.passesTitles_of_calm_eq_nil rfl) hscan h
  rw [tableTextsOf, hread, Cases.given_eq_of_known hknown hfacts, htexts, hstyling]

/-- Whether each of the classes has a rule among those with the selectors. -/
def HasRules (selectors : List (List Char)) (value : String) : Prop :=
  ∀ w ∈ classesIn value, '.' :: w ∈ selectors

instance (selectors : List (List Char)) (value : String) : Decidable (HasRules selectors value) :=
  inferInstanceAs (Decidable (∀ w ∈ classesIn value, _))

theorem scan_vanillaStyles :
    (Template.vanillaStyles.scan ruleReader FileKind.stylesheet.survey).any (fun c =>
      decide (c.OfFlavor = true ∧ ∀ f ∈ Flavor.all, ∀ value ∈
        Styling.vanillaCss.dialect.roleClasses ++ Styling.vanillaCss.dialect.tableTexts,
          HasRules (c.inFlavor f) value)) = true := by
  decide +kernel

/-- The plain stylesheet has a rule for each class of a role and of the button. -/
theorem FileKind.hasRules_of_render (hstyling : p.styling = .vanillaCss)
    (h : FileKind.stylesheet.render p = .ok content) {value : String}
    (hvalue : value ∈ p.styling.dialect.roleClasses ++ p.styling.dialect.tableTexts) :
    HasRules (selectorsOf content) value := by
  obtain ⟨c, hscan, hc⟩ := (Option.any_eq_true _ _).1 scan_vanillaStyles
  obtain ⟨hflavor, hrules⟩ := of_decide_eq_true hc
  have htemplate : FileKind.stylesheet.template p = .vanillaStyles := by
    rw [template, hstyling]
    rfl
  rw [← htemplate] at hscan
  have hread := read_of_scan (Reader.passesTitles_of_calm_eq_nil rfl) hscan h
  rw [selectorsOf, hread, Cases.given_of_ofFlavor hflavor]
  rw [hstyling] at hvalue
  exact hrules p.flavor (Flavor.mem_all p) value hvalue

end ReactScaffold
