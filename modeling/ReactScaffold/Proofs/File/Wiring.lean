import ReactScaffold.Json.Parser
import ReactScaffold.Proofs.File.Mentions
import ReactScaffold.Proofs.Project.Entails
import ReactScaffold.Proofs.Text.Items

/-!
# What configuration files name

The configuration of a tool names plugins and files. The plugins of PostCSS and of Vite and the
set-up file of the tests are items of lists; the configuration of Shadcn is a data document, in
which two paths are found along the names of members.
-/

namespace ReactScaffold

open Text

variable {p : Project} {content : String}

/-! ## Plugins and set-up files -/

/-- What comes before the table of plugins of PostCSS. -/
def pluginTable : List Char := ['p', 'l', 'u', 'g', 'i', 'n', 's', ':', ' ', '\x7b']

/-- What comes before the list of plugins of Vite. -/
def pluginList : List Char := ['p', 'l', 'u', 'g', 'i', 'n', 's', ':', ' ', '[']

/-- What comes before the list of set-up files of tests. -/
def setupList : List Char := ['s', 'e', 't', 'u', 'p', 'F', 'i', 'l', 'e', 's', ':', ' ', '[']

/-- The plugins of PostCSS, by cases. -/
def postcssPlugins : Cases String :=
  .of [.has .tailwindV4] ["@tailwindcss/postcss"] ++
    .of [.lacks .tailwindV4] ["tailwindcss", "autoprefixer"]

/-- The plugins of Vite, by cases. -/
def vitePlugins : Cases String :=
  .of [.has .tailwindV4] ["react", "tailwindcss"] ++ .of [.lacks .tailwindV4] ["react"]

/-- The set-up files of tests, by cases. -/
def setupFiles : Cases String :=
  .of [.has .typescript] ["./src/test/setup.ts"] ++
    .of [.lacks .typescript] ["./src/test/setup.js"]

theorem FileKind.postcssPlugins_of_render (h : FileKind.postcssConfig.render p = .ok content) :
    itemsBehind pluginTable content = postcssPlugins.given p := by
  have hscan : Template.postcssConfig.scan (itemReader pluginTable) FileKind.postcssConfig.survey =
      some postcssPlugins := by decide +kernel
  exact read_of_scan (Reader.passesTitles_of_calm_eq_nil rfl) hscan h

theorem FileKind.vitePlugins_of_render (h : FileKind.viteConfig.render p = .ok content) :
    itemsBehind pluginList content = vitePlugins.given p := by
  have hscan : Template.viteConfig.scan (itemReader pluginList) FileKind.viteConfig.survey =
      some vitePlugins := by decide +kernel
  exact read_of_scan (Reader.passesTitles_of_calm_eq_nil rfl) hscan h

theorem FileKind.setupFiles_of_render (h : FileKind.vitestConfig.render p = .ok content) :
    itemsBehind setupList content = setupFiles.given p := by
  have hscan : Template.vitestConfig.scan (itemReader setupList) FileKind.vitestConfig.survey =
      some setupFiles := by decide +kernel
  exact read_of_scan (Reader.passesTitles_of_calm_eq_nil rfl) hscan h

/-! ## Documents -/

/-- The text in a document along names of members. -/
def Json.textAt (v : Document) : List String → Option String
  | [] =>
    match v with
    | .str s => WideText.string? s
    | _ => none
  | name :: names => (v.get? (WideText.ofString name)).bind fun w => Json.textAt w names

/-- The text in the document that a source text writes, along names of members. -/
def textIn (content : List Char) (names : List String) : Option String :=
  (Json.parse content).toOption.bind fun v => v.textAt names

/-- The reader that takes all characters of a text. -/
def textReader : Reader Unit Char where
  start := ()
  step _ c := ([c], ())
  calm := []

theorem read_textReader (cs : List Char) : textReader.read cs = cs := by
  have hrun : textReader.run () cs = (cs, ()) := by
    induction cs with
    | nil => rfl
    | cons c cs ih =>
        rw [Reader.run_cons]
        show ([c] ++ (textReader.run () cs).1, (textReader.run () cs).2) = _
        rw [ih]
        rfl
  exact congrArg Prod.fst hrun

/-- The path of a kind of file in projects of a flavor. -/
def FileKind.pathIn (kind : FileKind) (f : Flavor) : String :=
  "/".intercalate (Folder.leadTo (kind.entry f))

theorem FileKind.path_eq (kind : FileKind) (p : Project) : kind.path p = kind.pathIn p.flavor :=
  (kind.spells_path p).text_eq

/-- Whether the characters are the configuration of Shadcn for projects of a flavor. -/
def namesPaths (f : Flavor) (content : List Char) : Bool :=
  textIn content ["tailwind", "config"] = some (FileKind.tailwindConfig.pathIn f) &&
    textIn content ["tailwind", "css"] = some (FileKind.stylesheet.pathIn f)

theorem scan_shadcnConfig :
    (Template.shadcnConfig.scan textReader FileKind.shadcnConfig.survey).any (fun c =>
      c.OfFlavor && Flavor.all.all fun f => namesPaths f (c.inFlavor f)) = true := by
  decide +kernel

/-- The configuration of Shadcn names the paths of the configuration of Tailwind and of the
stylesheet. -/
theorem FileKind.textIn_of_render (h : FileKind.shadcnConfig.render p = .ok content) :
    textIn content.toList ["tailwind", "config"] = some (FileKind.tailwindConfig.path p) ∧
      textIn content.toList ["tailwind", "css"] = some (FileKind.stylesheet.path p) := by
  obtain ⟨c, hscan, hc⟩ := (Option.any_eq_true _ _).1 scan_shadcnConfig
  obtain ⟨hflavor, hall⟩ := Bool.and_eq_true_iff.1 hc
  have hcontent : content.toList = c.inFlavor p.flavor := by
    rw [← Cases.given_of_ofFlavor hflavor, ← read_textReader content.toList]
    exact read_of_scan (Reader.passesTitles_of_calm_eq_nil rfl) hscan h
  have hnames := List.all_eq_true.1 hall p.flavor (Flavor.mem_all p)
  rw [namesPaths, Bool.and_eq_true, decide_eq_true_eq, decide_eq_true_eq] at hnames
  rwa [hcontent, path_eq, path_eq]

end ReactScaffold
