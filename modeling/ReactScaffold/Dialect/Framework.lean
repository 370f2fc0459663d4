import ReactScaffold.Project.Choices

/-!
# Framework and language dialects

What a framework or a language contributes to generated sources and to the manifest.
-/

namespace ReactScaffold

/-- How one framework is written in generated sources. -/
structure FrameworkDialect where
  name : String
  isVite : Bool
  linkImport : String
  linkAttr : String
  srcRootFromPages : String
  esmConfigExt : String
  envApiUrl : String
  envApiVar : String
  tailwindContent : List String
  scripts : List (String × String)
deriving DecidableEq, Repr

/-- The dialect of each framework. -/
def Framework.dialect : Framework → FrameworkDialect
  | .reactVite => {
      name := "React (Vite)"
      isVite := true
      linkImport := r#"import { Link } from 'react-router-dom';"#
      linkAttr := "to"
      srcRootFromPages := ".."
      esmConfigExt := "js"
      envApiUrl := "import.meta.env.VITE_API_URL"
      envApiVar := "VITE_API_URL"
      tailwindContent := ["./index.html", r#"./src/**/*.{js,ts,jsx,tsx}"#]
      scripts := [("dev", "vite"), ("build", "vite build"), ("start", "vite preview"),
        ("preview", "vite preview")] }
  | .nextjs => {
      name := "Next.js"
      isVite := false
      linkImport := "import Link from 'next/link';"
      linkAttr := "href"
      srcRootFromPages := "@"
      esmConfigExt := "mjs"
      envApiUrl := "process.env.NEXT_PUBLIC_API_URL"
      envApiVar := "NEXT_PUBLIC_API_URL"
      tailwindContent := [r#"./src/**/*.{js,ts,jsx,tsx,mdx}"#]
      scripts := [("dev", "next dev"), ("build", "next build"), ("start", "next start")] }

/-- How one language is written: whether types are, and the extensions of its files. -/
structure LanguageDialect where
  annotate : Bool
  componentExt : String
  moduleExt : String
deriving DecidableEq, Repr

/-- The annotation, where the language has types. -/
def LanguageDialect.typeMark (f : LanguageDialect) (text : String) : String :=
  if f.annotate then text else ""

/-- The dialect of each language. -/
def Language.dialect : Language → LanguageDialect
  | .javascript => ⟨false, "jsx", "js"⟩
  | .typescript => ⟨true, "tsx", "ts"⟩

end ReactScaffold
