import ReactScaffold.Template.Basic

/-!
# Code quality templates

The configuration of the tools that check and format code.
-/

namespace ReactScaffold

/-- The configuration of ESLint in a Vite project. -/
def Template.eslintConfig : Template where
  name := "quality/eslint.config.j2"
  body := [
    .text "import js from '@eslint/js';",
    .text "import globals from 'globals';",
    .text "import reactHooks from 'eslint-plugin-react-hooks';",
    .text "import reactRefresh from 'eslint-plugin-react-refresh';",
    .when .typescript [
      .text "import tseslint from 'typescript-eslint';"],
    .text "import prettierRecommended from 'eslint-plugin-prettier/recommended';",
    .text "",
    .text "export default [",
    .text r#"  { ignores: ['dist', 'coverage'] },"#,
    .text "  js.configs.recommended,",
    .when .typescript [
      .text "  ...tseslint.configs.recommended,"],
    .text r#"  {"#,
    .text r#"    files: ['**/*.{js,jsx,ts,tsx}'],"#,
    .text r#"    languageOptions: {"#,
    .text "      ecmaVersion: 2020,",
    .text "      globals: globals.browser,",
    .unless .typescript [
      .text r#"      parserOptions: {"#,
      .text r#"        ecmaFeatures: { jsx: true },"#,
      .text "        sourceType: 'module',",
      .text r#"      },"#],
    .text r#"    },"#,
    .text r#"    plugins: {"#,
    .text "      'react-hooks': reactHooks,",
    .text "      'react-refresh': reactRefresh,",
    .text r#"    },"#,
    .text r#"    rules: {"#,
    .text "      ...reactHooks.configs.recommended.rules,",
    .text ("      'react-refresh/only-export-components': ['warn', " ++
      r#"{ allowConstantExport: true }],"#),
    .text r#"    },"#,
    .text r#"  },"#,
    .text "  prettierRecommended,",
    .text "];"]

/-- The configuration of ESLint in a Next.js project. -/
def Template.nextEslintConfig : Template where
  name := "quality/next-eslint.config.j2"
  body := [
    .text r#"import { dirname } from 'path';"#,
    .text r#"import { fileURLToPath } from 'url';"#,
    .text r#"import { FlatCompat } from '@eslint/eslintrc';"#,
    .text "import prettierRecommended from 'eslint-plugin-prettier/recommended';",
    .text "",
    .text "const __filename = fileURLToPath(import.meta.url);",
    .text "const __dirname = dirname(__filename);",
    .text "",
    .text r#"const compat = new FlatCompat({"#,
    .text "  baseDirectory: __dirname,",
    .text r#"});"#,
    .text "",
    .text "const eslintConfig = [",
    .text r#"  {"#,
    .text ("    ignores: ['node_modules/**', '.next/**', 'out/**', 'build/**', 'coverage/**', " ++
      "'next-env.d.ts'],"),
    .text r#"  },"#,
    .either .typescript [
      .text "  ...compat.extends('next/core-web-vitals', 'next/typescript'),"] [
      .text "  ...compat.extends('next/core-web-vitals'),"],
    .text "  prettierRecommended,",
    .text "];",
    .text "",
    .text "export default eslintConfig;"]

/-- The configuration of Prettier. -/
def Template.prettierConfig : Template where
  name := "quality/prettierrc.j2"
  body := [
    .text r#"{"#,
    .text r#"  "semi": true,"#,
    .text r#"  "singleQuote": true,"#,
    .text r#"  "trailingComma": "all","#,
    .text r#"  "printWidth": 100,"#,
    .text r#"  "tabWidth": 2"#,
    .text r#"}"#]

/-- The files that Prettier passes over. -/
def Template.prettierIgnore : Template where
  name := "quality/prettierignore.j2"
  body := [
    .text "node_modules",
    .text "dist",
    .text "build",
    .text "coverage",
    .unless .isVite [
      .text ".next",
      .text "out"],
    .text "package-lock.json",
    .text "yarn.lock",
    .text "bun.lockb"]

/-- The configuration of lint-staged. -/
def Template.lintStagedConfig : Template where
  name := "quality/lintstagedrc.json.j2"
  body := [
    .text r#"{"#,
    .text r#"  "*.{js,jsx,ts,tsx}": ["eslint --fix", "prettier --write"],"#,
    .text r#"  "*.{json,css,md}": ["prettier --write"]"#,
    .text r#"}"#]

/-- The configuration of Commitlint. -/
def Template.commitlintConfig : Template where
  name := "quality/commitlint.config.j2"
  body := [
    .text r#"export default {"#,
    .text "  extends: ['@commitlint/config-conventional'],",
    .text r#"};"#]

/-- The hook that runs before a commit. -/
def Template.preCommitHook : Template where
  name := "quality/pre-commit.j2"
  body := [
    .line [.member .pm .exec, .text " lint-staged"]]

/-- The hook that checks a commit message. -/
def Template.commitMsgHook : Template where
  name := "quality/commit-msg.j2"
  body := [
    .line [.member .pm .execNoInstall, .text r#" commitlint --edit "$1""#]]

end ReactScaffold
