import ReactScaffold.Template.Basic

/-!
# Stylesheet templates

The stylesheet of each styling.
-/

namespace ReactScaffold

/-- The stylesheet of Tailwind. -/
def Template.tailwindStyles : Template where
  name := "styles/tailwind.css.j2"
  body := [
    .either .tailwindV4 [
      .text r#"@import "tailwindcss";"#,
      .text "",
      .text "@custom-variant dark (&:where(.dark, .dark *));"] [
      .text "@tailwind base;",
      .text "@tailwind components;",
      .text "@tailwind utilities;"],
    .text "",
    .text r#":root {"#,
    .text "  font-family: Inter, system-ui, -apple-system, 'Segoe UI', Roboto, sans-serif;",
    .text "  -webkit-font-smoothing: antialiased;",
    .text "  -moz-osx-font-smoothing: grayscale;",
    .text r#"}"#,
    .text "",
    .text r#"body {"#,
    .text "  margin: 0;",
    .text r#"}"#]

/-- The stylesheet of Shadcn. -/
def Template.shadcnStyles : Template where
  name := "styles/shadcn.css.j2"
  body := [
    .text "@tailwind base;",
    .text "@tailwind components;",
    .text "@tailwind utilities;",
    .text "",
    .text r#"@layer base {"#,
    .text r#"  :root {"#,
    .text "    --background: 0 0% 100%;",
    .text "    --foreground: 222.2 84% 4.9%;",
    .text "    --card: 0 0% 100%;",
    .text "    --card-foreground: 222.2 84% 4.9%;",
    .text "    --popover: 0 0% 100%;",
    .text "    --popover-foreground: 222.2 84% 4.9%;",
    .text "    --primary: 222.2 47.4% 11.2%;",
    .text "    --primary-foreground: 210 40% 98%;",
    .text "    --secondary: 210 40% 96.1%;",
    .text "    --secondary-foreground: 222.2 47.4% 11.2%;",
    .text "    --muted: 210 40% 96.1%;",
    .text "    --muted-foreground: 215.4 16.3% 46.9%;",
    .text "    --accent: 210 40% 96.1%;",
    .text "    --accent-foreground: 222.2 47.4% 11.2%;",
    .text "    --destructive: 0 84.2% 60.2%;",
    .text "    --destructive-foreground: 210 40% 98%;",
    .text "    --border: 214.3 31.8% 91.4%;",
    .text "    --input: 214.3 31.8% 91.4%;",
    .text "    --ring: 222.2 84% 4.9%;",
    .text "    --radius: 0.5rem;",
    .text r#"  }"#,
    .text "",
    .text r#"  .dark {"#,
    .text "    --background: 222.2 84% 4.9%;",
    .text "    --foreground: 210 40% 98%;",
    .text "    --card: 222.2 84% 4.9%;",
    .text "    --card-foreground: 210 40% 98%;",
    .text "    --popover: 222.2 84% 4.9%;",
    .text "    --popover-foreground: 210 40% 98%;",
    .text "    --primary: 210 40% 98%;",
    .text "    --primary-foreground: 222.2 47.4% 11.2%;",
    .text "    --secondary: 217.2 32.6% 17.5%;",
    .text "    --secondary-foreground: 210 40% 98%;",
    .text "    --muted: 217.2 32.6% 17.5%;",
    .text "    --muted-foreground: 215 20.2% 65.1%;",
    .text "    --accent: 217.2 32.6% 17.5%;",
    .text "    --accent-foreground: 210 40% 98%;",
    .text "    --destructive: 0 62.8% 30.6%;",
    .text "    --destructive-foreground: 210 40% 98%;",
    .text "    --border: 217.2 32.6% 17.5%;",
    .text "    --input: 217.2 32.6% 17.5%;",
    .text "    --ring: 212.7 26.8% 83.9%;",
    .text r#"  }"#,
    .text r#"}"#,
    .text "",
    .text r#"@layer base {"#,
    .text r#"  * {"#,
    .text "    @apply border-border;",
    .text r#"  }"#,
    .text "",
    .text r#"  body {"#,
    .text "    @apply bg-background text-foreground;",
    .text r#"  }"#,
    .text r#"}"#]

/-- The stylesheet of plain classes. -/
def Template.vanillaStyles : Template where
  name := "styles/vanilla.css.j2"
  body := [
    .text r#":root {"#,
    .text "  --color-bg: #ffffff;",
    .text "  --color-text: #111827;",
    .text "  --color-muted: #6b7280;",
    .text "  --color-border: #e5e7eb;",
    .text "  --color-primary: #3b82f6;",
    .text "  --color-primary-hover: #2563eb;",
    .text "  --color-secondary: #6b7280;",
    .text "  --color-secondary-hover: #4b5563;",
    .text "  --radius: 6px;",
    .text "  font-family: Inter, system-ui, -apple-system, 'Segoe UI', Roboto, sans-serif;",
    .text "  color: var(--color-text);",
    .text "  background-color: var(--color-bg);",
    .text r#"}"#,
    .text "",
    .text "*,",
    .text "*::before,",
    .text r#"*::after {"#,
    .text "  box-sizing: border-box;",
    .text r#"}"#,
    .text "",
    .text r#"body {"#,
    .text "  margin: 0;",
    .text r#"}"#,
    .text "",
    .text r#"a {"#,
    .text "  color: inherit;",
    .text "  text-decoration: none;",
    .text r#"}"#,
    .text "",
    .text "/* Layout */",
    .text "",
    .text r#".layout {"#,
    .text "  display: flex;",
    .text "  flex-direction: column;",
    .text "  min-height: 100vh;",
    .text r#"}"#,
    .text "",
    .text r#".layout__main {"#,
    .text "  flex: 1;",
    .text r#"}"#,
    .text "",
    .text "/* Navbar */",
    .text "",
    .text r#".navbar {"#,
    .text "  border-bottom: 1px solid var(--color-border);",
    .text "  background-color: var(--color-bg);",
    .text r#"}"#,
    .text "",
    .text r#".navbar__inner {"#,
    .text "  display: flex;",
    .text "  align-items: center;",
    .text "  justify-content: space-between;",
    .text "  max-width: 72rem;",
    .text "  height: 4rem;",
    .text "  margin: 0 auto;",
    .text "  padding: 0 1rem;",
    .text r#"}"#,
    .text "",
    .text r#".navbar__brand {"#,
    .text "  font-size: 1.125rem;",
    .text "  font-weight: 600;",
    .text r#"}"#,
    .text "",
    .text r#".navbar__links {"#,
    .text "  display: none;",
    .text "  align-items: center;",
    .text "  gap: 1.5rem;",
    .text r#"}"#,
    .text "",
    .text r#".navbar__link {"#,
    .text "  font-size: 0.875rem;",
    .text "  font-weight: 500;",
    .text "  color: var(--color-muted);",
    .text r#"}"#,
    .text "",
    .text r#".navbar__link:hover {"#,
    .text "  color: var(--color-text);",
    .text r#"}"#,
    .text "",
    .text r#".navbar__actions {"#,
    .text "  display: flex;",
    .text "  align-items: center;",
    .text "  gap: 0.5rem;",
    .text r#"}"#,
    .text "",
    .text r#".navbar__toggle {"#,
    .text "  padding: 0.5rem;",
    .text "  font-size: 1.25rem;",
    .text "  background: none;",
    .text "  border: none;",
    .text "  border-radius: var(--radius);",
    .text "  cursor: pointer;",
    .text r#"}"#,
    .text "",
    .text r#".navbar__mobile {"#,
    .text "  padding: 0.75rem 1rem;",
    .text "  border-top: 1px solid var(--color-border);",
    .text r#"}"#,
    .text "",
    .text r#".navbar__mobile-link {"#,
    .text "  display: block;",
    .text "  padding: 0.5rem 0;",
    .text "  font-size: 0.875rem;",
    .text "  font-weight: 500;",
    .text r#"}"#,
    .text "",
    .text r#"@media (min-width: 768px) {"#,
    .text r#"  .navbar__links {"#,
    .text "    display: flex;",
    .text r#"  }"#,
    .text "",
    .text "  .navbar__toggle,",
    .text r#"  .navbar__mobile {"#,
    .text "    display: none;",
    .text r#"  }"#,
    .text r#"}"#,
    .text "",
    .text "/* Footer */",
    .text "",
    .text r#".footer {"#,
    .text "  padding: 1.5rem 0;",
    .text "  font-size: 0.875rem;",
    .text "  color: var(--color-muted);",
    .text "  text-align: center;",
    .text "  border-top: 1px solid var(--color-border);",
    .text r#"}"#,
    .text "",
    .text "/* Pages */",
    .text "",
    .text r#".page {"#,
    .text "  max-width: 72rem;",
    .text "  margin: 0 auto;",
    .text "  padding: 3rem 1rem;",
    .text r#"}"#,
    .text "",
    .text r#".page__title {"#,
    .text "  margin: 0;",
    .text "  font-size: 1.875rem;",
    .text "  font-weight: 700;",
    .text r#"}"#,
    .text "",
    .text r#".page__text {"#,
    .text "  margin-top: 1rem;",
    .text "  color: var(--color-muted);",
    .text r#"}"#,
    .text "",
    .text r#".page__actions {"#,
    .text "  display: flex;",
    .text "  gap: 0.75rem;",
    .text "  margin-top: 2rem;",
    .text r#"}"#,
    .text "",
    .text "/* Button */",
    .text "",
    .text r#".btn {"#,
    .text "  display: inline-flex;",
    .text "  align-items: center;",
    .text "  justify-content: center;",
    .text "  font-weight: 500;",
    .text "  border-radius: var(--radius);",
    .text "  cursor: pointer;",
    .text "  transition: background-color 0.15s ease;",
    .text r#"}"#,
    .text "",
    .text r#".btn:disabled {"#,
    .text "  cursor: not-allowed;",
    .text "  opacity: 0.5;",
    .text r#"}"#,
    .text "",
    .text r#".btn--primary {"#,
    .text "  color: #ffffff;",
    .text "  background-color: var(--color-primary);",
    .text "  border: none;",
    .text r#"}"#,
    .text "",
    .text r#".btn--primary:hover:not(:disabled) {"#,
    .text "  background-color: var(--color-primary-hover);",
    .text r#"}"#,
    .text "",
    .text r#".btn--secondary {"#,
    .text "  color: #ffffff;",
    .text "  background-color: var(--color-secondary);",
    .text "  border: none;",
    .text r#"}"#,
    .text "",
    .text r#".btn--secondary:hover:not(:disabled) {"#,
    .text "  background-color: var(--color-secondary-hover);",
    .text r#"}"#,
    .text "",
    .text r#".btn--outline {"#,
    .text "  color: var(--color-primary);",
    .text "  background-color: transparent;",
    .text "  border: 1px solid var(--color-primary);",
    .text r#"}"#,
    .text "",
    .text r#".btn--sm {"#,
    .text "  padding: 8px 16px;",
    .text "  font-size: 14px;",
    .text r#"}"#,
    .text "",
    .text r#".btn--md {"#,
    .text "  padding: 10px 20px;",
    .text "  font-size: 16px;",
    .text r#"}"#,
    .text "",
    .text r#".btn--lg {"#,
    .text "  padding: 12px 24px;",
    .text "  font-size: 18px;",
    .text r#"}"#]

/-- The stylesheet beside inline styles. -/
def Template.plainStyles : Template where
  name := "styles/plain.css.j2"
  body := [
    .text "*,",
    .text "*::before,",
    .text r#"*::after {"#,
    .text "  box-sizing: border-box;",
    .text r#"}"#,
    .text "",
    .text r#"body {"#,
    .text "  margin: 0;",
    .text "  font-family: Inter, system-ui, -apple-system, 'Segoe UI', Roboto, sans-serif;",
    .text "  color: #111827;",
    .text "  background-color: #ffffff;",
    .text r#"}"#]

end ReactScaffold
