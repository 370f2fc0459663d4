import ReactScaffold.Template.Basic

/-!
# Configuration templates

The configuration of the styling and build tools.
-/

namespace ReactScaffold

/-- The configuration of Tailwind. -/
def Template.tailwindConfig : Template where
  name := "config/tailwind.config.j2"
  body := [
    .when .typescript [
      .text r#"import type { Config } from 'tailwindcss';"#],
    .when .shadcn [
      .text "import animate from 'tailwindcss-animate';"],
    .text "",
    .unless .typescript [
      .text r#"/** @type {import('tailwindcss').Config} */"#],
    .line [.text "const config", .typed ": Config", .text r#" = {"#],
    .text "  darkMode: 'class',",
    .text "  content: [",
    .each .pattern (.member (.var .fw) .tailwindContent) [
      .line [.text "    '", .var .pattern, .text "',"]],
    .text "  ],",
    .text r#"  theme: {"#,
    .either .shadcn [
      .text r#"    container: {"#,
      .text "      center: true,",
      .text "      padding: '2rem',",
      .text r#"    },"#,
      .text r#"    extend: {"#,
      .text r#"      colors: {"#,
      .text "        border: 'hsl(var(--border))',",
      .text "        input: 'hsl(var(--input))',",
      .text "        ring: 'hsl(var(--ring))',",
      .text "        background: 'hsl(var(--background))',",
      .text "        foreground: 'hsl(var(--foreground))',",
      .each .token
        (.list ["primary", "secondary", "destructive", "muted", "accent", "popover", "card"]) [
        .line [.text "        ", .var .token, .text r#": {"#],
        .line [.text "          DEFAULT: 'hsl(var(--", .var .token, .text "))',"],
        .line [.text "          foreground: 'hsl(var(--", .var .token, .text "-foreground))',"],
        .text r#"        },"#],
      .text r#"      },"#,
      .text r#"      borderRadius: {"#,
      .text "        lg: 'var(--radius)',",
      .text "        md: 'calc(var(--radius) - 2px)',",
      .text "        sm: 'calc(var(--radius) - 4px)',",
      .text r#"      },"#,
      .text r#"    },"#] [
      .text r#"    extend: {},"#],
    .text r#"  },"#,
    .either .shadcn [
      .text "  plugins: [animate],"] [
      .text "  plugins: [],"],
    .text r#"};"#,
    .text "",
    .text "export default config;"]

/-- The configuration of PostCSS. -/
def Template.postcssConfig : Template where
  name := "config/postcss.config.j2"
  body := [
    .text r#"const config = {"#,
    .text r#"  plugins: {"#,
    .either .tailwindV4 [
      .text r#"    '@tailwindcss/postcss': {},"#] [
      .text r#"    tailwindcss: {},"#,
      .text r#"    autoprefixer: {},"#],
    .text r#"  },"#,
    .text r#"};"#,
    .text "",
    .text "export default config;"]

/-- The configuration of Shadcn. -/
def Template.shadcnConfig : Template where
  name := "config/components.json.j2"
  body := [
    .text r#"{"#,
    .text r#"  "$schema": "https://ui.shadcn.com/schema.json","#,
    .text r#"  "style": "default","#,
    .line [.text r#"  "rsc": "#, .hole (.choose .isAppRouter (.str "true") (.str "false")),
           .text ","],
    .line [.text r#"  "tsx": "#, .hole (.choose .typescript (.str "true") (.str "false")),
           .text ","],
    .text r#"  "tailwind": {"#,
    .line [.text r#"    "config": ""#, .var .tailwindConfigPath, .text r#"","#],
    .line [.text r#"    "css": ""#, .var .stylesheetPath, .text r#"","#],
    .text r#"    "baseColor": "slate","#,
    .text r#"    "cssVariables": true,"#,
    .text r#"    "prefix": """#,
    .text r#"  },"#,
    .text r#"  "aliases": {"#,
    .text r#"    "components": "@/components","#,
    .text r#"    "utils": "@/lib/utils","#,
    .text r#"    "ui": "@/components/ui","#,
    .text r#"    "lib": "@/lib","#,
    .text r#"    "hooks": "@/hooks""#,
    .text r#"  }"#,
    .text r#"}"#]

/-- The configuration of Vite. -/
def Template.viteConfig : Template where
  name := "config/vite.config.j2"
  body := [
    .when .shadcn [
      .text r#"import { fileURLToPath, URL } from 'node:url';"#],
    .text r#"import { defineConfig } from 'vite';"#,
    .text "import react from '@vitejs/plugin-react';",
    .when .tailwindV4 [
      .text "import tailwindcss from '@tailwindcss/vite';"],
    .text "",
    .text r#"export default defineConfig({"#,
    .either .tailwindV4 [
      .text "  plugins: [react(), tailwindcss()],"] [
      .text "  plugins: [react()],"],
    .when .shadcn [
      .text r#"  resolve: {"#,
      .text r#"    alias: {"#,
      .text "      '@': fileURLToPath(new URL('./src', import.meta.url)),",
      .text r#"    },"#,
      .text r#"  },"#],
    .text r#"});"#]

end ReactScaffold
