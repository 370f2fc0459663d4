import ReactScaffold.Template.Basic

/-!
# Test templates

The configuration of the test runner and a first test.
-/

namespace ReactScaffold

/-- The configuration of Vitest. -/
def Template.vitestConfig : Template where
  name := "testing/vitest.config.j2"
  body := [
    .unless .isVite [
      .text r#"import { fileURLToPath, URL } from 'node:url';"#],
    .text r#"import { defineConfig } from 'vitest/config';"#,
    .text "import react from '@vitejs/plugin-react';",
    .text "",
    .text r#"export default defineConfig({"#,
    .text "  plugins: [react()],",
    .unless .isVite [
      .text r#"  resolve: {"#,
      .text r#"    alias: {"#,
      .text "      '@': fileURLToPath(new URL('./src', import.meta.url)),",
      .text r#"    },"#,
      .text r#"  },"#],
    .text r#"  test: {"#,
    .text "    environment: 'jsdom',",
    .text "    globals: true,",
    .line [.text "    setupFiles: ['./src/test/setup.", .member .lang .moduleExt, .text "'],"],
    .text "    css: true,",
    .text r#"  },"#,
    .text r#"});"#]

/-- The set-up of each test. -/
def Template.testSetup : Template where
  name := "testing/setup.j2"
  body := [
    .text "import '@testing-library/jest-dom/vitest';"]

/-- The test of the button. -/
def Template.buttonTest : Template where
  name := "testing/Button.test.j2"
  body := [
    .text r#"import { describe, expect, it, vi } from 'vitest';"#,
    .text r#"import { fireEvent, render, screen } from '@testing-library/react';"#,
    .text "import Button from '../components/ui/Button';",
    .text "",
    .text r#"describe('Button', () => {"#,
    .text r#"  it('renders its children', () => {"#,
    .text "    render(<Button>Click me</Button>);",
    .text r#"    expect(screen.getByRole('button', { name: 'Click me' })).toBeInTheDocument();"#,
    .text r#"  });"#,
    .text "",
    .text r#"  it('calls onClick when clicked', () => {"#,
    .text "    const onClick = vi.fn();",
    .text r#"    render(<Button onClick={onClick}>Click me</Button>);"#,
    .text "    fireEvent.click(screen.getByRole('button'));",
    .text "    expect(onClick).toHaveBeenCalledTimes(1);",
    .text r#"  });"#,
    .text "",
    .text r#"  it('does not call onClick when disabled', () => {"#,
    .text "    const onClick = vi.fn();",
    .text "    render(",
    .text r#"      <Button onClick={onClick} disabled>"#,
    .text "        Click me",
    .text "      </Button>,",
    .text "    );",
    .text "    fireEvent.click(screen.getByRole('button'));",
    .text "    expect(onClick).not.toHaveBeenCalled();",
    .text r#"  });"#,
    .text r#"});"#]

end ReactScaffold
