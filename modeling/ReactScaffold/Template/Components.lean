import ReactScaffold.Template.Basic

/-!
# Component templates

The elements that every project gets: the button, the bars around a page, and the parts that depend
on styling and state.
-/

namespace ReactScaffold

/-- The button. -/
def Template.button : Template where
  name := "components/Button.j2"
  body := [
    .when .useClient [
      .text "'use client';",
      .text ""],
    .text "import React from 'react';",
    .when .typescript [
      .text "",
      .text "type ButtonVariant = 'primary' | 'secondary' | 'outline';",
      .text "type ButtonSize = 'sm' | 'md' | 'lg';",
      .text "",
      .text r#"interface ButtonProps extends React.ButtonHTMLAttributes<HTMLButtonElement> {"#,
      .text "  children: React.ReactNode;",
      .text "  variant?: ButtonVariant;",
      .text "  size?: ButtonSize;",
      .text r#"}"#],
    .text "",
    .line [.text "const base",
           .hole (.call (.var .ts)
             [.join [.str ": ", .member (.var .style) .buttonValueType]] none),
           .text " = ",
           .hole (.call (.member (.var .style) .value) [.member (.var .style) .buttonBase] none),
           .text ";"],
    .text "",
    .line [.text "const variants",
           .hole (.call (.var .ts)
             [.join [.str ": Record<ButtonVariant, ", .member (.var .style) .buttonValueType,
               .str ">"]] none),
           .text r#" = {"#],
    .eachEntry .entryName .entryValue (.member (.var .style) .buttonVariants) [
      .line [.text "  ", .var .entryName, .text ": ",
             .hole (.call (.member (.var .style) .value) [.var .entryValue] none), .text ","]],
    .text r#"};"#,
    .text "",
    .line [.text "const sizes",
           .hole (.call (.var .ts)
             [.join [.str ": Record<ButtonSize, ", .member (.var .style) .buttonValueType,
               .str ">"]] none),
           .text r#" = {"#],
    .eachEntry .entryName .entryValue (.member (.var .style) .buttonSizes) [
      .line [.text "  ", .var .entryName, .text ": ",
             .hole (.call (.member (.var .style) .value) [.var .entryValue] none), .text ","]],
    .text r#"};"#,
    .text "",
    .text r#"export const Button = ({"#,
    .text "  children,",
    .text "  variant = 'primary',",
    .text "  size = 'md',",
    .text "  disabled = false,",
    .text "  className = '',",
    .text "  type = 'button',",
    .text "  ...props",
    .line [.text r#"}"#, .typed ": ButtonProps", .text r#") => {"#],
    .branch (.holds (.member (.var .style) .inline)) [
      .line [.text "  const appearance", .typed ": React.CSSProperties", .text r#" = {"#],
      .text "    ...base,",
      .text "    ...variants[variant],",
      .text "    ...sizes[size],",
      .text "    cursor: disabled ? 'not-allowed' : 'pointer',",
      .text "    opacity: disabled ? 0.5 : 1,",
      .text r#"  };"#,
      .text "",
      .text "  return (",
      .text (r#"    <button type={type} className={className} style={appearance} "# ++
        r#"disabled={disabled} {...props}>"#),
      .text r#"      {children}"#,
      .text "    </button>",
      .text "  );"] [
      .text ("  const classes = [base, variants[variant], sizes[size], " ++
        "className].filter(Boolean).join(' ');"),
      .text "",
      .text "  return (",
      .text r#"    <button type={type} className={classes} disabled={disabled} {...props}>"#,
      .text r#"      {children}"#,
      .text "    </button>",
      .text "  );"],
    .text r#"};"#,
    .text "",
    .text "export default Button;"]

/-- The navigation bar. -/
def Template.navbar : Template where
  name := "components/Navbar.j2"
  body := [
    .bind .iconImport (.call (.member (.var .icons) .importFor) [.str "menu", .str "close"] none) [
      .when .useClient [
        .text "'use client';",
        .text ""],
      .text r#"import { useState } from 'react';"#,
      .line [.member .fw .linkImport],
      .when .iconImport [
        .line [.var .iconImport]],
      .when .themeToggle [
        .text "import ThemeToggle from '../common/ThemeToggle';"],
      .when .typescript [
        .text "",
        .text r#"interface NavItem {"#,
        .text "  label: string;",
        .text "  to: string;",
        .text r#"}"#],
      .text "",
      .line [.text "const links", .typed ": NavItem[]", .text " = ["],
      .text r#"  { label: 'Home', to: '/' },"#,
      .text r#"  { label: 'About', to: '/about' },"#,
      .when .protectedRoute [
        .text r#"  { label: 'Dashboard', to: '/dashboard' },"#],
      .text "];",
      .text "",
      .line [.styles ["navbar", "navbar_inner", "brand", "nav_links", "nav_link", "nav_actions",
               "menu_button", "mobile_menu", "mobile_link"],
             .text r#"export const Navbar = () => {"#],
      .text "  const [isOpen, setIsOpen] = useState(false);",
      .text "",
      .text "  return (",
      .line [.text "    <header ", .styled "navbar", .text ">"],
      .line [.text "      <nav ", .styled "navbar_inner", .text ">"],
      .line [.text "        <Link ", .member .fw .linkAttr, .text r#"="/" "#, .styled "brand",
             .text ">"],
      .line [.text "          ", .title],
      .text "        </Link>",
      .line [.text "        <div ", .styled "nav_links", .text ">"],
      .text r#"          {links.map((link) => ("#,
      .line [.text r#"            <Link key={link.to} "#, .member .fw .linkAttr,
             .text r#"={link.to} "#, .styled "nav_link", .text ">"],
      .text r#"              {link.label}"#,
      .text "            </Link>",
      .text r#"          ))}"#,
      .text "        </div>",
      .line [.text "        <div ", .styled "nav_actions", .text ">"],
      .when .themeToggle [
        .text "          <ThemeToggle />"],
      .text "          <button",
      .text r#"            type="button""#,
      .line [.text "            ", .styled "menu_button"],
      .text r#"            onClick={() => setIsOpen((open) => !open)}"#,
      .text r#"            aria-label={isOpen ? 'Close menu' : 'Open menu'}"#,
      .text r#"            aria-expanded={isOpen}"#,
      .text "          >",
      .line [.text r#"            {isOpen ? "#, .glyph "close", .text " : ", .glyph "menu",
             .text r#" }"#],
      .text "          </button>",
      .text "        </div>",
      .text "      </nav>",
      .text r#"      {isOpen && ("#,
      .line [.text "        <div ", .styled "mobile_menu", .text ">"],
      .text r#"          {links.map((link) => ("#,
      .text "            <Link",
      .text r#"              key={link.to}"#,
      .line [.text "              ", .member .fw .linkAttr, .text r#"={link.to}"#],
      .line [.text "              ", .styled "mobile_link"],
      .text r#"              onClick={() => setIsOpen(false)}"#,
      .text "            >",
      .text r#"              {link.label}"#,
      .text "            </Link>",
      .text r#"          ))}"#,
      .text "        </div>",
      .text r#"      )}"#,
      .text "    </header>",
      .text "  );",
      .text r#"};"#,
      .text "",
      .text "export default Navbar;"]]

/-- The footer. -/
def Template.footer : Template where
  name := "components/Footer.j2"
  body := [
    .line [.styles ["footer"], .text r#"export const Footer = () => {"#],
    .text "  const year = new Date().getFullYear();",
    .text "",
    .text "  return (",
    .line [.text "    <footer ", .styled "footer", .text ">"],
    .line [.text r#"      <p>&copy; {year} "#, .title, .text ". All rights reserved.</p>"],
    .text "    </footer>",
    .text "  );",
    .text r#"};"#,
    .text "",
    .text "export default Footer;"]

/-- The layout around a page. -/
def Template.layout : Template where
  name := "components/Layout.j2"
  body := [
    .either .isVite [
      .text r#"import { Outlet } from 'react-router-dom';"#] [
      .when .typescript [
        .text r#"import type { ReactNode } from 'react';"#]],
    .text "import Navbar from './Navbar';",
    .text "import Footer from './Footer';",
    .branch (.both (.holds (.var .typescript)) (.not (.holds (.var .isVite)))) [
      .text "",
      .text r#"interface LayoutProps {"#,
      .text "  children: ReactNode;",
      .text r#"}"#] [],
    .text "",
    .inline [.styles ["layout", "main"]],
    .either .isVite [
      .text "export const Layout = () => ("] [
      .line [.text r#"export const Layout = ({ children }"#, .typed ": LayoutProps",
             .text ") => ("]],
    .line [.text "  <div ", .styled "layout", .text ">"],
    .text "    <Navbar />",
    .line [.text "    <main ", .styled "main", .text ">"],
    .either .isVite [
      .text "      <Outlet />"] [
      .text r#"      {children}"#],
    .text "    </main>",
    .text "    <Footer />",
    .text "  </div>",
    .text ");",
    .text "",
    .text "export default Layout;"]

/-- The switch between the light and the dark theme. -/
def Template.themeToggle : Template where
  name := "components/ThemeToggle.j2"
  body := [
    .bind .iconImport (.call (.member (.var .icons) .importFor) [.str "sun", .str "moon"] none) [
      .when .useClient [
        .text "'use client';",
        .text ""],
      .text r#"import { useEffect, useState } from 'react';"#,
      .when .iconImport [
        .line [.var .iconImport]],
      .text "",
      .text "const STORAGE_KEY = 'theme';",
      .when .typescript [
        .text "",
        .text "type Theme = 'light' | 'dark';"],
      .text "",
      .line [.text "const getInitialTheme = ()", .typed ": Theme", .text r#" => {"#],
      .text "  if (typeof window === 'undefined') return 'light';",
      .text "  const stored = window.localStorage.getItem(STORAGE_KEY);",
      .text "  if (stored === 'light' || stored === 'dark') return stored;",
      .text ("  return window.matchMedia('(prefers-color-scheme: dark)').matches ? 'dark' : " ++
        "'light';"),
      .text r#"};"#,
      .text "",
      .text r#"export const ThemeToggle = () => {"#,
      .line [.text "  const [theme, setTheme] = useState", .typed "<Theme>", .text "('light');"],
      .text "",
      .text r#"  useEffect(() => {"#,
      .text "    setTheme(getInitialTheme());",
      .text r#"  }, []);"#,
      .text "",
      .text r#"  useEffect(() => {"#,
      .text "    document.documentElement.classList.toggle('dark', theme === 'dark');",
      .text "    window.localStorage.setItem(STORAGE_KEY, theme);",
      .text r#"  }, [theme]);"#,
      .text "",
      .text "  const isDark = theme === 'dark';",
      .text "",
      .text "  return (",
      .text "    <button",
      .text r#"      type="button""#,
      .line [.text "      ", .styled "theme_toggle"],
      .text r#"      onClick={() => setTheme(isDark ? 'light' : 'dark')}"#,
      .text r#"      aria-label={isDark ? 'Switch to light mode' : 'Switch to dark mode'}"#,
      .text "    >",
      .line [.text r#"      {isDark ? "#, .glyph "sun", .text " : ", .glyph "moon", .text r#" }"#],
      .text "    </button>",
      .text "  );",
      .text r#"};"#,
      .text "",
      .text "export default ThemeToggle;"]]

/-- The route that only a signed-in user can follow. -/
def Template.protectedRoute : Template where
  name := "components/ProtectedRoute.j2"
  body := [
    .text r#"import { Navigate, Outlet } from 'react-router-dom';"#,
    .either .zustand [
      .text r#"import { useAuth } from '../../store/useAuth';"#] [
      .text r#"import { useAppSelector } from '../../store/hooks';"#],
    .when .typescript [
      .text "",
      .text r#"interface ProtectedRouteProps {"#,
      .text "  redirectTo?: string;",
      .text r#"}"#],
    .text "",
    .line [.text r#"export const ProtectedRoute = ({ redirectTo = '/' }"#,
           .typed ": ProtectedRouteProps", .text r#") => {"#],
    .either .zustand [
      .text "  const isAuthenticated = useAuth((state) => state.isAuthenticated);"] [
      .text "  const isAuthenticated = useAppSelector((state) => state.auth.isAuthenticated);"],
    .text "",
    .text r#"  if (!isAuthenticated) {"#,
    .text r#"    return <Navigate to={redirectTo} replace />;"#,
    .text r#"  }"#,
    .text "",
    .text "  return <Outlet />;",
    .text r#"};"#,
    .text "",
    .text "export default ProtectedRoute;"]

end ReactScaffold
