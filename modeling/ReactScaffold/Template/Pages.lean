import ReactScaffold.Template.Basic

/-!
# Page templates

The pages that a new project starts with.
-/

namespace ReactScaffold

/-- The home page. -/
def Template.homePage : Template where
  name := "pages/Home.j2"
  body := [
    .line [.member .fw .linkImport],
    .line [.text "import Button from '", .var .srcRoot, .text "/components/ui/Button';"],
    .text "",
    .line [.styles ["page", "page_title", "page_text", "page_actions"],
           .text "export default function ", .var .componentName, .text r#"() {"#],
    .text "  return (",
    .line [.text "    <section ", .styled "page", .text ">"],
    .line [.text "      <h1 ", .styled "page_title", .text ">Welcome to ", .title, .text "</h1>"],
    .line [.text "      <p ", .styled "page_text", .text ">"],
    .text ("        Your project is ready. Start editing the pages and components under src/ " ++
      "to build your app."),
    .text "      </p>",
    .line [.text "      <div ", .styled "page_actions", .text ">"],
    .line [.text "        <Link ", .member .fw .linkAttr, .text r#"="/about">"#],
    .text "          <Button>Get started</Button>",
    .text "        </Link>",
    .text r#"        <Button variant="outline">Documentation</Button>"#,
    .text "      </div>",
    .text "    </section>",
    .text "  );",
    .text r#"}"#]

/-- The page that lists what the project is built with. -/
def Template.aboutPage : Template where
  name := "pages/About.j2"
  body := [
    .text "const features = [",
    .each .feature (.var .stackFeatures) [
      .line [.text "  '", .var .feature, .text "',"]],
    .text "];",
    .text "",
    .line [.styles ["page", "page_title", "page_text"], .text "export default function ",
           .var .componentName, .text r#"() {"#],
    .text "  return (",
    .line [.text "    <section ", .styled "page", .text ">"],
    .line [.text "      <h1 ", .styled "page_title", .text ">About</h1>"],
    .line [.text "      <p ", .styled "page_text", .text ">", .title,
           .text " was scaffolded with:</p>"],
    .line [.text "      <ul ", .styled "page_text", .text ">"],
    .text r#"        {features.map((feature) => ("#,
    .text r#"          <li key={feature}>{feature}</li>"#,
    .text r#"        ))}"#,
    .text "      </ul>",
    .text "    </section>",
    .text "  );",
    .text r#"}"#]

/-- The page of a signed-in user. -/
def Template.dashboardPage : Template where
  name := "pages/Dashboard.j2"
  body := [
    .either .zustand [
      .text r#"import { useAuth } from '../store/useAuth';"#] [
      .text r#"import { useAppDispatch, useAppSelector } from '../store/hooks';"#,
      .text r#"import { logout } from '../store/authSlice';"#],
    .text "import Button from '../components/ui/Button';",
    .text "",
    .line [.styles ["page", "page_title", "page_text", "page_actions"],
           .text "export default function ", .var .componentName, .text r#"() {"#],
    .either .zustand [
      .text "  const user = useAuth((state) => state.user);",
      .text "  const logout = useAuth((state) => state.logout);"] [
      .text "  const user = useAppSelector((state) => state.auth.user);",
      .text "  const dispatch = useAppDispatch();"],
    .text "",
    .text "  return (",
    .line [.text "    <section ", .styled "page", .text ">"],
    .line [.text "      <h1 ", .styled "page_title", .text ">Dashboard</h1>"],
    .line [.text "      <p ", .styled "page_text",
           .text r#">Signed in as {user?.name ?? 'unknown user'}.</p>"#],
    .line [.text "      <div ", .styled "page_actions", .text ">"],
    .either .zustand [
      .text r#"        <Button variant="outline" onClick={logout}>"#] [
      .text r#"        <Button variant="outline" onClick={() => dispatch(logout())}>"#],
    .text "          Log out",
    .text "        </Button>",
    .text "      </div>",
    .text "    </section>",
    .text "  );",
    .text r#"}"#]

end ReactScaffold
