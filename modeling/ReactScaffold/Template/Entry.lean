import ReactScaffold.Template.Basic

/-!
# Entry templates

Where an application starts: its root element, its routes and its context providers.
-/

namespace ReactScaffold

/-- The root element of a Vite project. -/
def Template.app : Template where
  name := "app/App.j2"
  body := [
    .either .redux [
      .text r#"import { Provider } from 'react-redux';"#,
      .text r#"import { store } from './store/store';"#] [
      .when .tanstack [
        .text r#"import { QueryClientProvider } from '@tanstack/react-query';"#,
        .text r#"import { ReactQueryDevtools } from '@tanstack/react-query-devtools';"#,
        .text r#"import { queryClient } from './store/queryClient';"#]],
    .text "import AppRoutes from './routes/AppRoutes';",
    .text "",
    .text r#"function App() {"#,
    .either .redux [
      .text "  return (",
      .text r#"    <Provider store={store}>"#,
      .text "      <AppRoutes />",
      .text "    </Provider>",
      .text "  );"] [
      .either .tanstack [
        .text "  return (",
        .text r#"    <QueryClientProvider client={queryClient}>"#,
        .text "      <AppRoutes />",
        .text r#"      <ReactQueryDevtools initialIsOpen={false} />"#,
        .text "    </QueryClientProvider>",
        .text "  );"] [
        .text "  return <AppRoutes />;"]],
    .text r#"}"#,
    .text "",
    .text "export default App;"]

/-- The routes of a Vite project. -/
def Template.appRoutes : Template where
  name := "app/AppRoutes.j2"
  body := [
    .text r#"import { BrowserRouter, Route, Routes } from 'react-router-dom';"#,
    .text "import Layout from '../components/layout/Layout';",
    .when .protectedRoute [
      .text "import ProtectedRoute from '../components/common/ProtectedRoute';"],
    .text "import HomePage from '../pages/HomePage';",
    .text "import AboutPage from '../pages/AboutPage';",
    .when .protectedRoute [
      .text "import DashboardPage from '../pages/DashboardPage';"],
    .text "",
    .text "export const AppRoutes = () => (",
    .text "  <BrowserRouter>",
    .text "    <Routes>",
    .text r#"      <Route element={<Layout />}>"#,
    .text r#"        <Route path="/" element={<HomePage />} />"#,
    .text r#"        <Route path="/about" element={<AboutPage />} />"#,
    .when .protectedRoute [
      .text r#"        <Route element={<ProtectedRoute />}>"#,
      .text r#"          <Route path="/dashboard" element={<DashboardPage />} />"#,
      .text "        </Route>"],
    .text "      </Route>",
    .text "    </Routes>",
    .text "  </BrowserRouter>",
    .text ");",
    .text "",
    .text "export default AppRoutes;"]

/-- The root layout of the app router. -/
def Template.rootLayout : Template where
  name := "app/RootLayout.j2"
  body := [
    .when .typescript [
      .text r#"import type { Metadata } from 'next';"#,
      .text r#"import type { ReactNode } from 'react';"#],
    .text "import './globals.css';",
    .text "import Navbar from '@/components/layout/Navbar';",
    .text "import Footer from '@/components/layout/Footer';",
    .when .providers [
      .text "import Providers from './providers';"],
    .text "",
    .line [.text "export const metadata", .typed ": Metadata", .text r#" = {"#],
    .line [.text "  title: '", .title, .text "',"],
    .text "  description: 'Generated by create-prtw',",
    .text r#"};"#,
    .text "",
    .line [.styles ["layout", "main"], .text r#"export default function RootLayout({ children }"#,
           .typed r#": { children: ReactNode }"#, .text r#") {"#],
    .text "  return (",
    .inline [.text r#"    <html lang="en""#],
    .when .themeToggle [
      .inline [.text " suppressHydrationWarning"]],
    .text ">",
    .text "      <body>",
    .either .providers [
      .text "        <Providers>",
      .line [.text "          <div ", .styled "layout", .text ">"],
      .text "            <Navbar />",
      .line [.text "            <main ", .styled "main", .text r#">{children}</main>"#],
      .text "            <Footer />",
      .text "          </div>",
      .text "        </Providers>"] [
      .line [.text "        <div ", .styled "layout", .text ">"],
      .text "          <Navbar />",
      .line [.text "          <main ", .styled "main", .text r#">{children}</main>"#],
      .text "          <Footer />",
      .text "        </div>"],
    .text "      </body>",
    .text "    </html>",
    .text "  );",
    .text r#"}"#]

/-- The context providers of the app router. -/
def Template.providers : Template where
  name := "app/Providers.j2"
  body := [
    .text "'use client';",
    .text "",
    .when .tanstack [
      .text r#"import { useState } from 'react';"#],
    .when .typescript [
      .text r#"import type { ReactNode } from 'react';"#],
    .either .redux [
      .text r#"import { Provider } from 'react-redux';"#,
      .text r#"import { store } from '@/store/store';"#] [
      .when .tanstack [
        .text r#"import { QueryClientProvider } from '@tanstack/react-query';"#,
        .text r#"import { ReactQueryDevtools } from '@tanstack/react-query-devtools';"#,
        .text r#"import { createQueryClient } from '@/store/queryClient';"#]],
    .text "",
    .line [.text r#"export default function Providers({ children }"#,
           .typed r#": { children: ReactNode }"#, .text r#") {"#],
    .either .redux [
      .text r#"  return <Provider store={store}>{children}</Provider>;"#] [
      .when .tanstack [
        .text "  const [queryClient] = useState(() => createQueryClient());",
        .text "",
        .text "  return (",
        .text r#"    <QueryClientProvider client={queryClient}>"#,
        .text r#"      {children}"#,
        .text r#"      <ReactQueryDevtools initialIsOpen={false} />"#,
        .text "    </QueryClientProvider>",
        .text "  );"]],
    .text r#"}"#]

/-- The root element of the pages router. -/
def Template.customApp : Template where
  name := "app/CustomApp.j2"
  body := [
    .text "import '@/styles/globals.css';",
    .when .typescript [
      .text r#"import type { AppProps } from 'next/app';"#],
    .when .tanstack [
      .text r#"import { useState } from 'react';"#],
    .either .redux [
      .text r#"import { Provider } from 'react-redux';"#,
      .text r#"import { store } from '@/store/store';"#] [
      .when .tanstack [
        .text r#"import { QueryClientProvider } from '@tanstack/react-query';"#,
        .text r#"import { ReactQueryDevtools } from '@tanstack/react-query-devtools';"#,
        .text r#"import { createQueryClient } from '@/store/queryClient';"#]],
    .text "import Layout from '@/components/layout/Layout';",
    .text "",
    .line [.text r#"export default function App({ Component, pageProps }"#, .typed ": AppProps",
           .text r#") {"#],
    .either .redux [
      .text "  return (",
      .text r#"    <Provider store={store}>"#,
      .text "      <Layout>",
      .text r#"        <Component {...pageProps} />"#,
      .text "      </Layout>",
      .text "    </Provider>",
      .text "  );"] [
      .either .tanstack [
        .text "  const [queryClient] = useState(() => createQueryClient());",
        .text "",
        .text "  return (",
        .text r#"    <QueryClientProvider client={queryClient}>"#,
        .text "      <Layout>",
        .text r#"        <Component {...pageProps} />"#,
        .text "      </Layout>",
        .text r#"      <ReactQueryDevtools initialIsOpen={false} />"#,
        .text "    </QueryClientProvider>",
        .text "  );"] [
        .text "  return (",
        .text "    <Layout>",
        .text r#"      <Component {...pageProps} />"#,
        .text "    </Layout>",
        .text "  );"]],
    .text r#"}"#]

end ReactScaffold
