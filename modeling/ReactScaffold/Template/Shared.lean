import ReactScaffold.Template.Basic

/-!
# Shared module templates

The modules that the rest of a project may use.
-/

namespace ReactScaffold

/-- The hook that keeps a value in local storage. -/
def Template.localStorageHook : Template where
  name := "hooks/useLocalStorage.j2"
  body := [
    .text r#"import { useEffect, useState } from 'react';"#,
    .text "",
    .line [.text "export function useLocalStorage", .typed "<T>", .text "(key", .typed ": string",
           .text ", initialValue", .typed ": T", .text r#") {"#],
    .line [.text "  const [value, setValue] = useState", .typed "<T>", .text r#"(() => {"#],
    .text "    if (typeof window === 'undefined') return initialValue;",
    .text r#"    try {"#,
    .text "      const item = window.localStorage.getItem(key);",
    .text "      return item ? JSON.parse(item) : initialValue;",
    .text r#"    } catch {"#,
    .text "      return initialValue;",
    .text r#"    }"#,
    .text r#"  });"#,
    .text "",
    .text r#"  useEffect(() => {"#,
    .text r#"    try {"#,
    .text "      window.localStorage.setItem(key, JSON.stringify(value));",
    .text r#"    } catch {"#,
    .text "      // Storage may be full or disabled; keep the in-memory value.",
    .text r#"    }"#,
    .text r#"  }, [key, value]);"#,
    .text "",
    .line [.text "  return [value, setValue]", .typed " as const", .text ";"],
    .text r#"}"#,
    .text "",
    .text "export default useLocalStorage;"]

/-- Small functions. -/
def Template.utilities : Template where
  name := "lib/utils.j2"
  body := [
    .line [.text "export const cn = (...classes",
           .typed ": Array<string | false | null | undefined>", .text ") =>"],
    .text "  classes.filter(Boolean).join(' ');",
    .text "",
    .line [.text "export const formatDate = (date", .typed ": Date | string",
           .text ", locale = 'en-US') =>"],
    .text r#"  new Intl.DateTimeFormat(locale, {"#,
    .text "    year: 'numeric',",
    .text "    month: 'long',",
    .text "    day: 'numeric',",
    .text r#"  }).format(new Date(date));"#,
    .text "",
    .when .typescript [
      .text "// eslint-disable-next-line @typescript-eslint/no-explicit-any"],
    .line [.text "export function debounce", .typed "<T extends (...args: any[]) => void>",
           .text "(fn", .typed ": T", .text r#", wait = 300) {"#],
    .line [.text "  let timeout", .typed ": ReturnType<typeof setTimeout> | undefined", .text ";"],
    .line [.text "  return (...args", .typed ": Parameters<T>", .text r#") => {"#],
    .text "    clearTimeout(timeout);",
    .text "    timeout = setTimeout(() => fn(...args), wait);",
    .text r#"  };"#,
    .text r#"}"#]

/-- Shared types. -/
def Template.types : Template where
  name := "lib/types.j2"
  body := [
    .text r#"export interface User {"#,
    .text "  id: string;",
    .text "  name: string;",
    .text "  email: string;",
    .text r#"}"#,
    .text "",
    .text r#"export interface ApiResponse<T> {"#,
    .text "  data: T;",
    .text "  message?: string;",
    .text "  success: boolean;",
    .text r#"}"#,
    .text "",
    .text "export type Theme = 'light' | 'dark';"]

/-- The API client. -/
def Template.apiClient : Template where
  name := "lib/api.j2"
  body := [
    .text "import axios from 'axios';",
    .text "",
    .text r#"const api = axios.create({"#,
    .line [.text "  baseURL: ", .member .fw .envApiUrl, .text " || 'http://localhost:3000/api',"],
    .text "  timeout: 10000,",
    .text r#"  headers: {"#,
    .text "    'Content-Type': 'application/json',",
    .text r#"  },"#,
    .text r#"});"#,
    .text "",
    .text r#"api.interceptors.request.use((config) => {"#,
    .text r#"  if (typeof window !== 'undefined') {"#,
    .text "    const token = window.localStorage.getItem('token');",
    .text r#"    if (token) {"#,
    .text r#"      config.headers.Authorization = `Bearer ${token}`;"#,
    .text r#"    }"#,
    .text r#"  }"#,
    .text "  return config;",
    .text r#"});"#,
    .text "",
    .text "api.interceptors.response.use(",
    .text "  (response) => response,",
    .text r#"  (error) => {"#,
    .text r#"    if (error.response?.status === 401 && typeof window !== 'undefined') {"#,
    .text "      window.localStorage.removeItem('token');",
    .text r#"    }"#,
    .text "    return Promise.reject(error);",
    .text r#"  },"#,
    .text ");",
    .text "",
    .text "export default api;"]

/-- The function that merges class names. -/
def Template.classNames : Template where
  name := "lib/cn.j2"
  body := [
    .text r#"import { clsx } from 'clsx';"#,
    .when .typescript [
      .text r#"import type { ClassValue } from 'clsx';"#],
    .text r#"import { twMerge } from 'tailwind-merge';"#,
    .text "",
    .line [.text "export function cn(...inputs", .typed ": ClassValue[]", .text r#") {"#],
    .text "  return twMerge(clsx(inputs));",
    .text r#"}"#]

/-- The example of an environment file. -/
def Template.envExample : Template where
  name := "config/env.example.j2"
  body := [
    .text "# Base URL of the backend API used by src/lib/api",
    .line [.member .fw .envApiVar, .text "=http://localhost:3000/api"]]

end ReactScaffold
