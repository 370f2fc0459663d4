import ReactScaffold.Template.Basic

/-!
# State templates

The stores and hooks of the state libraries.
-/

namespace ReactScaffold

/-- The authentication store of Zustand. -/
def Template.zustandStore : Template where
  name := "store/zustand.j2"
  body := [
    .text r#"import { create } from 'zustand';"#,
    .when .typescript [
      .line [.text r#"import type { User } from '"#, .var .srcRoot, .text "/types';"],
      .text "",
      .text r#"interface AuthState {"#,
      .text "  user: User | null;",
      .text "  token: string | null;",
      .text "  isAuthenticated: boolean;",
      .text "  login: (user: User, token: string) => void;",
      .text "  logout: () => void;",
      .text r#"}"#],
    .text "",
    .line [.text "export const useAuth = create", .typed "<AuthState>", .text r#"((set) => ({"#],
    .text "  user: null,",
    .text "  token: null,",
    .text "  isAuthenticated: false,",
    .text r#"  login: (user, token) => set({ user, token, isAuthenticated: true }),"#,
    .text r#"  logout: () => set({ user: null, token: null, isAuthenticated: false }),"#,
    .text r#"}));"#,
    .text "",
    .text "export default useAuth;"]

/-- The authentication slice of Redux. -/
def Template.reduxSlice : Template where
  name := "store/authSlice.j2"
  body := [
    .text r#"import { createSlice } from '@reduxjs/toolkit';"#,
    .when .typescript [
      .text r#"import type { PayloadAction } from '@reduxjs/toolkit';"#,
      .line [.text r#"import type { User } from '"#, .var .srcRoot, .text "/types';"],
      .text "",
      .text r#"interface AuthState {"#,
      .text "  user: User | null;",
      .text "  token: string | null;",
      .text "  isAuthenticated: boolean;",
      .text r#"}"#],
    .text "",
    .line [.text "const initialState", .typed ": AuthState", .text r#" = {"#],
    .text "  user: null,",
    .text "  token: null,",
    .text "  isAuthenticated: false,",
    .text r#"};"#,
    .text "",
    .text r#"const authSlice = createSlice({"#,
    .text "  name: 'auth',",
    .text "  initialState,",
    .text r#"  reducers: {"#,
    .line [.text "    login: (state, action",
           .typed r#": PayloadAction<{ user: User; token: string }>"#, .text r#") => {"#],
    .text "      state.user = action.payload.user;",
    .text "      state.token = action.payload.token;",
    .text "      state.isAuthenticated = true;",
    .text r#"    },"#,
    .text r#"    logout: (state) => {"#,
    .text "      state.user = null;",
    .text "      state.token = null;",
    .text "      state.isAuthenticated = false;",
    .text r#"    },"#,
    .text r#"  },"#,
    .text r#"});"#,
    .text "",
    .text r#"export const { login, logout } = authSlice.actions;"#,
    .text "export default authSlice.reducer;"]

/-- The store of Redux. -/
def Template.reduxStore : Template where
  name := "store/reduxStore.j2"
  body := [
    .text r#"import { configureStore } from '@reduxjs/toolkit';"#,
    .text "import authReducer from './authSlice';",
    .text "",
    .text r#"export const store = configureStore({"#,
    .text r#"  reducer: {"#,
    .text "    auth: authReducer,",
    .text r#"  },"#,
    .text r#"});"#,
    .when .typescript [
      .text "",
      .text "export type RootState = ReturnType<typeof store.getState>;",
      .text "export type AppDispatch = typeof store.dispatch;"]]

/-- The typed hooks of Redux. -/
def Template.reduxHooks : Template where
  name := "store/reduxHooks.j2"
  body := [
    .text r#"import { useDispatch, useSelector } from 'react-redux';"#,
    .when .typescript [
      .text r#"import type { TypedUseSelectorHook } from 'react-redux';"#,
      .text r#"import type { AppDispatch, RootState } from './store';"#],
    .text "",
    .line [.text "export const useAppDispatch", .typed ": () => AppDispatch",
           .text " = useDispatch;"],
    .line [.text "export const useAppSelector", .typed ": TypedUseSelectorHook<RootState>",
           .text " = useSelector;"]]

/-- The client of TanStack Query. -/
def Template.queryClient : Template where
  name := "store/queryClient.j2"
  body := [
    .text r#"import { QueryClient } from '@tanstack/react-query';"#,
    .text "",
    .text "export const createQueryClient = () =>",
    .text r#"  new QueryClient({"#,
    .text r#"    defaultOptions: {"#,
    .text r#"      queries: {"#,
    .text "        staleTime: 60 * 1000,",
    .text "        retry: 1,",
    .text "        refetchOnWindowFocus: false,",
    .text r#"      },"#,
    .text r#"    },"#,
    .text r#"  });"#,
    .text "",
    .text "export const queryClient = createQueryClient();"]

/-- The hook that asks for the current user. -/
def Template.currentUserHook : Template where
  name := "hooks/useCurrentUser.j2"
  body := [
    .text r#"import { useQuery } from '@tanstack/react-query';"#,
    .when .apiClient [
      .line [.text "import api from '", .var .srcRoot, .text "/lib/api';"]],
    .when .typescript [
      .line [.text r#"import type { User } from '"#, .var .srcRoot, .text "/types';"]],
    .text "",
    .line [.text "const fetchCurrentUser = async ()", .typed ": Promise<User>", .text r#" => {"#],
    .either .apiClient [
      .line [.text r#"  const { data } = await api.get"#, .typed "<User>", .text "('/me');"],
      .text "  return data;"] [
      .text "  const response = await fetch('/api/me');",
      .text r#"  if (!response.ok) {"#,
      .text r#"    throw new Error(`Request failed with status ${response.status}`);"#,
      .text r#"  }"#,
      .text "  return response.json();"],
    .text r#"};"#,
    .text "",
    .text "export const useCurrentUser = () =>",
    .text r#"  useQuery({"#,
    .text "    queryKey: ['currentUser'],",
    .text "    queryFn: fetchCurrentUser,",
    .text r#"  });"#,
    .text "",
    .text "export default useCurrentUser;"]

end ReactScaffold
