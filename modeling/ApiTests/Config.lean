import ApiTests.Py.Dict
import ApiTests.Py.Text
import Mathlib.Algebra.Order.Ring.Rat
import Mathlib.Order.WithBot

/-!
# The environment configuration

Model of the validated configuration records (`config.py:19-157`): `EnvironmentConfig` with its
nested `AuthConfig`, `BrowserConfig`, `SuppliedSessionConfig`, `BrowserAuthContract` and
`TimeoutConfig`. The two timeouts are exact rationals or infinite. Validation is in
`Config/Validation.lean`; elsewhere a value of `EnvironmentConfig` is what some validation
returned.
-/

namespace ApiTests

open Py

/-- `EnvironmentType`. -/
inductive EnvironmentType where
  /-- `"local"`. -/
  | localType
  | staging
  | production
  deriving Repr, DecidableEq

/-- `AuthMode`. -/
inductive AuthMode where
  | suppliedSessions
  | browserPreprovisioned
  deriving Repr, DecidableEq

/-- `SuppliedSessionConfig`. -/
structure SuppliedSessionConfig where
  primarySessionEnv : Text
  secondarySessionEnv : Option Text
  adminSessionEnv : Option Text
  deriving Repr, DecidableEq

/-- `BrowserConfig`. -/
structure BrowserConfig where
  headless : Bool
  primaryUsernameEnv : Text
  primaryPasswordEnv : Text
  secondaryUsernameEnv : Text
  secondaryPasswordEnv : Text
  adminUsernameEnv : Text
  adminPasswordEnv : Text
  deriving Repr, DecidableEq

/-- `AuthConfig`. -/
structure AuthConfig where
  mode : AuthMode
  suppliedSessions : SuppliedSessionConfig
  browser : Option BrowserConfig
  deriving Repr, DecidableEq

/-- `Literal["Strict", "Lax", "None"]`. -/
inductive SameSite where
  | strict
  | lax
  | none
  deriving Repr, DecidableEq

/-- `BrowserAuthContract`. -/
structure BrowserAuthContract where
  callbackPath : Text
  defaultReturnPath : Text
  adminReturnPath : Text
  logoutReturnPath : Text
  providerLogoutPath : Text
  providerHostSuffixes : List Text
  sessionCookieSameSite : SameSite
  deriving Repr, DecidableEq

/-- `TimeoutConfig`. -/
structure TimeoutConfig where
  requestSeconds : WithTop ℚ
  eventuallySeconds : WithTop ℚ
  deriving Repr, DecidableEq

/-- `EnvironmentConfig`. -/
structure EnvironmentConfig where
  name : Text
  origin : Text
  apiBasePath : Text
  openapiPath : Text
  environmentType : EnvironmentType
  allowMutation : Bool
  allowDestructive : Bool
  sessionCookieName : Text
  auth : AuthConfig
  browserAuthContract : BrowserAuthContract
  timeouts : TimeoutConfig
  deriving Repr, DecidableEq

/-- `auth.browser` of `environments/local.yaml`. -/
def localBrowser : BrowserConfig where
  headless := true
  primaryUsernameEnv := lit "BA_PRIMARY_TEST_USERNAME"
  primaryPasswordEnv := lit "BA_PRIMARY_TEST_PASSWORD"
  secondaryUsernameEnv := lit "BA_SECONDARY_TEST_USERNAME"
  secondaryPasswordEnv := lit "BA_SECONDARY_TEST_PASSWORD"
  adminUsernameEnv := lit "BA_ADMIN_TEST_USERNAME"
  adminPasswordEnv := lit "BA_ADMIN_TEST_PASSWORD"

/-- `environments/local.yaml`. -/
def localConfig : EnvironmentConfig where
  name := lit "local"
  origin := lit "https://app.budgetanalyzer.localhost"
  apiBasePath := lit "/api"
  openapiPath := lit "/api-docs/openapi.json"
  environmentType := .localType
  allowMutation := true
  allowDestructive := true
  sessionCookieName := lit "BA_SESSION"
  auth :=
    { mode := .browserPreprovisioned
      suppliedSessions :=
        { primarySessionEnv := lit "BA_PRIMARY_SESSION"
          secondarySessionEnv := some (lit "BA_SECONDARY_SESSION")
          adminSessionEnv := some (lit "BA_ADMIN_SESSION") }
      browser := some localBrowser }
  browserAuthContract :=
    { callbackPath := lit "/login/oauth2/code/idp"
      defaultReturnPath := lit "/"
      adminReturnPath := lit "/admin"
      logoutReturnPath := lit "/peace"
      providerLogoutPath := lit "/v2/logout"
      providerHostSuffixes := [lit "auth0.com", lit "auth.budgetanalyzer.org"]
      sessionCookieSameSite := .strict }
  timeouts := { requestSeconds := (15 : ℚ), eventuallySeconds := (30 : ℚ) }

/-- A mapping of environment variables. -/
abbrev Environ := Dict Text Text

end ApiTests
