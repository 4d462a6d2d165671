import ApiTests.Credentials.Local

/-!
# Browser sessions: signup, login and the account state

Model of `acquire_browser_session` (`auth.py:115-171`) and `_required_secret` on the credential
file. The browser flows are outside: what `signup` and `login` do when they are called is
an argument (`SignupOutcome`, `LoginOutcome`), the session is of any type, and the expected return
paths that `_login_browser_account` hands to the browser are left out. An `Event` records what was
attempted, each signup with the file as it was at that moment.

`run` is a sequence of calls with generated credentials, from a file on.
-/

namespace ApiTests.Auth

open Py Credentials

/-! ## The acquisition -/

/-- What a call of `signup` does: return a session, raise `BrowserAccountExistsError`, or raise
something else. -/
inductive SignupOutcome (σ : Type) where
  | session (s : σ)
  | accountExists
  | failure (message : Text)

/-- What a call of `login` does. -/
inductive LoginOutcome (σ : Type) where
  | session (s : σ)
  | failure (message : Text)

/-- What `acquire_browser_session` raises. -/
inductive AcquisitionError where
  /-- `AuthConfigurationError`. -/
  | configuration (message : Text)
  /-- An exception of a browser flow. -/
  | flow (message : Text)
  /-- The `UnicodeEncodeError` of a write to the credential file. -/
  | unicodeEncode
  deriving Repr, DecidableEq

/-- `except LocalCredentialError as exc: raise AuthConfigurationError(str(exc))`. -/
def AcquisitionError.ofOperation : OperationError → AcquisitionError
  | .credential e => .configuration e.message
  | .unicodeEncode => .unicodeEncode

/-- What happened. -/
inductive Event where
  /-- `signup` was called, the file being what it is. -/
  | signup (role : SessionRole) (credentials : BrowserLoginCredentials) (file : CredentialFile)
  | login (role : SessionRole) (credentials : BrowserLoginCredentials)
  /-- A call for the role returned a session. -/
  | session (role : SessionRole)

/-- The role an event is about. -/
def Event.role : Event → SessionRole
  | .signup role _ _ => role
  | .login role _ => role
  | .session role => role

/-- The credentials a flow was given. -/
def Event.credentials : Event → Option BrowserLoginCredentials
  | .signup _ credentials _ => some credentials
  | .login _ credentials => some credentials
  | .session _ => none

/-- The outcome of a call, the file and the flows it called. -/
structure Acquisition (σ : Type) where
  result : Except AcquisitionError σ
  file : CredentialFile
  events : List Event

variable {σ : Type}

/-- `_login_browser_account`, called behind `events`. -/
def loginBrowserAccount (role : SessionRole) (credentials : BrowserLoginCredentials)
    (login : LoginOutcome σ) (file : CredentialFile) (events : List Event) : Acquisition σ :=
  match login with
  | .session s => ⟨.ok s, file, events ++ [.login role credentials]⟩
  | .failure message => ⟨.error (.flow message), file, events ++ [.login role credentials]⟩

/-- `mark_local_credentials_complete` and the return of the session. -/
def completeAccount (config : EnvironmentConfig) (role : SessionRole)
    (credentials : BrowserLoginCredentials) (path : Text) (acquired : Acquisition σ) : Acquisition σ :=
  match acquired.result with
  | .error e => ⟨.error e, acquired.file, acquired.events⟩
  | .ok s =>
    match perform path (markLocalCredentialsComplete config role credentials path) acquired.file with
    | (.error e, file) => ⟨.error (.ofOperation e), file, acquired.events⟩
    | (.ok _, file) => ⟨.ok s, file, acquired.events⟩

/-- `_required_secret`. -/
def requiredSecret (source : Environ) (envVarName purpose : Text) : Except AcquisitionError Text :=
  let value := saved source envVarName
  if value = [] then
    .error (.configuration (lit "required " ++ purpose ++ lit " environment variable is missing: " ++
      envVarName))
  else .ok value

/-- The signup of a pending account, with the login in place of one that exists already. -/
def signupOrLogin (role : SessionRole) (credentials : BrowserLoginCredentials)
    (signup : SignupOutcome σ) (login : LoginOutcome σ) (file : CredentialFile) : Acquisition σ :=
  match signup with
  | .session s => ⟨.ok s, file, [.signup role credentials file]⟩
  | .accountExists => loginBrowserAccount role credentials login file [.signup role credentials file]
  | .failure message => ⟨.error (.flow message), file, [.signup role credentials file]⟩

/-- `acquire_browser_session`. -/
def acquireBrowserSession (config : EnvironmentConfig) (role : SessionRole) (environ : Environ)
    (path : Text) (generator : BrowserLoginCredentials) (signup : SignupOutcome σ)
    (login : LoginOutcome σ) (file : CredentialFile) : Acquisition σ :=
  if config.environmentType = .production then
    ⟨.error (.configuration (lit "browser acquisition is forbidden for production")), file, []⟩
  else
    match config.auth.browser with
    | none =>
      ⟨.error (.configuration (lit
        "browser_preprovisioned requires browser credential environment variable names")), file, []⟩
    | some browser =>
      if config.environmentType = .localType then
        match perform path (loadOrCreateLocalCredentials config role environ path generator) file with
        | (.error e, file) => ⟨.error (.ofOperation e), file, []⟩
        | (.ok record, file) =>
          if record.state ≠ .stored .pending then
            loginBrowserAccount role record.credentials login file []
          else
            completeAccount config role record.credentials path
              (signupOrLogin role record.credentials signup login file)
      else
        let names := roleVariables browser role
        let credentials : Except AcquisitionError BrowserLoginCredentials := do
          let username ← requiredSecret environ names.username (role.text ++ lit " username")
          let password ← requiredSecret environ names.password (role.text ++ lit " password")
          return ⟨username, password⟩
        match credentials with
        | .error e => ⟨.error e, file, []⟩
        | .ok credentials => loginBrowserAccount role credentials login file []

/-! ## Histories -/

/-- One call: its role, the random draws of its generator, and how the flows end. -/
structure Call (σ : Type) where
  role : SessionRole
  draws : Draws
  signup : SignupOutcome σ
  login : LoginOutcome σ

/-- The events of a call, with the session it returned. -/
def Acquisition.history (role : SessionRole) (acquired : Acquisition σ) : List Event :=
  match acquired.result with
  | .ok _ => acquired.events ++ [.session role]
  | .error _ => acquired.events

/-- The file and the events after one more call. -/
def step (config : EnvironmentConfig) (environ : Environ) (path : Text)
    (state : CredentialFile × List Event) (call : Call σ) : CredentialFile × List Event :=
  let acquired := acquireBrowserSession config call.role environ path
    (generateLocalCredentials call.draws) call.signup call.login state.1
  (acquired.file, state.2 ++ acquired.history call.role)

/-- The file and the events after a sequence of calls. -/
def run (config : EnvironmentConfig) (environ : Environ) (path : Text) (file : CredentialFile)
    (calls : List (Call σ)) : CredentialFile × List Event :=
  calls.foldl (step config environ path) (file, [])

end ApiTests.Auth
