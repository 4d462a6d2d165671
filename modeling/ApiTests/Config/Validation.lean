import ApiTests.Config
import ApiTests.Py.Checks
import ApiTests.Py.Unicode
import ApiTests.Py.Url

/-!
# Validation of an environment configuration (`config.py:14-189`)

The fields have their declared types here, as after pydantic's own checks; what runs then are the
validators of this program. A field validator returns the normalized value or raises. The issues of
all fields are collected; the check of a whole model runs when its fields have none.

Results:
* `validateEnvVarName_eq_ok`, `validateBrowserPath_eq_ok`, `validateOrigin_eq_ok` and the others:
  what each validator accepts and returns.
* **`modelValidate_eq_ok`**: a configuration is accepted iff each field is and the policy holds, and
  then it is made of the fields' values.
-/

namespace ApiTests

open Py

/-- What validation takes from Python's tables. -/
structure ConfigTables where
  checks : NetlocChecks
  unicode : Unicode
  /-- Case folding works character by character. -/
  casefold_append : ∀ s t : Text,
    unicode.casefold (s ++ t) = unicode.casefold s ++ unicode.casefold t
  casefold_casefold : ∀ t : Text, unicode.casefold (unicode.casefold t) = unicode.casefold t
  /-- Whitespace and the full stop have no case. -/
  casefold_caseless : ∀ c : Nat, isSpace c = true ∨ c = 46 → unicode.casefold [c] = [c]
  /-- `str.isalnum` of one character. -/
  isAlnum : Nat → Bool
  /-- `str.isalpha` of one character. -/
  isAlpha : Nat → Bool
  isAlnum_ascii : ∀ c < 128, isAlnum c = (isAsciiLetter c || isDigit c)
  isAlpha_ascii : ∀ c < 128, isAlpha c = isAsciiLetter c

/-! ## Issues -/

/-- An entry of a `ValidationError`: the place of the field, and what its validator raised. -/
structure Issue where
  loc : List Text
  message : Text
  deriving Repr, DecidableEq

/-- A validated value, or the issues of its fields. -/
abbrev Validated (α : Type) := Except (List Issue) α

/-- The value of one field. -/
def field {α : Type} (loc : List Text) : Except Text α → Validated α
  | .ok a => .ok a
  | .error message => .error [⟨loc, message⟩]

/-- A constructor that has none of its validated fields yet. -/
def fields {α : Type} (make : α) : Validated α := .ok make

/-- One more field: the issues of both sides are kept. -/
def Validated.and {α β : Type} : Validated (α → β) → Validated α → Validated β
  | .ok f, .ok a => .ok (f a)
  | .ok _, .error issues => .error issues
  | .error issues, .ok _ => .error issues
  | .error issues, .error issues' => .error (issues ++ issues')

/-- A `model_validator(mode="after")`. -/
def Validated.after {α : Type} (loc : List Text) (check : α → Except Text Unit)
    (fields : Validated α) : Validated α := do
  let a ← fields
  let () ← field loc (check a)
  .ok a

/-- A value that may be `None`. -/
def optional {ε α β : Type} (validate : α → Except ε β) : Option α → Except ε (Option β)
  | none => .ok none
  | some a => (validate a).map some

theorem optional_eq_ok {ε α β : Type} {validate : α → Except ε β} {a : Option α} {b : Option β} :
    optional validate a = .ok b ↔ Option.Rel (fun a b => validate a = .ok b) a b := by
  cases a with
  | none =>
    refine ⟨fun h => ?_, fun h => ?_⟩
    · cases h
      exact .none
    · cases h
      rfl
  | some a =>
    rw [optional]
    constructor
    · intro h
      cases hvalid : validate a with
      | error e =>
        rw [hvalid] at h
        cases h
      | ok b =>
        rw [hvalid] at h
        cases h
        exact .some hvalid
    · rintro (hvalid | _)
      rw [hvalid]
      rfl

theorem field_eq_ok {α : Type} {loc : List Text} {x : Except Text α} {a : α} :
    field loc x = .ok a ↔ x = .ok a := by
  cases x with
  | ok b => simp [field]
  | error message => simp [field]

@[simp] theorem fields_eq_ok {α : Type} {make f : α} : fields make = .ok f ↔ make = f := by
  simp [fields]

theorem and_eq_ok {α β : Type} {f : Validated (α → β)} {x : Validated α} {b : β} :
    f.and x = .ok b ↔ ∃ g a, f = .ok g ∧ x = .ok a ∧ g a = b := by
  cases f with
  | error issues => cases x <;> simp [Validated.and]
  | ok g => cases x <;> simp [Validated.and]

theorem after_eq_ok {α : Type} {loc : List Text} {check : α → Except Text Unit}
    {fields : Validated α} {a : α} :
    fields.after loc check = .ok a ↔ fields = .ok a ∧ check a = .ok () := by
  rw [Validated.after, bind_eq_ok_iff]
  constructor
  · rintro ⟨a', hfields, h⟩
    obtain ⟨⟨⟩, hcheck, h⟩ := bind_eq_ok_iff.mp h
    cases h
    exact ⟨hfields, field_eq_ok.mp hcheck⟩
  · rintro ⟨hfields, hcheck⟩
    exact ⟨a, hfields, bind_eq_ok_iff.mpr ⟨(), field_eq_ok.mpr hcheck, rfl⟩⟩

/-! ## The field validators -/

variable (tables : ConfigTables)

/-- `validate_env_var_name`. -/
def validateEnvVarName (value : Text) : Except Text Text :=
  let value := strip value
  if value = [] then .error (lit "environment variable name must not be empty")
  else if ¬ ((value.filter fun c => c != 95) ≠ [] ∧
      (value.filter fun c => c != 95).all tables.isAlnum = true) ∨
      ¬ (value.head?.any tables.isAlpha = true) then
    .error (lit "invalid environment variable name: " ++ value)
  else .ok value

/-- `validate_optional_session_env`. -/
def validateOptionalSessionEnv (value : Option Text) : Except Text (Option Text) :=
  optional (validateEnvVarName tables) value

/-- `BrowserAuthContract.validate_browser_path`. -/
def validateBrowserPath (value : Text) : Except Text Text := do
  let value := strip value
  let parsed ← urlparse tables.checks value
  if ¬ (lit "/" <+: value) ∨ lit "//" <+: value then
    .error (lit "browser contract paths must be same-origin absolute paths")
  else if parsed.scheme ≠ [] ∨ parsed.netloc ≠ [] ∨ parsed.fragment ≠ [] then
    .error (lit "browser contract paths must not include an origin or fragment")
  else .ok value

/-- `item.strip().casefold().lstrip(".")`. -/
def normalizeSuffix (item : Text) : Text :=
  (tables.unicode.casefold (strip item)).dropWhile fun c => c == 46

/-- `BrowserAuthContract.validate_provider_host_suffixes`. -/
def validateProviderHostSuffixes (value : List Text) : Except Text (List Text) :=
  let normalized := value.map (normalizeSuffix tables)
  if normalized = [] ∨ ∃ item ∈ normalized, item = [] ∨ 47 ∈ item then
    .error (lit "provider_host_suffixes must contain non-empty DNS suffixes")
  else .ok normalized

/-- `Field(gt=0)`. -/
def positiveSeconds (value : WithTop ℚ) : Except Text (WithTop ℚ) :=
  if ((0 : ℚ) : WithTop ℚ) < value then .ok value else .error (lit "Input should be greater than 0")

/-- `EnvironmentConfig.validate_non_empty_string`. -/
def validateNonEmptyString (value : Text) : Except Text Text :=
  let value := strip value
  if value = [] then .error (lit "value must not be empty") else .ok value

/-- `value.rstrip("/")`. -/
def rstripSlash (value : Text) : Text := value.rdropWhile fun c => c == 47

/-- `EnvironmentConfig.validate_origin`. -/
def validateOrigin (value : Text) : Except Text Text := do
  let value := rstripSlash (strip value)
  let parsed ← urlparse tables.checks value
  if parsed.scheme ≠ lit "https" ∨ parsed.netloc = [] then
    .error (lit "origin must be an absolute HTTPS URL")
  else if parsed.path ≠ [] ∨ parsed.params ≠ [] ∨ parsed.query ≠ [] ∨ parsed.fragment ≠ [] then
    .error (lit "origin must not include a path, query, or fragment")
  else .ok value

/-- `EnvironmentConfig.validate_absolute_path`. -/
def validateAbsolutePath (value : Text) : Except Text Text :=
  let value := strip value
  if ¬ (lit "/" <+: value) then .error (lit "path must start with /")
  else if lit "//" <:+: value then .error (lit "path must not contain duplicate slashes")
  else .ok (if value ≠ lit "/" then rstripSlash value else value)

/-! ## The checks of whole models -/

/-- `TimeoutConfig.validate_timeout_order`. -/
def validateTimeoutOrder (timeouts : TimeoutConfig) : Except Text Unit :=
  raiseWhen (timeouts.eventuallySeconds < timeouts.requestSeconds)
    (lit "eventually_seconds must be greater than or equal to request_seconds")

/-- `EnvironmentConfig.validate_environment_policy`. -/
def validateEnvironmentPolicy (config : EnvironmentConfig) : Except Text Unit := do
  if config.environmentType = .production then
    raiseWhen (config.allowMutation = true)
      (lit "production environments must not allow mutation by default")
    raiseWhen (config.allowDestructive = true)
      (lit "production environments must not allow destructive tests by default")
    raiseWhen (config.auth.mode ≠ .suppliedSessions)
      (lit "production auth.mode must use supplied_sessions")
    raiseWhen (config.auth.browser ≠ none)
      (lit "production environments must not configure browser acquisition")
  if config.environmentType = .staging then
    raiseWhen (config.auth.mode = .suppliedSessions ∧
        config.auth.suppliedSessions.secondarySessionEnv = none)
      (lit "staging supplied_sessions requires secondary_session_env")
    raiseWhen (config.auth.mode = .browserPreprovisioned ∧ config.auth.browser = none)
      (lit "staging browser_preprovisioned requires browser settings")
  if config.auth.mode = .browserPreprovisioned then
    raiseWhen (config.environmentType = .production)
      (lit "browser acquisition is forbidden for production")
    raiseWhen (config.auth.browser = none)
      (lit "browser_preprovisioned requires browser settings")
  raiseWhen (config.allowDestructive = true ∧ config.allowMutation = false)
    (lit "allow_destructive requires allow_mutation")

/-! ## The models -/

/-- `SuppliedSessionConfig`. -/
def validateSuppliedSessions (loc : List Text) (raw : SuppliedSessionConfig) :
    Validated SuppliedSessionConfig :=
  (((fields SuppliedSessionConfig.mk).and
    (field (loc ++ [lit "primary_session_env"]) (validateEnvVarName tables raw.primarySessionEnv))).and
    (field (loc ++ [lit "secondary_session_env"])
      (validateOptionalSessionEnv tables raw.secondarySessionEnv))).and
    (field (loc ++ [lit "admin_session_env"])
      (validateOptionalSessionEnv tables raw.adminSessionEnv))

/-- `BrowserConfig`. -/
def validateBrowser (loc : List Text) (raw : BrowserConfig) : Validated BrowserConfig :=
  let env (name : Text) (value : Text) : Validated Text :=
    field (loc ++ [name]) (validateEnvVarName tables value)
  ((((((fields (BrowserConfig.mk raw.headless)).and
    (env (lit "primary_username_env") raw.primaryUsernameEnv)).and
    (env (lit "primary_password_env") raw.primaryPasswordEnv)).and
    (env (lit "secondary_username_env") raw.secondaryUsernameEnv)).and
    (env (lit "secondary_password_env") raw.secondaryPasswordEnv)).and
    (env (lit "admin_username_env") raw.adminUsernameEnv)).and
    (env (lit "admin_password_env") raw.adminPasswordEnv)

/-- `AuthConfig`. -/
def validateAuth (loc : List Text) (raw : AuthConfig) : Validated AuthConfig :=
  ((fields (AuthConfig.mk raw.mode)).and
    (validateSuppliedSessions tables (loc ++ [lit "supplied_sessions"]) raw.suppliedSessions)).and
    (optional (validateBrowser tables (loc ++ [lit "browser"])) raw.browser)

/-- `BrowserAuthContract`. -/
def validateContract (loc : List Text) (raw : BrowserAuthContract) :
    Validated BrowserAuthContract :=
  let path (name : Text) (value : Text) : Validated Text :=
    field (loc ++ [name]) (validateBrowserPath tables value)
  (((((((fields BrowserAuthContract.mk).and
    (path (lit "callback_path") raw.callbackPath)).and
    (path (lit "default_return_path") raw.defaultReturnPath)).and
    (path (lit "admin_return_path") raw.adminReturnPath)).and
    (path (lit "logout_return_path") raw.logoutReturnPath)).and
    (path (lit "provider_logout_path") raw.providerLogoutPath)).and
    (field (loc ++ [lit "provider_host_suffixes"])
      (validateProviderHostSuffixes tables raw.providerHostSuffixes))).and
    (.ok raw.sessionCookieSameSite)

/-- `TimeoutConfig`. -/
def validateTimeouts (loc : List Text) (raw : TimeoutConfig) : Validated TimeoutConfig :=
  (((fields TimeoutConfig.mk).and
    (field (loc ++ [lit "request_seconds"]) (positiveSeconds raw.requestSeconds))).and
    (field (loc ++ [lit "eventually_seconds"]) (positiveSeconds raw.eventuallySeconds))).after loc
    validateTimeoutOrder

/-- `EnvironmentConfig.model_validate` of values of the declared types. -/
def modelValidate (raw : EnvironmentConfig) : Validated EnvironmentConfig :=
  (((((((((((fields EnvironmentConfig.mk).and
    (field [lit "name"] (validateNonEmptyString raw.name))).and
    (field [lit "origin"] (validateOrigin tables raw.origin))).and
    (field [lit "api_base_path"] (validateAbsolutePath raw.apiBasePath))).and
    (field [lit "openapi_path"] (validateAbsolutePath raw.openapiPath))).and
    (.ok raw.environmentType)).and (.ok raw.allowMutation)).and (.ok raw.allowDestructive)).and
    (field [lit "session_cookie_name"] (validateNonEmptyString raw.sessionCookieName))).and
    (validateAuth tables [lit "auth"] raw.auth)).and
    (validateContract tables [lit "browser_auth_contract"] raw.browserAuthContract)).and
    (validateTimeouts [lit "timeouts"] raw.timeouts) |>.after [] validateEnvironmentPolicy

/-! ## What the field validators accept -/

variable {tables}

/-- The names `validate_env_var_name` accepts. -/
structure IsEnvName (tables : ConfigTables) (name : Text) : Prop where
  alnum : ∀ c ∈ name, c ≠ 95 → tables.isAlnum c = true
  head : name.head?.any tables.isAlpha = true

theorem isEnvName_iff {name : Text} : IsEnvName tables name ↔ name ≠ [] ∧
    ((name.filter fun c => c != 95) ≠ [] ∧
      (name.filter fun c => c != 95).all tables.isAlnum = true) ∧
    name.head?.any tables.isAlpha = true := by
  have hall : (name.filter fun c => c != 95).all tables.isAlnum = true ↔
      ∀ c ∈ name, c ≠ 95 → tables.isAlnum c = true := by
    simp [List.all_eq_true, or_iff_not_imp_left]
  rw [hall]
  refine ⟨fun h => ?_, fun h => ⟨h.2.1.2, h.2.2⟩⟩
  cases name with
  | nil => exact absurd h.head (by simp)
  | cons c cs =>
    have hc : tables.isAlpha c = true := by simpa using h.head
    have hne : c ≠ 95 := by
      rintro rfl
      rw [tables.isAlpha_ascii 95 (by decide)] at hc
      exact absurd hc (by decide)
    refine ⟨by simp, ⟨?_, h.alnum⟩, h.head⟩
    rw [List.filter_cons_of_pos (by simpa using hne)]
    exact List.cons_ne_nil _ _

theorem validateEnvVarName_eq_ok {value name : Text} :
    validateEnvVarName tables value = .ok name ↔ name = strip value ∧ IsEnvName tables name := by
  unfold validateEnvVarName
  dsimp only
  split_ifs with hempty hinvalid
  · refine iff_of_false (fun h => nomatch h) ?_
    rintro ⟨rfl, hname⟩
    exact (isEnvName_iff.mp hname).1 hempty
  · refine iff_of_false (fun h => nomatch h) ?_
    rintro ⟨rfl, hname⟩
    obtain ⟨-, halnum, hhead⟩ := isEnvName_iff.mp hname
    exact hinvalid.elim (fun h => h halnum) fun h => h hhead
  · rw [not_or, not_not, not_not] at hinvalid
    rw [Except.ok.injEq, eq_comm, iff_self_and]
    rintro rfl
    exact isEnvName_iff.mpr ⟨hempty, hinvalid.1, hinvalid.2⟩

/-- A browser path is stripped. -/
theorem validateBrowserPath_eq {value path : Text}
    (h : validateBrowserPath tables value = .ok path) : path = strip value := by
  obtain ⟨parsed, -, h⟩ := bind_eq_ok_iff.mp h
  split_ifs at h
  exact (Except.ok.inj h).symm

theorem validateProviderHostSuffixes_eq {value suffixes : List Text}
    (h : validateProviderHostSuffixes tables value = .ok suffixes) :
    suffixes = value.map (normalizeSuffix tables) := by
  unfold validateProviderHostSuffixes at h
  dsimp only at h
  split_ifs at h
  exact (Except.ok.inj h).symm

theorem validateNonEmptyString_eq {value text : Text}
    (h : validateNonEmptyString value = .ok text) : text = strip value := by
  unfold validateNonEmptyString at h
  dsimp only at h
  split_ifs at h
  exact (Except.ok.inj h).symm

theorem validateOrigin_eq {value origin : Text} (h : validateOrigin tables value = .ok origin) :
    origin = rstripSlash (strip value) := by
  obtain ⟨parsed, -, h⟩ := bind_eq_ok_iff.mp h
  split_ifs at h
  exact (Except.ok.inj h).symm

theorem validateAbsolutePath_eq {value path : Text} (h : validateAbsolutePath value = .ok path) :
    path = if strip value ≠ lit "/" then rstripSlash (strip value) else strip value := by
  unfold validateAbsolutePath at h
  dsimp only at h
  split_ifs at h with h₁ h₂ h₃
  · rw [if_pos h₃]
    exact (Except.ok.inj h).symm
  · rw [if_neg h₃]
    exact (Except.ok.inj h).symm

theorem positiveSeconds_eq {value seconds : WithTop ℚ} (h : positiveSeconds value = .ok seconds) :
    seconds = value := by
  unfold positiveSeconds at h
  split_ifs at h
  exact (Except.ok.inj h).symm

/-! ## What the models accept -/

theorem validateSuppliedSessions_eq_ok {loc : List Text} {raw sessions : SuppliedSessionConfig} :
    validateSuppliedSessions tables loc raw = .ok sessions ↔
      validateEnvVarName tables raw.primarySessionEnv = .ok sessions.primarySessionEnv ∧
      validateOptionalSessionEnv tables raw.secondarySessionEnv =
        .ok sessions.secondarySessionEnv ∧
      validateOptionalSessionEnv tables raw.adminSessionEnv = .ok sessions.adminSessionEnv := by
  cases sessions
  simp only [validateSuppliedSessions, and_eq_ok, fields_eq_ok, field_eq_ok]
  constructor
  · rintro ⟨-, a₃, ⟨-, a₂, ⟨-, a₁, rfl, h₁, rfl⟩, h₂, rfl⟩, h₃, h⟩
    cases h
    exact ⟨h₁, h₂, h₃⟩
  · rintro ⟨h₁, h₂, h₃⟩
    exact ⟨_, _, ⟨_, _, ⟨_, _, rfl, h₁, rfl⟩, h₂, rfl⟩, h₃, rfl⟩

/-- The names of browser settings, in the order of the fields. -/
def BrowserConfig.names (browser : BrowserConfig) : List Text :=
  [browser.primaryUsernameEnv, browser.primaryPasswordEnv, browser.secondaryUsernameEnv,
    browser.secondaryPasswordEnv, browser.adminUsernameEnv, browser.adminPasswordEnv]

theorem validateBrowser_eq_ok {loc : List Text} {raw browser : BrowserConfig} :
    validateBrowser tables loc raw = .ok browser ↔ browser.headless = raw.headless ∧
      List.Forall₂ (fun value name => validateEnvVarName tables value = .ok name) raw.names
        browser.names := by
  cases browser
  simp only [validateBrowser, and_eq_ok, fields_eq_ok, field_eq_ok, BrowserConfig.names,
    List.forall₂_cons, List.Forall₂.nil, and_true]
  constructor
  · rintro ⟨-, a₆, ⟨-, a₅, ⟨-, a₄, ⟨-, a₃, ⟨-, a₂, ⟨-, a₁, rfl, h₁, rfl⟩, h₂, rfl⟩, h₃, rfl⟩, h₄, rfl⟩,
      h₅, rfl⟩, h₆, h⟩
    cases h
    exact ⟨rfl, h₁, h₂, h₃, h₄, h₅, h₆⟩
  · rintro ⟨rfl, h₁, h₂, h₃, h₄, h₅, h₆⟩
    exact ⟨_, _, ⟨_, _, ⟨_, _, ⟨_, _, ⟨_, _, ⟨_, _, rfl, h₁, rfl⟩, h₂, rfl⟩, h₃, rfl⟩, h₄, rfl⟩, h₅,
      rfl⟩, h₆, rfl⟩

theorem validateAuth_eq_ok {loc : List Text} {raw auth : AuthConfig} :
    validateAuth tables loc raw = .ok auth ↔ auth.mode = raw.mode ∧
      validateSuppliedSessions tables (loc ++ [lit "supplied_sessions"]) raw.suppliedSessions =
        .ok auth.suppliedSessions ∧
      Option.Rel (fun value browser =>
        validateBrowser tables (loc ++ [lit "browser"]) value = .ok browser) raw.browser
        auth.browser := by
  cases auth
  simp only [validateAuth, and_eq_ok, fields_eq_ok, optional_eq_ok]
  constructor
  · rintro ⟨-, a₂, ⟨-, a₁, rfl, h₁, rfl⟩, h₂, h⟩
    cases h
    exact ⟨rfl, h₁, h₂⟩
  · rintro ⟨rfl, h₁, h₂⟩
    exact ⟨_, _, ⟨_, _, rfl, h₁, rfl⟩, h₂, rfl⟩

theorem validateContract_eq_ok {loc : List Text} {raw contract : BrowserAuthContract} :
    validateContract tables loc raw = .ok contract ↔
      validateBrowserPath tables raw.callbackPath = .ok contract.callbackPath ∧
      validateBrowserPath tables raw.defaultReturnPath = .ok contract.defaultReturnPath ∧
      validateBrowserPath tables raw.adminReturnPath = .ok contract.adminReturnPath ∧
      validateBrowserPath tables raw.logoutReturnPath = .ok contract.logoutReturnPath ∧
      validateBrowserPath tables raw.providerLogoutPath = .ok contract.providerLogoutPath ∧
      validateProviderHostSuffixes tables raw.providerHostSuffixes =
        .ok contract.providerHostSuffixes ∧
      contract.sessionCookieSameSite = raw.sessionCookieSameSite := by
  cases contract
  simp only [validateContract, and_eq_ok, fields_eq_ok, field_eq_ok, Except.ok.injEq]
  constructor
  · rintro ⟨-, a₇, ⟨-, a₆, ⟨-, a₅, ⟨-, a₄, ⟨-, a₃, ⟨-, a₂, ⟨-, a₁, rfl, h₁, rfl⟩, h₂, rfl⟩, h₃, rfl⟩,
      h₄, rfl⟩, h₅, rfl⟩, h₆, rfl⟩, h₇, h⟩
    cases h
    exact ⟨h₁, h₂, h₃, h₄, h₅, h₆, h₇.symm⟩
  · rintro ⟨h₁, h₂, h₃, h₄, h₅, h₆, rfl⟩
    exact ⟨_, _, ⟨_, _, ⟨_, _, ⟨_, _, ⟨_, _, ⟨_, _, ⟨_, _, rfl, h₁, rfl⟩, h₂, rfl⟩, h₃, rfl⟩, h₄,
      rfl⟩, h₅, rfl⟩, h₆, rfl⟩, rfl, rfl⟩

/-- Timeouts are accepted as they are. -/
theorem validateTimeouts_eq {loc : List Text} {raw timeouts : TimeoutConfig}
    (h : validateTimeouts loc raw = .ok timeouts) : timeouts = raw := by
  simp only [validateTimeouts, after_eq_ok, and_eq_ok, fields_eq_ok, field_eq_ok] at h
  obtain ⟨⟨-, a₂, ⟨-, a₁, rfl, h₁, rfl⟩, h₂, rfl⟩, -⟩ := h
  rw [positiveSeconds_eq h₁, positiveSeconds_eq h₂]

/-- A configuration and the values it was validated from. -/
structure ValidatedFrom (tables : ConfigTables) (raw config : EnvironmentConfig) : Prop where
  name : validateNonEmptyString raw.name = .ok config.name
  origin : validateOrigin tables raw.origin = .ok config.origin
  apiBasePath : validateAbsolutePath raw.apiBasePath = .ok config.apiBasePath
  openapiPath : validateAbsolutePath raw.openapiPath = .ok config.openapiPath
  environmentType : config.environmentType = raw.environmentType
  allowMutation : config.allowMutation = raw.allowMutation
  allowDestructive : config.allowDestructive = raw.allowDestructive
  sessionCookieName : validateNonEmptyString raw.sessionCookieName = .ok config.sessionCookieName
  auth : validateAuth tables [lit "auth"] raw.auth = .ok config.auth
  contract : validateContract tables [lit "browser_auth_contract"] raw.browserAuthContract =
    .ok config.browserAuthContract
  timeouts : validateTimeouts [lit "timeouts"] raw.timeouts = .ok config.timeouts
  policy : validateEnvironmentPolicy config = .ok ()

/-- **What validation accepts**: each field by itself, then the policy. -/
theorem modelValidate_eq_ok {raw config : EnvironmentConfig} :
    modelValidate tables raw = .ok config ↔ ValidatedFrom tables raw config := by
  simp only [modelValidate, after_eq_ok, and_eq_ok, fields_eq_ok, field_eq_ok, Except.ok.injEq]
  constructor
  · rintro ⟨⟨-, a₁₁, ⟨-, a₁₀, ⟨-, a₉, ⟨-, a₈, ⟨-, a₇, ⟨-, a₆, ⟨-, a₅, ⟨-, a₄, ⟨-, a₃, ⟨-, a₂, ⟨-, a₁,
      rfl, h₁, rfl⟩, h₂, rfl⟩, h₃, rfl⟩, h₄, rfl⟩, h₅, rfl⟩, h₆, rfl⟩, h₇, rfl⟩, h₈, rfl⟩, h₉, rfl⟩,
      h₁₀, rfl⟩, h₁₁, rfl⟩, hpolicy⟩
    exact ⟨h₁, h₂, h₃, h₄, h₅.symm, h₆.symm, h₇.symm, h₈, h₉, h₁₀, h₁₁, hpolicy⟩
  · rintro ⟨h₁, h₂, h₃, h₄, h₅, h₆, h₇, h₈, h₉, h₁₀, h₁₁, hpolicy⟩
    exact ⟨⟨_, _, ⟨_, _, ⟨_, _, ⟨_, _, ⟨_, _, ⟨_, _, ⟨_, _, ⟨_, _, ⟨_, _, ⟨_, _, ⟨_, _, rfl, h₁,
      rfl⟩, h₂, rfl⟩, h₃, rfl⟩, h₄, rfl⟩, h₅.symm, rfl⟩, h₆.symm, rfl⟩, h₇.symm, rfl⟩, h₈, rfl⟩, h₉,
      rfl⟩, h₁₀, rfl⟩, h₁₁, rfl⟩, hpolicy⟩

end ApiTests
