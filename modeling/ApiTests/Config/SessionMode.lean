import ApiTests.Config.Validation
import ApiTests.Credentials.Operation

/-!
# The override of the session mode (`config.py:225-234`)

`with_session_mode` validates a dump of a configuration once more, with another `auth.mode`. The
names and the browser paths are normalized by `strip` alone, so they stay. `validate_origin`,
`validate_absolute_path` and `validate_provider_host_suffixes` strip first and then take slashes or
full stops away, and whitespace behind these is left until the next time.

Results:
* `revalidated_eq`: what the override returns.
* **`withSessionMode_iff`**: it replaces the mode alone iff none of these fields has whitespace at an
  end, or it does not validate at all.
-/

namespace ApiTests

open Py Credentials

variable {tables : ConfigTables}

/-- `config` with `auth.mode` replaced. -/
def EnvironmentConfig.withMode (config : EnvironmentConfig) (mode : AuthMode) : EnvironmentConfig :=
  { config with auth := { config.auth with mode } }

/-- `with_session_mode`. -/
def withSessionMode (tables : ConfigTables) (config : EnvironmentConfig) (mode : Option AuthMode) :
    Validated EnvironmentConfig :=
  match mode with
  | none => .ok config
  | some mode =>
    if mode = config.auth.mode then .ok config else modelValidate tables (config.withMode mode)

/-! ## Values that `strip` alone normalizes -/

/-- A second `strip` does nothing. -/
theorem stable_of_strip {validate : Text → Except Text Text}
    (hstrip : ∀ {x y}, validate x = .ok y → y = strip x) {x y z : Text} (h : validate x = .ok y)
    (h' : validate y = .ok z) : z = y := by
  rw [hstrip h', hstrip h, strip_strip]

theorem validateEnvVarName_stable {x y z : Text} (h : validateEnvVarName tables x = .ok y)
    (h' : validateEnvVarName tables y = .ok z) : z = y :=
  stable_of_strip (fun hx => (validateEnvVarName_eq_ok.mp hx).1) h h'

theorem optional_stable {ε α : Type} {validate : α → Except ε α}
    (hstable : ∀ {x y z}, validate x = .ok y → validate y = .ok z → z = y) {x y z : Option α}
    (h : optional validate x = .ok y) (h' : optional validate y = .ok z) : z = y := by
  rw [optional_eq_ok] at h h'
  cases h with
  | none =>
    cases h'
    rfl
  | some hy =>
    cases h' with
    | some hz => rw [hstable hy hz]

theorem validateBrowser_stable {loc : List Text} {x y z : BrowserConfig}
    (h : validateBrowser tables loc x = .ok y) (h' : validateBrowser tables loc y = .ok z) :
    z = y := by
  obtain ⟨-, h⟩ := validateBrowser_eq_ok.mp h
  obtain ⟨hheadless, h'⟩ := validateBrowser_eq_ok.mp h'
  cases y
  cases z
  simp only [BrowserConfig.names, List.forall₂_cons, List.Forall₂.nil, and_true] at h h' hheadless
  obtain ⟨h₁, h₂, h₃, h₄, h₅, h₆⟩ := h
  obtain ⟨h₁', h₂', h₃', h₄', h₅', h₆'⟩ := h'
  rw [hheadless, validateEnvVarName_stable h₁ h₁', validateEnvVarName_stable h₂ h₂',
    validateEnvVarName_stable h₃ h₃', validateEnvVarName_stable h₄ h₄',
    validateEnvVarName_stable h₅ h₅', validateEnvVarName_stable h₆ h₆']

theorem validateSuppliedSessions_stable {loc : List Text} {x y z : SuppliedSessionConfig}
    (h : validateSuppliedSessions tables loc x = .ok y)
    (h' : validateSuppliedSessions tables loc y = .ok z) : z = y := by
  obtain ⟨h₁, h₂, h₃⟩ := validateSuppliedSessions_eq_ok.mp h
  obtain ⟨h₁', h₂', h₃'⟩ := validateSuppliedSessions_eq_ok.mp h'
  cases y
  cases z
  simp only at h₁ h₂ h₃ h₁' h₂' h₃'
  rw [validateEnvVarName_stable h₁ h₁', optional_stable validateEnvVarName_stable h₂ h₂',
    optional_stable validateEnvVarName_stable h₃ h₃']

/-- The mode is what was asked for, the rest of `auth` stays. -/
theorem validateAuth_stable {loc : List Text} {x y z : AuthConfig} {mode : AuthMode}
    (h : validateAuth tables loc x = .ok y)
    (h' : validateAuth tables loc { y with mode } = .ok z) : z = { y with mode } := by
  obtain ⟨-, hsessions, hbrowser⟩ := validateAuth_eq_ok.mp h
  obtain ⟨hmode, hsessions', hbrowser'⟩ := validateAuth_eq_ok.mp h'
  cases y
  cases z
  simp only at hsessions hbrowser hmode hsessions' hbrowser'
  rw [hmode, validateSuppliedSessions_stable hsessions hsessions',
    optional_stable validateBrowser_stable (optional_eq_ok.mpr hbrowser)
      (optional_eq_ok.mpr hbrowser')]

/-- The host suffixes are normalized once more, the rest of the contract stays. -/
theorem validateContract_stable {loc : List Text} {x y z : BrowserAuthContract}
    (h : validateContract tables loc x = .ok y) (h' : validateContract tables loc y = .ok z) :
    z = { y with providerHostSuffixes := y.providerHostSuffixes.map (normalizeSuffix tables) } := by
  obtain ⟨h₁, h₂, h₃, h₄, h₅, -, -⟩ := validateContract_eq_ok.mp h
  obtain ⟨h₁', h₂', h₃', h₄', h₅', hsuffixes, hsame⟩ := validateContract_eq_ok.mp h'
  cases y
  cases z
  simp only at h₁ h₂ h₃ h₄ h₅ h₁' h₂' h₃' h₄' h₅' hsuffixes hsame
  rw [stable_of_strip validateBrowserPath_eq h₁ h₁', stable_of_strip validateBrowserPath_eq h₂ h₂',
    stable_of_strip validateBrowserPath_eq h₃ h₃', stable_of_strip validateBrowserPath_eq h₄ h₄',
    stable_of_strip validateBrowserPath_eq h₅ h₅', validateProviderHostSuffixes_eq hsuffixes, hsame]

/-! ## Values that lose more than whitespace -/

theorem strip_sublist (t : Text) : (strip t).Sublist t :=
  (List.rdropWhile_prefix _ _).sublist.trans (List.dropWhile_suffix _).sublist

/-- What is cut off a stripped text shows whether there was anything to strip. -/
theorem cut_eq_iff (cut : Text → Text) (hcut : ∀ t, (cut t).length ≤ t.length) {t : Text}
    (hself : cut t = t) : cut (strip t) = t ↔ strip t = t := by
  refine ⟨fun h => (strip_sublist t).eq_of_length_le ?_, fun h => by rw [h, hself]⟩
  have hle := hcut (strip t)
  rwa [h] at hle

theorem length_rstripSlash_le (t : Text) : (rstripSlash t).length ≤ t.length :=
  (List.rdropWhile_prefix _ _).length_le

theorem rstripSlash_rstripSlash (t : Text) : rstripSlash (rstripSlash t) = rstripSlash t :=
  List.rdropWhile_idempotent _ t

/-- `value.rstrip("/") if value != "/" else value`. -/
def cutSlashes (value : Text) : Text := if value ≠ lit "/" then rstripSlash value else value

theorem length_cutSlashes_le (t : Text) : (cutSlashes t).length ≤ t.length := by
  unfold cutSlashes
  split_ifs
  · exact length_rstripSlash_le t
  · rfl

theorem cutSlashes_cutSlashes (t : Text) : cutSlashes (cutSlashes t) = cutSlashes t := by
  by_cases h : t ≠ lit "/"
  · rw [show cutSlashes t = rstripSlash t from if_pos h, cutSlashes, rstripSlash_rstripSlash,
      ite_self]
  · rw [show cutSlashes t = t from if_neg h, cutSlashes, if_neg h]

theorem origin_again_iff {x y z : Text} (h : validateOrigin tables x = .ok y)
    (h' : validateOrigin tables y = .ok z) : z = y ↔ strip y = y := by
  rw [validateOrigin_eq h']
  refine cut_eq_iff rstripSlash length_rstripSlash_le ?_
  rw [validateOrigin_eq h, rstripSlash_rstripSlash]

theorem path_again_iff {x y z : Text} (h : validateAbsolutePath x = .ok y)
    (h' : validateAbsolutePath y = .ok z) : z = y ↔ strip y = y := by
  rw [validateAbsolutePath_eq h']
  refine cut_eq_iff cutSlashes length_cutSlashes_le ?_
  rw [validateAbsolutePath_eq h]
  exact cutSlashes_cutSlashes (strip x)

/-- Texts of whitespace and full stops do not fold. -/
theorem casefold_eq_self {t : Text} (h : ∀ c ∈ t, isSpace c = true ∨ c = 46) :
    tables.unicode.casefold t = t := by
  induction t with
  | nil =>
    have htwice := tables.casefold_append [] []
    rw [List.append_nil, List.self_eq_append_right] at htwice
    exact htwice
  | cons c cs ih =>
    rw [List.forall_mem_cons] at h
    rw [← List.singleton_append, tables.casefold_append, tables.casefold_caseless c h.1, ih h.2]

/-- Behind caseless characters, and in front of them, a folded text is folded. -/
theorem casefold_middle {a m b : Text} (ha : ∀ c ∈ a, isSpace c = true ∨ c = 46)
    (hb : ∀ c ∈ b, isSpace c = true ∨ c = 46)
    (h : tables.unicode.casefold (a ++ m ++ b) = a ++ m ++ b) : tables.unicode.casefold m = m := by
  rw [tables.casefold_append, tables.casefold_append, casefold_eq_self ha, casefold_eq_self hb] at h
  exact List.append_cancel_left (List.append_cancel_right h)

/-- A text is what `strip` leaves of it between two runs of whitespace. -/
theorem exists_spaces_strip (t : Text) : ∃ a b, t = a ++ strip t ++ b ∧
    (∀ c ∈ a, isSpace c = true) ∧ ∀ c ∈ b, isSpace c = true := by
  refine ⟨t.takeWhile isSpace, (lstrip t).rtakeWhile isSpace, ?_, fun c hc => ?_, fun c hc => ?_⟩
  · rw [List.append_assoc, strip, rstrip, List.rdropWhile_append_rtakeWhile, lstrip,
      List.takeWhile_append_dropWhile]
  · exact List.mem_takeWhile_imp hc
  · exact List.mem_rtakeWhile_imp hc

theorem casefold_normalizeSuffix (tables : ConfigTables) (item : Text) :
    tables.unicode.casefold (normalizeSuffix tables item) = normalizeSuffix tables item := by
  have hfolded := tables.casefold_casefold (strip item)
  rw [← List.takeWhile_append_dropWhile (p := fun c => c == 46)
    (l := tables.unicode.casefold (strip item)), ← List.append_nil (_ ++ _)] at hfolded
  refine casefold_middle (fun c hc => .inr ?_) (fun c hc => absurd hc List.not_mem_nil) hfolded
  simpa using List.mem_takeWhile_imp hc

/-- A normalized suffix is kept iff it has no whitespace at its ends. -/
theorem suffix_again_iff (item : Text) :
    normalizeSuffix tables (normalizeSuffix tables item) = normalizeSuffix tables item ↔
      strip (normalizeSuffix tables item) = normalizeSuffix tables item := by
  obtain ⟨a, b, hsplit, ha, hb⟩ := exists_spaces_strip (normalizeSuffix tables item)
  have hfolded : tables.unicode.casefold (strip (normalizeSuffix tables item)) =
      strip (normalizeSuffix tables item) := by
    have h := casefold_normalizeSuffix tables item
    rw [hsplit] at h
    exact casefold_middle (fun c hc => .inl (ha c hc)) (fun c hc => .inl (hb c hc)) h
  rw [show normalizeSuffix tables (normalizeSuffix tables item) =
    (strip (normalizeSuffix tables item)).dropWhile (fun c => c == 46) from
      congrArg (List.dropWhile _) hfolded]
  refine cut_eq_iff (fun t => t.dropWhile fun c => c == 46)
    (fun t => (List.dropWhile_suffix _).length_le) ?_
  exact List.dropWhile_idempotent _ _

/-! ## The override -/

/-- **What the override returns** when it validates once more. -/
theorem revalidated_eq {raw config result : EnvironmentConfig} {mode : AuthMode}
    (h : ValidatedFrom tables raw config) (h' : ValidatedFrom tables (config.withMode mode) result) :
    result = { config.withMode mode with
      origin := result.origin
      apiBasePath := result.apiBasePath
      openapiPath := result.openapiPath
      browserAuthContract := { config.browserAuthContract with
        providerHostSuffixes :=
          config.browserAuthContract.providerHostSuffixes.map (normalizeSuffix tables) } } := by
  have hname := stable_of_strip validateNonEmptyString_eq h.name h'.name
  have hcookie := stable_of_strip validateNonEmptyString_eq h.sessionCookieName h'.sessionCookieName
  have hauth := validateAuth_stable h.auth h'.auth
  have hcontract := validateContract_stable h.contract h'.contract
  have htimeouts := validateTimeouts_eq h'.timeouts
  obtain ⟨-, -, -, -, htype, hmutation, hdestructive, -, -, -, -, -⟩ := h'
  cases result
  rw [EnvironmentConfig.mk.injEq]
  exact ⟨hname, rfl, rfl, rfl, htype, hmutation, hdestructive, hcookie, hauth, hcontract, htimeouts⟩

/-- No field that loses slashes or full stops has whitespace at an end. -/
structure Settled (config : EnvironmentConfig) : Prop where
  origin : strip config.origin = config.origin
  apiBasePath : strip config.apiBasePath = config.apiBasePath
  openapiPath : strip config.openapiPath = config.openapiPath
  suffixes : ∀ suffix ∈ config.browserAuthContract.providerHostSuffixes, strip suffix = suffix

/-- The host suffixes of a configuration are kept iff they have no whitespace at their ends. -/
theorem suffixes_again_iff {raw config : EnvironmentConfig} (h : ValidatedFrom tables raw config) :
    config.browserAuthContract.providerHostSuffixes.map (normalizeSuffix tables) =
      config.browserAuthContract.providerHostSuffixes ↔
    ∀ suffix ∈ config.browserAuthContract.providerHostSuffixes, strip suffix = suffix := by
  obtain ⟨-, -, -, -, -, hsuffixes, -⟩ := validateContract_eq_ok.mp h.contract
  rw [validateProviderHostSuffixes_eq hsuffixes, List.map_map, List.forall_mem_map,
    List.map_inj_left]
  exact forall₂_congr fun item _ => suffix_again_iff item

/-- **The second validation replaces the mode alone** iff the configuration is settled. -/
theorem revalidated_iff {raw config result : EnvironmentConfig} {mode : AuthMode}
    (h : ValidatedFrom tables raw config) (h' : ValidatedFrom tables (config.withMode mode) result) :
    result = config.withMode mode ↔ Settled config := by
  have horigin := origin_again_iff h.origin h'.origin
  have hbase := path_again_iff h.apiBasePath h'.apiBasePath
  have hopenapi := path_again_iff h.openapiPath h'.openapiPath
  have hsuffixes := suffixes_again_iff h
  have hresult := revalidated_eq h h'
  constructor
  · intro heq
    have hcontract := congrArg (fun c => c.browserAuthContract.providerHostSuffixes) hresult
    rw [heq] at horigin hbase hopenapi hcontract
    exact ⟨horigin.mp rfl, hbase.mp rfl, hopenapi.mp rfl, hsuffixes.mp hcontract.symm⟩
  · intro hsettled
    rw [hresult, horigin.mpr hsettled.origin, hbase.mpr hsettled.apiBasePath,
      hopenapi.mpr hsettled.openapiPath, hsuffixes.mpr hsettled.suffixes]
    rfl

/-- `config` with the mode that was asked for, if one was. -/
def EnvironmentConfig.withRequestedMode (config : EnvironmentConfig) :
    Option AuthMode → EnvironmentConfig
  | none => config
  | some mode => config.withMode mode

/-- **The override replaces the mode alone**, and the exact-local gate says the same of the result,
iff there is nothing to override or the configuration is settled. -/
theorem withSessionMode_iff {raw config result : EnvironmentConfig} {mode : Option AuthMode}
    (h : modelValidate tables raw = .ok config)
    (hreturns : withSessionMode tables config mode = .ok result) :
    (result = config.withRequestedMode mode ∧
      (ensureExactLocalTarget result = .ok () ↔ ensureExactLocalTarget config = .ok ())) ↔
    mode = none ∨ mode = some config.auth.mode ∨ Settled config := by
  have hgate : ∀ mode, ensureExactLocalTarget (config.withRequestedMode mode) =
      ensureExactLocalTarget config := fun mode => by cases mode <;> rfl
  have hboth : (result = config.withRequestedMode mode ∧
      (ensureExactLocalTarget result = .ok () ↔ ensureExactLocalTarget config = .ok ())) ↔
      result = config.withRequestedMode mode := by
    rw [and_iff_left_iff_imp]
    rintro rfl
    rw [hgate]
  rw [hboth]
  cases mode with
  | none =>
    cases hreturns
    exact iff_of_true rfl (.inl rfl)
  | some mode =>
    rw [or_iff_right (Option.some_ne_none mode), Option.some.injEq]
    unfold withSessionMode at hreturns
    dsimp only at hreturns
    split_ifs at hreturns with hmode
    · cases hreturns
      subst hmode
      exact iff_of_true rfl (.inl rfl)
    · rw [or_iff_right hmode]
      exact revalidated_iff (modelValidate_eq_ok.mp h) (modelValidate_eq_ok.mp hreturns)

/-! ## Whitespace in front of a slash -/

theorem casefold_ascii_append (s t : Text) :
    Unicode.ascii.casefold (s ++ t) = Unicode.ascii.casefold s ++ Unicode.ascii.casefold t :=
  List.map_append

theorem casefold_ascii_casefold (t : Text) :
    Unicode.ascii.casefold (Unicode.ascii.casefold t) = Unicode.ascii.casefold t := by
  simp only [Unicode.ascii, List.map_map, List.map_inj_left, Function.comp_apply]
  intro c _
  split_ifs <;> omega

theorem casefold_ascii_caseless (c : Nat) (h : isSpace c = true ∨ c = 46) :
    Unicode.ascii.casefold [c] = [c] := by
  have hcase : ¬ (65 ≤ c ∧ c ≤ 90) := by
    simp only [isSpace, Bool.or_eq_true, Bool.and_eq_true, decide_eq_true_eq, beq_iff_eq] at h
    omega
  simp [Unicode.ascii, hcase]

/-- Tables of ASCII alone. -/
def asciiConfigTables : ConfigTables where
  checks := ⟨fun _ => none, fun _ => none⟩
  unicode := .ascii
  casefold_append := casefold_ascii_append
  casefold_casefold := casefold_ascii_casefold
  casefold_caseless := casefold_ascii_caseless
  isAlnum c := isAsciiLetter c || isDigit c
  isAlpha := isAsciiLetter
  isAlnum_ascii _ _ := rfl
  isAlpha_ascii _ _ := rfl

/-- The shipped configuration, its origin written with a space in front of a last slash. -/
def spacedConfig : EnvironmentConfig :=
  { localConfig with origin := lit "https://app.budgetanalyzer.localhost /" }

/-- Validation leaves the space, the override takes it away, and the gate opens. -/
theorem origin_changes :
    modelValidate asciiConfigTables spacedConfig =
      .ok { localConfig with origin := lit "https://app.budgetanalyzer.localhost " } ∧
    withSessionMode asciiConfigTables
        { localConfig with origin := lit "https://app.budgetanalyzer.localhost " }
        (some .suppliedSessions) =
      .ok (localConfig.withMode .suppliedSessions) ∧
    ensureExactLocalTarget { localConfig with
      origin := lit "https://app.budgetanalyzer.localhost " } ≠ .ok () ∧
    ensureExactLocalTarget (localConfig.withMode .suppliedSessions) = .ok () := by
  decide +kernel

/-- The shipped configuration with supplied sessions. -/
theorem withSessionMode_local :
    ((localConfig.withMode .suppliedSessions) =
        localConfig.withRequestedMode (some .suppliedSessions) ∧
      (ensureExactLocalTarget (localConfig.withMode .suppliedSessions) = .ok () ↔
        ensureExactLocalTarget localConfig = .ok ())) ↔
    some AuthMode.suppliedSessions = none ∨
      some AuthMode.suppliedSessions = some localConfig.auth.mode ∨ Settled localConfig :=
  withSessionMode_iff
    (show modelValidate asciiConfigTables localConfig = .ok localConfig by decide +kernel)
    (show withSessionMode asciiConfigTables localConfig (some .suppliedSessions) =
      .ok (localConfig.withMode .suppliedSessions) by decide +kernel)

end ApiTests
