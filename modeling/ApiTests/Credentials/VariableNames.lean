import ApiTests.Config.SessionMode
import ApiTests.Credentials.Slots

/-!
# Variables that can hold a credential (`config.py:18-64`, `local_credentials.py:258-343`)

`validate_env_var_name` accepts letters and digits of any script, the assignments of the credential
file have ASCII names. Nothing keeps two settings from naming one variable.

Results:
* `isName_of_ascii`: an accepted name of ASCII characters is one the file's reader knows.
* `saved_generated`: what the file holds of a role behind the call that generated its credentials.
* **`generated_found_iff`**: the next call finds the generated credentials iff the role's variables
  are three different ASCII names, and no other role would take the username from them.
-/

namespace ApiTests.Credentials

open Py

variable {tables : ConfigTables} {browser : BrowserConfig} {role : SessionRole}

/-! ## Names -/

theorem mem_names (browser : BrowserConfig) (role : SessionRole) :
    (roleVariables browser role).username ∈ browser.names ∧
      (roleVariables browser role).password ∈ browser.names := by
  cases role <;> simp [roleVariables, BrowserConfig.names]

/-- The browser settings of a validated configuration hold accepted names. -/
theorem isEnvName_of_validated {raw config : EnvironmentConfig}
    (h : modelValidate tables raw = .ok config) (hbrowser : config.auth.browser = some browser) :
    ∀ name ∈ browser.names, IsEnvName tables name := by
  obtain ⟨-, -, hauth⟩ := validateAuth_eq_ok.mp (modelValidate_eq_ok.mp h).auth
  rw [hbrowser] at hauth
  generalize raw.auth.browser = rawBrowser at hauth
  cases hauth with
  | some hvalid =>
    obtain ⟨-, hnames⟩ := validateBrowser_eq_ok.mp hvalid
    intro name hname
    obtain ⟨value, -, hvalue⟩ := mem_of_forall₂ hnames hname
    exact (validateEnvVarName_eq_ok.mp hvalue).2

/-- **An accepted name of ASCII characters** is a name of the credential file. -/
theorem isName_of_ascii {name : Text} (h : IsEnvName tables name) (hascii : ∀ c ∈ name, c < 128) :
    IsName name := by
  refine ⟨?_, fun c hc => ?_⟩
  · have hhead := h.head
    cases name with
    | nil => exact absurd hhead (by simp)
    | cons c cs =>
      rw [List.head?_cons, Option.any_some, tables.isAlpha_ascii c (hascii c List.mem_cons_self)]
        at hhead
      simp only [isAsciiLetter, Bool.or_eq_true, Bool.and_eq_true, decide_eq_true_eq] at hhead
      simp only [headIn, isNameStart, Bool.or_eq_true, Bool.and_eq_true, decide_eq_true_eq,
        beq_iff_eq]
      omega
  · by_cases hunder : c = 95
    · subst hunder
      decide
    · have halnum := h.alnum c hc hunder
      rw [tables.isAlnum_ascii c (hascii c hc)] at halnum
      simp only [isAsciiLetter, isDigit, Bool.or_eq_true, Bool.and_eq_true, decide_eq_true_eq]
        at halnum
      simp only [isNameChar, isNameStart, Bool.or_eq_true, Bool.and_eq_true, decide_eq_true_eq,
        beq_iff_eq]
      omega

theorem IsName.ascii {name : Text} (h : IsName name) : ∀ c ∈ name, c < 128 := by
  intro c hc
  have hchar := h.2 c hc
  simp only [isNameChar, isNameStart, Bool.or_eq_true, Bool.and_eq_true, decide_eq_true_eq,
    beq_iff_eq] at hchar
  omega

theorem roleVariables_state (browser : BrowserConfig) (role : SessionRole) :
    (roleVariables browser role).state = role.stateName := by
  cases role <;> rfl

theorem isName_stateName (role : SessionRole) : IsName role.stateName := by
  cases role <;> decide

/-- The variables of a role can hold its credentials. -/
structure CanHold (browser : BrowserConfig) (role : SessionRole) : Prop where
  ascii : ∀ name ∈ (roleVariables browser role).all, ∀ c ∈ name, c < 128
  nodup : (roleVariables browser role).all.Nodup
  /-- No other role takes the username for its own. -/
  apart : ∀ other, other ≠ role →
    (roleVariables browser other).username = (roleVariables browser role).username →
    (roleVariables browser other).password ∉ (roleVariables browser role).all

theorem CanHold.isName (h : CanHold browser role)
    (hnames : ∀ name ∈ browser.names, IsEnvName tables name) :
    ∀ name ∈ (roleVariables browser role).all, IsName name := by
  obtain ⟨husername, hpassword⟩ := mem_names browser role
  intro name hname
  have hascii := h.ascii name hname
  rcases List.mem_cons.mp hname with rfl | hname
  · exact isName_of_ascii (hnames _ husername) hascii
  rcases List.mem_cons.mp hname with rfl | hname
  · exact isName_of_ascii (hnames _ hpassword) hascii
  rw [List.mem_singleton.mp hname, roleVariables_state]
  exact isName_stateName role

/-- A name the file's reader has found is one of its pattern. -/
theorem isName_of_read {path : Text} {file : CredentialFile} {values : Values}
    (hread : readCredentialFile path file = .ok values) {name : Text}
    (hname : saved values name ≠ []) : IsName name := by
  obtain ⟨value, hvalue⟩ := Option.ne_none_iff_exists'.mp (get?_ne_none_of_saved hname)
  obtain ⟨-, hentries⟩ := readCredentialFile_eq_ok_iff.mp hread
  have hmem := Dict.mem_entries_iff.mpr hvalue
  rw [hentries] at hmem
  obtain ⟨line, -, hline⟩ := List.mem_filterMap.mp hmem
  have hassigned : assignedName line = some name := by rw [← map_fst_assignment, hline]; rfl
  obtain ⟨value, hparts⟩ := parts_of_assignedName hassigned
  exact hparts.isName

/-! ## Generated credentials -/

theorem generated_username_ne (draws : Draws) :
    (generateLocalCredentials draws).username ≠ (generateLocalCredentials draws).password ∧
      (generateLocalCredentials draws).username ≠ AccountState.pending.text ∧
      (generateLocalCredentials draws).password ≠ AccountState.pending.text := by
  have husername : (generateLocalCredentials draws).username.head? = some 98 := rfl
  have hpassword : (generateLocalCredentials draws).password.head? = some 66 := rfl
  have hpending : AccountState.pending.text.head? = some 112 := by decide
  refine ⟨fun h => ?_, fun h => ?_, fun h => ?_⟩
  · rw [h, hpassword] at husername
    exact absurd husername (by decide)
  · rw [h, hpending] at husername
    exact absurd husername (by decide)
  · rw [h, hpending] at hpassword
    exact absurd hpassword (by decide)

/-! ## The next call -/

variable {config : EnvironmentConfig} {environ : Environ} {path : Text}
  {file file' : CredentialFile} {values : Values} {draws : Draws}

/-- The call that generates: the file holds nothing of the roles, and it is updated. -/
theorem generating_call (hbrowser : config.auth.browser = some browser)
    (hread : readCredentialFile path file = .ok values)
    (hfree : ∀ name ∈ slotVariables browser, values.get? name = none)
    (henv : NothingSupplied browser environ)
    (hfirst : perform path (loadOrCreateLocalCredentials config role environ path
      (generateLocalCredentials draws)) file =
        (.ok ⟨generateLocalCredentials draws, .stored .pending⟩, file')) :
    ensureExactLocalTarget config = .ok () ∧
      file' = updatedFile
        (slotUpdate (roleVariables browser role) (generateLocalCredentials draws)) file := by
  rcases perform_cases path (loadOrCreateLocalCredentials config role environ path
    (generateLocalCredentials draws)) file with ⟨e, he⟩ | ⟨body, values', plan, hop, hread', hplan, -, heq⟩
  · rw [he] at hfirst
    cases hfirst
  · rw [hread] at hread'
    cases hread'
    obtain ⟨names, hnames, hload, -⟩ := loadOrCreateLocal_plan hop hplan
    rw [variableNames_of_browser hbrowser] at hnames
    cases hnames
    have hgate : ensureExactLocalTarget config = .ok () := by
      obtain ⟨⟨⟩, hgate, -⟩ := bind_eq_ok.mp hop
      exact hgate
    refine ⟨hgate, ?_⟩
    rw [heq] at hfirst
    obtain ⟨hresult, hfile⟩ := Prod.mk.inj hfirst
    cases hload with
    | external hu hp => exact absurd (henv role).1 hu
    | stored hu hp hs =>
      have hnone := hfree _ (mem_slotVariables (username_mem (roleVariables browser role)))
      exact absurd hnone (get?_ne_none_of_saved hu)
    | fresh hu hp hs => exact hfile.symm

/-- A pair the file holds is loaded, and the generator is not asked. -/
theorem load_stored (generator : BrowserLoginCredentials) (path : Text)
    (hgate : ensureExactLocalTarget config = .ok ())
    (hbrowser : config.auth.browser = some browser) (henv : NothingSupplied browser environ)
    {credentials : BrowserLoginCredentials} {state : AccountState}
    (husername : saved values (roleVariables browser role).username = credentials.username)
    (hpassword : saved values (roleVariables browser role).password = credentials.password)
    (hne : credentials.username ≠ [] ∧ credentials.password ≠ [])
    (hstate : strip (values.getD (roleVariables browser role).state (lit "complete")) = state.text)
    (hdistinct : ensureDistinctRoleUsername config environ values role credentials.username =
      .ok ()) :
    ∃ body, loadOrCreateLocalCredentials config role environ path generator = .ok body ∧
      body values = .ok (.done ⟨credentials, .stored state⟩) := by
  obtain ⟨hu, hp⟩ := henv role
  refine ⟨_, bind_eq_ok.mpr ⟨(), hgate, bind_eq_ok.mpr ⟨_, variableNames_of_browser hbrowser role,
    bind_eq_ok.mpr ⟨(), ?_, rfl⟩⟩⟩, ?_⟩
  · rw [raiseIf_eq_ok, not_not]
    exact iff_of_true hu hp
  · have hsupplied : ¬ (saved environ (roleVariables browser role).username ≠ [] ∧
        saved environ (roleVariables browser role).password ≠ []) := fun h => h.1 hu
    simp only [if_neg hsupplied, husername, hpassword]
    refine bind_eq_ok.mpr ⟨(), ?_, ?_⟩
    · rw [raiseIf_eq_ok, not_not]
      exact iff_of_false hne.1 hne.2
    · rw [if_pos hne, AccountState.ofText_eq_some_iff.mpr hstate]
      exact bind_eq_ok.mpr ⟨(), hdistinct, rfl⟩

/-- The next call finds the credentials, whatever its generator would return. -/
def FoundAgain (config : EnvironmentConfig) (role : SessionRole) (environ : Environ) (path : Text)
    (credentials : BrowserLoginCredentials) (file : CredentialFile) : Prop :=
  ∀ generator, perform path (loadOrCreateLocalCredentials config role environ path generator) file =
    (.ok ⟨credentials, .stored .pending⟩, file)

/-- What the variables of a role hold behind the call that generated. -/
theorem saved_generated (h : CanHold browser role)
    (hnames : ∀ name ∈ browser.names, IsEnvName tables name)
    (hread : readCredentialFile path file = .ok values) (draws : Draws) :
    ∃ values', readCredentialFile path (updatedFile
        (slotUpdate (roleVariables browser role) (generateLocalCredentials draws)) file) =
          .ok values' ∧
      saved values' (roleVariables browser role).username =
        (generateLocalCredentials draws).username ∧
      saved values' (roleVariables browser role).password =
        (generateLocalCredentials draws).password ∧
      values'.get? (roleVariables browser role).state = some AccountState.pending.text ∧
      ∀ name ∉ (roleVariables browser role).all, values'.get? name = values.get? name := by
  obtain ⟨hu, hp⟩ := plain_generated draws
  have hclean := cleanUpdates_slot h.nodup (h.isName hnames) hu hp
  obtain ⟨husername, hpassword, hstate⟩ :=
    get?_update_slotUpdate h.nodup values (generateLocalCredentials draws)
  exact ⟨_, read_update hread hclean, saved_of_get? husername hu, saved_of_get? hpassword hp, hstate,
    fun name hname => Dict.get?_update_of_none (get?_slotUpdate_of_notMem h.nodup _ hname)⟩

/-- No other role resolves to the generated username. -/
theorem distinct_generated (h : CanHold browser role) (hbrowser : config.auth.browser = some browser)
    (henv : NothingSupplied browser environ) {values' : Values}
    (hfree : ∀ name ∈ slotVariables browser, values.get? name = none)
    (hpassword : saved values' (roleVariables browser role).password =
      (generateLocalCredentials draws).password)
    (hstate : values'.get? (roleVariables browser role).state = some AccountState.pending.text)
    (hkept : ∀ name ∉ (roleVariables browser role).all, values'.get? name = values.get? name) :
    ensureDistinctRoleUsername config environ values' role
      (generateLocalCredentials draws).username = .ok () := by
  obtain ⟨hne, hpending, -⟩ := generated_username_ne draws
  have hempty : ∀ name ∈ slotVariables browser, name ∉ (roleVariables browser role).all →
      saved values' name = [] := by
    intro name hslot hname
    rw [saved, Dict.getD, hkept name hname, hfree name hslot]
    rfl
  refine ensureDistinctRoleUsername_eq_ok.mpr fun other hother =>
    ⟨_, variableNames_of_browser hbrowser other, ?_⟩
  have hslot : ∀ name ∈ (roleVariables browser other).all, name ∈ slotVariables browser :=
    fun name hname => mem_slotVariables hname
  rcases resolvedUsername_eq_none_iff henv values' other with ⟨-, hnone⟩ | ⟨hfull, hsome⟩
  · rw [hnone]
    exact Option.some_ne_none _ ∘ Eq.symm
  · rw [hsome]
    unfold HalfSaved at hfull
    rw [not_or] at hfull
    have hu : (roleVariables browser other).username ∈ (roleVariables browser role).all :=
      by_contra fun hu => hfull.1 (hempty _ (hslot _ (by simp [RoleVariables.all])) hu)
    have hp : (roleVariables browser other).password ∈ (roleVariables browser role).all :=
      by_contra fun hp => hfull.2 (hempty _ (hslot _ (by simp [RoleVariables.all])) hp)
    rw [RoleVariables.all, List.mem_cons, List.mem_cons, List.mem_singleton] at hu
    -- The other role's username is saved in one of the three variables.
    rcases hu with hu | hu | hu
    · exact absurd hp (h.apart other hother hu)
    · rw [hu, hpassword]
      exact fun heq => hne (Option.some.inj heq).symm
    · rw [hu, saved_of_some hstate, (plain_state .pending).strip_eq]
      exact fun heq => hpending (Option.some.inj heq).symm

/-- Variables that can hold the credentials do. -/
theorem found_of_canHold (h : CanHold browser role)
    (hnames : ∀ name ∈ browser.names, IsEnvName tables name)
    (hgate : ensureExactLocalTarget config = .ok ())
    (hbrowser : config.auth.browser = some browser) (henv : NothingSupplied browser environ)
    (hread : readCredentialFile path file = .ok values)
    (hfree : ∀ name ∈ slotVariables browser, values.get? name = none) (draws : Draws) :
    FoundAgain config role environ path (generateLocalCredentials draws) (updatedFile
      (slotUpdate (roleVariables browser role) (generateLocalCredentials draws)) file) := by
  intro generator
  obtain ⟨values', hread', husername, hpassword, hstate, hkept⟩ :=
    saved_generated h hnames hread draws
  have hdistinct := distinct_generated h hbrowser henv hfree hpassword hstate hkept
  have hpending : strip (values'.getD (roleVariables browser role).state (lit "complete")) =
      AccountState.pending.text := by
    rw [Dict.getD, hstate, Option.getD_some, (plain_state .pending).strip_eq]
  obtain ⟨body, hop, hbody⟩ := load_stored generator path hgate hbrowser henv husername hpassword
    (generated_ne_nil draws) hpending hdistinct
  rw [perform, planOf_eq_ok.mpr ⟨body, _, hop, hread', hbody⟩]
  rfl

/-- Variables in which the next call finds the credentials can hold them. -/
theorem canHold_of_found (hbrowser : config.auth.browser = some browser)
    (henv : NothingSupplied browser environ)
    (h : FoundAgain config role environ path (generateLocalCredentials draws) file) :
    CanHold browser role := by
  obtain ⟨hune, hpne⟩ := generated_ne_nil draws
  obtain ⟨hne, hunepending, hpnepending⟩ := generated_username_ne draws
  -- The call whose generator would return something else shows that nothing is generated.
  have hcall := h ⟨[], []⟩
  obtain ⟨body, values, plan, hop, hread, hplan, hresult, -⟩ := perform_ok (congrArg Prod.fst hcall)
  obtain ⟨names, hrole, hload, hdistinct⟩ := loadOrCreateLocal_plan hop hplan
  rw [variableNames_of_browser hbrowser] at hrole
  cases hrole
  cases hload with
  | external hu hp => exact absurd (henv role).1 hu
  | fresh hu hp hs =>
    have hcredentials := congrArg (fun r => r.credentials.username) hresult
    exact absurd hcredentials.symm hune
  | stored hu hp hs =>
    obtain ⟨hcredentials, hpending⟩ := LocalCredentialRecord.mk.inj hresult
    obtain rfl := CredentialState.stored.inj hpending
    have husername : saved values (roleVariables browser role).username =
        (generateLocalCredentials draws).username := congrArg (·.username) hcredentials
    have hpassword : saved values (roleVariables browser role).password =
        (generateLocalCredentials draws).password := congrArg (·.password) hcredentials
    have hname : ∀ name ∈ (roleVariables browser role).all, IsName name := by
      intro name hmem
      rw [RoleVariables.all, List.mem_cons, List.mem_cons, List.mem_singleton] at hmem
      rcases hmem with rfl | rfl | rfl
      · exact isName_of_read hread hu
      · exact isName_of_read hread hp
      · rw [roleVariables_state]
        exact isName_stateName role
    have hstate : saved values (roleVariables browser role).state = AccountState.pending.text := by
      cases hvalue : values.get? (roleVariables browser role).state with
      | none =>
        rw [Dict.getD, hvalue] at hs
        exact absurd hs (by decide)
      | some value =>
        rw [Dict.getD, hvalue, Option.getD_some] at hs
        rw [saved_of_some hvalue, hs]
    have hsaved : ∀ name ∈ (roleVariables browser role).all, saved values name ≠ [] := by
      intro name hmem
      rw [RoleVariables.all, List.mem_cons, List.mem_cons, List.mem_singleton] at hmem
      rcases hmem with rfl | rfl | rfl
      · exact hu
      · exact hp
      · rw [hstate]
        decide
    refine ⟨fun name hmem => (hname name hmem).ascii, ?_, fun other hother hsame hmem => ?_⟩
    · simp only [RoleVariables.all, List.nodup_cons, List.mem_cons, List.not_mem_nil, or_false,
        not_or, not_false_eq_true, List.nodup_nil, and_true]
      refine ⟨⟨fun heq => ?_, fun heq => ?_⟩, fun heq => ?_⟩
      · rw [heq, hpassword] at husername
        exact hne husername.symm
      · rw [heq, hstate] at husername
        exact hunepending husername.symm
      · rw [heq, hstate] at hpassword
        exact hpnepending hpassword.symm
    · obtain ⟨names, hnames, hresolved⟩ :=
        ensureDistinctRoleUsername_eq_ok.mp hdistinct other hother
      rw [variableNames_of_browser hbrowser] at hnames
      cases hnames
      have husername' : saved values (roleVariables browser other).username =
          saved values (roleVariables browser role).username := by rw [hsame]
      rcases resolvedUsername_eq_none_iff henv values other with ⟨hhalf, -⟩ | ⟨-, hsome⟩
      · refine hhalf.elim (fun h => ?_) (hsaved _ hmem)
        exact hu (husername'.symm.trans h)
      · refine hresolved ?_
        rw [hsome, husername']
        rfl

/-- **The next call finds the generated credentials**, in the state pending and without asking its
generator, iff the variables of the role can hold them. -/
theorem generated_found_iff {raw : EnvironmentConfig} (hvalid : modelValidate tables raw = .ok config)
    (hbrowser : config.auth.browser = some browser) (henv : NothingSupplied browser environ)
    (hread : readCredentialFile path file = .ok values)
    (hfree : ∀ name ∈ slotVariables browser, values.get? name = none)
    (hfirst : perform path (loadOrCreateLocalCredentials config role environ path
      (generateLocalCredentials draws)) file =
        (.ok ⟨generateLocalCredentials draws, .stored .pending⟩, file')) :
    FoundAgain config role environ path (generateLocalCredentials draws) file' ↔
      CanHold browser role := by
  obtain ⟨hgate, rfl⟩ := generating_call hbrowser hread hfree henv hfirst
  refine ⟨canHold_of_found hbrowser henv, fun h => ?_⟩
  exact found_of_canHold h (isEnvName_of_validated hvalid hbrowser) hgate hbrowser henv hread hfree
    draws

/-! ## A name in another script -/

/-- Tables that know one letter beyond ASCII, `É`. -/
def accentTables : ConfigTables :=
  { asciiConfigTables with
    isAlnum := fun c => isAsciiLetter c || isDigit c || c == 0xC9
    isAlpha := fun c => isAsciiLetter c || c == 0xC9
    isAlnum_ascii := fun c hc => by
      have hne : (c == 0xC9) = false := beq_false_of_ne (by omega)
      rw [hne, Bool.or_false]
    isAlpha_ascii := fun c hc => by
      have hne : (c == 0xC9) = false := beq_false_of_ne (by omega)
      rw [hne, Bool.or_false] }

/-- The shipped configuration with an accented variable for the primary username. -/
def accentConfig : EnvironmentConfig :=
  { localConfig with auth := { localConfig.auth with
    browser := some { localBrowser with primaryUsernameEnv := lit "É_USERNAME" } } }

/-- The configuration is accepted, the credentials are generated and saved, and the next call does
not find the username. -/
theorem accented_name_lost :
    modelValidate accentTables accentConfig = .ok accentConfig ∧
    ensureExactLocalTarget accentConfig = .ok () ∧
    (perform (lit ".env.local") (loadOrCreateLocalCredentials accentConfig .primary .empty
      (lit ".env.local") (generateLocalCredentials zeroDraws)) .absent).1 =
        .ok ⟨generateLocalCredentials zeroDraws, .stored .pending⟩ ∧
    (perform (lit ".env.local") (loadOrCreateLocalCredentials accentConfig .primary .empty
      (lit ".env.local") (generateLocalCredentials zeroDraws))
        (perform (lit ".env.local") (loadOrCreateLocalCredentials accentConfig .primary .empty
          (lit ".env.local") (generateLocalCredentials zeroDraws)) .absent).2).1 =
      .error (.credential ⟨lit ".env.local contains partial primary credentials; preserve the " ++
        lit "existing value and set its matching É_USERNAME"⟩) := by
  decide +kernel

/-- The shipped configuration. -/
theorem generated_found_local :
    FoundAgain localConfig .primary .empty (lit ".env.local") (generateLocalCredentials zeroDraws)
      (updatedFile (slotUpdate (roleVariables localBrowser .primary)
        (generateLocalCredentials zeroDraws)) .absent) ↔ CanHold localBrowser .primary :=
  generated_found_iff
    (show modelValidate asciiConfigTables localConfig = .ok localConfig by decide +kernel) rfl
    (fun role => by cases role <;> decide)
    (show readCredentialFile (lit ".env.local") .absent = .ok .empty from rfl) (fun name _ => rfl)
    (by decide +kernel)

end ApiTests.Credentials
