import ApiTests.Credentials.Operation
import Mathlib.Data.List.Pairwise

/-!
# The reusable credential slots

Model of `load_or_create_local_credentials`, `mark_local_credentials_complete`,
`_ensure_distinct_role_username` and `generate_local_credentials` (`local_credentials.py:258-372`,
`401-434`). The generator is the value it would return; the random draws of
`generate_local_credentials` are arguments.

Results: one lemma per operation that says everything a successful run has checked and does
(`loadOrCreateLocal_plan`, `markLocal_plan`), and `plain_generated` (generated credentials hold no
whitespace, quote or `#`).
-/

namespace ApiTests.Credentials

open Py

/-- The states an account is saved in. -/
inductive AccountState where
  | pending
  | complete
  deriving Repr, DecidableEq

/-- The state as it is saved. -/
def AccountState.text : AccountState → Text
  | .pending => lit "pending"
  | .complete => lit "complete"

/-- The account state a text names, if it is one. -/
def AccountState.ofText (t : Text) : Option AccountState :=
  if t = lit "pending" then some .pending
  else if t = lit "complete" then some .complete
  else none

theorem AccountState.ofText_eq_some_iff {t : Text} {state : AccountState} :
    AccountState.ofText t = some state ↔ t = state.text := by
  unfold AccountState.ofText
  constructor
  · intro h
    split_ifs at h with h₁ h₂
    · cases h
      exact h₁
    · cases h
      exact h₂
  · rintro rfl
    cases state <;> decide

theorem plain_state (state : AccountState) : Plain state.text := by
  cases state <;> decide

/-- `CredentialState`. -/
inductive CredentialState where
  | external
  | stored (state : AccountState)
  deriving Repr, DecidableEq

/-- `LocalCredentialRecord`. -/
structure LocalCredentialRecord where
  credentials : BrowserLoginCredentials
  state : CredentialState
  deriving Repr, DecidableEq

/-! ## Distinct role usernames -/

/-- `_ensure_distinct_role_username`. -/
def ensureDistinctRoleUsername (config : EnvironmentConfig) (environ : Environ) (values : Values)
    (role : SessionRole) (username : Text) : Checked Unit :=
  forEach (fun otherRole =>
    if otherRole = role then .ok ()
    else do
      let names ← variableNames config otherRole
      raiseIf (resolvedUsername environ values names = some username)
        (role.text ++ lit " and " ++ otherRole.text ++
          lit (" local credentials resolve to the same username; " ++
            "configure distinct identities for every credential slot")))
    roles

/-- **What the comparison checks**: no other role resolves to the username. -/
theorem ensureDistinctRoleUsername_eq_ok {config : EnvironmentConfig} {environ : Environ}
    {values : Values} {role : SessionRole} {username : Text} :
    ensureDistinctRoleUsername config environ values role username = .ok () ↔
      ∀ other, other ≠ role → ∃ names, variableNames config other = .ok names ∧
        resolvedUsername environ values names ≠ some username := by
  rw [ensureDistinctRoleUsername, forEach_eq_ok]
  refine ⟨fun h other hne => ?_, fun h other _ => ?_⟩
  · have := h other (mem_roles other)
    rw [if_neg hne, bind_eq_ok] at this
    obtain ⟨names, hnames, hcheck⟩ := this
    exact ⟨names, hnames, raiseIf_eq_ok.mp hcheck⟩
  · split_ifs with hrole
    · rfl
    · obtain ⟨names, hnames, hne⟩ := h other hrole
      exact bind_eq_ok.mpr ⟨names, hnames, raiseIf_eq_ok.mpr hne⟩

/-! ## The operations -/

/-- `load_or_create_local_credentials`. -/
def loadOrCreateLocalCredentials (config : EnvironmentConfig) (role : SessionRole)
    (environ : Environ) (path : Text) (generator : BrowserLoginCredentials) :
    Checked (Body LocalCredentialRecord) := do
  -- This check deliberately precedes environment and file access.
  ensureExactLocalTarget config
  let names ← variableNames config role
  let suppliedUsername := saved environ names.username
  let suppliedPassword := saved environ names.password
  raiseIf (¬ (suppliedUsername = [] ↔ suppliedPassword = []))
    (role.text ++ lit " environment credentials are partial; set both " ++ names.username ++
      lit " and " ++ names.password ++ lit ", or unset both")
  return fun values => do
    if suppliedUsername ≠ [] ∧ suppliedPassword ≠ [] then
      ensureDistinctRoleUsername config environ values role suppliedUsername
      return .done ⟨⟨suppliedUsername, suppliedPassword⟩, .external⟩
    else
      let storedUsername := saved values names.username
      let storedPassword := saved values names.password
      raiseIf (¬ (storedUsername = [] ↔ storedPassword = []))
        (path ++ lit " contains partial " ++ role.text ++
          lit " credentials; preserve the existing value and set its matching " ++
          if storedUsername = [] then names.username else names.password)
      if storedUsername ≠ [] ∧ storedPassword ≠ [] then
        match AccountState.ofText (strip (values.getD names.state (lit "complete"))) with
        | none =>
          raise (path ++ lit " has invalid " ++ role.text ++ lit " account state in " ++ names.state)
        | some state =>
          ensureDistinctRoleUsername config environ values role storedUsername
          return .done ⟨⟨storedUsername, storedPassword⟩, .stored state⟩
      else
        raiseIf (saved values names.state ≠ [])
          (path ++ lit " contains " ++ names.state ++ lit " without a complete " ++ role.text ++
            lit " credential pair")
        ensureDistinctRoleUsername config environ values role generator.username
        return .write
          (.ofList [(names.username, generator.username), (names.password, generator.password),
            (names.state, AccountState.pending.text)])
          ⟨generator, .stored .pending⟩

/-- `mark_local_credentials_complete`. -/
def markLocalCredentialsComplete (config : EnvironmentConfig) (role : SessionRole)
    (credentials : BrowserLoginCredentials) (path : Text) : Checked (Body Unit) := do
  ensureExactLocalTarget config
  let names ← variableNames config role
  return fun values => do
    raiseIf (saved values names.username ≠ credentials.username ∨
        saved values names.password ≠ credentials.password)
      (path ++ lit " changed while provisioning the " ++ role.text ++
        lit " account; credentials were preserved and account state was not updated")
    return .write (.single names.state AccountState.complete.text) ()

/-- What `load_or_create_local_credentials` does about the slot `names`, by what the environment
and the variables hold of it. -/
inductive LocalLoad (environ : Environ) (names : RoleVariables) (generator : BrowserLoginCredentials)
    (values : Values) : Plan LocalCredentialRecord → Prop
  /-- The environment supplies the pair. -/
  | external (hu : saved environ names.username ≠ []) (hp : saved environ names.password ≠ []) :
      LocalLoad environ names generator values
        (.done ⟨⟨saved environ names.username, saved environ names.password⟩, .external⟩)
  /-- The file holds the pair, in a valid state. -/
  | stored {state : AccountState} (hu : saved values names.username ≠ [])
      (hp : saved values names.password ≠ [])
      (hs : strip (values.getD names.state (lit "complete")) = state.text) :
      LocalLoad environ names generator values
        (.done ⟨⟨saved values names.username, saved values names.password⟩, .stored state⟩)
  /-- The file holds nothing of the slot. -/
  | fresh (hu : saved values names.username = []) (hp : saved values names.password = [])
      (hs : saved values names.state = []) :
      LocalLoad environ names generator values
        (.write (.ofList [(names.username, generator.username),
          (names.password, generator.password), (names.state, AccountState.pending.text)])
          ⟨generator, .stored .pending⟩)

/-- **What a call of `load_or_create_local_credentials` checks and does.** -/
theorem loadOrCreateLocal_plan {config : EnvironmentConfig} {role : SessionRole}
    {environ : Environ} {path : Text} {generator : BrowserLoginCredentials}
    {body : Body LocalCredentialRecord} {values : Values} {plan : Plan LocalCredentialRecord}
    (hop : loadOrCreateLocalCredentials config role environ path generator = .ok body)
    (hplan : body values = .ok plan) :
    ∃ names, variableNames config role = .ok names ∧
      LocalLoad environ names generator values plan ∧
      ensureDistinctRoleUsername config environ values role plan.result.credentials.username =
        .ok () := by
  simp only [loadOrCreateLocalCredentials, bind_eq_ok, raiseIf_eq_ok, not_not] at hop
  obtain ⟨-, -, names, hnames, -, -, hbody⟩ := hop
  cases hbody
  refine ⟨names, hnames, ?_⟩
  dsimp only at hplan
  by_cases hsupplied : saved environ names.username ≠ [] ∧ saved environ names.password ≠ []
  · rw [if_pos hsupplied] at hplan
    obtain ⟨_, hdistinct, hplan⟩ := bind_eq_ok.mp hplan
    cases hplan
    exact ⟨.external hsupplied.1 hsupplied.2, hdistinct⟩
  · rw [if_neg hsupplied, bind_eq_ok] at hplan
    obtain ⟨_, hpair, hplan⟩ := hplan
    rw [raiseIf_eq_ok, not_not] at hpair
    by_cases hstored : saved values names.username ≠ [] ∧ saved values names.password ≠ []
    · rw [if_pos hstored] at hplan
      cases hstate : AccountState.ofText (strip (values.getD names.state (lit "complete"))) with
      | none =>
        rw [hstate] at hplan
        exact absurd hplan raise_ne_ok
      | some state =>
        rw [hstate] at hplan
        obtain ⟨_, hdistinct, hplan⟩ := bind_eq_ok.mp hplan
        cases hplan
        exact ⟨.stored hstored.1 hstored.2 (AccountState.ofText_eq_some_iff.mp hstate), hdistinct⟩
    · rw [if_neg hstored, bind_eq_ok] at hplan
      obtain ⟨_, hstate, hplan⟩ := hplan
      rw [raiseIf_eq_ok, not_not] at hstate
      obtain ⟨_, hdistinct, hplan⟩ := bind_eq_ok.mp hplan
      cases hplan
      have hu : saved values names.username = [] := by
        by_contra hu
        exact hstored ⟨hu, fun hp => hu (hpair.mpr hp)⟩
      exact ⟨.fresh hu (hpair.mp hu) hstate, hdistinct⟩

/-- **What a call of `mark_local_credentials_complete` checks and does.** -/
theorem markLocal_plan {config : EnvironmentConfig} {role : SessionRole}
    {credentials : BrowserLoginCredentials} {path : Text} {body : Body Unit} {values : Values}
    {plan : Plan Unit} (hop : markLocalCredentialsComplete config role credentials path = .ok body)
    (hplan : body values = .ok plan) :
    ∃ names, variableNames config role = .ok names ∧
      saved values names.username = credentials.username ∧
      saved values names.password = credentials.password ∧
      plan = .write (.single names.state AccountState.complete.text) () := by
  simp only [markLocalCredentialsComplete, bind_eq_ok] at hop
  obtain ⟨-, -, names, hnames, hbody⟩ := hop
  cases hbody
  simp only [bind_eq_ok, raiseIf_eq_ok, not_or, not_not] at hplan
  obtain ⟨-, ⟨hu, hp⟩, hplan⟩ := hplan
  cases hplan
  exact ⟨names, hnames, hu, hp, rfl⟩

/-! ## The variables of the slots -/

/-- The three variables of a slot. -/
def RoleVariables.all (names : RoleVariables) : List Text :=
  [names.username, names.password, names.state]

/-- The nine variables of the three slots. -/
def slotVariables (browser : BrowserConfig) : List Text :=
  roles.flatMap fun role => (roleVariables browser role).all

/-- The slots have variables of their own, all of them ASCII identifiers. -/
structure WellNamed (browser : BrowserConfig) : Prop where
  nodup : (slotVariables browser).Nodup
  isName : ∀ name ∈ slotVariables browser, IsName name

theorem mem_slotVariables {browser : BrowserConfig} {role : SessionRole} {name : Text}
    (h : name ∈ (roleVariables browser role).all) : name ∈ slotVariables browser :=
  List.mem_flatMap.mpr ⟨role, mem_roles role, h⟩

theorem WellNamed.nodup_all {browser : BrowserConfig} (h : WellNamed browser) (role : SessionRole) :
    (roleVariables browser role).all.Nodup :=
  (List.nodup_flatMap.mp h.nodup).1 role (mem_roles role)

/-- No variable belongs to two slots. -/
theorem WellNamed.role_eq {browser : BrowserConfig} (h : WellNamed browser) {role role' : SessionRole}
    {name : Text} (hname : name ∈ (roleVariables browser role).all)
    (hname' : name ∈ (roleVariables browser role').all) : role = role' := by
  by_contra hne
  have hpair := (List.nodup_flatMap.mp h.nodup).2
  have hsymm : Std.Symm (Function.onFun List.Disjoint fun r => (roleVariables browser r).all) :=
    ⟨fun _ _ hd _ h₁ h₂ => hd h₂ h₁⟩
  exact hpair.forall (mem_roles role) (mem_roles role') hne hname hname'

theorem variableNames_eq_ok {config : EnvironmentConfig} {role : SessionRole} {names : RoleVariables} :
    variableNames config role = .ok names ↔
      ∃ browser, config.auth.browser = some browser ∧ names = roleVariables browser role := by
  unfold variableNames
  cases config.auth.browser with
  | none => simp
  | some browser => simp [eq_comm]

/-- What a new slot saves. -/
def slotUpdate (names : RoleVariables) (credentials : BrowserLoginCredentials) : Values :=
  .ofList [(names.username, credentials.username), (names.password, credentials.password),
    (names.state, AccountState.pending.text)]

theorem entries_slotUpdate {names : RoleVariables} (h : names.all.Nodup)
    (credentials : BrowserLoginCredentials) : (slotUpdate names credentials).entries =
      [(names.username, credentials.username), (names.password, credentials.password),
        (names.state, AccountState.pending.text)] :=
  Dict.entries_ofList (by exact h)

/-- The variables of a new slot. -/
theorem get?_update_slotUpdate {names : RoleVariables} (h : names.all.Nodup) (values : Values)
    (credentials : BrowserLoginCredentials) :
    (values.update (slotUpdate names credentials)).get? names.username =
        some credentials.username ∧
      (values.update (slotUpdate names credentials)).get? names.password =
        some credentials.password ∧
      (values.update (slotUpdate names credentials)).get? names.state =
        some AccountState.pending.text := by
  have hget : ∀ name value, (name, value) ∈ [(names.username, credentials.username),
      (names.password, credentials.password), (names.state, AccountState.pending.text)] →
      (values.update (slotUpdate names credentials)).get? name = some value := by
    intro name value hmem
    rw [← entries_slotUpdate h] at hmem
    exact Dict.get?_update_of_some (Dict.mem_entries_iff.mp hmem)
  exact ⟨hget _ _ (by simp), hget _ _ (by simp), hget _ _ (by simp)⟩

theorem get?_slotUpdate_of_notMem {names : RoleVariables} (h : names.all.Nodup)
    (credentials : BrowserLoginCredentials) {name : Text} (hname : name ∉ names.all) :
    (slotUpdate names credentials).get? name = none := by
  rw [Dict.get?_eq_none_iff, entries_slotUpdate h]
  exact hname

/-- What a new slot saves are identifiers with its credentials and its state. -/
theorem forall_slotUpdate {P : Text → Prop} {names : RoleVariables} (h : names.all.Nodup)
    (hnames : ∀ name ∈ names.all, IsName name) {credentials : BrowserLoginCredentials}
    (hu : P credentials.username) (hp : P credentials.password) (hs : P AccountState.pending.text) :
    ∀ e ∈ (slotUpdate names credentials).entries, IsName e.1 ∧ P e.2 := by
  intro e he
  rw [entries_slotUpdate h] at he
  simp only [List.mem_cons, List.not_mem_nil, or_false] at he
  rcases he with rfl | rfl | rfl
  · exact ⟨hnames _ (by simp [RoleVariables.all]), hu⟩
  · exact ⟨hnames _ (by simp [RoleVariables.all]), hp⟩
  · exact ⟨hnames _ (by simp [RoleVariables.all]), hs⟩

/-- A new slot with plain credentials is a clean update. -/
theorem cleanUpdates_slot {names : RoleVariables} (h : names.all.Nodup)
    (hnames : ∀ name ∈ names.all, IsName name) {credentials : BrowserLoginCredentials}
    (hu : Plain credentials.username) (hp : Plain credentials.password) :
    CleanUpdates (slotUpdate names credentials) :=
  forall_slotUpdate h hnames hu.cleanValue hp.cleanValue (plain_state .pending).cleanValue

theorem variableNames_of_browser {config : EnvironmentConfig} {browser : BrowserConfig}
    (hbrowser : config.auth.browser = some browser) (role : SessionRole) :
    variableNames config role = .ok (roleVariables browser role) :=
  variableNames_eq_ok.mpr ⟨browser, hbrowser, rfl⟩

/-- The environment supplies no credentials. -/
def NothingSupplied (browser : BrowserConfig) (environ : Environ) : Prop :=
  ∀ role, saved environ (roleVariables browser role).username = [] ∧
    saved environ (roleVariables browser role).password = []

theorem username_mem (names : RoleVariables) : names.username ∈ names.all := List.mem_cons_self

/-- A slot with plain credentials is written as lines. -/
theorem writesLines_reusable {config : EnvironmentConfig} {browser : BrowserConfig}
    {environ : Environ} {path : Text} (h : WellNamed browser)
    (hbrowser : config.auth.browser = some browser) {role : SessionRole}
    {generator : BrowserLoginCredentials} (hu : Plain generator.username)
    (hp : Plain generator.password) (values : Values) :
    WritesLines (loadOrCreateLocalCredentials config role environ path generator) values := by
  intro body plan hop hplan
  obtain ⟨names, hnames, hload, -⟩ := loadOrCreateLocal_plan hop hplan
  rw [variableNames_of_browser hbrowser, Except.ok.injEq] at hnames
  subst hnames
  cases hload with
  | external => trivial
  | stored => trivial
  | fresh =>
    exact (cleanUpdates_slot (h.nodup_all role)
      (fun name hn => h.isName name (mem_slotVariables hn)) hu hp).lineUpdates

/-! ## Generated credentials -/

/-- The characters `secrets.token_hex` writes. -/
def hexDigits : Text := lit "0123456789abcdef"

/-- The two digits of a byte. -/
def hexByte (b : Fin 256) : Text :=
  [hexDigits.getD (b / 16) 0, hexDigits.getD (b % 16) 0]

/-- `string.ascii_letters + string.digits + "!@%_-"`. -/
def passwordAlphabet : Text :=
  lit "abcdefghijklmnopqrstuvwxyzABCDEFGHIJKLMNOPQRSTUVWXYZ0123456789!@%_-"

theorem passwordAlphabet_pos : 0 < passwordAlphabet.length := by decide

/-- The random draws of one `generate_local_credentials`: the bytes of `secrets.token_hex(12)` and
the indices of the 28 `secrets.choice(alphabet)`. -/
structure Draws where
  token : Fin 12 → Fin 256
  choices : Fin 28 → Fin passwordAlphabet.length

/-- Draws of one byte and of the first letter. -/
def sameDraws (byte : Fin 256) : Draws := ⟨fun _ => byte, fun _ => ⟨0, passwordAlphabet_pos⟩⟩

/-- Every draw is the first one. -/
def zeroDraws : Draws := sameDraws 0

/-- `generate_local_credentials`. -/
def generateLocalCredentials (draws : Draws) : BrowserLoginCredentials where
  username := lit "ba-api-test-" ++ (List.ofFn draws.token).flatMap hexByte ++ lit "@test.com"
  password := lit "Ba9!" ++ (List.ofFn draws.choices).map fun i => passwordAlphabet.get i

theorem Plain.append {t u : Text} (ht : Plain t) (hu : Plain u) : Plain (t ++ u) := by
  intro c hc
  exact (List.mem_append.mp hc).elim (ht c) (hu c)

theorem plain_hexByte (b : Fin 256) : Plain (hexByte b) := by
  have hdigit : ∀ i : Fin 16, ∀ c ∈ [hexDigits.getD i 0],
      isSpace c = false ∧ isQuote c = false ∧ c ≠ 0x23 := by decide
  intro c hc
  rcases List.mem_cons.mp hc with hc | hc
  · exact hdigit ⟨b / 16, by omega⟩ c (List.mem_singleton.mpr hc)
  · exact hdigit ⟨b % 16, by omega⟩ c hc

/-- **Generated credentials hold no whitespace, quote or `#`**, whatever is drawn. -/
theorem plain_generated (draws : Draws) :
    Plain (generateLocalCredentials draws).username ∧
      Plain (generateLocalCredentials draws).password := by
  have htoken : Plain ((List.ofFn draws.token).flatMap hexByte) := by
    intro c hc
    obtain ⟨b, -, hc⟩ := List.mem_flatMap.mp hc
    exact plain_hexByte b c hc
  have halphabet : Plain passwordAlphabet := by decide
  have hchoices : Plain ((List.ofFn draws.choices).map fun i => passwordAlphabet.get i) := by
    intro c hc
    obtain ⟨i, -, rfl⟩ := List.mem_map.mp hc
    exact halphabet _ (List.get_mem _ _)
  have hhead : Plain (lit "ba-api-test-") := by decide
  have htail : Plain (lit "@test.com") := by decide
  have hseed : Plain (lit "Ba9!") := by decide
  exact ⟨(hhead.append htoken).append htail, hseed.append hchoices⟩

theorem generated_ne_nil (draws : Draws) :
    (generateLocalCredentials draws).username ≠ [] ∧
      (generateLocalCredentials draws).password ≠ [] := by
  have hhead : lit "ba-api-test-" ≠ [] := by decide
  have hseed : lit "Ba9!" ≠ [] := by decide
  simp [generateLocalCredentials, hhead, hseed]

end ApiTests.Credentials
