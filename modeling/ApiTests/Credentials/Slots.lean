import ApiTests.Credentials.Session

/-!
# One username for every credential slot

`load_or_create_local_credentials` compares a new username with the other reusable roles
(`_ensure_distinct_role_username`, `local_credentials.py:401-434`), and
`load_or_create_disposable_credentials` compares it with the roles and with the other disposable
records (`_ensure_disposable_username_is_distinct`, `469-502`). The first comparison never looks at
disposable records, and both skip a role that is saved with an empty username or password.

`Unseen` names the username variables the comparison of a call skips, and `DrawsFresh` is the
condition that a call that creates a slot draws a username none of them saves.

Results: `slotsDistinct_after` and `slots_distinct` (**in every sequence of such calls no two slots
save one username**), `shared_username_example` (a role takes the username of a disposable record).
-/

namespace ApiTests.Credentials

open Py

/-! ## Slots and their usernames -/

/-- The variable of a slot's username: a reusable role's, or a record's. -/
def UsernameVariable (browser : BrowserConfig) (name : Text) : Prop :=
  (∃ role, name = (roleVariables browser role).username) ∨ RecordVariable usernameSuffix name

/-- No two slots save one username. -/
def SlotsDistinct (browser : BrowserConfig) (values : Values) : Prop :=
  values.DistinctOn (UsernameVariable browser) strip

/-- The roles have variables of their own, none of them a record variable. -/
structure SlotNames (browser : BrowserConfig) : Prop extends WellNamed browser where
  notRecord : ∀ name ∈ slotVariables browser, ¬ disposableRecordPrefix <+: name

/-- The role is saved without a username or without a password. -/
def HalfSaved (browser : BrowserConfig) (values : Values) (role : SessionRole) : Prop :=
  saved values (roleVariables browser role).username = [] ∨
    saved values (roleVariables browser role).password = []

/-- Without supplied credentials a role resolves to what it saves. -/
theorem resolvedUsername_eq_none_iff {browser : BrowserConfig} {environ : Environ}
    (henv : NothingSupplied browser environ) (values : Values) (role : SessionRole) :
    (HalfSaved browser values role ∧
      resolvedUsername environ values (roleVariables browser role) = none) ∨
    (¬ HalfSaved browser values role ∧
      resolvedUsername environ values (roleVariables browser role) =
        some (saved values (roleVariables browser role).username)) := by
  obtain ⟨hu, hp⟩ := henv role
  unfold HalfSaved resolvedUsername
  simp only [hu, hp, ne_eq, not_true_eq_false, false_and, or_self, if_false]
  split_ifs with h
  · exact Or.inl ⟨h, rfl⟩
  · exact Or.inr ⟨h, rfl⟩

/-! ## Calls -/

/-- A call that loads or creates a slot. -/
inductive SlotCall where
  | reusable (role : SessionRole) (generator : BrowserLoginCredentials)
  | disposable (runId scenarioId : Text) (generator : BrowserLoginCredentials)

namespace SlotCall

/-- What the call's generator returns. -/
def generator : SlotCall → BrowserLoginCredentials
  | reusable _ generator => generator
  | disposable _ _ generator => generator

/-- The file after the call, whether it returns or raises. -/
def after (config : EnvironmentConfig) (environ : Environ) (path : Text) (call : SlotCall)
    (file : CredentialFile) : CredentialFile :=
  match call with
  | reusable role generator =>
    (perform path (loadOrCreateLocalCredentials config role environ path generator) file).2
  | disposable runId scenarioId generator =>
    (perform path
      (loadOrCreateDisposableCredentials config environ runId scenarioId path generator) file).2

/-- Credentials without whitespace, quote or `#`, ids of one line. -/
def Admissible : SlotCall → Prop
  | reusable _ generator => Plain generator.username ∧ Plain generator.password
  | disposable runId scenarioId generator =>
    OneLine runId ∧ OneLine scenarioId ∧ Plain generator.username ∧ Plain generator.password

/-- The file saves nothing of the slot: the call asks its generator. -/
def Creates (browser : BrowserConfig) (values : Values) : SlotCall → Prop
  | reusable role _ => ∀ name ∈ (roleVariables browser role).all, saved values name = []
  | disposable runId scenarioId _ =>
    ∃ pre, disposableVariablePrefix runId scenarioId = .ok pre ∧
      ∀ name ∈ (disposableVariableNames pre).all, saved values name = []

/-- The username variables of other slots that the call's comparison skips. -/
def Unseen (browser : BrowserConfig) (values : Values) : SlotCall → Text → Prop
  | reusable role _, name => RecordVariable usernameSuffix name ∨
      ∃ other, other ≠ role ∧ HalfSaved browser values other ∧
        name = (roleVariables browser other).username
  | disposable _ _ _, name =>
    ∃ other, HalfSaved browser values other ∧ name = (roleVariables browser other).username

/-- If the call creates a slot, it draws a username that no slot its comparison skips saves. -/
def DrawsFresh (browser : BrowserConfig) (values : Values) (call : SlotCall) : Prop :=
  call.Creates browser values → ∀ name value, call.Unseen browser values name →
    values.get? name = some value → strip value ≠ call.generator.username

end SlotCall

/-! ## One step -/

section

variable {config : EnvironmentConfig} {browser : BrowserConfig} {environ : Environ} {path : Text}

/-- The variable of a role is of no other slot. -/
theorem SlotNames.username_eq (h : SlotNames browser) {role : SessionRole} {name : Text}
    (hname : name ∈ (roleVariables browser role).all) (huser : UsernameVariable browser name) :
    name = (roleVariables browser role).username := by
  rcases huser with ⟨other, rfl⟩ | hrecord
  · rw [h.role_eq hname (username_mem _)]
  · exact absurd hrecord.1 (h.notRecord name (mem_slotVariables hname))

/-- A new role with a username of its own keeps the slots distinct. -/
theorem slotsDistinct_reusable (h : SlotNames browser) {values : Values}
    (hvalues : SlotsDistinct browser values) {role : SessionRole}
    {credentials : BrowserLoginCredentials} (hu : Plain credentials.username)
    (hp : Plain credentials.password)
    (hnew : ∀ name value, UsernameVariable browser name →
      name ≠ (roleVariables browser role).username → values.get? name = some value →
      strip value ≠ credentials.username) :
    SlotsDistinct browser
      (values.update (parsed (slotUpdate (roleVariables browser role) credentials))) := by
  have hnodup := h.nodup_all role
  rw [parsed_eq (cleanUpdates_slot hnodup (fun name hn => h.isName name (mem_slotVariables hn)) hu hp)]
  refine Dict.DistinctOn.update hvalues (roleVariables browser role).username
    (fun name value huser hget => ?_) fun value hget name w huser hne hw => ?_
  · by_contra hne
    have hmem : name ∈ (roleVariables browser role).all := by
      by_contra hmem
      rw [get?_slotUpdate_of_notMem hnodup credentials hmem] at hget
      exact nomatch hget
    exact hne (h.username_eq hmem huser)
  · have hfirst : (slotUpdate (roleVariables browser role) credentials).get?
        (roleVariables browser role).username = some credentials.username := by
      rw [← Dict.mem_entries_iff, entries_slotUpdate hnodup]
      exact List.mem_cons_self
    rw [hfirst, Option.some.injEq] at hget
    rw [← hget, hu.strip_eq]
    exact hnew name w huser hne hw

/-- A new record with a username of its own keeps the slots distinct. -/
theorem slotsDistinct_disposable (h : SlotNames browser) {values : Values}
    (hvalues : SlotsDistinct browser values) {runId scenarioId pre : Text}
    (hpre : disposableVariablePrefix runId scenarioId = .ok pre)
    {credentials : BrowserLoginCredentials} (hu : Plain credentials.username)
    (hnew : ∀ name value, UsernameVariable browser name → name ≠ pre ++ usernameSuffix →
      values.get? name = some value → strip value ≠ credentials.username) :
    SlotsDistinct browser
      (values.update (parsed (recordUpdate pre (freshFields runId scenarioId credentials)))) := by
  have hl := fields_fresh runId scenarioId credentials
  have husername : usernameSuffix ∈ suffixes := by decide
  refine Dict.DistinctOn.update hvalues (pre ++ usernameSuffix)
    (fun name value huser hget => ?_) fun value hget name w huser hne hw => ?_
  · rcases huser with ⟨role, rfl⟩ | hrecord
    · have hmem : (roleVariables browser role).username ∈ (disposableVariableNames pre).all := by
        by_contra hmem
        rw [get?_parsed, get?_recordUpdate_of_notMem hl hmem] at hget
        exact nomatch hget
      exact absurd (isName_of_disposablePrefix hpre hmem).2
        (h.notRecord _ (mem_slotVariables (username_mem _)))
    · exact eq_of_get?_recordUpdate hl husername hrecord hget
  · have hfirst : (Dict.ofList (freshFields runId scenarioId credentials)).get? usernameSuffix =
        some credentials.username :=
      (Dict.get?_ofList_eq_some_iff hl.nodup).mpr (by simp [freshFields])
    rw [get?_parsed, get?_recordUpdate hl husername, if_pos rfl, hfirst, Option.map_some,
      hu.parseValue_eq, Option.some.injEq] at hget
    rw [← hget, hu.strip_eq]
    exact hnew name w huser hne hw

/-- A role that resolves to another username and is not skipped saves another one. -/
theorem strip_ne_of_resolved (henv : NothingSupplied browser environ) {values : Values}
    {role : SessionRole} {username value : Text} (hfull : ¬ HalfSaved browser values role)
    (hvalue : values.get? (roleVariables browser role).username = some value)
    (hne : resolvedUsername environ values (roleVariables browser role) ≠ some username) :
    strip value ≠ username := by
  rcases resolvedUsername_eq_none_iff henv values role with ⟨hhalf, -⟩ | ⟨-, hresolved⟩
  · exact absurd hhalf hfull
  · rw [hresolved, saved_of_some hvalue] at hne
    exact fun e => hne (congrArg some e)

/-- What a call for a reusable role does to the variables. -/
theorem slotsDistinct_performOn_reusable (h : SlotNames browser)
    (hbrowser : config.auth.browser = some browser) (henv : NothingSupplied browser environ)
    {values : Values} (hvalues : SlotsDistinct browser values) {role : SessionRole}
    {generator : BrowserLoginCredentials} (hu : Plain generator.username)
    (hp : Plain generator.password)
    (hfresh : (SlotCall.reusable role generator).DrawsFresh browser values) :
    SlotsDistinct browser
      (performOn (loadOrCreateLocalCredentials config role environ path generator) values).2 := by
  rcases performOn_cases (loadOrCreateLocalCredentials config role environ path generator) values with
    ⟨e, he⟩ | ⟨body, plan, hop, hplan, he⟩ <;> rw [he]
  · exact hvalues
  · obtain ⟨names, hnames, hload, hdistinct⟩ := loadOrCreateLocal_plan hop hplan
    rw [variableNames_of_browser hbrowser, Except.ok.injEq] at hnames
    subst hnames
    cases hload with
    | external => exact hvalues
    | stored => exact hvalues
    | fresh hsu hsp hss =>
      have hcreates : (SlotCall.reusable role generator).Creates browser values := by
        intro name hname
        simp only [RoleVariables.all, List.mem_cons, List.not_mem_nil, or_false] at hname
        rcases hname with rfl | rfl | rfl
        · exact hsu
        · exact hsp
        · exact hss
      refine slotsDistinct_reusable h hvalues hu hp fun name value huser hne hget => ?_
      rcases huser with ⟨other, rfl⟩ | hrecord
      · have hother : other ≠ role := fun e => hne (e ▸ rfl)
        by_cases hhalf : HalfSaved browser values other
        · exact hfresh hcreates _ value (Or.inr ⟨other, hother, hhalf, rfl⟩) hget
        · obtain ⟨names, hnames, hresolved⟩ :=
            ensureDistinctRoleUsername_eq_ok.mp hdistinct other hother
          rw [variableNames_of_browser hbrowser, Except.ok.injEq] at hnames
          subst hnames
          exact strip_ne_of_resolved henv hhalf hget hresolved
      · exact hfresh hcreates name value (Or.inl hrecord) hget

/-- What a call for a disposable record does to the variables. -/
theorem slotsDistinct_performOn_disposable (h : SlotNames browser)
    (hbrowser : config.auth.browser = some browser) (henv : NothingSupplied browser environ)
    {values : Values} (hvalues : SlotsDistinct browser values) {runId scenarioId : Text}
    {generator : BrowserLoginCredentials} (hu : Plain generator.username)
    (hfresh : (SlotCall.disposable runId scenarioId generator).DrawsFresh browser values) :
    SlotsDistinct browser
      (performOn (loadOrCreateDisposableCredentials config environ runId scenarioId path generator)
        values).2 := by
  rcases performOn_cases
      (loadOrCreateDisposableCredentials config environ runId scenarioId path generator) values with
    ⟨e, he⟩ | ⟨body, plan, hop, hplan, he⟩ <;> rw [he]
  · exact hvalues
  · obtain ⟨pre, hpre, hload, hdistinct⟩ := loadOrCreateDisposable_plan hop hplan
    obtain ⟨hroles, hrecords⟩ := ensureDisposableUsernameIsDistinct_eq_ok.mp hdistinct
    cases hload with
    | stored => exact hvalues
    | fresh hfree =>
      refine slotsDistinct_disposable h hvalues hpre hu fun name value huser hne hget => ?_
      rcases huser with ⟨role, rfl⟩ | hrecord
      · by_cases hhalf : HalfSaved browser values role
        · exact hfresh ⟨pre, hpre, hfree⟩ _ value ⟨role, hhalf, rfl⟩ hget
        · obtain ⟨names, hnames, hresolved⟩ := hroles role
          rw [variableNames_of_browser hbrowser, Except.ok.injEq] at hnames
          subst hnames
          exact strip_ne_of_resolved henv hhalf hget hresolved
      · exact fun hsame => hrecords (name, value) (Dict.mem_entries_iff.mpr hget)
          ⟨hrecord, hne, hsame⟩

/-- **One call keeps the slots distinct.** -/
theorem slotsDistinct_after (h : SlotNames browser) (hbrowser : config.auth.browser = some browser)
    (henv : NothingSupplied browser environ) {file : CredentialFile} {values : Values}
    (hread : readCredentialFile path file = .ok values) (hvalues : SlotsDistinct browser values)
    {call : SlotCall} (hadm : call.Admissible) (hfresh : call.DrawsFresh browser values) :
    ∃ values', readCredentialFile path (call.after config environ path file) = .ok values' ∧
      SlotsDistinct browser values' := by
  cases call with
  | reusable role generator =>
    have hlines : WritesLines (loadOrCreateLocalCredentials config role environ path generator)
        values := writesLines_reusable h.toWellNamed hbrowser hadm.1 hadm.2 values
    obtain ⟨-, hafter⟩ := perform_refines hread hlines
    exact ⟨_, hafter, slotsDistinct_performOn_reusable h hbrowser henv hvalues hadm.1 hadm.2 hfresh⟩
  | disposable runId scenarioId generator =>
    obtain ⟨hrun, hscenario, hu, hp⟩ := hadm
    have hlines : WritesLines (loadOrCreateDisposableCredentials config environ runId scenarioId path
        generator) values := writesLines_disposable hrun hscenario hu.oneLine hp.oneLine values
    obtain ⟨-, hafter⟩ := perform_refines hread hlines
    exact ⟨_, hafter, slotsDistinct_performOn_disposable h hbrowser henv hvalues hu hfresh⟩

/-! ## Runs -/

/-- A call that draws a fresh username where it creates a slot. -/
def SlotStep (config : EnvironmentConfig) (browser : BrowserConfig) (environ : Environ) (path : Text)
    (file file' : CredentialFile) : Prop :=
  ∃ call : SlotCall, call.Admissible ∧
    (∀ values, readCredentialFile path file = .ok values → call.DrawsFresh browser values) ∧
    file' = call.after config environ path file

/-- **Every slot keeps its own username**: in a sequence of calls that draw fresh usernames, on a
file without credential variables, no two slots save one username. -/
theorem slots_distinct (h : SlotNames browser) (hbrowser : config.auth.browser = some browser)
    (henv : NothingSupplied browser environ) {start : CredentialFile} {values₀ : Values}
    (hstart : readCredentialFile path start = .ok values₀)
    (hnone : ∀ name, UsernameVariable browser name → values₀.get? name = none)
    {file : CredentialFile}
    (hrun : Relation.ReflTransGen (SlotStep config browser environ path) start file) :
    ∃ values, readCredentialFile path file = .ok values ∧ SlotsDistinct browser values := by
  induction hrun with
  | refl =>
    refine ⟨values₀, hstart, fun k _ v _ hk _ hv => ?_⟩
    rw [hnone k hk] at hv
    exact nomatch hv
  | tail _ hstep ih =>
    obtain ⟨values, hread, hvalues⟩ := ih
    obtain ⟨call, hadm, hfresh, rfl⟩ := hstep
    exact slotsDistinct_after h hbrowser henv hread hvalues hadm (hfresh values hread)

end

/-- The names of `environments/local.yaml` are slot names. -/
theorem slotNames_local : SlotNames localBrowser :=
  ⟨⟨by decide, by decide⟩, by decide⟩

/-- A disposable record is created, and then two roles. -/
def slotCalls : List SlotCall := [
  .disposable (lit "r") (lit "s") ⟨lit "d@test.com", lit "Ba9!x"⟩,
  .reusable .primary ⟨lit "p@test.com", lit "Ba9!y"⟩,
  .reusable .admin ⟨lit "a@test.com", lit "Ba9!z"⟩]

/-- The file after the first `n` of the calls. -/
def slotFile (n : Nat) : CredentialFile :=
  (slotCalls.take n).foldl (fun file call => call.after localConfig .empty (lit ".env.local") file)
    .absent

/-- Each call draws a username that none of the variables saves. -/
theorem slotStep_of_unused {n : Nat} {call : SlotCall} (values : Values)
    (hread : readCredentialFile (lit ".env.local") (slotFile n) = .ok values)
    (hadm : call.Admissible) (hunused : ∀ e ∈ values.entries, strip e.2 ≠ call.generator.username)
    (hnext : slotFile (n + 1) = call.after localConfig .empty (lit ".env.local") (slotFile n)) :
    SlotStep localConfig localBrowser .empty (lit ".env.local") (slotFile n) (slotFile (n + 1)) := by
  refine ⟨call, hadm, fun values' hvalues _ name value _ hget => ?_, hnext⟩
  rw [hread, Except.ok.injEq] at hvalues
  subst hvalues
  exact hunused (name, value) (Dict.mem_entries_iff.mpr hget)

theorem reaches_slotFile : Relation.ReflTransGen
    (SlotStep localConfig localBrowser .empty (lit ".env.local")) .absent (slotFile 3) := by
  have hrecord : readCredentialFile (lit ".env.local") (slotFile 1) = .ok
      ⟨[(lit "BA_ADMIN_DEACTIVATION_R_S_RUN_ID", lit "r"),
        (lit "BA_ADMIN_DEACTIVATION_R_S_SCENARIO_ID", lit "s"),
        (lit "BA_ADMIN_DEACTIVATION_R_S_USERNAME", lit "d@test.com"),
        (lit "BA_ADMIN_DEACTIVATION_R_S_PASSWORD", lit "Ba9!x"),
        (lit "BA_ADMIN_DEACTIVATION_R_S_ACCOUNT_STATE", lit "pending")], by decide⟩ := by
    decide +kernel
  have hprimary : readCredentialFile (lit ".env.local") (slotFile 2) = .ok
      ⟨[(lit "BA_ADMIN_DEACTIVATION_R_S_RUN_ID", lit "r"),
        (lit "BA_ADMIN_DEACTIVATION_R_S_SCENARIO_ID", lit "s"),
        (lit "BA_ADMIN_DEACTIVATION_R_S_USERNAME", lit "d@test.com"),
        (lit "BA_ADMIN_DEACTIVATION_R_S_PASSWORD", lit "Ba9!x"),
        (lit "BA_ADMIN_DEACTIVATION_R_S_ACCOUNT_STATE", lit "pending"),
        (lit "BA_PRIMARY_TEST_USERNAME", lit "p@test.com"),
        (lit "BA_PRIMARY_TEST_PASSWORD", lit "Ba9!y"),
        (lit "BA_PRIMARY_TEST_ACCOUNT_STATE", lit "pending")], by decide⟩ := by
    decide +kernel
  have hfirst := @slotStep_of_unused 0 (.disposable _ _ _) .empty rfl
    ⟨by decide, by decide, by decide, by decide⟩ (List.forall_mem_nil _) rfl
  have hsecond := @slotStep_of_unused 1 (.reusable .primary _) _ hrecord
    ⟨by decide, by decide⟩ (by decide) rfl
  have hthird := @slotStep_of_unused 2 (.reusable .admin _) _ hprimary
    ⟨by decide, by decide⟩ (by decide) rfl
  exact ((Relation.ReflTransGen.single hfirst).tail hsecond).tail hthird

theorem slots_distinct_example :
    ∃ values, readCredentialFile (lit ".env.local") (slotFile 3) = .ok values ∧
      SlotsDistinct localBrowser values := by
  have henv : NothingSupplied localBrowser .empty := fun _ => ⟨rfl, rfl⟩
  have hread : readCredentialFile (lit ".env.local") .absent = .ok .empty := rfl
  exact slots_distinct slotNames_local rfl henv hread (fun _ _ => rfl) reaches_slotFile

/-! ## A username shared by a role and a record -/

/-- What both generators return. -/
def sharedCredentials : BrowserLoginCredentials := ⟨lit "u@test.com", lit "Ba9!x"⟩

/-- A file with one disposable record. -/
def recordFile : CredentialFile :=
  (SlotCall.disposable (lit "r") (lit "s") sharedCredentials).after localConfig .empty
    (lit ".env.local") .absent

/-- The same file after the primary role is created. -/
def sharedFile : CredentialFile :=
  (SlotCall.reusable .primary sharedCredentials).after localConfig .empty (lit ".env.local")
    recordFile

/-- A role that is created after a disposable record takes its username: both calls return, and the
file saves the username in both slots. -/
theorem shared_username_example :
    (perform (lit ".env.local") (loadOrCreateDisposableCredentials localConfig .empty (lit "r")
        (lit "s") (lit ".env.local") sharedCredentials) .absent).1 =
        .ok ⟨lit "r", lit "s", sharedCredentials, .pending, none, none⟩ ∧
      (perform (lit ".env.local") (loadOrCreateLocalCredentials localConfig .primary .empty
        (lit ".env.local") sharedCredentials) recordFile).1 =
        .ok ⟨sharedCredentials, .stored .pending⟩ ∧
      ∃ values, readCredentialFile (lit ".env.local") sharedFile = .ok values ∧
        ¬ SlotsDistinct localBrowser values := by
  have hread : readCredentialFile (lit ".env.local") sharedFile = .ok
      ⟨[(lit "BA_ADMIN_DEACTIVATION_R_S_RUN_ID", lit "r"),
        (lit "BA_ADMIN_DEACTIVATION_R_S_SCENARIO_ID", lit "s"),
        (lit "BA_ADMIN_DEACTIVATION_R_S_USERNAME", lit "u@test.com"),
        (lit "BA_ADMIN_DEACTIVATION_R_S_PASSWORD", lit "Ba9!x"),
        (lit "BA_ADMIN_DEACTIVATION_R_S_ACCOUNT_STATE", lit "pending"),
        (lit "BA_PRIMARY_TEST_USERNAME", lit "u@test.com"),
        (lit "BA_PRIMARY_TEST_PASSWORD", lit "Ba9!x"),
        (lit "BA_PRIMARY_TEST_ACCOUNT_STATE", lit "pending")], by decide⟩ := by
    decide +kernel
  refine ⟨by decide +kernel, by decide +kernel, _, hread, fun hdistinct => ?_⟩
  have hsame := @hdistinct (lit "BA_ADMIN_DEACTIVATION_R_S_USERNAME") (lit "BA_PRIMARY_TEST_USERNAME")
    (lit "u@test.com") (lit "u@test.com") (Or.inr (by decide)) (Or.inl ⟨.primary, rfl⟩)
    (by decide) (by decide) rfl
  exact absurd hsame (by decide)

end ApiTests.Credentials
