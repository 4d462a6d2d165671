import ApiTests.Auth.DisposableTarget
import ApiTests.Auth.Protocol
import ApiTests.Credentials.Slots

/-!
# The accounts of the roles and of the disposable targets

Sequences of `acquire_browser_session`, `acquire_disposable_browser_target` and
`bind_disposable_identity` calls (`auth.py:44-161`) in any order on one credential file, for one
exact-local configuration, without credentials in the environment. The browser flows may end in any way
at any point; a record that is bound is one that some call returned.

`Ledger` is what holds of the file, the records and the events after any number of calls; it puts the
histories of the roles, of the records and of the usernames together.

Results: `acquire_values`, `ledger_load` (what the calls do to the variables), `ledger_session`,
`ledger_target`, `ledger_bind` (**each call keeps the ledger**) and `ledger_of_reaches` (over any
sequence of calls).
-/

namespace ApiTests.Auth

open Py Credentials

/-! ## Calls -/

/-- A call of one of the three functions. -/
inductive AccountCall (σ : Type) where
  | session (call : Call σ)
  | target (runId scenarioId : Text) (draws : Draws) (signup : SignupOutcome σ)
      (login : LoginOutcome σ)
  | bind (record : DisposableCredentialRecord) (currentRunId currentScenarioId subject userId : Text)
      (reusableSubjects reusableUserIds : Finset Text)

/-- The file, the records that operations returned, and what has happened. -/
structure Accounts where
  file : CredentialFile
  returned : List DisposableCredentialRecord
  events : List (Event ⊕ TargetEvent)

namespace Accounts

/-- What happened for the roles. -/
def sessions (s : Accounts) : List Event := s.events.filterMap Sum.getLeft?

/-- What happened for the targets. -/
def targets (s : Accounts) : List TargetEvent := s.events.filterMap Sum.getRight?

variable {σ : Type}

/-- The accounts after an acquisition of a target. -/
def provision (s : Accounts) (acquired : TargetAcquisition σ) : Accounts :=
  ⟨acquired.file, acquired.records ++ s.returned, s.events ++ acquired.history.map Sum.inr⟩

/-- The accounts after one more call. -/
def after (config : EnvironmentConfig) (environ : Environ) (path : Text) (s : Accounts) :
    AccountCall σ → Accounts
  | .session call =>
    let acquired := acquireBrowserSession config call.role environ path
      (generateLocalCredentials call.draws) call.signup call.login s.file
    ⟨acquired.file, s.returned, s.events ++ (acquired.history call.role).map Sum.inl⟩
  | .target runId scenarioId draws signup login =>
    s.provision (acquireDisposableBrowserTarget config environ runId scenarioId path
      (generateLocalCredentials draws) signup login s.file)
  | .bind record currentRunId currentScenarioId subject userId reusableSubjects reusableUserIds =>
    match perform path (bindDisposableIdentity config record currentRunId currentScenarioId subject
      userId reusableSubjects reusableUserIds path) s.file with
    | (.ok bound, file) => ⟨file, bound :: s.returned, s.events⟩
    | (.error _, file) => ⟨file, s.returned, s.events⟩

/-- Ids and identities hold no whitespace, quote or `#`, a record that is bound is a returned one, and
a role's generator draws a username that no record saves: its comparison does not look there. -/
def Admissible (path : Text) (s : Accounts) : AccountCall σ → Prop
  | .session call => ∀ values, readCredentialFile path s.file = .ok values → ∀ name value,
      RecordVariable usernameSuffix name → values.get? name = some value →
        strip value ≠ (generateLocalCredentials call.draws).username
  | .target runId scenarioId _ _ _ => Plain runId ∧ Plain scenarioId
  | .bind record _ _ subject userId _ _ => record ∈ s.returned ∧ Plain subject ∧ Plain userId

/-- One admissible call. -/
def Step (σ : Type) (config : EnvironmentConfig) (environ : Environ) (path : Text)
    (s s' : Accounts) : Prop :=
  ∃ call : AccountCall σ, s.Admissible path call ∧ s' = s.after config environ path call

end Accounts

/-! ## What a change of other variables keeps -/

section Frame

variable {path : Text} {browser : BrowserConfig} {file file' : CredentialFile} {values values' : Values}

theorem History.congr {events : List Event} (h : History path browser file events values)
    (hread : readCredentialFile path file' = .ok values')
    (hkeep : ∀ name ∈ slotVariables browser, values'.get? name = values.get? name) :
    History path browser file' events values' where
  read := hread
  status role := by
    have hrole : ∀ name ∈ (roleVariables browser role).all, values'.get? name = values.get? name :=
      fun name hname => hkeep name (mem_slotVariables hname)
    rcases h.status role with hfree | ⟨credentials, state, hsaved⟩
    · exact Or.inl ⟨fun name hname => (hrole name hname).trans (hfree.free name hname), hfree.unseen⟩
    · exact Or.inr ⟨credentials, state, hsaved.usable, hsaved.holding.congr hrole, hsaved.attempts,
        hsaved.session⟩
  pending := h.pending
  ordered := h.ordered

theorem provenance_congr {returned : List DisposableCredentialRecord} (h : Provenance values returned)
    (hkeep : ∀ name, disposableRecordPrefix <+: name → values'.get? name = values.get? name) :
    Provenance values' returned := by
  have hdistinct : ∀ {s}, Distinct values s → Distinct values' s := by
    intro s hs k k' v v' hk hk' hv hv' hsame
    rw [hkeep k hk.1] at hv
    rw [hkeep k' hk'.1] at hv'
    exact hs hk hk' hv hv' hsame
  refine ⟨fun name hname hget => h.owned name hname (by rwa [← hkeep name hname]), fun r hr => ?_,
    hdistinct h.usernames, hdistinct h.subjects, hdistinct h.userIds⟩
  obtain ⟨hplain, pre, hpre, hheld⟩ := h.held r hr
  have hrecord : ∀ {s}, s ∈ suffixes → values'.get? (pre ++ s) = values.get? (pre ++ s) := fun hs =>
    hkeep _ (isName_of_disposablePrefix hpre (mem_all.mpr ⟨_, hs, rfl⟩)).2
  exact ⟨hplain, pre, hpre, (hrecord (by decide)).trans hheld.runId,
    (hrecord (by decide)).trans hheld.scenarioId, (hrecord (by decide)).trans hheld.username,
    (hrecord (by decide)).trans hheld.password,
    hheld.state.imp fun _ hs => (hrecord (by decide)).trans hs⟩

theorem slotsDistinct_congr (h : SlotsDistinct browser values)
    (hkeep : ∀ name, UsernameVariable browser name → values'.get? name = values.get? name) :
    SlotsDistinct browser values' := by
  intro k k' v v' hk hk' hv hv' hsame
  rw [hkeep k hk] at hv
  rw [hkeep k' hk'] at hv'
  exact h hk hk' hv hv' hsame

/-- An update of a record leaves the variables of the roles. -/
theorem slot_frame (hnames : SlotNames browser) {runId scenarioId pre : Text}
    (hpre : disposableVariablePrefix runId scenarioId = .ok pre) {l : List (Text × Text)}
    (hl : Fields l) {name : Text} (hname : name ∈ slotVariables browser) :
    (values.update (parsed (recordUpdate pre l))).get? name = values.get? name := by
  refine Dict.get?_update_of_none ?_
  rw [get?_parsed, get?_recordUpdate_of_notMem hl fun hmem =>
    hnames.notRecord name hname (isName_of_disposablePrefix hpre hmem).2]
  rfl

/-- An update of a record that names no username leaves all usernames. -/
theorem username_frame (hnames : SlotNames browser) {runId scenarioId pre : Text}
    (hpre : disposableVariablePrefix runId scenarioId = .ok pre) {l : List (Text × Text)}
    (hl : Fields l) (hkey : usernameSuffix ∉ l.map Prod.fst) {name : Text}
    (hname : UsernameVariable browser name) :
    (values.update (parsed (recordUpdate pre l))).get? name = values.get? name := by
  have hsuffix : usernameSuffix ∈ suffixes := by decide
  rcases hname with ⟨role, rfl⟩ | ⟨-, pre', rfl⟩
  · exact slot_frame hnames hpre hl (mem_slotVariables (username_mem _))
  · by_cases hsame : pre' = pre
    · rw [hsame]
      exact get?_update_keep hl values hsuffix hkey
    · exact get?_update_other hl values hsuffix hsame

end Frame

/-! ## The roles -/

section Roles

variable {config : EnvironmentConfig} {browser : BrowserConfig} {environ : Environ} {path : Text}
  {values : Values}

/-- The completion of a role is written as a line. -/
theorem writesLines_markLocal (hnames : WellNamed browser) (hbrowser : config.auth.browser = some browser)
    (role : SessionRole) (credentials : BrowserLoginCredentials) (path : Text) (values : Values) :
    WritesLines (markLocalCredentialsComplete config role credentials path) values := by
  intro body plan hop hplan
  obtain ⟨names, hrole, -, -, rfl⟩ := markLocal_plan hop hplan
  rw [variableNames_of_browser hbrowser, Except.ok.injEq] at hrole
  subst hrole
  have hmem : (roleVariables browser role).state ∈ (roleVariables browser role).all := by
    simp [RoleVariables.all]
  intro e he
  rw [List.mem_singleton.mp he]
  exact ⟨hnames.isName _ (mem_slotVariables hmem), oneLine_state .complete⟩

/-- A load for a role leaves the variables that are not the role's. -/
theorem frame_loadLocal (hnames : WellNamed browser) (hbrowser : config.auth.browser = some browser)
    {role : SessionRole} {generator : BrowserLoginCredentials} (hgen : Usable generator) {name : Text}
    (hname : name ∉ (roleVariables browser role).all) :
    (performOn (loadOrCreateLocalCredentials config role environ path generator) values).2.get? name =
      values.get? name := by
  rcases performOn_cases (loadOrCreateLocalCredentials config role environ path generator) values with
    ⟨e, he⟩ | ⟨body, plan, hop, hplan, he⟩ <;> rw [he]
  obtain ⟨names, hrole, hload, -⟩ := loadOrCreateLocal_plan hop hplan
  rw [variableNames_of_browser hbrowser, Except.ok.injEq] at hrole
  subst hrole
  cases hload with
  | external => rfl
  | stored => rfl
  | fresh =>
    have hnodup := hnames.nodup_all role
    change (values.update (parsed (slotUpdate (roleVariables browser role) generator))).get? name = _
    rw [parsed_eq (cleanUpdates_slot hnodup (fun name hn => hnames.isName name (mem_slotVariables hn))
      hgen.plain_username hgen.plain_password)]
    exact Dict.get?_update_of_none (get?_slotUpdate_of_notMem hnodup generator hname)

/-- A completion of a role leaves all variables but the role's state. -/
theorem frame_markLocal (hbrowser : config.auth.browser = some browser) {role : SessionRole}
    {credentials : BrowserLoginCredentials} {name : Text}
    (hname : name ≠ (roleVariables browser role).state) :
    (performOn (markLocalCredentialsComplete config role credentials path) values).2.get? name =
      values.get? name := by
  rcases performOn_cases (markLocalCredentialsComplete config role credentials path) values with
    ⟨e, he⟩ | ⟨body, plan, hop, hplan, he⟩ <;> rw [he]
  obtain ⟨names, hrole, -, -, rfl⟩ := markLocal_plan hop hplan
  rw [variableNames_of_browser hbrowser, Except.ok.injEq] at hrole
  subst hrole
  refine Dict.get?_update_of_none ?_
  rw [get?_parsed, Dict.get?_single, if_neg hname]
  rfl

/-- The roles of a history are saved with a username and a password, or not at all. -/
theorem History.not_halfSaved {file : CredentialFile} {events : List Event}
    (h : History path browser file events values) {role : SessionRole} {value : Text}
    (hvalue : values.get? (roleVariables browser role).username = some value) :
    ¬ HalfSaved browser values role := by
  rcases h.status role with hfree | ⟨credentials, state, hsaved⟩
  · rw [hfree.free _ (username_mem _)] at hvalue
    cases hvalue
  · exact fun hhalf => hhalf.elim
      (plain_ne_nil_saved hsaved.holding.username hsaved.usable.plain_username hsaved.usable.username_ne)
      (plain_ne_nil_saved hsaved.holding.password hsaved.usable.plain_password hsaved.usable.password_ne)

variable {σ : Type}

/-- **What `acquire_browser_session` does to the variables**: a load, and behind a signup perhaps a
completion. -/
theorem acquire_values (hnames : WellNamed browser) (hconfig : ensureExactLocalTarget config = .ok ())
    (hbrowser : config.auth.browser = some browser) (environ : Environ) {file : CredentialFile}
    (hread : readCredentialFile path file = .ok values) (call : Call σ) :
    ∃ values', readCredentialFile path (acquireBrowserSession config call.role environ path
        (generateLocalCredentials call.draws) call.signup call.login file).file = .ok values' ∧
      (values' = (performOn (loadOrCreateLocalCredentials config call.role environ path
          (generateLocalCredentials call.draws)) values).2 ∨
        ∃ credentials, values' = (performOn (markLocalCredentialsComplete config call.role credentials
          path) (performOn (loadOrCreateLocalCredentials config call.role environ path
            (generateLocalCredentials call.draws)) values).2).2) := by
  have hlocal := environmentType_of_exactLocal hconfig
  have hgen := usable_generated call.draws
  have hlines : WritesLines (loadOrCreateLocalCredentials config call.role environ path
      (generateLocalCredentials call.draws)) values :=
    writesLines_reusable hnames hbrowser hgen.plain_username hgen.plain_password values
  obtain ⟨-, hafter⟩ := perform_refines hread hlines
  unfold acquireBrowserSession
  rw [hbrowser, if_neg (by rw [hlocal]; decide)]
  simp only [if_pos hlocal]
  rcases hload : perform path (loadOrCreateLocalCredentials config call.role environ path
    (generateLocalCredentials call.draws)) file with ⟨result, file'⟩
  rw [hload] at hafter
  cases result with
  | error e => exact ⟨_, hafter, Or.inl rfl⟩
  | ok record =>
    have hlogin : ∀ events, (loginBrowserAccount call.role record.credentials call.login file'
        events).file = file' := by
      intro events
      unfold loginBrowserAccount
      cases call.login <;> rfl
    have hflows : (signupOrLogin call.role record.credentials call.signup call.login file').file =
        file' := by
      unfold signupOrLogin
      cases call.signup with
      | session s => rfl
      | failure message => rfl
      | accountExists => exact hlogin _
    by_cases hstate : record.state ≠ .stored .pending
    · simp only [if_pos hstate]
      exact ⟨_, by rw [hlogin]; exact hafter, Or.inl rfl⟩
    · simp only [if_neg hstate]
      unfold completeAccount
      rcases hflow : signupOrLogin call.role record.credentials call.signup call.login file' with
        ⟨outcome, file'', events⟩
      rw [hflow] at hflows
      obtain rfl : file'' = file' := hflows
      cases outcome with
      | error e => exact ⟨_, hafter, Or.inl rfl⟩
      | ok s =>
        obtain ⟨-, hmark⟩ := perform_refines hafter
          (writesLines_markLocal hnames hbrowser call.role record.credentials path _)
        simp only
        rcases hp : perform path (markLocalCredentialsComplete config call.role record.credentials path)
          file'' with ⟨marked, file₂⟩
        rw [hp] at hmark
        cases marked with
        | error e => exact ⟨_, hmark, Or.inr ⟨_, rfl⟩⟩
        | ok u => exact ⟨_, hmark, Or.inr ⟨_, rfl⟩⟩

end Roles

/-! ## The invariant -/

/-- What holds of the accounts after any number of calls. -/
structure Ledger (path : Text) (browser : BrowserConfig) (s : Accounts) (values : Values) : Prop where
  history : History path browser s.file s.sessions values
  provenance : Provenance values s.returned
  distinct : SlotsDistinct browser values
  targets : TargetHistory path s.returned s.targets values

theorem sessions_append_inl (file : CredentialFile) (returned : List DisposableCredentialRecord)
    (events : List (Event ⊕ TargetEvent)) (new : List Event) :
    Accounts.sessions ⟨file, returned, events ++ new.map Sum.inl⟩ =
        Accounts.sessions ⟨file, returned, events⟩ ++ new ∧
      Accounts.targets ⟨file, returned, events ++ new.map Sum.inl⟩ =
        Accounts.targets ⟨file, returned, events⟩ := by
  simp [Accounts.sessions, Accounts.targets, List.filterMap_append, List.filterMap_map,
    Function.comp_def]

theorem sessions_append_inr (file : CredentialFile) (returned : List DisposableCredentialRecord)
    (events : List (Event ⊕ TargetEvent)) (new : List TargetEvent) :
    Accounts.sessions ⟨file, returned, events ++ new.map Sum.inr⟩ =
        Accounts.sessions ⟨file, returned, events⟩ ∧
      Accounts.targets ⟨file, returned, events ++ new.map Sum.inr⟩ =
        Accounts.targets ⟨file, returned, events⟩ ++ new := by
  simp [Accounts.sessions, Accounts.targets, List.filterMap_append, List.filterMap_map,
    Function.comp_def]

section Calls

variable {config : EnvironmentConfig} {browser : BrowserConfig} {environ : Environ} {path : Text}
  {σ : Type} {s : Accounts} {values : Values}

/-- The usernames stay distinct over a call for a role. -/
theorem slotsDistinct_session (hnames : SlotNames browser)
    (hbrowser : config.auth.browser = some browser) (henv : NothingSupplied browser environ)
    (h : Ledger path browser s values) (role : SessionRole) {draws : Draws}
    (hfresh : ∀ name value, RecordVariable usernameSuffix name → values.get? name = some value →
      strip value ≠ (generateLocalCredentials draws).username) :
    SlotsDistinct browser (performOn (loadOrCreateLocalCredentials config role environ path
      (generateLocalCredentials draws)) values).2 := by
  have hgen := usable_generated draws
  refine slotsDistinct_performOn_reusable hnames hbrowser henv h.distinct hgen.plain_username
    hgen.plain_password fun _ name value hunseen hget => ?_
  rcases hunseen with hrecord | ⟨other, -, hhalf, rfl⟩
  · exact hfresh name value hrecord hget
  · exact absurd hhalf (h.history.not_halfSaved hget)

/-- A completion of a role leaves the usernames. -/
theorem slotsDistinct_markLocal (hnames : SlotNames browser)
    (hbrowser : config.auth.browser = some browser) {values : Values} {role : SessionRole}
    {credentials : BrowserLoginCredentials} (h : SlotsDistinct browser values) :
    SlotsDistinct browser
      (performOn (markLocalCredentialsComplete config role credentials path) values).2 := by
  refine slotsDistinct_congr h fun name hname => frame_markLocal hbrowser fun hstate => ?_
  have hmem : name ∈ (roleVariables browser role).all := by
    rw [hstate]
    simp [RoleVariables.all]
  have huser := hnames.username_eq hmem hname
  have hnodup := hnames.nodup_all role
  rw [hstate] at huser
  simp [RoleVariables.all, ← huser] at hnodup

/-- **A call for a role keeps the ledger.** -/
theorem ledger_session (hnames : SlotNames browser) (hconfig : ensureExactLocalTarget config = .ok ())
    (hbrowser : config.auth.browser = some browser) (henv : NothingSupplied browser environ)
    (h : Ledger path browser s values) {call : Call σ}
    (hadm : s.Admissible path (.session call)) :
    ∃ values', Ledger path browser (s.after config environ path (.session call)) values' := by
  obtain ⟨values', hhistory⟩ := history_step hnames.toWellNamed hconfig hbrowser henv
    (show History path browser (s.file, s.sessions).1 (s.file, s.sessions).2 values from h.history) call
  obtain ⟨values'', hread, hvalues⟩ := acquire_values hnames.toWellNamed hconfig hbrowser environ
    h.history.read call
  obtain rfl : values'' = values' := Except.ok.inj (hread.symm.trans hhistory.read)
  have hgen := usable_generated call.draws
  have hdistinct := slotsDistinct_session hnames hbrowser henv h call.role
    (hadm values h.history.read)
  -- The variables of the records stay.
  have hrecord : ∀ name, disposableRecordPrefix <+: name → values''.get? name = values.get? name := by
    intro name hname
    have hslot : name ∉ (roleVariables browser call.role).all := fun hmem =>
      hnames.notRecord name (mem_slotVariables hmem) hname
    have hstate : name ≠ (roleVariables browser call.role).state := fun he =>
      hslot (by rw [he]; simp [RoleVariables.all])
    have hload : (performOn (loadOrCreateLocalCredentials config call.role environ path
        (generateLocalCredentials call.draws)) values).2.get? name = values.get? name :=
      frame_loadLocal hnames.toWellNamed hbrowser hgen hslot
    rcases hvalues with rfl | ⟨credentials, rfl⟩
    · exact hload
    · exact (frame_markLocal hbrowser hstate).trans hload
  refine ⟨values'', ?_⟩
  obtain ⟨hsessions, htargets⟩ := sessions_append_inl
    (acquireBrowserSession config call.role environ path (generateLocalCredentials call.draws)
      call.signup call.login s.file).file s.returned s.events
    ((acquireBrowserSession config call.role environ path (generateLocalCredentials call.draws)
      call.signup call.login s.file).history call.role)
  refine ⟨?_, provenance_congr h.provenance hrecord, ?_, ?_⟩
  · rw [Accounts.after, hsessions]
    exact hhistory
  · rcases hvalues with rfl | ⟨credentials, rfl⟩
    · exact hdistinct
    · exact slotsDistinct_markLocal hnames hbrowser hdistinct
  · rw [Accounts.after, htargets]
    exact h.targets.congr fun r hr pre hpre =>
      hrecord _ (isName_of_disposablePrefix hpre (mem_all.mpr ⟨_, by decide, rfl⟩)).2

/-- An operation that returns, on the variables. -/
theorem effect_of_perform {file file' : CredentialFile} {returned : List DisposableCredentialRecord}
    (hread : readCredentialFile path file = .ok values) {call : DisposableCall}
    (hadm : call.Admissible returned) (hline : call.OneLineCredentials)
    {record : DisposableCredentialRecord}
    (h : perform path (call.operation path) file = (.ok record, file')) :
    ∃ values' pre, readCredentialFile path file' = .ok values' ∧
      disposableVariablePrefix call.pair.1 call.pair.2 = .ok pre ∧
      Effect values pre call record values' := by
  have hafter : Session.after path ⟨file, returned⟩ call = ⟨file', record :: returned⟩ := by
    unfold Session.after
    simp only [h]
  rcases Session.after_cases (show readCredentialFile path (⟨file, returned⟩ : Session).file =
    .ok values from hread) hadm hline with
    ⟨⟨e, he⟩, -⟩ | ⟨record', pre, values', hok, -, hread', hpre, heffect⟩
  · simp only [h] at he
    cases he
  · simp only [h] at hok
    cases hok
    rw [hafter] at hread'
    exact ⟨values', pre, hread', hpre, heffect⟩

/-- An operation returns a record of the pair it is called for. -/
theorem recordPair_effect {values values' : Values} {pre : Text} {call : DisposableCall}
    {record : DisposableCredentialRecord} (h : Effect values pre call record values') :
    recordPair record = call.pair := by
  cases h with
  | loaded hload =>
    cases hload
    rfl
  | created => rfl
  | completed => rfl
  | bound => rfl

/-- **A load that returns a record keeps the ledger**, and the file saves the record's state. -/
theorem ledger_load (hnames : SlotNames browser) (hbrowser : config.auth.browser = some browser)
    (henv : NothingSupplied browser environ) (h : Ledger path browser s values)
    {runId scenarioId : Text} (hrun : Plain runId) (hscenario : Plain scenarioId) {draws : Draws}
    {record : DisposableCredentialRecord} {file : CredentialFile}
    (hload : perform path (loadOrCreateDisposableCredentials config environ runId scenarioId path
      (generateLocalCredentials draws)) s.file = (.ok record, file)) :
    ∃ values' pre, Ledger path browser ⟨file, record :: s.returned, s.events⟩ values' ∧
      disposableVariablePrefix record.runId record.scenarioId = .ok pre ∧
      values'.get? (pre ++ stateSuffix) = some record.state.text := by
  obtain ⟨call, hcall⟩ : ∃ call : DisposableCall, call = .load config environ runId scenarioId
    (generateLocalCredentials draws) := ⟨_, rfl⟩
  have hplain : call.PlainCredentials := hcall ▸ plain_generated draws
  have hadm : call.Admissible s.returned := hcall ▸ ⟨hrun, hscenario⟩
  have hgen := usable_generated draws
  obtain ⟨values', pre, hread, hpre, heffect⟩ := effect_of_perform h.history.read hadm hplain.oneLine
    (by rw [hcall]; exact hload)
  have hprov := provenance_step h.provenance heffect hadm hplain hpre
  have hpair := recordPair_effect heffect
  have hpre' : disposableVariablePrefix record.runId record.scenarioId = .ok pre := by
    rw [← hpair] at hpre
    exact hpre
  have hdistinct : SlotsDistinct browser values' := by
    obtain ⟨values'', hread', hdistinct⟩ := slotsDistinct_after hnames hbrowser henv h.history.read
      h.distinct (show (SlotCall.disposable runId scenarioId
        (generateLocalCredentials draws)).Admissible from
          ⟨hrun.oneLine, hscenario.oneLine, hgen.plain_username, hgen.plain_password⟩)
      fun _ name value hunseen hget => by
        obtain ⟨other, hhalf, rfl⟩ := hunseen
        exact absurd hhalf (h.history.not_halfSaved hget)
    unfold SlotCall.after at hread'
    simp only [hload] at hread'
    rwa [Except.ok.inj (hread.symm.trans hread')]
  have htargets : (∀ name ∈ slotVariables browser, values'.get? name = values.get? name) ∧
      TargetHistory path (record :: s.returned) s.targets values' ∧
      saved values' (pre ++ stateSuffix) = record.state.text := by
    have hpairOf := fun r hr hsame => heffect.pair_eq (r := r) h.provenance hadm hpre hr hsame
    cases heffect with
    | loaded hstored =>
      cases hstored with
      | stored hrun' _ _ _ hst =>
        have hsaved : saved values (pre ++ lit "_RUN_ID") ≠ [] := fun hnil =>
          runId_ne_nil hpre (hrun'.symm.trans hnil)
        obtain ⟨r, hr, hsame⟩ := h.provenance.exists_of_saved hpre hsaved
        exact ⟨fun _ _ => rfl, h.targets.copy hr (hpairOf r hr hsame), hst⟩
    | created hfree =>
      refine ⟨fun name hname => slot_frame hnames hpre (fields_fresh _ _ _) hname,
        targetHistory_created h.targets h.provenance hpre hfree, ?_⟩
      exact saved_of_get? (get?_update_plain (fields_fresh _ _ _) values (by simp [freshFields])
        (plain_state .pending)) (plain_state .pending)
    | completed => cases hcall
    | bound => cases hcall
  obtain ⟨hslots, htargets, hsaved⟩ := htargets
  refine ⟨values', pre, ⟨h.history.congr hread hslots, hprov, hdistinct, htargets⟩, hpre', ?_⟩
  obtain ⟨state, hstate⟩ := (hprov.held_at List.mem_cons_self hpre').2.state
  rw [hstate, ← hsaved, saved_of_get? hstate (plain_state state)]

/-- An event of a target goes on the ledger where it goes on the history of the targets. -/
theorem ledger_event {file : CredentialFile} {returned : List DisposableCredentialRecord}
    {events : List (Event ⊕ TargetEvent)} {new : List TargetEvent}
    (h : Ledger path browser ⟨file, returned, events⟩ values)
    (htargets : TargetHistory path returned (Accounts.targets ⟨file, returned, events⟩ ++ new) values) :
    Ledger path browser ⟨file, returned, events ++ new.map Sum.inr⟩ values := by
  obtain ⟨hsessions, hevents⟩ := sessions_append_inr file returned events new
  exact ⟨hsessions ▸ h.history, h.provenance, h.distinct, hevents ▸ htargets⟩

/-- The flows of a record that is saved as pending keep the ledger. -/
theorem ledger_signup {file : CredentialFile} {returned : List DisposableCredentialRecord}
    {events : List (Event ⊕ TargetEvent)} (h : Ledger path browser ⟨file, returned, events⟩ values)
    {record : DisposableCredentialRecord} (hr : record ∈ returned) {pre : Text}
    (hpre : disposableVariablePrefix record.runId record.scenarioId = .ok pre)
    (hpending : values.get? (pre ++ stateSuffix) = some AccountState.pending.text)
    {new : List TargetEvent} (hflows : SignupFlows record file new) :
    Ledger path browser ⟨file, returned, events ++ new.map Sum.inr⟩ values := by
  have hsignup := targetHistory_signup h.targets h.provenance h.history.read hr hpre hpending
  rcases hflows with rfl | rfl
  · exact ledger_event h hsignup
  · have hlogin := targetHistory_login hsignup hr
    rw [List.append_assoc] at hlogin
    exact ledger_event h hlogin

/-- **A completion that returns keeps the ledger**, with the target that is returned behind it. -/
theorem ledger_mark (hnames : SlotNames browser) {file file' : CredentialFile}
    {returned : List DisposableCredentialRecord} {events : List (Event ⊕ TargetEvent)}
    (h : Ledger path browser ⟨file, returned, events⟩ values)
    {record completed : DisposableCredentialRecord} (hr : record ∈ returned)
    (hmark : perform path (markDisposableCredentialsComplete config record path) file =
      (.ok completed, file')) :
    ∃ values', Ledger path browser
      ⟨file', completed :: returned, events ++ [Sum.inr (.target (recordPair completed))]⟩ values' := by
  obtain ⟨call, hcall⟩ : ∃ call : DisposableCall, call = .mark config record := ⟨_, rfl⟩
  have hplain : call.PlainCredentials := hcall ▸ trivial
  have hadm : call.Admissible returned := hcall ▸ hr
  obtain ⟨values', pre, hread, hpre, heffect⟩ := effect_of_perform h.history.read hadm hplain.oneLine
    (by rw [hcall]; exact hmark)
  have hprov := provenance_step h.provenance heffect hadm hplain hpre
  cases heffect with
  | loaded => cases hcall
  | created => cases hcall
  | bound => cases hcall
  | completed =>
    cases hcall
    have hkeys : usernameSuffix ∉ completeFields.map Prod.fst := by decide
    have htargets : TargetHistory path ({ record with state := .complete } :: returned)
        (Accounts.targets ⟨file, returned, events⟩ ++ [.target (recordPair record)])
        (values.update (parsed (recordUpdate pre completeFields))) := by
      refine (targetHistory_target h.targets h.provenance hr hpre (get?_update_complete values pre)
        fun pre' hne => get?_update_other fields_complete values (by decide) hne).copy hr rfl
    obtain ⟨hsessions, hevents⟩ := sessions_append_inr file' ({ record with state := .complete } ::
      returned) events [.target (recordPair record)]
    refine ⟨_, ?_, hprov, slotsDistinct_congr h.distinct fun name hname =>
      username_frame hnames hpre fields_complete hkeys hname, ?_⟩
    · exact hsessions ▸ h.history.congr hread fun name hname =>
        slot_frame hnames hpre fields_complete hname
    · exact hevents ▸ htargets

/-- **A call for a target keeps the ledger.** -/
theorem ledger_target (hnames : SlotNames browser) (hbrowser : config.auth.browser = some browser)
    (henv : NothingSupplied browser environ) (h : Ledger path browser s values)
    {runId scenarioId : Text} (hrun : Plain runId) (hscenario : Plain scenarioId) (draws : Draws)
    (signup : SignupOutcome σ) (login : LoginOutcome σ) :
    ∃ values', Ledger path browser
      (s.after config environ path (.target runId scenarioId draws signup login)) values' := by
  have heffect := acquire_effect config environ runId scenarioId path
    (generateLocalCredentials draws) signup login s.file
  change ∃ values', Ledger path browser (s.provision _) values'
  generalize acquireDisposableBrowserTarget config environ runId scenarioId path
    (generateLocalCredentials draws) signup login s.file = acquired at heffect ⊢
  cases heffect with
  | idle e => exact ⟨values, by simpa [Accounts.provision, TargetAcquisition.history] using h⟩
  | @login record file' hload hstate result =>
    obtain ⟨values', pre, hledger, hpre, hsaved⟩ := ledger_load hnames hbrowser henv h hrun hscenario
      hload
    have hr : record ∈ record :: s.returned := List.mem_cons_self
    rw [hstate] at hsaved
    have hlogin := targetHistory_login hledger.targets hr
    cases result with
    | error e => exact ⟨values', ledger_event hledger hlogin⟩
    | ok t =>
      have htarget := targetHistory_target hlogin hledger.provenance hr hpre hsaved fun _ _ => rfl
      rw [List.append_assoc] at htarget
      exact ⟨values', ledger_event hledger htarget⟩
  | @attempted record file' events hload hstate hflows e =>
    obtain ⟨values', pre, hledger, hpre, hsaved⟩ := ledger_load hnames hbrowser henv h hrun hscenario
      hload
    exact ⟨values', ledger_signup hledger List.mem_cons_self hpre (hstate ▸ hsaved) hflows⟩
  | @provisioned record completed file' file'' events hload hstate hflows hmark t =>
    obtain ⟨values', pre, hledger, hpre, hsaved⟩ := ledger_load hnames hbrowser henv h hrun hscenario
      hload
    have hr : record ∈ record :: s.returned := List.mem_cons_self
    obtain ⟨values'', hledger'⟩ := ledger_mark hnames
      (ledger_signup hledger hr hpre (hstate ▸ hsaved) hflows) hr hmark
    refine ⟨values'', ?_⟩
    simpa [Accounts.provision, TargetAcquisition.history] using hledger'

/-- **A binding keeps the ledger.** -/
theorem ledger_bind (hnames : SlotNames browser) (h : Ledger path browser s values)
    {record : DisposableCredentialRecord} {currentRunId currentScenarioId subject userId : Text}
    {reusableSubjects reusableUserIds : Finset Text} (hr : record ∈ s.returned)
    (hsubject : Plain subject) (huser : Plain userId) :
    ∃ values', Ledger path browser (s.after config environ path (AccountCall.bind (σ := σ) record
      currentRunId currentScenarioId subject userId reusableSubjects reusableUserIds)) values' := by
  obtain ⟨call, hcall⟩ : ∃ call : DisposableCall, call = .bind config record currentRunId
    currentScenarioId subject userId reusableSubjects reusableUserIds := ⟨_, rfl⟩
  have hplain : call.PlainCredentials := hcall ▸ trivial
  have hadm : call.Admissible s.returned := hcall ▸ ⟨hr, hsubject, huser⟩
  unfold Accounts.after
  rcases hbind : perform path (bindDisposableIdentity config record currentRunId currentScenarioId
    subject userId reusableSubjects reusableUserIds path) s.file with ⟨result, file⟩
  simp only [hbind]
  cases result with
  | error e =>
    have hfile := perform_error (congrArg Prod.fst hbind)
    rw [hbind] at hfile
    obtain rfl : file = s.file := hfile
    exact ⟨values, h⟩
  | ok bound =>
    obtain ⟨values', pre, hread, hpre, heffect⟩ := effect_of_perform h.history.read hadm
      hplain.oneLine (by rw [hcall]; exact hbind)
    have hprov := provenance_step h.provenance heffect hadm hplain hpre
    cases heffect with
    | loaded => cases hcall
    | created => cases hcall
    | completed => cases hcall
    | bound =>
      cases hcall
      have hl := fields_binding subject userId
      have hkey : usernameSuffix ∉ (bindingFields subject userId).map Prod.fst :=
        (by decide : usernameSuffix ∉ suffixes.drop 5)
      exact ⟨_, h.history.congr hread fun name hname => slot_frame hnames hpre hl hname, hprov,
        slotsDistinct_congr h.distinct fun name hname => username_frame hnames hpre hl hkey hname,
        targetHistory_bound h.targets hr rfl⟩

/-- **Any call keeps the ledger.** -/
theorem ledger_after (hnames : SlotNames browser) (hconfig : ensureExactLocalTarget config = .ok ())
    (hbrowser : config.auth.browser = some browser) (henv : NothingSupplied browser environ)
    (h : Ledger path browser s values) {call : AccountCall σ} (hadm : s.Admissible path call) :
    ∃ values', Ledger path browser (s.after config environ path call) values' := by
  cases call with
  | session call => exact ledger_session hnames hconfig hbrowser henv h hadm
  | target runId scenarioId draws signup login =>
    exact ledger_target hnames hbrowser henv h hadm.1 hadm.2 draws signup login
  | bind record currentRunId currentScenarioId subject userId reusableSubjects reusableUserIds =>
    exact ledger_bind hnames h hadm.1 hadm.2.1 hadm.2.2

/-- **Any sequence of calls keeps the ledger.** -/
theorem ledger_of_reaches (hnames : SlotNames browser)
    (hconfig : ensureExactLocalTarget config = .ok ()) (hbrowser : config.auth.browser = some browser)
    (henv : NothingSupplied browser environ) {s' : Accounts} (h : Ledger path browser s values)
    (hrun : Relation.ReflTransGen (Accounts.Step σ config environ path) s s') :
    ∃ values', Ledger path browser s' values' := by
  induction hrun with
  | refl => exact ⟨values, h⟩
  | tail _ hstep ih =>
    obtain ⟨values', h'⟩ := ih
    obtain ⟨call, hadm, rfl⟩ := hstep
    exact ledger_after hnames hconfig hbrowser henv h' hadm

end Calls

end ApiTests.Auth
