import ApiTests.Auth.Browser
import ApiTests.Credentials.Provenance

/-!
# Disposable targets (`auth.py:38-88`)

Model of `acquire_disposable_browser_target`: the record of a run and a scenario is loaded or created,
a pending one is signed up and then marked complete, a complete one is logged in. The browser flows are
outside, as in `acquire_browser_session`: what they do when they are called is an argument.

A `TargetEvent` records what was attempted. `TargetHistory` is what holds of the records the operations
returned, the events and the variables after any number of calls.

Results: `acquire_effect` (everything a call can do),
`same_record` (a pair has one record and one pair of credentials),
`targetHistory_created`, `targetHistory_bound` (what the operations do to the history),
`targetHistory_signup`, `targetHistory_login`, `targetHistory_target` (what an event does to it).
-/

namespace ApiTests.Auth

open Py Credentials

/-! ## The acquisition -/

/-- What happened for the target of a run and a scenario. -/
inductive TargetEvent where
  /-- `signup` was called, the file being what it is. -/
  | signup (pair : Text × Text) (credentials : BrowserLoginCredentials) (file : CredentialFile)
  | login (pair : Text × Text) (credentials : BrowserLoginCredentials)
  /-- A call for the pair returned its target. -/
  | target (pair : Text × Text)

/-- The run and the scenario an event is about. -/
def TargetEvent.pair : TargetEvent → Text × Text
  | .signup pair _ _ => pair
  | .login pair _ => pair
  | .target pair => pair

/-- The credentials a flow was given. -/
def TargetEvent.credentials : TargetEvent → Option BrowserLoginCredentials
  | .signup _ credentials _ => some credentials
  | .login _ credentials => some credentials
  | .target _ => none

/-- The run and the scenario of a record. -/
def recordPair (record : DisposableCredentialRecord) : Text × Text := (record.runId, record.scenarioId)

/-- `ProvisionedDisposableTarget`. -/
structure ProvisionedDisposableTarget (σ : Type) where
  record : DisposableCredentialRecord
  firstSession : σ

/-- The outcome of a call, the file, the flows it called, and the records that the operations on the
file returned to it, the latest first. -/
structure TargetAcquisition (σ : Type) where
  result : Except AcquisitionError (ProvisionedDisposableTarget σ)
  file : CredentialFile
  events : List TargetEvent
  records : List DisposableCredentialRecord

variable {σ : Type}

/-- `_login_browser_account` for a record, behind `events`. -/
def loginTarget (record : DisposableCredentialRecord) (login : LoginOutcome σ)
    (events : List TargetEvent) : Except AcquisitionError σ × List TargetEvent :=
  match login with
  | .session s => (.ok s, events ++ [.login (recordPair record) record.credentials])
  | .failure message =>
    (.error (.flow message), events ++ [.login (recordPair record) record.credentials])

/-- The signup of a pending record, with the login in place of an account that exists already. -/
def signupTarget (record : DisposableCredentialRecord) (signup : SignupOutcome σ)
    (login : LoginOutcome σ) (file : CredentialFile) : Except AcquisitionError σ × List TargetEvent :=
  match signup with
  | .session s => (.ok s, [.signup (recordPair record) record.credentials file])
  | .accountExists => loginTarget record login [.signup (recordPair record) record.credentials file]
  | .failure message =>
    (.error (.flow message), [.signup (recordPair record) record.credentials file])

/-- `acquire_disposable_browser_target`. -/
def acquireDisposableBrowserTarget (config : EnvironmentConfig) (environ : Environ)
    (runId scenarioId path : Text) (generator : BrowserLoginCredentials) (signup : SignupOutcome σ)
    (login : LoginOutcome σ) (file : CredentialFile) : TargetAcquisition σ :=
  if config.auth.mode ≠ .browserPreprovisioned then
    ⟨.error (.configuration (lit ("admin deactivation requires exact-local browser_preprovisioned " ++
      "mode; opaque supplied sessions cannot establish disposable target ownership"))), file, [], []⟩
  else if config.allowMutation = false ∨ config.allowDestructive = false then
    ⟨.error (.configuration (lit ("admin deactivation requires both mutation and destructive " ++
      "environment permissions"))), file, [], []⟩
  else
    match perform path
      (loadOrCreateDisposableCredentials config environ runId scenarioId path generator) file with
    | (.error e, file) => ⟨.error (.ofOperation e), file, [], []⟩
    | (.ok record, file) =>
      if record.state = .complete then
        match loginTarget record login [] with
        | (.error e, events) => ⟨.error e, file, events, [record]⟩
        | (.ok s, events) => ⟨.ok ⟨record, s⟩, file, events, [record]⟩
      else
        match signupTarget record signup login file with
        | (.error e, events) => ⟨.error e, file, events, [record]⟩
        | (.ok s, events) =>
          match perform path (markDisposableCredentialsComplete config record path) file with
          | (.error e, file) => ⟨.error (.ofOperation e), file, events, [record]⟩
          | (.ok completed, file) => ⟨.ok ⟨completed, s⟩, file, events, [completed, record]⟩

/-- The events of a call, with the target it returned. -/
def TargetAcquisition.history (acquired : TargetAcquisition σ) : List TargetEvent :=
  match acquired.result with
  | .ok target => acquired.events ++ [.target (recordPair target.record)]
  | .error _ => acquired.events

/-- The flows of a pending record. -/
def SignupFlows (record : DisposableCredentialRecord) (file : CredentialFile)
    (events : List TargetEvent) : Prop :=
  events = [.signup (recordPair record) record.credentials file] ∨
    events = [.signup (recordPair record) record.credentials file,
      .login (recordPair record) record.credentials]

/-- What a call can do. -/
inductive TargetEffect (config : EnvironmentConfig) (environ : Environ) (runId scenarioId path : Text)
    (generator : BrowserLoginCredentials) (file : CredentialFile) : TargetAcquisition σ → Prop
  /-- It is refused, or the load raises. -/
  | idle (e : AcquisitionError) :
      TargetEffect config environ runId scenarioId path generator file ⟨.error e, file, [], []⟩
  /-- A complete record is logged in, with or without success. -/
  | login {record : DisposableCredentialRecord} {file' : CredentialFile}
      (hload : perform path (loadOrCreateDisposableCredentials config environ runId scenarioId path
        generator) file = (.ok record, file'))
      (hstate : record.state = .complete) (result : Except AcquisitionError σ) :
      TargetEffect config environ runId scenarioId path generator file
        ⟨result.map fun s => ⟨record, s⟩, file', [.login (recordPair record) record.credentials],
          [record]⟩
  /-- A pending record is signed up, and there is no session or it cannot be marked. -/
  | attempted {record : DisposableCredentialRecord} {file' : CredentialFile} {events : List TargetEvent}
      (hload : perform path (loadOrCreateDisposableCredentials config environ runId scenarioId path
        generator) file = (.ok record, file'))
      (hstate : record.state = .pending) (hflows : SignupFlows record file' events)
      (e : AcquisitionError) :
      TargetEffect config environ runId scenarioId path generator file
        ⟨.error e, file', events, [record]⟩
  /-- A pending record is signed up and marked. -/
  | provisioned {record completed : DisposableCredentialRecord} {file' file'' : CredentialFile}
      {events : List TargetEvent}
      (hload : perform path (loadOrCreateDisposableCredentials config environ runId scenarioId path
        generator) file = (.ok record, file'))
      (hstate : record.state = .pending) (hflows : SignupFlows record file' events)
      (hmark : perform path (markDisposableCredentialsComplete config record path) file' =
        (.ok completed, file'')) (s : σ) :
      TargetEffect config environ runId scenarioId path generator file
        ⟨.ok ⟨completed, s⟩, file'', events, [completed, record]⟩

theorem loginTarget_eq (record : DisposableCredentialRecord) (login : LoginOutcome σ)
    (events : List TargetEvent) : ∃ result, loginTarget record login events =
      (result, events ++ [.login (recordPair record) record.credentials]) := by
  cases login with
  | session s => exact ⟨_, rfl⟩
  | failure message => exact ⟨_, rfl⟩

theorem signupTarget_eq (record : DisposableCredentialRecord) (signup : SignupOutcome σ)
    (login : LoginOutcome σ) (file : CredentialFile) : ∃ result events,
      signupTarget record signup login file = (result, events) ∧ SignupFlows record file events := by
  cases signup with
  | session s => exact ⟨_, _, rfl, Or.inl rfl⟩
  | failure message => exact ⟨_, _, rfl, Or.inl rfl⟩
  | accountExists =>
    obtain ⟨result, hlogin⟩ := loginTarget_eq record login
      [.signup (recordPair record) record.credentials file]
    exact ⟨_, _, hlogin, Or.inr rfl⟩

/-- **What a call of `acquire_disposable_browser_target` does.** -/
theorem acquire_effect (config : EnvironmentConfig) (environ : Environ) (runId scenarioId path : Text)
    (generator : BrowserLoginCredentials) (signup : SignupOutcome σ) (login : LoginOutcome σ)
    (file : CredentialFile) : TargetEffect config environ runId scenarioId path generator file
      (acquireDisposableBrowserTarget config environ runId scenarioId path generator signup login
        file) := by
  unfold acquireDisposableBrowserTarget
  split_ifs with hmode hpermissions
  · exact .idle _
  · exact .idle _
  rcases hload : perform path
    (loadOrCreateDisposableCredentials config environ runId scenarioId path generator) file with
    ⟨loaded, file'⟩
  cases loaded with
  | error e =>
    have hfile := perform_error (congrArg Prod.fst hload)
    rw [hload] at hfile
    obtain rfl : file' = file := hfile
    exact .idle _
  | ok record =>
    simp only
    by_cases hstate : record.state = .complete
    · rw [if_pos hstate]
      obtain ⟨result, hlogin⟩ := loginTarget_eq record login []
      rw [hlogin]
      cases result with
      | error e => exact .login hload hstate (.error e)
      | ok s => exact .login hload hstate (.ok s)
    · rw [if_neg hstate]
      have hpending : record.state = .pending := by
        cases hst : record.state with
        | pending => rfl
        | complete => exact absurd hst hstate
      obtain ⟨result, events, hsignup, hflows⟩ := signupTarget_eq record signup login file'
      rw [hsignup]
      cases result with
      | error e => exact .attempted hload hpending hflows e
      | ok s =>
        simp only
        rcases hmark : perform path (markDisposableCredentialsComplete config record path) file' with
          ⟨marked, file''⟩
        cases marked with
        | error e =>
          have hfile := perform_error (congrArg Prod.fst hmark)
          rw [hmark] at hfile
          obtain rfl : file'' = file' := hfile
          exact .attempted hload hpending hflows _
        | ok completed => exact .provisioned hload hpending hflows hmark s

/-! ## The invariant -/

/-- The variable that saves the state of a record. -/
abbrev stateSuffix : Text := lit "_ACCOUNT_STATE"

/-- The variables under `pre` save the credentials of a run and a scenario, in a state. -/
structure Retained (values : Values) (pre : Text) (pair : Text × Text)
    (credentials : BrowserLoginCredentials) (state : AccountState) : Prop where
  runId : values.get? (pre ++ lit "_RUN_ID") = some pair.1
  scenarioId : values.get? (pre ++ lit "_SCENARIO_ID") = some pair.2
  username : values.get? (pre ++ usernameSuffix) = some credentials.username
  password : values.get? (pre ++ lit "_PASSWORD") = some credentials.password
  state : values.get? (pre ++ stateSuffix) = some state.text

theorem retained_of_holds {values : Values} {pre : Text} {r : DisposableCredentialRecord}
    (h : Holds values pre r) {state : AccountState}
    (hstate : values.get? (pre ++ stateSuffix) = some state.text) :
    Retained values pre (recordPair r) r.credentials state :=
  ⟨h.runId, h.scenarioId, h.username, h.password, hstate⟩

/-- A signup was attempted on a file that saves its record as pending. -/
def TargetEvent.PendingAt (path : Text) (e : TargetEvent) : Prop :=
  ∀ pair credentials file, e = .signup pair credentials file →
    ∃ values pre, readCredentialFile path file = .ok values ∧
      disposableVariablePrefix pair.1 pair.2 = .ok pre ∧ Retained values pre pair credentials .pending

/-- The later event is no signup for a pair that has its target. -/
def NoTargetSignupAfter (e e' : TargetEvent) : Prop :=
  ∀ pair credentials file, e = .target pair → e' ≠ .signup pair credentials file

/-- What holds of the records returned so far, the events and the variables. -/
structure TargetHistory (path : Text) (returned : List DisposableCredentialRecord)
    (events : List TargetEvent) (values : Values) : Prop where
  /-- Every event is about a returned record, and its flow was given the credentials of it. -/
  attempts : ∀ e ∈ events, ∃ r ∈ returned, e.pair = recordPair r ∧
    ∀ c, e.credentials = some c → c = r.credentials
  /-- A record is saved as complete exactly when a call has returned its target. -/
  completed : ∀ r ∈ returned, ∀ pre, disposableVariablePrefix r.runId r.scenarioId = .ok pre →
    (values.get? (pre ++ stateSuffix) = some AccountState.complete.text ↔
      .target (recordPair r) ∈ events)
  pending : ∀ e ∈ events, e.PendingAt path
  ordered : events.Pairwise NoTargetSignupAfter

section

variable {path : Text} {returned : List DisposableCredentialRecord} {events : List TargetEvent}
  {values values' : Values}

/-- Two returned records with one prefix are records of one pair, with one pair of credentials. -/
theorem same_record (h : Provenance values returned) {r r' : DisposableCredentialRecord}
    (hr : r ∈ returned) (hr' : r' ∈ returned) {pre : Text}
    (hpre : disposableVariablePrefix r.runId r.scenarioId = .ok pre)
    (hpre' : disposableVariablePrefix r'.runId r'.scenarioId = .ok pre) :
    recordPair r = recordPair r' ∧ r.credentials = r'.credentials := by
  obtain ⟨-, hheld⟩ := h.held_at hr hpre
  obtain ⟨-, hheld'⟩ := h.held_at hr' hpre'
  have hrun := hheld.runId.symm.trans hheld'.runId
  have hscenario := hheld.scenarioId.symm.trans hheld'.scenarioId
  have husername := hheld.username.symm.trans hheld'.username
  have hpassword := hheld.password.symm.trans hheld'.password
  refine ⟨Prod.ext (Option.some.inj hrun) (Option.some.inj hscenario), ?_⟩
  have hu := Option.some.inj husername
  have hp := Option.some.inj hpassword
  rcases hc : r.credentials with ⟨u, p⟩
  rcases hc' : r'.credentials with ⟨u', p'⟩
  rw [hc, hc'] at hu hp
  rw [show u = u' from hu, show p = p' from hp]

/-- Only the state variables of the returned records matter. -/
theorem TargetHistory.congr (h : TargetHistory path returned events values)
    (hkeep : ∀ r ∈ returned, ∀ pre, disposableVariablePrefix r.runId r.scenarioId = .ok pre →
      values'.get? (pre ++ stateSuffix) = values.get? (pre ++ stateSuffix)) :
    TargetHistory path returned events values' where
  attempts := h.attempts
  completed r hr pre hpre := by
    rw [hkeep r hr pre hpre]
    exact h.completed r hr pre hpre
  pending := h.pending
  ordered := h.ordered

/-- One more record, of which it is known whether it is complete. -/
theorem TargetHistory.cons (h : TargetHistory path returned events values)
    {record : DisposableCredentialRecord}
    (hrecord : ∀ pre, disposableVariablePrefix record.runId record.scenarioId = .ok pre →
      (values.get? (pre ++ stateSuffix) = some AccountState.complete.text ↔
        .target (recordPair record) ∈ events)) :
    TargetHistory path (record :: returned) events values where
  attempts e he := by
    obtain ⟨r, hr, hmore⟩ := h.attempts e he
    exact ⟨r, List.mem_cons_of_mem record hr, hmore⟩
  completed := List.forall_mem_cons.mpr ⟨hrecord, h.completed⟩
  pending := h.pending
  ordered := h.ordered

/-! ## The operations -/

/-- A copy of a returned record adds nothing. -/
theorem TargetHistory.copy (h : TargetHistory path returned events values)
    {r record : DisposableCredentialRecord} (hr : r ∈ returned)
    (hpair : recordPair record = recordPair r) :
    TargetHistory path (record :: returned) events values := by
  obtain ⟨hrun, hscenario⟩ := Prod.mk.inj hpair
  refine h.cons fun pre hpre => ?_
  rw [hpair]
  exact h.completed r hr pre (by rw [← hrun, ← hscenario, hpre])

/-- A fresh record is pending, and nothing has happened for it. -/
theorem targetHistory_created (h : TargetHistory path returned events values)
    (hprov : Provenance values returned) {runId scenarioId pre : Text}
    {generator : BrowserLoginCredentials} (hpre : disposableVariablePrefix runId scenarioId = .ok pre)
    (hfree : ∀ name ∈ (disposableVariableNames pre).all, saved values name = []) :
    TargetHistory path (⟨runId, scenarioId, generator, .pending, none, none⟩ :: returned) events
      (values.update (parsed (recordUpdate pre (freshFields runId scenarioId generator)))) := by
  have hl := fields_fresh runId scenarioId generator
  have hstate : (values.update (parsed (recordUpdate pre
      (freshFields runId scenarioId generator)))).get? (pre ++ stateSuffix) =
        some AccountState.pending.text :=
    get?_update_plain hl values (by simp [freshFields]) (plain_state .pending)
  -- No record has been returned under the prefix.
  have hother : ∀ r ∈ returned, disposableVariablePrefix r.runId r.scenarioId ≠ .ok pre := by
    intro r hr hpre'
    obtain ⟨hplain, hheld⟩ := hprov.held_at hr hpre'
    have hsaved := hfree (pre ++ lit "_RUN_ID") List.mem_cons_self
    rw [saved_of_get? hheld.runId hplain.runId] at hsaved
    exact runId_ne_nil hpre' hsaved
  have hkeep : ∀ r ∈ returned, ∀ pre', disposableVariablePrefix r.runId r.scenarioId = .ok pre' →
      (values.update (parsed (recordUpdate pre (freshFields runId scenarioId generator)))).get?
        (pre' ++ stateSuffix) = values.get? (pre' ++ stateSuffix) := by
    intro r hr pre' hpre'
    refine get?_update_other hl values (by decide) fun hsame => hother r hr ?_
    rw [hpre', hsame]
  refine (h.congr hkeep).cons fun pre' hpre' => ?_
  obtain rfl : pre = pre' := Except.ok.inj (hpre.symm.trans hpre')
  rw [hstate]
  constructor
  · intro hcomplete
    exact absurd hcomplete (by decide)
  · intro hmem
    obtain ⟨r, hr, hpair, -⟩ := h.attempts _ hmem
    obtain ⟨hrun, hscenario⟩ := Prod.mk.inj hpair
    exact absurd (by rw [← hrun, ← hscenario]; exact hpre) (hother r hr)

/-- A binding leaves the states. -/
theorem targetHistory_bound (h : TargetHistory path returned events values) {pre subject userId : Text}
    {r record : DisposableCredentialRecord} (hr : r ∈ returned)
    (hpair : recordPair record = recordPair r) :
    TargetHistory path (record :: returned) events
      (values.update (parsed (recordUpdate pre (bindingFields subject userId)))) := by
  refine TargetHistory.copy (h.congr fun r' _ pre' _ => ?_) hr hpair
  have hkey : stateSuffix ∉ (bindingFields subject userId).map Prod.fst :=
    (by decide : stateSuffix ∉ suffixes.drop 5)
  by_cases hsame : pre' = pre
  · rw [hsame]
    exact get?_update_keep (fields_binding subject userId) values (by decide) hkey
  · exact get?_update_other (fields_binding subject userId) values (by decide) hsame

/-! ## The events -/

/-- **A flow with the credentials of a returned record** goes on the history. -/
theorem TargetHistory.attempt (h : TargetHistory path returned events values)
    {r : DisposableCredentialRecord} (hr : r ∈ returned) {e : TargetEvent}
    (hpair : e.pair = recordPair r) (hcredentials : e.credentials = some r.credentials)
    (hpending : e.PendingAt path) (hordered : ∀ e' ∈ events, NoTargetSignupAfter e' e) :
    TargetHistory path returned (events ++ [e]) values where
  attempts e' he' := by
    rcases List.mem_append.mp he' with he' | he'
    · exact h.attempts e' he'
    · rw [List.mem_singleton.mp he']
      refine ⟨r, hr, hpair, fun c hc => ?_⟩
      rw [hcredentials] at hc
      exact (Option.some.inj hc).symm
  completed r' hr' pre hpre := by
    rw [h.completed r' hr' pre hpre, List.mem_append, List.mem_singleton]
    refine ⟨Or.inl, fun hmem => hmem.elim id fun hsame => ?_⟩
    rw [← hsame] at hcredentials
    cases hcredentials
  pending e' he' := (List.mem_append.mp he').elim (h.pending e') fun he' => by
    rw [List.mem_singleton.mp he']
    exact hpending
  ordered := List.pairwise_append.mpr ⟨h.ordered, List.pairwise_singleton _ _,
    fun e' he' e'' he'' => by
      rw [List.mem_singleton.mp he'']
      exact hordered e' he'⟩

theorem targetHistory_login (h : TargetHistory path returned events values)
    {r : DisposableCredentialRecord} (hr : r ∈ returned) :
    TargetHistory path returned (events ++ [.login (recordPair r) r.credentials]) values :=
  h.attempt hr rfl rfl (fun _ _ _ heq => by cases heq) fun _ _ _ _ _ _ heq => by cases heq

/-- **A signup of a record that is saved as pending** goes on the history. -/
theorem targetHistory_signup (h : TargetHistory path returned events values)
    (hprov : Provenance values returned) {file : CredentialFile}
    (hread : readCredentialFile path file = .ok values) {r : DisposableCredentialRecord}
    (hr : r ∈ returned) {pre : Text} (hpre : disposableVariablePrefix r.runId r.scenarioId = .ok pre)
    (hstate : values.get? (pre ++ stateSuffix) = some AccountState.pending.text) :
    TargetHistory path returned (events ++ [.signup (recordPair r) r.credentials file]) values := by
  obtain ⟨-, hheld⟩ := hprov.held_at hr hpre
  refine h.attempt hr rfl rfl ?_ fun e' he' pair credentials file' htarget hsignup => ?_
  · intro pair credentials file' heq
    cases heq
    exact ⟨values, pre, hread, hpre, retained_of_holds hheld hstate⟩
  · cases hsignup
    subst htarget
    have hcomplete := (h.completed r hr pre hpre).mpr he'
    rw [hstate] at hcomplete
    exact absurd hcomplete (by decide)

/-- **A target that is returned once its record is saved as complete.** -/
theorem targetHistory_target (h : TargetHistory path returned events values)
    (hprov : Provenance values returned) {values' : Values}
    {r : DisposableCredentialRecord} (hr : r ∈ returned) {pre : Text}
    (hpre : disposableVariablePrefix r.runId r.scenarioId = .ok pre)
    (hstate : values'.get? (pre ++ stateSuffix) = some AccountState.complete.text)
    (hkeep : ∀ pre', pre' ≠ pre →
      values'.get? (pre' ++ stateSuffix) = values.get? (pre' ++ stateSuffix)) :
    TargetHistory path returned (events ++ [.target (recordPair r)]) values' where
  attempts e' he' := by
    rcases List.mem_append.mp he' with he' | he'
    · exact h.attempts e' he'
    · rw [List.mem_singleton.mp he']
      exact ⟨r, hr, rfl, fun c hc => by cases hc⟩
  completed r' hr' pre' hpre' := by
    rw [List.mem_append, List.mem_singleton]
    by_cases hsame : pre' = pre
    · subst hsame
      have hpair := (same_record hprov hr' hr hpre' hpre).1
      exact ⟨fun _ => Or.inr (by rw [hpair]), fun _ => hstate⟩
    · rw [hkeep pre' hsame, h.completed r' hr' pre' hpre']
      refine ⟨Or.inl, fun hmem => hmem.elim id fun htarget => ?_⟩
      obtain ⟨hrun, hscenario⟩ := Prod.mk.inj (TargetEvent.target.inj htarget)
      rw [hrun, hscenario] at hpre'
      exact absurd (Except.ok.inj (hpre'.symm.trans hpre)) hsame
  pending e' he' := (List.mem_append.mp he').elim (h.pending e') fun he' => by
    rw [List.mem_singleton.mp he']
    exact fun _ _ _ heq => by cases heq
  ordered := List.pairwise_append.mpr ⟨h.ordered, List.pairwise_singleton _ _,
    fun _ _ e'' he'' => by
      rw [List.mem_singleton.mp he'']
      exact fun _ _ _ _ heq => by cases heq⟩

end

end ApiTests.Auth
