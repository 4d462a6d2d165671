import ApiTests.Auth.Browser

/-!
# The signup protocol over whole histories

Sequences of `acquire_browser_session` calls (`auth.py:115-161`) over the three roles, on one
credential file that assigns none of their nine variables, without credentials in the environment.
The flows may end in any way at any point.

`History path browser file events values` is what holds after a sequence of calls: a role is either
untouched, in the file and in the events, or it is saved with one pair of credentials that all its
flows were given, and its state is complete exactly when one of its calls returned a session.

Results: `history_load`, `history_attempt`, `history_mark` (what each part of a call does to the
history), `history_step`, `history_run` (the invariant, over a call and over a sequence of calls) and
`signup_protocol` (**one pair for each role, saved as pending before its signups; no signup after a
session; complete exactly when a session was returned**).
-/

namespace ApiTests.Auth

open Py Credentials

/-! ## The invariant -/

/-- The file saves the pair of the role, in a state. -/
structure Holding (values : Values) (names : RoleVariables) (credentials : BrowserLoginCredentials)
    (state : AccountState) : Prop where
  username : values.get? names.username = some credentials.username
  password : values.get? names.password = some credentials.password
  state : values.get? names.state = some state.text

/-- Credentials as they are generated: plain and not empty. -/
structure Usable (credentials : BrowserLoginCredentials) : Prop where
  plain_username : Plain credentials.username
  plain_password : Plain credentials.password
  username_ne : credentials.username ≠ []
  password_ne : credentials.password ≠ []

theorem usable_generated (draws : Draws) : Usable (generateLocalCredentials draws) :=
  ⟨(plain_generated draws).1, (plain_generated draws).2, (generated_ne_nil draws).1,
    (generated_ne_nil draws).2⟩

/-- The role is saved: with the pair all its flows were given, complete exactly when one of its calls
returned a session. -/
structure Saved (values : Values) (events : List Event) (names : RoleVariables) (role : SessionRole)
    (credentials : BrowserLoginCredentials) (state : AccountState) : Prop where
  usable : Usable credentials
  holding : Holding values names credentials state
  attempts : ∀ e ∈ events, e.role = role → ∀ c, e.credentials = some c → c = credentials
  session : state = .complete ↔ Event.session role ∈ events

/-- The role has left no trace yet. -/
structure Untouched (values : Values) (events : List Event) (names : RoleVariables)
    (role : SessionRole) : Prop where
  free : ∀ name ∈ names.all, values.get? name = none
  unseen : ∀ e ∈ events, e.role ≠ role

/-- A signup was attempted on a file that saves its pair as pending. -/
def PendingAt (path : Text) (browser : BrowserConfig) (e : Event) : Prop :=
  ∀ role credentials file, e = .signup role credentials file →
    ∃ values, readCredentialFile path file = .ok values ∧
      Holding values (roleVariables browser role) credentials .pending

/-- The later event is no signup of a role that has its session. -/
def NoSignupAfter (e e' : Event) : Prop :=
  ∀ role credentials file, e = .session role → e' ≠ .signup role credentials file

/-- What holds of the file and the events of a sequence of calls. -/
structure History (path : Text) (browser : BrowserConfig) (file : CredentialFile)
    (events : List Event) (values : Values) : Prop where
  read : readCredentialFile path file = .ok values
  status : ∀ role, Untouched values events (roleVariables browser role) role ∨
    ∃ credentials state, Saved values events (roleVariables browser role) role credentials state
  pending : ∀ e ∈ events, PendingAt path browser e
  ordered : events.Pairwise NoSignupAfter

/-! ## One more event -/

section

variable {path : Text} {browser : BrowserConfig} {file : CredentialFile} {events : List Event}
  {values values' : Values}

theorem Holding.congr {names : RoleVariables} {credentials : BrowserLoginCredentials}
    {state : AccountState} (h : Holding values names credentials state)
    (hkeep : ∀ name ∈ names.all, values'.get? name = values.get? name) :
    Holding values' names credentials state where
  username := (hkeep _ (by simp [RoleVariables.all])).trans h.username
  password := (hkeep _ (by simp [RoleVariables.all])).trans h.password
  state := (hkeep _ (by simp [RoleVariables.all])).trans h.state

/-- The other roles do not see an event or a change of variables of this one. -/
theorem status_other {names : RoleVariables} {role role' : SessionRole} {new : List Event}
    (h : Untouched values events names role' ∨
      ∃ credentials state, Saved values events names role' credentials state)
    (hkeep : ∀ name ∈ names.all, values'.get? name = values.get? name)
    (hnew : ∀ e ∈ new, e.role = role) (hne : role' ≠ role) :
    Untouched values' (events ++ new) names role' ∨
      ∃ credentials state, Saved values' (events ++ new) names role' credentials state := by
  have hnone : ∀ e ∈ new, e.role ≠ role' := fun e he h => hne (h.symm.trans (hnew e he))
  rcases h with h | ⟨credentials, state, h⟩
  · refine Or.inl ⟨fun name hname => (hkeep name hname).trans (h.free name hname),
      fun e he => ?_⟩
    exact (List.mem_append.mp he).elim (h.unseen e) (hnone e)
  · refine Or.inr ⟨credentials, state, h.usable, h.holding.congr hkeep, fun e he hrole => ?_, ?_⟩
    · exact (List.mem_append.mp he).elim (fun he => h.attempts e he hrole)
        fun he => absurd hrole (hnone e he)
    · rw [h.session, List.mem_append]
      exact ⟨Or.inl, fun hs => hs.elim id fun hs => absurd rfl (hnone _ hs)⟩

/-- **A history goes on** with events of one role and a change of its variables. -/
theorem History.extend (hnames : WellNamed browser) (h : History path browser file events values)
    {file' : CredentialFile} (role : SessionRole) (new : List Event)
    (hread : readCredentialFile path file' = .ok values')
    (hkeep : ∀ name ∉ (roleVariables browser role).all, values'.get? name = values.get? name)
    (hnew : ∀ e ∈ new, e.role = role)
    (hstatus : Untouched values' (events ++ new) (roleVariables browser role) role ∨
      ∃ credentials state,
        Saved values' (events ++ new) (roleVariables browser role) role credentials state)
    (hpending : ∀ e ∈ new, PendingAt path browser e)
    (hordered : new.Pairwise NoSignupAfter ∧ ∀ e ∈ events, ∀ e' ∈ new, NoSignupAfter e e') :
    History path browser file' (events ++ new) values' where
  read := hread
  status role' := by
    by_cases hne : role' = role
    · rw [hne]
      exact hstatus
    · exact status_other (h.status role')
        (fun name hname => hkeep name fun hname' => hne (hnames.role_eq hname hname')) hnew hne
  pending e he := (List.mem_append.mp he).elim (h.pending e) (hpending e)
  ordered := List.pairwise_append.mpr ⟨h.ordered, hordered.1, hordered.2⟩

/-! ## The parts of a call -/

theorem plain_ne_nil_saved {name value : Text} (h : values.get? name = some value)
    (hplain : Plain value) (hne : value ≠ []) : saved values name ≠ [] := by
  rw [saved_of_get? h hplain]
  exact hne

/-- What the file saves of a role is the record a load returns. -/
theorem record_of_stored {names : RoleVariables} {role : SessionRole}
    {credentials : BrowserLoginCredentials} {state state' : AccountState}
    (h : Saved values events names role credentials state)
    (hstate : strip (values.getD names.state (lit "complete")) = state'.text) :
    (⟨saved values names.username, saved values names.password⟩ : BrowserLoginCredentials) =
      credentials ∧ state' = state := by
  refine ⟨?_, ?_⟩
  · rw [saved_of_get? h.holding.username h.usable.plain_username,
      saved_of_get? h.holding.password h.usable.plain_password]
  · rw [Dict.getD, h.holding.state, Option.getD_some, (plain_state state).strip_eq] at hstate
    revert hstate
    cases state <;> cases state' <;> decide

/-- The variables of a new slot. -/
theorem holding_slotUpdate {names : RoleVariables} (hnodup : names.all.Nodup)
    (credentials : BrowserLoginCredentials) :
    Holding (values.update (slotUpdate names credentials)) names credentials .pending := by
  obtain ⟨husername, hpassword, hstate⟩ := get?_update_slotUpdate hnodup values credentials
  exact ⟨husername, hpassword, hstate⟩

/-- **A load that returns leaves the role saved**, with the record it returns. -/
theorem history_load (hnames : WellNamed browser) {config : EnvironmentConfig} {environ : Environ}
    (hbrowser : config.auth.browser = some browser) (henv : NothingSupplied browser environ)
    (h : History path browser file events values) {role : SessionRole}
    {generator : BrowserLoginCredentials} (hgen : Usable generator) {record : LocalCredentialRecord}
    (hload : (perform path (loadOrCreateLocalCredentials config role environ path generator) file).1 =
      .ok record) :
    ∃ values' state, record.state = .stored state ∧ History path browser
        (perform path (loadOrCreateLocalCredentials config role environ path generator) file).2
        events values' ∧
      Saved values' events (roleVariables browser role) role record.credentials state := by
  have hnodup := hnames.nodup_all role
  have hclean := cleanUpdates_slot hnodup
    (fun name hn => hnames.isName name (mem_slotVariables hn)) hgen.plain_username hgen.plain_password
  have hlines : WritesLines (loadOrCreateLocalCredentials config role environ path generator) values :=
    writesLines_reusable hnames hbrowser hgen.plain_username hgen.plain_password values
  obtain ⟨hresult, hafter⟩ := perform_refines h.read hlines
  rw [hresult] at hload
  rcases performOn_cases (loadOrCreateLocalCredentials config role environ path generator) values with
    ⟨e, he⟩ | ⟨body, plan, hop, hplan, he⟩ <;> rw [he] at hload hafter
  · exact nomatch hload
  · obtain ⟨names, hrole, hplan, -⟩ := loadOrCreateLocal_plan hop hplan
    rw [variableNames_of_browser hbrowser, Except.ok.injEq] at hrole
    subst hrole
    rw [Except.ok.injEq] at hload
    subst hload
    cases hplan with
    | external hu => exact absurd (henv role).1 hu
    | stored hu _ hstate =>
      rcases h.status role with hfree | ⟨credentials, state, hsaved⟩
      · exact absurd (hfree.free _ (username_mem _)) (get?_ne_none_of_saved hu)
      · obtain ⟨hcredentials, rfl⟩ := record_of_stored hsaved hstate
        exact ⟨values, _, rfl, ⟨hafter, h.status, h.pending, h.ordered⟩, hcredentials ▸ hsaved⟩
    | fresh hu =>
      have hafter : readCredentialFile path _ =
          .ok (values.update (parsed (slotUpdate (roleVariables browser role) generator))) := hafter
      rw [parsed_eq hclean] at hafter
      rcases h.status role with hfree | ⟨credentials, state, hsaved⟩
      · have hsaved : Saved (values.update (slotUpdate (roleVariables browser role) generator)) events
            (roleVariables browser role) role generator .pending :=
          ⟨hgen, holding_slotUpdate hnodup generator, fun e he hrole => absurd hrole (hfree.unseen e he),
            fun hs => (nomatch hs), fun hs => absurd rfl (hfree.unseen _ hs)⟩
        refine ⟨_, .pending, rfl, ?_, hsaved⟩
        have := h.extend hnames role [] hafter (fun name hname =>
          Dict.get?_update_of_none (get?_slotUpdate_of_notMem hnodup generator hname))
          (fun e he => absurd he List.not_mem_nil)
          (Or.inr ⟨_, _, by rw [List.append_nil]; exact hsaved⟩)
          (fun e he => absurd he List.not_mem_nil)
          ⟨List.Pairwise.nil, fun _ _ e he => absurd he List.not_mem_nil⟩
        rwa [List.append_nil] at this
      · exact absurd hu (plain_ne_nil_saved hsaved.holding.username hsaved.usable.plain_username
          hsaved.usable.username_ne)

/-- A signup or a login with the saved pair, a signup of a pending account only. -/
def Event.Attempts (e : Event) (role : SessionRole) (credentials : BrowserLoginCredentials)
    (state : AccountState) (file : CredentialFile) : Prop :=
  e = .login role credentials ∨ (state = .pending ∧ e = .signup role credentials file)

/-- **An attempt with the saved pair goes on the history.** -/
theorem history_attempt (hnames : WellNamed browser) (h : History path browser file events values)
    {role : SessionRole} {credentials : BrowserLoginCredentials} {state : AccountState}
    (hsaved : Saved values events (roleVariables browser role) role credentials state) {e : Event}
    (he : e.Attempts role credentials state file) :
    History path browser file (events ++ [e]) values ∧
      Saved values (events ++ [e]) (roleVariables browser role) role credentials state := by
  have hrole : e.role = role := by
    rcases he with rfl | ⟨-, rfl⟩ <;> rfl
  have hcredentials : e.credentials = some credentials := by
    rcases he with rfl | ⟨-, rfl⟩ <;> rfl
  have hsession : e ≠ .session role := by
    rcases he with rfl | ⟨-, rfl⟩ <;> exact fun h => nomatch h
  have hsaved' : Saved values (events ++ [e]) (roleVariables browser role) role credentials state := by
    refine ⟨hsaved.usable, hsaved.holding, fun e' he' hr c hc => ?_, ?_⟩
    · rcases List.mem_append.mp he' with he' | he'
      · exact hsaved.attempts e' he' hr c hc
      · rw [List.mem_singleton.mp he', hcredentials] at hc
        exact (Option.some.inj hc).symm
    · rw [hsaved.session, List.mem_append, List.mem_singleton]
      exact ⟨Or.inl, fun hs => hs.elim id fun hs => absurd hs.symm hsession⟩
  refine ⟨h.extend hnames role _ h.read (fun _ _ => rfl)
    (fun e' he' => by rw [List.mem_singleton.mp he', hrole]) (Or.inr ⟨_, _, hsaved'⟩)
    (fun e' he' => ?_) ⟨List.pairwise_singleton _ _, fun e' he' e'' he'' => ?_⟩, hsaved'⟩
  · rw [List.mem_singleton.mp he']
    rintro role' credentials' file' rfl
    rcases he with he | ⟨rfl, he⟩
    · exact nomatch he
    · cases he
      exact ⟨values, h.read, hsaved.holding⟩
  · rw [List.mem_singleton.mp he'']
    rintro role' credentials' file' rfl rfl
    rcases he with he | ⟨rfl, he⟩
    · exact nomatch he
    · cases he
      exact nomatch hsaved.session.mpr he'

/-- A session that is returned once the account is completed goes on the history. -/
theorem history_session (hnames : WellNamed browser) (h : History path browser file events values)
    {role : SessionRole} {credentials : BrowserLoginCredentials} {state : AccountState}
    (hsaved : Saved values events (roleVariables browser role) role credentials state)
    {file' : CredentialFile} (hread : readCredentialFile path file' = .ok values')
    (hkeep : ∀ name ∉ (roleVariables browser role).all, values'.get? name = values.get? name)
    (hholding : Holding values' (roleVariables browser role) credentials .complete) :
    History path browser file' (events ++ [.session role]) values' := by
  refine h.extend hnames role _ hread hkeep (fun e' he' => by rw [List.mem_singleton.mp he']; rfl)
    (Or.inr ⟨credentials, .complete, hsaved.usable, hholding, fun e' he' hr c hc => ?_, ?_⟩)
    (fun e' he' => ?_) ⟨List.pairwise_singleton _ _, fun e' _ e'' he'' => ?_⟩
  · rcases List.mem_append.mp he' with he' | he'
    · exact hsaved.attempts e' he' hr c hc
    · rw [List.mem_singleton.mp he'] at hc
      exact nomatch hc
  · exact ⟨fun _ => List.mem_append_right _ (List.mem_singleton_self _), fun _ => rfl⟩
  · rw [List.mem_singleton.mp he']
    exact fun _ _ _ h => nomatch h
  · rw [List.mem_singleton.mp he'']
    exact fun _ _ _ _ h => nomatch h

/-- **Marking a saved role completes it**, with the session that is returned. -/
theorem history_mark (hnames : WellNamed browser) {config : EnvironmentConfig}
    (hbrowser : config.auth.browser = some browser)
    (h : History path browser file events values) {role : SessionRole}
    {credentials : BrowserLoginCredentials} {state : AccountState}
    (hsaved : Saved values events (roleVariables browser role) role credentials state)
    (hmark : (perform path (markLocalCredentialsComplete config role credentials path) file).1 =
      .ok ()) :
    ∃ values', History path browser
      (perform path (markLocalCredentialsComplete config role credentials path) file).2
      (events ++ [.session role]) values' := by
  have hmem : (roleVariables browser role).state ∈ (roleVariables browser role).all := by
    simp [RoleVariables.all]
  have hclean : CleanUpdates
      (.single (roleVariables browser role).state AccountState.complete.text) := by
    intro e he
    rw [List.mem_singleton.mp he]
    exact ⟨hnames.isName _ (mem_slotVariables hmem), (plain_state .complete).cleanValue⟩
  have hlines : WritesLines (markLocalCredentialsComplete config role credentials path) values := by
    intro body plan hop hplan
    obtain ⟨names, hrole, -, -, rfl⟩ := markLocal_plan hop hplan
    rw [variableNames_of_browser hbrowser, Except.ok.injEq] at hrole
    subst hrole
    exact hclean.lineUpdates
  obtain ⟨hresult, hafter⟩ := perform_refines h.read hlines
  rw [hresult] at hmark
  rcases performOn_cases (markLocalCredentialsComplete config role credentials path) values with
    ⟨e, he⟩ | ⟨body, plan, hop, hplan, he⟩ <;> rw [he] at hmark hafter
  · cases hmark
  · obtain ⟨names, hrole, -, -, rfl⟩ := markLocal_plan hop hplan
    rw [variableNames_of_browser hbrowser, Except.ok.injEq] at hrole
    subst hrole
    have hafter : readCredentialFile path _ = .ok (values.update
        (parsed (.single (roleVariables browser role).state AccountState.complete.text))) := hafter
    rw [parsed_eq hclean] at hafter
    have hkeep : ∀ name, name ≠ (roleVariables browser role).state →
        (values.update (.single (roleVariables browser role).state AccountState.complete.text)).get?
          name = values.get? name := fun name hne =>
      Dict.get?_update_of_none (by rw [Dict.get?_single, if_neg hne])
    have hnodup := hnames.nodup_all role
    simp only [RoleVariables.all, List.nodup_cons, List.mem_cons, not_or, List.not_mem_nil] at hnodup
    refine ⟨_, history_session hnames h hsaved hafter
      (fun name hname => hkeep name fun e => hname (e ▸ hmem)) ⟨?_, ?_, ?_⟩⟩
    · exact (hkeep _ hnodup.1.2.1).trans hsaved.holding.username
    · exact (hkeep _ hnodup.2.1.1).trans hsaved.holding.password
    · exact Dict.get?_update_of_some (by rw [Dict.get?_single, if_pos rfl])

/-! ## A whole call -/

variable {σ : Type} {config : EnvironmentConfig} {environ : Environ}

/-- A login behind saved credentials, whether it ends in a session or not. -/
theorem history_login (hnames : WellNamed browser) (h : History path browser file events values)
    {role : SessionRole} {credentials : BrowserLoginCredentials}
    (hsaved : Saved values events (roleVariables browser role) role credentials .complete)
    (login : LoginOutcome σ) :
    History path browser (loginBrowserAccount role credentials login file []).file
      (events ++ (loginBrowserAccount role credentials login file []).history role) values := by
  obtain ⟨hlogin, hsaved'⟩ := history_attempt hnames h hsaved (e := .login role credentials)
    (Or.inl rfl)
  cases login with
  | session s =>
    have := history_session hnames hlogin hsaved' h.read (fun _ _ => rfl) hsaved'.holding
    rwa [List.append_assoc] at this
  | failure message => exact hlogin

/-- The completion of a pending account behind the flows that acquired its session. -/
theorem history_complete (hnames : WellNamed browser) (hbrowser : config.auth.browser = some browser)
    {role : SessionRole} {credentials : BrowserLoginCredentials} {state : AccountState}
    {acquired : Acquisition σ}
    (h : History path browser acquired.file (events ++ acquired.events) values)
    (hsaved : Saved values (events ++ acquired.events) (roleVariables browser role) role credentials
      state) :
    ∃ values', History path browser
      (completeAccount config role credentials path acquired).file
      (events ++ (completeAccount config role credentials path acquired).history role) values' := by
  unfold completeAccount
  cases acquired.result with
  | error e => exact ⟨values, h⟩
  | ok s =>
    cases hmark : (perform path (markLocalCredentialsComplete config role credentials path)
        acquired.file).1 with
    | error e =>
      have hfile := perform_error hmark
      rcases hp : perform path (markLocalCredentialsComplete config role credentials path)
        acquired.file with ⟨result, file'⟩
      rw [hp] at hmark hfile
      subst hmark hfile
      exact ⟨values, h⟩
    | ok u =>
      obtain ⟨values', hhistory⟩ := history_mark hnames hbrowser h hsaved hmark
      rcases hp : perform path (markLocalCredentialsComplete config role credentials path)
        acquired.file with ⟨result, file'⟩
      rw [hp] at hmark hhistory
      subst hmark
      rw [List.append_assoc] at hhistory
      exact ⟨values', hhistory⟩

/-- The flows of a pending account go on the history. -/
theorem history_signup (hnames : WellNamed browser) (h : History path browser file events values)
    {role : SessionRole} {credentials : BrowserLoginCredentials}
    (hsaved : Saved values events (roleVariables browser role) role credentials .pending)
    (signup : SignupOutcome σ) (login : LoginOutcome σ) :
    (signupOrLogin role credentials signup login file).file = file ∧
      History path browser file
        (events ++ (signupOrLogin role credentials signup login file).events) values ∧
      Saved values (events ++ (signupOrLogin role credentials signup login file).events)
        (roleVariables browser role) role credentials .pending := by
  obtain ⟨hsignup, hsaved'⟩ := history_attempt hnames h hsaved (e := .signup role credentials file)
    (Or.inr ⟨rfl, rfl⟩)
  cases signup with
  | session s => exact ⟨rfl, hsignup, hsaved'⟩
  | failure message => exact ⟨rfl, hsignup, hsaved'⟩
  | accountExists =>
    obtain ⟨hlogin, hsaved''⟩ := history_attempt hnames hsignup hsaved'
      (e := .login role credentials) (Or.inl rfl)
    rw [List.append_assoc] at hlogin hsaved''
    cases login with
    | session s => exact ⟨rfl, hlogin, hsaved''⟩
    | failure message => exact ⟨rfl, hlogin, hsaved''⟩

theorem environmentType_of_exactLocal (h : ensureExactLocalTarget config = .ok ()) :
    config.environmentType = .localType := by
  unfold ensureExactLocalTarget at h
  split at h
  · exact nomatch h
  · rename_i hne
    rw [not_or, not_or, not_not, not_not] at hne
    exact hne.2.1

/-- **One call keeps the history.** -/
theorem history_step (hnames : WellNamed browser) (hconfig : ensureExactLocalTarget config = .ok ())
    (hbrowser : config.auth.browser = some browser) (henv : NothingSupplied browser environ)
    {state : CredentialFile × List Event} (h : History path browser state.1 state.2 values)
    (call : Call σ) :
    ∃ values', History path browser (step config environ path state call).1
      (step config environ path state call).2 values' := by
  have hlocal := environmentType_of_exactLocal hconfig
  unfold step acquireBrowserSession
  rw [hbrowser, if_neg (by rw [hlocal]; decide)]
  simp only [if_pos hlocal]
  cases hload : (perform path (loadOrCreateLocalCredentials config call.role environ path
      (generateLocalCredentials call.draws)) state.1).1 with
  | error e =>
    have hfile := perform_error hload
    rcases hp : perform path (loadOrCreateLocalCredentials config call.role environ path
      (generateLocalCredentials call.draws)) state.1 with ⟨result, file'⟩
    rw [hp] at hload hfile
    subst hload hfile
    exact ⟨values, by simpa [Acquisition.history] using h⟩
  | ok record =>
    obtain ⟨values', st, hst, hhistory, hsaved⟩ := history_load hnames hbrowser henv h
      (usable_generated call.draws) hload
    rcases hp : perform path (loadOrCreateLocalCredentials config call.role environ path
      (generateLocalCredentials call.draws)) state.1 with ⟨result, file'⟩
    rw [hp] at hload hhistory
    subst hload
    simp only [hst]
    cases st with
    | complete => exact ⟨values', by simpa using history_login hnames hhistory hsaved call.login⟩
    | pending =>
      obtain ⟨hfile, hflows, hsaved'⟩ := history_signup hnames hhistory hsaved call.signup call.login
      simp only [ne_eq, not_true_eq_false, if_false]
      exact history_complete hnames hbrowser (hfile.symm ▸ hflows) hsaved'

/-! ## Sequences of calls -/

/-- **Any sequence of calls keeps the history.** -/
theorem history_run (hnames : WellNamed browser) (hconfig : ensureExactLocalTarget config = .ok ())
    (hbrowser : config.auth.browser = some browser) (henv : NothingSupplied browser environ) :
    ∀ (calls : List (Call σ)) {values : Values} {state : CredentialFile × List Event},
      History path browser state.1 state.2 values →
      ∃ values', History path browser (calls.foldl (step config environ path) state).1
        (calls.foldl (step config environ path) state).2 values'
  | [], values, _, h => ⟨values, h⟩
  | call :: calls, _, _, h => by
    obtain ⟨values', h'⟩ := history_step hnames hconfig hbrowser henv h call
    exact history_run hnames hconfig hbrowser henv calls h'

/-- On a file the reader rejects nothing is attempted. -/
theorem run_unreadable (hconfig : ensureExactLocalTarget config = .ok ())
    (hbrowser : config.auth.browser = some browser) {e : LocalCredentialError}
    (h : readCredentialFile path file = .error e) :
    ∀ calls : List (Call σ), calls.foldl (step config environ path) (file, []) = (file, [])
  | [] => rfl
  | call :: calls => by
    have hlocal := environmentType_of_exactLocal hconfig
    have hstep : step config environ path (file, []) call = (file, []) := by
      unfold step acquireBrowserSession
      rw [hbrowser, if_neg (by rw [hlocal]; decide)]
      obtain ⟨e', he'⟩ := perform_unreadable (loadOrCreateLocalCredentials config call.role environ
        path (generateLocalCredentials call.draws)) h
      simp only [if_pos hlocal, he']
      rfl
    rw [List.foldl_cons, hstep, run_unreadable hconfig hbrowser h calls]

/-- What holds of the file and the events at the end of a sequence of calls. -/
structure SignupProtocol (path : Text) (browser : BrowserConfig) (file : CredentialFile)
    (events : List Event) : Prop where
  /-- All signups and logins of a role are given one pair. -/
  onePair : ∀ e ∈ events, ∀ e' ∈ events, e.role = e'.role → ∀ c c', e.credentials = some c →
    e'.credentials = some c' → c = c'
  /-- The file holds the pair as pending when a signup is called. -/
  savedFirst : ∀ role credentials before, .signup role credentials before ∈ events →
    ∃ values, readCredentialFile path before = .ok values ∧
      Holding values (roleVariables browser role) credentials .pending
  /-- No signup is attempted for a role after a call for it has returned a session. -/
  noSignupAfter : ∀ earlier later role credentials before,
    events = earlier ++ .signup role credentials before :: later → Event.session role ∉ earlier
  /-- The saved state is complete exactly when a call for the role has returned a session. -/
  complete : ∀ role, (∃ values, readCredentialFile path file = .ok values ∧
    values.get? (roleVariables browser role).state = some AccountState.complete.text) ↔
      Event.session role ∈ events

theorem History.protocol (h : History path browser file events values) :
    SignupProtocol path browser file events where
  onePair e he e' he' hrole c c' hc hc' := by
    rcases h.status e.role with hfree | ⟨credentials, state, hsaved⟩
    · exact absurd rfl (hfree.unseen e he)
    · rw [hsaved.attempts e he rfl c hc, hsaved.attempts e' he' hrole.symm c' hc']
  savedFirst role credentials before he := h.pending _ he role credentials before rfl
  noSignupAfter earlier later role credentials before heq hmem := by
    have hpairs := heq ▸ h.ordered
    exact (List.pairwise_append.mp hpairs).2.2 _ hmem _ List.mem_cons_self role credentials before
      rfl rfl
  complete role := by
    rcases h.status role with hfree | ⟨credentials, state, hsaved⟩
    · constructor
      · rintro ⟨values', hread, hstate⟩
        rw [h.read, Except.ok.injEq] at hread
        rw [← hread, hfree.free _ (by simp [RoleVariables.all])] at hstate
        cases hstate
      · exact fun hs => absurd rfl (hfree.unseen _ hs)
    · rw [← hsaved.session]
      constructor
      · rintro ⟨values', hread, hstate⟩
        rw [h.read, Except.ok.injEq] at hread
        rw [← hread, hsaved.holding.state, Option.some.injEq] at hstate
        revert hstate
        cases state <;> decide
      · rintro rfl
        exact ⟨values, h.read, hsaved.holding.state⟩

/-- **The signup protocol**, after every sequence of calls on a file without the roles'
variables. -/
theorem signup_protocol (hconfig : ensureExactLocalTarget config = .ok ())
    (hbrowser : config.auth.browser = some browser) (hnames : WellNamed browser)
    (henv : NothingSupplied browser environ) {start : CredentialFile}
    (hfree : ∀ values, readCredentialFile path start = .ok values →
      ∀ name ∈ slotVariables browser, values.get? name = none) (calls : List (Call σ)) :
    SignupProtocol path browser (run config environ path start calls).1
      (run config environ path start calls).2 := by
  cases hread : readCredentialFile path start with
  | error e =>
    rw [run, run_unreadable hconfig hbrowser hread calls]
    refine ⟨fun _ he => absurd he List.not_mem_nil, fun _ _ _ he => absurd he List.not_mem_nil,
      fun earlier later _ _ _ heq => absurd heq.symm (List.append_ne_nil_of_right_ne_nil _
        (List.cons_ne_nil _ _)), fun role => ⟨?_, fun hs => absurd hs List.not_mem_nil⟩⟩
    rintro ⟨values, hvalues, -⟩
    rw [hread] at hvalues
    exact nomatch hvalues
  | ok values =>
    have hstart : History path browser (start, ([] : List Event)).1 (start, []).2 values :=
      ⟨hread, fun role => Or.inl ⟨fun name hname => hfree values hread name (mem_slotVariables hname),
        fun _ he => absurd he List.not_mem_nil⟩, fun _ he => absurd he List.not_mem_nil,
        List.Pairwise.nil⟩
    obtain ⟨values', h⟩ := history_run hnames hconfig hbrowser henv calls hstart
    exact h.protocol

end

/-- The protocol over an interrupted signup and the login that recovers from it. -/
theorem signup_protocol_example :
    let draws : Draws := ⟨fun _ => 0, fun _ => ⟨0, by decide⟩⟩
    let calls : List (Call Unit) :=
      [⟨.primary, draws, .failure (lit "callback did not complete"), .session ()⟩,
        ⟨.primary, draws, .accountExists, .session ()⟩]
    SignupProtocol (lit ".env.local") localBrowser
      (run localConfig .empty (lit ".env.local") .absent calls).1
      (run localConfig .empty (lit ".env.local") .absent calls).2 := by
  intro draws calls
  refine signup_protocol (by decide) rfl ⟨by decide, by decide⟩ (fun _ => ⟨rfl, rfl⟩)
    (fun values hvalues name _ => ?_) calls
  cases hvalues
  rfl

end ApiTests.Auth
