import ApiTests.Auth.Ledger

/-!
# The protocol of all accounts

What the ledger says of the accounts, whoever owns them: a role, or a run and a scenario (`Owner`).

Results:
* `Ledger.saved`, `Ledger.owner_eq`, `Ledger.complete`: what the file saves for an owner, read off the
  ledger.
* `account_protocol`: **every account that a flow was called for is in the file with its pair, which no
  flow of its owner ever departs from and no flow of another owner is given; it was saved before its
  signups, and a completed one is never signed up again.**
-/

namespace ApiTests.Auth

open Py Credentials

/-- Whose account it is. -/
inductive Owner where
  | role (role : SessionRole)
  | target (pair : Text × Text)
  deriving DecidableEq

/-- The owner of the account an event is about. -/
def owner : Event ⊕ TargetEvent → Owner
  | .inl e => .role e.role
  | .inr e => .target e.pair

/-- The credentials a flow was given. -/
def given : Event ⊕ TargetEvent → Option BrowserLoginCredentials
  | .inl e => e.credentials
  | .inr e => e.credentials

/-- A signup for the owner, the file being what it is. -/
def signupEvent : Owner → BrowserLoginCredentials → CredentialFile → Event ⊕ TargetEvent
  | .role role, credentials, file => .inl (.signup role credentials file)
  | .target pair, credentials, file => .inr (.signup pair credentials file)

/-- A call for the owner returned. -/
def returnEvent : Owner → Event ⊕ TargetEvent
  | .role role => .inl (.session role)
  | .target pair => .inr (.target pair)

/-- The file saves the credentials of the owner, in a state. -/
def SavesPair (path : Text) (browser : BrowserConfig) (file : CredentialFile) (owner : Owner)
    (credentials : BrowserLoginCredentials) (state : AccountState) : Prop :=
  ∃ values, readCredentialFile path file = .ok values ∧
    match owner with
    | .role role => Holding values (roleVariables browser role) credentials state
    | .target pair => ∃ pre, disposableVariablePrefix pair.1 pair.2 = .ok pre ∧
        Retained values pre pair credentials state

/-- What holds of the accounts after any number of calls. -/
structure AccountProtocol (path : Text) (browser : BrowserConfig) (s : Accounts) : Prop where
  /-- The credentials of every flow are saved for its owner. -/
  saved : ∀ e ∈ s.events, ∀ c, given e = some c → ∃ state, SavesPair path browser s.file (owner e) c state
  /-- The flows of one owner are given one pair. -/
  onePair : ∀ e ∈ s.events, ∀ e' ∈ s.events, owner e = owner e' → ∀ c c', given e = some c →
    given e' = some c' → c = c'
  /-- The flows of two owners are given two usernames. -/
  unshared : ∀ e ∈ s.events, ∀ e' ∈ s.events, owner e ≠ owner e' → ∀ c c', given e = some c →
    given e' = some c' → c.username ≠ c'.username
  /-- The file saves the pair as pending when a signup is called. -/
  savedFirst : ∀ owner c before, signupEvent owner c before ∈ s.events →
    SavesPair path browser before owner c .pending
  /-- No signup is attempted for an owner after a call for it has returned. -/
  noSignupAfter : ∀ earlier later owner c before,
    s.events = earlier ++ signupEvent owner c before :: later → returnEvent owner ∉ earlier
  /-- The account is saved as complete exactly when a call for its owner has returned. -/
  complete : ∀ owner, (∃ c, SavesPair path browser s.file owner c .complete) ↔
    returnEvent owner ∈ s.events

section Protocol

variable {config : EnvironmentConfig} {browser : BrowserConfig} {environ : Environ} {path : Text}
  {s : Accounts} {values : Values}

theorem mem_sessions {e : Event} : e ∈ s.sessions ↔ .inl e ∈ s.events := by
  simp [Accounts.sessions]

theorem mem_targets {e : TargetEvent} : e ∈ s.targets ↔ .inr e ∈ s.events := by
  simp [Accounts.targets]

/-- The credentials of a flow are saved. -/
theorem Ledger.saved (h : Ledger path browser s values) {e : Event ⊕ TargetEvent} (he : e ∈ s.events)
    {c : BrowserLoginCredentials} (hc : given e = some c) :
    ∃ state, SavesPair path browser s.file (owner e) c state := by
  cases e with
  | inl e =>
    have he : e ∈ s.sessions := mem_sessions.mpr he
    rcases h.history.status e.role with hfree | ⟨credentials, state, hsaved⟩
    · exact absurd rfl (hfree.unseen e he)
    · rw [hsaved.attempts e he rfl c hc]
      exact ⟨state, values, h.history.read, hsaved.holding⟩
  | inr e =>
    obtain ⟨r, hr, hpair, hcredentials⟩ := h.targets.attempts e (mem_targets.mpr he)
    obtain ⟨-, pre, hpre, hheld⟩ := h.provenance.held r hr
    obtain ⟨state, hstate⟩ := hheld.state
    refine ⟨state, values, h.history.read, ?_⟩
    rw [hcredentials c hc]
    exact ⟨pre, hpair ▸ hpre, hpair ▸ retained_of_holds hheld hstate⟩

/-- The file saves one pair for an owner. -/
theorem savesPair_unique {file : CredentialFile} {o : Owner} {c c' : BrowserLoginCredentials}
    {state state' : AccountState} (h : SavesPair path browser file o c state)
    (h' : SavesPair path browser file o c' state') : c = c' := by
  obtain ⟨values, hread, h⟩ := h
  obtain ⟨values', hread', h'⟩ := h'
  obtain rfl : values = values' := Except.ok.inj (hread.symm.trans hread')
  have hpair : c.username = c'.username ∧ c.password = c'.password := by
    cases o with
    | role role =>
      exact ⟨Option.some.inj (h.username.symm.trans h'.username),
        Option.some.inj (h.password.symm.trans h'.password)⟩
    | target pair =>
      obtain ⟨pre, hpre, h⟩ := h
      obtain ⟨pre', hpre', h'⟩ := h'
      obtain rfl : pre = pre' := Except.ok.inj (hpre.symm.trans hpre')
      exact ⟨Option.some.inj (h.username.symm.trans h'.username),
        Option.some.inj (h.password.symm.trans h'.password)⟩
  cases c
  cases c'
  rw [BrowserLoginCredentials.mk.injEq]
  exact hpair

/-- Where an owner's username is saved. -/
theorem exists_usernameVariable {o : Owner} {c : BrowserLoginCredentials} {state : AccountState}
    (hread : readCredentialFile path s.file = .ok values)
    (h : SavesPair path browser s.file o c state) :
    ∃ name, UsernameVariable browser name ∧ values.get? name = some c.username ∧
      match o with
      | .role role => name = (roleVariables browser role).username
      | .target pair => ∃ pre, disposableVariablePrefix pair.1 pair.2 = .ok pre ∧
          name = pre ++ usernameSuffix ∧ Retained values pre pair c state := by
  obtain ⟨values', hread', h⟩ := h
  obtain rfl : values = values' := Except.ok.inj (hread.symm.trans hread')
  cases o with
  | role role => exact ⟨_, Or.inl ⟨role, rfl⟩, h.username, rfl⟩
  | target pair =>
    obtain ⟨pre, hpre, h⟩ := h
    have hrecord : RecordVariable usernameSuffix (pre ++ usernameSuffix) :=
      ⟨(isName_of_disposablePrefix hpre (mem_all.mpr ⟨_, by decide, rfl⟩)).2, List.suffix_append _ _⟩
    exact ⟨_, Or.inr hrecord, h.username, pre, hpre, rfl, h⟩

/-- **A username is saved for one owner.** -/
theorem Ledger.owner_eq (hnames : SlotNames browser) (h : Ledger path browser s values) {o o' : Owner}
    {c c' : BrowserLoginCredentials} {state state' : AccountState}
    (hs : SavesPair path browser s.file o c state) (hs' : SavesPair path browser s.file o' c' state')
    (hsame : c.username = c'.username) : o = o' := by
  obtain ⟨name, hname, hget, howner⟩ := exists_usernameVariable h.history.read hs
  obtain ⟨name', hname', hget', howner'⟩ := exists_usernameVariable h.history.read hs'
  obtain rfl : name = name' := h.distinct hname hname' hget hget' (by rw [hsame])
  have hnotRecord : ∀ role pair pre, disposableVariablePrefix (Prod.fst pair) (Prod.snd pair) = .ok pre →
      (roleVariables browser role).username ≠ pre ++ usernameSuffix := by
    intro role pair pre hpre hvariable
    have hmem : pre ++ usernameSuffix ∈ (disposableVariableNames pre).all :=
      mem_all.mpr ⟨_, by decide, rfl⟩
    exact hnames.notRecord _ (mem_slotVariables (username_mem (roleVariables browser role)))
      (hvariable ▸ (isName_of_disposablePrefix hpre hmem).2)
  cases o with
  | role role =>
    cases o' with
    | role role' =>
      have hmem := username_mem (roleVariables browser role')
      rw [← howner', howner] at hmem
      rw [hnames.role_eq (username_mem _) hmem]
    | target pair =>
      obtain ⟨pre, hpre, hvariable, -⟩ := howner'
      exact absurd (howner.symm.trans hvariable) (hnotRecord role pair pre hpre)
  | target pair =>
    obtain ⟨pre, hpre, hvariable, hretained⟩ := howner
    cases o' with
    | role role' => exact absurd (howner'.symm.trans hvariable) (hnotRecord role' pair pre hpre)
    | target pair' =>
      obtain ⟨pre', hpre', hvariable', hretained'⟩ := howner'
      obtain rfl := List.append_cancel_right (hvariable.symm.trans hvariable')
      exact congrArg Owner.target (Prod.ext
        (Option.some.inj (hretained.runId.symm.trans hretained'.runId))
        (Option.some.inj (hretained.scenarioId.symm.trans hretained'.scenarioId)))

/-- A signup was called on a file that saves its pair as pending. -/
theorem Ledger.savedFirst (h : Ledger path browser s values) {o : Owner} {c : BrowserLoginCredentials}
    {before : CredentialFile} (he : signupEvent o c before ∈ s.events) :
    SavesPair path browser before o c .pending := by
  cases o with
  | role role => exact h.history.pending _ (mem_sessions.mpr he) role c before rfl
  | target pair =>
    obtain ⟨values', pre, hread, hpre, hretained⟩ :=
      h.targets.pending _ (mem_targets.mpr he) pair c before rfl
    exact ⟨values', hread, pre, hpre, hretained⟩

/-- No signup comes behind a return. -/
theorem Ledger.noSignupAfter (h : Ledger path browser s values)
    {earlier later : List (Event ⊕ TargetEvent)} {o : Owner} {c : BrowserLoginCredentials}
    {before : CredentialFile} (heq : s.events = earlier ++ signupEvent o c before :: later) :
    returnEvent o ∉ earlier := by
  intro hmem
  cases o with
  | role role =>
    have hordered := h.history.ordered
    rw [Accounts.sessions, heq, List.filterMap_append] at hordered
    refine (List.pairwise_append.mp hordered).2.2 (.session role)
      (List.mem_filterMap.mpr ⟨_, hmem, rfl⟩) (.signup role c before)
      (List.mem_filterMap.mpr ⟨_, List.mem_cons_self, rfl⟩) role c before rfl rfl
  | target pair =>
    have hordered := h.targets.ordered
    rw [Accounts.targets, heq, List.filterMap_append] at hordered
    refine (List.pairwise_append.mp hordered).2.2 (.target pair)
      (List.mem_filterMap.mpr ⟨_, hmem, rfl⟩) (.signup pair c before)
      (List.mem_filterMap.mpr ⟨_, List.mem_cons_self, rfl⟩) pair c before rfl rfl

/-- The accounts saved as complete are those that were returned. -/
theorem Ledger.complete (h : Ledger path browser s values) (o : Owner) :
    (∃ c, SavesPair path browser s.file o c .complete) ↔ returnEvent o ∈ s.events := by
  cases o with
  | role role =>
    rw [show returnEvent (.role role) ∈ s.events ↔ .session role ∈ s.sessions from mem_sessions.symm,
      ← (h.history.protocol).complete role]
    constructor
    · rintro ⟨c, values', hread, hholding⟩
      exact ⟨values', hread, hholding.state⟩
    · intro hstate
      rw [(h.history.protocol).complete role] at hstate
      rcases h.history.status role with hfree | ⟨credentials, state, hsaved⟩
      · exact absurd rfl (hfree.unseen _ hstate)
      · obtain rfl := hsaved.session.mpr hstate
        exact ⟨credentials, values, h.history.read, hsaved.holding⟩
  | target pair =>
    rw [show returnEvent (.target pair) ∈ s.events ↔ .target pair ∈ s.targets from mem_targets.symm]
    constructor
    · rintro ⟨c, values', hread, pre, hpre, hretained⟩
      obtain rfl : values = values' := Except.ok.inj (h.history.read.symm.trans hread)
      have hmem : pre ++ lit "_RUN_ID" ∈ (disposableVariableNames pre).all := List.mem_cons_self
      obtain ⟨r, hr, pre', hpre', hmem'⟩ := h.provenance.owned _
        (isName_of_disposablePrefix hpre hmem).2 (by rw [hretained.runId]; exact Option.some_ne_none _)
      obtain ⟨s', hs', hsame⟩ := mem_all.mp hmem'
      obtain ⟨rfl, -⟩ := name_injective hs' (by decide) hsame
      obtain ⟨-, hheld⟩ := h.provenance.held_at hr hpre'
      have hpair : recordPair r = pair := Prod.ext
        (Option.some.inj (hheld.runId.symm.trans hretained.runId))
        (Option.some.inj (hheld.scenarioId.symm.trans hretained.scenarioId))
      rw [← hpair]
      exact (h.targets.completed r hr pre' hpre').mp hretained.state
    · intro hmem
      obtain ⟨r, hr, hpair, -⟩ := h.targets.attempts _ hmem
      obtain rfl : pair = recordPair r := hpair
      obtain ⟨-, pre, hpre, hheld⟩ := h.provenance.held r hr
      exact ⟨r.credentials, values, h.history.read, pre, hpre,
        retained_of_holds hheld ((h.targets.completed r hr pre hpre).mpr hmem)⟩

theorem Ledger.protocol (hnames : SlotNames browser) (h : Ledger path browser s values) :
    AccountProtocol path browser s where
  saved _ he _ hc := h.saved he hc
  onePair e he e' he' howner c c' hc hc' := by
    obtain ⟨state, hs⟩ := h.saved he hc
    obtain ⟨state', hs'⟩ := h.saved he' hc'
    exact savesPair_unique hs (howner ▸ hs')
  unshared e he e' he' howner c c' hc hc' := by
    obtain ⟨state, hs⟩ := h.saved he hc
    obtain ⟨state', hs'⟩ := h.saved he' hc'
    exact fun hsame => howner (h.owner_eq hnames hs hs' hsame)
  savedFirst _ _ _ he := h.savedFirst he
  noSignupAfter _ _ _ _ _ heq := h.noSignupAfter heq
  complete := h.complete

/-- **The account protocol**, after every sequence of calls on a file without the variables of a role
or of a record. -/
theorem account_protocol (σ : Type) (hconfig : ensureExactLocalTarget config = .ok ())
    (hbrowser : config.auth.browser = some browser) (hnames : SlotNames browser)
    (henv : NothingSupplied browser environ) {start : CredentialFile} {values₀ : Values}
    (hstart : readCredentialFile path start = .ok values₀)
    (hslots : ∀ name ∈ slotVariables browser, values₀.get? name = none)
    (hrecords : ∀ e ∈ values₀.entries, ¬ disposableRecordPrefix <+: e.1) {s : Accounts}
    (hrun : Relation.ReflTransGen (Accounts.Step σ config environ path) ⟨start, [], []⟩ s) :
    AccountProtocol path browser s := by
  have hledger : Ledger path browser ⟨start, [], []⟩ values₀ := by
    refine ⟨⟨hstart, fun role => Or.inl ⟨fun name hname => hslots name (mem_slotVariables hname),
        fun _ he => absurd he List.not_mem_nil⟩, fun _ he => absurd he List.not_mem_nil,
        List.Pairwise.nil⟩, provenance_start hrecords, fun k _ v _ hk _ hv => ?_,
      ⟨fun _ he => absurd he List.not_mem_nil, fun _ hr => absurd hr List.not_mem_nil,
        fun _ he => absurd he List.not_mem_nil, List.Pairwise.nil⟩⟩
    rcases hk with ⟨role, rfl⟩ | hrecord
    · rw [hslots _ (mem_slotVariables (username_mem _))] at hv
      cases hv
    · exact absurd hrecord.1 (hrecords (k, v) (Dict.mem_entries_iff.mpr hv))
  obtain ⟨values, h⟩ := ledger_of_reaches hnames hconfig hbrowser henv hledger hrun
  exact h.protocol hnames

end Protocol

/-- The record of a target that is complete. -/
def deactivatedRecord : DisposableCredentialRecord where
  runId := lit "run-1"
  scenarioId := lit "deactivate"
  credentials := generateLocalCredentials (sameDraws (Fin.last 255))
  state := .complete
  subject := none
  userId := none

/-- A target whose account exists already, a role that is signed up, and the binding of the target. -/
def accountCalls : List (AccountCall Unit) := [
  .target (lit "run-1") (lit "deactivate") (sameDraws (Fin.last 255)) .accountExists (.session ()),
  .session ⟨.primary, zeroDraws, .session (), .session ()⟩,
  .bind deactivatedRecord (lit "run-1") (lit "deactivate") (lit "auth0|1") (lit "u-1") ∅ ∅]

/-- The accounts after the first `n` of the calls. -/
def accountsAfter (n : Nat) : Accounts :=
  (accountCalls.take n).foldl (Accounts.after localConfig .empty (lit ".env.local")) ⟨.absent, [], []⟩

theorem step_accountsAfter {n : Nat} {call : AccountCall Unit} (hcall : accountCalls[n]? = some call)
    (hadm : (accountsAfter n).Admissible (lit ".env.local") call) :
    Accounts.Step Unit localConfig .empty (lit ".env.local") (accountsAfter n) (accountsAfter (n + 1)) := by
  refine ⟨call, hadm, ?_⟩
  rw [accountsAfter, List.take_add_one, hcall, List.foldl_append]
  rfl

theorem reaches_accountsAfter : Relation.ReflTransGen
    (Accounts.Step Unit localConfig .empty (lit ".env.local")) (accountsAfter 0)
    (accountsAfter 3) := by
  have hunused : ∀ values ∈ (readCredentialFile (lit ".env.local") (accountsAfter 1).file).toOption,
      ∀ e ∈ values.entries, strip e.2 ≠ (generateLocalCredentials zeroDraws).username := by
    decide +kernel
  have hreturned : deactivatedRecord ∈ (accountsAfter 2).returned := by decide +kernel
  have htarget := @step_accountsAfter 0 _ rfl ⟨by decide, by decide⟩
  have hrole := @step_accountsAfter 1 _ rfl (fun values hvalues name value _ hget =>
    hunused values (by rw [hvalues]; rfl) (name, value) (Dict.mem_entries_iff.mpr hget))
  have hbind := @step_accountsAfter 2 _ rfl ⟨hreturned, by decide, by decide⟩
  exact ((Relation.ReflTransGen.single htarget).tail hrole).tail hbind

theorem account_protocol_example : AccountProtocol (lit ".env.local") localBrowser (accountsAfter 3) := by
  have hread : readCredentialFile (lit ".env.local") .absent = .ok .empty := rfl
  exact account_protocol Unit (by decide) rfl slotNames_local (fun _ => ⟨rfl, rfl⟩) hread
    (fun _ _ => rfl) (fun e he => absurd he List.not_mem_nil) reaches_accountsAfter

end ApiTests.Auth
