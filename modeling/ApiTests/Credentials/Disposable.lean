import ApiTests.Credentials.Local
import ApiTests.Py.Re
import Mathlib.Data.Finset.Basic

/-!
# The disposable deactivation records

Model of the operations on disposable records (`local_credentials.py:51-244`, `437-533`):
`load_or_create_disposable_credentials`, `mark_disposable_credentials_complete`,
`bind_disposable_identity`, `require_owned_disposable_identity` and what they call. `os.environ` is
an argument, the generator is the value it would return.

Results:
* `name_injective`: the seven variables of two prefixes never meet.
* `isName_of_disposablePrefix`: every variable is an ASCII identifier with the record prefix.
* `loadOrCreateDisposable_plan`, `markDisposable_plan`, `bindDisposable_plan`: everything a
  successful call has checked and does.
-/

namespace ApiTests.Credentials

open Py

/-- `DisposableCredentialRecord`. -/
structure DisposableCredentialRecord where
  runId : Text
  scenarioId : Text
  credentials : BrowserLoginCredentials
  state : AccountState
  subject : Option Text
  userId : Option Text
  deriving Repr, DecidableEq

/-! ## The variables of a record -/

/-- `DISPOSABLE_RECORD_PREFIX`. -/
def disposableRecordPrefix : Text := lit "BA_ADMIN_DEACTIVATION_"

/-- `[A-Za-z0-9]`. -/
def isAlnum (c : Nat) : Bool :=
  (0x41 ≤ c && c ≤ 0x5A) || (0x61 ≤ c && c ≤ 0x7A) || (0x30 ≤ c && c ≤ 0x39)

/-- `t.strip("_")`. -/
def stripUnderscores (t : Text) : Text :=
  (t.dropWhile fun c => c == 0x5F).rdropWhile fun c => c == 0x5F

/-- `t.upper()` of a text of ASCII letters, digits and underscores. -/
def upper (t : Text) : Text := t.map fun c => if 0x61 ≤ c ∧ c ≤ 0x7A then c - 0x20 else c

/-- `re.sub(r"[^A-Za-z0-9]+", "_", f"{run_id}_{scenario_id}").strip("_").upper()`. -/
def recordToken (runId scenarioId : Text) : Text :=
  upper (stripUnderscores (Re.sub (.rep 1 fun c => !isAlnum c) (fun _ => lit "_")
    (runId ++ lit "_" ++ scenarioId)))

/-- `_disposable_variable_prefix`. -/
def disposableVariablePrefix (runId scenarioId : Text) : Checked Text := do
  raiseIf (runId = [] ∨ scenarioId = [])
    (lit "disposable provenance requires non-empty run and scenario ids")
  raiseIf (recordToken runId scenarioId = [])
    (lit "disposable provenance did not produce a safe record name")
  return disposableRecordPrefix ++ recordToken runId scenarioId

/-- `_DisposableVariableNames`. -/
structure DisposableVariableNames where
  runId : Text
  scenarioId : Text
  username : Text
  password : Text
  state : Text
  subject : Text
  userId : Text
  deriving Repr, DecidableEq

def usernameSuffix : Text := lit "_USERNAME"

def subjectSuffix : Text := lit "_IDP_SUBJECT"

def userIdSuffix : Text := lit "_USER_ID"

/-- `_disposable_variable_names`. -/
def disposableVariableNames (pre : Text) : DisposableVariableNames where
  runId := pre ++ lit "_RUN_ID"
  scenarioId := pre ++ lit "_SCENARIO_ID"
  username := pre ++ usernameSuffix
  password := pre ++ lit "_PASSWORD"
  state := pre ++ lit "_ACCOUNT_STATE"
  subject := pre ++ subjectSuffix
  userId := pre ++ userIdSuffix

/-- The seven variables. -/
def DisposableVariableNames.all (names : DisposableVariableNames) : List Text :=
  [names.runId, names.scenarioId, names.username, names.password, names.state, names.subject,
    names.userId]

/-- The seven suffixes. -/
def suffixes : List Text :=
  [lit "_RUN_ID", lit "_SCENARIO_ID", usernameSuffix, lit "_PASSWORD", lit "_ACCOUNT_STATE",
    subjectSuffix, userIdSuffix]

theorem all_disposableVariableNames (pre : Text) :
    (disposableVariableNames pre).all = suffixes.map (pre ++ ·) := rfl

/-- No suffix ends in another one. -/
theorem suffix_eq : ∀ s ∈ suffixes, ∀ s' ∈ suffixes, s <:+ s' → s = s' := by decide

/-- **The variables of two prefixes never meet**, and neither do two variables of one. -/
theorem name_injective {pre pre' s s' : Text} (hs : s ∈ suffixes) (hs' : s' ∈ suffixes)
    (h : pre ++ s = pre' ++ s') : pre = pre' ∧ s = s' := by
  have hss : s = s' := by
    rcases Nat.le_total s.length s'.length with hle | hle
    · exact suffix_eq s hs s' hs' (List.suffix_of_suffix_length_le ⟨pre, h⟩ ⟨pre', rfl⟩ hle)
    · exact (suffix_eq s' hs' s hs (List.suffix_of_suffix_length_le ⟨pre', h.symm⟩ ⟨pre, rfl⟩
        hle)).symm
  subst hss
  exact ⟨List.append_cancel_right h, rfl⟩

theorem nodup_all (pre : Text) : (disposableVariableNames pre).all.Nodup := by
  rw [all_disposableVariableNames]
  exact List.Nodup.map (List.append_right_injective pre) (by decide)

/-- The substitution leaves letters, digits and underscores. -/
theorem mem_sub_alnum {t : Text} {c : Nat}
    (hc : c ∈ Re.sub (.rep 1 fun c => !isAlnum c) (fun _ => lit "_") t) :
    isAlnum c = true ∨ c = 0x5F := by
  obtain ⟨p, hp, hc⟩ := List.mem_flatMap.mp hc
  have hpiece : ∀ c ∈ Re.Piece.render (fun _ => lit "_") p, isAlnum c = true ∨ c = 0x5F := by
    refine Re.forall_mem_piecesFrom (P := fun p => ∀ c ∈ Re.Piece.render (fun _ => lit "_") p,
      isAlnum c = true ∨ c = 0x5F) (Re.consumes_rep Nat.one_ne_zero) ?_ ?_ t.length [] t le_rfl p hp
    · intro behind c cs hnone d hd
      rw [Re.Piece.render, List.mem_singleton] at hd
      subst hd
      by_contra hd
      rw [not_or, Bool.not_eq_true] at hd
      exact Re.first_eq_none_iff.mp hnone _ (Re.mem_run_rep.mpr
        ⟨[d], cs, rfl, by simpa using hd.1, le_rfl, rfl⟩)
    · intro _ _ _ _ _ _ d hd
      exact Or.inr (List.mem_singleton.mp hd)
  exact hpiece c hc

theorem isNameChar_recordToken {runId scenarioId : Text} {c : Nat}
    (hc : c ∈ recordToken runId scenarioId) : isNameChar c = true := by
  obtain ⟨d, hd, rfl⟩ := List.mem_map.mp hc
  have hd : d ∈ Re.sub (.rep 1 fun c => !isAlnum c) (fun _ => lit "_")
      (runId ++ lit "_" ++ scenarioId) :=
    List.dropWhile_subset _ ((List.rdropWhile_prefix _ _).subset hd)
  rcases mem_sub_alnum hd with hd | rfl
  · unfold isAlnum at hd
    unfold isNameChar isNameStart
    simp only [Bool.or_eq_true, Bool.and_eq_true, decide_eq_true_eq, beq_iff_eq] at hd ⊢
    split_ifs <;> omega
  · decide

theorem disposableVariablePrefix_eq_ok {runId scenarioId pre : Text} :
    disposableVariablePrefix runId scenarioId = .ok pre ↔
      runId ≠ [] ∧ scenarioId ≠ [] ∧ recordToken runId scenarioId ≠ [] ∧
        pre = disposableRecordPrefix ++ recordToken runId scenarioId := by
  simp only [disposableVariablePrefix, bind_eq_ok, raiseIf_eq_ok, not_or]
  constructor
  · rintro ⟨_, ⟨hr, hs⟩, _, ht, hpre⟩
    cases hpre
    exact ⟨hr, hs, ht, rfl⟩
  · rintro ⟨hr, hs, ht, rfl⟩
    exact ⟨(), ⟨hr, hs⟩, (), ht, rfl⟩

/-- **Every variable of a record is an ASCII identifier with the record prefix.** -/
theorem isName_of_disposablePrefix {runId scenarioId pre name : Text}
    (h : disposableVariablePrefix runId scenarioId = .ok pre)
    (hname : name ∈ (disposableVariableNames pre).all) :
    IsName name ∧ disposableRecordPrefix <+: name := by
  obtain ⟨-, -, -, rfl⟩ := disposableVariablePrefix_eq_ok.mp h
  rw [all_disposableVariableNames, List.mem_map] at hname
  obtain ⟨s, hs, rfl⟩ := hname
  have hsuffix : ∀ s ∈ suffixes, ∀ c ∈ s, isNameChar c = true := by decide
  have hprefix : ∀ c ∈ disposableRecordPrefix, isNameChar c = true := by decide
  refine ⟨⟨?_, fun c hc => ?_⟩, ?_⟩
  · rfl
  · rcases List.mem_append.mp hc with hc | hc
    · rcases List.mem_append.mp hc with hc | hc
      · exact hprefix c hc
      · exact isNameChar_recordToken hc
    · exact hsuffix s hs c hc
  · rw [List.append_assoc]
    exact List.prefix_append _ _

/-! ## The checks -/

/-- `name.startswith(DISPOSABLE_RECORD_PREFIX) and name.endswith(suffix)`. -/
def RecordVariable (suffix name : Text) : Prop := disposableRecordPrefix <+: name ∧ suffix <:+ name

instance (suffix name : Text) : Decidable (RecordVariable suffix name) :=
  inferInstanceAs (Decidable (_ ∧ _))

/-- An entry other than `own` of a record variable with the suffix, saving the value. -/
def HeldElsewhere (suffix own value : Text) (e : Text × Text) : Prop :=
  RecordVariable suffix e.1 ∧ e.1 ≠ own ∧ strip e.2 = value

instance (suffix own value : Text) (e : Text × Text) : Decidable (HeldElsewhere suffix own value e) :=
  inferInstanceAs (Decidable (_ ∧ _ ∧ _))

/-- `_ensure_disposable_username_is_distinct`. -/
def ensureDisposableUsernameIsDistinct (config : EnvironmentConfig) (environ : Environ)
    (username pre : Text) (values : Values) : Checked Unit := do
  forEach (fun role => do
      let names ← variableNames config role
      raiseIf (resolvedUsername environ values names = some username)
        (lit "disposable username resolves to a reusable credential slot"))
    roles
  forEach (fun e =>
      raiseIf (HeldElsewhere usernameSuffix (disposableVariableNames pre).username username e)
        (lit "disposable username is already retained by another execution record"))
    values.entries

/-- **What the comparison checks**: no role resolves to the username and no other record saves
it. -/
theorem ensureDisposableUsernameIsDistinct_eq_ok {config : EnvironmentConfig} {environ : Environ}
    {username pre : Text} {values : Values} :
    ensureDisposableUsernameIsDistinct config environ username pre values = .ok () ↔
      (∀ role, ∃ names, variableNames config role = .ok names ∧
        resolvedUsername environ values names ≠ some username) ∧
      ∀ e ∈ values.entries,
        ¬ HeldElsewhere usernameSuffix (disposableVariableNames pre).username username e := by
  simp only [ensureDisposableUsernameIsDistinct, bind_eq_ok, forEach_eq_ok, raiseIf_eq_ok,
    exists_const]
  exact and_congr_left fun _ => ⟨fun h role => h role (mem_roles role), fun h role _ => h role⟩

/-- The values `_require_saved_disposable_record` expects. -/
def expected (names : DisposableVariableNames) (record : DisposableCredentialRecord) :
    List (Text × Text) :=
  [(names.runId, record.runId), (names.scenarioId, record.scenarioId),
    (names.username, record.credentials.username), (names.password, record.credentials.password),
    (names.state, record.state.text)]

/-- `_require_saved_disposable_record`. -/
def requireSavedDisposableRecord (values : Values) (names : DisposableVariableNames)
    (record : DisposableCredentialRecord) (path : Text) : Checked Unit :=
  raiseIf (∃ e ∈ (Dict.ofList (expected names record)).entries, saved values e.1 ≠ e.2)
    (path ++ lit (" changed while provisioning the disposable account; retained credentials " ++
      "and provenance were not replaced"))

theorem requireSavedDisposableRecord_eq_ok {values : Values} {pre path : Text}
    {record : DisposableCredentialRecord} :
    requireSavedDisposableRecord values (disposableVariableNames pre) record path = .ok () ↔
      ∀ e ∈ expected (disposableVariableNames pre) record, saved values e.1 = e.2 := by
  have hnodup : ((expected (disposableVariableNames pre) record).map Prod.fst).Nodup :=
    (nodup_all pre).sublist ((List.prefix_append _ [_, _]).sublist)
  simp [requireSavedDisposableRecord, Dict.entries_ofList hnodup]

/-- `_require_current_disposable_provenance`. -/
def requireCurrentDisposableProvenance (record : DisposableCredentialRecord)
    (currentRunId currentScenarioId : Text) : Checked Unit :=
  raiseIf (record.runId ≠ currentRunId ∨ record.scenarioId ≠ currentScenarioId)
    (lit "disposable target provenance does not belong to the current run and scenario")

/-! ## The operations -/

/-- `value or None`. -/
def orNone (value : Text) : Option Text := if value = [] then none else some value

/-- `load_or_create_disposable_credentials`. -/
def loadOrCreateDisposableCredentials (config : EnvironmentConfig) (environ : Environ)
    (runId scenarioId path : Text) (generator : BrowserLoginCredentials) :
    Checked (Body DisposableCredentialRecord) := do
  ensureExactLocalTarget config
  let pre ← disposableVariablePrefix runId scenarioId
  let names := disposableVariableNames pre
  return fun values => do
    let storedUsername := saved values names.username
    let storedPassword := saved values names.password
    let storedSubject := saved values names.subject
    let storedUserId := saved values names.userId
    if ∃ name ∈ names.all, saved values name ≠ [] then
      raiseIf (saved values names.runId = [] ∨ saved values names.scenarioId = [] ∨
          storedUsername = [] ∨ storedPassword = [])
        (path ++ lit (" contains an incomplete disposable deactivation record; " ++
          "preserve it for diagnosis and restore its matching fields"))
      raiseIf (saved values names.runId ≠ runId ∨ saved values names.scenarioId ≠ scenarioId)
        (path ++ lit (" disposable deactivation provenance does not match the " ++
          "current run and scenario"))
      match AccountState.ofText (saved values names.state) with
      | none => raise (path ++ lit " has invalid disposable account state in " ++ names.state)
      | some state =>
        raiseIf (¬ (storedSubject = [] ↔ storedUserId = []))
          (path ++ lit " contains a partial disposable identity binding")
        raiseIf (storedSubject ≠ [] ∧ state ≠ .complete)
          (path ++ lit " binds an identity to an incomplete disposable account")
        ensureDisposableUsernameIsDistinct config environ storedUsername pre values
        return .done ⟨runId, scenarioId, ⟨storedUsername, storedPassword⟩, state,
          orNone storedSubject, orNone storedUserId⟩
    else
      ensureDisposableUsernameIsDistinct config environ generator.username pre values
      return .write
        (.ofList [(names.runId, runId), (names.scenarioId, scenarioId),
          (names.username, generator.username), (names.password, generator.password),
          (names.state, AccountState.pending.text)])
        ⟨runId, scenarioId, generator, .pending, none, none⟩

/-- `mark_disposable_credentials_complete`. -/
def markDisposableCredentialsComplete (config : EnvironmentConfig)
    (record : DisposableCredentialRecord) (path : Text) :
    Checked (Body DisposableCredentialRecord) := do
  ensureExactLocalTarget config
  let pre ← disposableVariablePrefix record.runId record.scenarioId
  let names := disposableVariableNames pre
  return fun values => do
    requireSavedDisposableRecord values names record path
    return .write (.single names.state AccountState.complete.text)
      { record with state := .complete }

/-- `bind_disposable_identity`. -/
def bindDisposableIdentity (config : EnvironmentConfig) (record : DisposableCredentialRecord)
    (currentRunId currentScenarioId subject userId : Text)
    (reusableSubjects reusableUserIds : Finset Text) (path : Text) :
    Checked (Body DisposableCredentialRecord) := do
  ensureExactLocalTarget config
  requireCurrentDisposableProvenance record currentRunId currentScenarioId
  raiseIf (record.state ≠ .complete)
    (lit "disposable target must complete signup before identity binding")
  raiseIf (subject = [] ∨ userId = [])
    (lit "disposable identity binding requires subject and user id")
  raiseIf (subject ∈ reusableSubjects ∨ userId ∈ reusableUserIds)
    (lit "refusing to bind a reusable identity as a disposable target")
  let pre ← disposableVariablePrefix record.runId record.scenarioId
  let names := disposableVariableNames pre
  return fun values => do
    requireSavedDisposableRecord values names record path
    forEach (fun e => do
        raiseIf (HeldElsewhere subjectSuffix names.subject subject e)
          (lit "disposable public subject is already bound to another execution record")
        raiseIf (HeldElsewhere userIdSuffix names.userId userId e)
          (lit "disposable canonical user id is already bound to another execution record"))
      values.entries
    -- The binding the caller's record carries, not the saved one.
    raiseIf (record.subject ≠ none ∧ record.subject ≠ some subject)
      (lit "disposable public subject changed after identity binding")
    raiseIf (record.userId ≠ none ∧ record.userId ≠ some userId)
      (lit "disposable canonical user id changed after identity binding")
    return .write (.ofList [(names.subject, subject), (names.userId, userId)])
      { record with state := .complete, subject := some subject, userId := some userId }

/-- `require_owned_disposable_identity`. -/
def requireOwnedDisposableIdentity (record : DisposableCredentialRecord)
    (currentRunId currentScenarioId subject userId : Text)
    (reusableSubjects reusableUserIds : Finset Text) : Checked Unit := do
  requireCurrentDisposableProvenance record currentRunId currentScenarioId
  raiseIf (record.state ≠ .complete ∨ record.subject = none ∨ record.userId = none)
    (lit "disposable target lacks a completed identity binding")
  raiseIf (record.subject ≠ some subject ∨ record.userId ≠ some userId)
    (lit "disposable target identity does not match saved provenance")
  raiseIf (subject ∈ reusableSubjects ∨ userId ∈ reusableUserIds)
    (lit "refusing to treat a reusable identity as disposable")

/-! ## What a successful call has checked and does -/

/-- What `load_or_create_disposable_credentials` does about the record with the variables `names`,
by what the file holds of it. -/
inductive DisposableLoad (names : DisposableVariableNames) (runId scenarioId : Text)
    (generator : BrowserLoginCredentials) (values : Values) :
    Plan DisposableCredentialRecord → Prop
  /-- The file holds the record of this pair. -/
  | stored {state : AccountState} (hrun : saved values names.runId = runId)
      (hscenario : saved values names.scenarioId = scenarioId)
      (hu : saved values names.username ≠ []) (hp : saved values names.password ≠ [])
      (hstate : saved values names.state = state.text)
      (hbinding : saved values names.subject = [] ↔ saved values names.userId = [])
      (hcomplete : saved values names.subject ≠ [] → state = .complete) :
      DisposableLoad names runId scenarioId generator values
        (.done ⟨runId, scenarioId, ⟨saved values names.username, saved values names.password⟩, state,
          orNone (saved values names.subject), orNone (saved values names.userId)⟩)
  /-- The file holds nothing under the variables. -/
  | fresh (h : ∀ name ∈ names.all, saved values name = []) :
      DisposableLoad names runId scenarioId generator values
        (.write (.ofList [(names.runId, runId), (names.scenarioId, scenarioId),
            (names.username, generator.username), (names.password, generator.password),
            (names.state, AccountState.pending.text)])
          ⟨runId, scenarioId, generator, .pending, none, none⟩)

/-- **What a call of `load_or_create_disposable_credentials` checks and does.** -/
theorem loadOrCreateDisposable_plan {config : EnvironmentConfig} {environ : Environ}
    {runId scenarioId path : Text} {generator : BrowserLoginCredentials}
    {body : Body DisposableCredentialRecord} {values : Values}
    {plan : Plan DisposableCredentialRecord}
    (hop : loadOrCreateDisposableCredentials config environ runId scenarioId path generator =
      .ok body) (hplan : body values = .ok plan) :
    ∃ pre, disposableVariablePrefix runId scenarioId = .ok pre ∧
      DisposableLoad (disposableVariableNames pre) runId scenarioId generator values plan ∧
      ensureDisposableUsernameIsDistinct config environ plan.result.credentials.username pre values =
        .ok () := by
  simp only [loadOrCreateDisposableCredentials, bind_eq_ok] at hop
  obtain ⟨-, -, pre, hpre, hbody⟩ := hop
  cases hbody
  refine ⟨pre, hpre, ?_⟩
  by_cases hany : ∃ name ∈ (disposableVariableNames pre).all, saved values name ≠ []
  · simp only [if_pos hany, bind_eq_ok, raiseIf_eq_ok, not_or, not_not] at hplan
    obtain ⟨_, ⟨-, -, hu, hp⟩, _, ⟨hrun, hscenario⟩, hplan⟩ := hplan
    cases hstate : AccountState.ofText (saved values (disposableVariableNames pre).state) with
    | none =>
      rw [hstate] at hplan
      exact absurd hplan raise_ne_ok
    | some state =>
      simp only [hstate, bind_eq_ok, raiseIf_eq_ok, not_and, not_not] at hplan
      obtain ⟨_, hbinding, _, hcomplete, _, hdistinct, hplan⟩ := hplan
      cases hplan
      exact ⟨.stored hrun hscenario hu hp (AccountState.ofText_eq_some_iff.mp hstate) hbinding
        hcomplete, hdistinct⟩
  · simp only [if_neg hany, bind_eq_ok] at hplan
    obtain ⟨_, hdistinct, hplan⟩ := hplan
    cases hplan
    exact ⟨.fresh fun name hname => by_contra fun h => hany ⟨name, hname, h⟩, hdistinct⟩

/-- **What a call of `mark_disposable_credentials_complete` checks and does.** -/
theorem markDisposable_plan {config : EnvironmentConfig} {record : DisposableCredentialRecord}
    {path : Text} {body : Body DisposableCredentialRecord} {values : Values}
    {plan : Plan DisposableCredentialRecord}
    (hop : markDisposableCredentialsComplete config record path = .ok body)
    (hplan : body values = .ok plan) :
    ∃ pre, disposableVariablePrefix record.runId record.scenarioId = .ok pre ∧
      (∀ e ∈ expected (disposableVariableNames pre) record, saved values e.1 = e.2) ∧
      plan = .write (.single (disposableVariableNames pre).state AccountState.complete.text)
        { record with state := .complete } := by
  simp only [markDisposableCredentialsComplete, bind_eq_ok] at hop
  obtain ⟨-, -, pre, hpre, hbody⟩ := hop
  cases hbody
  obtain ⟨_, hsaved, hplan⟩ := bind_eq_ok.mp hplan
  cases hplan
  exact ⟨pre, hpre, requireSavedDisposableRecord_eq_ok.mp hsaved, rfl⟩

/-- What a successful `bind_disposable_identity` has checked of the variables it read. -/
structure BindChecks (names : DisposableVariableNames) (record : DisposableCredentialRecord)
    (subject userId : Text) (values : Values) : Prop where
  complete : record.state = .complete
  subject_ne : subject ≠ []
  userId_ne : userId ≠ []
  expected : ∀ e ∈ expected names record, saved values e.1 = e.2
  subject_elsewhere : ∀ e ∈ values.entries, ¬ HeldElsewhere subjectSuffix names.subject subject e
  userId_elsewhere : ∀ e ∈ values.entries, ¬ HeldElsewhere userIdSuffix names.userId userId e
  subject_same : record.subject ≠ none → record.subject = some subject
  userId_same : record.userId ≠ none → record.userId = some userId

/-- **What a call of `bind_disposable_identity` checks and does.** -/
theorem bindDisposable_plan {config : EnvironmentConfig} {record : DisposableCredentialRecord}
    {currentRunId currentScenarioId subject userId : Text}
    {reusableSubjects reusableUserIds : Finset Text} {path : Text}
    {body : Body DisposableCredentialRecord} {values : Values}
    {plan : Plan DisposableCredentialRecord}
    (hop : bindDisposableIdentity config record currentRunId currentScenarioId subject userId
      reusableSubjects reusableUserIds path = .ok body) (hplan : body values = .ok plan) :
    ∃ pre, disposableVariablePrefix record.runId record.scenarioId = .ok pre ∧
      BindChecks (disposableVariableNames pre) record subject userId values ∧
      plan = .write (.ofList [((disposableVariableNames pre).subject, subject),
          ((disposableVariableNames pre).userId, userId)])
        { record with state := .complete, subject := some subject, userId := some userId } := by
  simp only [bindDisposableIdentity, bind_eq_ok, raiseIf_eq_ok, not_or, not_not] at hop
  obtain ⟨-, -, -, -, -, hcomplete, -, ⟨hsubject, huser⟩, -, -, pre, hpre, hbody⟩ := hop
  cases hbody
  simp only [bind_eq_ok, raiseIf_eq_ok, forEach_eq_ok, not_and, not_not] at hplan
  obtain ⟨_, hsaved, _, hscan, _, hsame, _, hsame', hplan⟩ := hplan
  cases hplan
  exact ⟨pre, hpre, ⟨hcomplete, hsubject, huser, requireSavedDisposableRecord_eq_ok.mp hsaved,
    fun e he => (hscan e he).choose_spec.1, fun e he => (hscan e he).choose_spec.2,
    hsame, hsame'⟩, rfl⟩

end ApiTests.Credentials
