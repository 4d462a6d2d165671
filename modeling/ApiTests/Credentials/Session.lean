import ApiTests.Credentials.Disposable
import Mathlib.Logic.Relation

/-!
# Sessions: sequences of calls on the disposable records

A caller holds the records that earlier calls returned and may pass any of them again, so the state
of a session is the credential file with the list of records returned so far. `Session.after` is one
call, `Session.Reaches` any sequence of calls that meet a condition.

`recordUpdate pre l` is an update of variables of the record under `pre`, by suffix. Every write of
the three operations is one.

Results: `get?_update_record` (**what an update of one record does to every record variable**),
`call_refines` (an admissible call on an accepted file follows the call on its variables).
-/

namespace ApiTests.Credentials

open Py

/-! ## Updates of one record -/

theorem runId_ne_nil {runId scenarioId pre : Text}
    (h : disposableVariablePrefix runId scenarioId = .ok pre) : runId ≠ [] :=
  (disposableVariablePrefix_eq_ok.mp h).1

/-- The update `{pre + suffix: value, …}`. -/
def recordUpdate (pre : Text) (l : List (Text × Text)) : Values :=
  .ofList (l.map fun e => (pre ++ e.1, e.2))

/-- The keys are suffixes of record variables, none twice. -/
def Fields (l : List (Text × Text)) : Prop := (l.map Prod.fst).Sublist suffixes

theorem mem_all {pre name : Text} :
    name ∈ (disposableVariableNames pre).all ↔ ∃ s ∈ suffixes, pre ++ s = name := by
  rw [all_disposableVariableNames, List.mem_map]

theorem Fields.nodup {l : List (Text × Text)} (h : Fields l) : (l.map Prod.fst).Nodup :=
  List.Sublist.nodup h (by decide)

theorem Fields.mem {l : List (Text × Text)} (h : Fields l) {e : Text × Text} (he : e ∈ l) :
    e.1 ∈ suffixes :=
  h.subset (List.mem_map_of_mem he)

theorem Fields.nodup_keys {l : List (Text × Text)} (h : Fields l) (pre : Text) :
    ((l.map fun e => (pre ++ e.1, e.2)).map Prod.fst).Nodup := by
  have hkeys : (l.map fun e => (pre ++ e.1, e.2)).map Prod.fst = (l.map Prod.fst).map (pre ++ ·) := by
    simp
  rw [hkeys]
  exact h.nodup.map (List.append_right_injective pre)

theorem get?_recordUpdate {l : List (Text × Text)} (h : Fields l) {pre pre' s : Text}
    (hs : s ∈ suffixes) :
    (recordUpdate pre l).get? (pre' ++ s) = if pre' = pre then (Dict.ofList l).get? s else none := by
  split_ifs with hpre
  · subst hpre
    refine Option.ext fun v => ?_
    rw [recordUpdate, Dict.get?_ofList_eq_some_iff (h.nodup_keys pre'),
      Dict.get?_ofList_eq_some_iff h.nodup]
    simp
  · rw [recordUpdate, Dict.get?_ofList_eq_none_iff (h.nodup_keys pre)]
    intro hm
    obtain ⟨e', he', hkey⟩ := List.mem_map.mp hm
    obtain ⟨e, he, rfl⟩ := List.mem_map.mp he'
    exact hpre (name_injective (h.mem he) hs hkey).1.symm

/-- A variable that is none of the record's is not in its updates. -/
theorem get?_recordUpdate_of_notMem {l : List (Text × Text)} (h : Fields l) {pre name : Text}
    (hname : name ∉ (disposableVariableNames pre).all) : (recordUpdate pre l).get? name = none := by
  rw [recordUpdate, Dict.get?_ofList_eq_none_iff (h.nodup_keys pre)]
  intro hm
  obtain ⟨e', he', rfl⟩ := List.mem_map.mp hm
  obtain ⟨e, he, rfl⟩ := List.mem_map.mp he'
  exact hname (mem_all.mpr ⟨e.1, h.mem he, rfl⟩)

/-- **What an update of one record does to a record variable**, as the reader sees it. -/
theorem get?_update_record {l : List (Text × Text)} (h : Fields l) (values : Values)
    {pre pre' s : Text} (hs : s ∈ suffixes) :
    (values.update (parsed (recordUpdate pre l))).get? (pre' ++ s) =
      if pre' = pre then (((Dict.ofList l).get? s).map parseValue).or (values.get? (pre' ++ s))
      else values.get? (pre' ++ s) := by
  rw [Dict.get?_update, get?_parsed, get?_recordUpdate h hs]
  split_ifs
  · rfl
  · rfl

/-- The plain values of an update are read back as they are. -/
theorem get?_update_plain {l : List (Text × Text)} (h : Fields l) (values : Values) {pre s v : Text}
    (hs : (s, v) ∈ l) (hv : Plain v) :
    (values.update (parsed (recordUpdate pre l))).get? (pre ++ s) = some v := by
  rw [get?_update_record h values (h.mem hs), if_pos rfl,
    (Dict.get?_ofList_eq_some_iff h.nodup).mpr hs, Option.map_some, hv.parseValue_eq,
    Option.some_or]

/-- The variables an update does not name keep their values. -/
theorem get?_update_keep {l : List (Text × Text)} (h : Fields l) (values : Values) {pre s : Text}
    (hs : s ∈ suffixes) (hl : s ∉ l.map Prod.fst) :
    (values.update (parsed (recordUpdate pre l))).get? (pre ++ s) = values.get? (pre ++ s) := by
  rw [get?_update_record h values hs, if_pos rfl, (Dict.get?_ofList_eq_none_iff h.nodup).mpr hl,
    Option.map_none, Option.none_or]

/-- The variables of another record keep their values. -/
theorem get?_update_other {l : List (Text × Text)} (h : Fields l) (values : Values)
    {pre pre' s : Text} (hs : s ∈ suffixes) (hne : pre' ≠ pre) :
    (values.update (parsed (recordUpdate pre l))).get? (pre' ++ s) = values.get? (pre' ++ s) := by
  rw [get?_update_record h values hs, if_neg hne]

/-- An update of a record names one variable with the suffix at most. -/
theorem eq_of_get?_recordUpdate {l : List (Text × Text)} (h : Fields l) {pre s name v : Text}
    (hs : s ∈ suffixes) (hname : RecordVariable s name)
    (hget : (parsed (recordUpdate pre l)).get? name = some v) : name = pre ++ s := by
  have hmem : name ∈ (disposableVariableNames pre).all := by
    by_contra hmem
    rw [get?_parsed, get?_recordUpdate_of_notMem h hmem] at hget
    exact nomatch hget
  obtain ⟨s', hs', rfl⟩ := mem_all.mp hmem
  obtain ⟨pre', hpre'⟩ := hname.2
  rw [(name_injective hs hs' hpre').2]

theorem mem_recordUpdate {l : List (Text × Text)} (h : Fields l) {pre : Text} {e : Text × Text} :
    e ∈ (recordUpdate pre l).entries ↔ ∃ e' ∈ l, (pre ++ e'.1, e'.2) = e := by
  rw [recordUpdate, Dict.entries_ofList (h.nodup_keys pre), List.mem_map]

/-- What an update of a record saves are identifiers with the values given. -/
theorem forall_recordUpdate {P : Text → Prop} {l : List (Text × Text)} (h : Fields l)
    {runId scenarioId pre : Text} (hpre : disposableVariablePrefix runId scenarioId = .ok pre)
    (hl : ∀ e ∈ l, P e.2) : ∀ e ∈ (recordUpdate pre l).entries, IsName e.1 ∧ P e.2 := by
  intro e' he'
  obtain ⟨e, he, rfl⟩ := (mem_recordUpdate h).mp he'
  exact ⟨(isName_of_disposablePrefix hpre (mem_all.mpr ⟨e.1, h.mem he, rfl⟩)).1, hl e he⟩

/-! ## The writes of the operations -/

/-- What a fresh record saves. -/
def freshFields (runId scenarioId : Text) (credentials : BrowserLoginCredentials) :
    List (Text × Text) :=
  [(lit "_RUN_ID", runId), (lit "_SCENARIO_ID", scenarioId), (usernameSuffix, credentials.username),
    (lit "_PASSWORD", credentials.password), (lit "_ACCOUNT_STATE", AccountState.pending.text)]

/-- What the completion of an account saves. -/
def completeFields : List (Text × Text) := [(lit "_ACCOUNT_STATE", AccountState.complete.text)]

/-- What a binding saves. -/
def bindingFields (subject userId : Text) : List (Text × Text) :=
  [(subjectSuffix, subject), (userIdSuffix, userId)]

theorem fields_fresh (runId scenarioId : Text) (credentials : BrowserLoginCredentials) :
    Fields (freshFields runId scenarioId credentials) :=
  List.take_sublist 5 suffixes

theorem fields_complete : Fields completeFields := by
  unfold Fields
  decide

theorem fields_binding (subject userId : Text) : Fields (bindingFields subject userId) :=
  List.drop_sublist 5 suffixes

/-- A completion saves the completed state. -/
theorem get?_update_complete (values : Values) (pre : Text) :
    (values.update (parsed (recordUpdate pre completeFields))).get? (pre ++ lit "_ACCOUNT_STATE") =
      some AccountState.complete.text :=
  get?_update_plain fields_complete values (List.mem_singleton_self _) (plain_state .complete)

/-- A binding leaves the state. -/
theorem get?_update_binding (values : Values) (pre subject userId : Text) :
    (values.update (parsed (recordUpdate pre (bindingFields subject userId)))).get?
      (pre ++ lit "_ACCOUNT_STATE") = values.get? (pre ++ lit "_ACCOUNT_STATE") := by
  have hkey : lit "_ACCOUNT_STATE" ∉ suffixes.drop 5 := by decide
  exact get?_update_keep (fields_binding subject userId) values (by decide) hkey

/-! ## Calls -/

/-- A call of one of the three operations. -/
inductive DisposableCall where
  | load (config : EnvironmentConfig) (environ : Environ) (runId scenarioId : Text)
      (generator : BrowserLoginCredentials)
  | mark (config : EnvironmentConfig) (record : DisposableCredentialRecord)
  | bind (config : EnvironmentConfig) (record : DisposableCredentialRecord)
      (currentRunId currentScenarioId subject userId : Text)
      (reusableSubjects reusableUserIds : Finset Text)

namespace DisposableCall

/-- The operation that is called. -/
def operation (path : Text) : DisposableCall → Operation DisposableCredentialRecord
  | load config environ runId scenarioId generator =>
    loadOrCreateDisposableCredentials config environ runId scenarioId path generator
  | mark config record => markDisposableCredentialsComplete config record path
  | bind config record currentRunId currentScenarioId subject userId reusableSubjects
      reusableUserIds =>
    bindDisposableIdentity config record currentRunId currentScenarioId subject userId
      reusableSubjects reusableUserIds path

/-- The run and scenario the call is made for. -/
def pair : DisposableCall → Text × Text
  | load _ _ runId scenarioId _ => (runId, scenarioId)
  | mark _ record => (record.runId, record.scenarioId)
  | bind _ record .. => (record.runId, record.scenarioId)

/-- The identity the call binds. -/
def identity : DisposableCall → Option (Text × Text)
  | bind _ _ _ _ subject userId _ _ => some (subject, userId)
  | _ => none

/-- The record passed is one an earlier call returned; ids and identities hold no whitespace, quote
or `#`. -/
def Admissible (returned : List DisposableCredentialRecord) : DisposableCall → Prop
  | load _ _ runId scenarioId _ => Plain runId ∧ Plain scenarioId
  | mark _ record => record ∈ returned
  | bind _ record _ _ subject userId _ _ => record ∈ returned ∧ Plain subject ∧ Plain userId

/-- A generator's credentials are of one line each. -/
def OneLineCredentials : DisposableCall → Prop
  | load _ _ _ _ generator => OneLine generator.username ∧ OneLine generator.password
  | _ => True

/-- A generator's credentials hold no whitespace, quote or `#`. -/
def PlainCredentials : DisposableCall → Prop
  | load _ _ _ _ generator => Plain generator.username ∧ Plain generator.password
  | _ => True

end DisposableCall

/-- What a call can do to the variables when it returns: everything it has checked, the record, and
the variables afterwards. -/
inductive Effect (values : Values) (pre : Text) :
    DisposableCall → DisposableCredentialRecord → Values → Prop
  | loaded {config : EnvironmentConfig} {environ : Environ} {runId scenarioId : Text}
      {generator : BrowserLoginCredentials} {record : DisposableCredentialRecord}
      (hload : DisposableLoad (disposableVariableNames pre) runId scenarioId generator values
        (.done record)) :
      Effect values pre (.load config environ runId scenarioId generator) record values
  | created {config : EnvironmentConfig} {environ : Environ} {runId scenarioId : Text}
      {generator : BrowserLoginCredentials}
      (hfree : ∀ name ∈ (disposableVariableNames pre).all, saved values name = [])
      (hdistinct : ensureDisposableUsernameIsDistinct config environ generator.username pre values =
        .ok ()) :
      Effect values pre (.load config environ runId scenarioId generator)
        ⟨runId, scenarioId, generator, .pending, none, none⟩
        (values.update (parsed (recordUpdate pre (freshFields runId scenarioId generator))))
  | completed {config : EnvironmentConfig} {record : DisposableCredentialRecord}
      (hsaved : ∀ e ∈ expected (disposableVariableNames pre) record, saved values e.1 = e.2) :
      Effect values pre (.mark config record) { record with state := .complete }
        (values.update (parsed (recordUpdate pre completeFields)))
  | bound {config : EnvironmentConfig} {record : DisposableCredentialRecord}
      {currentRunId currentScenarioId subject userId : Text}
      {reusableSubjects reusableUserIds : Finset Text}
      (hchecks : BindChecks (disposableVariableNames pre) record subject userId values) :
      Effect values pre (.bind config record currentRunId currentScenarioId subject userId
          reusableSubjects reusableUserIds)
        { record with state := .complete, subject := some subject, userId := some userId }
        (values.update (parsed (recordUpdate pre (bindingFields subject userId))))

/-- **What a call that returns has checked and done.** -/
theorem call_effect {path : Text} {call : DisposableCall} {values values' : Values}
    {record : DisposableCredentialRecord}
    (h : performOn (call.operation path) values = (.ok record, values')) :
    ∃ pre, disposableVariablePrefix call.pair.1 call.pair.2 = .ok pre ∧
      Effect values pre call record values' := by
  rcases performOn_cases (call.operation path) values with ⟨e, he⟩ | ⟨body, plan, hop, hplan, he⟩
  · rw [he] at h
    exact nomatch h
  · rw [he, Prod.mk.injEq, Except.ok.injEq] at h
    obtain ⟨rfl, rfl⟩ := h
    cases call with
    | load config environ runId scenarioId generator =>
      obtain ⟨pre, hpre, hload, hdistinct⟩ := loadOrCreateDisposable_plan hop hplan
      refine ⟨pre, hpre, ?_⟩
      cases plan with
      | done result => exact .loaded hload
      | write updates result =>
        cases hload with
        | fresh hfree => exact .created hfree hdistinct
    | mark config record =>
      obtain ⟨pre, hpre, hsaved, rfl⟩ := markDisposable_plan hop hplan
      refine ⟨pre, hpre, ?_⟩
      rw [← Dict.ofList_singleton]
      exact .completed hsaved
    | bind config record =>
      obtain ⟨pre, hpre, hchecks, rfl⟩ := bindDisposable_plan hop hplan
      exact ⟨pre, hpre, .bound hchecks⟩

/-- A call that returns writes variables of its own record only. -/
theorem Effect.values_eq {values values' : Values} {pre : Text} {call : DisposableCall}
    {record : DisposableCredentialRecord} (heffect : Effect values pre call record values') :
    values' = values ∨ ∃ l, Fields l ∧ values' = values.update (parsed (recordUpdate pre l)) := by
  cases heffect with
  | loaded => exact Or.inl rfl
  | created => exact Or.inr ⟨_, fields_fresh _ _ _, rfl⟩
  | completed => exact Or.inr ⟨_, fields_complete, rfl⟩
  | bound => exact Or.inr ⟨_, fields_binding _ _, rfl⟩

/-- **The variables under other prefixes are left alone.** -/
theorem Effect.frame {values values' : Values} {pre pre' s : Text} {call : DisposableCall}
    {record : DisposableCredentialRecord} (heffect : Effect values pre call record values')
    (hs : s ∈ suffixes) (hne : pre' ≠ pre) : values'.get? (pre' ++ s) = values.get? (pre' ++ s) := by
  rcases heffect.values_eq with rfl | ⟨l, hl, rfl⟩
  · rfl
  · exact get?_update_other hl values hs hne

theorem oneLine_state (state : AccountState) : OneLine state.text := by
  cases state <;> decide

/-- A record of one-line ids and credentials is written as lines. -/
theorem writesLines_disposable {config : EnvironmentConfig} {environ : Environ}
    {path runId scenarioId : Text} {generator : BrowserLoginCredentials}
    (hrun : OneLine runId) (hscenario : OneLine scenarioId) (hu : OneLine generator.username)
    (hp : OneLine generator.password) (values : Values) :
    WritesLines (loadOrCreateDisposableCredentials config environ runId scenarioId path generator)
      values := by
  intro body plan hop hplan
  obtain ⟨pre, hpre, hload, -⟩ := loadOrCreateDisposable_plan hop hplan
  cases hload with
  | stored => trivial
  | fresh =>
    refine forall_recordUpdate (fields_fresh runId scenarioId generator) hpre fun e he => ?_
    simp only [freshFields, List.mem_cons, List.not_mem_nil, or_false] at he
    rcases he with rfl | rfl | rfl | rfl | rfl
    · exact hrun
    · exact hscenario
    · exact hu
    · exact hp
    · exact oneLine_state .pending

/-- An admissible call with credentials of one line each writes lines. -/
theorem writesLines_call {path : Text} {call : DisposableCall} {values : Values}
    {returned : List DisposableCredentialRecord} (hadm : call.Admissible returned)
    (hline : call.OneLineCredentials) : WritesLines (call.operation path) values := by
  intro body plan hop hplan
  cases call with
  | load config environ runId scenarioId generator =>
    exact writesLines_disposable hadm.1.oneLine hadm.2.oneLine hline.1 hline.2 values body plan hop
      hplan
  | mark config record =>
    obtain ⟨pre, hpre, -, rfl⟩ := markDisposable_plan hop hplan
    rw [← Dict.ofList_singleton]
    refine forall_recordUpdate fields_complete hpre fun e he => ?_
    rw [List.mem_singleton.mp he]
    exact oneLine_state .complete
  | bind config record =>
    obtain ⟨pre, hpre, -, rfl⟩ := bindDisposable_plan hop hplan
    refine forall_recordUpdate (fields_binding _ _) hpre fun e he => ?_
    simp only [bindingFields, List.mem_cons, List.not_mem_nil, or_false] at he
    rcases he with rfl | rfl
    · exact hadm.2.1.oneLine
    · exact hadm.2.2.oneLine

/-- The file and the records returned so far. -/
structure Session where
  file : CredentialFile
  returned : List DisposableCredentialRecord

namespace Session

/-- The session after a call. -/
def after (path : Text) (s : Session) (call : DisposableCall) : Session :=
  match perform path (call.operation path) s.file with
  | (.ok record, file) => ⟨file, record :: s.returned⟩
  | (.error _, file) => ⟨file, s.returned⟩

/-- One admissible call that meets a condition. -/
def Step (path : Text) (condition : Session → DisposableCall → Prop) (s s' : Session) : Prop :=
  ∃ call : DisposableCall, call.Admissible s.returned ∧ condition s call ∧ s' = s.after path call

/-- A sequence of such calls. -/
def Reaches (path : Text) (condition : Session → DisposableCall → Prop) : Session → Session → Prop :=
  Relation.ReflTransGen (Step path condition)

/-- **One step of a session on an accepted file**: the call raises and nothing changes, or its
effect is that on the variables, and the record is added. -/
theorem after_cases {path : Text} {s : Session} {call : DisposableCall} {values : Values}
    (hread : readCredentialFile path s.file = .ok values)
    (hadm : call.Admissible s.returned) (hline : call.OneLineCredentials) :
    ((∃ e, (perform path (call.operation path) s.file).1 = .error e) ∧ s.after path call = s) ∨
    ∃ record pre values', (perform path (call.operation path) s.file).1 = .ok record ∧
      (s.after path call).returned = record :: s.returned ∧
      readCredentialFile path (s.after path call).file = .ok values' ∧
      disposableVariablePrefix call.pair.1 call.pair.2 = .ok pre ∧
      Effect values pre call record values' := by
  have hlines : WritesLines (call.operation path) values := writesLines_call hadm hline
  obtain ⟨hresult, hafter⟩ := perform_refines hread hlines
  unfold after
  rcases hp : perform path (call.operation path) s.file with ⟨result, file⟩
  rw [hp] at hresult hafter
  cases result with
  | error e =>
    have hfile : file = s.file := by
      have := perform_error (e := e) (congrArg Prod.fst hp)
      rwa [hp] at this
    exact Or.inl ⟨⟨e, rfl⟩, by rw [hfile]⟩
  | ok record =>
    have hon : performOn (call.operation path) values =
        (.ok record, (performOn (call.operation path) values).2) := by
      rw [show Except.ok record = (performOn (call.operation path) values).1 from hresult]
    obtain ⟨pre, hpre, heffect⟩ := call_effect hon
    exact Or.inr ⟨record, pre, _, rfl, rfl, hafter, hpre, heffect⟩

end Session

end ApiTests.Credentials
