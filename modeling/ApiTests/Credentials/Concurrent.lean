import ApiTests.Credentials.Slots

/-!
# Two processes on one credential file

An operation that writes is three steps on the file: the read its checks look at, the second read in
`_update_credential_file` (`local_credentials.py:567-584`) and the atomic replacement (`585-604`). There
is no lock between processes, so the steps of two processes interleave, and the replacement writes
what the second read saw: what the other process wrote in between is lost (`lost_update_example`). An
update that cannot be encoded replaces nothing.

`Step` is one such step; a replacement is allowed where `rule` says so. `Exclusive` is the rule under
which nothing is lost: the other process replaced nothing since the second read, and nothing of the
same slot since the first one. `Written` is a finished write with the times of its first read and of
its replacement.

Results: `planned_spec` (an operation writes variables of its own slot), `sound_step`,
`sound_of_reaches` (the invariant) and `nothing_lost` (**under the rule every variable a finished
operation wrote is still there, or a later operation for the slot rewrote it**).
-/

namespace ApiTests.Credentials

open Py

/-! ## The operations that write -/

/-- The five operations on the file. -/
inductive WriterOp where
  | loadLocal (role : SessionRole) (environ : Environ) (generator : BrowserLoginCredentials)
  | loadDisposable (environ : Environ) (runId scenarioId : Text)
      (generator : BrowserLoginCredentials)
  | markLocal (role : SessionRole) (credentials : BrowserLoginCredentials)
  | markDisposable (record : DisposableCredentialRecord)
  | bind (record : DisposableCredentialRecord) (currentRunId currentScenarioId subject userId : Text)
      (reusableSubjects reusableUserIds : Finset Text)

/-- A reusable role, or the record of a token. -/
inductive Slot where
  | role (role : SessionRole)
  | record (token : Text)
  deriving Repr, DecidableEq

/-- The variables of a slot. -/
def Slot.variables (browser : BrowserConfig) : Slot → List Text
  | .role r => (roleVariables browser r).all
  | .record token => (disposableVariableNames (disposableRecordPrefix ++ token)).all

namespace WriterOp

/-- What the operation writes, seen behind its first read. -/
def planned (config : EnvironmentConfig) (path : Text) (op : WriterOp) (file : CredentialFile) :
    Option Values :=
  match op with
  | loadLocal role environ generator =>
    plannedUpdates path (loadOrCreateLocalCredentials config role environ path generator) file
  | loadDisposable environ runId scenarioId generator =>
    plannedUpdates path
      (loadOrCreateDisposableCredentials config environ runId scenarioId path generator) file
  | markLocal role credentials =>
    plannedUpdates path (markLocalCredentialsComplete config role credentials path) file
  | markDisposable record =>
    plannedUpdates path (markDisposableCredentialsComplete config record path) file
  | bind record currentRunId currentScenarioId subject userId reusableSubjects reusableUserIds =>
    plannedUpdates path (bindDisposableIdentity config record currentRunId currentScenarioId subject
      userId reusableSubjects reusableUserIds path) file

/-- The slot or record the operation is for. -/
def slot : WriterOp → Slot
  | loadLocal role _ _ => .role role
  | loadDisposable _ runId scenarioId _ => .record (recordToken runId scenarioId)
  | markLocal role _ => .role role
  | markDisposable record => .record (recordToken record.runId record.scenarioId)
  | bind record .. => .record (recordToken record.runId record.scenarioId)

/-- What the operation may write are values of one line each. -/
def Lines : WriterOp → Prop
  | loadLocal _ _ generator => OneLine generator.username ∧ OneLine generator.password
  | loadDisposable _ runId scenarioId generator => OneLine runId ∧ OneLine scenarioId ∧
      OneLine generator.username ∧ OneLine generator.password
  | markLocal _ _ => True
  | markDisposable _ => True
  | bind _ _ _ subject userId _ _ => OneLine subject ∧ OneLine userId

end WriterOp

section

variable {config : EnvironmentConfig} {browser : BrowserConfig} {path : Text}

/-- An operation that cannot read the file writes nothing. -/
theorem planned_unreadable {op : WriterOp} {file : CredentialFile} {e : LocalCredentialError}
    (h : readCredentialFile path file = .error e) : op.planned config path file = none := by
  have hnone : ∀ {α : Type} (op : Operation α), plannedUpdates path op file = none := by
    intro α op
    unfold plannedUpdates planOf
    cases op with
    | error e => rfl
    | ok body =>
      rw [h]
      rfl
  cases op <;> exact hnone _

theorem eq_prefix {runId scenarioId pre : Text}
    (h : disposableVariablePrefix runId scenarioId = .ok pre) :
    pre = disposableRecordPrefix ++ recordToken runId scenarioId :=
  (disposableVariablePrefix_eq_ok.mp h).2.2.2

/-- An update of a record writes variables of its slot. -/
theorem recordUpdate_spec {l : List (Text × Text)} (hl : Fields l) {runId scenarioId pre : Text}
    (hpre : disposableVariablePrefix runId scenarioId = .ok pre) (hlines : ∀ e ∈ l, OneLine e.2) :
    LineUpdates (recordUpdate pre l) ∧ ∀ e ∈ (recordUpdate pre l).entries,
      e.1 ∈ (Slot.record (recordToken runId scenarioId)).variables browser := by
  refine ⟨forall_recordUpdate hl hpre hlines, fun e' he' => ?_⟩
  obtain ⟨e, he, rfl⟩ := (mem_recordUpdate hl).mp he'
  rw [Slot.variables, ← eq_prefix hpre]
  exact mem_all.mpr ⟨e.1, hl.mem he, rfl⟩

/-- **An operation writes variables of its own slot.** -/
theorem planned_spec (hnames : WellNamed browser) (hbrowser : config.auth.browser = some browser)
    {op : WriterOp} (hlines : op.Lines) {file : CredentialFile} {updates : Values}
    (h : op.planned config path file = some updates) :
    LineUpdates updates ∧ ∀ e ∈ updates.entries, e.1 ∈ op.slot.variables browser := by
  have hrole : ∀ {role names}, variableNames config role = .ok names →
      names = roleVariables browser role := fun h => by
    rw [variableNames_of_browser hbrowser] at h
    exact (Except.ok.inj h).symm
  cases op with
  | loadLocal role environ generator =>
    obtain ⟨body, values, result, hop, -, hplan⟩ := plannedUpdates_eq_some h
    obtain ⟨names, hn, hload, -⟩ := loadOrCreateLocal_plan hop hplan
    obtain rfl := hrole hn
    cases hload with
    | fresh =>
      refine ⟨forall_slotUpdate (hnames.nodup_all role)
        (fun name hn => hnames.isName name (mem_slotVariables hn)) hlines.1 hlines.2
        (oneLine_state .pending), fun e he => ?_⟩
      have he : e ∈ (slotUpdate (roleVariables browser role) generator).entries := he
      rw [entries_slotUpdate (hnames.nodup_all role)] at he
      exact List.mem_map_of_mem (f := Prod.fst) he
  | loadDisposable environ runId scenarioId generator =>
    obtain ⟨body, values, result, hop, -, hplan⟩ := plannedUpdates_eq_some h
    obtain ⟨pre, hpre, hload, -⟩ := loadOrCreateDisposable_plan hop hplan
    cases hload with
    | fresh =>
      refine recordUpdate_spec (fields_fresh runId scenarioId generator) hpre fun e he => ?_
      simp only [freshFields, List.mem_cons, List.not_mem_nil, or_false] at he
      rcases he with rfl | rfl | rfl | rfl | rfl
      · exact hlines.1
      · exact hlines.2.1
      · exact hlines.2.2.1
      · exact hlines.2.2.2
      · exact oneLine_state .pending
  | markLocal role credentials =>
    obtain ⟨body, values, result, hop, -, hplan⟩ := plannedUpdates_eq_some h
    obtain ⟨names, hn, -, -, hwrite⟩ := markLocal_plan hop hplan
    obtain rfl := hrole hn
    cases hwrite
    have hmem : (roleVariables browser role).state ∈ (roleVariables browser role).all := by
      simp [RoleVariables.all]
    constructor <;> intro e he <;> rw [List.mem_singleton.mp he]
    · exact ⟨hnames.isName _ (mem_slotVariables hmem), oneLine_state .complete⟩
    · exact hmem
  | markDisposable record =>
    obtain ⟨body, values, result, hop, -, hplan⟩ := plannedUpdates_eq_some h
    obtain ⟨pre, hpre, -, hwrite⟩ := markDisposable_plan hop hplan
    cases hwrite
    rw [← Dict.ofList_singleton]
    refine recordUpdate_spec fields_complete hpre fun e he => ?_
    rw [List.mem_singleton.mp he]
    exact oneLine_state .complete
  | bind record currentRunId currentScenarioId subject userId =>
    obtain ⟨body, values, result, hop, -, hplan⟩ := plannedUpdates_eq_some h
    obtain ⟨pre, hpre, -, hwrite⟩ := bindDisposable_plan hop hplan
    cases hwrite
    refine recordUpdate_spec (fields_binding subject userId) hpre fun e he => ?_
    simp only [bindingFields, List.mem_cons, List.not_mem_nil, or_false] at he
    rcases he with rfl | rfl
    · exact hlines.1
    · exact hlines.2

/-- No variable belongs to two slots. -/
theorem SlotNames.slot_eq (h : SlotNames browser) {slot slot' : Slot} {name : Text}
    (hname : name ∈ slot.variables browser) (hname' : name ∈ slot'.variables browser) :
    slot = slot' := by
  have hrecord : ∀ {role token}, name ∈ (Slot.role role).variables browser →
      name ∉ (Slot.record token).variables browser := by
    intro role token hr ht
    obtain ⟨s, -, rfl⟩ := mem_all.mp ht
    refine h.notRecord _ (mem_slotVariables hr) ?_
    rw [List.append_assoc]
    exact List.prefix_append _ _
  cases slot with
  | role role =>
    cases slot' with
    | role role' => rw [h.role_eq hname hname']
    | record token => exact absurd hname' (hrecord hname)
  | record token =>
    cases slot' with
    | role role' => exact absurd hname (hrecord hname')
    | record token' =>
      obtain ⟨s, hs, hsame⟩ := mem_all.mp hname
      obtain ⟨s', hs', hsame'⟩ := mem_all.mp hname'
      have := (name_injective hs hs' (hsame.trans hsame'.symm)).1
      rw [List.append_cancel_left this]

end

/-! ## Interleavings -/

/-- The two processes. -/
inductive Process where
  | first
  | second
  deriving Repr, DecidableEq

/-- Where a process stands in an operation. -/
inductive Phase where
  | idle
  /-- Its checks passed on the first read, made at `started`; it will write `updates`. -/
  | planned (op : WriterOp) (updates : Values) (started : Nat)
  /-- Its second read, made at `reread`, saw `content`. -/
  | ready (op : WriterOp) (updates : Values) (started reread : Nat) (content : CredentialFile)

/-- An operation that has replaced the file and returned. -/
structure Written where
  process : Process
  op : WriterOp
  updates : Values
  /-- The time of its first read. -/
  started : Nat
  /-- The time of its replacement. -/
  returned : Nat

/-- The file, the processes, and the writes finished so far. -/
structure World where
  file : CredentialFile
  time : Nat
  phase : Process → Phase
  written : List Written

/-- Both processes idle on a file. -/
def World.initial (file : CredentialFile) : World := ⟨file, 0, fun _ => .idle, []⟩

/-- One step of a process on the file: the first read of an operation (which ends there unless the
operation writes), the second read, the replacement, or the error of encoding what would replace. -/
inductive Step (config : EnvironmentConfig) (path : Text) (admits : WriterOp → Prop)
    (rule : World → Process → Prop) : World → World → Prop
  | start {w : World} {p : Process} {op : WriterOp} (hidle : w.phase p = .idle) (hop : admits op) :
      Step config path admits rule w
        { w with
          time := w.time + 1
          phase := Function.update w.phase p
            (match op.planned config path w.file with
              | some updates => .planned op updates w.time
              | none => .idle) }
  | reread {w : World} {p : Process} {op : WriterOp} {updates : Values} {started : Nat}
      (hplanned : w.phase p = .planned op updates started) :
      Step config path admits rule w
        { w with
          time := w.time + 1
          phase := Function.update w.phase p (.ready op updates started w.time w.file) }
  | replace {w : World} {p : Process} {op : WriterOp} {updates : Values} {started reread : Nat}
      {content file : CredentialFile} (hready : w.phase p = .ready op updates started reread content)
      (hrule : rule w p) (hfile : updateCredentialFile updates content = .ok file) :
      Step config path admits rule w
        { file := file
          time := w.time + 1
          phase := Function.update w.phase p .idle
          written := ⟨p, op, updates, started, w.time⟩ :: w.written }
  | refuse {w : World} {p : Process} {op : WriterOp} {updates : Values} {started reread : Nat}
      {content : CredentialFile} {e : OperationError}
      (hready : w.phase p = .ready op updates started reread content)
      (herror : updateCredentialFile updates content = .error e) :
      Step config path admits rule w
        { w with
          time := w.time + 1
          phase := Function.update w.phase p .idle }

/-- The other process has replaced nothing since the second read, and nothing of the slot since the
first one. -/
def Exclusive (w : World) (p : Process) : Prop :=
  ∀ op updates started reread content, w.phase p = .ready op updates started reread content →
    ∀ e ∈ w.written, e.process ≠ p →
      e.returned < reread ∧ (e.op.slot = op.slot → e.returned < started)

/-- **No lost update**: every variable a finished operation wrote still holds its value, as the reader
sees it, unless an operation for the same slot that started later rewrote it. -/
def NothingLost (path : Text) (w : World) : Prop :=
  ∀ e ∈ w.written, ∀ name value, e.updates.get? name = some value →
    (∃ values, readCredentialFile path w.file = .ok values ∧
        values.get? name = some (parseValue value)) ∨
      ∃ e' ∈ w.written, e'.op.slot = e.op.slot ∧ e.returned < e'.started ∧
        e'.updates.get? name ≠ none

/-! ## The invariant -/

/-- A process in the middle of an operation: the operation is admitted and its update planned, its
process has finished nothing since it started, and the second read saw the file as it is unless the
other process has replaced it since. -/
def PhaseSound (browser : BrowserConfig) (w : World) (p : Process) : Prop :=
  match w.phase p with
  | .idle => True
  | .planned op updates started => (LineUpdates updates ∧
      ∀ e ∈ updates.entries, e.1 ∈ op.slot.variables browser) ∧ started < w.time ∧
      ∀ e ∈ w.written, e.process = p → e.returned < started
  | .ready op updates started reread content => (LineUpdates updates ∧
      ∀ e ∈ updates.entries, e.1 ∈ op.slot.variables browser) ∧ started < reread ∧ reread < w.time ∧
      (∀ e ∈ w.written, e.process = p → e.returned < started) ∧
      ((∀ e ∈ w.written, e.process ≠ p → e.returned < reread) → content = w.file)

/-- What holds after every step. -/
structure Sound (path : Text) (browser : BrowserConfig) (w : World) : Prop where
  accepted : ∃ values, readCredentialFile path w.file = .ok values
  nothingLost : NothingLost path w
  /-- A finished write wrote variables of its slot. -/
  slots : ∀ e ∈ w.written, ∀ x ∈ e.updates.entries, x.1 ∈ e.op.slot.variables browser
  past : ∀ e ∈ w.written, e.returned < w.time
  phases : ∀ p, PhaseSound browser w p

section

variable {config : EnvironmentConfig} {browser : BrowserConfig} {path : Text}

/-- A process that does not move stays sound while the other one reads. -/
theorem PhaseSound.idle_step {w : World} {p : Process} (h : PhaseSound browser w p)
    {phase : Process → Phase} (hphase : phase p = w.phase p) :
    PhaseSound browser { w with time := w.time + 1, phase := phase } p := by
  unfold PhaseSound at h ⊢
  simp only [hphase]
  cases hp : w.phase p with
  | idle => trivial
  | planned op updates started =>
    rw [hp] at h
    exact ⟨h.1, Nat.lt_succ_of_lt h.2.1, h.2.2⟩
  | ready op updates started reread content =>
    rw [hp] at h
    exact ⟨h.1, h.2.1, Nat.lt_succ_of_lt h.2.2.1, h.2.2.2⟩

/-- A process that does not move stays sound while the other one replaces the file. -/
theorem PhaseSound.replace_step {w : World} {p : Process} (h : PhaseSound browser w p)
    {phase : Process → Phase} (hphase : phase p = w.phase p) (file : CredentialFile) {new : Written}
    (hother : new.process ≠ p) (htime : new.returned = w.time) :
    PhaseSound browser ⟨file, w.time + 1, phase, new :: w.written⟩ p := by
  have hnone : ∀ {started}, (∀ e ∈ w.written, e.process = p → e.returned < started) →
      ∀ e ∈ new :: w.written, e.process = p → e.returned < started :=
    fun hs => List.forall_mem_cons.mpr ⟨fun hp => absurd hp hother, hs⟩
  unfold PhaseSound at h ⊢
  simp only [hphase]
  cases hp : w.phase p with
  | idle => trivial
  | planned op updates started =>
    rw [hp] at h
    exact ⟨h.1, Nat.lt_succ_of_lt h.2.1, hnone h.2.2⟩
  | ready op updates started reread content =>
    rw [hp] at h
    obtain ⟨hplan, hlt, hreread, hown, -⟩ := h
    refine ⟨hplan, hlt, Nat.lt_succ_of_lt hreread, hnone hown, fun hquiet => ?_⟩
    -- The other process has just replaced the file.
    have := hquiet new List.mem_cons_self hother
    rw [htime] at this
    exact absurd this (Nat.not_lt.mpr (Nat.le_of_lt hreread))

theorem NothingLost.mono {w w' : World} (h : NothingLost path w) (hfile : w'.file = w.file)
    (hwritten : w'.written = w.written) : NothingLost path w' := by
  unfold NothingLost
  rwa [hfile, hwritten]

/-- **A replacement under the rule loses nothing.** -/
theorem nothingLost_replace (hnames : SlotNames browser) {w : World} (h : Sound path browser w)
    {p : Process} {op : WriterOp} {updates : Values} {started reread : Nat} {content : CredentialFile}
    (hready : w.phase p = .ready op updates started reread content) (hrule : Exclusive w p)
    (w' : World) (hfile : w'.file = updatedFile updates content)
    (hwritten : w'.written = ⟨p, op, updates, started, w.time⟩ :: w.written) :
    (∃ values, readCredentialFile path w'.file = .ok values) ∧ NothingLost path w' := by
  have hphase := h.phases p
  unfold PhaseSound at hphase
  rw [hready] at hphase
  obtain ⟨⟨hlines, hslot⟩, -, -, hown, hcontent⟩ := hphase
  have hquiet := hrule op updates started reread content hready
  obtain rfl := hcontent fun e he hne => (hquiet e he hne).1
  obtain ⟨values, hread⟩ := h.accepted
  have hafter : readCredentialFile path w'.file = .ok (values.update (parsed updates)) := by
    rw [hfile]
    exact read_update_line hread hlines
  refine ⟨⟨_, hafter⟩, ?_⟩
  unfold NothingLost
  rw [hwritten]
  refine List.forall_mem_cons.mpr ⟨fun name value hget =>
    Or.inl ⟨_, hafter, Dict.get?_update_of_some (by rw [get?_parsed, hget]; rfl)⟩,
    fun e he name value hget => ?_⟩
  rcases h.nothingLost e he name value hget with ⟨values', hread', hvalue⟩ | ⟨e', he', hlater⟩
  · rw [hread, Except.ok.injEq] at hread'
    subst hread'
    cases hnew : updates.get? name with
    | none =>
      exact Or.inl ⟨_, hafter,
        (Dict.get?_update_of_none (by rw [get?_parsed, hnew]; rfl)).trans hvalue⟩
    | some value' =>
      -- Both writes are of one slot, so the older one returned before this operation started.
      have hsame : op.slot = e.op.slot := hnames.slot_eq
        (hslot (name, value') (Dict.mem_entries_iff.mpr hnew))
        (h.slots e he (name, value) (Dict.mem_entries_iff.mpr hget))
      refine Or.inr ⟨_, List.mem_cons_self, hsame, ?_, by rw [hnew]; exact Option.some_ne_none _⟩
      by_cases hp : e.process = p
      · exact hown e he hp
      · exact (hquiet e he hp).2 hsame.symm
  · exact Or.inr ⟨e', List.mem_cons_of_mem _ he', hlater⟩

/-- **One step keeps the invariant.** -/
theorem sound_step (hnames : SlotNames browser) (hbrowser : config.auth.browser = some browser)
    {w w' : World} (h : Sound path browser w)
    (hstep : Step config path WriterOp.Lines Exclusive w w') : Sound path browser w' := by
  cases hstep with
  | @start p op hidle hop =>
    refine ⟨h.accepted, h.nothingLost.mono rfl rfl, h.slots, fun e he => Nat.lt_succ_of_lt (h.past e he),
      fun q => ?_⟩
    by_cases hq : q = p
    · subst hq
      unfold PhaseSound
      simp only [Function.update_self]
      cases hplanned : op.planned config path w.file with
      | none => trivial
      | some updates =>
        exact ⟨planned_spec hnames.toWellNamed hbrowser hop hplanned, Nat.lt_succ_self _,
          fun e he _ => h.past e he⟩
    · exact (h.phases q).idle_step (Function.update_of_ne hq _ _)
  | @reread p op updates started hplanned =>
    refine ⟨h.accepted, h.nothingLost.mono rfl rfl, h.slots, fun e he => Nat.lt_succ_of_lt (h.past e he),
      fun q => ?_⟩
    by_cases hq : q = p
    · subst hq
      have hphase := h.phases q
      unfold PhaseSound at hphase ⊢
      rw [hplanned] at hphase
      simp only [Function.update_self]
      exact ⟨hphase.1, hphase.2.1, Nat.lt_succ_self _, hphase.2.2, fun _ => trivial⟩
    · exact (h.phases q).idle_step (Function.update_of_ne hq _ _)
  | @replace p op updates started reread content file hready hrule hfile =>
    obtain ⟨-, rfl⟩ := updateCredentialFile_eq_ok.mp hfile
    have hphase := h.phases p
    unfold PhaseSound at hphase
    rw [hready] at hphase
    obtain ⟨haccepted, hlost⟩ := nothingLost_replace hnames h hready hrule
      ⟨updatedFile updates content, w.time + 1, Function.update w.phase p .idle, _⟩ rfl rfl
    refine ⟨haccepted, hlost, List.forall_mem_cons.mpr ⟨hphase.1.2, h.slots⟩,
      List.forall_mem_cons.mpr ⟨Nat.lt_succ_self _, fun e he => Nat.lt_succ_of_lt (h.past e he)⟩,
      fun q => ?_⟩
    by_cases hq : q = p
    · subst hq
      unfold PhaseSound
      simp only [Function.update_self]
    · exact (h.phases q).replace_step (Function.update_of_ne hq _ _) _ (Ne.symm hq) rfl
  | @refuse p op updates started reread content e hready herror =>
    refine ⟨h.accepted, h.nothingLost.mono rfl rfl, h.slots, fun e he => Nat.lt_succ_of_lt (h.past e he),
      fun q => ?_⟩
    by_cases hq : q = p
    · subst hq
      unfold PhaseSound
      simp only [Function.update_self]
    · exact (h.phases q).idle_step (Function.update_of_ne hq _ _)

/-- **The invariant holds in every world the two processes reach.** -/
theorem sound_of_reaches (hnames : SlotNames browser) (hbrowser : config.auth.browser = some browser)
    {w w' : World} (h : Sound path browser w)
    (hrun : Relation.ReflTransGen (Step config path WriterOp.Lines Exclusive) w w') :
    Sound path browser w' := by
  induction hrun with
  | refl => exact h
  | tail _ hstep ih => exact sound_step hnames hbrowser ih hstep

/-- On a file the reader rejects no operation gets past its first read. -/
theorem idle_of_unreadable {start : CredentialFile} {e : LocalCredentialError}
    (hstart : readCredentialFile path start = .error e) {w : World}
    (hrun : Relation.ReflTransGen (Step config path WriterOp.Lines Exclusive) (.initial start) w) :
    w.file = start ∧ w.written = [] ∧ ∀ p, w.phase p = .idle := by
  induction hrun with
  | refl => exact ⟨rfl, rfl, fun _ => rfl⟩
  | tail _ hstep ih =>
    obtain ⟨hfile, hwritten, hidle⟩ := ih
    cases hstep with
    | @start p op =>
      have hnone : op.planned config path _ = none := planned_unreadable (hfile ▸ hstart)
      refine ⟨hfile, hwritten, fun q => ?_⟩
      by_cases hq : q = p
      · subst hq
        simp only [Function.update_self, hnone]
      · exact (Function.update_of_ne hq _ _).trans (hidle q)
    | reread hplanned => exact nomatch (hidle _).symm.trans hplanned
    | replace hready => exact nomatch (hidle _).symm.trans hready
    | refuse hready => exact nomatch (hidle _).symm.trans hready

/-- **Nothing is lost** in any interleaving of exclusive replacements. -/
theorem nothing_lost (hnames : SlotNames browser) (hbrowser : config.auth.browser = some browser)
    {start : CredentialFile} {w : World}
    (hrun : Relation.ReflTransGen (Step config path WriterOp.Lines Exclusive) (.initial start) w) :
    NothingLost path w := by
  cases hstart : readCredentialFile path start with
  | error e =>
    obtain ⟨-, hwritten, -⟩ := idle_of_unreadable hstart hrun
    intro e he
    rw [hwritten] at he
    exact absurd he List.not_mem_nil
  | ok values =>
    have hinitial : Sound path browser (.initial start) :=
      ⟨⟨values, hstart⟩, fun e he => absurd he List.not_mem_nil,
        fun e he => absurd he List.not_mem_nil, fun e he => absurd he List.not_mem_nil,
        fun p => trivial⟩
    exact (sound_of_reaches hnames hbrowser hinitial hrun).nothingLost

end

/-! ## Two roles created at once -/

/-- The first process creates the primary role. -/
def primaryOp : WriterOp := .loadLocal .primary .empty ⟨lit "p@test.com", lit "Ba9!p"⟩

/-- The second process creates the secondary role. -/
def secondaryOp : WriterOp := .loadLocal .secondary .empty ⟨lit "s@test.com", lit "Ba9!s"⟩

def primaryUpdate : Values :=
  slotUpdate (roleVariables localBrowser .primary) ⟨lit "p@test.com", lit "Ba9!p"⟩

def secondaryUpdate : Values :=
  slotUpdate (roleVariables localBrowser .secondary) ⟨lit "s@test.com", lit "Ba9!s"⟩

theorem planned_primary : primaryOp.planned localConfig (lit ".env.local") .absent =
    some primaryUpdate := by
  decide

theorem planned_secondary : secondaryOp.planned localConfig (lit ".env.local") .absent =
    some secondaryUpdate := by
  decide

/-- The first process has written alone. -/
def aloneWorld (op : WriterOp) (updates : Values) : World :=
  ⟨updatedFile updates .absent, 3, fun _ => .idle, [⟨.first, op, updates, 0, 2⟩]⟩

/-- Both processes have created their role, both reads of each before both replacements. -/
def lostWorld : World :=
  ⟨updatedFile secondaryUpdate .absent, 6, fun _ => .idle,
    [⟨.second, secondaryOp, secondaryUpdate, 1, 5⟩, ⟨.first, primaryOp, primaryUpdate, 0, 4⟩]⟩

/-- The phases of the two processes. -/
def phases (first second : Phase) : Process → Phase
  | .first => first
  | .second => second

theorem update_first (a b c : Phase) : Function.update (phases a b) .first c = phases c b := by
  funext p
  cases p <;> rfl

theorem update_second (a b c : Phase) : Function.update (phases a b) .second c = phases a c := by
  funext p
  cases p <;> rfl

theorem phases_idle : (fun _ => .idle : Process → Phase) = phases .idle .idle := by
  funext p
  cases p <;> rfl

section

variable {config : EnvironmentConfig} {path : Text} {admits : WriterOp → Prop}
  {rule : World → Process → Prop} {file : CredentialFile} {time : Nat} {written : List Written}
  {phase phase' : Process → Phase} {op : WriterOp} {updates : Values}

/-- The first read of an operation that will write. -/
theorem Step.startPlanned {p : Process} (hidle : phase p = .idle) (hop : admits op)
    (hplanned : op.planned config path file = some updates)
    (hphase : Function.update phase p (.planned op updates time) = phase') :
    Step config path admits rule ⟨file, time, phase, written⟩
      ⟨file, time + 1, phase', written⟩ := by
  have : Step config path admits rule ⟨file, time, phase, written⟩ _ := Step.start hidle hop
  simpa only [hplanned, hphase] using this

/-- The second read. -/
theorem Step.rereadPlanned {p : Process} {started : Nat}
    (hplanned : phase p = .planned op updates started)
    (hphase : Function.update phase p (.ready op updates started time file) = phase') :
    Step config path admits rule ⟨file, time, phase, written⟩
      ⟨file, time + 1, phase', written⟩ := by
  have : Step config path admits rule ⟨file, time, phase, written⟩ _ := Step.reread hplanned
  simpa only [hphase] using this

/-- The replacement. -/
theorem Step.replaceReady {p : Process} {started reread : Nat} {content : CredentialFile}
    (hready : phase p = .ready op updates started reread content)
    (hrule : rule ⟨file, time, phase, written⟩ p) (hencodable : EncodableUpdates updates)
    (hphase : Function.update phase p .idle = phase') :
    Step config path admits rule ⟨file, time, phase, written⟩
      ⟨updatedFile updates content, time + 1, phase',
        ⟨p, op, updates, started, time⟩ :: written⟩ := by
  have : Step config path admits rule ⟨file, time, phase, written⟩ _ :=
    Step.replace hready hrule (updateCredentialFile_eq_ok.mpr ⟨hencodable, rfl⟩)
  simpa only [hphase] using this

/-- A write alone follows every rule that allows a first one. -/
theorem reaches_aloneWorld (hop : admits op)
    (hplanned : op.planned config path .absent = some updates) (hencodable : EncodableUpdates updates)
    (hrule : ∀ w p, w.written = [] → rule w p) :
    Relation.ReflTransGen (Step config path admits rule) (.initial .absent)
      (aloneWorld op updates) := by
  rw [World.initial, aloneWorld, phases_idle]
  exact ((Relation.ReflTransGen.single (Step.startPlanned rfl hop hplanned (update_first _ _ _))).tail
    (Step.rereadPlanned rfl (update_first _ _ _))).tail
    (Step.replaceReady rfl (hrule _ _ rfl) hencodable (update_first _ _ _))

end

theorem exclusive_first (w : World) (p : Process) (hw : w.written = []) : Exclusive w p :=
  fun _ _ _ _ _ _ _ he => absurd (hw ▸ he) List.not_mem_nil

/-- Both processes have created their role: the first reads overlap, and the second process reads
again behind the first replacement. -/
def keptWorld : World :=
  ⟨updatedFile secondaryUpdate (updatedFile primaryUpdate .absent), 6, fun _ => .idle,
    [⟨.second, secondaryOp, secondaryUpdate, 1, 5⟩, ⟨.first, primaryOp, primaryUpdate, 0, 3⟩]⟩

/-- The second replacement has the other one in front of both its second read and its slot. -/
theorem exclusive_second (content : CredentialFile) :
    Exclusive ⟨updatedFile primaryUpdate .absent, 5,
      phases .idle (.ready secondaryOp secondaryUpdate 1 4 content),
      [⟨.first, primaryOp, primaryUpdate, 0, 3⟩]⟩ .second := by
  intro op updates started reread content' hready e he _
  cases hready
  rw [List.mem_singleton.mp he]
  exact ⟨by decide, fun hslot => absurd hslot (by decide)⟩

theorem reaches_keptWorld : Relation.ReflTransGen
    (Step localConfig (lit ".env.local") WriterOp.Lines Exclusive) (.initial .absent) keptWorld := by
  rw [World.initial, keptWorld, phases_idle]
  have hprimary : primaryOp.Lines := ⟨by decide, by decide⟩
  have hsecondary : secondaryOp.Lines := ⟨by decide, by decide⟩
  have hreads : Relation.ReflTransGen
      (Step localConfig (lit ".env.local") WriterOp.Lines Exclusive)
      ⟨.absent, 0, phases .idle .idle, []⟩
      ⟨.absent, 2, phases (.planned primaryOp primaryUpdate 0)
        (.planned secondaryOp secondaryUpdate 1), []⟩ :=
    (Relation.ReflTransGen.single
      (Step.startPlanned rfl hprimary planned_primary (update_first _ _ _))).tail
      (Step.startPlanned rfl hsecondary planned_secondary (update_second _ _ _))
  exact (((hreads.tail (Step.rereadPlanned rfl (update_first _ _ _))).tail
    (Step.replaceReady rfl (exclusive_first _ _ rfl) (by decide) (update_first _ _ _))).tail
    (Step.rereadPlanned rfl (update_second _ _ _))).tail
    (Step.replaceReady rfl (exclusive_second _) (by decide) (update_second _ _ _))

theorem nothing_lost_example : NothingLost (lit ".env.local") keptWorld :=
  nothing_lost slotNames_local rfl reaches_keptWorld

/-- The steps of the lost update: both first reads, both second reads, both replacements. -/
theorem reaches_lostWorld : Relation.ReflTransGen
    (Step localConfig (lit ".env.local") (fun _ => True) fun _ _ => True)
    (.initial .absent) lostWorld := by
  rw [World.initial, lostWorld, phases_idle]
  have hreads : Relation.ReflTransGen
      (Step localConfig (lit ".env.local") (fun _ => True) fun _ _ => True)
      ⟨.absent, 0, phases .idle .idle, []⟩
      ⟨.absent, 2, phases (.planned primaryOp primaryUpdate 0)
        (.planned secondaryOp secondaryUpdate 1), []⟩ :=
    (Relation.ReflTransGen.single
      (Step.startPlanned rfl trivial planned_primary (update_first _ _ _))).tail
      (Step.startPlanned rfl trivial planned_secondary (update_second _ _ _))
  exact (((hreads.tail (Step.rereadPlanned rfl (update_first _ _ _))).tail
    (Step.rereadPlanned rfl (update_second _ _ _))).tail
    (Step.replaceReady rfl trivial (by decide) (update_first _ _ _))).tail
    (Step.replaceReady rfl trivial (by decide) (update_second _ _ _))

/-- A generator that returns a password of two lines. -/
def brokenOp : WriterOp := .loadLocal .primary .empty ⟨lit "p@test.com", lit "Ba9!\np"⟩

def brokenUpdate : Values :=
  slotUpdate (roleVariables localBrowser .primary) ⟨lit "p@test.com", lit "Ba9!\np"⟩

/-- Browser settings with a variable name that is no ASCII identifier. -/
def foreignBrowser : BrowserConfig := { localBrowser with primaryUsernameEnv := lit "É" }

def foreignConfig : EnvironmentConfig :=
  { localConfig with auth := { localConfig.auth with browser := some foreignBrowser } }

def foreignUpdate : Values :=
  slotUpdate (roleVariables foreignBrowser .primary) ⟨lit "p@test.com", lit "Ba9!p"⟩

/-- A variable that the file of a lone write does not hold is lost. -/
theorem not_nothingLost_alone {op : WriterOp} {updates : Values} (values : Values)
    (name value : Text)
    (hread : readCredentialFile (lit ".env.local") (aloneWorld op updates).file = .ok values)
    (hget : updates.get? name = some value) (hne : values.get? name ≠ some (parseValue value)) :
    ¬ NothingLost (lit ".env.local") (aloneWorld op updates) := by
  intro h
  rcases h _ List.mem_cons_self name value hget with ⟨values', hvalues, hvalue⟩ | ⟨e, he, -, hlater, -⟩
  · rw [hread, Except.ok.injEq] at hvalues
    exact hne (hvalues ▸ hvalue)
  · rw [List.mem_singleton.mp he] at hlater
    have hlater : 2 < 0 := hlater
    omega

/-- **Updates are lost**: the second replacement throws away the primary role that the first process
has created, and no later operation was for its slot. Without a second process, a value of two lines
and a variable whose name the reader does not accept are lost as well. -/
theorem lost_update_example :
    (Relation.ReflTransGen (Step localConfig (lit ".env.local") (fun _ => True) fun _ _ => True)
        (.initial .absent) lostWorld ∧ ¬ NothingLost (lit ".env.local") lostWorld) ∧
      (Relation.ReflTransGen (Step localConfig (lit ".env.local") (fun _ => True) Exclusive)
        (.initial .absent) (aloneWorld brokenOp brokenUpdate) ∧
        ¬ NothingLost (lit ".env.local") (aloneWorld brokenOp brokenUpdate)) ∧
      (Relation.ReflTransGen (Step foreignConfig (lit ".env.local") WriterOp.Lines Exclusive)
        (.initial .absent) (aloneWorld primaryOp foreignUpdate) ∧
        ¬ NothingLost (lit ".env.local") (aloneWorld primaryOp foreignUpdate)) := by
  refine ⟨⟨reaches_lostWorld, fun h => ?_⟩,
    ⟨reaches_aloneWorld trivial (by decide) (by decide) exclusive_first,
      not_nothingLost_alone ⟨[(lit "BA_PRIMARY_TEST_USERNAME", lit "p@test.com"),
        (lit "BA_PRIMARY_TEST_PASSWORD", lit "Ba9!"),
        (lit "BA_PRIMARY_TEST_ACCOUNT_STATE", lit "pending")], by decide⟩
        (lit "BA_PRIMARY_TEST_PASSWORD") (lit "Ba9!\np") (by decide +kernel) (by decide)
        (by decide)⟩,
    ⟨reaches_aloneWorld ⟨by decide, by decide⟩ (by decide) (by decide) exclusive_first,
      not_nothingLost_alone ⟨[(lit "BA_PRIMARY_TEST_PASSWORD", lit "Ba9!p"),
        (lit "BA_PRIMARY_TEST_ACCOUNT_STATE", lit "pending")], by decide⟩ (lit "É")
        (lit "p@test.com") (by decide +kernel) (by decide) (by decide)⟩⟩
  have hread : readCredentialFile (lit ".env.local") lostWorld.file = .ok secondaryUpdate := by
    decide +kernel
  rcases h ⟨.first, primaryOp, primaryUpdate, 0, 4⟩ (by simp [lostWorld])
      (lit "BA_PRIMARY_TEST_USERNAME") (lit "p@test.com") (by decide) with
    ⟨values, hvalues, hget⟩ | ⟨e, he, hslot, hlater, -⟩
  · rw [hread, Except.ok.injEq] at hvalues
    subst hvalues
    revert hget
    decide
  · have hearly : e.started ≤ 1 := by
      simp only [lostWorld, List.mem_cons, List.not_mem_nil, or_false] at he
      rcases he with rfl | rfl
      · exact le_refl 1
      · exact Nat.zero_le 1
    have hlater : 4 < e.started := hlater
    omega

end ApiTests.Credentials
