import ApiTests.Credentials.Concurrent
import ApiTests.Py.Program

/-!
# A call step by step

The steps a call takes on the file system (`local_credentials.py:514-604`), each of which may fail:
the four of `_read_credential_file` and the nine of `_update_credential_file`, with its `with` block,
its `try` and its `finally`. `Faults` says which steps fail, any number of them, and what a failed write
leaves in the temporary file. `runSteps` is an operation taken through these steps; the variable
`temporary_path` is part of what it works on, since the `finally` goes by it.

Assumed: `os.replace` is atomic, the `unlink` in the `finally` succeeds, and a temporary file that
cannot be created is not there. A text that cannot be encoded or decoded fails its step.

Results:
* `replaceFile_spec`: the `try` ends with the old file or the new one, without its temporary file.
* `runSteps_spec`: **a call returns what the operation returns, or raises the operation's error with
  the file as it was, or stops at a failing step with the old file or the new one.**
* **`writes_all_or_nothing`**: so do the five operations.
-/

namespace ApiTests.Credentials

open Py Program

/-! ## The disk -/

/-- `OWNER_READ_WRITE`. -/
def ownerReadWrite : Nat := 0o600

/-- The temporary file of a call. -/
structure TemporaryFile where
  text : Text
  mode : Nat
  deriving Repr, DecidableEq

/-- What a call works on. -/
structure Disk where
  file : CredentialFile
  /-- The mode of what stands at the path. -/
  mode : Nat
  temporary : Option TemporaryFile
  /-- The variable `temporary_path` is set. -/
  temporaryPath : Bool
  deriving Repr, DecidableEq

/-- A credential file in front of a call. -/
def Disk.before (file : CredentialFile) (mode : Nat) : Disk := ⟨file, mode, none, false⟩

/-- A file-system step of a call. -/
inductive DiskStep where
  /-- `path.exists()`, `path.is_file()`, `path.chmod` and `path.read_text` of the reader. -/
  | readExists
  | readIsFile
  | readChmod
  | readText
  /-- `path.exists()` and `path.read_text` of the writer. -/
  | updateExists
  | updateReadText
  | mkdir
  | createTemporary
  | chmodTemporary
  | writelines
  | closeTemporary
  | replace
  /-- `path.chmod` behind the replacement. -/
  | updateChmod
  deriving Repr, DecidableEq

/-- What a call raises. -/
inductive CallError where
  | credentialError (e : LocalCredentialError)
  /-- The `OSError` or `UnicodeError` of a step. -/
  | stepError (step : DiskStep)
  deriving Repr, DecidableEq

/-- The steps that fail. -/
structure Faults where
  fails : DiskStep → Bool
  /-- What the temporary file holds behind a write or a close that failed. -/
  left : Text

/-- A piece of a call. -/
abbrev Call := Program Disk CallError

/-- A check of an operation, in a call. -/
def checked {α : Type} (x : Checked α) : Call α := Program.lift (x.mapError .credentialError)

variable (faults : Faults)

/-- A step that may fail. -/
def attempt (step : DiskStep) : Call Unit :=
  if faults.fails step then Program.raise (.stepError step) else pure ()

/-! ## The reader -/

/-- `_read_credential_file`. -/
def readFile (path : Text) : Call Values := do
  attempt faults .readExists
  let disk ← Program.get
  if disk.file = .absent then checked (readCredentialFile path disk.file)
  else do
    attempt faults .readIsFile
    if disk.file = .notFile then checked (readCredentialFile path disk.file)
    else do
      attempt faults .readChmod
      Program.modify fun disk => { disk with mode := ownerReadWrite }
      attempt faults .readText
      checked (readCredentialFile path disk.file)

/-! ## The writer -/

/-- `path.read_text(encoding="utf-8") if path.exists() else ""`. -/
def readContent : Call Text := do
  attempt faults .updateExists
  let disk ← Program.get
  if disk.file = .absent then pure []
  else if disk.file = .notFile then Program.raise (.stepError .updateReadText)
  else do
    attempt faults .updateReadText
    pure disk.file.content

/-- The temporary file with another text. -/
def Disk.putText (text : Text) (disk : Disk) : Disk :=
  { disk with temporary := disk.temporary.map fun t => { t with text := text } }

/-- `os.chmod(temporary_path, OWNER_READ_WRITE)`. -/
def Disk.protectTemporary (disk : Disk) : Disk :=
  { disk with temporary := disk.temporary.map fun t => { t with mode := ownerReadWrite } }

/-- A step that leaves part of the text in the temporary file where it fails. -/
def attemptWrite (step : DiskStep) : Call Unit :=
  if faults.fails step then do
    Program.modify (Disk.putText faults.left)
    Program.raise (.stepError step)
  else pure ()

/-- `with tempfile.NamedTemporaryFile(...)`: the file is made with the mode of `mkstemp`, and closed
wherever the block ends. -/
def writeTemporary (text : Text) : Call Unit := do
  attempt faults .createTemporary
  Program.modify fun disk => { disk with temporary := some ⟨[], ownerReadWrite⟩ }
  Program.withCleanup (do
      Program.modify fun disk => { disk with temporaryPath := true }
      attempt faults .chmodTemporary
      Program.modify Disk.protectTemporary
      attemptWrite faults .writelines
      Program.modify (Disk.putText text))
    (attemptWrite faults .closeTemporary)

/-- `os.replace(temporary_path, path)`. -/
def Disk.replaced (disk : Disk) : Disk :=
  match disk.temporary with
  | some t => { disk with file := .file t.text, mode := t.mode, temporary := none }
  | none => disk

/-- `if temporary_path is not None: temporary_path.unlink(missing_ok=True)`. -/
def Disk.unlinkTemporary (disk : Disk) : Disk :=
  if disk.temporaryPath then { disk with temporary := none } else disk

/-- The `try` of `_update_credential_file`. -/
def replaceFile (text : Text) : Call Unit := do
  Program.modify fun disk => { disk with temporaryPath := false }
  Program.withCleanup (do
      writeTemporary faults text
      attempt faults .replace
      Program.modify Disk.replaced
      Program.modify fun disk => { disk with temporaryPath := false }
      attempt faults .updateChmod
      Program.modify fun disk => { disk with mode := ownerReadWrite })
    (Program.modify Disk.unlinkTemporary)

/-- `_update_credential_file`. -/
def updateFile (updates : Values) : Call Unit := do
  let content ← readContent faults
  attempt faults .mkdir
  replaceFile faults (updatedText content updates)

/-! ## A call -/

section

variable {α : Type}

/-- The part of a call behind its checks. -/
def Plan.runSteps : Plan α → Call α
  | .done result => pure result
  | .write updates result => do
    updateFile faults updates
    pure result

/-- An operation, step by step. -/
def runSteps (path : Text) (op : Operation α) : Call α := do
  let body ← checked op
  let values ← readFile faults path
  let plan ← checked (body values)
  plan.runSteps faults

end

/-- A call whose result is left out. -/
def callOf {α : Type} (path : Text) (op : Operation α) : Call Unit := do
  let _ ← runSteps faults path op
  pure ()

namespace WriterOp

/-- A call of the operation. -/
def call (config : EnvironmentConfig) (path : Text) : WriterOp → Call Unit
  | loadLocal role environ generator =>
    callOf faults path (loadOrCreateLocalCredentials config role environ path generator)
  | loadDisposable environ runId scenarioId generator =>
    callOf faults path
      (loadOrCreateDisposableCredentials config environ runId scenarioId path generator)
  | markLocal role credentials =>
    callOf faults path (markLocalCredentialsComplete config role credentials path)
  | markDisposable record =>
    callOf faults path (markDisposableCredentialsComplete config record path)
  | bind record currentRunId currentScenarioId subject userId reusableSubjects reusableUserIds =>
    callOf faults path (bindDisposableIdentity config record currentRunId currentScenarioId subject
      userId reusableSubjects reusableUserIds path)

/-- The file with the operation's variables written to it, where it writes any. -/
def updated (config : EnvironmentConfig) (path : Text) (op : WriterOp) (file : CredentialFile) :
    CredentialFile :=
  match op.planned config path file with
  | some updates => updatedFile updates file
  | none => file

end WriterOp

/-! ## What the steps leave -/

/-- The error is that of a failing step. -/
def Faults.Stops (faults : Faults) (e : CallError) : Prop :=
  ∃ step, e = .stepError step ∧ faults.fails step = true

/-- The file as it was, and no temporary file. -/
structure Untouched (old : CredentialFile) (disk : Disk) : Prop where
  file : disk.file = old
  temporary : disk.temporary = none

/-- The new file, for its owner only, and no temporary file. -/
structure Replaced (new : CredentialFile) (disk : Disk) : Prop where
  file : disk.file = new
  mode : disk.mode = ownerReadWrite
  temporary : disk.temporary = none

/-- Inside the `try`: the old file or the new one, and no temporary file the `finally` misses. -/
structure Unfinished (old new : CredentialFile) (disk : Disk) : Prop where
  file : disk.file = old ∨ disk.file = new ∧ disk.mode = ownerReadWrite
  temporary : disk.temporary ≠ none → disk.temporaryPath = true

/-- Inside the `with` block: the old file, and a temporary file that the `finally` finds. -/
structure Opened (old : CredentialFile) (disk : Disk) : Prop where
  file : disk.file = old
  temporary : ∃ t, disk.temporary = some t
  temporaryPath : disk.temporaryPath = true

/-- The whole text is in the temporary file. -/
structure Filled (old : CredentialFile) (text : Text) (disk : Disk) : Prop where
  file : disk.file = old
  temporary : disk.temporary = some ⟨text, ownerReadWrite⟩
  temporaryPath : disk.temporaryPath = true

variable {faults} {P : Disk → Prop} {E : CallError → Disk → Prop} {old new : CredentialFile}

/-- A step keeps what it finds. -/
theorem attempt_spec {step : DiskStep} (h : ∀ e d, faults.Stops e → P d → E e d) :
    Triple P (attempt faults step) (fun _ => P) E := by
  unfold attempt
  refine Triple.ite (fun hfails => ?_) fun _ => Triple.pure fun _ hd => hd
  exact Triple.raise fun d hd => h _ d ⟨step, rfl, hfails⟩ hd

/-- A step that writes the temporary file keeps what it finds, or leaves another text in it. -/
theorem attemptWrite_spec {step : DiskStep}
    (h : ∀ e text d, faults.Stops e → P d → E e (d.putText text)) :
    Triple P (attemptWrite faults step) (fun _ => P) E := by
  unfold attemptWrite
  refine Triple.ite (fun hfails => ?_) fun _ => Triple.pure fun _ hd => hd
  refine Triple.bind (Q := fun _ d => E (.stepError step) d)
    (Triple.modify fun d hd => h _ _ d ⟨step, rfl, hfails⟩ hd) fun _ => ?_
  exact Triple.raise fun d hd => hd

theorem checked_spec {α : Type} {x : Checked α} {Q : α → Disk → Prop}
    (hok : ∀ a, x = .ok a → ∀ d, P d → Q a d)
    (herror : ∀ e, x = .error e → ∀ d, P d → E (.credentialError e) d) :
    Triple P (checked x) Q E := by
  unfold checked
  cases x with
  | ok a => exact Triple.lift (fun b hb d hd => by cases hb; exact hok a rfl d hd) nofun
  | error e => exact Triple.lift nofun fun b hb d hd => by cases hb; exact herror e rfl d hd

theorem temporary_putText {disk : Disk} {t : TemporaryFile} (h : disk.temporary = some t)
    (text : Text) : (disk.putText text).temporary = some ⟨text, t.mode⟩ := by
  unfold Disk.putText
  rw [h]
  rfl

theorem temporary_protectTemporary {disk : Disk} {t : TemporaryFile} (h : disk.temporary = some t) :
    disk.protectTemporary.temporary = some ⟨t.text, ownerReadWrite⟩ := by
  unfold Disk.protectTemporary
  rw [h]
  rfl

theorem Opened.putText {disk : Disk} (h : Opened old disk) (text : Text) :
    Opened old (disk.putText text) := by
  obtain ⟨t, ht⟩ := h.temporary
  exact ⟨h.file, ⟨_, temporary_putText ht text⟩, h.temporaryPath⟩

theorem Opened.unfinished {disk : Disk} (h : Opened old disk) : Unfinished old new disk :=
  ⟨Or.inl h.file, fun _ => h.temporaryPath⟩

theorem Filled.opened {text : Text} {disk : Disk} (h : Filled old text disk) : Opened old disk :=
  ⟨h.file, ⟨_, h.temporary⟩, h.temporaryPath⟩

/-- The replacement puts the whole text at the path. -/
theorem Filled.replaced {text : Text} {disk : Disk} (h : Filled old text disk) :
    Replaced (.file text) disk.replaced := by
  unfold Disk.replaced
  rw [h.temporary]
  exact ⟨rfl, rfl, rfl⟩

/-- The `finally` removes the temporary file where there is one. -/
theorem unlinkTemporary_spec {disk : Disk} (h : disk.temporary ≠ none → disk.temporaryPath = true) :
    disk.unlinkTemporary.file = disk.file ∧ disk.unlinkTemporary.mode = disk.mode ∧
      disk.unlinkTemporary.temporary = none := by
  unfold Disk.unlinkTemporary
  by_cases hpath : disk.temporaryPath = true
  · rw [if_pos hpath]
    exact ⟨rfl, rfl, rfl⟩
  · rw [if_neg hpath]
    refine ⟨rfl, rfl, ?_⟩
    by_contra hne
    exact hpath (h hne)

theorem Replaced.unfinished {disk : Disk} (h : Replaced new disk) : Unfinished old new disk :=
  ⟨Or.inr ⟨h.file, h.mode⟩, fun hne => absurd h.temporary hne⟩

/-- **The reader leaves the file as it was.** -/
theorem readFile_spec (path : Text) :
    Triple (Untouched old) (readFile faults path)
      (fun values d => Untouched old d ∧ readCredentialFile path old = .ok values)
      (fun e d => Untouched old d ∧ (faults.Stops e ∨
        ∃ c, e = .credentialError c ∧ readCredentialFile path old = .error c)) := by
  have hattempt : ∀ step, Triple (Untouched old) (attempt faults step) (fun _ => Untouched old)
      fun e d => Untouched old d ∧ (faults.Stops e ∨
        ∃ c, e = .credentialError c ∧ readCredentialFile path old = .error c) :=
    fun step => attempt_spec fun e d he hd => ⟨hd, Or.inl he⟩
  have hchecked : Triple (Untouched old) (checked (readCredentialFile path old))
      (fun values d => Untouched old d ∧ readCredentialFile path old = .ok values)
      (fun e d => Untouched old d ∧ (faults.Stops e ∨
        ∃ c, e = .credentialError c ∧ readCredentialFile path old = .error c)) :=
    checked_spec (fun values h d hd => ⟨hd, h⟩) fun c h d hd => ⟨hd, Or.inr ⟨c, rfl, h⟩⟩
  unfold readFile
  refine Triple.bind (hattempt _) fun _ => Triple.getBind fun disk hdisk => ?_
  rw [hdisk.file]
  refine Triple.ite (fun _ => hchecked) fun _ => Triple.bind (hattempt _) fun _ => ?_
  refine Triple.ite (fun _ => hchecked) fun _ => Triple.bind (hattempt _) fun _ => ?_
  refine Triple.bind (Triple.modify (Q := fun _ => Untouched old) fun d hd => ⟨hd.1, hd.2⟩)
    fun _ => ?_
  exact Triple.bind (hattempt _) fun _ => hchecked

/-- What the writer reads is what it replaces. -/
theorem readContent_spec (hfile : old ≠ .notFile) :
    Triple (Untouched old) (readContent faults)
      (fun content d => Untouched old d ∧ content = old.content)
      (fun e d => faults.Stops e ∧ Untouched old d) := by
  have hattempt : ∀ step, Triple (Untouched old) (attempt faults step) (fun _ => Untouched old)
      fun e d => faults.Stops e ∧ Untouched old d :=
    fun step => attempt_spec fun e d he hd => ⟨he, hd⟩
  unfold readContent
  refine Triple.bind (hattempt _) fun _ => Triple.getBind fun disk hdisk => ?_
  rw [hdisk.file, if_neg hfile]
  refine Triple.ite (fun habsent => ?_) fun _ => ?_
  · exact Triple.pure fun d hd => ⟨hd, by rw [habsent]; rfl⟩
  · exact Triple.bind (hattempt _) fun _ => Triple.pure fun d hd => ⟨hd, rfl⟩

/-- **The `with` block fills the temporary file**, or leaves one that the `finally` finds. -/
theorem writeTemporary_spec (text : Text) :
    Triple (Untouched old) (writeTemporary faults text) (fun _ => Filled old text)
      (fun e d => faults.Stops e ∧ Unfinished old new d) := by
  unfold writeTemporary
  refine Triple.bind (attempt_spec fun e d he hd => ⟨he, Or.inl hd.file, ?_⟩) fun _ => ?_
  · exact fun h => absurd hd.temporary h
  refine Triple.bind (Triple.modify (Q := fun _ d => d.file = old ∧
    ∃ t, d.temporary = some t) fun d hd => ⟨hd.file, _, rfl⟩) fun _ => ?_
  refine Triple.weaken (E := fun e d => faults.Stops e ∧ Opened old d) ?_ (fun _ hd => hd)
    (fun _ _ hd => hd) fun e d hd => ⟨hd.1, Or.inl hd.2.file, fun _ => hd.2.temporaryPath⟩
  refine Triple.withCleanup (M := fun _ => Filled old text)
    (F := fun e d => faults.Stops e ∧ Opened old d) ?_ (fun _ => ?_) fun e => ?_
  · refine Triple.bind (Triple.modify (Q := fun _ => Opened old)
      fun d hd => ⟨hd.1, hd.2, rfl⟩) fun _ => ?_
    refine Triple.bind (attempt_spec fun e d he hd => ⟨he, hd⟩) fun _ => ?_
    refine Triple.bind (Triple.modify (Q := fun _ d => Opened old d ∧
      ∃ t, d.temporary = some ⟨t, ownerReadWrite⟩) ?_) fun _ => ?_
    · rintro d ⟨hfile, ⟨t, ht⟩, hpath⟩
      have ht := temporary_protectTemporary ht
      exact ⟨⟨hfile, ⟨_, ht⟩, hpath⟩, t.text, ht⟩
    refine Triple.bind (attemptWrite_spec fun e left d he hd => ⟨he, hd.1.putText left⟩) fun _ => ?_
    refine Triple.modify ?_
    rintro d ⟨hd, t, ht⟩
    exact ⟨hd.file, temporary_putText ht text, hd.temporaryPath⟩
  · exact attemptWrite_spec fun e left d he hd => ⟨he, hd.opened.putText left⟩
  · exact attemptWrite_spec fun e' left d he hd => ⟨he, hd.2.putText left⟩

/-- **The `try` ends with the old file or the new one**, and without its temporary file. -/
theorem replaceFile_spec (text : Text) :
    Triple (Untouched old) (replaceFile faults text) (fun _ => Replaced (.file text))
      (fun e d => faults.Stops e ∧ d.temporary = none ∧
        (d.file = old ∨ d.file = .file text ∧ d.mode = ownerReadWrite)) := by
  unfold replaceFile
  refine Triple.bind (Triple.modify (Q := fun _ => Untouched old) fun d hd => ⟨hd.1, hd.2⟩)
    fun _ => ?_
  refine Triple.withCleanup (M := fun _ => Replaced (.file text))
    (F := fun e d => faults.Stops e ∧ Unfinished old (.file text) d) ?_ (fun _ => ?_) fun e => ?_
  · refine Triple.bind (writeTemporary_spec text) fun _ => ?_
    refine Triple.bind (attempt_spec fun e d he hd => ⟨he, hd.opened.unfinished⟩) fun _ => ?_
    refine Triple.bind (Triple.modify (Q := fun _ => Replaced (.file text))
      fun d hd => hd.replaced) fun _ => ?_
    refine Triple.bind (Triple.modify (Q := fun _ => Replaced (.file text))
      fun d hd => ⟨hd.file, hd.mode, hd.temporary⟩) fun _ => ?_
    refine Triple.bind (attempt_spec fun e d he hd => ⟨he, hd.unfinished⟩) fun _ => ?_
    exact Triple.modify fun d hd => ⟨hd.file, rfl, hd.temporary⟩
  · refine Triple.modify fun d hd => ?_
    obtain ⟨hfile, hmode, htemporary⟩ := unlinkTemporary_spec fun hne => absurd hd.temporary hne
    exact ⟨hfile.trans hd.file, hmode.trans hd.mode, htemporary⟩
  · refine Triple.modify fun d hd => ⟨hd.1, ?_⟩
    obtain ⟨hfile, hmode, htemporary⟩ := unlinkTemporary_spec hd.2.temporary
    rw [hfile, hmode]
    exact ⟨htemporary, hd.2.file⟩

/-! ## What a call leaves -/

theorem updatedFile_of_ne (h : old ≠ .notFile) (updates : Values) :
    updatedFile updates old = .file (updatedText old.content updates) := by
  cases old with
  | absent => rfl
  | notFile => exact absurd rfl h
  | file stored => rfl

/-- **The writer ends with the old file or with the updated one.** -/
theorem updateFile_spec (h : old ≠ .notFile) (updates : Values) :
    Triple (Untouched old) (updateFile faults updates)
      (fun _ => Replaced (updatedFile updates old))
      (fun e d => faults.Stops e ∧ d.temporary = none ∧
        (d.file = old ∨ d.file = updatedFile updates old ∧ d.mode = ownerReadWrite)) := by
  rw [updatedFile_of_ne h]
  have huntouched : ∀ e d, faults.Stops e → Untouched old d → faults.Stops e ∧ d.temporary = none ∧
      (d.file = old ∨ d.file = .file (updatedText old.content updates) ∧ d.mode = ownerReadWrite) :=
    fun e d he hd => ⟨he, hd.temporary, Or.inl hd.file⟩
  unfold updateFile
  refine Triple.bind (Triple.weaken (readContent_spec h) (fun _ hd => hd) (fun _ _ hd => hd)
    fun e d hd => huntouched e d hd.1 hd.2) fun content => ?_
  refine Triple.bind (attempt_spec fun e d he hd => huntouched e d he hd.1) fun _ => ?_
  refine Triple.assume (fun _ hd => hd.2) fun hcontent => ?_
  rw [hcontent]
  exact Triple.weaken (replaceFile_spec _) (fun _ hd => hd.1) (fun _ _ hd => hd) fun _ _ hd => hd

section

variable {α : Type} {path : Text}

/-- What a call may leave of a file `old` that the operation's plan rewrites. -/
structure Raised (faults : Faults) (planned : Checked (Plan α)) (old : CredentialFile)
    (e : CallError) (disk : Disk) : Prop where
  temporary : disk.temporary = none
  /-- The operation's own error, or that of a failing step. -/
  error : (∃ c, e = .credentialError c ∧ planned = .error c ∧ disk.file = old) ∨
    faults.Stops e ∧ (disk.file = old ∨
      (∃ plan, planned = .ok plan ∧ disk.file = plan.rewritten old) ∧ disk.mode = ownerReadWrite)

theorem Raised.untouched {planned : Checked (Plan α)} {e : CallError} {disk : Disk}
    (h : Untouched old disk)
    (he : faults.Stops e ∨ ∃ c, e = .credentialError c ∧ planned = .error c) :
    Raised faults planned old e disk := by
  refine ⟨h.temporary, ?_⟩
  rcases he with he | ⟨c, rfl, hc⟩
  · exact Or.inr ⟨he, Or.inl h.file⟩
  · exact Or.inl ⟨c, rfl, hc, h.file⟩

/-- **A call carries out the operation's plan, or raises its error with the file as it was, or
stops at a failing step with the old file or the new one.** -/
theorem runSteps_spec (op : Operation α) :
    Triple (Untouched old) (runSteps faults path op)
      (fun result d => (∃ plan, planOf path op old = .ok plan ∧ result = plan.result ∧
          d.file = plan.rewritten old) ∧ d.temporary = none ∧
        (d.file = old ∨ d.mode = ownerReadWrite))
      (Raised faults (planOf path op old) old) := by
  unfold runSteps
  refine Triple.bind (Q := fun body d => Untouched old d ∧ op = .ok body)
    (checked_spec (fun body h d hd => ⟨hd, h⟩) fun c h d hd => Raised.untouched hd ?_)
    fun body => ?_
  · exact Or.inr ⟨c, rfl, by rw [h]; rfl⟩
  refine Triple.assume (fun _ hd => hd.2) fun hop => ?_
  refine Triple.bind (Triple.weaken (readFile_spec path) (fun _ hd => hd.1) (fun _ _ hd => hd) ?_)
    fun values => ?_
  · rintro e d ⟨hd, he⟩
    refine Raised.untouched hd (he.imp_right ?_)
    rintro ⟨c, rfl, hc⟩
    exact ⟨c, rfl, by rw [planOf, hop, hc]; rfl⟩
  refine Triple.assume (fun _ hd => hd.2) fun hread => ?_
  refine Triple.bind (Q := fun plan d => Untouched old d ∧ body values = .ok plan)
    (checked_spec (fun plan h d hd => ⟨hd.1, h⟩) fun c h d hd => Raised.untouched hd.1 ?_)
    fun plan => ?_
  · exact Or.inr ⟨c, rfl, by rw [planOf_of_read hread, hop]; exact h⟩
  refine Triple.assume (fun _ hd => hd.2) fun hplan => ?_
  have hplanned : planOf path op old = .ok plan :=
    planOf_eq_ok.mpr ⟨body, values, hop, hread, hplan⟩
  rw [hplanned]
  cases plan with
  | done result =>
    exact Triple.pure fun d hd => ⟨⟨_, rfl, rfl, hd.1.file⟩, hd.1.temporary, Or.inl hd.1.file⟩
  | write updates result =>
    have hfile : old ≠ .notFile := (readCredentialFile_eq_ok_iff.mp hread).1
    refine Triple.bind (Triple.weaken (updateFile_spec hfile updates) (fun _ hd => hd.1)
      (fun _ _ hd => hd) fun e d hd => ⟨hd.2.1, Or.inr ⟨hd.1, hd.2.2.imp_right fun hnew =>
        ⟨⟨_, rfl, hnew.1⟩, hnew.2⟩⟩⟩) fun _ => ?_
    exact Triple.pure fun d hd => ⟨⟨_, rfl, rfl, hd.file⟩, hd.temporary, Or.inr hd.mode⟩

/-- **All or nothing**: the end of a call on a file `old` that the operation takes to `new`. -/
structure AllOrNothing (faults : Faults) (old new : CredentialFile)
    (ended : Except CallError Unit × Disk) : Prop where
  /-- A `LocalCredentialError` leaves the file as it was. -/
  rejected : ∀ e, ended.1 = .error (.credentialError e) → ended.2.file = old
  /-- Whatever fails, the file is the complete old one or the complete new one. -/
  whole : ended.2.file = old ∨ ended.2.file = new
  temporary : ended.2.temporary = none
  /-- A new file is for its owner only. -/
  ownerOnly : ended.2.file = old ∨ ended.2.mode = ownerReadWrite
  /-- A call that returns has written the new file. -/
  returned : ended.1 = .ok () → ended.2.file = new
  /-- Any other exception is that of a failing step. -/
  stopped : ∀ step, ended.1 = .error (.stepError step) → faults.fails step = true

/-- The file with what an operation plans to write to it, where it plans any. -/
def plannedFile (path : Text) (op : Operation α) (file : CredentialFile) : CredentialFile :=
  match planOf path op file with
  | .error _ => file
  | .ok plan => plan.rewritten file

theorem plannedFile_of_plan {op : Operation α} {file : CredentialFile} {plan : Plan α}
    (h : planOf path op file = .ok plan) : plannedFile path op file = plan.rewritten file := by
  rw [plannedFile, h]

theorem callOf_allOrNothing (op : Operation α) (mode : Nat) :
    AllOrNothing faults old (plannedFile path op old) (callOf faults path op (.before old mode)) := by
  have hspec : Triple (Untouched old) (callOf faults path op)
      (fun _ d => d.file = plannedFile path op old ∧ d.temporary = none ∧
        (d.file = old ∨ d.mode = ownerReadWrite))
      (Raised faults (planOf path op old) old) := by
    unfold callOf
    refine Triple.bind (runSteps_spec op) fun result => Triple.pure fun d hd => ?_
    obtain ⟨⟨plan, hplan, -, hfile⟩, hrest⟩ := hd
    exact ⟨by rw [hfile, plannedFile_of_plan hplan], hrest⟩
  have hend := hspec (.before old mode) ⟨rfl, rfl⟩
  rcases hrun : callOf faults path op (.before old mode) with ⟨result, disk⟩
  rw [hrun] at hend
  cases result with
  | ok u =>
    obtain ⟨hfile, htemporary, hmode⟩ := hend
    exact ⟨nofun, Or.inr hfile, htemporary, hmode, fun _ => hfile, nofun⟩
  | error e =>
    refine ⟨fun c hc => ?_, ?_, hend.temporary, ?_, nofun, fun step hstep => ?_⟩
    · cases hc
      rcases hend.error with ⟨_, -, -, hfile⟩ | ⟨⟨_, hstep, -⟩, -⟩
      · exact hfile
      · exact nomatch hstep
    · rcases hend.error with ⟨_, -, -, hfile⟩ | ⟨-, hfile | ⟨⟨plan, hplan, hfile⟩, -⟩⟩
      · exact Or.inl hfile
      · exact Or.inl hfile
      · exact Or.inr (hfile.trans (plannedFile_of_plan hplan).symm)
    · rcases hend.error with ⟨_, -, -, hfile⟩ | ⟨-, hfile⟩
      · exact Or.inl hfile
      · exact hfile.imp_right And.right
    · cases hstep
      rcases hend.error with ⟨_, hc, -⟩ | ⟨⟨_, hstep, hfails⟩, -⟩
      · exact nomatch hc
      · cases hstep
        exact hfails

end

/-- What an operation writes is what it plans. -/
theorem updated_eq {α : Type} {config : EnvironmentConfig} {path : Text} {op : WriterOp}
    {operation : Operation α} {file : CredentialFile}
    (h : op.planned config path file = plannedUpdates path operation file) :
    op.updated config path file = plannedFile path operation file := by
  unfold WriterOp.updated plannedFile
  rw [h, plannedUpdates]
  cases planOf path operation file with
  | error e => rfl
  | ok plan => cases plan <;> rfl

/-- **The operations on the credential file are all or nothing**, whichever of their steps fail. -/
theorem writes_all_or_nothing (config : EnvironmentConfig) (path : Text) (op : WriterOp)
    (faults : Faults) (file : CredentialFile) (mode : Nat) :
    AllOrNothing faults file (op.updated config path file)
      (op.call faults config path (.before file mode)) := by
  cases op with
  | loadLocal role environ generator =>
    rw [updated_eq rfl]
    exact callOf_allOrNothing _ mode
  | loadDisposable environ runId scenarioId generator =>
    rw [updated_eq rfl]
    exact callOf_allOrNothing _ mode
  | markLocal role credentials =>
    rw [updated_eq rfl]
    exact callOf_allOrNothing _ mode
  | markDisposable record =>
    rw [updated_eq rfl]
    exact callOf_allOrNothing _ mode
  | bind record currentRunId currentScenarioId subject userId reusableSubjects reusableUserIds =>
    rw [updated_eq rfl]
    exact callOf_allOrNothing _ mode

end ApiTests.Credentials
