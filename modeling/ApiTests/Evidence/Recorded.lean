import ApiTests.Evidence.Completed
import ApiTests.Py.JsonString

/-!
# Failed evidence says so

The handler of `generate_dependency_evidence` (`dependency_evidence.py:643-647`) takes back
`completion.json` and records the failure, for three types of exceptions. Some of what the stages call
raises another: a command's output or `browsers.json` that is no UTF-8, a JSON text that is too deep, a
path that cannot be resolved, a text that cannot be written.

What a run should record is said by `stagedRun`, which labels each failure with the name of the stage it
comes from. Whether it records it depends on the answers alone: each has its moment, and `readings` is
what the readers make of them.

Results:
* `stagedRun_labels`: the stage that a run remembers is the one that is running.
* `generateStages_decides`: **the stages raise another exception iff an answer leads to one.**
* **`failure_recorded_iff`**: a run ends with its certificate or with its failure on record, unless an
  answer leads to another exception.
-/

namespace ApiTests.Evidence

open Py Program Dependencies

variable (world : World) (arguments : Arguments)

/-! ## The answers -/

/-- What the commands of the stages answer. -/
structure Answers where
  uvVersion : Except Failure CompletedProcess
  scannerVersion : Except Failure CompletedProcess
  lockCheck : Except Failure CompletedProcess
  syncCheck : Except Failure CompletedProcess
  lockExport : Except Failure CompletedProcess
  dependencyTree : Except Failure CompletedProcess
  inventory : Except Failure CompletedProcess
  audit : Except Failure CompletedProcess
  sbom : Except Failure CompletedProcess

/-- The moment at which the stages start: the directory is made, the names are unlinked, and the
diagnostics are written. -/
def firstMoment : Nat := 1 + (generatedOutputs ++ legacyOutputs).length + 3

/-- Each command has its moment: between two of them there are the writes of a stage. -/
def answersOf (contract : DependencyContract) : Answers where
  uvVersion := world.respond firstMoment [arguments.uvExecutable, lit "--version"]
  scannerVersion := world.respond (firstMoment + 1) [arguments.scannerExecutable, lit "--version"]
  lockCheck := world.respond (firstMoment + 2)
    (frozenLockCheckCommand arguments.uvExecutable arguments.pythonExecutable)
  syncCheck := world.respond (firstMoment + 3) (frozenSyncCheckCommand arguments.uvExecutable)
  lockExport := world.respond (firstMoment + 4) (exportCommand arguments)
  dependencyTree := world.respond (firstMoment + 9) (treeCommand arguments contract)
  inventory := world.respond (firstMoment + 12) (inventoryCommand arguments)
  audit := world.respond (firstMoment + 17) (scannerCommand arguments (lit "json"))
  sbom := world.respond (firstMoment + 18) (scannerCommand arguments (lit "cyclonedx-json"))

/-! ## What the readers make of an answer -/

/-- A text that is to be written. -/
def encodable (text : Text) : Except Failure Unit := raiseWhen (encodeUtf8 text = none) .other

/-- A document that is to be written. -/
def shallow (document : Json PyNumber) : Except Failure Unit :=
  raiseWhen (world.encoderDepth < document.depth) .other

/-- The answer to a command that has to succeed. -/
def required (answer : Except Failure CompletedProcess) (message : Text) :
    Except Failure CompletedProcess := do
  let result ← answer
  requireCommand world result message

def readExport (answer : Except Failure CompletedProcess) : Except Failure (List PackageRecord) := do
  let result ← required world answer (lit "could not export the frozen lock")
  let lockPackages ← parseLockExport world.toLibrary result.stdout
  encodable result.stdout
  pure lockPackages

def readTree (answer : Except Failure CompletedProcess) : Except Failure DependencyTree := do
  let result ← required world answer (lit "could not generate the frozen dependency tree")
  let tree ← parseDependencyTree world.toLibrary result.stdout
  shallow world tree.document
  pure tree

def readInventory (answer : Except Failure CompletedProcess) : Except Failure (List PackageRecord) := do
  let result ← required world answer (lit "could not inventory the installed environment")
  let root ← resolvedPath world arguments.root
  let inventory ← parseInstalledInventory world.toLibrary result.stdout root
  pure inventory.2

def readBrowsers : Except Failure Unit := do
  let metadata ← playwrightBrowserMetadata world
  shallow world metadata

def readAudit (answer : Except Failure CompletedProcess) : Except Failure AuditReport := do
  let result ← answer
  parseAuditReport world.toLibrary result.stdout result.returncode

def readSbom (answer : Except Failure CompletedProcess) : Except Failure SbomReport := do
  let result ← answer
  parseSbomReport world.toLibrary result.stdout result.returncode

/-- The outcome of a reading. -/
def outcome {α : Type} (reading : Except Failure α) : Except Failure Unit := reading.map fun _ => ()

/-- What the readers make of the answers, in the order in which the stages look at them. -/
def readings (contract : DependencyContract) (answers : Answers) : List (Except Failure Unit) :=
  [checkPython world contract,
    required world answers.uvVersion (lit "uv failed") >>= checkUv world contract,
    required world answers.scannerVersion (lit "pip-audit failed") >>= checkScanner world contract,
    outcome (required world answers.lockCheck (lit "uv.lock is stale or invalid")),
    outcome (required world answers.syncCheck
      (lit "installed environment does not match the frozen lock")),
    outcome (readExport world answers.lockExport),
    outcome (readTree world answers.dependencyTree),
    outcome (readInventory world arguments answers.inventory),
    readBrowsers world,
    answers.audit >>= fun audit => answers.sbom >>= fun sbom => encodable (scannerErrors world audit sbom),
    outcome (readAudit world answers.audit),
    outcome (readSbom world answers.sbom),
    readAudit world answers.audit >>= fun audit => readSbom world answers.sbom >>= checkCounts audit,
    readAudit world answers.audit >>= fun audit => shallow world (.dict audit.document),
    readSbom world answers.sbom >>= fun sbom => shallow world (.dict sbom.document),
    readAudit world answers.audit >>= fun audit =>
      humanFindings world.toLibrary audit.document >>= encodable]

/-- **An answer leads to an exception that the handler does not take**, and those before it are taken. -/
def Escapes : Prop :=
  loadContract world = .error .other ∨ ∃ contract, loadContract world = .ok contract ∧
    ∃ earlier later, readings world arguments contract (answersOf world arguments contract) =
      earlier ++ .error .other :: later ∧ ∀ reading ∈ earlier, reading = .ok ()

/-! ## How a run should end -/

/-- A part of a run whose failures carry the name of its stage. -/
def staged {α : Type} (stage : Text) (x : Generator α) : Program Run (Text × Failure) α := fun run =>
  match x run with
  | (.ok a, run') => (.ok a, run')
  | (.error failure, run') => (.error (stage, failure), run')

/-- The run without its handler, each failure with the stage it comes from. -/
def stagedRun : Program Run (Text × Failure) Unit := do
  let contract ← staged (lit "initialize") (do
    initializeOutputs world
    Program.lift (loadContract world))
  staged (lit "verify tools and frozen environment") (do
    setStage (lit "verify tools and frozen environment")
    verifyRuntimeAndTools world arguments contract)
  let lockPackages ← staged (lit "export selected lock graph") (exportLock world arguments)
  let tree ← staged (lit "generate dependency tree") (generateTree world arguments contract)
  let installedPackages ← staged (lit "inventory installed environment")
    (inventoryInstalled world arguments)
  staged (lit "derive Playwright browser metadata") (deriveBrowsers world)
  let reports ← staged (lit "scan selected dependency graph") (scan world arguments)
  staged (lit "enforce exact graph parity") (enforceParity world lockPackages.length
    (comparisonsOf lockPackages tree.packages installedPackages reports.1.packages reports.2.packages))
  staged (lit "write metadata and completion")
    (complete world arguments contract lockPackages.length reports.1)

/-- `"diagnostics.json"`. -/
def diagnosticsName : Text := lit "diagnostics.json"

/-- The document of `_write_diagnostics`. -/
def diagnosticsDocument (moment : Nat) (status stage : Text) (error : Option Text) : Json PyNumber :=
  .dict ([(lit "schema_version", evidenceSchema), (lit "updated_at", .str (world.timestamp moment)),
    (lit "status", .str status), (lit "stage", .str stage)] ++
      (error.map fun message => (lit "error", textJson message)).toList)

/-- The file holds the document. -/
def Holds (directory : Directory) (name : Text) (document : Json PyNumber) : Prop :=
  ∃ bytes, encodeUtf8 (documentText world document) = some bytes ∧
    directory.get? name = some (.file bytes)

/-- `str(exc)`, where the model keeps it. -/
def Failure.message? : Failure → Option Text
  | .evidenceError message => some message
  | .osError message => some message
  | .subprocessError message => some message
  | .other => none

/-- The failure of a stage is on record: no certificate, and the diagnostics have the stage and the text
of the failure, redacted. -/
structure FailureRecorded (directory : Directory) (stage : Text) (failure : Failure) : Prop where
  uncertified : directory.get? completionName = none
  diagnostics : ∃ moment message, (∀ text ∈ failure.message?, message = text) ∧
    Holds world directory diagnosticsName (diagnosticsDocument world moment (lit "failed") stage
      (some (redactText world.unicode message)))

/-- **A run ends with its certificate, or with its failure on record**: that of the stage that raised. -/
def EndsRecorded (directory : Directory) : Prop :=
  match generateDependencyEvidence world arguments (Run.start directory) with
  | (.ok (), run) => ∃ bytes, run.directory.get? completionName = some (.file bytes)
  | (.error _, run) => ∃ stage failure run',
      stagedRun world arguments (Run.start directory) = (.error (stage, failure), run') ∧
        FailureRecorded world run.directory stage failure

/-- File writes and deletions succeed. -/
structure FilesSucceed (directory : Directory) : Prop where
  operations : ∀ moment, world.fails moment = none
  noDirectory : ∀ name ∈ generatedOutputs ++ legacyOutputs, directory.get? name ≠ some .directory

/-- What `json.dumps` does: it writes numbers in ASCII, and goes deeper than the documents of a fixed
form are. -/
structure EncoderFits : Prop where
  depth : 5 ≤ world.encoderDepth
  ascii : ∀ n, ∀ c ∈ world.numberText n, c < 128

/-! ## The stage that is running -/

variable {world : World} {arguments : Arguments} {run run' : Run} {content : List Nat} {moment : Nat}

/-- A run in this stage. -/
def InStage (stage : Text) (run : Run) : Prop := run.stage = stage

theorem inStage_quiet {stage : Text} : Quiet (InStage stage) := ⟨fun _ _ h => h, fun _ _ h => h⟩

section InStage

variable {stage : Text} {contract : DependencyContract}

theorem runCommand_inStage {command : Command} : Keeps (InStage stage) (runCommand world command) := by
  refine Keeps.bind (tick_keeps inStage_quiet.timeless) fun _ => Keeps.bind Keeps.lift fun _ => ?_
  exact Keeps.bind (Keeps.modify fun _ h => h) fun _ => Keeps.pure

theorem require_inStage {command : Command} {message : Text} :
    Keeps (InStage stage) (require world command message) :=
  Keeps.bind runCommand_inStage fun _ => Keeps.lift

theorem verifyRuntimeAndTools_inStage :
    Keeps (InStage stage) (verifyRuntimeAndTools world arguments contract) := by
  refine Keeps.bind Keeps.lift fun _ => Keeps.bind require_inStage fun _ => Keeps.bind Keeps.lift fun _ => ?_
  refine Keeps.bind require_inStage fun _ => Keeps.bind Keeps.lift fun _ => ?_
  exact Keeps.bind require_inStage fun _ => Keeps.bind require_inStage fun _ => Keeps.pure

theorem initializeOutputs_inStage :
    Keeps (InStage (lit "initialize")) (initializeOutputs world) := by
  refine Keeps.bind (fileOperation_keeps inStage_quiet.timeless) fun _ => ?_
  refine Keeps.bind (unlinkAll_keeps inStage_quiet) fun _ => ?_
  exact Keeps.bind (Triple.modify fun _ _ => rfl) fun _ => writeDiagnostics_keeps inStage_quiet

/-- A part that begins with the name of its stage stays in it. -/
def Announces {α : Type} (stage : Text) (x : Generator α) : Prop :=
  Triple (fun _ => True) x (fun _ _ => True) fun _ => InStage stage

theorem announces_setStage {α : Type} {f : Unit → Generator α} (hf : Keeps (InStage stage) (f ())) :
    Announces stage (setStage stage >>= f) :=
  Triple.bind (Q := fun _ => InStage stage) (Triple.modify fun _ _ => rfl) fun _ =>
    Triple.weaken hf (fun _ h => h) (fun _ _ _ => trivial) fun _ _ h => h

theorem exportLock_announces : Announces (lit "export selected lock graph") (exportLock world arguments) := by
  refine announces_setStage (Keeps.bind require_inStage fun _ => Keeps.bind Keeps.lift fun _ => ?_)
  refine Keeps.bind (writeText_keeps inStage_quiet) fun _ => ?_
  exact Keeps.bind (writeJson_keeps inStage_quiet) fun _ => Keeps.pure

theorem generateTree_announces :
    Announces (lit "generate dependency tree") (generateTree world arguments contract) := by
  refine announces_setStage (Keeps.bind require_inStage fun _ => Keeps.bind Keeps.lift fun _ => ?_)
  exact Keeps.bind (writeJson_keeps inStage_quiet) fun _ => Keeps.pure

theorem inventoryInstalled_announces :
    Announces (lit "inventory installed environment") (inventoryInstalled world arguments) := by
  refine announces_setStage (Keeps.bind require_inStage fun _ => Keeps.bind Keeps.lift fun _ => ?_)
  refine Keeps.bind Keeps.lift ?_
  rintro ⟨project, packages⟩
  exact Keeps.bind (writeJson_keeps inStage_quiet) fun _ => Keeps.pure

theorem deriveBrowsers_announces :
    Announces (lit "derive Playwright browser metadata") (deriveBrowsers world) :=
  announces_setStage (Keeps.bind Keeps.lift fun _ => writeJson_keeps inStage_quiet)

theorem scan_announces : Announces (lit "scan selected dependency graph") (scan world arguments) := by
  refine announces_setStage (Keeps.bind runCommand_inStage fun _ => Keeps.bind runCommand_inStage fun _ => ?_)
  refine Keeps.bind (writeText_keeps inStage_quiet) fun _ => ?_
  refine Keeps.bind (writeJson_keeps inStage_quiet) fun _ => ?_
  refine Keeps.bind Keeps.lift fun _ => Keeps.bind Keeps.lift fun _ => Keeps.bind Keeps.lift fun _ => ?_
  refine Keeps.bind (writeJson_keeps inStage_quiet) fun _ => ?_
  refine Keeps.bind (writeJson_keeps inStage_quiet) fun _ => Keeps.bind Keeps.lift fun _ => ?_
  exact Keeps.bind (writeText_keeps inStage_quiet) fun _ => Keeps.pure

theorem enforceParity_announces {packageCount : Nat} {comparisons : List PackageComparison} :
    Announces (lit "enforce exact graph parity") (enforceParity world packageCount comparisons) :=
  announces_setStage (Keeps.bind (writeJson_keeps inStage_quiet) fun _ => Keeps.lift)

theorem complete_announces {packageCount : Nat} {audit : AuditReport} :
    Announces (lit "write metadata and completion")
      (complete world arguments contract packageCount audit) := by
  have htimeless : ∀ {stage}, Timeless (InStage stage) := inStage_quiet.timeless
  refine announces_setStage (Keeps.bind (metadataDocument_keeps htimeless) fun _ => ?_)
  refine Keeps.bind (writeJson_keeps inStage_quiet) fun _ => ?_
  refine Keeps.bind (writeDiagnostics_keeps inStage_quiet) fun _ => ?_
  refine Keeps.bind (validateCompleteOutputs_keeps htimeless) fun _ => ?_
  refine Keeps.bind (hashOutputs_keeps htimeless) fun _ => Keeps.bind (tick_keeps htimeless) fun _ => ?_
  exact Keeps.bind (writeJson_keeps inStage_quiet) fun _ => validateCompleteOutputs_keeps htimeless

end InStage

/-- From `P` the labelled computation raises what the other one does, with the stage it has reached. -/
def Labels {α : Type} (P : Run → Prop) (x : Generator α) (y : Program Run (Text × Failure) α) : Prop :=
  ∀ run, P run → match x run with
    | (.ok a, run') => y run = (.ok a, run')
    | (.error failure, run') => y run = (.error (run'.stage, failure), run')

theorem Labels.staged {α : Type} {P : Run → Prop} {x : Generator α} {stage : Text}
    (hx : Triple P x (fun _ _ => True) fun _ => InStage stage) : Labels P x (staged stage x) := by
  intro run hrun
  have hend := hx run hrun
  unfold Evidence.staged
  rcases hx : x run with ⟨result, run'⟩
  rw [hx] at hend
  cases result with
  | ok a => rfl
  | error failure =>
    change run'.stage = stage at hend
    rw [← hend]

theorem Labels.bind {α β : Type} {P : Run → Prop} {x : Generator α} {f : α → Generator β}
    {y : Program Run (Text × Failure) α} {g : α → Program Run (Text × Failure) β} (hx : Labels P x y)
    (hf : ∀ a, Labels (fun _ => True) (f a) (g a)) : Labels P (x >>= f) (y >>= g) := by
  intro run hrun
  have hlabel := hx run hrun
  rw [bind_apply]
  rcases hxr : x run with ⟨result, run'⟩
  rw [hxr] at hlabel
  cases result with
  | ok a =>
    rw [bind_of_ok hlabel]
    exact hf a run' trivial
  | error failure => exact bind_of_error hlabel

/-- **The stage that a run remembers is the one that is running.** -/
theorem stagedRun_labels (world : World) (arguments : Arguments) : Labels (InStage (lit "initialize"))
    (initializeOutputs world >>= fun _ => generateStages world arguments) (stagedRun world arguments) := by
  unfold generateStages
  rw [← Program.bind_assoc]
  have hfirst : Keeps (InStage (lit "initialize")) (initializeOutputs world >>= fun _ =>
      Program.lift (loadContract world)) := Keeps.bind initializeOutputs_inStage fun _ => Keeps.lift
  refine Labels.bind (Labels.staged (hfirst.weaken (fun _ h => h) (fun _ _ _ => trivial)
    fun _ _ h => h)) fun contract => ?_
  rw [← Program.bind_assoc]
  refine Labels.bind (Labels.staged (announces_setStage verifyRuntimeAndTools_inStage)) fun _ => ?_
  refine Labels.bind (Labels.staged exportLock_announces) fun lockPackages => ?_
  refine Labels.bind (Labels.staged generateTree_announces) fun tree => ?_
  refine Labels.bind (Labels.staged inventoryInstalled_announces) fun installedPackages => ?_
  refine Labels.bind (Labels.staged deriveBrowsers_announces) fun _ => ?_
  refine Labels.bind (Labels.staged scan_announces) fun reports => ?_
  refine Labels.bind (Labels.staged enforceParity_announces) fun _ => ?_
  exact Labels.staged complete_announces

/-! ## Single steps -/

theorem tick_run : tick run = (.ok run.clock, { run with clock := run.clock + 1 }) := rfl

/-- A document is written in ASCII. -/
theorem encodeUtf8_document (hencoder : EncoderFits world) (document : Json PyNumber) :
    encodeUtf8 (documentText world document) = some (documentText world document) := by
  have hascii : ∀ c ∈ documentText world document, c < 128 := by
    intro c hc
    rcases List.mem_append.mp hc with hc | hc
    · exact dumpsIndented_ascii hencoder.ascii 0 document c hc
    · rw [List.mem_singleton.mp hc]
      decide
  unfold encodeUtf8
  rw [if_neg, flatMap_utf8Bytes_of_ascii hascii]
  rw [List.any_eq_true]
  rintro ⟨c, hc, hsurrogate⟩
  have hlt := hascii c hc
  simp only [isSurrogate, Bool.and_eq_true, decide_eq_true_eq] at hsurrogate
  omega

/-- The outputs can be written. -/
def Writable (directory : Directory) : Prop :=
  ∀ name ∈ generatedOutputs, directory.get? name ≠ some .directory

/-- The outputs can be written, and the diagnostics are still these bytes. -/
structure Untouched (content : List Nat) (run : Run) : Prop where
  writable : Writable run.directory
  diagnostics : run.directory.get? diagnosticsName = some (.file content)

/-- Such a run at a moment. -/
structure Steady (content : List Nat) (moment : Nat) (run : Run) : Prop extends Untouched content run where
  clock : run.clock = moment

def setFile (directory : Directory) (name : Text) (bytes : List Nat) : Directory :=
  directory.update (.single name (.file bytes))

theorem get?_setFile (directory : Directory) (name q : Text) (bytes : List Nat) :
    (setFile directory name bytes).get? q =
      if q = name then some (.file bytes) else directory.get? q := by
  rw [setFile, Dict.get?_update, Dict.get?_single]
  by_cases h : q = name
  · rw [if_pos h, if_pos h]
    rfl
  · rw [if_neg h, if_neg h]
    rfl

theorem Writable.setFile {directory : Directory} (h : Writable directory) (name : Text)
    (bytes : List Nat) : Writable (setFile directory name bytes) := by
  intro q hq
  rw [get?_setFile]
  split_ifs
  · exact fun heq => nomatch heq
  · exact h q hq

theorem Untouched.setFile (h : Untouched content run) {name : Text} (hname : name ≠ diagnosticsName)
    (bytes : List Nat) (clock : Nat) :
    Untouched content { run with clock, directory := setFile run.directory name bytes } where
  writable := h.writable.setFile name bytes
  diagnostics := by
    rw [get?_setFile, if_neg hname.symm]
    exact h.diagnostics

section Steps

variable (hfails : ∀ moment, world.fails moment = none)

include hfails

theorem fileOperation_run : fileOperation world run = (.ok (), { run with clock := run.clock + 1 }) := by
  rw [fileOperation, bind_apply, tick_run]
  simp only [hfails]
  rfl

/-- A written text, or the file emptied where UTF-8 does not encode it. -/
theorem writeText_run (run : Run) {name : Text} (text : Text)
    (hname : run.directory.get? name ≠ some .directory) :
    writeText world name text run = match encodeUtf8 text with
      | none => (.error .other,
          { run with clock := run.clock + 1, directory := setFile run.directory name [] })
      | some bytes => (.ok (),
          { run with
            clock := run.clock + 2
            directory := setFile (setFile run.directory name []) name bytes }) := by
  have hput : putText world name text { run with clock := run.clock + 1 } = match encodeUtf8 text with
      | none => (.error .other,
          { run with clock := run.clock + 1, directory := setFile run.directory name [] })
      | some bytes => (.ok (),
          { run with
            clock := run.clock + 2
            directory := setFile (setFile run.directory name []) name bytes }) := by
    unfold putText
    rw [bind_apply]
    simp only [setEntry, Program.modify]
    cases encodeUtf8 text with
    | none => rfl
    | some bytes =>
      simp only [bind_apply, fileOperation_run hfails]
      rfl
  unfold writeText
  rw [bind_apply, fileOperation_run hfails]
  simp only [bind_apply, entryAt, Program.get]
  cases hentry : run.directory.get? name with
  | none =>
    rw [← hput]
    rfl
  | some entry =>
    cases entry with
    | file bytes =>
      rw [← hput]
      rfl
    | directory => exact absurd hentry hname

variable (hencoder : EncoderFits world)

include hencoder

theorem writeJson_run (run : Run) {name : Text} {document : Json PyNumber} (hdepth : document.depth ≤ 5)
    (hname : run.directory.get? name ≠ some .directory) : writeJson world name document run =
      (.ok (), { run with
        clock := run.clock + 2
        directory := setFile (setFile run.directory name []) name (documentText world document) }) := by
  have hshallow : ¬ world.encoderDepth < document.depth := by
    have := hencoder.depth
    omega
  rw [writeJson, bind_apply, raiseWhen, if_neg hshallow]
  have hwrite := writeText_run hfails run (documentText world document) hname
  rw [encodeUtf8_document hencoder] at hwrite
  exact hwrite

end Steps

/-! ## What a stage reads -/

/-- From such a run at `moment` the computation ends as the reading does, at `later` if it returns. -/
def Reads {α : Type} (content : List Nat) (moment later : Nat) (x : Generator α)
    (reading : Except Failure α) : Prop :=
  Triple (Steady content moment) x (fun a run => reading = .ok a ∧ Steady content later run)
    fun failure run => reading = .error failure ∧ Untouched content run

section Reads

variable {α β : Type} {later last : Nat}

theorem Reads.pure {a : α} : Reads content moment moment (Pure.pure a : Generator α) (.ok a) :=
  Triple.pure fun _ h => ⟨rfl, h⟩

theorem Reads.lift {reading : Except Failure α} :
    Reads content moment moment (Program.lift reading) reading :=
  Triple.lift (fun _ h _ hrun => ⟨h, hrun⟩) fun _ h _ hrun => ⟨h, hrun.toUntouched⟩

/-- **A sequence.** -/
theorem Reads.bind {x : Generator α} {f : α → Generator β} {reading : Except Failure α}
    {next : α → Except Failure β} (hx : Reads content moment later x reading)
    (hf : ∀ a, Reads content later last (f a) (next a)) :
    Reads content moment last (x >>= f) (reading >>= next) := by
  refine Triple.bind (Q := fun a run => reading = .ok a ∧ Steady content later run)
    (Triple.weaken hx (fun _ h => h) (fun _ _ h => h) ?_) fun a => Triple.ofAnd ?_
  · rintro failure run ⟨rfl, hrun⟩
    exact ⟨rfl, hrun⟩
  · rintro rfl
    exact hf a

theorem Reads.setStage {stage : Text} :
    Reads content moment moment (Evidence.setStage stage) (.ok ()) :=
  Triple.modify fun _ h => ⟨rfl, ⟨h.writable, h.diagnostics⟩, h.clock⟩

theorem Reads.announced {stage : Text} {f : Unit → Generator α} {reading : Except Failure α}
    (hf : Reads content moment later (f ()) reading) :
    Reads content moment later (Evidence.setStage stage >>= f) reading :=
  show Reads content moment later _ (Except.ok () >>= fun _ => reading) from
    Reads.bind Reads.setStage fun _ => hf

theorem Reads.runCommand (command : Command) : Reads content moment (moment + 1)
    (Evidence.runCommand world command) (world.respond moment command) := by
  rintro run ⟨⟨hwritable, hdiagnostics⟩, rfl⟩
  rw [Evidence.runCommand, bind_apply, tick_run]
  simp only [bind_apply, Program.modify, Program.lift]
  cases world.respond run.clock command with
  | ok result => exact ⟨rfl, ⟨hwritable, hdiagnostics⟩, rfl⟩
  | error failure => exact ⟨rfl, hwritable, hdiagnostics⟩

theorem Reads.require (command : Command) (message : Text) : Reads content moment (moment + 1)
    (Evidence.require world command message) (required world (world.respond moment command) message) :=
  Reads.bind (Reads.runCommand command) fun _ => Reads.lift

section Writes

variable (hfails : ∀ moment, world.fails moment = none) {name : Text} (hname : name ∈ generatedOutputs)
  (hne : name ≠ diagnosticsName)

include hfails hname hne

theorem Reads.writeText (text : Text) :
    Reads content moment (moment + 2) (Evidence.writeText world name text) (encodable text) := by
  intro run h
  rw [writeText_run hfails run text (h.writable name hname), encodable, raiseWhen]
  have hopened := h.toUntouched.setFile hne [] (run.clock + 1)
  cases encodeUtf8 text with
  | none => exact ⟨if_pos rfl, hopened⟩
  | some bytes =>
    exact ⟨if_neg (fun heq => nomatch heq), hopened.setFile hne bytes (run.clock + 2),
      congrArg (· + 2) h.clock⟩

variable (hencoder : EncoderFits world)

include hencoder

theorem Reads.writeJson (document : Json PyNumber) :
    Reads content moment (moment + 2) (Evidence.writeJson world name document) (shallow world document) := by
  have hencodable : encodable (documentText world document) = .ok () := by
    rw [encodable, encodeUtf8_document hencoder]
    rfl
  have hwrite : Reads content moment (moment + 2)
      (Evidence.writeText world name (documentText world document))
      (encodable (documentText world document)) := Reads.writeText hfails hname hne _
  rw [hencodable] at hwrite
  have hreading : (shallow world document >>= fun _ => .ok ()) = shallow world document := by
    cases shallow world document with
    | ok => rfl
    | error failure => rfl
  rw [← hreading]
  exact Reads.bind Reads.lift fun _ => hwrite

/-- A document of a fixed form is written. -/
theorem Reads.writeFixed {document : Json PyNumber} (hdepth : document.depth ≤ 5) :
    Reads content moment (moment + 2) (Evidence.writeJson world name document) (.ok ()) := by
  have hshallow : shallow world document = .ok () := by
    have := hencoder.depth
    exact if_neg (by omega)
  rw [← hshallow]
  exact Reads.writeJson hfails hname hne hencoder document

end Writes

end Reads

/-! ## The documents -/

theorem depthItems_le {items : List (Json PyNumber)} {n : Nat} (h : ∀ item ∈ items, item.depth ≤ n) :
    Json.depthItems items ≤ n := by
  induction items with
  | nil => exact Nat.zero_le n
  | cons item items ih =>
    rw [List.forall_mem_cons] at h
    exact max_le h.1 (ih h.2)

theorem packageDocuments_depth (packages : List PackageRecord) :
    (packageDocuments packages).depth ≤ 2 := by
  refine Nat.succ_le_succ (depthItems_le fun item hitem => ?_)
  obtain ⟨package, -, rfl⟩ := List.mem_map.mp hitem
  exact le_refl 1

theorem texts_depth (texts : List Text) :
    Json.depthItems (texts.map Json.str : List (Json PyNumber)) ≤ 0 := by
  refine depthItems_le fun item hitem => ?_
  obtain ⟨t, -, rfl⟩ := List.mem_map.mp hitem
  exact le_refl 0

theorem comparisonDocument_depth (comparison : PackageComparison) :
    (comparisonDocument comparison).depth ≤ 3 := by
  have hmissing := texts_depth comparison.missing
  have hextra := texts_depth comparison.extra
  have hmismatches : Json.depthItems (comparison.versionMismatches.map fun mismatch =>
      (.dict [(lit "name", .str mismatch.name), (lit "expected", .str mismatch.expected),
        (lit "actual", .str mismatch.actual)] : Json PyNumber)) ≤ 1 := by
    refine depthItems_le fun item hitem => ?_
    obtain ⟨mismatch, -, rfl⟩ := List.mem_map.mp hitem
    exact le_refl 1
  simp only [comparisonDocument, Json.depth, Json.depthEntries]
  omega

theorem diagnosticsDocument_depth (moment : Nat) (status stage : Text) (error : Option Text) :
    (diagnosticsDocument world moment status stage error).depth ≤ 5 := by
  cases error <;>
    simp [diagnosticsDocument, Json.depth, Json.depthEntries, evidenceSchema, textJson]

/-! ## The stages -/

section Stages

variable (hfails : ∀ moment, world.fails moment = none) (hencoder : EncoderFits world)

include hfails hencoder

theorem exportLock_reads : Reads content moment (moment + 5) (exportLock world arguments)
    (readExport world (world.respond moment (exportCommand arguments))) := by
  refine Reads.announced (Reads.bind (Reads.require _ _) fun result => ?_)
  refine Reads.bind Reads.lift fun lockPackages => ?_
  refine Reads.bind (Reads.writeText hfails (by decide) (by decide) _) fun _ => ?_
  refine Reads.bind (Reads.writeFixed hfails (by decide) (by decide) hencoder ?_) fun _ => Reads.pure
  have := packageDocuments_depth lockPackages
  simp only [Json.depth, Json.depthEntries, evidenceSchema]
  omega

theorem generateTree_reads {contract : DependencyContract} :
    Reads content moment (moment + 3) (generateTree world arguments contract)
      (readTree world (world.respond moment (treeCommand arguments contract))) := by
  refine Reads.announced (Reads.bind (Reads.require _ _) fun result => ?_)
  refine Reads.bind Reads.lift fun tree => ?_
  exact Reads.bind (Reads.writeJson hfails (by decide) (by decide) hencoder _) fun _ => Reads.pure

theorem inventoryInstalled_reads : Reads content moment (moment + 3) (inventoryInstalled world arguments)
    (readInventory world arguments (world.respond moment (inventoryCommand arguments))) := by
  refine Reads.announced (Reads.bind (Reads.require _ _) fun result => ?_)
  refine Reads.bind Reads.lift fun root => Reads.bind Reads.lift ?_
  rintro ⟨project, packages⟩
  refine Reads.bind (Reads.writeFixed hfails (by decide) (by decide) hencoder ?_) fun _ => Reads.pure
  have := packageDocuments_depth packages
  simp only [Json.depth, Json.depthEntries, evidenceSchema]
  omega

theorem deriveBrowsers_reads : Reads content moment (moment + 2) (deriveBrowsers world)
    (readBrowsers world) := by
  refine Reads.announced (Reads.bind Reads.lift fun metadata => ?_)
  exact Reads.writeJson hfails (by decide) (by decide) hencoder _

end Stages

/-! ## The last stages -/

/-- From such a run the computation raises nothing that the handler does not take. -/
def Calm {α : Type} (Q : α → Prop) (x : Generator α) : Prop :=
  Triple (fun run => Writable run.directory) x (fun a run => Q a ∧ Writable run.directory)
    fun e run => e ≠ .other ∧ Writable run.directory

theorem Calm.bind {α β : Type} {Q : α → Prop} {R : β → Prop} {x : Generator α}
    {f : α → Generator β} (hx : Calm Q x) (hf : ∀ a, Q a → Calm R (f a)) : Calm R (x >>= f) :=
  Triple.bind hx fun a run h => hf a h.1 run h.2

theorem Calm.pure {α : Type} {Q : α → Prop} {a : α} (h : Q a) : Calm Q (Pure.pure a) :=
  fun _ hrun => ⟨h, hrun⟩

theorem Calm.get : Calm (fun _ => True) (Program.get : Generator Run) := fun _ hrun => ⟨trivial, hrun⟩

theorem Calm.lift {α : Type} {y : Except Failure α} (h : y ≠ .error .other) :
    Calm (fun _ => True) (Program.lift y) := by
  intro run hrun
  cases y with
  | ok a => exact ⟨trivial, hrun⟩
  | error e => exact ⟨fun heq => h (congrArg Except.error heq), hrun⟩

theorem Calm.setStage {stage : Text} : Calm (fun _ => True) (Evidence.setStage stage) :=
  fun _ hrun => ⟨trivial, hrun⟩

theorem Calm.tick : Calm (fun _ => True) tick := fun _ hrun => ⟨trivial, hrun⟩

theorem raiseWhen_ne {condition : Prop} [Decidable condition] {failure : Failure}
    (h : failure ≠ .other) : raiseWhen condition failure ≠ .error .other := by
  unfold raiseWhen
  split_ifs
  · exact fun heq => h (Except.error.inj heq)
  · exact fun heq => nomatch heq

theorem Calm.inputSha256 (name : Text) :
    Calm (fun hash => hash.depth = 0) (Evidence.inputSha256 world arguments name) := by
  refine Calm.bind Calm.tick fun moment _ => Calm.bind (Calm.lift ?_) fun bytes _ => Calm.pure rfl
  cases world.inputBytes moment (joinPath arguments.root name) with
  | ok bytes => exact fun heq => nomatch heq
  | error message => exact fun heq => nomatch heq

section Calm

variable (hfails : ∀ moment, world.fails moment = none)

include hfails

theorem Calm.fileOperation : Calm (fun _ => True) (fileOperation world) := by
  intro run hrun
  rw [fileOperation_run hfails]
  exact ⟨trivial, hrun⟩

theorem Calm.readBytes (name : Text) : Calm (fun _ => True) (readBytes world name) := by
  refine Calm.bind (Calm.fileOperation hfails) fun _ _ => Calm.bind (Q := fun _ => True)
    (fun _ hrun => ⟨trivial, hrun⟩) fun entry _ => ?_
  cases entry with
  | none => exact fun _ hrun => ⟨fun heq => (nomatch heq), hrun⟩
  | some entry =>
    cases entry with
    | file bytes => exact Calm.pure trivial
    | directory => exact fun _ hrun => ⟨fun heq => (nomatch heq), hrun⟩

theorem Calm.emptyFiles : ∀ names, Calm (fun _ => True) (emptyFiles world names)
  | [] => Calm.pure trivial
  | name :: names => Calm.bind (Calm.readBytes hfails name) fun _ _ =>
      Calm.bind (Calm.emptyFiles names) fun _ _ => Calm.pure trivial

theorem Calm.validateCompleteOutputs (expected : List Text) :
    Calm (fun _ => True) (validateCompleteOutputs world expected) := by
  refine Calm.bind (Calm.fileOperation hfails) fun _ _ => Calm.bind Calm.get fun run _ => ?_
  refine Calm.bind (Calm.emptyFiles hfails _) fun empty _ => Calm.lift ?_
  exact raiseWhen_ne (fun heq => nomatch heq)

theorem Calm.hashOutputs : ∀ names,
    Calm (fun outputs => Json.depthEntries outputs = 0) (hashOutputs world names)
  | [] => Calm.pure rfl
  | name :: names => by
    refine Calm.bind (Calm.bind (Calm.readBytes hfails name) fun bytes _ =>
      Calm.pure (Q := fun _ => True) trivial) fun hash _ => ?_
    refine Calm.bind (Calm.hashOutputs names) fun rest hrest => Calm.pure ?_
    simp only [Json.depthEntries, Json.depth, hrest]
    rfl

variable (hencoder : EncoderFits world)

include hencoder

theorem Calm.writeJson {name : Text} {document : Json PyNumber} (hname : name ∈ generatedOutputs)
    (hdepth : document.depth ≤ 5) : Calm (fun _ => True) (writeJson world name document) := by
  intro run hrun
  rw [writeJson_run hfails hencoder run hdepth (hrun name hname)]
  exact ⟨trivial, (hrun.setFile name []).setFile name _⟩

theorem Calm.writeDiagnostics (status stage : Text) (error : Option Text) :
    Calm (fun _ => True) (writeDiagnostics world status stage error) :=
  Calm.bind Calm.tick fun moment _ => Calm.writeJson hfails hencoder (by decide)
    (diagnosticsDocument_depth moment status stage error)

theorem enforceParity_calm (packageCount : Nat) (comparisons : List PackageComparison) :
    Calm (fun _ => True) (enforceParity world packageCount comparisons) := by
  refine Calm.bind Calm.setStage fun _ _ => ?_
  refine Calm.bind (Calm.writeJson hfails hencoder (by decide) ?_) fun _ _ => Calm.lift ?_
  · have hcomparisons : Json.depthItems (comparisons.map comparisonDocument) ≤ 3 := by
      refine depthItems_le fun item hitem => ?_
      obtain ⟨comparison, -, rfl⟩ := List.mem_map.mp hitem
      exact comparisonDocument_depth comparison
    simp only [exclusion, Json.depth, Json.depthEntries, Json.depthItems, evidenceSchema, natJson]
    omega
  · unfold requireExactComparisons
    dsimp only
    split_ifs
    · exact fun heq => nomatch heq
    · exact fun heq => nomatch heq

theorem complete_calm (arguments : Arguments) (contract : DependencyContract) (packageCount : Nat)
    (audit : AuditReport) :
    Calm (fun _ => True) (complete world arguments contract packageCount audit) := by
  refine Calm.bind Calm.setStage fun _ _ => ?_
  refine Calm.bind (Q := fun metadata => metadata.depth ≤ 5) ?_ fun metadata hmetadata => ?_
  · refine Calm.bind Calm.tick fun moment _ => Calm.bind (Calm.inputSha256 _) fun pin hpin => ?_
    refine Calm.bind (Calm.inputSha256 _) fun manifest hmanifest => ?_
    refine Calm.bind (Calm.inputSha256 _) fun lock hlock => Calm.pure ?_
    simp only [Json.depth, Json.depthEntries, evidenceSchema, natJson, hpin, hmanifest, hlock]
    omega
  refine Calm.bind (Calm.writeJson hfails hencoder (by decide) hmetadata) fun _ _ => ?_
  refine Calm.bind (Calm.writeDiagnostics hfails hencoder _ _ _) fun _ _ => ?_
  refine Calm.bind (Calm.validateCompleteOutputs hfails _) fun _ _ => ?_
  refine Calm.bind (Calm.hashOutputs hfails _) fun outputs houtputs => ?_
  refine Calm.bind Calm.tick fun moment _ => ?_
  refine Calm.bind (Calm.writeJson hfails hencoder (by decide) ?_) fun _ _ =>
    Calm.validateCompleteOutputs hfails _
  simp only [completionDocument, Json.depth, Json.depthEntries, evidenceSchema, natJson, houtputs]
  omega

end Calm

/-! ## Which exception the stages raise -/

/-- One of the readings is of another exception than the handler takes, and those before it return. -/
def Fails (readings : List (Except Failure Unit)) : Prop := checkAll id readings = .error .other

/-- The exception with which the stages end: another than the handler takes, and then the diagnostics are
as they were, or one that it takes. -/
inductive Raised (content : List Nat) (escapes : Prop) : Failure → Run → Prop where
  | escaped {run : Run} (h : escapes)
      (hdiagnostics : run.directory.get? diagnosticsName = some (.file content)) :
      Raised content escapes .other run
  | handled {failure : Failure} {run : Run} (h : ¬ escapes) (hfailure : failure ≠ .other)
      (hwritable : Writable run.directory) : Raised content escapes failure run

/-- `escapes` decides whether the computation raises another exception than the handler takes. -/
def Decides (content : List Nat) (moment : Nat) (x : Generator Unit) (escapes : Prop) : Prop :=
  Triple (Steady content moment) x (fun _ _ => ¬ escapes) (Raised content escapes)

section Decides

variable {α : Type} {later : Nat} {x : Generator α} {f : α → Generator Unit} {reading : Except Failure α}
  {item : Except Failure Unit} {rest : List (Except Failure Unit)}

/-- An error that is read is raised. -/
theorem raised_of_error {failure : Failure} (h : item = .error failure) (hrun : Untouched content run) :
    Raised content (Fails (item :: rest)) failure run := by
  have hfails : checkAll id (item :: rest) = .error failure := bind_eq_error_iff.mpr (.inl h)
  by_cases hother : failure = .other
  · subst hother
    exact .escaped hfails hrun.diagnostics
  · refine .handled (fun heq => hother ?_) hother hrun.writable
    exact Except.error.inj (hfails.symm.trans heq)

/-- A computation whose errors are those of the first reading. -/
theorem Decides.skip (hx : Reads content moment later x reading)
    (herror : ∀ failure, reading = .error failure → item = .error failure)
    (hf : ∀ a, reading = .ok a → Decides content later (f a) (Fails (item :: rest))) :
    Decides content moment (x >>= f) (Fails (item :: rest)) := by
  refine Triple.bind (Triple.weaken hx (fun _ h => h) (fun _ _ h => h) ?_) fun a => Triple.ofAnd (hf a)
  rintro failure run ⟨hfailure, hrun⟩
  exact raised_of_error (herror failure hfailure) hrun

/-- **A computation that the first reading is of.** -/
theorem Decides.read (hx : Reads content moment later x reading) (hitem : item = outcome reading)
    (hf : ∀ a, reading = .ok a → Decides content later (f a) (Fails rest)) :
    Decides content moment (x >>= f) (Fails (item :: rest)) := by
  refine Decides.skip hx (fun failure h => ?_) fun a ha => ?_
  · rw [hitem, h]
    rfl
  · have hok : item = .ok () := by
      rw [hitem, ha]
      rfl
    rw [hok]
    exact hf a ha

/-- Where nothing is read any more, only what the handler takes is raised. -/
theorem Decides.calm {Q : Unit → Prop} {x : Generator Unit} (hx : Calm Q x) :
    Decides content moment x (Fails []) :=
  Triple.weaken hx (fun _ h => h.writable) (fun _ _ _ heq => nomatch heq) fun _ _ h =>
    .handled (fun heq => nomatch heq) h.1 h.2

theorem outcome_unit : outcome item = item := by
  cases item with
  | ok => rfl
  | error failure => rfl

theorem bind_of_read {β : Type} {a : α} {next : α → Except Failure β} (h : reading = .ok a) :
    (reading >>= next) = next a := by
  rw [h]
  rfl

theorem bind_of_unread {β : Type} {failure : Failure} {next : α → Except Failure β}
    (h : reading = .error failure) : (reading >>= next) = .error failure := by
  rw [h]
  rfl

end Decides

/-! ## The stages that read several answers -/

section Whole

variable {contract : DependencyContract} {rest : List (Except Failure Unit)}

theorem verifyRuntimeAndTools_decides {f : Unit → Generator Unit}
    (hf : Decides content (moment + 4) (f ()) (Fails rest)) :
    Decides content moment (verifyRuntimeAndTools world arguments contract >>= f) (Fails (
      checkPython world contract ::
      (required world (world.respond moment [arguments.uvExecutable, lit "--version"])
        (lit "uv failed") >>= checkUv world contract) ::
      (required world (world.respond (moment + 1) [arguments.scannerExecutable, lit "--version"])
        (lit "pip-audit failed") >>= checkScanner world contract) ::
      outcome (required world (world.respond (moment + 2)
        (frozenLockCheckCommand arguments.uvExecutable arguments.pythonExecutable))
        (lit "uv.lock is stale or invalid")) ::
      outcome (required world (world.respond (moment + 3)
        (frozenSyncCheckCommand arguments.uvExecutable))
        (lit "installed environment does not match the frozen lock")) :: rest)) := by
  unfold verifyRuntimeAndTools
  simp only [Program.bind_assoc]
  refine Decides.read Reads.lift outcome_unit.symm fun _ _ => ?_
  refine Decides.skip (Reads.require _ _) (fun _ h => bind_of_unread h) fun uvVersion huv => ?_
  refine Decides.read Reads.lift ((bind_of_read huv).trans outcome_unit.symm) fun _ _ => ?_
  refine Decides.skip (Reads.require _ _) (fun _ h => bind_of_unread h) fun scannerVersion hscanner => ?_
  refine Decides.read Reads.lift ((bind_of_read hscanner).trans outcome_unit.symm) fun _ _ => ?_
  refine Decides.read (Reads.require _ _) rfl fun _ _ => ?_
  exact Decides.read (Reads.require _ _) rfl fun _ _ => hf

variable (hfails : ∀ moment, world.fails moment = none) (hencoder : EncoderFits world)

include hfails hencoder

theorem scan_decides {f : AuditReport × SbomReport → Generator Unit}
    {audited listed : Except Failure CompletedProcess}
    (haudited : audited = world.respond moment (scannerCommand arguments (lit "json")))
    (hlisted : listed = world.respond (moment + 1) (scannerCommand arguments (lit "cyclonedx-json")))
    (hf : ∀ reports, Calm (fun _ => True) (f reports)) :
    Decides content moment (scan world arguments >>= f) (Fails [
      audited >>= fun audit => listed >>= fun sbom => encodable (scannerErrors world audit sbom),
      outcome (readAudit world audited),
      outcome (readSbom world listed),
      readAudit world audited >>= fun audit => readSbom world listed >>= checkCounts audit,
      readAudit world audited >>= fun audit => shallow world (.dict audit.document),
      readSbom world listed >>= fun sbom => shallow world (.dict sbom.document),
      readAudit world audited >>= fun audit =>
        humanFindings world.toLibrary audit.document >>= encodable]) := by
  unfold scan
  simp only [Program.bind_assoc]
  refine Decides.skip Reads.setStage (fun _ h => nomatch h) fun _ _ => ?_
  refine Decides.skip (Reads.runCommand _) (fun _ h => bind_of_unread (haudited.trans h)) fun audit ha => ?_
  have ha := haudited.trans ha
  refine Decides.skip (Reads.runCommand _)
    (fun _ h => (bind_of_read ha).trans (bind_of_unread (hlisted.trans h))) fun sbom hs => ?_
  have hs := hlisted.trans hs
  refine Decides.read (Reads.writeText hfails (by decide) (by decide) _)
    (((bind_of_read ha).trans (bind_of_read hs)).trans outcome_unit.symm) fun _ _ => ?_
  refine Decides.skip (Reads.writeFixed hfails (by decide) (by decide) hencoder ?_)
    (fun _ h => nomatch h) fun _ _ => ?_
  · simp only [Json.depth, Json.depthEntries, Json.depthItems, evidenceSchema, natJson]
    omega
  refine Decides.read Reads.lift (congrArg outcome (bind_of_read ha)) fun auditReport haudit => ?_
  have haudit : readAudit world audited = .ok auditReport := (bind_of_read ha).trans haudit
  refine Decides.read Reads.lift (congrArg outcome (bind_of_read hs)) fun sbomReport hsbom => ?_
  have hsbom : readSbom world listed = .ok sbomReport := (bind_of_read hs).trans hsbom
  refine Decides.read Reads.lift
    (((bind_of_read haudit).trans (bind_of_read hsbom)).trans outcome_unit.symm) fun _ _ => ?_
  refine Decides.read (Reads.writeJson hfails (by decide) (by decide) hencoder _)
    ((bind_of_read haudit).trans outcome_unit.symm) fun _ _ => ?_
  refine Decides.read (Reads.writeJson hfails (by decide) (by decide) hencoder _)
    ((bind_of_read hsbom).trans outcome_unit.symm) fun _ _ => ?_
  refine Decides.skip Reads.lift (fun _ h => (bind_of_read haudit).trans (bind_of_unread h))
    fun findings hfindings => ?_
  refine Decides.read (Reads.writeText hfails (by decide) (by decide) _)
    (((bind_of_read haudit).trans (bind_of_read hfindings)).trans outcome_unit.symm) fun _ _ => ?_
  exact Decides.calm (hf (auditReport, sbomReport))

/-- **The stages raise another exception than the handler takes iff an answer leads to one.** -/
theorem generateStages_decides (arguments : Arguments) (content : List Nat) :
    Decides content firstMoment (generateStages world arguments) (Escapes world arguments) := by
  unfold generateStages
  cases hcontract : loadContract world with
  | error failure =>
    intro run hrun
    have hescapes : Escapes world arguments ↔ failure = .other := by
      rw [Escapes, hcontract]
      constructor
      · rintro (h | ⟨contract, h, -⟩)
        · exact Except.error.inj h
        · cases h
      · rintro rfl
        exact .inl rfl
    rw [bind_of_error (show Program.lift (.error failure) run = _ from rfl)]
    by_cases hother : failure = .other
    · subst hother
      exact .escaped (hescapes.mpr rfl) hrun.diagnostics
    · exact .handled (fun h => hother (hescapes.mp h)) hother hrun.writable
  | ok contract =>
    have hescapes : Escapes world arguments ↔
        Fails (readings world arguments contract (answersOf world arguments contract)) := by
      rw [Escapes, Fails, checkAll_eq_error, hcontract]
      constructor
      · rintro (h | ⟨_, h, earlier, later, hsplit, hearlier⟩)
        · cases h
        · cases h
          exact ⟨earlier, _, later, hsplit, hearlier, rfl⟩
      · rintro ⟨earlier, _, later, hsplit, hearlier, rfl⟩
        exact .inr ⟨contract, rfl, earlier, later, hsplit, hearlier⟩
    rw [hescapes]
    have hstages : Decides content firstMoment (do
        setStage (lit "verify tools and frozen environment")
        verifyRuntimeAndTools world arguments contract
        let lockPackages ← exportLock world arguments
        let tree ← generateTree world arguments contract
        let installedPackages ← inventoryInstalled world arguments
        deriveBrowsers world
        let reports ← scan world arguments
        enforceParity world lockPackages.length
          (comparisonsOf lockPackages tree.packages installedPackages reports.1.packages reports.2.packages)
        complete world arguments contract lockPackages.length reports.1)
        (Fails (readings world arguments contract (answersOf world arguments contract))) := by
      refine Decides.skip Reads.setStage (fun _ h => nomatch h) fun _ _ => ?_
      refine verifyRuntimeAndTools_decides ?_
      refine Decides.read (exportLock_reads hfails hencoder) rfl fun lockPackages _ => ?_
      refine Decides.read (generateTree_reads hfails hencoder) rfl fun tree _ => ?_
      refine Decides.read (inventoryInstalled_reads hfails hencoder) rfl fun installedPackages _ => ?_
      refine Decides.read (deriveBrowsers_reads hfails hencoder) outcome_unit.symm fun _ _ => ?_
      refine scan_decides hfails hencoder rfl rfl fun reports => ?_
      exact Calm.bind (enforceParity_calm hfails hencoder _ _) fun _ _ =>
        complete_calm hfails hencoder arguments contract _ _
    exact hstages

end Whole

/-! ## The diagnostics -/

/-- Diagnostics with an error are told from those without: the keys are sorted. -/
theorem documentText_ne (world : World) (m m' : Nat) (status status' stage stage' error : Text) :
    documentText world (diagnosticsDocument world m status stage none) ≠
      documentText world (diagnosticsDocument world m' status' stage' (some error)) := by
  have hnone : (documentText world (diagnosticsDocument world m status stage none))[5]? = some 115 := rfl
  have hsome : (documentText world (diagnosticsDocument world m' status' stage' (some error)))[5]? =
      some 101 := rfl
  intro heq
  rw [heq, hsome] at hnone
  cases hnone

/-! ## The start and the handler -/

section Ends

theorem get?_erase {directory : Directory} {name q : Text} :
    (directory.erase name).get? q = if q = name then none else directory.get? q := by
  split_ifs with h
  · rw [h, Dict.get?_erase_self]
  · exact Dict.get?_erase_of_ne directory h

variable (hfails : ∀ moment, world.fails moment = none)

include hfails

theorem unlink_run {name : Text} (hname : run.directory.get? name ≠ some .directory) :
    unlink world name run =
      (.ok (), { run with clock := run.clock + 1, directory := run.directory.erase name }) := by
  rw [unlink, bind_apply, fileOperation_run hfails]
  simp only [bind_apply, entryAt, Program.get]
  cases hentry : run.directory.get? name with
  | none => simp only [Pure.pure, Program.modify]
  | some entry =>
    cases entry with
    | file bytes => simp only [Pure.pure, Program.modify]
    | directory => exact absurd hentry hname

/-- The names are gone, and the moments have passed. -/
theorem unlinkAll_run : ∀ (names : List Text) (run : Run),
    (∀ name ∈ names, run.directory.get? name ≠ some .directory) → ∃ directory,
      unlinkAll world names run =
        (.ok (), { run with clock := run.clock + names.length, directory }) ∧
      ∀ q, directory.get? q = none ∨ directory.get? q = run.directory.get? q
  | [], run, _ => ⟨run.directory, rfl, fun _ => Or.inr rfl⟩
  | name :: names, run, h => by
    rw [List.forall_mem_cons] at h
    have hrest : ∀ name' ∈ names, (run.directory.erase name).get? name' ≠ some .directory := by
      intro name' hname'
      rw [get?_erase]
      split_ifs
      · exact fun heq => (nomatch heq)
      · exact h.2 name' hname'
    obtain ⟨directory, hunlink, hget⟩ := unlinkAll_run names
      { run with clock := run.clock + 1, directory := run.directory.erase name } hrest
    refine ⟨directory, ?_, fun q => ?_⟩
    · rw [unlinkAll, bind_apply, unlink_run hfails h.1]
      rw [List.length_cons, Nat.add_comm names.length 1, ← Nat.add_assoc]
      exact hunlink
    · rcases hget q with hq | hq
      · exact Or.inl hq
      · rw [get?_erase] at hq
        split_ifs at hq
        · exact Or.inl hq
        · exact Or.inr hq

variable (hencoder : EncoderFits world)

include hencoder

theorem writeDiagnostics_run (run : Run) (status stage : Text) (error : Option Text)
    (hwritable : Writable run.directory) : writeDiagnostics world status stage error run =
      (.ok (), { run with
        clock := run.clock + 3
        directory := setFile (setFile run.directory diagnosticsName []) diagnosticsName
          (documentText world (diagnosticsDocument world run.clock status stage error)) }) := by
  rw [writeDiagnostics, bind_apply, tick_run]
  exact writeJson_run hfails hencoder { run with clock := run.clock + 1 }
    (diagnosticsDocument_depth run.clock status stage error) (hwritable diagnosticsName (by decide))

/-- **The start**: the stages run on a directory whose diagnostics say that the run is on. -/
theorem start_steady {directory : Directory}
    (hdirectory : ∀ name ∈ generatedOutputs ++ legacyOutputs, directory.get? name ≠ some .directory) :
    ∃ run moment, Steady (documentText world (diagnosticsDocument world moment (lit "running")
        (lit "initialize") none)) firstMoment run ∧
      initializeOutputs world (Run.start directory) = (.ok (), run) := by
  obtain ⟨cleared, hunlink, hget⟩ := unlinkAll_run hfails (generatedOutputs ++ legacyOutputs)
    { Run.start directory with clock := 1 } hdirectory
  have hwritable : Writable cleared := by
    intro name hname
    rcases hget name with h | h
    · rw [h]
      exact fun heq => (nomatch heq)
    · rw [h]
      exact hdirectory name (List.mem_append_left _ hname)
  have hdiagnostics := writeDiagnostics_run hfails hencoder { Run.start directory with
    clock := 1 + (generatedOutputs ++ legacyOutputs).length, directory := cleared }
    (lit "running") (lit "initialize") none hwritable
  have hstage : setStage (lit "initialize") { Run.start directory with
      clock := 1 + (generatedOutputs ++ legacyOutputs).length, directory := cleared } =
    (.ok (), { Run.start directory with
      clock := 1 + (generatedOutputs ++ legacyOutputs).length, directory := cleared }) := rfl
  refine ⟨_, 1 + (generatedOutputs ++ legacyOutputs).length, ?_,
    (bind_of_ok (fileOperation_run hfails)).trans
      ((bind_of_ok hunlink).trans ((bind_of_ok hstage).trans hdiagnostics))⟩
  exact ⟨⟨(hwritable.setFile _ _).setFile _ _, (get?_setFile _ _ _ _).trans (if_pos rfl)⟩, rfl⟩

/-- **The handler** records the failure, and raises it again. -/
theorem recordFailure_run {failure : Failure} {message : Text} (hmessage : failure.message? = some message)
    (hwritable : Writable run.directory) :
    ∃ run', recordFailure world message run =
        (.error (.evidenceError (redactText world.unicode message)), run') ∧
      FailureRecorded world run'.directory run.stage failure := by
  have hcleared : Writable (run.directory.erase completionName) := by
    intro name hname
    rw [get?_erase]
    split_ifs
    · exact fun heq => (nomatch heq)
    · exact hwritable name hname
  have hdiagnostics := writeDiagnostics_run hfails hencoder
    { run with clock := run.clock + 1, directory := run.directory.erase completionName }
    (lit "failed") run.stage (some (redactText world.unicode message)) hcleared
  refine ⟨{ run with
    clock := run.clock + 4
    directory := setFile (setFile (run.directory.erase completionName) diagnosticsName [])
      diagnosticsName (documentText world (diagnosticsDocument world (run.clock + 1) (lit "failed")
        run.stage (some (redactText world.unicode message)))) }, ?_, ?_, ?_⟩
  · rw [recordFailure, bind_of_ok (unlink_run hfails (hwritable completionName (by decide)))]
    have hget : (Program.get : Generator Run)
        { run with clock := run.clock + 1, directory := run.directory.erase completionName } =
      (.ok { run with clock := run.clock + 1, directory := run.directory.erase completionName },
        { run with clock := run.clock + 1, directory := run.directory.erase completionName }) := rfl
    exact (bind_of_ok hget).trans (bind_of_ok hdiagnostics)
  · rw [get?_setFile, if_neg (by decide), get?_setFile, if_neg (by decide), Dict.get?_erase_self]
  · refine ⟨run.clock + 1, message, fun text htext => ?_, _, encodeUtf8_document hencoder _, ?_⟩
    · rw [hmessage] at htext
      exact Option.some.inj htext
    · rw [get?_setFile, if_pos rfl]

end Ends

/-- **Failed evidence says so**: a run ends with its certificate or with its failure on record, unless an
answer leads to an exception that the handler does not take. -/
theorem failure_recorded_iff (world : World) (arguments : Arguments) (directory : Directory)
    (hfiles : FilesSucceed world directory) (hencoder : EncoderFits world) :
    EndsRecorded world arguments directory ↔ ¬ Escapes world arguments := by
  obtain ⟨hfails, hdirectory⟩ := hfiles
  obtain ⟨run, moment, hsteady, hstart⟩ := start_steady hfails hencoder hdirectory
  have hran : run.ran = [] := ran_of_keeps initializeOutputs_ran hstart
  have hdecides := generateStages_decides hfails hencoder arguments
    (documentText world (diagnosticsDocument world moment (lit "running") (lit "initialize") none))
    run hsteady
  have hlabels := stagedRun_labels world arguments (Run.start directory) rfl
  rw [bind_of_ok hstart] at hlabels
  unfold EndsRecorded generateDependencyEvidence
  rw [bind_of_ok hstart]
  rcases hstages : generateStages world arguments run with ⟨result, run'⟩
  rw [hstages] at hdecides hlabels
  simp only [Program.handle, hstages]
  cases result with
  | ok =>
    obtain ⟨reports, hcertified⟩ := generateStages_returns hstages hran
    obtain ⟨generatedAt, outputs, bytes, -, hget, -⟩ := hcertified.completion
    exact iff_of_true ⟨bytes, hget⟩ hdecides
  | error failure =>
    rcases hdecides with ⟨hescapes, hcontent⟩ | ⟨hescapes, hother, hwritable⟩
    · -- The diagnostics are still those of the start.
      refine iff_of_false ?_ (not_not_intro hescapes)
      rintro ⟨stage, failure, run'', -, -, moment', message, -, bytes, hbytes, hget⟩
      rw [encodeUtf8_document hencoder, Option.some.injEq] at hbytes
      change run'.directory.get? diagnosticsName = _ at hget
      rw [hcontent, ← hbytes, Option.some.injEq, Entry.file.injEq] at hget
      exact documentText_ne world _ _ _ _ _ _ _ hget
    · refine iff_of_true ?_ hescapes
      have hrecorded : ∀ message, failure.message? = some message →
          ∃ run'', recordFailure world message run' =
              (.error (.evidenceError (redactText world.unicode message)), run'') ∧
            FailureRecorded world run''.directory run'.stage failure := fun message hmessage =>
        recordFailure_run hfails hencoder hmessage hwritable
      cases failure with
      | other => exact absurd rfl hother
      | evidenceError message =>
        obtain ⟨run'', hfailure, h⟩ := hrecorded message rfl
        simp only [hfailure]
        exact ⟨_, _, _, hlabels, h⟩
      | osError message =>
        obtain ⟨run'', hfailure, h⟩ := hrecorded message rfl
        simp only [hfailure]
        exact ⟨_, _, _, hlabels, h⟩
      | subprocessError message =>
        obtain ⟨run'', hfailure, h⟩ := hrecorded message rfl
        simp only [hfailure]
        exact ⟨_, _, _, hlabels, h⟩

/-! ## A run that returns, and an export that is no UTF-8 -/

theorem repr_ascii (n : Nat) : ∀ c ∈ lit n.repr, c < 128 := by
  intro c hc
  obtain ⟨d, hd, rfl⟩ := List.mem_map.mp hc
  rw [Nat.toList_repr] at hd
  have hdigit := Nat.isDigit_of_mem_toDigits (by decide) (by decide) hd
  simp only [Char.isDigit, Bool.and_eq_true, decide_eq_true_eq] at hdigit
  have : d.toNat ≤ 57 := hdigit.2
  omega

theorem encoderFits_example : EncoderFits exampleWorld := by
  have hfloat : ∀ c ∈ lit "0.0", c < 128 := by decide
  refine ⟨by decide, fun n => ?_⟩
  cases n with
  | int n =>
    cases n with
    | ofNat m => exact repr_ascii m
    | negSucc m =>
      intro c hc
      have hsplit : lit (toString (Int.negSucc m)) = lit "-" ++ lit (m + 1).repr := by
        simp [lit, toString, Int.repr]
      change c ∈ lit (toString (Int.negSucc m)) at hc
      rw [hsplit] at hc
      rcases List.mem_append.mp hc with hc | hc
      · rw [List.mem_singleton.mp hc]
        decide
      · exact repr_ascii (m + 1) c hc
  | float n => exact hfloat

theorem not_escapes_example : ¬ Escapes exampleWorld exampleArguments := by
  have hcontract : loadContract exampleWorld = .ok exampleContract := rfl
  rintro (h | ⟨contract, h, earlier, later, hsplit, hearlier⟩)
  · rw [hcontract] at h
    cases h
  · rw [hcontract] at h
    cases h
    have hfails : checkAll id (readings exampleWorld exampleArguments exampleContract
        (answersOf exampleWorld exampleArguments exampleContract)) = .error .other :=
      checkAll_eq_error.mpr ⟨earlier, _, later, hsplit, hearlier, rfl⟩
    have hok : checkAll id (readings exampleWorld exampleArguments exampleContract
        (answersOf exampleWorld exampleArguments exampleContract)) = .ok () := by
      decide +kernel
    rw [hok] at hfails
    cases hfails

theorem filesSucceed_example : FilesSucceed exampleWorld exampleDirectory :=
  ⟨fun _ => rfl, by decide +kernel⟩

theorem failure_recorded_example : EndsRecorded exampleWorld exampleArguments exampleDirectory := by
  have h := failure_recorded_iff exampleWorld exampleArguments exampleDirectory filesSucceed_example
    encoderFits_example
  rw [h]
  exact not_escapes_example

/-- What `subprocess.run(..., text=True)` makes of the output of a command: a `UnicodeDecodeError`
where it is no UTF-8. -/
def completedProcess (returncode : Int) (stdout stderr : List Nat) : Except Failure CompletedProcess :=
  match decodeUtf8 stdout, decodeUtf8 stderr with
  | some stdout, some stderr => .ok ⟨returncode, universalNewlines stdout, universalNewlines stderr⟩
  | _, _ => .error .other

/-- The world of the example, in which `uv export` prints a byte that is no UTF-8. -/
def undecodableWorld : World :=
  { exampleWorld with
    respond := fun moment command =>
      if command.getD 1 [] = lit "export" then completedProcess 0 [0xFF] []
      else exampleWorld.respond moment command }

def undecodableRun : Except Failure Unit × Run :=
  generateDependencyEvidence undecodableWorld exampleArguments (Run.start exampleDirectory)

/-- The run ends in an exception, and its diagnostics say that it is still on. -/
theorem undecodable_example : FilesSucceed undecodableWorld exampleDirectory ∧
    undecodableRun.1 = .error .other ∧
    undecodableRun.2.directory.get? diagnosticsName = some (.file (documentText undecodableWorld
      (diagnosticsDocument undecodableWorld 16 (lit "running") (lit "initialize") none))) ∧
    ¬ EndsRecorded undecodableWorld exampleArguments exampleDirectory := by
  have hresult : undecodableRun.1 = .error .other := by decide +kernel
  have hget : undecodableRun.2.directory.get? diagnosticsName = some (.file (documentText
      undecodableWorld
      (diagnosticsDocument undecodableWorld 16 (lit "running") (lit "initialize") none))) := by
    decide +kernel
  have hencoder : EncoderFits undecodableWorld :=
    ⟨encoderFits_example.depth, encoderFits_example.ascii⟩
  refine ⟨⟨fun _ => rfl, by decide +kernel⟩, hresult, hget, fun hends => ?_⟩
  have hrun : generateDependencyEvidence undecodableWorld exampleArguments
      (Run.start exampleDirectory) = undecodableRun := rfl
  unfold EndsRecorded at hends
  rw [hrun] at hends
  generalize undecodableRun = outcome at hresult hget hends
  obtain ⟨result, run⟩ := outcome
  cases hresult
  obtain ⟨stage, failure, run', -, -, moment, message, -, bytes, hbytes, hfile⟩ := hends
  rw [encodeUtf8_document hencoder, Option.some.injEq] at hbytes
  rw [hget, ← hbytes, Option.some.injEq, Entry.file.injEq] at hfile
  exact documentText_ne undecodableWorld _ _ _ _ _ _ _ hfile

end ApiTests.Evidence
