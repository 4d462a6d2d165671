import ApiTests.Dependencies.Bootstrap
import ApiTests.Evidence.RedactText
import ApiTests.Evidence.Tree

/-!
# The generator of dependency evidence

Model of `generate_dependency_evidence` and what it calls (`dependency_evidence.py:30-48, 405-727,
798-829, 890-953`). A run works in the output directory, whose entries are files or directories, none a
link to another, and asks its `World`: what a command answers, which file operation fails, the time, the
content of other files. `clock` counts what it has asked, so that an answer may differ from one moment to
the next. The commands do not write into the output directory.
-/

namespace ApiTests.Evidence

open Py Dependencies

/-! ## The outputs -/

/-- `SETUP_OUTPUTS`. -/
def setupOutputs : List Text := [lit "bootstrap.log", lit "scanner-install.log"]

/-- `LEGACY_OUTPUTS`. -/
def legacyOutputs : List Text := [lit "dependency-tree.txt"]

/-- `"completion.json"`. -/
def completionName : Text := lit "completion.json"

/-- `GENERATED_OUTPUTS`. -/
def generatedOutputs : List Text :=
  [lit "diagnostics.json", lit "metadata.json", lit "lock-export.txt", lit "lock-selection.json",
    lit "installed-packages.json", lit "dependency-tree.json", lit "playwright-browser-metadata.json",
    lit "pip-audit.json", lit "pip-audit.txt", lit "sbom.cdx.json", lit "scanner-status.json",
    lit "scanner.stderr.log", lit "parity.json", completionName]

/-- `SUCCESSFUL_OUTPUTS`. -/
def successfulOutputs : List Text := setupOutputs ++ generatedOutputs

/-- What stands in the output directory under a name. -/
inductive Entry where
  | file (bytes : List Nat)
  | directory
  deriving Repr, DecidableEq

/-- The output directory. -/
abbrev Directory := Dict Text Entry

/-- A run: what it has asked and run so far, the output directory, and the stage. -/
structure Run where
  clock : Nat
  ran : List (Command × CompletedProcess)
  directory : Directory
  stage : Text

def Run.start (directory : Directory) : Run := ⟨0, [], directory, lit "initialize"⟩

/-- The installed Playwright: its version and its `browsers.json`. -/
structure Playwright where
  version : Text
  browsers : Except Failure (List Nat)

/-- What the run asks. -/
structure World extends Library where
  /-- `validate_contract_files(root)`. -/
  contractFiles : Except Failure (Option DependencyContract × List Text)
  /-- The answer to a command, or what running it raises. -/
  respond : Nat → Command → Except Failure CompletedProcess
  /-- The text of the `OSError` of a file operation that fails. -/
  fails : Nat → Option Text
  /-- The text of the `OSError` for a name that is no file. -/
  noFile : Text → Text
  /-- `_timestamp()`. -/
  timestamp : Nat → Text
  /-- The bytes of a file of the repository, or the text of the `OSError`. -/
  inputBytes : Nat → Text → Except Text (List Nat)
  /-- `None` where the distribution is not found. -/
  playwright : Option Playwright
  /-- `hashlib.sha256(data).hexdigest()`. -/
  sha256 : List Nat → Text
  /-- A number as `json.dumps` writes it. -/
  numberText : PyNumber → Text
  /-- The depth to which `json.dumps` goes before its `RecursionError`. -/
  encoderDepth : Nat
  pythonVersion : Text
  pythonImplementation : Text
  platform : Text

/-- The arguments of the generator. -/
structure Arguments where
  root : Text
  outputDir : Text
  pythonExecutable : Text
  uvExecutable : Text
  scannerExecutable : Text

abbrev Generator := Program Run Failure

variable (world : World) (arguments : Arguments)

/-! ## Files -/

/-- One question to the world. -/
def tick : Generator Nat := do
  let run ← Program.get
  Program.modify fun run => { run with clock := run.clock + 1 }
  pure run.clock

/-- A file operation that may fail. -/
def fileOperation : Generator Unit := do
  let moment ← tick
  match world.fails moment with
  | some message => Program.raise (.osError message)
  | none => pure ()

def entryAt (name : Text) : Generator (Option Entry) := do
  let run ← Program.get
  pure (run.directory.get? name)

def setEntry (name : Text) (entry : Entry) : Generator Unit :=
  Program.modify fun run => { run with directory := run.directory.update (.single name entry) }

/-- `(output_dir / name).unlink(missing_ok=True)`. -/
def unlink (name : Text) : Generator Unit := do
  fileOperation world
  let entry ← entryAt name
  match entry with
  | some .directory => Program.raise (.osError (world.noFile name))
  | _ => Program.modify fun run => { run with directory := run.directory.erase name }

/-- A file opened for writing is emptied and then written. -/
def putText (name text : Text) : Generator Unit := do
  setEntry name (.file [])
  match encodeUtf8 text with
  | none => Program.raise .other
  | some bytes => do
    fileOperation world
    setEntry name (.file bytes)

/-- `(output_dir / name).write_text(text, encoding="utf-8")`. -/
def writeText (name text : Text) : Generator Unit := do
  fileOperation world
  let entry ← entryAt name
  match entry with
  | some .directory => Program.raise (.osError (world.noFile name))
  | _ => putText world name text

/-- `(output_dir / name).read_bytes()`. -/
def readBytes (name : Text) : Generator (List Nat) := do
  fileOperation world
  let entry ← entryAt name
  match entry with
  | some (.file bytes) => pure bytes
  | _ => Program.raise (.osError (world.noFile name))

/-- The text of a document. -/
def documentText (document : Json PyNumber) : Text := dumpsIndented world.numberText 0 document ++ [lf]

/-- `_write_json`. -/
def writeJson (name : Text) (document : Json PyNumber) : Generator Unit := do
  Program.lift (raiseWhen (world.encoderDepth < document.depth) Failure.other)
  writeText world name (documentText world document)

/-- `_sha256` of an output. -/
def outputSha256 (name : Text) : Generator Text := do
  let bytes ← readBytes world name
  pure (world.sha256 bytes)

def textJson (t : Text) : Json PyNumber := .str t

def natJson (n : Nat) : Json PyNumber := .number (.int n)

/-- `_write_diagnostics`. -/
def writeDiagnostics (status stage : Text) (error : Option Text) : Generator Unit := do
  let moment ← tick
  writeJson world (lit "diagnostics.json") (.dict ([(lit "schema_version", evidenceSchema),
    (lit "updated_at", .str (world.timestamp moment)), (lit "status", .str status),
    (lit "stage", .str stage)] ++ (error.map fun message => (lit "error", textJson message)).toList))

def setStage (stage : Text) : Generator Unit := Program.modify fun run => { run with stage }

/-! ## Commands -/

/-- `_run`. -/
def runCommand (command : Command) : Generator CompletedProcess := do
  let moment ← tick
  let result ← Program.lift (world.respond moment command)
  Program.modify fun run => { run with ran := run.ran ++ [(command, result)] }
  pure result

/-- `_require_command`. -/
def requireCommand (result : CompletedProcess) (message : Text) : Except Failure CompletedProcess :=
  if result.returncode ≠ 0 then
    evidenceError (message ++ lit ": " ++ redactText world.unicode (commandError result))
  else .ok result

/-- A command that has to succeed. -/
def require (command : Command) (message : Text) : Generator CompletedProcess := do
  let result ← runCommand world command
  Program.lift (requireCommand world result message)

def exportCommand : Command :=
  [arguments.uvExecutable, lit "export", lit "--frozen", lit "--all-groups", lit "--no-emit-project",
    lit "--no-annotate", lit "--no-header", lit "--format", lit "requirements.txt", lit "--python",
    arguments.pythonExecutable, lit "--no-managed-python", lit "--no-python-downloads"]

def treeCommand (contract : DependencyContract) : Command :=
  [arguments.uvExecutable, lit "tree", lit "--frozen", lit "--all-groups", lit "--format", lit "json",
    lit "--preview-features", lit "json-output", lit "--python-version", contract.pythonPin,
    lit "--no-python-downloads"]

def inventoryCommand : Command :=
  [arguments.uvExecutable, lit "pip", lit "list", lit "--format", lit "json", lit "--python",
    arguments.pythonExecutable, lit "--no-managed-python", lit "--no-python-downloads"]

/-- The command of `_run_scanner`. -/
def scannerCommand (outputFormat : Text) : Command :=
  [arguments.scannerExecutable, lit "--strict", lit "--progress-spinner", lit "off",
    lit "--vulnerability-service", lit "pypi", lit "--requirement",
    joinPath arguments.outputDir (lit "lock-export.txt"), lit "--no-deps", lit "--disable-pip",
    lit "--format", outputFormat]

/-! ## Stages -/

/-- `_load_contract`. -/
def loadContract : Except Failure DependencyContract := do
  let (contract, issues) ← world.contractFiles
  match contract, issues with
  | some contract, [] => .ok contract
  | none, [] => evidenceError (lit "dependency contract is incomplete")
  | _, issues => evidenceError ((lit "; ").intercalate issues)

/-- The running Python is the pinned one. -/
def checkPython (contract : DependencyContract) : Except Failure Unit :=
  raiseWhen (world.pythonVersion ≠ contract.pythonPin) (.evidenceError
    (lit "evidence requires Python " ++ contract.pythonPin ++ lit ", got " ++ world.pythonVersion))

/-- `uv --version` names the pinned version. -/
def checkUv (contract : DependencyContract) (uvVersion : CompletedProcess) : Except Failure Unit :=
  raiseWhen (beforeParenthesis (strip uvVersion.stdout) ≠ lit "uv " ++ contract.uvVersion)
    (.evidenceError (lit "expected uv " ++ contract.uvVersion ++ lit ", got " ++
      world.quoted (strip uvVersion.stdout)))

/-- `pip-audit --version` names the pinned version. -/
def checkScanner (contract : DependencyContract) (scannerVersion : CompletedProcess) :
    Except Failure Unit :=
  raiseWhen (strip scannerVersion.stdout ≠ lit "pip-audit " ++ contract.pipAuditVersion)
    (.evidenceError (lit "expected pip-audit " ++ contract.pipAuditVersion ++ lit ", got " ++
      world.quoted (strip scannerVersion.stdout)))

/-- `_verify_runtime_and_tools`. -/
def verifyRuntimeAndTools (contract : DependencyContract) : Generator Unit := do
  Program.lift (checkPython world contract)
  let uvVersion ← require world [arguments.uvExecutable, lit "--version"] (lit "uv failed")
  Program.lift (checkUv world contract uvVersion)
  let scannerVersion ← require world [arguments.scannerExecutable, lit "--version"]
    (lit "pip-audit failed")
  Program.lift (checkScanner world contract scannerVersion)
  let _ ← require world (frozenLockCheckCommand arguments.uvExecutable arguments.pythonExecutable)
    (lit "uv.lock is stale or invalid")
  let _ ← require world (frozenSyncCheckCommand arguments.uvExecutable)
    (lit "installed environment does not match the frozen lock")
  pure ()

/-- `_package_documents`. -/
def packageDocuments (packages : List PackageRecord) : Json PyNumber :=
  .list (packages.map fun package =>
    .dict [(lit "name", .str package.name), (lit "version", .str package.version)])

/-- The stage "export selected lock graph". -/
def exportLock : Generator (List PackageRecord) := do
  setStage (lit "export selected lock graph")
  let result ← require world (exportCommand arguments) (lit "could not export the frozen lock")
  let lockPackages ← Program.lift (parseLockExport world.toLibrary result.stdout)
  writeText world (lit "lock-export.txt") result.stdout
  writeJson world (lit "lock-selection.json") (.dict [(lit "schema_version", evidenceSchema),
    (lit "selection", .str (lit "current runner environment markers")),
    (lit "packages", packageDocuments lockPackages)])
  pure lockPackages

/-- The stage "generate dependency tree". -/
def generateTree (contract : DependencyContract) : Generator DependencyTree := do
  setStage (lit "generate dependency tree")
  let result ← require world (treeCommand arguments contract)
    (lit "could not generate the frozen dependency tree")
  let tree ← Program.lift (parseDependencyTree world.toLibrary result.stdout)
  writeJson world (lit "dependency-tree.json") tree.document
  pure tree

/-- `path.resolve()`. -/
def resolvedPath (path : Text) : Except Failure Text :=
  match world.resolve path with
  | some resolved => .ok resolved
  | none => .error .other

/-- The stage "inventory installed environment". -/
def inventoryInstalled : Generator (List PackageRecord) := do
  setStage (lit "inventory installed environment")
  let result ← require world (inventoryCommand arguments)
    (lit "could not inventory the installed environment")
  let root ← Program.lift (resolvedPath world arguments.root)
  let (project, packages) ← Program.lift (parseInstalledInventory world.toLibrary result.stdout root)
  writeJson world (lit "installed-packages.json") (.dict [(lit "schema_version", evidenceSchema),
    (lit "project_exclusion", .dict [(lit "name", .str project.name),
      (lit "version", .str project.version), (lit "editable", .bool project.editable)]),
    (lit "packages", packageDocuments packages)])
  pure packages

/-- `_playwright_browser_metadata`. -/
def playwrightBrowserMetadata : Except Failure (Json PyNumber) :=
  match world.playwright with
  | none => evidenceError (lit "installed Playwright distribution is missing")
  | some playwright => do
    let bytes ← playwright.browsers
    match decodeUtf8 bytes with
    | none => .error .other
    | some text => do
      let browsers ← parseBrowsers world.toLibrary (universalNewlines text)
      .ok (.dict [(lit "schema_version", evidenceSchema),
        (lit "playwright_version", .str playwright.version),
        (lit "source", .str (lit "installed Playwright package browsers.json")),
        (lit "browser_installation_performed", .bool false), (lit "browsers", .list browsers)])

/-- The stage "derive Playwright browser metadata". -/
def deriveBrowsers : Generator Unit := do
  setStage (lit "derive Playwright browser metadata")
  let metadata ← Program.lift (playwrightBrowserMetadata world)
  writeJson world (lit "playwright-browser-metadata.json") metadata

/-- The text of `scanner.stderr.log`. -/
def scannerErrors (auditResult sbomResult : CompletedProcess) : Text :=
  lit "[pip-audit-json]\n" ++ redactText world.unicode auditResult.stderr ++
    lit "\n[cyclonedx-json]\n" ++ redactText world.unicode sbomResult.stderr

/-- The scanners agree on the number of findings. -/
def checkCounts (audit : AuditReport) (sbom : SbomReport) : Except Failure Unit :=
  raiseWhen (audit.vulnerabilityCount ≠ sbom.vulnerabilityCount) (.evidenceError
    (lit "pip-audit JSON and CycloneDX vulnerability counts disagree: " ++
      decimal audit.vulnerabilityCount ++ lit " != " ++ decimal sbom.vulnerabilityCount))

/-- The stage "scan selected dependency graph". -/
def scan : Generator (AuditReport × SbomReport) := do
  setStage (lit "scan selected dependency graph")
  let auditResult ← runCommand world (scannerCommand arguments (lit "json"))
  let sbomResult ← runCommand world (scannerCommand arguments (lit "cyclonedx-json"))
  writeText world (lit "scanner.stderr.log") (scannerErrors world auditResult sbomResult)
  writeJson world (lit "scanner-status.json") (.dict [(lit "schema_version", evidenceSchema),
    (lit "pip_audit_json_exit_code", .number (.int auditResult.returncode)),
    (lit "cyclonedx_json_exit_code", .number (.int sbomResult.returncode)),
    (lit "accepted_exit_codes", .list [natJson 0, natJson 1])])
  let audit ← Program.lift (parseAuditReport world.toLibrary auditResult.stdout auditResult.returncode)
  let sbom ← Program.lift (parseSbomReport world.toLibrary sbomResult.stdout sbomResult.returncode)
  Program.lift (checkCounts audit sbom)
  writeJson world (lit "pip-audit.json") (.dict audit.document)
  writeJson world (lit "sbom.cdx.json") (.dict sbom.document)
  let findings ← Program.lift (humanFindings world.toLibrary audit.document)
  writeText world (lit "pip-audit.txt") findings
  pure (audit, sbom)

/-- `asdict(comparison)`. -/
def comparisonDocument (comparison : PackageComparison) : Json PyNumber :=
  .dict [(lit "source", .str comparison.source), (lit "status", .str comparison.status.text),
    (lit "missing", .list (comparison.missing.map .str)),
    (lit "extra", .list (comparison.extra.map .str)),
    (lit "version_mismatches", .list (comparison.versionMismatches.map fun mismatch =>
      .dict [(lit "name", .str mismatch.name), (lit "expected", .str mismatch.expected),
        (lit "actual", .str mismatch.actual)]))]

/-- The comparisons with the lock export. -/
def comparisonsOf (lockPackages treePackages installedPackages auditPackages sbomPackages :
    List PackageRecord) : List PackageComparison :=
  [compareExactPackages lockPackages treePackages (lit "dependency tree"),
    compareExactPackages lockPackages installedPackages (lit "installed"),
    compareExactPackages lockPackages auditPackages (lit "pip-audit"),
    compareExactPackages lockPackages sbomPackages (lit "CycloneDX SBOM")]

/-- An exclusion of the parity report. -/
def exclusion (scope name reason : Text) : Json PyNumber :=
  .dict [(lit "scope", .str scope), (lit "name", .str name), (lit "reason", .str reason)]

/-- The stage "enforce exact graph parity". -/
def enforceParity (packageCount : Nat) (comparisons : List PackageComparison) : Generator Unit := do
  setStage (lit "enforce exact graph parity")
  let status := if ∀ comparison ∈ comparisons, comparison.status = .exact then ParityStatus.exact
    else ParityStatus.mismatch
  writeJson world (lit "parity.json") (.dict [(lit "schema_version", evidenceSchema),
    (lit "status", .str status.text), (lit "reference", .str (lit "platform-selected uv lock export")),
    (lit "package_count", natJson packageCount),
    (lit "comparisons", .list (comparisons.map comparisonDocument)),
    (lit "exclusions", .list [
      exclusion (lit "project") projectName (lit "first-party editable package"),
      exclusion (lit "bootstrap environment") (lit "uv") (lit "isolated pinned bootstrap tool"),
      exclusion (lit "scanner environment") (lit "pip-audit and its tool dependencies")
        (lit "isolated pinned scanner tool")])])
  Program.lift (requireExactComparisons world.unicode comparisons)

/-- `_sha256` of a file of the repository. -/
def inputSha256 (name : Text) : Generator (Json PyNumber) := do
  let moment ← tick
  let bytes ← Program.lift
    ((world.inputBytes moment (joinPath arguments.root name)).mapError Failure.osError)
  pure (.str (world.sha256 bytes))

/-- `_metadata_document`. -/
def metadataDocument (contract : DependencyContract) (packageCount : Nat) : Generator (Json PyNumber) := do
  let moment ← tick
  let pin ← inputSha256 world arguments (lit ".python-version")
  let manifest ← inputSha256 world arguments (lit "pyproject.toml")
  let lock ← inputSha256 world arguments (lit "uv.lock")
  pure (.dict [(lit "schema_version", evidenceSchema),
    (lit "generated_at", .str (world.timestamp moment)),
    (lit "python", .dict [(lit "implementation", .str world.pythonImplementation),
      (lit "version", .str world.pythonVersion), (lit "platform", .str world.platform)]),
    (lit "tools", .dict [
      (lit "uv", .dict [(lit "version", .str contract.uvVersion),
        (lit "environment", .str (lit "isolated bootstrap"))]),
      (lit "pip-audit", .dict [(lit "version", .str contract.pipAuditVersion),
        (lit "declared_version", .str contract.pipAuditVersion),
        (lit "environment", .str (lit "isolated scanner"))])]),
    (lit "project_environment", .str (lit ".venv (frozen, all dependency groups)")),
    (lit "package_index", .str pypiIndex), (lit "vulnerability_service", .str (lit "pypi")),
    (lit "selected_package_count", natJson packageCount),
    (lit "inputs", .dict [(lit ".python-version", pin), (lit "pyproject.toml", manifest),
      (lit "uv.lock", lock)])])

/-! ## The outputs checked -/

/-- The files of the output directory. -/
def filesOf (directory : Directory) : List Text :=
  directory.entries.filterMap fun entry => match entry with
    | (name, .file _) => some name
    | _ => none

/-- The files among `names` that are empty. -/
def emptyFiles : List Text → Generator (List Text)
  | [] => pure []
  | name :: names => do
    let bytes ← readBytes world name
    let rest ← emptyFiles names
    pure (if bytes = [] then name :: rest else rest)

/-- `validate_complete_outputs`, for the expected names. -/
def validateCompleteOutputs (expected : List Text) : Generator Unit := do
  fileOperation world
  let run ← Program.get
  let present := filesOf run.directory
  let missing := sortTexts (expected.filter fun name => name ∉ present)
  let unexpected := sortTexts (present.filter fun name => name ∉ expected)
  let empty ← emptyFiles world (expected.filter fun name => name ∈ present)
  Program.lift (raiseWhen (missing ≠ [] ∨ unexpected ≠ [] ∨ empty ≠ []) (.evidenceError
    (lit "evidence allowlist is incomplete: missing=" ++ reprTexts world.unicode missing ++
      lit ", unexpected=" ++ reprTexts world.unicode unexpected ++ lit ", empty=" ++
      reprTexts world.unicode (sortTexts empty))))

/-- The outputs without `completion.json`. -/
def hashedOutputs : List Text := successfulOutputs.filter fun name => name ≠ completionName

/-- The hashes of the outputs. -/
def hashOutputs : List Text → Generator (List (Text × Json PyNumber))
  | [] => pure []
  | name :: names => do
    let hash ← outputSha256 world name
    let rest ← hashOutputs names
    pure ((name, .str hash) :: rest)

/-- The document `completion.json` holds. -/
def completionDocument (generatedAt : Text) (packageCount vulnerablePackageCount vulnerabilityCount : Nat)
    (outputs : List (Text × Json PyNumber)) : Json PyNumber :=
  .dict [(lit "schema_version", evidenceSchema), (lit "status", .str (lit "complete")),
    (lit "generated_at", .str generatedAt), (lit "selected_package_count", natJson packageCount),
    (lit "vulnerable_package_count", natJson vulnerablePackageCount),
    (lit "vulnerability_count", natJson vulnerabilityCount), (lit "findings_are_gating", .bool false),
    (lit "outputs", .dict outputs)]

/-- The stage "write metadata and completion". -/
def complete (contract : DependencyContract) (packageCount : Nat) (audit : AuditReport) :
    Generator Unit := do
  setStage (lit "write metadata and completion")
  let metadata ← metadataDocument world arguments contract packageCount
  writeJson world (lit "metadata.json") metadata
  writeDiagnostics world (lit "complete") (lit "complete") none
  validateCompleteOutputs world hashedOutputs
  let outputs ← hashOutputs world hashedOutputs
  let moment ← tick
  writeJson world completionName (completionDocument (world.timestamp moment) packageCount
    audit.vulnerablePackageCount audit.vulnerabilityCount outputs)
  validateCompleteOutputs world successfulOutputs

/-! ## The generator -/

/-- The body of the `try`. -/
def generateStages : Generator Unit := do
  let contract ← Program.lift (loadContract world)
  setStage (lit "verify tools and frozen environment")
  verifyRuntimeAndTools world arguments contract
  let lockPackages ← exportLock world arguments
  let tree ← generateTree world arguments contract
  let installedPackages ← inventoryInstalled world arguments
  deriveBrowsers world
  let (audit, sbom) ← scan world arguments
  enforceParity world lockPackages.length
    (comparisonsOf lockPackages tree.packages installedPackages audit.packages sbom.packages)
  complete world arguments contract lockPackages.length audit

/-- The handler: the failure is recorded, its text redacted. -/
def recordFailure (message : Text) : Generator Unit := do
  let redacted := redactText world.unicode message
  unlink world completionName
  let run ← Program.get
  writeDiagnostics world (lit "failed") run.stage (some redacted)
  Program.raise (.evidenceError redacted)

/-- The `unlink`s at the start. -/
def unlinkAll : List Text → Generator Unit
  | [] => pure ()
  | name :: names => do
    unlink world name
    unlinkAll names

/-- The lines before the `try`. -/
def initializeOutputs : Generator Unit := do
  -- `output_dir.mkdir(parents=True, exist_ok=True)`
  fileOperation world
  unlinkAll world (generatedOutputs ++ legacyOutputs)
  setStage (lit "initialize")
  writeDiagnostics world (lit "running") (lit "initialize") none

/-- `generate_dependency_evidence`. -/
def generateDependencyEvidence : Generator Unit := do
  initializeOutputs world
  Program.handle (generateStages world arguments) fun failure => match failure with
    | .evidenceError message => recordFailure world message
    | .osError message => recordFailure world message
    | .subprocessError message => recordFailure world message
    | .other => Program.raise .other

end ApiTests.Evidence
