import ApiTests.Dependencies.Installed
import ApiTests.Py.Program
import ApiTests.Py.Utf8

/-!
# The bootstrap of the local environment

Model of `local_bootstrap.py:23-449`. A run works on a checkout, of which it keeps `.venv` with the
readiness marker in it, and meets its `Surroundings`: what the contract files hold, what each command
answers, what `uv sync` leaves at `.venv`, which file operation fails. They may change from run to run.
uv does not write the marker, which is this program's own file. How the contract files are read, and
the environment variables the commands get, are left out.

`Checkout` also notes what the run has done to `.venv` and what it has checked, in order, and under
which identity; `Machine` keeps every checkout the run has passed through.
`ReadinessMarker.lean` says what a marker means after any sequence of runs.
-/

namespace ApiTests.Dependencies

open Py

/-- `BOOTSTRAP_MARKER_SCHEMA`. -/
def bootstrapMarkerSchema : Int := 1

/-- `BootstrapIdentity`, made for this schema from the file system's texts. -/
structure BootstrapIdentity where
  schemaVersion : Int
  pythonVersion : Text
  pythonExecutable : Text
  uvVersion : Text
  pythonPinSha256 : Text
  manifestSha256 : Text
  lockSha256 : Text
  schemaVersion_eq : schemaVersion = bootstrapMarkerSchema
  texts_system : ∀ t ∈ [pythonVersion, pythonExecutable, uvVersion, pythonPinSha256, manifestSha256,
    lockSha256], IsSystemText t

/-- `asdict(identity)`; `int` makes a JSON number of an integer. -/
def BootstrapIdentity.asdict {ν : Type} (int : Int → ν) (identity : BootstrapIdentity) :
    List (Text × Json ν) :=
  [(lit "schema_version", .number (int identity.schemaVersion)),
    (lit "python_version", .str identity.pythonVersion),
    (lit "python_executable", .str identity.pythonExecutable),
    (lit "uv_version", .str identity.uvVersion),
    (lit "python_pin_sha256", .str identity.pythonPinSha256),
    (lit "manifest_sha256", .str identity.manifestSha256),
    (lit "lock_sha256", .str identity.lockSha256)]

/-- The text `_write_marker` writes. -/
def markerText (identity : BootstrapIdentity) : Text :=
  dumpsIndented (fun n : Int => lit (toString n)) 0 (.dict (identity.asdict id)) ++ [lf]

/-- Its bytes; the text is ASCII. -/
def markerBytes (identity : BootstrapIdentity) : List Nat := (markerText identity).flatMap utf8Bytes

/-! ## The checkout -/

/-- What stands at `.venv`, with the bytes of the marker in it. -/
inductive Target where
  | absent
  | file
  | directory (marker : Option (List Nat))
  deriving Repr, DecidableEq

/-- `.venv`: what stands there, or what a link there leads to. -/
structure Venv where
  symlink : Bool
  target : Target
  deriving Repr, DecidableEq

/-- The bytes of the marker file. -/
def Venv.marker (venv : Venv) : Option (List Nat) :=
  match venv.target with
  | .directory marker => marker
  | _ => none

/-- What a run does to `.venv` and what it checks. -/
inductive Event where
  /-- `_remove_project_environment`, begun. -/
  | removal
  /-- `uv sync`, begun. -/
  | sync
  /-- `uv sync --check`, with its verdict. -/
  | check (passed : Bool)
  /-- `_environment_has_only_locked_packages`, with its verdict. -/
  | verify (passed : Bool)
  deriving Repr, DecidableEq

/-- The checkout in a run, with the run's own notes. -/
structure Checkout where
  venv : Venv
  events : List Event
  identity : Option BootstrapIdentity

/-- A command with its arguments. -/
abbrev Command := List Text

/-- A run: the commands so far, the checkout, and every checkout it has passed through. -/
structure Machine where
  commands : List Command
  checkout : Checkout
  passed : List Checkout

/-- A run begins with what stands at `.venv`. -/
def Machine.start (venv : Venv) : Machine := ⟨[], ⟨venv, [], none⟩, [⟨venv, [], none⟩]⟩

/-- How a run stops: with a `BootstrapError`, an `OSError`, or another exception. -/
inductive Stop where
  | bootstrapError (message : Text)
  | osError
  | other
  deriving Repr, DecidableEq

/-- The file operations on `.venv`. -/
inductive FileStep where
  | readMarker
  | unlinkMarker
  | removeEnvironment
  | makeDirectory
  | writeTemporary
  | replaceMarker
  deriving Repr, DecidableEq

/-- What `uv sync` leaves at `.venv`. -/
inductive Layout where
  | absent
  | file
  /-- A directory; a marker that stood there may stay. -/
  | directory (keepsMarker : Bool)
  deriving Repr, DecidableEq

/-- What a run meets. -/
structure Surroundings extends Reader where
  /-- `validate_contract_files`; `none` is an exception. -/
  contractFiles : Option (Option DependencyContract × List Text)
  /-- The answer to the last of the commands so far, or what running it raises. -/
  respond : List Command → Except Stop CompletedProcess
  /-- `Path(t).is_file()`, the commands so far having run. -/
  isFile : List Command → Text → Bool
  /-- `str(Path(t))`. -/
  pathText : Text → Text
  /-- The bytes of a file of the repository; `none` is an exception. -/
  readBytes : Text → Option (List Nat)
  /-- `hashlib.sha256(data).hexdigest()`. -/
  sha256 : List Nat → Text
  sha256_system : ∀ bytes, IsSystemText (sha256 bytes)
  /-- The text of the `OSError` of a file operation that fails. -/
  fileFails : FileStep → Option Text
  layout : Layout
  bootstrapPythonExecutable : Text
  bootstrapRuntimeVersion : Text

abbrev Bootstrap := Program Machine Stop

variable (world : Surroundings) (root : Text)

/-- `root / name`. -/
def joinPath (base name : Text) : Text := base ++ lit "/" ++ name

/-! ## Commands -/

/-- `_run_command`. -/
def runCommand (command : Command) : Bootstrap CompletedProcess := do
  Program.modify fun m => { m with commands := m.commands ++ [command] }
  let m ← Program.get
  Program.lift (world.respond m.commands)

def bootstrapError {α : Type} (message : Text) : Bootstrap α :=
  Program.raise (.bootstrapError message)

/-- `_command_error`. -/
def commandError (result : CompletedProcess) : Text :=
  if strip result.stderr ≠ [] then strip result.stderr
  else if strip result.stdout ≠ [] then strip result.stdout
  else lit "exit " ++ lit (toString result.returncode)

/-- `t.split(" (")[0]`. -/
def beforeParenthesis : Text → Text
  | [] => []
  | 32 :: 40 :: _ => []
  | c :: t => c :: beforeParenthesis t

/-- `t.rsplit(".", maxsplit=1)[0]`. -/
def beforeLastDot (t : Text) : Text :=
  if 46 ∈ t then ((t.reverse.dropWhile fun c => c ≠ 46).drop 1).reverse else t

def uvVersionCommand (executable : Text) : Command := [executable, lit "--version"]

/-- `_uv_version_matches`. -/
def uvVersionMatches (executable expected : Text) : Bootstrap Bool := do
  let m ← Program.get
  if world.isFile m.commands executable then
    Program.handle
      (do
        let result ← runCommand world (uvVersionCommand executable)
        pure (result.returncode = 0 &&
          beforeParenthesis (strip result.stdout) = lit "uv " ++ expected))
      fun stop => match stop with
        | .osError => pure false
        | stop => Program.raise stop
  else pure false

/-- The directory of the isolated uv, and its executable (`pinned_uv_executable`). -/
def toolRoot (contract : DependencyContract) : Text :=
  joinPath (joinPath root (lit ".dependency-tools")) (lit "uv-" ++ contract.uvVersion)

def pinnedUvExecutable (contract : DependencyContract) : Text :=
  joinPath (joinPath (toolRoot root contract) (lit "bin")) (lit "uv")

/-- The commands that create the isolated environment and install uv in it. -/
def toolEnvironmentCommand (contract : DependencyContract) : Command :=
  [world.bootstrapPythonExecutable, lit "-m", lit "venv", lit "--clear", toolRoot root contract]

def uvInstallCommand (contract : DependencyContract) : Command :=
  [joinPath (joinPath (toolRoot root contract) (lit "bin")) (lit "python"), lit "-m", lit "pip",
    lit "install", lit "--isolated", lit "--disable-pip-version-check", lit "--index-url", pypiIndex,
    lit "--no-deps", lit "--only-binary=:all:", lit "uv==" ++ contract.uvVersion]

/-- `ensure_pinned_uv`. -/
def ensurePinnedUv (contract : DependencyContract) : Bootstrap Text := do
  let executable := pinnedUvExecutable root contract
  let matching ← uvVersionMatches world executable contract.uvVersion
  if matching then pure executable
  else do
    let created ← runCommand world (toolEnvironmentCommand world root contract)
    if created.returncode ≠ 0 then
      bootstrapError (lit "could not create the isolated uv environment: " ++ commandError created)
    else do
      let installed ← runCommand world (uvInstallCommand root contract)
      if installed.returncode ≠ 0 then
        bootstrapError (lit "could not install pinned uv " ++ contract.uvVersion ++ lit " from " ++
          pypiIndex ++ lit ": " ++ commandError installed)
      else do
        let matching ← uvVersionMatches world executable contract.uvVersion
        if matching then pure executable
        else
          bootstrapError
            (lit "installed uv does not report the pinned version " ++ contract.uvVersion)

/-- The path of a listed installation, if it is the pinned one. -/
def matchingPath (pythonPin : Text) : Json PyNumber → Option Text
  | .dict entries =>
    match member entries (lit "implementation"), member entries (lit "version"),
        member entries (lit "path") with
    | .str implementation, .str version, .str path =>
      if implementation = lit "cpython" ∧ version = pythonPin then some path else none
    | _, _, _ => none
  | _ => none

/-- The one installation of the list. -/
def managedPath (contract : DependencyContract) (stdout : Text) : Except Stop Text :=
  match world.loads stdout with
  | .error (.jsonDecodeError message) =>
    .error (.bootstrapError (lit "uv returned an invalid managed Python inventory: " ++ message))
  | .error .other => .error .other
  | .ok (.list installations) =>
    match installations.filterMap (matchingPath contract.pythonPin) with
    | [path] => .ok (world.pathText path)
    | paths => .error (.bootstrapError (lit "uv reported " ++ decimal paths.length ++
        lit " managed CPython " ++ contract.pythonPin ++ lit " installations; expected exactly one"))
  | .ok _ => .error (.bootstrapError (lit "uv returned an invalid managed Python inventory"))

/-- The commands that install the managed Python, list it and run it. -/
def pythonInstallCommand (contract : DependencyContract) (uvExecutable : Text) : Command :=
  [uvExecutable, lit "python", lit "install", contract.pythonPin, lit "--managed-python", lit "--no-bin"]

def pythonListCommand (contract : DependencyContract) (uvExecutable : Text) : Command :=
  [uvExecutable, lit "python", lit "list", contract.pythonPin, lit "--only-installed",
    lit "--managed-python", lit "--no-python-downloads", lit "--output-format", lit "json"]

def pythonVersionCommand (pythonExecutable : Text) : Command :=
  [pythonExecutable, lit "-c", lit "import platform; print(platform.python_version())"]

/-- `ensure_managed_python`. -/
def ensureManagedPython (contract : DependencyContract) (uvExecutable : Text) : Bootstrap Text := do
  let installed ← runCommand world (pythonInstallCommand contract uvExecutable)
  if installed.returncode ≠ 0 then
    bootstrapError (lit "could not install uv-managed Python " ++ contract.pythonPin ++ lit ": " ++
      commandError installed)
  else do
    let listed ← runCommand world (pythonListCommand contract uvExecutable)
    if listed.returncode ≠ 0 then
      bootstrapError (lit "uv installed Python " ++ contract.pythonPin ++
        lit " but could not resolve it: " ++ commandError listed)
    else do
      let executable ← Program.lift (managedPath world contract listed.stdout)
      if headIn (fun c => c = 47) executable then do
        let version ← runCommand world (pythonVersionCommand executable)
        if version.returncode ≠ 0 then
          bootstrapError (lit "could not execute the uv-managed Python: " ++ commandError version)
        else if strip version.stdout ≠ contract.pythonPin then
          bootstrapError (lit "uv resolved Python " ++
            (if strip version.stdout = [] then lit "with no reported version"
              else strip version.stdout) ++ lit ", expected " ++ contract.pythonPin)
        else pure executable
      else
        bootstrapError
          (lit "uv returned a non-absolute managed Python executable path: " ++ executable)

/-- `frozen_lock_check_command`. -/
def frozenLockCheckCommand (uvExecutable pythonExecutable : Text) : Command :=
  [uvExecutable, lit "lock", lit "--check", lit "--python", pythonExecutable, lit "--managed-python",
    lit "--no-python-downloads", lit "--no-sources"]

/-- `_check_lock`. -/
def checkLock (contract : DependencyContract) (uvExecutable pythonExecutable : Text) :
    Bootstrap Unit := do
  let result ← runCommand world (frozenLockCheckCommand uvExecutable pythonExecutable)
  if result.returncode ≠ 0 then
    bootstrapError (lit "uv.lock is stale or invalid; refresh it only through the documented " ++
      lit "intentional update workflow using uv " ++ contract.uvVersion ++ lit ": " ++
      commandError result)
  else pure ()

/-! ## Identity and marker -/

/-- `_sha256`. -/
def fileSha256 (name : Text) : Except Stop {t : Text // IsSystemText t} :=
  match world.readBytes (joinPath root name) with
  | some bytes => .ok ⟨world.sha256 bytes, world.sha256_system bytes⟩
  | none => .error .osError

/-- `str(path.resolve())`. -/
def resolved (path : Text) : Except Stop {t : Text // IsSystemText t} :=
  match h : world.resolve path with
  | some t => .ok ⟨t, world.resolve_system path t h⟩
  | none => .error .other

/-- `_bootstrap_identity`. -/
def bootstrapIdentity (contract : DependencyContract) (pythonExecutable : Text) :
    Except Stop BootstrapIdentity := do
  let executable ← resolved world pythonExecutable
  let pin ← fileSha256 world root (lit ".python-version")
  let manifest ← fileSha256 world root (lit "pyproject.toml")
  let lock ← fileSha256 world root (lit "uv.lock")
  .ok
    { schemaVersion := bootstrapMarkerSchema
      pythonVersion := contract.pythonPin
      pythonExecutable := executable.1
      uvVersion := contract.uvVersion
      pythonPinSha256 := pin.1
      manifestSha256 := manifest.1
      lockSha256 := lock.1
      schemaVersion_eq := rfl
      texts_system := by
        simp only [List.forall_mem_cons, List.not_mem_nil, false_implies, implies_true, and_true]
        exact ⟨contract.pythonPin_system, executable.2, contract.uvVersion_system, pin.2, manifest.2,
          lock.2⟩ }

/-- `bytes.decode("utf-8")`; `none` is its `UnicodeDecodeError`. -/
def decodeUtf8 (bytes : List Nat) : Option Text :=
  if encodeUtf8 (decodeUtf8Ignore bytes) = some bytes then some (decodeUtf8Ignore bytes) else none

/-- `_marker_matches`. -/
def markerMatches (identity : BootstrapIdentity) (venv : Venv) : Except Stop Bool :=
  match world.fileFails .readMarker, venv.marker with
  | some _, _ => .ok false
  | none, none => .ok false
  | none, some bytes =>
    match decodeUtf8 bytes with
    | none => .error .other
    | some text =>
      match world.loads (universalNewlines text) with
      | .error (.jsonDecodeError _) => .ok false
      | .error .other => .error .other
      | .ok value => .ok (pyEq value (.dict (identity.asdict PyNumber.int)))

/-! ## Steps on `.venv` -/

def Checkout.note (checkout : Checkout) (event : Event) : Checkout :=
  { checkout with events := checkout.events ++ [event] }

def update (f : Checkout → Checkout) : Bootstrap Unit :=
  Program.modify fun m =>
    { m with checkout := f m.checkout, passed := f m.checkout :: m.passed }

def note (event : Event) : Bootstrap Unit := update fun checkout => checkout.note event

def setTarget (target : Target) : Bootstrap Unit :=
  update fun checkout => { checkout with venv := { checkout.venv with target } }

def setIdentity (identity : BootstrapIdentity) : Bootstrap Unit :=
  update fun checkout => { checkout with identity := some identity }

/-- `frozen_sync_check_command`. -/
def frozenSyncCheckCommand (uvExecutable : Text) : Command :=
  [uvExecutable, lit "sync", lit "--check", lit "--frozen", lit "--all-groups", lit "--managed-python",
    lit "--no-python-downloads"]

/-- `_sync_command`. -/
def syncCommand (uvExecutable pythonExecutable : Text) : Command :=
  [uvExecutable, lit "sync", lit "--frozen", lit "--all-groups", lit "--python", pythonExecutable,
    lit "--managed-python", lit "--no-python-downloads"]

/-- The check command. -/
def checkEnvironment (uvExecutable : Text) : Bootstrap CompletedProcess := do
  let result ← runCommand world (frozenSyncCheckCommand uvExecutable)
  note (.check (result.returncode = 0))
  pure result

/-- The command of `_environment_has_only_locked_packages`. -/
def packageListCommand (uvExecutable : Text) : Command :=
  [uvExecutable, lit "pip", lit "list", lit "--format", lit "json", lit "--python",
    joinPath root (lit ".venv/bin/python"), lit "--no-python-downloads"]

/-- `_environment_has_only_locked_packages`. -/
def verifyPackages (contract : DependencyContract) (uvExecutable : Text) : Bootstrap Bool := do
  let result ← runCommand world (packageListCommand root uvExecutable)
  match environmentHasOnlyLockedPackages world.toReader root contract result with
  | none => Program.raise .other
  | some passed => do
    note (.verify passed)
    pure passed

/-- `marker_path.unlink(missing_ok=True)`. -/
def unlinkMarker : Bootstrap Unit := do
  let m ← Program.get
  match world.fileFails .unlinkMarker with
  | some _ => Program.raise .osError
  | none =>
    match m.checkout.venv.target with
    | .absent => pure ()
    -- A marker under a file: `NotADirectoryError`.
    | .file => Program.raise .osError
    | .directory _ => setTarget (.directory none)

/-- `_remove_project_environment`. -/
def removeProjectEnvironment : Bootstrap Unit := do
  note .removal
  match world.fileFails .removeEnvironment with
  | some message => bootstrapError (lit "could not replace generated environment " ++
      joinPath root (lit ".venv") ++ lit ": " ++ message)
  | none => update fun checkout => { checkout with venv := ⟨false, .absent⟩ }

/-- `.venv` after `uv sync`. -/
def Venv.afterSync (venv : Venv) : Layout → Venv
  | .absent => { venv with target := .absent }
  | .file => { venv with target := .file }
  | .directory keepsMarker => { venv with target := .directory (if keepsMarker then venv.marker else none) }

/-- The synchronization. -/
def synchronize (uvExecutable pythonExecutable : Text) : Bootstrap Unit := do
  note .sync
  update fun checkout => { checkout with venv := checkout.venv.afterSync world.layout }
  let result ← runCommand world (syncCommand uvExecutable pythonExecutable)
  if result.returncode ≠ 0 then
    bootstrapError (lit "frozen uv synchronization failed: " ++ commandError result)
  else pure ()

/-- A file operation that raises where it fails. -/
def fileStep (step : FileStep) : Bootstrap Unit :=
  match world.fileFails step with
  | some _ => Program.raise .osError
  | none => pure ()

/-- `path.parent.mkdir(parents=True, exist_ok=True)`. -/
def makeDirectory : Bootstrap Unit := do
  fileStep world .makeDirectory
  let m ← Program.get
  match m.checkout.venv.target with
  -- `FileExistsError`.
  | .file => Program.raise .osError
  | .absent => setTarget (.directory none)
  | .directory _ => pure ()

/-- `_write_marker`. -/
def writeMarker (identity : BootstrapIdentity) : Bootstrap Unit := do
  makeDirectory world
  fileStep world .writeTemporary
  fileStep world .replaceMarker
  setTarget (.directory (some (markerBytes identity)))

/-! ## The run -/

/-- The contract of the run, and the version of the interpreter that runs it. -/
def readContract : Except Stop DependencyContract :=
  match world.contractFiles with
  | none => .error .other
  | some (some contract, []) =>
    if beforeLastDot world.bootstrapRuntimeVersion = beforeLastDot contract.pythonPin then .ok contract
    else .error (.bootstrapError (lit "Python " ++ beforeLastDot contract.pythonPin ++
      lit " is required to bootstrap this repository, but " ++ world.bootstrapPythonExecutable ++
      lit " is Python " ++ world.bootstrapRuntimeVersion ++
      lit "; install a bootstrap interpreter on the supported minor line or set " ++
      lit "BA_API_TEST_PYTHON to it"))
  | some (_, []) => .error (.bootstrapError (lit "dependency contract is incomplete"))
  | some (_, issues) => .error (.bootstrapError ((lit "; ").intercalate issues))

/-- Whether the environment of a matching marker is kept. -/
def reuse (contract : DependencyContract) (uvExecutable : Text) (identity : BootstrapIdentity) :
    Bootstrap Bool := do
  let m ← Program.get
  let matching ← Program.lift (markerMatches world identity m.checkout.venv)
  if matching then do
    let checked ← checkEnvironment world uvExecutable
    if checked.returncode = 0 then verifyPackages world root contract uvExecutable else pure false
  else pure false

/-- The environment is replaced, checked and marked. -/
def replaceEnvironment (contract : DependencyContract) (uvExecutable pythonExecutable : Text)
    (identity : BootstrapIdentity) : Bootstrap Unit := do
  unlinkMarker world
  removeProjectEnvironment world root
  synchronize world uvExecutable pythonExecutable
  let checked ← checkEnvironment world uvExecutable
  if checked.returncode ≠ 0 then
    bootstrapError (lit "uv completed synchronization but the environment does not match uv.lock: " ++
      commandError checked)
  else do
    let verified ← verifyPackages world root contract uvExecutable
    if verified then writeMarker world identity
    else
      bootstrapError (lit "uv completed synchronization but the installed package set " ++
        lit "contains a package or version outside uv.lock")

/-- `bootstrap_environment`. -/
def bootstrapEnvironment : Bootstrap Bool := do
  let contract ← Program.lift (readContract world)
  let uvExecutable ← ensurePinnedUv world root contract
  let pythonExecutable ← ensureManagedPython world contract uvExecutable
  checkLock world contract uvExecutable pythonExecutable
  let identity ← Program.lift (bootstrapIdentity world root contract pythonExecutable)
  setIdentity identity
  let reused ← reuse world root contract uvExecutable identity
  if reused then pure true
  else do
    replaceEnvironment world root contract uvExecutable pythonExecutable identity
    pure false

end ApiTests.Dependencies
