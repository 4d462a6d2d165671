import ApiTests.Evidence.Packages
import Mathlib.Algebra.Ring.Nat

/-!
# What the commands report

Model of the readers of `dependency_evidence.py`: the lock export (`172-198, 871-887`), the installed
inventory (`201-239`), the pip-audit report and its table (`242-285, 832-868`), the SBOM (`288-322`) and
the Playwright browsers (`729-767`). `Library` is what they use of Python and of `packaging`.

Results:
* `parseLockExport_nodup` and its like: **each reader returns a set with each name once.**
* `parseAuditReport_spec`, `parseSbomReport_spec`: **a scanner's exit code fits its findings.**
-/

namespace ApiTests.Evidence

open Py Dependencies

/-- A specifier of a requirement. -/
structure Specifier where
  operator : Text
  version : Text
  deriving Repr, DecidableEq

/-- A parsed requirement; `marker` is what `requirement.marker.evaluate()` gives. -/
structure Requirement where
  name : Text
  specifiers : List Specifier
  marker : Option (Except Failure Bool)

/-- What the parser of requirements raises. -/
inductive RequirementError where
  | invalidRequirement
  | other
  deriving Repr, DecidableEq

/-- What the readers use of Python and of `packaging`. -/
structure Library extends Reader where
  /-- `repr(value)`; `none` is its `RecursionError`. -/
  repr : Json PyNumber → Option Text
  /-- `Requirement(text)`. -/
  requirement : Text → Except RequirementError Requirement

variable (library : Library)

/-- `repr` of a text in a message. -/
def Library.quoted (t : Text) : Text := reprText library.unicode t

/-- `_decode_json`. -/
def decodeJson (raw source : Text) : Except Failure (Json PyNumber) :=
  match library.loads raw with
  | .ok value => .ok value
  | .error (.jsonDecodeError message) =>
    evidenceError (source ++ lit " is malformed JSON: " ++ message)
  | .error .other => .error .other

/-- `value.get(key, default)`. -/
def memberD (entries : List (Text × Json PyNumber)) (key : Text) (default : Json PyNumber) :
    Json PyNumber :=
  (entries.lookup key).getD default

/-- The entries of a dict. -/
def asDict (e : Failure) : Json PyNumber → Except Failure (List (Text × Json PyNumber))
  | .dict entries => .ok entries
  | _ => .error e

/-- The items of a list. -/
def asList (e : Failure) : Json PyNumber → Except Failure (List (Json PyNumber))
  | .list items => .ok items
  | _ => .error e

/-! ## The lock export -/

/-- `_requirement_blocks`, from a block that is begun. -/
def requirementBlocksFrom : List Text → List Text → Except Failure (List (List Text))
  | current, [] => .ok (if current = [] then [] else [current])
  | current, line :: rest =>
    if strip line = [] ∨ headIn (fun c => c = 35) line then requirementBlocksFrom current rest
    else if headIn isSpace line then
      if current = [] then evidenceError (lit "lock export starts with an orphan continuation")
      else requirementBlocksFrom (current ++ [strip line]) rest
    else do
      let blocks ← requirementBlocksFrom [strip line] rest
      .ok (if current = [] then blocks else current :: blocks)

/-- `_requirement_blocks`. -/
def requirementBlocks (raw : Text) : Except Failure (List (List Text)) :=
  requirementBlocksFrom [] (splitlines raw)

/-- `t.removesuffix("\\")`. -/
def withoutBackslash (t : Text) : Text := if t.getLast? = some 92 then t.dropLast else t

/-- The record of a block, if its marker selects it. -/
def selectRequirement (block : List Text) : Except Failure (Option (Text × Text)) :=
  let firstLine := strip (withoutBackslash (block.headD []))
  if ¬ ∃ line ∈ block.drop 1, lit "--hash=sha256:" <:+: line then
    evidenceError (lit "lock export requirement has no SHA-256 hash: " ++ firstLine)
  else
    match library.requirement firstLine with
    | .error .invalidRequirement =>
      evidenceError (lit "lock export contains an invalid requirement: " ++ library.quoted firstLine)
    | .error .other => .error .other
    | .ok requirement =>
      match requirement.specifiers with
      | [specifier] =>
        if specifier.operator ≠ lit "==" ∨ 42 ∈ specifier.version then
          evidenceError (lit "lock export requirement is not exactly pinned: " ++
            library.quoted firstLine)
        else
          match requirement.marker with
          | none => .ok (some (requirement.name, specifier.version))
          | some evaluated => do
            let active ← evaluated
            .ok (if active then some (requirement.name, specifier.version) else none)
      | _ =>
        evidenceError (lit "lock export requirement is not exactly pinned: " ++ library.quoted firstLine)

/-- `parse_lock_export`. -/
def parseLockExport (raw : Text) : Except Failure (List PackageRecord) := do
  let blocks ← requirementBlocks raw
  let selected ← readAll (selectRequirement library) blocks
  let records := selected.filterMap id
  raiseWhen (records = []) (.evidenceError (lit "lock export selected no third-party packages"))
  normalizePackageRecords library.lower (lit "selected lock export") records

/-! ## The installed inventory -/

/-- The loop over the records, from the record `index` on. `root` is resolved. -/
def inventoryFrom (root : Text) : Nat → Option ProjectPackage → List (Json PyNumber) →
    Except Failure (Option ProjectPackage × List (Text × Text))
  | _, project, [] => .ok (project, [])
  | index, project, item :: rest => do
    let entries ← asDict (.evidenceError (lit "installed package inventory record " ++ decimal index ++
      lit " must be an object")) item
    match member entries (lit "name"), member entries (lit "version") with
    | .str name, .str version =>
      let normalizedName := canonicalizeName library.lower name
      if normalizedName = projectName then
        if project.isSome then evidenceError (lit "installed inventory contains duplicate project")
        else
          match member entries (lit "editable_project_location") with
          | .str location =>
            match library.resolve location with
            | none => .error .other
            | some path =>
              if path ≠ root then
                evidenceError (lit "first-party project must be editable from the repository root")
              else inventoryFrom root (index + 1) (some ⟨normalizedName, version, true⟩) rest
          | _ => evidenceError (lit "first-party project must be editable from the repository root")
      else
        match member entries (lit "editable_project_location") with
        | .null => do
          let (project, records) ← inventoryFrom root (index + 1) project rest
          .ok (project, (name, version) :: records)
        | _ => evidenceError (lit "third-party package " ++ library.quoted normalizedName ++
            lit " must not be editable")
    | _, _ => evidenceError (lit "installed package inventory record " ++ decimal index ++
        lit " needs name and version strings")

/-- `parse_installed_inventory`. -/
def parseInstalledInventory (raw root : Text) : Except Failure (ProjectPackage × List PackageRecord) := do
  let value ← decodeJson library raw (lit "installed package inventory")
  let items ← asList (.evidenceError (lit "installed package inventory must be a JSON array")) value
  let (project, records) ← inventoryFrom library root 0 none items
  match project with
  | none => evidenceError (lit "installed inventory is missing the editable project")
  | some project => do
    let packages ← normalizePackageRecords library.lower (lit "installed package inventory") records
    .ok (project, packages)

/-! ## Scanner reports -/

/-- `_validate_scanner_exit`. -/
def validateScannerExit (formatName : Text) (exitCode : Int) (vulnerabilityCount : Nat) :
    Except Failure Unit :=
  let expected : Int := if vulnerabilityCount ≠ 0 then 1 else 0
  raiseWhen ((exitCode ≠ 0 ∧ exitCode ≠ 1) ∨ exitCode ≠ expected) (.evidenceError
    (formatName ++ lit " returned " ++ lit (toString exitCode) ++ lit " for " ++
      decimal vulnerabilityCount ++ lit " findings; expected " ++ lit (toString expected)))

/-- The findings are dicts. -/
def areDicts (values : List (Json PyNumber)) : Bool :=
  values.all fun value => match value with
    | .dict _ => true
    | _ => false

/-- `AuditReport`. -/
structure AuditReport where
  packages : List PackageRecord
  vulnerabilityCount : Nat
  vulnerablePackageCount : Nat
  document : List (Text × Json PyNumber)

/-- A dependency of the report with the number of its findings. -/
def readAuditDependency (dependency : Json PyNumber × Nat) : Except Failure ((Text × Text) × Nat) := do
  let entries ← asDict (.evidenceError (lit "pip-audit dependency " ++ decimal dependency.2 ++
    lit " must be an object")) dependency.1
  match member entries (lit "name"), member entries (lit "version"), member entries (lit "vulns") with
  | .str name, .str version, .list vulnerabilities =>
    if areDicts vulnerabilities then .ok ((name, version), vulnerabilities.length)
    else evidenceError (lit "pip-audit dependency " ++
      library.quoted (canonicalizeName library.lower name) ++ lit " has malformed findings")
  | _, _, _ => evidenceError (lit "pip-audit dependency " ++ decimal dependency.2 ++
      lit " needs name, version, and vulns fields")

/-- `parse_audit_report`. -/
def parseAuditReport (raw : Text) (exitCode : Int) : Except Failure AuditReport := do
  let value ← decodeJson library raw (lit "pip-audit JSON")
  let entries ← asDict (.evidenceError (lit "pip-audit JSON must be an object")) value
  let dependencies ← asList (.evidenceError (lit "pip-audit JSON has no dependency array"))
    (member entries (lit "dependencies"))
  let read ← readAll (readAuditDependency library) dependencies.zipIdx
  let vulnerabilityCount := (read.map Prod.snd).sum
  validateScannerExit (lit "pip-audit JSON") exitCode vulnerabilityCount
  let packages ← normalizePackageRecords library.lower (lit "pip-audit dependencies")
    (read.map Prod.fst)
  .ok ⟨packages, vulnerabilityCount, (read.map Prod.snd).countP fun count => count ≠ 0, entries⟩

/-- `SbomReport`. -/
structure SbomReport where
  packages : List PackageRecord
  vulnerabilityCount : Nat
  document : List (Text × Json PyNumber)

def readComponent (component : Json PyNumber × Nat) : Except Failure (Text × Text) := do
  let entries ← asDict (.evidenceError (lit "CycloneDX component " ++ decimal component.2 ++
    lit " must be an object")) component.1
  match member entries (lit "name"), member entries (lit "version") with
  | .str name, .str version => .ok (name, version)
  | _, _ => evidenceError (lit "CycloneDX component " ++ decimal component.2 ++
      lit " needs name and version strings")

/-- `value.get(key) == text`. -/
def memberIs (entries : List (Text × Json PyNumber)) (key text : Text) : Bool :=
  match member entries key with
  | .str t => t = text
  | _ => false

/-- `parse_sbom_report`. -/
def parseSbomReport (raw : Text) (exitCode : Int) : Except Failure SbomReport := do
  let value ← decodeJson library raw (lit "CycloneDX SBOM")
  let entries ← asDict (.evidenceError (lit "CycloneDX SBOM must be an object")) value
  raiseWhen (¬ (memberIs entries (lit "bomFormat") (lit "CycloneDX") ∧
      memberIs entries (lit "specVersion") (lit "1.4")))
    (.evidenceError (lit "SBOM must be CycloneDX JSON specification 1.4"))
  let components ← asList (.evidenceError (lit "CycloneDX SBOM has no component array"))
    (member entries (lit "components"))
  let records ← readAll readComponent components.zipIdx
  let malformed := Failure.evidenceError (lit "CycloneDX vulnerabilities must be an array of objects")
  let vulnerabilities ← asList malformed (memberD entries (lit "vulnerabilities") (.list []))
  raiseWhen (¬ areDicts vulnerabilities) malformed
  validateScannerExit (lit "CycloneDX SBOM") exitCode vulnerabilities.length
  let packages ← normalizePackageRecords library.lower (lit "CycloneDX components") records
  .ok ⟨packages, vulnerabilities.length, entries⟩

/-! ## The table of findings -/

/-- `str(value)`. -/
def Library.str : Json PyNumber → Except Failure Text
  | .str t => .ok t
  | value =>
    match library.repr value with
    | some t => .ok t
    | none => .error .other

/-- The row of a finding. -/
def findingRow (name version : Text) (entries : List (Text × Json PyNumber)) :
    Except Failure (List Text) :=
  match member entries (lit "id"), memberD entries (lit "fix_versions") (.list []) with
  | .str identifier, .list fixes => do
    let texts ← readAll library.str fixes
    .ok [canonicalizeName library.lower name, version, identifier,
      if fixes.isEmpty then lit "none" else joinTexts texts]
  | _, _ => evidenceError (lit "pip-audit finding has malformed id or fixes")

/-- The rows of a dependency; what is malformed is skipped. -/
def findingRows : Json PyNumber → Except Failure (List (List Text))
  | .dict entries =>
    match member entries (lit "name"), member entries (lit "version"), member entries (lit "vulns") with
    | .str name, .str version, .list vulnerabilities =>
      readAll (findingRow library name version) (vulnerabilities.filterMap fun vulnerability =>
        match vulnerability with
        | .dict entries => some entries
        | _ => none)
    | _, _, _ => .ok []
  | _ => .ok []

/-- `_human_findings`. -/
def humanFindings (document : List (Text × Json PyNumber)) : Except Failure Text := do
  let dependencies ← asList (.evidenceError (lit "pip-audit JSON has no dependency array"))
    (member document (lit "dependencies"))
  let found ← readAll (findingRows library) dependencies
  let rows := found.flatten
  let lines := [lit "pip-audit dependency findings", [],
    lit "Audited packages: " ++ decimal dependencies.length,
    lit "Vulnerability records: " ++ decimal rows.length,
    lit "Findings are retained but are not merge-gating.", []]
  .ok ([lf].intercalate (lines ++ if rows = [] then [lit "No known vulnerabilities found."]
    else (sortBy (fun row => row) rows).map [9].intercalate) ++ [lf])

/-! ## The browsers -/

/-- The record of a browser and whether it is Chromium. -/
def readBrowser (browser : Json PyNumber × Nat) : Except Failure (Json PyNumber × Bool) := do
  let entries ← asDict (.evidenceError (lit "Playwright browser record " ++ decimal browser.2 ++
    lit " must be an object")) browser.1
  match member entries (lit "name"), member entries (lit "revision") with
  | .str name, .str revision =>
    .ok (.dict ([(lit "name", .str name), (lit "revision", .str revision)] ++
      [lit "browserVersion", lit "installByDefault", lit "revisionOverrides", lit "title"].filterMap
        fun field => (entries.lookup field).map fun value => (field, value)),
      name = lit "chromium")
  | _, _ => evidenceError (lit "Playwright browser record " ++ decimal browser.2 ++
      lit " needs name and revision strings")

/-- The browsers of the text of `browsers.json`. -/
def parseBrowsers (raw : Text) : Except Failure (List (Json PyNumber)) := do
  let value ← decodeJson library raw (lit "Playwright browsers.json")
  let missing := Failure.evidenceError (lit "Playwright browsers.json has no browser array")
  let entries ← asDict missing value
  let items ← asList missing (member entries (lit "browsers"))
  let browsers ← readAll readBrowser items.zipIdx
  raiseWhen ((browsers.countP fun browser => browser.2) ≠ 1)
    (.evidenceError (lit "Playwright must declare exactly one Chromium revision"))
  .ok (browsers.map Prod.fst)

/-! ## What the readers return -/

variable {library}

theorem raiseWhen_bind_eq_ok {α : Type} {condition : Prop} [Decidable condition] {e : Failure}
    {x : Except Failure α} {a : α} :
    (raiseWhen condition e >>= fun _ => x) = .ok a ↔ ¬ condition ∧ x = .ok a := by
  rw [bind_eq_ok_iff]
  exact ⟨fun ⟨_, h, hx⟩ => ⟨raiseWhen_eq_ok.mp h, hx⟩, fun ⟨h, hx⟩ => ⟨(), raiseWhen_eq_ok.mpr h, hx⟩⟩

theorem parseLockExport_nodup {raw : Text} {packages : List PackageRecord}
    (h : parseLockExport library raw = .ok packages) : (packages.map PackageRecord.name).Nodup := by
  obtain ⟨blocks, -, h⟩ := bind_eq_ok_iff.mp h
  obtain ⟨selected, -, h⟩ := bind_eq_ok_iff.mp h
  exact normalizePackageRecords_nodup (raiseWhen_bind_eq_ok.mp h).2

theorem parseInstalledInventory_nodup {raw root : Text} {project : ProjectPackage}
    {packages : List PackageRecord}
    (h : parseInstalledInventory library raw root = .ok (project, packages)) :
    (packages.map PackageRecord.name).Nodup := by
  obtain ⟨value, -, h⟩ := bind_eq_ok_iff.mp h
  obtain ⟨items, -, h⟩ := bind_eq_ok_iff.mp h
  obtain ⟨⟨found, records⟩, -, h⟩ := bind_eq_ok_iff.mp h
  cases found with
  | none => exact absurd h evidenceError_ne_ok
  | some found =>
    obtain ⟨normalizedPackages, hnormalized, h⟩ := bind_eq_ok_iff.mp h
    cases h
    exact normalizePackageRecords_nodup hnormalized

/-- The exit code that goes with a number of findings. -/
def expectedExit (vulnerabilityCount : Nat) : Int := if vulnerabilityCount ≠ 0 then 1 else 0

theorem validateScannerExit_eq_ok {formatName : Text} {exitCode : Int} {vulnerabilityCount : Nat}
    {u : Unit} :
    validateScannerExit formatName exitCode vulnerabilityCount = .ok u ↔
      exitCode = expectedExit vulnerabilityCount := by
  unfold validateScannerExit expectedExit
  rw [raiseWhen_eq_ok]
  by_cases h : vulnerabilityCount ≠ 0
  · rw [if_pos h]
    omega
  · rw [if_neg h]
    omega

/-- **A scanner's exit code fits its findings.** -/
theorem parseAuditReport_spec {raw : Text} {exitCode : Int} {report : AuditReport}
    (h : parseAuditReport library raw exitCode = .ok report) :
    (report.packages.map PackageRecord.name).Nodup ∧
      exitCode = expectedExit report.vulnerabilityCount := by
  obtain ⟨value, -, h⟩ := bind_eq_ok_iff.mp h
  obtain ⟨entries, -, h⟩ := bind_eq_ok_iff.mp h
  obtain ⟨dependencies, -, h⟩ := bind_eq_ok_iff.mp h
  obtain ⟨read, -, h⟩ := bind_eq_ok_iff.mp h
  obtain ⟨_, hexit, h⟩ := bind_eq_ok_iff.mp h
  obtain ⟨packages, hpackages, h⟩ := bind_eq_ok_iff.mp h
  cases h
  exact ⟨normalizePackageRecords_nodup hpackages, validateScannerExit_eq_ok.mp hexit⟩

theorem parseSbomReport_spec {raw : Text} {exitCode : Int} {report : SbomReport}
    (h : parseSbomReport library raw exitCode = .ok report) :
    (report.packages.map PackageRecord.name).Nodup ∧
      exitCode = expectedExit report.vulnerabilityCount := by
  obtain ⟨value, -, h⟩ := bind_eq_ok_iff.mp h
  obtain ⟨entries, -, h⟩ := bind_eq_ok_iff.mp h
  obtain ⟨-, h⟩ := raiseWhen_bind_eq_ok.mp h
  obtain ⟨components, -, h⟩ := bind_eq_ok_iff.mp h
  obtain ⟨records, -, h⟩ := bind_eq_ok_iff.mp h
  obtain ⟨vulnerabilities, -, h⟩ := bind_eq_ok_iff.mp h
  obtain ⟨-, h⟩ := raiseWhen_bind_eq_ok.mp h
  obtain ⟨_, hexit, h⟩ := bind_eq_ok_iff.mp h
  obtain ⟨packages, hpackages, h⟩ := bind_eq_ok_iff.mp h
  cases h
  exact ⟨normalizePackageRecords_nodup hpackages, validateScannerExit_eq_ok.mp hexit⟩

end ApiTests.Evidence
