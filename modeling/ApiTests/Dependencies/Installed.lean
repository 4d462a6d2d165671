import ApiTests.Dependencies.Contract
import ApiTests.Py.Checks
import ApiTests.Py.Dict
import ApiTests.Py.Sorted
import ApiTests.Py.Unicode

/-!
# Two readers of the installed packages

Model of `_environment_has_only_locked_packages` (`local_bootstrap.py:369-416`), by which the bootstrap
decides to keep an environment, and of `_parse_installed_packages` (`dependency_inventory.py:29-43,
116-170`), by which the inventory gate accepts one. Both read what `uv pip list` prints.

`LockedEnvironment` says what they look for.

Results:
* `onlyLocked_eq_true_iff`: the bootstrap keeps exactly a locked environment.
* `parseInstalledPackages_eq_ok_iff`: **the gate accepts exactly a locked environment without editable
  third-party packages.**
* **`readers_agree`**: so they agree unless a locked environment has one.
-/

namespace ApiTests.Dependencies

open Py

/-- What the readers use of Python: `json.loads`, `str.lower`, and `Path(t).resolve()` as a text,
where it does not raise. -/
structure Reader where
  loads : Text → Except LoadsError (Json PyNumber)
  lower : Text → Text
  resolve : Text → Option Text
  resolve_system : ∀ t path, resolve t = some path → IsSystemText path
  unicode : Unicode

/-- `value.get(key)`. -/
def member (entries : List (Text × Json PyNumber)) (key : Text) : Json PyNumber :=
  (entries.lookup key).getD .null

/-- `Path(location).resolve() != root.resolve()`, negated. -/
def Reader.samePath (reader : Reader) (location root : Text) : Option Bool := do
  let location ← reader.resolve location
  let root ← reader.resolve root
  return location = root

/-! ## The bootstrap's reader -/

/-- The loop over the records; `none` is an exception of `Path.resolve`. -/
def onlyLocked (reader : Reader) (root : Text) (locked : List LockedRequirement) :
    Bool → List Text → List (Json PyNumber) → Option Bool
  | projectFound, _, [] => some projectFound
  | projectFound, names, value :: rest =>
    match value with
    | .dict entries =>
      match member entries (lit "name"), member entries (lit "version") with
      | .str name, .str version =>
        let normalizedName := canonicalizeName reader.lower name
        if normalizedName ∈ names then some false
        else if normalizedName = projectName then
          match member entries (lit "editable_project_location") with
          | .str location =>
            match reader.samePath location root with
            | none => none
            | some false => some false
            | some true => onlyLocked reader root locked true (normalizedName :: names) rest
          | _ => some false
        else if ⟨normalizedName, version⟩ ∉ locked then some false
        else onlyLocked reader root locked projectFound (normalizedName :: names) rest
      | _, _ => some false
    | _ => some false

/-- `subprocess.CompletedProcess`, decoded. -/
structure CompletedProcess where
  returncode : Int
  stdout : Text
  stderr : Text
  deriving Repr, DecidableEq

/-- `_environment_has_only_locked_packages`, given the result of `uv pip list`; `none` is an exception
that it does not catch. -/
def environmentHasOnlyLockedPackages (reader : Reader) (root : Text) (contract : DependencyContract)
    (result : CompletedProcess) : Option Bool :=
  if result.returncode ≠ 0 then some false
  else
    match reader.loads result.stdout with
    | .error (.jsonDecodeError _) => some false
    | .error .other => none
    | .ok (.list decoded) => onlyLocked reader root contract.lockedRequirements false [] decoded
    | .ok _ => some false

/-! ## The reader of the inventory gate -/

/-- `InstalledPackage`. -/
structure InstalledPackage where
  name : Text
  version : Text
  deriving Repr, DecidableEq

/-- `ProjectPackage`. -/
structure ProjectPackage where
  name : Text
  version : Text
  editable : Bool
  deriving Repr, DecidableEq

/-- What the gate raises: a `DependencyInventoryError`, or an exception of a call. -/
inductive InventoryError where
  | dependencyInventoryError (message : Text)
  | other
  deriving Repr, DecidableEq

def inventoryError {α : Type} (message : Text) : Except InventoryError α :=
  .error (.dependencyInventoryError message)

/-- The loop over the records, from the record `index` on. -/
def parseRecords (reader : Reader) (root : Text) (locked : List LockedRequirement) :
    Nat → Option ProjectPackage → List InstalledPackage → List Text → List (Json PyNumber) →
      Except InventoryError (Option ProjectPackage × List InstalledPackage)
  | _, project, installed, _, [] => .ok (project, installed)
  | index, project, installed, seenNames, value :: rest =>
    match value with
    | .dict entries =>
      match member entries (lit "name"), member entries (lit "version") with
      | .str name, .str version =>
        let normalizedName := canonicalizeName reader.lower name
        if normalizedName ∈ seenNames then
          inventoryError (lit "installed package inventory contains duplicate name " ++
            reprText reader.unicode normalizedName)
        else if normalizedName = projectName then
          match member entries (lit "editable_project_location") with
          | .str location =>
            match reader.samePath location root with
            | none => .error .other
            | some false =>
              inventoryError (lit "first-party editable project points outside the repository")
            | some true =>
              parseRecords reader root locked (index + 1) (some ⟨normalizedName, version, true⟩)
                installed (normalizedName :: seenNames) rest
          | _ => inventoryError (lit "first-party project is not installed editable")
        else
          match member entries (lit "editable_project_location") with
          | .null =>
            if ⟨normalizedName, version⟩ ∉ locked then
              inventoryError (lit "installed package is absent from uv.lock at this version: " ++
                normalizedName ++ lit "==" ++ version)
            else
              parseRecords reader root locked (index + 1) project
                (installed.insert ⟨normalizedName, version⟩) (normalizedName :: seenNames) rest
          | _ => inventoryError (lit "third-party package " ++
              reprText reader.unicode normalizedName ++ lit " must not be editable")
      | _, _ => inventoryError (lit "installed package record " ++ decimal index ++
          lit " must contain name and version strings")
    | _ => inventoryError (lit "installed package record " ++ decimal index ++
        lit " must be an object")

/-- The order of `InstalledPackage`. -/
def packageKey (package : InstalledPackage) : Text ×ₗ Text := toLex (package.name, package.version)

/-- `_parse_installed_packages`. -/
def parseInstalledPackages (reader : Reader) (raw root : Text) (contract : DependencyContract) :
    Except InventoryError (ProjectPackage × List InstalledPackage) :=
  match reader.loads raw with
  | .error (.jsonDecodeError message) =>
    inventoryError (lit "uv package inventory is invalid JSON: " ++ message)
  | .error .other => .error .other
  | .ok (.list decoded) => do
    let (project, installed) ← parseRecords reader root contract.lockedRequirements 0 none [] [] decoded
    match project with
    | some project => .ok (project, sortBy packageKey installed)
    | none => inventoryError (lit "first-party editable project is missing")
  | .ok _ => inventoryError (lit "uv package inventory must be a JSON array")

/-! ## A locked environment -/

/-- A record of the list. -/
structure InstalledRecord where
  name : Text
  version : Text
  location : Json PyNumber

/-- The record a value is, if it names a package and its version. -/
def record? (lower : Text → Text) : Json PyNumber → Option InstalledRecord
  | .dict entries =>
    match member entries (lit "name"), member entries (lit "version") with
    | .str name, .str version =>
      some ⟨canonicalizeName lower name, version, member entries (lit "editable_project_location")⟩
    | _, _ => none
  | _ => none

/-- The project's own record: editable, at the root. -/
def AtRoot (reader : Reader) (root : Text) (record : InstalledRecord) : Prop :=
  ∃ location, record.location = .str location ∧ reader.samePath location root = some true

/-- A record that may stand in a locked environment. -/
def Allowed (reader : Reader) (root : Text) (locked : List LockedRequirement)
    (record : InstalledRecord) : Prop :=
  if record.name = projectName then AtRoot reader root record
  else ⟨record.name, record.version⟩ ∈ locked

/-- **The list is a locked environment**: records of distinct packages, the project at the root, and
beside it packages of the lock. -/
structure LockedEnvironment (reader : Reader) (root : Text) (contract : DependencyContract)
    (decoded : List (Json PyNumber)) (records : List InstalledRecord) : Prop where
  records_eq : List.Forall₂ (fun value record => record? reader.lower value = some record) decoded records
  distinct : (records.map InstalledRecord.name).Nodup
  allowed : ∀ record ∈ records, Allowed reader root contract.lockedRequirements record
  project : ∃ record ∈ records, record.name = projectName

variable {reader : Reader} {root : Text} {locked : List LockedRequirement}

theorem record?_eq_some {lower : Text → Text} {value : Json PyNumber} {record : InstalledRecord} :
    record? lower value = some record ↔ ∃ entries name, value = .dict entries ∧
      member entries (lit "name") = .str name ∧
      member entries (lit "version") = .str record.version ∧
      record.name = canonicalizeName lower name ∧
      record.location = member entries (lit "editable_project_location") := by
  constructor
  · intro h
    unfold record? at h
    split at h
    · split at h
      · rename_i hname hversion
        cases h
        exact ⟨_, _, rfl, hname, hversion, rfl, rfl⟩
      · cases h
    · cases h
  · rintro ⟨entries, name, rfl, hname, hversion, hcanonical, hlocation⟩
    simp only [record?, hname, hversion, ← hcanonical, ← hlocation]

/-! ## One record -/

/-- **The bootstrap's reader, record by record.** -/
theorem onlyLocked_cons {found : Bool} {names : List Text} {value : Json PyNumber}
    {rest : List (Json PyNumber)} :
    onlyLocked reader root locked found names (value :: rest) = some true ↔
      ∃ record, record? reader.lower value = some record ∧ record.name ∉ names ∧
        Allowed reader root locked record ∧
        onlyLocked reader root locked (found || decide (record.name = projectName))
          (record.name :: names) rest = some true := by
  constructor
  · intro h
    unfold onlyLocked at h
    split at h
    · split at h
      · rename_i entries _ _ name version hname hversion
        have hrecord : record? reader.lower (.dict entries) =
            some ⟨canonicalizeName reader.lower name, version, _⟩ :=
          record?_eq_some.mpr ⟨_, _, rfl, hname, hversion, rfl, rfl⟩
        refine ⟨_, hrecord, ?_⟩
        simp only [Allowed]
        by_cases hseen : canonicalizeName reader.lower name ∈ names
        · rw [if_pos hseen] at h
          cases h
        rw [if_neg hseen] at h
        refine ⟨hseen, ?_⟩
        by_cases hproject : canonicalizeName reader.lower name = projectName
        · rw [if_pos hproject] at h ⊢
          rw [decide_eq_true hproject, Bool.or_true]
          split at h
          · rename_i location hlocation
            split at h
            · cases h
            · cases h
            · rename_i hsame
              exact ⟨⟨location, hlocation, hsame⟩, h⟩
          · cases h
        · rw [if_neg hproject] at h ⊢
          rw [decide_eq_false hproject, Bool.or_false]
          by_cases hlocked : (⟨canonicalizeName reader.lower name, version⟩ : LockedRequirement) ∈
              locked
          · rw [if_neg (not_not.mpr hlocked)] at h
            exact ⟨hlocked, h⟩
          · rw [if_pos hlocked] at h
            cases h
      · cases h
    · cases h
  · rintro ⟨record, hrecord, hnew, hallowed, hrest⟩
    obtain ⟨entries, name, rfl, hname, hversion, hcanonical, hlocation⟩ := record?_eq_some.mp hrecord
    unfold Allowed at hallowed
    by_cases hproject : record.name = projectName
    · rw [if_pos hproject] at hallowed
      obtain ⟨location, hstr, hsame⟩ := hallowed
      rw [decide_eq_true hproject, Bool.or_true] at hrest
      simp only [onlyLocked, hname, hversion, ← hcanonical, if_neg hnew, if_pos hproject,
        ← hlocation, hstr, hsame, hrest]
    · rw [if_neg hproject] at hallowed
      rw [decide_eq_false hproject, Bool.or_false] at hrest
      simp only [onlyLocked, hname, hversion, ← hcanonical, if_neg hnew, if_neg hproject,
        if_neg (not_not.mpr hallowed), hrest]

/-- What the gate keeps of a record: the project, or one more package. -/
def keepProject (record : InstalledRecord) (project : Option ProjectPackage) : Option ProjectPackage :=
  if record.name = projectName then some ⟨record.name, record.version, true⟩ else project

def keepPackage (record : InstalledRecord) (installed : List InstalledPackage) :
    List InstalledPackage :=
  if record.name = projectName then installed
  else installed.insert ⟨record.name, record.version⟩

/-- **The gate's reader, record by record.** -/
theorem parseRecords_cons {index : Nat} {project : Option ProjectPackage}
    {installed : List InstalledPackage} {names : List Text} {value : Json PyNumber}
    {rest : List (Json PyNumber)} {out : Option ProjectPackage × List InstalledPackage} :
    parseRecords reader root locked index project installed names (value :: rest) = .ok out ↔
      ∃ record, record? reader.lower value = some record ∧ record.name ∉ names ∧
        Allowed reader root locked record ∧
        (record.name ≠ projectName → record.location = .null) ∧
        parseRecords reader root locked (index + 1) (keepProject record project)
          (keepPackage record installed) (record.name :: names) rest = .ok out := by
  constructor
  · intro h
    unfold parseRecords at h
    split at h
    · split at h
      · rename_i entries _ _ name version hname hversion
        have hrecord : record? reader.lower (.dict entries) =
            some ⟨canonicalizeName reader.lower name, version, _⟩ :=
          record?_eq_some.mpr ⟨_, _, rfl, hname, hversion, rfl, rfl⟩
        refine ⟨_, hrecord, ?_⟩
        simp only [Allowed, keepProject, keepPackage]
        by_cases hseen : canonicalizeName reader.lower name ∈ names
        · rw [if_pos hseen] at h
          cases h
        rw [if_neg hseen] at h
        refine ⟨hseen, ?_⟩
        by_cases hproject : canonicalizeName reader.lower name = projectName
        · rw [if_pos hproject] at h
          rw [if_pos hproject, if_pos hproject, if_pos hproject]
          split at h
          · rename_i location hlocation
            split at h
            · cases h
            · cases h
            · rename_i hsame
              exact ⟨⟨location, hlocation, hsame⟩, fun hne => absurd hproject hne, h⟩
          · cases h
        · rw [if_neg hproject] at h
          rw [if_neg hproject, if_neg hproject, if_neg hproject]
          split at h
          · rename_i hnull
            by_cases hlocked : (⟨canonicalizeName reader.lower name, version⟩ : LockedRequirement) ∈
                locked
            · rw [if_neg (not_not.mpr hlocked)] at h
              exact ⟨hlocked, fun _ => hnull, h⟩
            · rw [if_pos hlocked] at h
              cases h
          · cases h
      · cases h
    · cases h
  · rintro ⟨record, hrecord, hnew, hallowed, hnull, hrest⟩
    obtain ⟨entries, name, rfl, hname, hversion, hcanonical, hlocation⟩ := record?_eq_some.mp hrecord
    unfold Allowed at hallowed
    unfold keepProject keepPackage at hrest
    by_cases hproject : record.name = projectName
    · rw [if_pos hproject] at hallowed
      obtain ⟨location, hstr, hsame⟩ := hallowed
      rw [if_pos hproject, if_pos hproject] at hrest
      simp only [parseRecords, hname, hversion, ← hcanonical, if_neg hnew, if_pos hproject,
        ← hlocation, hstr, hsame, hrest]
    · rw [if_neg hproject] at hallowed
      rw [if_neg hproject, if_neg hproject] at hrest
      simp only [parseRecords, hname, hversion, ← hcanonical, if_neg hnew, if_neg hproject,
        ← hlocation, hnull hproject, if_neg (not_not.mpr hallowed), hrest]

/-! ## All records -/

/-- The records that pass, having met some names before. -/
structure Admitted (reader : Reader) (root : Text) (locked : List LockedRequirement)
    (names : List Text) (decoded : List (Json PyNumber)) (records : List InstalledRecord) : Prop where
  records_eq : List.Forall₂ (fun value record => record? reader.lower value = some record) decoded records
  distinct : (records.map InstalledRecord.name).Nodup
  new : ∀ record ∈ records, record.name ∉ names
  allowed : ∀ record ∈ records, Allowed reader root locked record

theorem Admitted.nil {names : List Text} : Admitted reader root locked names [] [] :=
  ⟨.nil, List.nodup_nil, by simp, by simp⟩

theorem admitted_cons_iff {names : List Text} {value : Json PyNumber} {rest : List (Json PyNumber)}
    {records : List InstalledRecord} : Admitted reader root locked names (value :: rest) records ↔
      ∃ record others, records = record :: others ∧ record? reader.lower value = some record ∧
        record.name ∉ names ∧ Allowed reader root locked record ∧
        Admitted reader root locked (record.name :: names) rest others := by
  constructor
  · rintro ⟨hrecords, hdistinct, hnew, hallowed⟩
    obtain ⟨record, others, hrecord, hothers, rfl⟩ := List.forall₂_cons_left_iff.mp hrecords
    rw [List.map_cons, List.nodup_cons] at hdistinct
    rw [List.forall_mem_cons] at hnew hallowed
    refine ⟨record, others, rfl, hrecord, hnew.1, hallowed.1, hothers, hdistinct.2, ?_, hallowed.2⟩
    intro other hother hmem
    rcases List.mem_cons.mp hmem with heq | hmem
    · exact hdistinct.1 (List.mem_map.mpr ⟨other, hother, heq⟩)
    · exact hnew.2 other hother hmem
  · rintro ⟨record, others, rfl, hrecord, hnew, hallowed, hothers, hdistinct, hothersNew, hall⟩
    refine ⟨.cons hrecord hothers, ?_, ?_, List.forall_mem_cons.mpr ⟨hallowed, hall⟩⟩
    · rw [List.map_cons, List.nodup_cons]
      refine ⟨fun hmem => ?_, hdistinct⟩
      obtain ⟨other, hother, heq⟩ := List.mem_map.mp hmem
      exact hothersNew other hother (heq ▸ List.mem_cons_self)
    · refine List.forall_mem_cons.mpr ⟨hnew, fun other hother hmem => ?_⟩
      exact hothersNew other hother (List.mem_cons_of_mem _ hmem)

/-- The project was met before, or is met now or later. -/
theorem or_project_cons {P : Prop} {record : InstalledRecord} {others : List InstalledRecord} :
    (P ∨ record.name = projectName) ∨ (∃ other ∈ others, other.name = projectName) ↔
      P ∨ ∃ other ∈ record :: others, other.name = projectName := by
  rw [List.exists_mem_cons_iff, or_assoc]

/-- **The bootstrap's loop.** -/
theorem onlyLocked_eq_true {found : Bool} {names : List Text} {decoded : List (Json PyNumber)} :
    onlyLocked reader root locked found names decoded = some true ↔
      ∃ records, Admitted reader root locked names decoded records ∧
        (found = true ∨ ∃ record ∈ records, record.name = projectName) := by
  induction decoded generalizing found names with
  | nil =>
    constructor
    · intro h
      exact ⟨[], .nil, Or.inl (Option.some.inj h)⟩
    · rintro ⟨records, hadmitted, hfound⟩
      cases hadmitted.records_eq
      rcases hfound with rfl | ⟨record, hmem, -⟩
      · rfl
      · cases hmem
  | cons value rest ih =>
    simp only [onlyLocked_cons, ih, admitted_cons_iff, Bool.or_eq_true, decide_eq_true_eq]
    constructor
    · rintro ⟨record, hrecord, hnew, hallowed, others, hothers, hfound⟩
      exact ⟨record :: others, ⟨record, others, rfl, hrecord, hnew, hallowed, hothers⟩,
        or_project_cons.mp hfound⟩
    · rintro ⟨_, ⟨record, others, rfl, hrecord, hnew, hallowed, hothers⟩, hfound⟩
      exact ⟨record, hrecord, hnew, hallowed, others, hothers, or_project_cons.mpr hfound⟩

/-- No third-party record is editable. -/
def NoneEditable (records : List InstalledRecord) : Prop :=
  ∀ record ∈ records, record.name ≠ projectName → record.location = .null

/-- **The gate's loop.** -/
theorem parseRecords_returns_iff {index : Nat} {project : Option ProjectPackage}
    {installed : List InstalledPackage} {names : List Text} {decoded : List (Json PyNumber)} :
    (∃ found packages, parseRecords reader root locked index project installed names decoded =
        .ok (some found, packages)) ↔
      ∃ records, Admitted reader root locked names decoded records ∧ NoneEditable records ∧
        (project ≠ none ∨ ∃ record ∈ records, record.name = projectName) := by
  induction decoded generalizing index project installed names with
  | nil =>
    constructor
    · rintro ⟨found, packages, h⟩
      cases h
      exact ⟨[], .nil, by simp [NoneEditable], Or.inl (Option.some_ne_none found)⟩
    · rintro ⟨records, hadmitted, -, hfound⟩
      cases hadmitted.records_eq
      rcases hfound with hfound | ⟨record, hmem, -⟩
      · obtain ⟨found, rfl⟩ := Option.ne_none_iff_exists'.mp hfound
        exact ⟨found, installed, rfl⟩
      · cases hmem
  | cons value rest ih =>
    have hkeep : ∀ record : InstalledRecord, keepProject record project ≠ none ↔
        project ≠ none ∨ record.name = projectName := by
      intro record
      unfold keepProject
      by_cases hproject : record.name = projectName
      · simp [hproject]
      · simp [hproject]
    simp only [parseRecords_cons, admitted_cons_iff]
    constructor
    · rintro ⟨found, packages, record, hrecord, hnew, hallowed, hnull, h⟩
      obtain ⟨others, hothers, hnone, hfound⟩ := ih.mp ⟨found, packages, h⟩
      rw [hkeep] at hfound
      exact ⟨record :: others, ⟨record, others, rfl, hrecord, hnew, hallowed, hothers⟩,
        List.forall_mem_cons.mpr ⟨hnull, hnone⟩, or_project_cons.mp hfound⟩
    · rintro ⟨_, ⟨record, others, rfl, hrecord, hnew, hallowed, hothers⟩, hnone, hfound⟩
      obtain ⟨hnull, hnone⟩ := List.forall_mem_cons.mp hnone
      have hproject : keepProject record project ≠ none ∨
          ∃ other ∈ others, other.name = projectName := by
        rw [hkeep]
        exact or_project_cons.mpr hfound
      obtain ⟨found, packages, h⟩ := ih.mpr ⟨others, hothers, hnone, hproject⟩
      exact ⟨found, packages, record, hrecord, hnew, hallowed, hnull, h⟩

/-! ## The readers -/

variable {contract : DependencyContract} {raw : Text}

theorem lockedEnvironment_iff {decoded : List (Json PyNumber)} {records : List InstalledRecord} :
    LockedEnvironment reader root contract decoded records ↔
      Admitted reader root contract.lockedRequirements [] decoded records ∧
        ∃ record ∈ records, record.name = projectName :=
  ⟨fun ⟨hrecords, hdistinct, hallowed, hproject⟩ =>
    ⟨⟨hrecords, hdistinct, fun _ _ => List.not_mem_nil, hallowed⟩, hproject⟩,
    fun ⟨⟨hrecords, hdistinct, _, hallowed⟩, hproject⟩ => ⟨hrecords, hdistinct, hallowed, hproject⟩⟩

/-- **The bootstrap keeps exactly a locked environment.** -/
theorem environmentHasOnlyLockedPackages_iff {stderr : Text} :
    environmentHasOnlyLockedPackages reader root contract ⟨0, raw, stderr⟩ = some true ↔
      ∃ decoded records, reader.loads raw = .ok (.list decoded) ∧
        LockedEnvironment reader root contract decoded records := by
  simp only [environmentHasOnlyLockedPackages, ne_eq, not_true_eq_false, if_false,
    lockedEnvironment_iff]
  cases hloads : reader.loads raw with
  | error e => cases e <;> simp
  | ok value =>
    cases value with
    | list decoded => simp [onlyLocked_eq_true]
    | _ => simp

/-- **The gate accepts exactly a locked environment without editable third-party packages.** -/
theorem parseInstalledPackages_iff :
    (∃ packages, parseInstalledPackages reader raw root contract = .ok packages) ↔
      ∃ decoded records, reader.loads raw = .ok (.list decoded) ∧
        LockedEnvironment reader root contract decoded records ∧ NoneEditable records := by
  have hfinish : ∀ decoded, reader.loads raw = .ok (.list decoded) →
      ((∃ packages, parseInstalledPackages reader raw root contract = .ok packages) ↔
        ∃ found packages, parseRecords reader root contract.lockedRequirements 0 none [] [] decoded =
          .ok (some found, packages)) := by
    intro decoded hloads
    simp only [parseInstalledPackages, hloads, bind_eq_ok_iff]
    constructor
    · rintro ⟨packages, ⟨project, installed⟩, hparse, h⟩
      cases project with
      | none => cases h
      | some found => exact ⟨found, installed, hparse⟩
    · rintro ⟨found, installed, hparse⟩
      exact ⟨_, _, hparse, rfl⟩
  cases hloads : reader.loads raw with
  | error e => cases e <;> simp [parseInstalledPackages, hloads, inventoryError]
  | ok value =>
    cases value with
    | list decoded =>
      rw [hfinish decoded hloads, parseRecords_returns_iff]
      simp only [lockedEnvironment_iff, Except.ok.injEq, Json.list.injEq, ne_eq, not_true_eq_false,
        false_or]
      constructor
      · rintro ⟨records, hadmitted, hnone, hproject⟩
        exact ⟨decoded, records, rfl, ⟨hadmitted, hproject⟩, hnone⟩
      · rintro ⟨_, records, rfl, ⟨hadmitted, hproject⟩, hnone⟩
        exact ⟨records, hadmitted, hnone, hproject⟩
    | _ => simp [parseInstalledPackages, hloads, inventoryError]

/-- The records of a list are determined. -/
theorem LockedEnvironment.records_unique {decoded : List (Json PyNumber)}
    {records records' : List InstalledRecord}
    (h : LockedEnvironment reader root contract decoded records)
    (h' : LockedEnvironment reader root contract decoded records') : records = records' := by
  have hunique : Relator.RightUnique fun (value : Json PyNumber) (record : InstalledRecord) =>
      record? reader.lower value = some record :=
    fun _ _ _ hrecord hrecord' => Option.some.inj (hrecord.symm.trans hrecord')
  exact hunique.forall₂ h.records_eq h'.records_eq

/-- **The readers agree** unless a locked environment has an editable third-party package. -/
theorem readers_agree (reader : Reader) (raw root stderr : Text) (contract : DependencyContract) :
    (environmentHasOnlyLockedPackages reader root contract ⟨0, raw, stderr⟩ = some true ↔
        ∃ packages, parseInstalledPackages reader raw root contract = .ok packages) ↔
      ¬ ∃ decoded records, reader.loads raw = .ok (.list decoded) ∧
        LockedEnvironment reader root contract decoded records ∧
        ∃ record ∈ records, record.name ≠ projectName ∧ record.location ≠ .null := by
  rw [environmentHasOnlyLockedPackages_iff, parseInstalledPackages_iff]
  constructor
  · rintro hagree ⟨decoded, records, hloads, hlocked, record, hmem, hname, hlocation⟩
    obtain ⟨decoded', records', hloads', hlocked', hnone⟩ :=
      hagree.mp ⟨decoded, records, hloads, hlocked⟩
    rw [hloads, Except.ok.injEq, Json.list.injEq] at hloads'
    subst hloads'
    obtain rfl := hlocked.records_unique hlocked'
    exact hlocation (hnone record hmem hname)
  · intro hno
    constructor
    · rintro ⟨decoded, records, hloads, hlocked⟩
      refine ⟨decoded, records, hloads, hlocked, fun record hmem hname => ?_⟩
      by_contra hlocation
      exact hno ⟨decoded, records, hloads, hlocked, record, hmem, hname, hlocation⟩
    · rintro ⟨decoded, records, hloads, hlocked, -⟩
      exact ⟨decoded, records, hloads, hlocked⟩

/-- A lock of one package. -/
def attrsContract : DependencyContract where
  pythonPin := lit "3.12.12"
  requiresPython := lit "==3.12.*"
  uvVersion := lit "0.9.18"
  pipAuditVersion := lit "2.10.0"
  directRequirements := []
  lockedRequirements := [⟨lit "attrs", lit "25.4.0"⟩]
  pythonPin_system := by decide
  uvVersion_system := by decide

/-- The project at the root, and the locked package installed from a directory of its own. -/
def editableList : Json PyNumber :=
  .list [
    .dict [(lit "name", .str projectName), (lit "version", .str (lit "0.1.0")),
      (lit "editable_project_location", .str (lit "/repository"))],
    .dict [(lit "name", .str (lit "attrs")), (lit "version", .str (lit "25.4.0")),
      (lit "editable_project_location", .str (lit "/elsewhere"))]]

/-- Python on the text of that list. -/
def editableReader : Reader where
  loads _ := .ok editableList
  lower t := t.map fun c => if 65 ≤ c ∧ c ≤ 90 then c + 32 else c
  resolve t := if IsSystemText t then some t else none
  resolve_system t path h := by
    split at h
    · rename_i hsystem
      cases h
      exact hsystem
    · cases h
  unicode := .ascii

/-- The bootstrap keeps an environment that the gate rejects. -/
theorem editable_package_example :
    environmentHasOnlyLockedPackages editableReader (lit "/repository") attrsContract
        ⟨0, dumps (fun _ => []) editableList, []⟩ = some true ∧
      parseInstalledPackages editableReader (dumps (fun _ => []) editableList) (lit "/repository")
          attrsContract =
        .error (.dependencyInventoryError
          (lit "third-party package 'attrs' must not be editable")) ∧
      ¬ (environmentHasOnlyLockedPackages editableReader (lit "/repository") attrsContract
          ⟨0, dumps (fun _ => []) editableList, []⟩ = some true ↔
        ∃ packages, parseInstalledPackages editableReader (dumps (fun _ => []) editableList)
          (lit "/repository") attrsContract = .ok packages) := by
  have hkept : environmentHasOnlyLockedPackages editableReader (lit "/repository") attrsContract
      ⟨0, dumps (fun _ => []) editableList, []⟩ = some true := by
    decide +kernel
  have hrejected : parseInstalledPackages editableReader (dumps (fun _ => []) editableList)
      (lit "/repository") attrsContract = .error (.dependencyInventoryError
        (lit "third-party package 'attrs' must not be editable")) := by
    decide +kernel
  refine ⟨hkept, hrejected, fun hagree => ?_⟩
  obtain ⟨packages, h⟩ := hagree.mp hkept
  rw [hrejected] at h
  cases h

end ApiTests.Dependencies
