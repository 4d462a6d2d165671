import ApiTests.Dependencies.Contract
import ApiTests.OpenApi.Document
import ApiTests.Py.Toml

/-!
# The lock policy

Model of `_validate_lock` (`dependency_contract.py:359-443`) on the table that `tomllib` reads from
`uv.lock`. The loop appends to a list of issues and goes on with the next package as soon as an entry
is malformed, so a later check may be skipped for it.

`LockPolicy` says what the checks are for.

Results:
* `scanPackage_cases`: a round notes an allowed entry, and reports something about any other.
* **`lock_policy`**: no issue is added iff the lock keeps the policy, and then the returned
  requirements are those of the entries.
-/

namespace ApiTests.Dependencies

open Py

/-- `REQUIRED_DEPENDENCY_GROUPS`. -/
def requiredDependencyGroups : List Text := [lit "build", lit "dev"]

/-- `re.fullmatch(r"sha256:[0-9a-f]{64}", digest)`. -/
def isSha256 (digest : Text) : Bool :=
  digest.take 7 = lit "sha256:" && (digest.drop 7).length = 64 &&
    (digest.drop 7).all fun c => isDigit c || (97 ≤ c && c ≤ 102)

/-- The variables of the loop over the packages. -/
structure LockScan where
  lockedNames : List Text
  lockedRequirements : List LockedRequirement
  projectPackage : Option TomlTable
  issues : List Text

def LockScan.report (scan : LockScan) (issues : List Text) : LockScan :=
  { scan with issues := scan.issues ++ issues }

/-- The distributions of a package. -/
def artifactsOf (package : TomlTable) : List Toml :=
  (package.lookup (lit "sdist")).toList ++
    match package.lookup (lit "wheels") with
    | some (.array wheels) => wheels
    | _ => []

/-- The issues about one artifact. -/
def artifactIssues (name : Text) : Toml → List Text
  | .table artifact =>
    match artifact.lookup (lit "hash") with
    | some (.str digest) =>
      if isSha256 digest then []
      else [name ++ lit " has an artifact without a SHA-256 integrity record"]
    | _ => [name ++ lit " has an artifact without a SHA-256 integrity record"]
  | _ => [name ++ lit " has malformed artifact metadata"]

/-- The issues about the artifacts of a package. -/
def distributionIssues (name : Text) (package : TomlTable) : List Text :=
  (match package.lookup (lit "wheels") with
    | none | some (.array _) => []
    | some _ => [name ++ lit " wheels must be an array"]) ++
  (if (artifactsOf package).isEmpty then [name ++ lit " has no locked distribution artifacts"]
    else []) ++
  (artifactsOf package).flatMap (artifactIssues name)

variable (lower : Text → Text) (unicode : Unicode)

/-- One round of the loop over the packages. -/
def scanPackage (scan : LockScan) (entry : Toml × Nat) : LockScan :=
  let location := lit "uv.lock package[" ++ decimal entry.2 ++ lit "]"
  match entry.1 with
  | .table package =>
    match package.lookup (lit "name"), package.lookup (lit "version") with
    | some (.str name), some (.str version) =>
      let normalizedName := canonicalizeName lower name
      let scan := { scan with lockedNames := scan.lockedNames.insert normalizedName }
      match package.lookup (lit "source") with
      | some (.table source) =>
        if normalizedName = projectName then
          { scan with projectPackage := some package }.report
            (if isSingle (lit "editable") (lit ".") source then []
              else [projectName ++ lit " must be the sole editable '.' lock source"])
        else if isSingle (lit "registry") pypiIndex source then
          { scan with
            lockedRequirements := scan.lockedRequirements.insert ⟨normalizedName, version⟩ }.report
              (distributionIssues name package)
        else
          scan.report [name ++ lit " has an unexpected package source: " ++
            (Toml.table source).reprValue unicode]
      | _ => scan.report [location ++ lit " must declare a package source"]
    | _, _ => scan.report [location ++ lit " must have exact name and version strings"]
  | _ => scan.report [location ++ lit " must be a table"]

/-- The order of the returned requirements. -/
def requirementKey (requirement : LockedRequirement) : Text ×ₗ Text :=
  toLex (requirement.name, requirement.version)

/-- The issues about the project's own entry. -/
def projectIssues : Option TomlTable → List Text
  | none => [lit "uv.lock is missing editable project package " ++ reprText unicode projectName]
  | some projectPackage =>
    match projectPackage.lookup (lit "dev-dependencies") with
    | some (.table devDependencies) =>
      let missingLockGroups := requiredDependencyGroups.filter fun group =>
        decide (group ∉ devDependencies.map Prod.fst)
      if missingLockGroups = [] then []
      else [lit "uv.lock project package is missing dependency group(s): " ++
        joinTexts (sortTexts missingLockGroups)]
    | _ => [lit "uv.lock project package is missing dependency group metadata"]

/-- The issues about the Python versions of the lock. -/
def requiresPythonIssues (expectedLockPython : Text) (lock : TomlTable) : List Text :=
  let found := lock.lookup (lit "requires-python")
  let message := lit "uv.lock requires-python must be " ++ reprText unicode expectedLockPython ++
    lit ", got " ++ (match found with
      | some value => value.reprValue unicode
      | none => lit "None")
  match found with
  | some (.str requiresPython) => if requiresPython = expectedLockPython then [] else [message]
  | _ => [message]

/-- `_validate_lock`, with the issues before and after. -/
def validateLock (lock : TomlTable) (pythonPin : Text) (declaredNames issues : List Text) :
    Except OpenApi.ValueError (List Text × List LockedRequirement) :=
  match pythonPin.splitOn 46 with
  | [major, minor, _] =>
    let expectedLockPython := lit "==" ++ major ++ lit "." ++ minor ++ lit ".*"
    let pythonIssues := requiresPythonIssues unicode expectedLockPython lock
    match lock.lookup (lit "package") with
    | some (.array (package :: packages)) =>
      let scan := ((package :: packages).zipIdx).foldl (scanPackage lower unicode)
        ⟨[], [], none, issues ++ pythonIssues⟩
      let missingLocked := declaredNames.filter fun name => decide (name ∉ scan.lockedNames)
      let declarationIssues :=
        if missingLocked = [] then []
        else [lit "uv.lock is missing direct requirement(s): " ++ joinTexts (sortTexts missingLocked)]
      .ok (scan.issues ++ declarationIssues ++ projectIssues unicode scan.projectPackage,
        sortBy requirementKey scan.lockedRequirements)
    | _ => .ok (issues ++ pythonIssues ++ [lit "uv.lock must contain a nonempty package array"], [])
  | _ => .error ⟨lit "not enough or too many values to unpack (expected 3)"⟩

/-! ## The policy -/

/-- The normalized name and the version of an entry that has both. -/
def requirement? : Toml → Option LockedRequirement
  | .table package =>
    match package.lookup (lit "name"), package.lookup (lit "version") with
    | some (.str name), some (.str version) => some ⟨canonicalizeName lower name, version⟩
    | _, _ => none
  | _ => none

/-- The table of an entry of the project. -/
def projectTableOf : Toml → Option TomlTable
  | .table package =>
    match requirement? lower (.table package) with
    | some requirement => if requirement.name = projectName then some package else none
    | none => none
  | _ => none

/-- The value is a distribution of the package. -/
def IsArtifact (package : TomlTable) (artifact : Toml) : Prop :=
  package.lookup (lit "sdist") = some artifact ∨
    ∃ wheels, package.lookup (lit "wheels") = some (.array wheels) ∧ artifact ∈ wheels

/-- The artifact is a table with a SHA-256 hash. -/
def Hashed (artifact : Toml) : Prop :=
  ∃ entries hex, artifact = .table entries ∧
    entries.lookup (lit "hash") = some (.str (lit "sha256:" ++ hex)) ∧ hex.length = 64 ∧
    ∀ c ∈ hex, isDigit c = true ∨ (97 ≤ c ∧ c ≤ 102)

structure DistributionsAllowed (package : TomlTable) : Prop where
  wheels : ∀ value, package.lookup (lit "wheels") = some value → ∃ items, value = .array items
  any : ∃ artifact, IsArtifact package artifact
  hashed : ∀ artifact, IsArtifact package artifact → Hashed artifact

/-- An entry the policy allows. -/
def AllowedEntry (entry : Toml) : Prop :=
  ∃ package source requirement, entry = .table package ∧
    requirement? lower entry = some requirement ∧
    package.lookup (lit "source") = some (.table source) ∧
    if requirement.name = projectName then source = [(lit "editable", .str (lit "."))]
    else source = [(lit "registry", .str pypiIndex)] ∧ DistributionsAllowed package

/-- **The lock policy.** -/
structure LockPolicy (lock : TomlTable) (declaredNames : List Text) (packages : List Toml) : Prop where
  requiresPython : lock.lookup (lit "requires-python") = some (.str (lit "==3.12.*"))
  package : lock.lookup (lit "package") = some (.array packages)
  nonempty : packages ≠ []
  entries : ∀ entry ∈ packages, AllowedEntry lower entry
  declared : ∀ name ∈ declaredNames, ∃ entry ∈ packages, ∃ requirement,
    requirement? lower entry = some requirement ∧ requirement.name = name
  /-- The last entry of the project has the dependency groups. -/
  groups : ∃ package groups, (packages.filterMap (projectTableOf lower)).getLast? = some package ∧
    package.lookup (lit "dev-dependencies") = some (.table groups) ∧
    ∀ group ∈ requiredDependencyGroups, group ∈ groups.map Prod.fst

/-! ## One artifact and one package -/

theorem isSha256_iff {digest : Text} : isSha256 digest = true ↔ ∃ hex, digest = lit "sha256:" ++ hex ∧
    hex.length = 64 ∧ ∀ c ∈ hex, isDigit c = true ∨ (97 ≤ c ∧ c ≤ 102) := by
  unfold isSha256
  simp only [Bool.and_eq_true, decide_eq_true_eq, List.all_eq_true, Bool.or_eq_true]
  constructor
  · rintro ⟨⟨htake, hlength⟩, hhex⟩
    exact ⟨digest.drop 7, by rw [← htake, List.take_append_drop], hlength, hhex⟩
  · rintro ⟨hex, rfl, hlength, hhex⟩
    exact ⟨⟨rfl, hlength⟩, hhex⟩

theorem mem_artifactsOf {package : TomlTable} {artifact : Toml} :
    artifact ∈ artifactsOf package ↔ IsArtifact package artifact := by
  unfold artifactsOf IsArtifact
  rw [List.mem_append, Option.mem_toList]
  refine or_congr_right ?_
  split
  · rename_i wheels hwheels
    simp [hwheels]
  · rename_i hother
    simp only [List.not_mem_nil, false_iff, not_exists, not_and]
    exact fun wheels hwheels => absurd hwheels (hother wheels)

theorem artifactIssues_eq_nil {name : Text} {artifact : Toml} :
    artifactIssues name artifact = [] ↔ Hashed artifact := by
  cases artifact with
  | table entries =>
    unfold artifactIssues Hashed
    simp only [Toml.table.injEq, exists_and_left, exists_eq_left']
    split
    · rename_i digest hdigest
      simp only [hdigest, Option.some.injEq, Toml.str.injEq]
      rw [← isSha256_iff]
      by_cases h : isSha256 digest = true
      · rw [if_pos h]
        exact iff_of_true rfl h
      · rw [if_neg h]
        exact iff_of_false (List.cons_ne_nil _ _) h
    · rename_i hother
      simp only [List.cons_ne_nil, false_iff, not_exists, not_and]
      exact fun hex hhash => absurd hhash (hother _)
  | str | array | scalar =>
    unfold artifactIssues Hashed
    simp

theorem distributionIssues_eq_nil {n : Text} {package : TomlTable} :
    distributionIssues n package = [] ↔ DistributionsAllowed package := by
  have hany : (artifactsOf package).isEmpty = false ↔ ∃ artifact, IsArtifact package artifact := by
    rw [List.isEmpty_eq_false_iff_exists_mem]
    simp only [mem_artifactsOf]
  have hwheels : (match package.lookup (lit "wheels") with
      | none | some (.array _) => []
      | some _ => [n ++ lit " wheels must be an array"]) = [] ↔
        ∀ value, package.lookup (lit "wheels") = some value → ∃ items, value = .array items := by
    cases package.lookup (lit "wheels") with
    | none => simp
    | some value => cases value <;> simp
  have hhashed : (artifactsOf package).flatMap (artifactIssues n) = [] ↔
      ∀ artifact, IsArtifact package artifact → Hashed artifact := by
    rw [List.flatMap_eq_nil_iff]
    simp only [mem_artifactsOf, artifactIssues_eq_nil]
  unfold distributionIssues
  rw [List.append_eq_nil_iff, List.append_eq_nil_iff, hwheels, hhashed, ite_eq_right_iff]
  simp only [List.cons_ne_nil, imp_false, Bool.not_eq_true, hany]
  exact ⟨fun h => ⟨h.1.1, h.1.2, h.2⟩, fun h => ⟨⟨h.wheels, h.any⟩, h.hashed⟩⟩

/-! ## One round -/

/-- What the round of an allowed entry leaves. -/
def LockScan.add (scan : LockScan) (package : TomlTable) (requirement : LockedRequirement) : LockScan :=
  if requirement.name = projectName then
    { scan with
      lockedNames := scan.lockedNames.insert requirement.name
      projectPackage := some package }
  else
    { scan with
      lockedNames := scan.lockedNames.insert requirement.name
      lockedRequirements := scan.lockedRequirements.insert requirement }

variable {lower unicode}

theorem requirement?_eq_some {entry : Toml} {requirement : LockedRequirement} :
    requirement? lower entry = some requirement ↔ ∃ package name version, entry = .table package ∧
      package.lookup (lit "name") = some (.str name) ∧
      package.lookup (lit "version") = some (.str version) ∧
      requirement = ⟨canonicalizeName lower name, version⟩ := by
  constructor
  · intro h
    unfold requirement? at h
    split at h
    · split at h
      · rename_i package _ _ name version hname hversion
        cases h
        exact ⟨package, name, version, rfl, hname, hversion, rfl⟩
      · cases h
    · cases h
  · rintro ⟨package, name, version, rfl, hname, hversion, rfl⟩
    simp only [requirement?, hname, hversion]

/-- The entry has been found malformed: something was added to the issues. -/
def Reported (scan scan' : LockScan) : Prop := ∃ issue issues, scan'.issues = scan.issues ++ issue :: issues

/-- What the check of the source says of an entry that is read. -/
theorem allowedEntry_iff {package : TomlTable} {requirement : LockedRequirement}
    (hrequirement : requirement? lower (.table package) = some requirement) :
    AllowedEntry lower (.table package) ↔ ∃ source,
      package.lookup (lit "source") = some (.table source) ∧
        if requirement.name = projectName then isSingle (lit "editable") (lit ".") source = true
        else isSingle (lit "registry") pypiIndex source = true ∧ DistributionsAllowed package := by
  simp only [isSingle_iff]
  constructor
  · rintro ⟨package', source, requirement', heq, hrequirement', hsource, hrest⟩
    cases heq
    rw [hrequirement, Option.some.injEq] at hrequirement'
    subst hrequirement'
    exact ⟨source, hsource, hrest⟩
  · rintro ⟨source, hsource, hrest⟩
    exact ⟨package, source, requirement, rfl, hrequirement, hsource, hrest⟩

variable (lower unicode) in
/-- **One round**: an allowed entry is noted, and about any other something is reported. -/
theorem scanPackage_cases (scan : LockScan) (entry : Toml) (index : Nat) :
    (AllowedEntry lower entry ∧ ∃ package requirement, entry = .table package ∧
        requirement? lower entry = some requirement ∧
        scanPackage lower unicode scan (entry, index) = scan.add package requirement) ∨
      (¬ AllowedEntry lower entry ∧ Reported scan (scanPackage lower unicode scan (entry, index))) := by
  cases hrequirement : requirement? lower entry with
  | none =>
    refine Or.inr ⟨?_, ?_⟩
    · rintro ⟨_, _, requirement, -, hsome, -⟩
      rw [hrequirement] at hsome
      cases hsome
    · cases entry with
      | table package =>
        simp only [scanPackage]
        split
        · rename_i name version hname hversion
          simp only [requirement?, hname, hversion] at hrequirement
          cases hrequirement
        · exact ⟨_, [], rfl⟩
      | str | array | scalar => exact ⟨_, [], rfl⟩
  | some requirement =>
    obtain ⟨package, name, version, rfl, hname, hversion, rfl⟩ := requirement?_eq_some.mp hrequirement
    rw [allowedEntry_iff hrequirement]
    simp only [scanPackage, hname, hversion, LockScan.add]
    by_cases hsource : ∃ source, package.lookup (lit "source") = some (.table source)
    · obtain ⟨source, hsource⟩ := hsource
      simp only [hsource, Option.some.injEq, Toml.table.injEq, exists_eq_left']
      by_cases hproject : canonicalizeName lower name = projectName
      · simp only [if_pos hproject]
        by_cases hsingle : isSingle (lit "editable") (lit ".") source = true
        · refine Or.inl ⟨hsingle, package, _, rfl, rfl, ?_⟩
          simp [hsingle, hproject, LockScan.report]
        · refine Or.inr ⟨hsingle, ?_⟩
          rw [if_neg hsingle]
          exact ⟨_, [], rfl⟩
      · simp only [if_neg hproject]
        by_cases hsingle : isSingle (lit "registry") pypiIndex source = true
        · rw [if_pos hsingle, ← distributionIssues_eq_nil (n := name)]
          cases hissues : distributionIssues name package with
          | nil =>
            refine Or.inl ⟨⟨hsingle, rfl⟩, package, _, rfl, rfl, ?_⟩
            simp [hproject, LockScan.report]
          | cons issue issues => exact Or.inr ⟨fun h => (nomatch h.2), issue, issues, rfl⟩
        · rw [if_neg hsingle]
          exact Or.inr ⟨fun h => hsingle h.1, _, [], rfl⟩
    · refine Or.inr ⟨fun ⟨source, h, _⟩ => hsource ⟨source, h⟩, ?_⟩
      split
      · rename_i source h
        exact absurd ⟨source, h⟩ hsource
      · exact ⟨_, [], rfl⟩

/-! ## All rounds -/

/-- The packages have been noted, and nothing was reported about them. -/
structure Noted (lower : Text → Text) (scan : LockScan) (packages : List Toml) (scan' : LockScan) :
    Prop where
  issues : scan'.issues = scan.issues
  names : ∀ name, name ∈ scan'.lockedNames ↔ name ∈ scan.lockedNames ∨
    ∃ entry ∈ packages, ∃ requirement, requirement? lower entry = some requirement ∧
      requirement.name = name
  requirements : ∀ requirement, requirement ∈ scan'.lockedRequirements ↔
    requirement ∈ scan.lockedRequirements ∨ ∃ entry ∈ packages,
      requirement? lower entry = some requirement ∧ requirement.name ≠ projectName
  nodup : scan.lockedRequirements.Nodup → scan'.lockedRequirements.Nodup
  project : scan'.projectPackage =
    ((packages.filterMap (projectTableOf lower)).getLast?).or scan.projectPackage

theorem Noted.nil (scan : LockScan) : Noted lower scan [] scan where
  issues := rfl
  names name := by simp
  requirements requirement := by simp
  nodup := id
  project := rfl

theorem Noted.trans {scan scan' scan'' : LockScan} {packages packages' : List Toml}
    (h : Noted lower scan packages scan') (h' : Noted lower scan' packages' scan'') :
    Noted lower scan (packages ++ packages') scan'' where
  issues := h'.issues.trans h.issues
  names name := by
    rw [h'.names, h.names, or_assoc]
    simp only [List.mem_append, or_and_right, exists_or]
  requirements requirement := by
    rw [h'.requirements, h.requirements, or_assoc]
    simp only [List.mem_append, or_and_right, exists_or]
  nodup hnodup := h'.nodup (h.nodup hnodup)
  project := by
    rw [h'.project, h.project, List.filterMap_append, List.getLast?_append, Option.or_assoc]

theorem Noted.add (scan : LockScan) {package : TomlTable} {requirement : LockedRequirement}
    (hrequirement : requirement? lower (.table package) = some requirement) :
    Noted lower scan [.table package] (scan.add package requirement) := by
  have hentry : projectTableOf lower (.table package) =
      if requirement.name = projectName then some package else none := by
    simp only [projectTableOf, hrequirement]
  by_cases hproject : requirement.name = projectName
  · refine ⟨?_, fun name => ?_, fun requirement' => ?_, fun hnodup => ?_, ?_⟩
    all_goals simp only [LockScan.add, if_pos hproject]
    · simp [hrequirement, or_comm, eq_comm]
    · simp only [List.mem_singleton, exists_eq_left, hrequirement, Option.some.injEq]
      refine (or_iff_left ?_).symm
      rintro ⟨rfl, hne⟩
      exact hne hproject
    · exact hnodup
    · simp [hentry, hproject]
  · refine ⟨?_, fun name => ?_, fun requirement' => ?_, fun hnodup => ?_, ?_⟩
    all_goals simp only [LockScan.add, if_neg hproject]
    · simp [hrequirement, or_comm, eq_comm]
    · simp only [List.mem_singleton, exists_eq_left, hrequirement, Option.some.injEq,
        List.mem_insert_iff, or_comm (a := requirement' = requirement)]
      refine or_congr_right ⟨?_, fun h => h.1.symm⟩
      rintro rfl
      exact ⟨rfl, hproject⟩
    · exact hnodup.insert
    · simp [hentry, hproject]

variable (lower unicode) in
/-- **All rounds**: the packages are noted if all are allowed, else something is reported. -/
theorem scan_cases (packages : List Toml) (scan : LockScan) (index : Nat) :
    ((∀ entry ∈ packages, AllowedEntry lower entry) ∧ Noted lower scan packages
        ((packages.zipIdx index).foldl (scanPackage lower unicode) scan)) ∨
      ((∃ entry ∈ packages, ¬ AllowedEntry lower entry) ∧
        Reported scan ((packages.zipIdx index).foldl (scanPackage lower unicode) scan)) := by
  induction packages generalizing scan index with
  | nil => exact Or.inl ⟨fun _ h => absurd h List.not_mem_nil, Noted.nil scan⟩
  | cons entry packages ih =>
    rw [List.zipIdx_cons, List.foldl_cons]
    rcases scanPackage_cases lower unicode scan entry index with
      ⟨hallowed, package, requirement, rfl, hrequirement, hscan⟩ | ⟨hforbidden, issue, issues, hscan⟩
    · have hnoted := Noted.add scan hrequirement
      rw [hscan]
      rcases ih (scan.add package requirement) (index + 1) with ⟨hall, hrest⟩ | ⟨hany, hrest⟩
      · exact Or.inl ⟨List.forall_mem_cons.mpr ⟨hallowed, hall⟩, hnoted.trans hrest⟩
      · refine Or.inr ⟨hany.imp fun e he => ⟨List.mem_cons_of_mem _ he.1, he.2⟩, ?_⟩
        obtain ⟨issue, issues, hissues⟩ := hrest
        exact ⟨issue, issues, by rw [hissues, hnoted.issues]⟩
    · refine Or.inr ⟨⟨entry, List.mem_cons_self, hforbidden⟩, ?_⟩
      rcases ih (scanPackage lower unicode scan (entry, index)) (index + 1) with
        ⟨-, hrest⟩ | ⟨-, issue', issues', hrest⟩
      · exact ⟨issue, issues, by rw [hrest.issues, hscan]⟩
      · exact ⟨issue, issues ++ issue' :: issues', by rw [hrest, hscan, List.append_assoc]; rfl⟩

/-! ## The function -/

theorem projectIssues_eq_nil {projectPackage : Option TomlTable} :
    projectIssues unicode projectPackage = [] ↔ ∃ package groups, projectPackage = some package ∧
      package.lookup (lit "dev-dependencies") = some (.table groups) ∧
      ∀ group ∈ requiredDependencyGroups, group ∈ groups.map Prod.fst := by
  cases projectPackage with
  | none => simp [projectIssues]
  | some package =>
    simp only [projectIssues, Option.some.injEq, exists_and_left, exists_eq_left']
    split
    · rename_i groups hgroups
      rw [ite_eq_left_iff, List.filter_eq_nil_iff]
      simp [hgroups]
    · rename_i hother
      simp only [List.cons_ne_nil, false_iff, not_exists, not_and]
      exact fun groups hgroups => absurd hgroups (hother groups)

theorem requiresPythonIssues_eq_nil {expectedLockPython : Text} {lock : TomlTable} :
    requiresPythonIssues unicode expectedLockPython lock = [] ↔
      lock.lookup (lit "requires-python") = some (.str expectedLockPython) := by
  unfold requiresPythonIssues
  simp only
  split
  · rename_i requiresPython hfound
    rw [hfound, ite_eq_left_iff]
    simp
  · rename_i hother
    exact iff_of_false (List.cons_ne_nil _ _) (hother _)

/-- The returned requirements are those of the noted packages. -/
theorem Noted.returned {scan' : LockScan} {packages : List Toml} {issues : List Text}
    (h : Noted lower ⟨[], [], none, issues⟩ packages scan') :
    (sortBy requirementKey scan'.lockedRequirements).Pairwise
        (fun r r' => requirementKey r < requirementKey r') ∧
      ∀ requirement, requirement ∈ sortBy requirementKey scan'.lockedRequirements ↔
        ∃ entry ∈ packages, requirement? lower entry = some requirement ∧
          requirement.name ≠ projectName := by
  have hinjective : Function.Injective requirementKey := by
    rintro ⟨name, version⟩ ⟨name', version'⟩ heq
    rw [requirementKey, requirementKey, toLex_inj, Prod.mk.injEq] at heq
    exact LockedRequirement.mk.injEq .. ▸ heq
  refine ⟨sortBy_strict ((h.nodup List.nodup_nil).map hinjective), fun requirement => ?_⟩
  rw [mem_sortBy, h.requirements]
  simp

/-- The declared names that the noted packages lack. -/
theorem Noted.missing_eq_nil {scan' : LockScan} {packages : List Toml} {issues declaredNames : List Text}
    (h : Noted lower ⟨[], [], none, issues⟩ packages scan') :
    (declaredNames.filter fun name => decide (name ∉ scan'.lockedNames)) = [] ↔
      ∀ name ∈ declaredNames, ∃ entry ∈ packages, ∃ requirement,
        requirement? lower entry = some requirement ∧ requirement.name = name := by
  rw [List.filter_eq_nil_iff]
  simp only [decide_eq_true_eq, not_not, h.names, List.not_mem_nil, false_or]

variable (lower unicode)

/-- **The lock policy**: no issue is added iff the lock keeps it, and then the returned requirements
are the distinct ones of the entries other than the project's, sorted. -/
theorem lock_policy (lock : TomlTable) (pythonPin patch : Text) (declaredNames issues : List Text)
    (hpin : pythonPin.splitOn 46 = [lit "3", lit "12", patch]) :
    ∃ issues' requirements,
      validateLock lower unicode lock pythonPin declaredNames issues = .ok (issues', requirements) ∧
        issues <+: issues' ∧
        (issues' = issues ↔ ∃ packages, LockPolicy lower lock declaredNames packages) ∧
        ∀ packages, LockPolicy lower lock declaredNames packages →
          (requirements.Pairwise fun r r' => requirementKey r < requirementKey r') ∧
            ∀ requirement, requirement ∈ requirements ↔ ∃ entry ∈ packages,
              requirement? lower entry = some requirement ∧ requirement.name ≠ projectName := by
  have hexpected : lit "==" ++ lit "3" ++ lit "." ++ lit "12" ++ lit ".*" = lit "==3.12.*" := by decide
  unfold validateLock
  simp only [hpin, hexpected]
  split
  · rename_i package packages hlock
    have hsame : ∀ {packages'}, LockPolicy lower lock declaredNames packages' →
        packages' = package :: packages := fun h => by
      have := h.package.symm.trans hlock
      cases this
      rfl
    rcases scan_cases lower unicode (package :: packages)
      ⟨[], [], none, issues ++ requiresPythonIssues unicode (lit "==3.12.*") lock⟩ 0 with
      ⟨hallowed, hnoted⟩ | ⟨⟨entry, hentry, hforbidden⟩, issue, issues', hreported⟩
    · refine ⟨_, _, rfl, ?_, ?_, fun packages' h => hsame h ▸ hnoted.returned⟩
      · rw [hnoted.issues]
        simp only [List.append_assoc]
        exact List.prefix_append _ _
      · rw [hnoted.issues]
        simp only [List.append_assoc, List.append_right_eq_self, List.append_eq_nil_iff,
          requiresPythonIssues_eq_nil, projectIssues_eq_nil, ite_eq_left_iff, List.cons_ne_nil,
          imp_false, not_not, hnoted.missing_eq_nil, hnoted.project, Option.or_none]
        constructor
        · rintro ⟨hpython, hdeclared, hgroups⟩
          exact ⟨_, hpython, hlock, List.cons_ne_nil _ _, hallowed, hdeclared, hgroups⟩
        · rintro ⟨packages', h⟩
          obtain rfl := hsame h
          exact ⟨h.requiresPython, h.declared, h.groups⟩
    · have hnone : ∀ {packages'}, ¬ LockPolicy lower lock declaredNames packages' := fun h =>
        hforbidden (h.entries entry (hsame h ▸ hentry))
      refine ⟨_, _, rfl, ?_, ?_, fun packages' h => absurd h hnone⟩
      · rw [hreported]
        simp only [List.append_assoc]
        exact List.prefix_append _ _
      · rw [hreported]
        simp only [List.append_assoc, List.append_right_eq_self, List.append_eq_nil_iff]
        exact iff_of_false (fun h => List.cons_ne_nil _ _ h.2.1) fun ⟨_, h⟩ => hnone h
  · rename_i hother
    have hnone : ∀ {packages}, ¬ LockPolicy lower lock declaredNames packages := by
      intro packages h
      obtain ⟨package, packages', rfl⟩ := List.exists_cons_of_ne_nil h.nonempty
      exact hother package packages' h.package
    refine ⟨_, _, rfl, ?_, iff_of_false ?_ fun ⟨_, h⟩ => hnone h, fun packages h => absurd h hnone⟩
    · rw [List.append_assoc]
      exact List.prefix_append _ _
    · rw [List.append_assoc, List.append_right_eq_self]
      exact fun h => List.cons_ne_nil _ _ (List.append_eq_nil_iff.mp h).2

/-! ## A lock that keeps the policy -/

/-- A lock of one package and the project. -/
def exampleLock : TomlTable :=
  [(lit "requires-python", .str (lit "==3.12.*")),
    (lit "package", .array
      [.table [(lit "name", .str (lit "my_tool")), (lit "version", .str (lit "1.0")),
        (lit "source", .table [(lit "registry", .str pypiIndex)]),
        (lit "sdist", .table [(lit "hash", .str (lit "sha256:" ++ List.replicate 64 48))])],
      .table [(lit "name", .str projectName), (lit "version", .str (lit "0")),
        (lit "source", .table [(lit "editable", .str (lit "."))]),
        (lit "dev-dependencies", .table [(lit "build", .array []), (lit "dev", .array [])])]])]

theorem lock_policy_example :
    validateLock id .ascii exampleLock (lit "3.12.11") [lit "my-tool"] [] =
        .ok ([], [⟨lit "my-tool", lit "1.0"⟩]) ∧
      ∃ packages, LockPolicy id exampleLock [lit "my-tool"] packages := by
  have hrun : validateLock id .ascii exampleLock (lit "3.12.11") [lit "my-tool"] [] =
      .ok ([], [⟨lit "my-tool", lit "1.0"⟩]) := by
    decide +kernel
  obtain ⟨issues', requirements, hreturned, -, hpolicy, -⟩ := lock_policy id .ascii exampleLock
    (lit "3.12.11") (lit "11") [lit "my-tool"] [] (by decide)
  rw [hrun, Except.ok.injEq, Prod.mk.injEq] at hreturned
  exact ⟨hrun, hpolicy.mp hreturned.1.symm⟩

end ApiTests.Dependencies
