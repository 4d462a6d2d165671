import ApiTests.Dependencies.Installed

/-!
# Package sets of the evidence

Model of `dependency_evidence.py:60-169`: the records of a package set, how they are normalized, and the
exact comparison of two sets.

Results:
* `normalizePackageRecords_eq_ok`: **a normalized set has each name once**, and one record for each
  given one.
* `compareExactPackages_eq_exact_iff`: **a comparison is exact iff the two sets are one.**
* `requireExactComparisons_eq_ok`: and only exact ones pass.
-/

namespace ApiTests.Evidence

open Py Dependencies

/-- What the generator raises: a `DependencyEvidenceError`, an `OSError` or a `SubprocessError`, with
its text, or an exception that it does not catch. -/
inductive Failure where
  | evidenceError (message : Text)
  | osError (message : Text)
  | subprocessError (message : Text)
  | other
  deriving Repr, DecidableEq

def evidenceError {α : Type} (message : Text) : Except Failure α := .error (.evidenceError message)

@[simp] theorem evidenceError_ne_ok {α : Type} {message : Text} {a : α} :
    ¬ evidenceError message = .ok a := fun h => by cases h

/-- `PackageRecord`. -/
structure PackageRecord where
  name : Text
  version : Text
  deriving Repr, DecidableEq

/-- `VersionMismatch`. -/
structure VersionMismatch where
  name : Text
  expected : Text
  actual : Text
  deriving Repr, DecidableEq

/-- The `status` of a comparison. -/
inductive ParityStatus where
  | exact
  | mismatch
  deriving Repr, DecidableEq

def ParityStatus.text : ParityStatus → Text
  | .exact => lit "exact"
  | .mismatch => lit "mismatch"

/-- `PackageComparison`. -/
structure PackageComparison where
  source : Text
  status : ParityStatus
  missing : List Text
  extra : List Text
  versionMismatches : List VersionMismatch
  deriving Repr, DecidableEq

/-! ## Normalized records -/

section Normalize

variable (lower : Text → Text) (source : Text)

/-- A record with its name normalized. -/
def normalized (record : Text × Text) : PackageRecord :=
  ⟨canonicalizeName lower (strip record.1), strip record.2⟩

/-- The loop over the records. `duplicates` holds the names met more than once. -/
def normalizeFrom : List PackageRecord → List Text → List (Text × Text) →
    Except Failure (List PackageRecord × List Text)
  | done, duplicates, [] => .ok (done, duplicates)
  | done, duplicates, record :: rest =>
    let package := normalized lower record
    if package.name = [] ∨ package.version = [] then
      evidenceError (source ++ lit " contains an empty package name or version")
    else if package.name ∈ done.map PackageRecord.name then
      normalizeFrom done (package.name :: duplicates) rest
    else normalizeFrom (done ++ [package]) duplicates rest

/-- `normalize_package_records`. -/
def normalizePackageRecords (records : List (Text × Text)) : Except Failure (List PackageRecord) := do
  let (done, duplicates) ← normalizeFrom lower source [] [] records
  if duplicates ≠ [] then
    evidenceError (source ++ lit " contains duplicate normalized package name(s): " ++
      joinTexts (sortTexts duplicates.dedup))
  else .ok (sortBy PackageRecord.name done)

end Normalize

variable {lower : Text → Text} {source : Text}

/-- A name met twice is not forgotten. -/
theorem duplicates_eq_nil {records : List (Text × Text)} {done packages : List PackageRecord}
    {duplicates : List Text}
    (h : normalizeFrom lower source done duplicates records = .ok (packages, [])) : duplicates = [] := by
  induction records generalizing done duplicates with
  | nil =>
    cases h
    rfl
  | cons record records ih =>
    unfold normalizeFrom at h
    dsimp only at h
    split_ifs at h
    · cases h
    · exact absurd (ih h) (List.cons_ne_nil _ _)
    · exact ih h

/-- A record that can be normalized. -/
def Complete (lower : Text → Text) (record : Text × Text) : Prop :=
  (normalized lower record).name ≠ [] ∧ (normalized lower record).version ≠ []

/-- The loop meets no name twice iff each record adds its own. -/
theorem normalizeFrom_eq_ok {records : List (Text × Text)} {done packages : List PackageRecord}
    (hdone : (done.map PackageRecord.name).Nodup) :
    normalizeFrom lower source done [] records = .ok (packages, []) ↔
      (∀ record ∈ records, Complete lower record) ∧ packages = done ++ records.map (normalized lower) ∧
        (packages.map PackageRecord.name).Nodup := by
  induction records generalizing done with
  | nil =>
    rw [normalizeFrom, List.map_nil, List.append_nil]
    constructor
    · intro h
      cases h
      exact ⟨fun _ h => absurd h List.not_mem_nil, rfl, hdone⟩
    · rintro ⟨-, rfl, -⟩
      rfl
  | cons record records ih =>
    rw [normalizeFrom, List.forall_mem_cons, List.map_cons]
    by_cases hempty : (normalized lower record).name = [] ∨ (normalized lower record).version = []
    · rw [if_pos hempty]
      refine ⟨fun h => absurd h evidenceError_ne_ok, fun h => ?_⟩
      exact absurd hempty (not_or.mpr h.1.1)
    rw [if_neg hempty]
    by_cases hmem : (normalized lower record).name ∈ done.map PackageRecord.name
    · rw [if_pos hmem]
      refine ⟨fun h => absurd (duplicates_eq_nil h) (List.cons_ne_nil _ _), ?_⟩
      rintro ⟨-, rfl, hnodup⟩
      rw [List.map_append, List.map_cons, List.nodup_append'] at hnodup
      exact absurd List.mem_cons_self (hnodup.2.2 hmem)
    · have hnext : ((done ++ [normalized lower record]).map PackageRecord.name).Nodup := by
        rw [List.map_append, List.map_singleton]
        exact List.nodup_append'.mpr
          ⟨hdone, List.nodup_singleton _, List.disjoint_singleton.mpr hmem⟩
      rw [if_neg hmem, ih hnext, List.append_assoc, List.singleton_append]
      exact ⟨fun ⟨h, hrest⟩ => ⟨⟨not_or.mp hempty, h⟩, hrest⟩, fun ⟨⟨_, h⟩, hrest⟩ => ⟨h, hrest⟩⟩

/-- The loop from its start. -/
theorem normalizeFrom_nil_eq_ok {records : List (Text × Text)} {packages : List PackageRecord} :
    normalizeFrom lower source [] [] records = .ok (packages, []) ↔
      (∀ record ∈ records, Complete lower record) ∧ packages = records.map (normalized lower) ∧
        (packages.map PackageRecord.name).Nodup :=
  normalizeFrom_eq_ok List.nodup_nil

/-- **A normalized set has one record for each given one**, no name twice, in the order of the names. -/
theorem normalizePackageRecords_eq_ok {records : List (Text × Text)} {packages : List PackageRecord} :
    normalizePackageRecords lower source records = .ok packages ↔
      (∀ record ∈ records, Complete lower record) ∧
        ((records.map (normalized lower)).map PackageRecord.name).Nodup ∧
        packages = sortBy PackageRecord.name (records.map (normalized lower)) := by
  unfold normalizePackageRecords
  rw [bind_eq_ok_iff]
  constructor
  · rintro ⟨⟨done, duplicates⟩, hloop, h⟩
    dsimp only at h
    by_cases hduplicates : duplicates = []
    · subst hduplicates
      obtain ⟨hcomplete, rfl, hnodup⟩ := normalizeFrom_nil_eq_ok.mp hloop
      rw [if_neg (not_not.mpr rfl)] at h
      cases h
      exact ⟨hcomplete, hnodup, rfl⟩
    · rw [if_pos hduplicates] at h
      exact absurd h evidenceError_ne_ok
  · rintro ⟨hcomplete, hnodup, rfl⟩
    exact ⟨_, normalizeFrom_nil_eq_ok.mpr ⟨hcomplete, rfl, hnodup⟩, rfl⟩

/-- **A normalized set has each name once.** -/
theorem normalizePackageRecords_nodup {records : List (Text × Text)} {packages : List PackageRecord}
    (h : normalizePackageRecords lower source records = .ok packages) :
    (packages.map PackageRecord.name).Nodup := by
  obtain ⟨-, hnodup, rfl⟩ := normalizePackageRecords_eq_ok.mp h
  exact ((sortBy_perm PackageRecord.name _).map PackageRecord.name).nodup_iff.mpr hnodup

/-! ## Comparison -/

/-- `{package.name: package.version for package in packages}`. -/
def versions (packages : List PackageRecord) : Dict Text Text :=
  .ofList (packages.map fun package => (package.name, package.version))

/-- `sorted(d.keys() - e.keys())`. -/
def missingKeys (d e : Dict Text Text) : List Text :=
  sortTexts ((d.entries.map Prod.fst).filter fun name => e.get? name = none)

/-- The versions that differ, by name. -/
def versionMismatches (d e : Dict Text Text) : List VersionMismatch :=
  (sortTexts (d.entries.map Prod.fst)).filterMap fun name =>
    match d.get? name, e.get? name with
    | some expected, some actual => if expected ≠ actual then some ⟨name, expected, actual⟩ else none
    | _, _ => none

/-- `compare_exact_packages`. -/
def compareExactPackages (expected actual : List PackageRecord) (source : Text) : PackageComparison :=
  let missing := missingKeys (versions expected) (versions actual)
  let extra := missingKeys (versions actual) (versions expected)
  let mismatches := versionMismatches (versions expected) (versions actual)
  ⟨source, if missing = [] ∧ extra = [] ∧ mismatches = [] then .exact else .mismatch, missing, extra,
    mismatches⟩

theorem get?_versions {packages : List PackageRecord} (h : (packages.map PackageRecord.name).Nodup)
    {name version : Text} : (versions packages).get? name = some version ↔ ⟨name, version⟩ ∈ packages := by
  have hkeys : ((packages.map fun package => (package.name, package.version)).map Prod.fst).Nodup := by
    rwa [List.map_map]
  rw [versions, Dict.get?_ofList_eq_some_iff hkeys, List.mem_map]
  constructor
  · rintro ⟨package, hmem, heq⟩
    cases heq
    exact hmem
  · exact fun hmem => ⟨_, hmem, rfl⟩

theorem missingKeys_eq_nil {d e : Dict Text Text} :
    missingKeys d e = [] ↔ ∀ name, e.get? name = none → d.get? name = none := by
  simp only [missingKeys, sortTexts_eq_nil, List.filter_eq_nil_iff, decide_eq_true_eq,
    Dict.get?_eq_none_iff, not_not]
  exact ⟨fun h name he hd => he (h name hd), fun h name hd => by_contra fun he => h name he hd⟩

theorem versionMismatches_eq_nil {d e : Dict Text Text} :
    versionMismatches d e = [] ↔
      ∀ name expected actual, d.get? name = some expected → e.get? name = some actual →
        expected = actual := by
  rw [versionMismatches, List.filterMap_eq_nil_iff]
  constructor
  · intro h name expected actual hd he
    have hname : name ∈ sortTexts (d.entries.map Prod.fst) := by
      rw [mem_sortTexts]
      by_contra hnot
      rw [Dict.get?_eq_none_iff.mpr hnot] at hd
      cases hd
    have hnone := h name hname
    rw [hd, he] at hnone
    dsimp only at hnone
    by_contra hne
    rw [if_pos hne] at hnone
    cases hnone
  · intro h name _
    cases hd : d.get? name with
    | none => rfl
    | some expected =>
      cases he : e.get? name with
      | none => rfl
      | some actual => exact if_neg (not_not.mpr (h name expected actual hd he))

/-- Two dicts have the same entries iff neither lacks a key and no value differs. -/
theorem get?_eq_iff {d e : Dict Text Text} :
    (∀ name, d.get? name = e.get? name) ↔
      missingKeys d e = [] ∧ missingKeys e d = [] ∧ versionMismatches d e = [] := by
  rw [missingKeys_eq_nil, missingKeys_eq_nil, versionMismatches_eq_nil]
  constructor
  · intro h
    refine ⟨fun name he => by rw [h, he], fun name hd => by rw [← h, hd], ?_⟩
    intro name expected actual hd he
    rw [h, he] at hd
    exact (Option.some.inj hd).symm
  · rintro ⟨hmissing, hextra, hversions⟩ name
    cases hd : d.get? name with
    | none => exact (hextra name hd).symm
    | some expected =>
      cases he : e.get? name with
      | none => rw [hmissing name he] at hd; cases hd
      | some actual => rw [hversions name expected actual hd he]

/-- **A comparison of two sets is exact iff they have the same records.** -/
theorem compareExactPackages_eq_exact_iff {expected actual : List PackageRecord}
    (he : (expected.map PackageRecord.name).Nodup) (ha : (actual.map PackageRecord.name).Nodup) :
    (compareExactPackages expected actual source).status = .exact ↔
      ∀ package, package ∈ expected ↔ package ∈ actual := by
  have hstatus : (compareExactPackages expected actual source).status = .exact ↔
      ∀ name, (versions expected).get? name = (versions actual).get? name := by
    rw [get?_eq_iff, compareExactPackages]
    dsimp only
    split_ifs with h
    · exact iff_of_true rfl h
    · exact iff_of_false (fun h => by cases h) h
  rw [hstatus]
  constructor
  · rintro h ⟨name, version⟩
    rw [← get?_versions he, ← get?_versions ha, h]
  · intro h name
    refine Option.ext fun version => ?_
    rw [get?_versions he, get?_versions ha, h]

/-- `repr` of a list of texts. -/
def reprTexts (unicode : Unicode) (texts : List Text) : Text :=
  lit "[" ++ joinTexts (texts.map (reprText unicode)) ++ lit "]"

/-- `require_exact_comparisons`. -/
def requireExactComparisons (unicode : Unicode) (comparisons : List PackageComparison) :
    Except Failure Unit :=
  let mismatched := comparisons.filter fun comparison => comparison.status ≠ .exact
  if mismatched = [] then .ok ()
  else
    evidenceError (lit "package parity failed: " ++ (lit "; ").intercalate (mismatched.map fun comparison =>
      comparison.source ++ lit ": missing=" ++ reprTexts unicode comparison.missing ++ lit ", extra=" ++
        reprTexts unicode comparison.extra ++ lit ", version_mismatch=" ++
        reprTexts unicode (comparison.versionMismatches.map VersionMismatch.name)))

theorem requireExactComparisons_eq_ok {unicode : Unicode} {comparisons : List PackageComparison}
    {u : Unit} :
    requireExactComparisons unicode comparisons = .ok u ↔
      ∀ comparison ∈ comparisons, comparison.status = .exact := by
  unfold requireExactComparisons
  dsimp only
  split_ifs with h
  · refine iff_of_true rfl fun comparison hmem => ?_
    simpa using List.filter_eq_nil_iff.mp h comparison hmem
  · refine iff_of_false evidenceError_ne_ok fun hall => h (List.filter_eq_nil_iff.mpr fun c hc => ?_)
    simpa using hall c hc

end ApiTests.Evidence
