import ApiTests.Coverage.InventoryGrammar
import ApiTests.Coverage.OperationCoverage

/-!
# The manifests of deferred operations

Model of `load_deferred_admin_operations` (`coverage.py:70-104`) and
`load_forbidden_response_deferrals` (`openapi.py:178-219`), from what `yaml.safe_load` returns. Both
read a list of mappings with an operation id, a method and a path; the second reads a reason too.

`Listed` says what a manifest is and which entries it stands for, without an order of checks.

Results:
* **`loadDeferredAdminOperations_eq_ok`**, **`loadForbiddenResponseDeferrals_eq_ok`**: a manifest is
  loaded iff it is one, and then as the entries it stands for.
-/

namespace ApiTests.Coverage

open Py OpenApi

/-- The words a loader uses for its manifest, and the field it reads. -/
structure ManifestWords where
  manifest : Text
  entry : Text
  listField : Text

variable (words : ManifestWords) (display : Yaml → Text) (path : Text)

/-- The checks on one entry, the last of them on what `finish` reads. -/
def loadEntry {α : Type}
    (finish : List (YamlKey × Yaml) → Text → HttpMethod → Text → Except InventoryError α) :
    Yaml × Nat → Except InventoryError α
  | (.dict entries, index) => do
    let operationId ← textOr (words.entry ++ lit " #" ++ decimal index ++
      lit " is missing operationId") (yamlGet entries (lit "operationId"))
    let rawMethod := yamlGet entries (lit "method")
    let method ← memberOf readMethod rawMethod (words.entry ++ lit " " ++ operationId ++
      lit " has unsupported method: " ++ display rawMethod)
    let operationPath ← pathOr (words.entry ++ lit " " ++ operationId ++ lit " has invalid path")
      (yamlGet entries (lit "path"))
    finish entries operationId method operationPath
  | (_, index) => .error (.valueError
      (words.entry ++ lit " #" ++ decimal index ++ lit " must be a mapping: " ++ path))

/-- The loop over the entries, from number 1 on. -/
def loadManifest {α : Type}
    (finish : List (YamlKey × Yaml) → Text → HttpMethod → Text → Except InventoryError α)
    (rawManifest : Yaml) : Except InventoryError (List α) :=
  match rawManifest with
  | .dict entries =>
    match yamlGet entries words.listField with
    | .list rawEntries =>
      readAll (loadEntry words display path finish) (rawEntries.zipIdx 1)
    | _ => .error (.valueError (words.manifest ++ lit " must contain list field '" ++
        words.listField ++ lit "': " ++ path))
  | _ => .error (.valueError (words.manifest ++ lit " must contain a YAML mapping: " ++ path))

/-- The words of the admin manifest. -/
def deferredAdminWords : ManifestWords where
  manifest := lit "deferred admin manifest"
  entry := lit "deferred admin operation"
  listField := lit "deferred_admin_operations"

/-- `load_deferred_admin_operations`. -/
def loadDeferredAdminOperations :
    Yaml → Except InventoryError (List DeferredAdminOperation) :=
  loadManifest deferredAdminWords display path fun _ operationId method operationPath =>
    .ok { operationId, method, path := operationPath }

/-- `FORBIDDEN_RESPONSE_DEFERRAL_REASONS`. -/
def readReason (t : Text) : Option ForbiddenResponseDeferralReason :=
  if t = lit "no_restricted_normal_user_scenario" then some .noRestrictedNormalUserScenario
  else if t = lit "admin_identity_and_safety_plan_required" then
    some .adminIdentityAndSafetyPlanRequired
  else if t = lit "global_mutation_not_authorized" then some .globalMutationNotAuthorized
  else none

/-- The words of the forbidden-response manifest. -/
def forbiddenResponseWords : ManifestWords where
  manifest := lit "forbidden-response manifest"
  entry := lit "forbidden-response deferral"
  listField := lit "deferred_forbidden_responses"

/-- `load_forbidden_response_deferrals`. -/
def loadForbiddenResponseDeferrals :
    Yaml → Except InventoryError (List ForbiddenResponseDeferral) :=
  loadManifest forbiddenResponseWords display path
    fun entries operationId method operationPath => do
      let rawReason := yamlGet entries (lit "reason")
      let reason ← memberOf readReason rawReason (lit "forbidden-response deferral " ++
        operationId ++ lit " has unsupported reason: " ++ display rawReason)
      .ok { operationId, method, path := operationPath, reason }

/-! ## What a manifest is -/

/-- A mapping that names an operation. -/
structure NamesOperation (entries : List (YamlKey × Yaml)) (operationId : Text) (method : HttpMethod)
    (operationPath : Text) : Prop where
  operationId : IsText (yamlGet entries (lit "operationId")) operationId
  method : Spelled readMethod (yamlGet entries (lit "method")) method
  path : yamlGet entries (lit "path") = .str operationPath ∧ lit "/" <+: operationPath

/-- An entry of the admin manifest. -/
def AdminEntry (raw : Yaml) (deferred : DeferredAdminOperation) : Prop :=
  ∃ entries, raw = .dict entries ∧
    NamesOperation entries deferred.operationId deferred.method deferred.path

/-- An entry of the forbidden-response manifest. -/
def DeferralEntry (raw : Yaml) (deferral : ForbiddenResponseDeferral) : Prop :=
  ∃ entries, raw = .dict entries ∧
    NamesOperation entries deferral.operationId deferral.method deferral.path ∧
    Spelled readReason (yamlGet entries (lit "reason")) deferral.reason

/-- **A mapping whose field `listField` lists entries**, in the order of the file. -/
def Listed {α : Type} (EntryOf : Yaml → α → Prop) (listField : Text) (raw : Yaml) (items : List α) :
    Prop :=
  ∃ entries rawEntries, raw = .dict entries ∧ yamlGet entries listField = .list rawEntries ∧
    List.Forall₂ EntryOf rawEntries items

/-! ## The loaders -/

section

variable {words : ManifestWords} {display : Yaml → Text} {path : Text} {α : Type}
  {finish : List (YamlKey × Yaml) → Text → HttpMethod → Text → Except InventoryError α}

theorem loadEntry_eq_ok {raw : Yaml} {index : Nat} {a : α} :
    loadEntry words display path finish (raw, index) = .ok a ↔
      ∃ entries operationId method operationPath, raw = .dict entries ∧
        NamesOperation entries operationId method operationPath ∧
        finish entries operationId method operationPath = .ok a := by
  cases raw with
  | dict entries =>
    simp only [loadEntry, bind_eq_ok_iff, textOr_eq_ok, memberOf_eq_ok, pathOr_eq_ok,
      Yaml.dict.injEq]
    constructor
    · rintro ⟨id, hid, method, hmethod, operationPath, hpath, hfinish⟩
      exact ⟨entries, id, method, operationPath, rfl, ⟨hid, hmethod, hpath⟩, hfinish⟩
    · rintro ⟨_, id, method, operationPath, rfl, ⟨hid, hmethod, hpath⟩, hfinish⟩
      exact ⟨id, hid, method, hmethod, operationPath, hpath, hfinish⟩
  | _ =>
    refine iff_of_false (fun h => nomatch h) ?_
    rintro ⟨_, _, _, _, h, -⟩
    cases h

/-- **A manifest is loaded iff it lists entries that `finish` reads.** -/
theorem loadManifest_eq_ok {EntryOf : Yaml → α → Prop}
    (hentry : ∀ raw a, (∃ entries operationId method operationPath, raw = .dict entries ∧
      NamesOperation entries operationId method operationPath ∧
      finish entries operationId method operationPath = .ok a) ↔ EntryOf raw a)
    {raw : Yaml} {items : List α} :
    loadManifest words display path finish raw = .ok items ↔
      Listed EntryOf words.listField raw items := by
  have hread : ∀ x n a, loadEntry words display path finish (x, n) = .ok a ↔ EntryOf x a :=
    fun x n a => loadEntry_eq_ok.trans (hentry x a)
  unfold Listed
  cases raw with
  | dict entries =>
    rw [loadManifest]
    cases hlist : yamlGet entries words.listField with
    | list rawEntries =>
      rw [readAll_zipIdx_eq_ok hread]
      constructor
      · exact fun h => ⟨entries, rawEntries, rfl, hlist, h⟩
      · rintro ⟨_, _, heq, hlist', h⟩
        cases heq
        rw [hlist] at hlist'
        cases hlist'
        exact h
    | _ =>
      refine iff_of_false (fun h => nomatch h) ?_
      rintro ⟨_, _, heq, hlist', -⟩
      cases heq
      rw [hlist] at hlist'
      cases hlist'
  | _ =>
    refine iff_of_false (fun h => nomatch h) ?_
    rintro ⟨_, _, h, -⟩
    cases h

/-- **The admin manifest is loaded iff it is one.** -/
theorem loadDeferredAdminOperations_eq_ok {raw : Yaml} {items : List DeferredAdminOperation} :
    loadDeferredAdminOperations display path raw = .ok items ↔
      Listed AdminEntry (lit "deferred_admin_operations") raw items := by
  refine loadManifest_eq_ok fun raw deferred => ?_
  unfold AdminEntry
  constructor
  · rintro ⟨entries, id, method, operationPath, rfl, hnames, hfinish⟩
    cases hfinish
    exact ⟨entries, rfl, hnames⟩
  · rintro ⟨entries, rfl, hnames⟩
    exact ⟨entries, _, _, _, rfl, hnames, rfl⟩

/-- **The forbidden-response manifest is loaded iff it is one.** -/
theorem loadForbiddenResponseDeferrals_eq_ok {raw : Yaml} {items : List ForbiddenResponseDeferral} :
    loadForbiddenResponseDeferrals display path raw = .ok items ↔
      Listed DeferralEntry (lit "deferred_forbidden_responses") raw items := by
  refine loadManifest_eq_ok fun raw deferral => ?_
  unfold DeferralEntry
  simp only [bind_eq_ok_iff, memberOf_eq_ok]
  constructor
  · rintro ⟨entries, id, method, operationPath, rfl, hnames, reason, hreason, hfinish⟩
    cases hfinish
    exact ⟨entries, rfl, hnames, hreason⟩
  · rintro ⟨entries, rfl, hnames, hreason⟩
    exact ⟨entries, _, _, _, rfl, hnames, _, hreason, rfl⟩

end

end ApiTests.Coverage
