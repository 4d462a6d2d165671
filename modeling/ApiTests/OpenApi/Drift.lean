import ApiTests.OpenApi.Document

/-!
# The drift check of two OpenAPI documents

Model of `openapi_drift.py:14-97, 118-214`: `_operation_contracts`, `_component_schemas` and
`compare_openapi_documents` with the list of differences it returns. `!=` on JSON values is Python's,
the negation of `pyEq`. `write_drift_artifact` only stores the list and is left out.

Results:
* `operationContracts_returns_iff`, `get?_operationContracts`: the second traversal of a document's
  operations, against what the document declares.
* **`same_operations`**: `iter_operations` and `_operation_contracts` see the same operations, save
  for ids of whitespace only.
-/

namespace ApiTests.OpenApi

open Py

/-- `DriftChange`. -/
inductive DriftChange where
  | added
  | removed
  | changed
  deriving Repr, DecidableEq

/-- `OpenApiDifference`. -/
structure OpenApiDifference where
  location : Text
  change : DriftChange
  baseline : Option Text
  live : Option Text
  deriving Repr, DecidableEq

/-- `_OperationContract`. -/
structure OperationContract where
  method : HttpMethod
  path : Text
  parameters : Json PyNumber
  requestBody : Json PyNumber
  responses : Json PyNumber

/-- The contract of an operation: the parameters of the path item and of the operation, a missing
list read as empty, the body and the responses, missing read as null. -/
def contractOf (path : Text) (method : HttpMethod) (item operation : Entries) :
    OperationContract where
  method := method
  path := path
  parameters := .list [(item.lookup (lit "parameters")).getD (.list []),
    (operation.lookup (lit "parameters")).getD (.list [])]
  requestBody := (operation.lookup (lit "requestBody")).getD .null
  responses := (operation.lookup (lit "responses")).getD .null

/-- The contract at a place, checked. -/
def readContract (site : OperationSite) : Except ValueError (Text × OperationContract) :=
  match site.rawOperation with
  | .dict operation =>
    match operation.lookup (lit "operationId") with
    | some (.str operationId) => do
      raiseWhen (operationId = [])
        ⟨lit "OpenAPI operation " ++ site.label ++ lit " is missing operationId"⟩
      let method ← normalizeMethod site.method
      .ok (operationId, contractOf site.path method site.pathItem operation)
    | _ => .error ⟨lit "OpenAPI operation " ++ site.label ++ lit " is missing operationId"⟩
  | _ => .error ⟨lit "OpenAPI operation " ++ site.label ++ lit " must be an object"⟩

/-- The error about an id met again. -/
def duplicateContract (_ entry : Text × OperationContract) : ValueError :=
  ⟨lit "duplicate OpenAPI operationId: " ++ entry.1⟩

/-- `_operation_contracts`. -/
def operationContracts (document : OpenApiDocument) :
    Except ValueError (Dict Text OperationContract) := do
  let paths ← requiredMapping document.entries (lit "paths") (lit "OpenAPI document")
  let contracts ← collect readContract Prod.fst duplicateContract .ok [] (operationSites paths)
  .ok (Dict.ofList contracts)

/-- `_component_schemas`. -/
def componentSchemas (document : OpenApiDocument) : Except ValueError Entries :=
  match document.entries.lookup (lit "components") with
  | none | some .null => .ok []
  | some (.dict components) =>
    match components.lookup (lit "schemas") with
    | none | some .null => .ok []
    | some (.dict schemas) => .ok schemas
    | some _ => .error ⟨lit "OpenAPI field 'components.schemas' must be an object"⟩
  | some _ => .error ⟨lit "OpenAPI field 'components' must be an object"⟩

/-- `_append_scalar_change`: what is appended. -/
def scalarChange (location baseline live : Text) : List OpenApiDifference :=
  if baseline ≠ live then [⟨location, .changed, some baseline, some live⟩] else []

/-- `_append_structural_change`: what is appended. -/
def structuralChange (location : Text) (baseline live : Json PyNumber) : List OpenApiDifference :=
  if pyEq baseline live then [] else [⟨location, .changed, none, none⟩]

/-- `_append_schema_differences`: what is appended. -/
def schemaDifferences (baseline live : Entries) : List OpenApiDifference :=
  let location (name : Text) := lit "components.schemas." ++ name
  ((sortByKey baseline).filter fun e => live.lookup e.1 |>.isNone).map (fun e =>
      ⟨location e.1, .removed, none, none⟩) ++
    ((sortByKey live).filter fun e => baseline.lookup e.1 |>.isNone).map (fun e =>
      ⟨location e.1, .added, none, none⟩) ++
    (sortByKey baseline).flatMap fun e =>
      match live.lookup e.1 with
      | some schema => structuralChange (location e.1) e.2 schema
      | none => []

/-- `f"{operation.method} {operation.path}"`. -/
def OperationContract.label (operation : OperationContract) : Text :=
  operation.method.text ++ lit " " ++ operation.path

/-- The changes of an operation both documents have. -/
def contractChanges (operationId : Text) (baseline live : OperationContract) :
    List OpenApiDifference :=
  let location (part : Text) := lit "operations." ++ operationId ++ part
  scalarChange (location (lit ".method")) baseline.method.text live.method.text ++
    scalarChange (location (lit ".path")) baseline.path live.path ++
    structuralChange (location (lit ".parameters")) baseline.parameters live.parameters ++
    structuralChange (location (lit ".requestBody")) baseline.requestBody live.requestBody ++
    structuralChange (location (lit ".responses")) baseline.responses live.responses

/-- The differences between the operations of two documents. -/
def operationDifferences (baseline live : Dict Text OperationContract) : List OpenApiDifference :=
  ((sortByKey baseline.entries).filter fun e => (live.get? e.1).isNone).map (fun e =>
      ⟨lit "operations." ++ e.1, .removed, some e.2.label, none⟩) ++
    ((sortByKey live.entries).filter fun e => (baseline.get? e.1).isNone).map (fun e =>
      ⟨lit "operations." ++ e.1, .added, none, some e.2.label⟩) ++
    (sortByKey baseline.entries).flatMap fun e =>
      match live.get? e.1 with
      | some operation => contractChanges e.1 e.2 operation
      | none => []

/-- `compare_openapi_documents`. -/
def compareOpenapiDocuments (baseline live : OpenApiDocument) :
    Except ValueError (List OpenApiDifference) := do
  let baselineOperations ← operationContracts baseline
  let liveOperations ← operationContracts live
  let operations := operationDifferences baselineOperations liveOperations
  let baselineSchemas ← componentSchemas baseline
  let liveSchemas ← componentSchemas live
  .ok (operations ++ schemaDifferences baselineSchemas liveSchemas)

/-! ## The traversal -/

/-- **The document has an operation `id` with the contract `contract`.** -/
def OpenApiDocument.HasContract (doc : OpenApiDocument) (id : Text)
    (contract : OperationContract) : Prop :=
  ∃ path method item operation, doc.HasOperation path method item operation ∧
    operation.lookup (lit "operationId") = some (.str id) ∧
    contract = contractOf path method item operation

theorem readContract_eq_ok {site : OperationSite} {entry : Text × OperationContract} :
    readContract site = .ok entry ↔
      ∃ operation id method, site.rawOperation = .dict operation ∧
        operation.lookup (lit "operationId") = some (.str id) ∧ id ≠ [] ∧
        normalizeMethod site.method = .ok method ∧
        entry = (id, contractOf site.path method site.pathItem operation) := by
  unfold readContract
  cases site.rawOperation with
  | dict operation =>
    cases hid : operation.lookup (lit "operationId") with
    | none => simp [hid]
    | some x =>
      cases x with
      | str id =>
        simp only [hid, bind_eq_ok_iff, raiseWhen_eq_ok, Except.ok.injEq, Json.dict.injEq]
        constructor
        · rintro ⟨-, hne, method, hmethod, rfl⟩
          exact ⟨operation, id, method, rfl, hid, hne, hmethod, rfl⟩
        · rintro ⟨_, id', method, rfl, hid', hne, hmethod, rfl⟩
          rw [hid, Option.some.injEq, Json.str.injEq] at hid'
          subst hid'
          exact ⟨(), hne, method, hmethod, rfl⟩
      | _ => simp [hid]
  | _ => simp

theorem id?_of_readContract {site : OperationSite} {entry : Text × OperationContract}
    (h : readContract site = .ok entry) : site.id? = some entry.1 := by
  obtain ⟨operation, id, method, hraw, hid, -, -, rfl⟩ := readContract_eq_ok.mp h
  exact OperationSite.id?_eq_some.mpr ⟨operation, hraw, hid⟩

variable {doc : OpenApiDocument}

theorem operationContracts_eq_ok_iff {contracts : Dict Text OperationContract} :
    operationContracts doc = .ok contracts ↔
      ∃ paths entries, doc.entries.lookup (lit "paths") = some (.dict paths) ∧
        collect readContract Prod.fst duplicateContract .ok [] (operationSites paths) = .ok entries ∧
        contracts = Dict.ofList entries := by
  simp only [operationContracts, bind_eq_ok_iff, requiredMapping_eq_ok, Except.ok.injEq]
  constructor
  · rintro ⟨paths, hpaths, entries, hentries, rfl⟩
    exact ⟨paths, entries, hpaths, hentries, rfl⟩
  · rintro ⟨paths, entries, hpaths, hentries, rfl⟩
    exact ⟨paths, hpaths, entries, hentries, rfl⟩

/-- **When `_operation_contracts` returns**: the ids are not empty. -/
theorem operationContracts_returns_iff :
    (∃ contracts, operationContracts doc = .ok contracts) ↔ doc.Readable fun id => id ≠ [] := by
  constructor
  · rintro ⟨contracts, h⟩
    obtain ⟨paths, entries, hpaths, hentries, -⟩ := operationContracts_eq_ok_iff.mp h
    obtain ⟨hall, hnodup⟩ := (collect_returns_iff fun _ _ => id?_of_readContract).mp ⟨entries, hentries⟩
    refine ⟨paths, hpaths, fun site hsite => ?_, hnodup⟩
    obtain ⟨entry, -, hentry, -⟩ := hall site hsite
    obtain ⟨operation, id, method, hraw, hid, hne, -, -⟩ := readContract_eq_ok.mp hentry
    exact ⟨id, OperationSite.id?_eq_some.mpr ⟨operation, hraw, hid⟩, hne⟩
  · rintro ⟨paths, hpaths, hall, hnodup⟩
    have hsites : ∀ site ∈ operationSites paths, ∃ entry done,
        readContract site = .ok entry ∧ Except.ok (ε := ValueError) entry = .ok done := by
      intro site hsite
      obtain ⟨id, hid, hne⟩ := hall site hsite
      obtain ⟨operation, hraw, hid⟩ := OperationSite.id?_eq_some.mp hid
      obtain ⟨method, hmethod⟩ := mem_httpMethods.mp (mem_operationSites.mp hsite).2.2
      exact ⟨_, _, readContract_eq_ok.mpr ⟨operation, id, method, hraw, hid, hne,
        hmethod ▸ normalizeMethod_key method, rfl⟩, rfl⟩
    have hreturns : ∃ entries, collect readContract Prod.fst duplicateContract .ok []
        (operationSites paths) = .ok entries :=
      (collect_returns_iff fun _ _ => id?_of_readContract).mpr ⟨hsites, hnodup⟩
    obtain ⟨entries, hentries⟩ := hreturns
    exact ⟨_, operationContracts_eq_ok_iff.mpr ⟨paths, entries, hpaths, hentries, rfl⟩⟩

/-- **What `_operation_contracts` stores**: the contracts of the document's operations. -/
theorem get?_operationContracts {contracts : Dict Text OperationContract}
    (h : operationContracts doc = .ok contracts) {id : Text} {contract : OperationContract} :
    contracts.get? id = some contract ↔ doc.HasContract id contract := by
  obtain ⟨paths, entries, hpaths, hentries, rfl⟩ := operationContracts_eq_ok_iff.mp h
  have hnodup : (entries.map Prod.fst).Nodup := nodup_of_collect hentries
  rw [Dict.get?_ofList_eq_some_iff hnodup, mem_collect_iff hentries]
  constructor
  · rintro ⟨site, hsite, entry, hread, hok⟩
    cases hok
    obtain ⟨raw, id, method, hraw, hid, -, hmethod, heq⟩ := readContract_eq_ok.mp hread
    cases heq
    exact ⟨_, method, _, raw, hasOperation_of_site hpaths hsite hraw hmethod, hid, rfl⟩
  · rintro ⟨path, method, item, raw, hhas, hid, rfl⟩
    have hne := (operationContracts_returns_iff.mp ⟨_, h⟩).valid hhas hid
    exact ⟨_, hhas.site hpaths, _, readContract_eq_ok.mpr ⟨raw, id, method, rfl, hid, hne,
      normalizeMethod_key _, rfl⟩, rfl⟩

/-! ## Both traversals -/

/-- **Both traversals see the same operations**: they raise together, and otherwise yield the same
ids, each with the same method and path. -/
structure SeesSame (unicode : Unicode) (doc : OpenApiDocument) (contract : OpenApiContractKey) :
    Prop where
  raises : (∃ e, iterOperations unicode doc contract = .error e) ↔
    ∃ e, operationContracts doc = .error e
  yields : ∀ operations contracts, iterOperations unicode doc contract = .ok operations →
    operationContracts doc = .ok contracts → ∀ id method path,
      (∃ operation ∈ operations, operation.operationId = id ∧ operation.method = method ∧
        operation.path = path) ↔
      ∃ operation, contracts.get? id = some operation ∧ operation.method = method ∧
        operation.path = path

/-- Some operation id is whitespace and nothing else. -/
def OpenApiDocument.HasBlankId (doc : OpenApiDocument) : Prop :=
  ∃ id method path, doc.Declares id method path ∧ id ≠ [] ∧ strip id = []

theorem declares_iff_hasContract {id : Text} {method : HttpMethod} {path : Text} :
    doc.Declares id method path ↔
      ∃ contract, doc.HasContract id contract ∧ contract.method = method ∧ contract.path = path := by
  constructor
  · rintro ⟨item, operation, hhas, hid⟩
    exact ⟨_, ⟨path, method, item, operation, hhas, hid, rfl⟩, rfl, rfl⟩
  · rintro ⟨_, ⟨path, method, item, operation, hhas, hid, rfl⟩, rfl, rfl⟩
    exact ⟨item, operation, hhas, hid⟩

/-- An operation place that gives an id is an operation the document declares. -/
theorem declares_of_site {paths : Entries} (hpaths : doc.entries.lookup (lit "paths") =
    some (.dict paths)) {site : OperationSite} (hsite : site ∈ operationSites paths) {id : Text}
    (hid : site.id? = some id) : ∃ method, doc.Declares id method site.path := by
  obtain ⟨operation, hraw, hlookup⟩ := OperationSite.id?_eq_some.mp hid
  obtain ⟨method, hkey⟩ := mem_httpMethods.mp (mem_operationSites.mp hsite).2.2
  obtain ⟨path, item, key, rawOperation⟩ := site
  obtain rfl : key = method.key := hkey
  obtain rfl : rawOperation = .dict operation := hraw
  exact ⟨method, item, operation, hasOperation_iff.mpr ⟨paths, hpaths, hsite⟩, hlookup⟩

theorem readable_strip_iff : doc.Readable (fun id => strip id ≠ []) ↔
    doc.Readable (fun id => id ≠ []) ∧ ¬ doc.HasBlankId := by
  constructor
  · rintro ⟨paths, hpaths, hall, hnodup⟩
    constructor
    · refine ⟨paths, hpaths, fun site hsite => ?_, hnodup⟩
      obtain ⟨id, hid, hstrip⟩ := hall site hsite
      exact ⟨id, hid, by rintro rfl; exact hstrip strip_nil⟩
    · rintro ⟨id, method, path, ⟨item, operation, hhas, hid⟩, -, hblank⟩
      obtain ⟨paths', hpaths', hsite⟩ := hasOperation_iff.mp hhas
      rw [hpaths, Option.some.injEq, Json.dict.injEq] at hpaths'
      subst hpaths'
      obtain ⟨id', hid', hstrip⟩ := hall _ hsite
      rw [OperationSite.id?_eq_some.mpr ⟨operation, rfl, hid⟩, Option.some.injEq] at hid'
      exact hstrip (hid' ▸ hblank)
  · rintro ⟨⟨paths, hpaths, hall, hnodup⟩, hblank⟩
    refine ⟨paths, hpaths, fun site hsite => ?_, hnodup⟩
    obtain ⟨id, hid, hne⟩ := hall site hsite
    obtain ⟨method, hdeclares⟩ := declares_of_site hpaths hsite hid
    exact ⟨id, hid, fun hstrip => hblank ⟨id, method, _, hdeclares, hne, hstrip⟩⟩

/-- **The coverage inventory and the drift check see the same operations** exactly when the document
is not readable but for operation ids of whitespace only. -/
theorem same_operations (unicode : Unicode) (doc : OpenApiDocument) (contract : OpenApiContractKey) :
    SeesSame unicode doc contract ↔ ¬ (doc.Readable (fun id => id ≠ []) ∧ doc.HasBlankId) := by
  have hraises : ((∃ e, iterOperations unicode doc contract = .error e) ↔
      ∃ e, operationContracts doc = .error e) ↔
        ¬ (doc.Readable (fun id => id ≠ []) ∧ doc.HasBlankId) := by
    rw [exists_error_iff, exists_error_iff, iterOperations_returns_iff, operationContracts_returns_iff,
      readable_strip_iff]
    tauto
  refine ⟨fun h => hraises.mp h.raises, fun h => ⟨hraises.mpr h, ?_⟩⟩
  intro operations contracts hiter hcontracts id method path
  simp only [get?_operationContracts hcontracts, ← declares_iff_hasContract]
  constructor
  · rintro ⟨operation, hmem, rfl, rfl, rfl⟩
    exact ((mem_iterOperations hiter).mp hmem).1
  · intro hdeclares
    exact ⟨⟨id, method, path, contract⟩, (mem_iterOperations hiter).mpr ⟨hdeclares, rfl⟩, rfl, rfl,
      rfl⟩

/-- One operation, `GET /v1/views`, whose id is a blank. -/
def blankIdDocument : OpenApiDocument where
  entries := [(lit "paths", .dict [(lit "/v1/views", .dict [(lit "get",
    .dict [(lit "operationId", .str (lit " "))])])])]
  keysDistinct := by simp [Json.KeysDistinct, Json.KeysDistinctEntries]

/-- The drift check takes the blank id, `iter_operations` refuses it. -/
theorem blank_id_example : ¬ SeesSame Unicode.ascii blankIdDocument .unified := by
  intro h
  obtain ⟨e, he⟩ := h.raises.mp ⟨⟨lit "OpenAPI operation GET /v1/views is missing operationId"⟩,
    by decide⟩
  have hok : (operationContracts blankIdDocument).isOk = true := by decide
  rw [he] at hok
  cases hok

end ApiTests.OpenApi
