import ApiTests.Py.Checks
import ApiTests.Py.JsonEqual
import ApiTests.Py.Unicode

/-!
# OpenAPI documents and their operations

Model of the traversal in `openapi.py:20-120, 222-268, 428-443`. A document is a JSON object; an
operation stands in it at a path item and a method key. `operationSites` lists the places the two
nested loops reach, past their `continue`s: the object path items, and in them the keys that are HTTP
methods. `validatedOperationEntries` reads an operation at each place and refuses an id it has met.

Results:
* `Document.Declares`: **what it means that a document has an operation**, without the traversal.
* `mem_operationSites`, `mem_iterOperations`: the traversal finds exactly these.
* `iterOperations_returns_iff`: when `iter_operations` runs through.
* `iterOperations_ids`: the ids of what it yields are distinct.
-/

namespace ApiTests.OpenApi

open Py

/-- `HttpMethod`. -/
inductive HttpMethod where
  | get
  | post
  | put
  | patch
  | delete
  deriving Repr, DecidableEq

def HttpMethod.text : HttpMethod → Text
  | .get => lit "GET"
  | .post => lit "POST"
  | .put => lit "PUT"
  | .patch => lit "PATCH"
  | .delete => lit "DELETE"

/-- `HTTP_METHODS`. -/
def httpMethods : List Text := [lit "get", lit "post", lit "put", lit "patch", lit "delete"]

/-- `OpenApiContractKey`. -/
inductive OpenApiContractKey where
  | unified
  | sessionGateway
  deriving Repr, DecidableEq

/-- `OpenApiOperation`. -/
structure OpenApiOperation where
  operationId : Text
  method : HttpMethod
  path : Text
  contract : OpenApiContractKey
  deriving Repr, DecidableEq

/-- An entry list of a JSON object. -/
abbrev Entries := List (Text × Json PyNumber)

/-- `OpenApiDocument`: a JSON object. -/
structure OpenApiDocument where
  entries : Entries
  keysDistinct : (Json.dict entries).KeysDistinct

/-- `ValueError`. -/
structure ValueError where
  message : Text
  deriving Repr, DecidableEq

/-- `str.upper` of ASCII text. -/
def upperAscii (t : Text) : Text := t.map fun c => if 97 ≤ c ∧ c ≤ 122 then c - 32 else c

/-- `_normalize_method`, which is `_http_method` of the drift check too. -/
def normalizeMethod (method : Text) : Except ValueError HttpMethod :=
  let normalized := upperAscii method
  if normalized = lit "GET" then .ok .get
  else if normalized = lit "POST" then .ok .post
  else if normalized = lit "PUT" then .ok .put
  else if normalized = lit "PATCH" then .ok .patch
  else if normalized = lit "DELETE" then .ok .delete
  else .error ⟨lit "unsupported OpenAPI method: " ++ method⟩

/-- An operation key of an object path item, and what stands there. -/
structure OperationSite where
  path : Text
  pathItem : Entries
  method : Text
  rawOperation : Json PyNumber

/-- The operation keys of one path item; a path item that is no object is skipped. -/
def sitesOf (path : Text) : Json PyNumber → List OperationSite
  | .dict item => item.filterMap fun e =>
    if e.1 ∈ httpMethods then some ⟨path, item, e.1, e.2⟩ else none
  | _ => []

/-- The places both traversals visit, in order. -/
def operationSites (paths : Entries) : List OperationSite :=
  paths.flatMap fun e => sitesOf e.1 e.2

/-- `f"{method.upper()} {path}"`. -/
def OperationSite.label (site : OperationSite) : Text :=
  upperAscii site.method ++ lit " " ++ site.path

/-- `_required_mapping`. -/
def requiredMapping (parent : Entries) (key context : Text) : Except ValueError Entries :=
  match parent.lookup key with
  | some (.dict value) => .ok value
  | _ => .error ⟨context ++ lit " must contain object field '" ++ key ++ lit "'"⟩

/-- `_OpenApiOperationEntry`. -/
structure OpenApiOperationEntry where
  operation : OpenApiOperation
  pathItem : Entries
  rawOperation : Entries

/-- The operation at a place, checked. -/
def readOperation (contract : OpenApiContractKey) (site : OperationSite) :
    Except ValueError OpenApiOperationEntry :=
  match site.rawOperation with
  | .dict operation =>
    match operation.lookup (lit "operationId") with
    | some (.str operationId) => do
      raiseWhen (strip operationId = [])
        ⟨lit "OpenAPI operation " ++ site.label ++ lit " is missing operationId"⟩
      let method ← normalizeMethod site.method
      .ok
        { operation := { operationId, method, path := site.path, contract }
          pathItem := site.pathItem
          rawOperation := operation }
    | _ => .error ⟨lit "OpenAPI operation " ++ site.label ++ lit " is missing operationId"⟩
  | _ => .error ⟨lit "OpenAPI operation " ++ site.label ++ lit " must be an object"⟩

/-- The error about an operation id met again. -/
def duplicateOperation (unicode : Unicode) (previous entry : OpenApiOperationEntry) : ValueError :=
  ⟨lit "duplicate OpenAPI operationId " ++ reprText unicode entry.operation.operationId ++ lit ": " ++
    previous.operation.method.text ++ lit " " ++ previous.operation.path ++ lit " and " ++
    entry.operation.method.text ++ lit " " ++ entry.operation.path⟩

variable (unicode : Unicode)

/-- `_validated_operation_entries`. -/
def validatedOperationEntries (doc : OpenApiDocument) (contract : OpenApiContractKey) :
    Except ValueError (List OpenApiOperationEntry) := do
  let paths ← requiredMapping doc.entries (lit "paths") (lit "OpenAPI document")
  collect (readOperation contract) (fun entry => entry.operation.operationId)
    (duplicateOperation unicode) .ok [] (operationSites paths)

/-- `iter_operations`, iterated to its end. -/
def iterOperations (doc : OpenApiDocument) (contract : OpenApiContractKey) :
    Except ValueError (List OpenApiOperation) := do
  let entries ← validatedOperationEntries unicode doc contract
  .ok (entries.map OpenApiOperationEntry.operation)

/-! ## What a document declares -/

/-- The method a key of a path item stands for. -/
def HttpMethod.key : HttpMethod → Text
  | .get => lit "get"
  | .post => lit "post"
  | .put => lit "put"
  | .patch => lit "patch"
  | .delete => lit "delete"

/-- **The document has, at `path` and `method`, the raw operation `operation` in `item`.** -/
structure OpenApiDocument.HasOperation (doc : OpenApiDocument) (path : Text) (method : HttpMethod)
    (item operation : Entries) : Prop where
  exists_paths : ∃ paths, doc.entries.lookup (lit "paths") = some (.dict paths) ∧
    (path, .dict item) ∈ paths
  mem_item : (method.key, .dict operation) ∈ item

/-- **The document has an operation `id` at `path` and `method`.** -/
def OpenApiDocument.Declares (doc : OpenApiDocument) (id : Text) (method : HttpMethod)
    (path : Text) : Prop :=
  ∃ item operation, doc.HasOperation path method item operation ∧
    operation.lookup (lit "operationId") = some (.str id)

/-- The id an operation place gives, if it gives one. -/
def OperationSite.id? (site : OperationSite) : Option Text :=
  match site.rawOperation with
  | .dict operation =>
    match operation.lookup (lit "operationId") with
    | some (.str id) => some id
    | _ => none
  | _ => none

theorem mem_httpMethods {key : Text} : key ∈ httpMethods ↔ ∃ method : HttpMethod, key = method.key := by
  constructor
  · intro h
    simp only [httpMethods, List.mem_cons, List.not_mem_nil, or_false] at h
    rcases h with rfl | rfl | rfl | rfl | rfl
    exacts [⟨.get, rfl⟩, ⟨.post, rfl⟩, ⟨.put, rfl⟩, ⟨.patch, rfl⟩, ⟨.delete, rfl⟩]
  · rintro ⟨method, rfl⟩
    cases method <;> simp [httpMethods, HttpMethod.key]

@[simp] theorem normalizeMethod_key (method : HttpMethod) :
    normalizeMethod method.key = .ok method := by
  cases method <;> decide

theorem mem_operationSites {paths : Entries} {site : OperationSite} :
    site ∈ operationSites paths ↔ (site.path, .dict site.pathItem) ∈ paths ∧
      (site.method, site.rawOperation) ∈ site.pathItem ∧ site.method ∈ httpMethods := by
  rw [operationSites, List.mem_flatMap]
  constructor
  · rintro ⟨⟨path, item⟩, he, hsite⟩
    cases item with
    | dict item =>
      obtain ⟨e, hmem, hsome⟩ := List.mem_filterMap.mp hsite
      split at hsome
      · rename_i hmethod
        cases hsome
        exact ⟨he, hmem, hmethod⟩
      · cases hsome
    | _ => exact absurd hsite List.not_mem_nil
  · rintro ⟨hpath, hmem, hmethod⟩
    exact ⟨_, hpath, List.mem_filterMap.mpr ⟨_, hmem, by rw [if_pos hmethod]⟩⟩

/-- A place of a document's traversal, as an operation of the document. -/
theorem hasOperation_iff {doc : OpenApiDocument} {path : Text} {method : HttpMethod}
    {item operation : Entries} :
    doc.HasOperation path method item operation ↔
      ∃ paths, doc.entries.lookup (lit "paths") = some (.dict paths) ∧
        (⟨path, item, method.key, .dict operation⟩ : OperationSite) ∈ operationSites paths := by
  constructor
  · rintro ⟨⟨paths, hpaths, hpath⟩, hmem⟩
    exact ⟨paths, hpaths, mem_operationSites.mpr ⟨hpath, hmem, mem_httpMethods.mpr ⟨method, rfl⟩⟩⟩
  · rintro ⟨paths, hpaths, hsite⟩
    obtain ⟨hpath, hmem, -⟩ := mem_operationSites.mp hsite
    exact ⟨⟨paths, hpaths, hpath⟩, hmem⟩

/-- The place of an operation in the traversal. -/
theorem OpenApiDocument.HasOperation.site {doc : OpenApiDocument} {path : Text} {method : HttpMethod}
    {item operation paths : Entries} (h : doc.HasOperation path method item operation)
    (hpaths : doc.entries.lookup (lit "paths") = some (.dict paths)) :
    (⟨path, item, method.key, .dict operation⟩ : OperationSite) ∈ operationSites paths := by
  obtain ⟨paths', hpaths', hsite⟩ := hasOperation_iff.mp h
  rw [hpaths, Option.some.injEq, Json.dict.injEq] at hpaths'
  rwa [hpaths']

/-- What is read at a place is an operation of the document. -/
theorem hasOperation_of_site {doc : OpenApiDocument} {paths operation : Entries}
    {site : OperationSite} {method : HttpMethod}
    (hpaths : doc.entries.lookup (lit "paths") = some (.dict paths))
    (hsite : site ∈ operationSites paths) (hraw : site.rawOperation = .dict operation)
    (hmethod : normalizeMethod site.method = .ok method) :
    doc.HasOperation site.path method site.pathItem operation := by
  obtain ⟨method', hkey⟩ := mem_httpMethods.mp (mem_operationSites.mp hsite).2.2
  rw [hkey, normalizeMethod_key, Except.ok.injEq] at hmethod
  subst hmethod
  obtain ⟨path, item, key, rawOperation⟩ := site
  obtain rfl : key = method'.key := hkey
  obtain rfl : rawOperation = .dict operation := hraw
  exact hasOperation_iff.mpr ⟨paths, hpaths, hsite⟩

theorem OperationSite.id?_eq_some {site : OperationSite} {id : Text} :
    site.id? = some id ↔ ∃ operation, site.rawOperation = .dict operation ∧
      operation.lookup (lit "operationId") = some (.str id) := by
  unfold OperationSite.id?
  cases site.rawOperation with
  | dict operation => cases h : operation.lookup (lit "operationId") with
    | none => simp [h]
    | some x => cases x <;> simp [h]
  | _ => simp

theorem requiredMapping_eq_ok {parent : Entries} {key context : Text} {value : Entries} :
    requiredMapping parent key context = .ok value ↔ parent.lookup key = some (.dict value) := by
  unfold requiredMapping
  cases parent.lookup key with
  | none => simp
  | some x => cases x <;> simp

/-- **Reading one operation.** -/
theorem readOperation_eq_ok {contract : OpenApiContractKey} {site : OperationSite}
    {entry : OpenApiOperationEntry} :
    readOperation contract site = .ok entry ↔
      ∃ operation id method, site.rawOperation = .dict operation ∧
        operation.lookup (lit "operationId") = some (.str id) ∧ strip id ≠ [] ∧
        normalizeMethod site.method = .ok method ∧
        entry = ⟨⟨id, method, site.path, contract⟩, site.pathItem, operation⟩ := by
  unfold readOperation
  cases site.rawOperation with
  | dict operation =>
    cases hid : operation.lookup (lit "operationId") with
    | none => simp [hid]
    | some x =>
      cases x with
      | str id =>
        simp only [hid, bind_eq_ok_iff, raiseWhen_eq_ok, Except.ok.injEq, Json.dict.injEq]
        constructor
        · rintro ⟨-, hstrip, method, hmethod, rfl⟩
          exact ⟨operation, id, method, rfl, hid, hstrip, hmethod, rfl⟩
        · rintro ⟨_, id', method, rfl, hid', hstrip, hmethod, rfl⟩
          rw [hid, Option.some.injEq, Json.str.injEq] at hid'
          subst hid'
          exact ⟨(), hstrip, method, hmethod, rfl⟩
      | _ => simp [hid]
  | _ => simp

/-- **A traversal of the document's operations runs through** if it accepts the ids `valid`
describes: `paths` is an object, each operation is an object with such an id, and no id repeats. -/
def OpenApiDocument.Readable (doc : OpenApiDocument) (valid : Text → Prop) : Prop :=
  ∃ paths, doc.entries.lookup (lit "paths") = some (.dict paths) ∧
    (∀ site ∈ operationSites paths, ∃ id, site.id? = some id ∧ valid id) ∧
    ((operationSites paths).map OperationSite.id?).Nodup

/-- Each operation of such a document has such an id. -/
theorem OpenApiDocument.Readable.valid {doc : OpenApiDocument} {valid : Text → Prop}
    (h : doc.Readable valid) {path id : Text} {method : HttpMethod} {item operation : Entries}
    (hhas : doc.HasOperation path method item operation)
    (hid : operation.lookup (lit "operationId") = some (.str id)) : valid id := by
  obtain ⟨paths, hpaths, hall, -⟩ := h
  obtain ⟨id', hid', hvalid⟩ := hall _ (hhas.site hpaths)
  rw [OperationSite.id?_eq_some.mpr ⟨operation, rfl, hid⟩, Option.some.injEq] at hid'
  rwa [hid']

variable {unicode} {doc : OpenApiDocument} {contract : OpenApiContractKey}

theorem iterOperations_eq_ok_iff {operations : List OpenApiOperation} :
    iterOperations unicode doc contract = .ok operations ↔
      ∃ paths entries, doc.entries.lookup (lit "paths") = some (.dict paths) ∧
        collect (readOperation contract) (fun entry => entry.operation.operationId)
          (duplicateOperation unicode) .ok [] (operationSites paths) = .ok entries ∧
        operations = entries.map OpenApiOperationEntry.operation := by
  simp only [iterOperations, validatedOperationEntries, bind_eq_ok_iff, requiredMapping_eq_ok,
    Except.ok.injEq]
  constructor
  · rintro ⟨entries, ⟨paths, hpaths, hentries⟩, rfl⟩
    exact ⟨paths, entries, hpaths, hentries, rfl⟩
  · rintro ⟨paths, entries, hpaths, hentries, rfl⟩
    exact ⟨entries, ⟨paths, hpaths, hentries⟩, rfl⟩

/-- **When `iter_operations` runs through**: the ids have more than whitespace. -/
theorem iterOperations_returns_iff :
    (∃ operations, iterOperations unicode doc contract = .ok operations) ↔
      doc.Readable fun id => strip id ≠ [] := by
  have hread : ∀ site entry, readOperation contract site = .ok entry →
      site.id? = some entry.operation.operationId := by
    intro site entry h
    obtain ⟨operation, id, method, hraw, hid, -, -, rfl⟩ := readOperation_eq_ok.mp h
    exact OperationSite.id?_eq_some.mpr ⟨operation, hraw, hid⟩
  constructor
  · rintro ⟨operations, h⟩
    obtain ⟨paths, entries, hpaths, hentries, -⟩ := iterOperations_eq_ok_iff.mp h
    obtain ⟨hall, hnodup⟩ := (collect_returns_iff hread).mp ⟨entries, hentries⟩
    refine ⟨paths, hpaths, fun site hsite => ?_, hnodup⟩
    obtain ⟨entry, -, hentry, -⟩ := hall site hsite
    obtain ⟨operation, id, method, hraw, hid, hstrip, -, -⟩ := readOperation_eq_ok.mp hentry
    exact ⟨id, OperationSite.id?_eq_some.mpr ⟨operation, hraw, hid⟩, hstrip⟩
  · rintro ⟨paths, hpaths, hall, hnodup⟩
    have hsites : ∀ site ∈ operationSites paths, ∃ entry done,
        readOperation contract site = .ok entry ∧ Except.ok (ε := ValueError) entry = .ok done := by
      intro site hsite
      obtain ⟨id, hid, hstrip⟩ := hall site hsite
      obtain ⟨operation, hraw, hid⟩ := OperationSite.id?_eq_some.mp hid
      obtain ⟨method, hmethod⟩ := mem_httpMethods.mp (mem_operationSites.mp hsite).2.2
      exact ⟨_, _, readOperation_eq_ok.mpr ⟨operation, id, method, hraw, hid, hstrip,
        hmethod ▸ normalizeMethod_key method, rfl⟩, rfl⟩
    have hreturns : ∃ entries, collect (readOperation contract)
        (fun entry => entry.operation.operationId) (duplicateOperation unicode) .ok []
        (operationSites paths) = .ok entries :=
      (collect_returns_iff hread).mpr ⟨hsites, hnodup⟩
    obtain ⟨entries, hentries⟩ := hreturns
    exact ⟨_, iterOperations_eq_ok_iff.mpr ⟨paths, entries, hpaths, hentries, rfl⟩⟩

/-- No two of the operations have one id. -/
theorem iterOperations_ids {operations : List OpenApiOperation}
    (h : iterOperations unicode doc contract = .ok operations) :
    (operations.map OpenApiOperation.operationId).Nodup := by
  obtain ⟨paths, entries, -, hentries, rfl⟩ := iterOperations_eq_ok_iff.mp h
  rw [List.map_map]
  exact nodup_of_collect hentries

/-- **What `iter_operations` yields**: what the document declares. -/
theorem mem_iterOperations {operations : List OpenApiOperation}
    (h : iterOperations unicode doc contract = .ok operations) {operation : OpenApiOperation} :
    operation ∈ operations ↔
      doc.Declares operation.operationId operation.method operation.path ∧
        operation.contract = contract := by
  obtain ⟨paths, entries, hpaths, hentries, rfl⟩ := iterOperations_eq_ok_iff.mp h
  rw [List.mem_map]
  constructor
  · rintro ⟨entry, hentry, rfl⟩
    obtain ⟨site, hsite, entry', hread, hok⟩ := (mem_collect_iff hentries).mp hentry
    cases hok
    obtain ⟨raw, id, method, hraw, hid, -, hmethod, rfl⟩ := readOperation_eq_ok.mp hread
    exact ⟨⟨_, raw, hasOperation_of_site hpaths hsite hraw hmethod, hid⟩, rfl⟩
  · rintro ⟨⟨item, raw, hhas, hid⟩, rfl⟩
    have hstrip : strip operation.operationId ≠ [] :=
      (iterOperations_returns_iff.mp ⟨_, h⟩).valid hhas hid
    exact ⟨_, (mem_collect_iff hentries).mpr ⟨_, hhas.site hpaths, _, readOperation_eq_ok.mpr
      ⟨raw, _, operation.method, rfl, hid, hstrip, normalizeMethod_key _, rfl⟩, rfl⟩, rfl⟩

end ApiTests.OpenApi
