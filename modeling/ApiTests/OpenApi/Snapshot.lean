import ApiTests.Dependencies.Bootstrap
import ApiTests.OpenApi.DriftExact
import ApiTests.Py.JsonRead
import ApiTests.Py.JsonSorted

/-!
# The OpenAPI snapshot (`openapi.py:84-113`)

Model of `load_snapshot` and `fetch_live_openapi`, `json.loads` being the reader of `JsonReader` over
a parameter for its numbers; the YAML reader is a parameter. A snapshot that is written with sorted
keys is another document than the fetched one: `sorted` is that document.

Results:
* `mem_operationSites_sorted`, `perm_operationSites_sorted`: the traversals visit its operations in
  another order.
* **`iterOperations_sorted`**: `iter_operations` yields the same operations, in some order.
* **`compare_sorted_left`**, **`compare_sorted_right`**: the drift check finds the same differences,
  in the same order, on either side.
-/

namespace ApiTests.OpenApi

open Py

/-! ## Reading a document -/

/-- The response to the OpenAPI request, as far as it is read. -/
structure LiveResponse where
  statusCode : Nat
  /-- The content as `json.loads` decodes it, `none` for its `UnicodeDecodeError`. -/
  text : Option Text

/-- What the readers of documents raise. -/
inductive SnapshotError where
  | fileNotFound
  | unicodeDecode
  | json (e : JsonError)
  | yaml
  | value (e : ValueError)
  deriving Repr, DecidableEq

/-- `if not isinstance(raw_document, dict): raise ValueError(...)`. -/
def requireObject (message : Text) : JsonValue PyNumber → Except SnapshotError OpenApiDocument
  | ⟨.dict entries, h⟩ => .ok ⟨entries, h⟩
  | _ => .error (.value ⟨message⟩)

section

variable (numbers : JsonNumbers PyNumber)

def loadsDocument (text : Option Text) : Except SnapshotError (JsonValue PyNumber) :=
  match text with
  | none => .error .unicodeDecode
  | some text =>
    match loadsValue numbers text with
    | .error e => .error (.json e)
    | .ok value => .ok value

/-- `fetch_live_openapi`, from the response on. -/
def fetchLiveOpenapi (openapiPath : Text) (response : LiveResponse) :
    Except SnapshotError OpenApiDocument :=
  if response.statusCode ≠ 200 then
    .error (.value ⟨lit "failed to fetch OpenAPI document from " ++ openapiPath ++ lit ": HTTP " ++
      lit (toString response.statusCode)⟩)
  else do
    let rawDocument ← loadsDocument numbers response.text
    requireObject (lit "OpenAPI response must contain a JSON object: " ++ openapiPath) rawDocument

/-- `Path(path).name`. -/
def pathName (path : Text) : Text :=
  ((path.splitOn 47).filter fun part => part ≠ [] ∧ part ≠ [46]).getLast?.getD []

/-- `Path(path).suffix`. -/
def pathSuffix (path : Text) : Text :=
  let name := pathName path
  let extension := (name.reverse.takeWhile (· ≠ 46)).reverse
  if 46 ∈ name ∧ extension ≠ [] ∧ extension.length + 1 < name.length then 46 :: extension else []

/-- `load_snapshot` of a file with the given content. -/
def loadSnapshot (safeLoad : Text → Option (JsonValue PyNumber)) (path : Text)
    (file : Option (List Nat)) : Except SnapshotError OpenApiDocument :=
  match file with
  | none => .error .fileNotFound
  | some content => do
    let text := (Dependencies.decodeUtf8 content).map universalNewlines
    let suffix := (pathSuffix path).map lowerAscii
    let rawDocument ←
      if suffix = lit ".json" then loadsDocument numbers text
      else if suffix = lit ".yaml" ∨ suffix = lit ".yml" then
        match text with
        | none => .error .unicodeDecode
        | some text =>
          match safeLoad text with
          | none => .error .yaml
          | some value => .ok value
      else .error (.value ⟨lit "OpenAPI snapshot must be JSON or YAML: " ++ path⟩)
    requireObject (lit "OpenAPI snapshot must contain an object: " ++ path) rawDocument

end

theorem requireObject_eq_ok {message : Text} {value : JsonValue PyNumber} {doc : OpenApiDocument} :
    requireObject message value = .ok doc ↔ value.json = .dict doc.entries := by
  obtain ⟨json, h⟩ := value
  obtain ⟨entries, h'⟩ := doc
  cases json <;> simp [requireObject]

/-! ## The sorted document -/

/-- The document as it reads back from a file written with sorted keys. -/
def OpenApiDocument.sorted (doc : OpenApiDocument) : OpenApiDocument where
  entries := sortEntries doc.entries
  keysDistinct := sortKeys_dict_eq doc.entries ▸ keysDistinct_sortKeys doc.keysDistinct

variable {doc baseline live : OpenApiDocument}

theorem nodup_keys {entries : Entries} (h : (Json.dict entries).KeysDistinct) :
    (entries.map Prod.fst).Nodup := (Json.keysDistinct_dict_iff.mp h).1

/-- The object under a key, in the sorted document. -/
theorem lookup_sorted_dict {entries : Entries} (h : (Json.dict entries).KeysDistinct) {key : Text}
    {value' : Entries} : (sortEntries entries).lookup key = some (.dict value') ↔
      ∃ value, entries.lookup key = some (.dict value) ∧ value' = sortEntries value := by
  rw [lookup_sortKeys (nodup_keys h), Option.map_eq_some_iff]
  constructor
  · rintro ⟨x, hx, heq⟩
    cases x with
    | dict value =>
      rw [sortKeys_dict_eq, Json.dict.injEq] at heq
      exact ⟨value, hx, heq.symm⟩
    | _ => cases heq
  · rintro ⟨value, hvalue, rfl⟩
    exact ⟨_, hvalue, sortKeys_dict_eq value⟩

/-- The text under a key, in the sorted document. -/
theorem lookup_sorted_str {entries : Entries} (h : (Json.dict entries).KeysDistinct) {key text : Text} :
    (sortEntries entries).lookup key = some (.str text) ↔ entries.lookup key = some (.str text) := by
  rw [lookup_sortKeys (nodup_keys h), Option.map_eq_some_iff]
  constructor
  · rintro ⟨x, hx, heq⟩
    cases x with
    | str text' =>
      cases heq
      exact hx
    | _ => cases heq
  · exact fun htext => ⟨_, htext, rfl⟩

/-- The place in the sorted document. -/
def OperationSite.sorted (site : OperationSite) : OperationSite where
  path := site.path
  pathItem := sortEntries site.pathItem
  method := site.method
  rawOperation := site.rawOperation.sortKeys

/-- The places of one path item, sorted. -/
theorem perm_sitesOf_sorted (path : Text) (item : Json PyNumber) :
    (sitesOf path item.sortKeys).Perm ((sitesOf path item).map OperationSite.sorted) := by
  cases item with
  | dict item =>
    rw [sortKeys_dict_eq]
    simp only [sitesOf, List.map_filterMap]
    have hread : (sortEntries item).filterMap (fun e =>
        if e.1 ∈ httpMethods then some (⟨path, sortEntries item, e.1, e.2⟩ : OperationSite) else none) =
        (sortByKey item).filterMap fun e => (if e.1 ∈ httpMethods then
          some (⟨path, item, e.1, e.2⟩ : OperationSite) else none).map OperationSite.sorted := by
      rw [sortEntries, List.filterMap_map]
      refine List.filterMap_congr fun e _ => ?_
      simp only [Function.comp_apply]
      split <;> rfl
    rw [hread]
    exact (List.perm_insertionSort _ item).filterMap _
  | _ => exact List.Perm.refl _

/-- **The traversals visit the same places**, in some order. -/
theorem perm_operationSites_sorted (paths : Entries) :
    (operationSites (sortEntries paths)).Perm ((operationSites paths).map OperationSite.sorted) := by
  have hread : operationSites (sortEntries paths) =
      (sortByKey paths).flatMap fun e => sitesOf e.1 e.2.sortKeys := by
    rw [operationSites, sortEntries, List.flatMap_map]
  rw [hread, operationSites, List.map_flatMap]
  exact ((List.perm_insertionSort _ paths).flatMap_right _).trans
    (List.Perm.flatMap_left _ fun e _ => perm_sitesOf_sorted e.1 e.2)

theorem mem_operationSites_sorted {paths : Entries} {site' : OperationSite} :
    site' ∈ operationSites (sortEntries paths) ↔
      ∃ site ∈ operationSites paths, site' = site.sorted := by
  rw [(perm_operationSites_sorted paths).mem_iff, List.mem_map]
  exact ⟨fun ⟨site, h, heq⟩ => ⟨site, h, heq.symm⟩, fun ⟨site, h, heq⟩ => ⟨site, h, heq.symm⟩⟩

/-- What stands in a document has distinct keys. -/
theorem keysDistinct_paths {paths : Entries}
    (hpaths : doc.entries.lookup (lit "paths") = some (.dict paths)) : (Json.dict paths).KeysDistinct :=
  keysDistinct_lookup doc.keysDistinct hpaths

theorem keysDistinct_site {paths : Entries} (hpaths : (Json.dict paths).KeysDistinct)
    {site : OperationSite} (hsite : site ∈ operationSites paths) :
    (Json.dict site.pathItem).KeysDistinct ∧ site.rawOperation.KeysDistinct := by
  obtain ⟨hpath, hmem, -⟩ := mem_operationSites.mp hsite
  have hitem := (Json.keysDistinct_dict_iff.mp hpaths).2 _ hpath
  exact ⟨hitem, (Json.keysDistinct_dict_iff.mp hitem).2 _ hmem⟩

/-- The id at a place is the same in the sorted document. -/
theorem id?_sorted {site : OperationSite} (h : site.rawOperation.KeysDistinct) :
    site.sorted.id? = site.id? := by
  refine Option.ext fun id => ?_
  rw [OperationSite.id?_eq_some, OperationSite.id?_eq_some]
  constructor
  · rintro ⟨operation', hraw', hid⟩
    change site.rawOperation.sortKeys = .dict operation' at hraw'
    cases hraw : site.rawOperation with
    | dict operation =>
      rw [hraw, sortKeys_dict_eq, Json.dict.injEq] at hraw'
      subst hraw'
      exact ⟨operation, rfl, (lookup_sorted_str (hraw ▸ h)).mp hid⟩
    | _ =>
      rw [hraw] at hraw'
      cases hraw'
  · rintro ⟨operation, hraw, hid⟩
    refine ⟨sortEntries operation, ?_, (lookup_sorted_str (hraw ▸ h)).mpr hid⟩
    change site.rawOperation.sortKeys = _
    rw [hraw, sortKeys_dict_eq]

theorem map_id?_sorted {paths : Entries} (hpaths : (Json.dict paths).KeysDistinct) :
    ((operationSites (sortEntries paths)).map OperationSite.id?).Perm
      ((operationSites paths).map OperationSite.id?) := by
  refine ((perm_operationSites_sorted paths).map _).trans ?_
  rw [List.map_map]
  refine List.Perm.of_eq (List.map_congr_left fun site hsite => ?_)
  exact id?_sorted (keysDistinct_site hpaths hsite).2

/-- **The sorted document is readable where the document is.** -/
theorem readable_sorted {valid : Text → Prop} : doc.sorted.Readable valid ↔ doc.Readable valid := by
  constructor
  · rintro ⟨paths', hpaths', hall, hnodup⟩
    obtain ⟨paths, hpaths, rfl⟩ := (lookup_sorted_dict doc.keysDistinct).mp hpaths'
    have hdistinct := keysDistinct_paths hpaths
    refine ⟨paths, hpaths, fun site hsite => ?_, (map_id?_sorted hdistinct).nodup_iff.mp hnodup⟩
    obtain ⟨id, hid, hvalid⟩ := hall site.sorted (mem_operationSites_sorted.mpr ⟨site, hsite, rfl⟩)
    exact ⟨id, (id?_sorted (keysDistinct_site hdistinct hsite).2) ▸ hid, hvalid⟩
  · rintro ⟨paths, hpaths, hall, hnodup⟩
    have hdistinct := keysDistinct_paths hpaths
    refine ⟨sortEntries paths, (lookup_sorted_dict doc.keysDistinct).mpr ⟨paths, hpaths, rfl⟩, ?_,
      (map_id?_sorted hdistinct).nodup_iff.mpr hnodup⟩
    intro site' hsite'
    obtain ⟨site, hsite, rfl⟩ := mem_operationSites_sorted.mp hsite'
    obtain ⟨id, hid, hvalid⟩ := hall site hsite
    exact ⟨id, (id?_sorted (keysDistinct_site hdistinct hsite).2).trans hid, hvalid⟩

/-- **The operations of the sorted document.** -/
theorem hasOperation_sorted {path : Text} {method : HttpMethod} {item' operation' : Entries} :
    doc.sorted.HasOperation path method item' operation' ↔
      ∃ item operation, doc.HasOperation path method item operation ∧ item' = sortEntries item ∧
        operation' = sortEntries operation := by
  rw [hasOperation_iff]
  constructor
  · rintro ⟨paths', hpaths', hsite'⟩
    obtain ⟨paths, hpaths, rfl⟩ := (lookup_sorted_dict doc.keysDistinct).mp hpaths'
    obtain ⟨⟨path₀, item, key, raw⟩, hsite, heq⟩ := mem_operationSites_sorted.mp hsite'
    simp only [OperationSite.sorted, OperationSite.mk.injEq] at heq
    obtain ⟨rfl, rfl, rfl, hraw⟩ := heq
    cases raw with
    | dict operation =>
      rw [sortKeys_dict_eq, Json.dict.injEq] at hraw
      exact ⟨item, operation, hasOperation_iff.mpr ⟨paths, hpaths, hsite⟩, rfl, hraw⟩
    | _ => cases hraw
  · rintro ⟨item, operation, h, rfl, rfl⟩
    obtain ⟨paths, hpaths, hsite⟩ := hasOperation_iff.mp h
    refine ⟨sortEntries paths, (lookup_sorted_dict doc.keysDistinct).mpr ⟨paths, hpaths, rfl⟩,
      mem_operationSites_sorted.mpr ⟨_, hsite, ?_⟩⟩
    simp only [OperationSite.sorted, sortKeys_dict_eq]

theorem declares_sorted {id : Text} {method : HttpMethod} {path : Text} :
    doc.sorted.Declares id method path ↔ doc.Declares id method path := by
  constructor
  · rintro ⟨item', operation', hhas', hid⟩
    obtain ⟨item, operation, hhas, rfl, rfl⟩ := hasOperation_sorted.mp hhas'
    exact ⟨item, operation, hhas, (lookup_sorted_str (HasOperation.keysDistinct hhas).2).mp hid⟩
  · rintro ⟨item, operation, hhas, hid⟩
    exact ⟨_, _, hasOperation_sorted.mpr ⟨item, operation, hhas, rfl, rfl⟩,
      (lookup_sorted_str (HasOperation.keysDistinct hhas).2).mpr hid⟩

/-- **`iter_operations` yields the same operations** of the sorted document, in some order. -/
theorem iterOperations_sorted {unicode : Unicode} {contract : OpenApiContractKey}
    {operations operations' : List OpenApiOperation}
    (h : iterOperations unicode doc contract = .ok operations)
    (h' : iterOperations unicode doc.sorted contract = .ok operations') :
    operations'.Perm operations := by
  have hnodup : ∀ {l : List OpenApiOperation}, (l.map OpenApiOperation.operationId).Nodup → l.Nodup :=
    fun hl => List.Nodup.of_map _ hl
  refine (List.perm_ext_iff_of_nodup (hnodup (iterOperations_ids h')) (hnodup (iterOperations_ids h))).mpr
    fun operation => ?_
  rw [mem_iterOperations h', mem_iterOperations h, declares_sorted]

theorem iterOperations_sorted_returns {unicode : Unicode} {contract : OpenApiContractKey} :
    (∃ operations, iterOperations unicode doc.sorted contract = .ok operations) ↔
      ∃ operations, iterOperations unicode doc contract = .ok operations := by
  rw [iterOperations_returns_iff, iterOperations_returns_iff, readable_sorted]

/-! ## The drift check -/

/-- The contract of an operation of the sorted document. -/
def OperationContract.sorted (contract : OperationContract) : OperationContract :=
  { contract with
    parameters := contract.parameters.sortKeys
    requestBody := contract.requestBody.sortKeys
    responses := contract.responses.sortKeys }

theorem lookup_getD_sorted {entries : Entries} (h : (Json.dict entries).KeysDistinct) (key : Text)
    {value : Json PyNumber} (hvalue : value.sortKeys = value) :
    ((sortEntries entries).lookup key).getD value = ((entries.lookup key).getD value).sortKeys := by
  rw [lookup_sortKeys (nodup_keys h)]
  cases entries.lookup key with
  | none => exact hvalue.symm
  | some x => rfl

theorem contractOf_sorted {path : Text} {method : HttpMethod} {item operation : Entries}
    (hitem : (Json.dict item).KeysDistinct) (hoperation : (Json.dict operation).KeysDistinct) :
    contractOf path method (sortEntries item) (sortEntries operation) =
      (contractOf path method item operation).sorted := by
  have hlist : (Json.list ([] : List (Json PyNumber))).sortKeys = .list [] := rfl
  have hnull : (Json.null : Json PyNumber).sortKeys = .null := rfl
  simp only [contractOf, OperationContract.sorted, lookup_getD_sorted hitem _ hlist,
    lookup_getD_sorted hoperation _ hlist, lookup_getD_sorted hoperation _ hnull, Json.sortKeys,
    Json.sortKeysItems]

/-- **The contracts of the sorted document.** -/
theorem hasContract_sorted {id : Text} {contract' : OperationContract} :
    doc.sorted.HasContract id contract' ↔
      ∃ contract, doc.HasContract id contract ∧ contract' = contract.sorted := by
  constructor
  · rintro ⟨path, method, item', operation', hhas', hid, rfl⟩
    obtain ⟨item, operation, hhas, rfl, rfl⟩ := hasOperation_sorted.mp hhas'
    obtain ⟨hitem, hoperation⟩ := HasOperation.keysDistinct hhas
    exact ⟨_, ⟨path, method, item, operation, hhas, (lookup_sorted_str hoperation).mp hid, rfl⟩,
      contractOf_sorted hitem hoperation⟩
  · rintro ⟨_, ⟨path, method, item, operation, hhas, hid, rfl⟩, rfl⟩
    obtain ⟨hitem, hoperation⟩ := HasOperation.keysDistinct hhas
    exact ⟨path, method, _, _, hasOperation_sorted.mpr ⟨item, operation, hhas, rfl, rfl⟩,
      (lookup_sorted_str hoperation).mpr hid, (contractOf_sorted hitem hoperation).symm⟩

/-- Entries of two dicts, those of the second being made of those of the first, by key. -/
theorem sortByKey_of_made {α : Type} {f : α → α} {d d' : Dict Text α}
    (h : ∀ key x', d'.get? key = some x' ↔ ∃ x, d.get? key = some x ∧ x' = f x) :
    sortByKey d'.entries = (sortByKey d.entries).map fun e => (e.1, f e.2) := by
  have hkeys : ((d.entries.map fun e => (e.1, f e.2)).map Prod.fst).Nodup := by
    rw [List.map_map]
    exact d.nodup
  have hperm : d'.entries.Perm (d.entries.map fun e => (e.1, f e.2)) := by
    refine (List.perm_ext_iff_of_nodup (List.Nodup.of_map _ d'.nodup) (List.Nodup.of_map _ hkeys)).mpr ?_
    rintro ⟨key, x'⟩
    rw [Dict.mem_entries_iff, h, List.mem_map]
    constructor
    · rintro ⟨x, hx, rfl⟩
      exact ⟨(key, x), Dict.mem_entries_iff.mpr hx, rfl⟩
    · rintro ⟨e, he, heq⟩
      cases heq
      exact ⟨e.2, Dict.mem_entries_iff.mp he, rfl⟩
  rw [sortByKey_eq_of_perm d'.nodup hperm, ← sortByKey_map fun e : Text × α => f e.2]

theorem get?_of_made {α : Type} {f : α → α} {d d' : Dict Text α}
    (h : ∀ key x', d'.get? key = some x' ↔ ∃ x, d.get? key = some x ∧ x' = f x) (key : Text) :
    d'.get? key = (d.get? key).map f := by
  refine Option.ext fun x' => ?_
  rw [h, Option.map_eq_some_iff]
  exact ⟨fun ⟨x, hx, heq⟩ => ⟨x, hx, heq.symm⟩, fun ⟨x, hx, heq⟩ => ⟨x, hx, heq.symm⟩⟩

theorem structuralChange_congr {location : Text} {b b' l l' : Json PyNumber}
    (h : pyEq b l = true ↔ pyEq b' l' = true) :
    structuralChange location b l = structuralChange location b' l' := by
  unfold structuralChange
  by_cases hb : pyEq b l = true
  · rw [if_pos hb, if_pos (h.mp hb)]
  · rw [if_neg hb, if_neg fun hb' => hb (h.mpr hb')]

/-- The values of a contract have distinct keys. -/
def OperationContract.KeysDistinct (contract : OperationContract) : Prop :=
  contract.parameters.KeysDistinct ∧ contract.requestBody.KeysDistinct ∧
    contract.responses.KeysDistinct

section Changes

variable {id : Text} {b l : OperationContract} (hb : b.KeysDistinct) (hl : l.KeysDistinct)

include hb hl

theorem contractChanges_sorted_left : contractChanges id b.sorted l = contractChanges id b l := by
  simp only [contractChanges, OperationContract.sorted,
    structuralChange_congr (pyEq_sortKeys_left hb.1 hl.1),
    structuralChange_congr (pyEq_sortKeys_left hb.2.1 hl.2.1),
    structuralChange_congr (pyEq_sortKeys_left hb.2.2 hl.2.2)]

theorem contractChanges_sorted_right : contractChanges id b l.sorted = contractChanges id b l := by
  simp only [contractChanges, OperationContract.sorted,
    structuralChange_congr (pyEq_sortKeys_right hb.1 hl.1),
    structuralChange_congr (pyEq_sortKeys_right hb.2.1 hl.2.1),
    structuralChange_congr (pyEq_sortKeys_right hb.2.2 hl.2.2)]

end Changes

section Operations

variable {b b' l l' : Dict Text OperationContract}

/-- The differences of the operations do not depend on how the baseline's keys are ordered. -/
theorem operationDifferences_sorted_left
    (h : ∀ key x', b'.get? key = some x' ↔ ∃ x, b.get? key = some x ∧ x' = x.sorted)
    (hb : ∀ key x, b.get? key = some x → x.KeysDistinct)
    (hl : ∀ key x, l.get? key = some x → x.KeysDistinct) :
    operationDifferences b' l = operationDifferences b l := by
  simp only [operationDifferences, sortByKey_of_made h, get?_of_made h, Option.isNone_map,
    List.filter_map, List.map_map, List.flatMap_map]
  refine congrArg₂ (· ++ ·) rfl (List.flatMap_congr fun e he => ?_)
  cases hget : l.get? e.1 with
  | none => rfl
  | some operation =>
    exact contractChanges_sorted_left
      (hb e.1 e.2 (Dict.mem_entries_iff.mp (mem_sortByKey.mp he))) (hl e.1 operation hget)

theorem operationDifferences_sorted_right
    (h : ∀ key x', l'.get? key = some x' ↔ ∃ x, l.get? key = some x ∧ x' = x.sorted)
    (hb : ∀ key x, b.get? key = some x → x.KeysDistinct)
    (hl : ∀ key x, l.get? key = some x → x.KeysDistinct) :
    operationDifferences b l' = operationDifferences b l := by
  simp only [operationDifferences, sortByKey_of_made h, get?_of_made h, Option.isNone_map,
    List.filter_map, List.map_map]
  refine congrArg₂ (· ++ ·) rfl (List.flatMap_congr fun e he => ?_)
  cases hget : l.get? e.1 with
  | none => rfl
  | some operation =>
    exact contractChanges_sorted_right
      (hb e.1 e.2 (Dict.mem_entries_iff.mp (mem_sortByKey.mp he))) (hl e.1 operation hget)

end Operations

section Schemas

variable {b l : Entries} (hb : (Json.dict b).KeysDistinct) (hl : (Json.dict l).KeysDistinct)

include hb hl

theorem schemaDifferences_sorted_left : schemaDifferences (sortEntries b) l = schemaDifferences b l := by
  have hsorted : sortByKey (sortEntries b) = (sortByKey b).map fun e => (e.1, e.2.sortKeys) := by
    rw [sortEntries, sortByKey_map fun e : Text × Json PyNumber => e.2.sortKeys]
    congr 1
    exact sortByKey_eq_of_perm (nodup_sortByKey (nodup_keys hb)) (List.perm_insertionSort _ _)
  simp only [schemaDifferences, hsorted, lookup_sortKeys (nodup_keys hb), Option.isNone_map,
    List.filter_map, List.map_map, List.flatMap_map]
  refine congrArg₂ (· ++ ·) rfl (List.flatMap_congr fun e he => ?_)
  cases hget : l.lookup e.1 with
  | none => rfl
  | some schema =>
    exact structuralChange_congr (pyEq_sortKeys_left
      ((Json.keysDistinct_dict_iff.mp hb).2 e (mem_sortByKey.mp he)) (keysDistinct_lookup hl hget))

theorem schemaDifferences_sorted_right :
    schemaDifferences b (sortEntries l) = schemaDifferences b l := by
  have hsorted : sortByKey (sortEntries l) = (sortByKey l).map fun e => (e.1, e.2.sortKeys) := by
    rw [sortEntries, sortByKey_map fun e : Text × Json PyNumber => e.2.sortKeys]
    congr 1
    exact sortByKey_eq_of_perm (nodup_sortByKey (nodup_keys hl)) (List.perm_insertionSort _ _)
  simp only [schemaDifferences, hsorted, lookup_sortKeys (nodup_keys hl), Option.isNone_map,
    List.filter_map, List.map_map]
  refine congrArg₂ (· ++ ·) rfl (List.flatMap_congr fun e he => ?_)
  cases hget : l.lookup e.1 with
  | none => rfl
  | some schema =>
    exact structuralChange_congr (pyEq_sortKeys_right
      ((Json.keysDistinct_dict_iff.mp hb).2 e (mem_sortByKey.mp he)) (keysDistinct_lookup hl hget))

end Schemas

/-- The component schemas of the sorted document. -/
theorem componentSchemas_sorted :
    componentSchemas doc.sorted = (componentSchemas doc).map sortEntries := by
  have hlookup : doc.sorted.entries.lookup (lit "components") =
      (doc.entries.lookup (lit "components")).map Json.sortKeys :=
    lookup_sortKeys (nodup_keys doc.keysDistinct) _
  cases hcomponents : doc.entries.lookup (lit "components") with
  | none =>
    rw [hcomponents] at hlookup
    simp only [componentSchemas, hlookup, hcomponents, Option.map_none]
    rfl
  | some components =>
    rw [hcomponents] at hlookup
    cases components with
    | dict components =>
      have hdistinct := keysDistinct_lookup doc.keysDistinct hcomponents
      have hlookup' := lookup_sortKeys (nodup_keys hdistinct) (lit "schemas")
      rw [Option.map_some, sortKeys_dict_eq] at hlookup
      cases hschemas : components.lookup (lit "schemas") with
      | none =>
        rw [hschemas] at hlookup'
        simp only [componentSchemas, hlookup, hcomponents, hlookup', hschemas, Option.map_none]
        rfl
      | some schemas =>
        rw [hschemas] at hlookup'
        cases schemas with
        | dict schemas =>
          rw [Option.map_some, sortKeys_dict_eq] at hlookup'
          simp only [componentSchemas, hlookup, hcomponents, hlookup', hschemas]
          rfl
        | _ =>
          simp only [componentSchemas, hlookup, hcomponents, hlookup', hschemas, Option.map_some,
            Json.sortKeys]
          rfl
    | _ =>
      simp only [componentSchemas, hlookup, hcomponents, Option.map_some, Json.sortKeys]
      rfl

theorem operationContracts_sorted_returns :
    (∃ contracts, operationContracts doc.sorted = .ok contracts) ↔
      ∃ contracts, operationContracts doc = .ok contracts := by
  rw [operationContracts_returns_iff, operationContracts_returns_iff, readable_sorted]

/-- The stored contracts of the sorted document. -/
theorem made_operationContracts {contracts contracts' : Dict Text OperationContract}
    (h : operationContracts doc = .ok contracts) (h' : operationContracts doc.sorted = .ok contracts')
    (key : Text) (x' : OperationContract) :
    contracts'.get? key = some x' ↔ ∃ x, contracts.get? key = some x ∧ x' = x.sorted := by
  simp only [get?_operationContracts h', get?_operationContracts h, hasContract_sorted]

theorem keysDistinct_operationContracts {contracts : Dict Text OperationContract}
    (h : operationContracts doc = .ok contracts) (key : Text) (x : OperationContract)
    (hx : contracts.get? key = some x) : x.KeysDistinct :=
  keysDistinct_contract ((get?_operationContracts h).mp hx)

theorem keysDistinct_componentSchemas {schemas : Entries} (h : componentSchemas doc = .ok schemas) :
    (Json.dict schemas).KeysDistinct := componentSchemas_eq_ok h ▸ keysDistinct_schemas

theorem compare_eq_ok {differences : List OpenApiDifference} :
    compareOpenapiDocuments baseline live = .ok differences ↔ ∃ b l s t,
      operationContracts baseline = .ok b ∧ operationContracts live = .ok l ∧
        componentSchemas baseline = .ok s ∧ componentSchemas live = .ok t ∧
          differences = operationDifferences b l ++ schemaDifferences s t := by
  simp only [compareOpenapiDocuments, bind_eq_ok_iff, Except.ok.injEq]
  constructor
  · rintro ⟨b, hb, l, hl, s, hs, t, ht, rfl⟩
    exact ⟨b, l, s, t, hb, hl, hs, ht, rfl⟩
  · rintro ⟨b, l, s, t, hb, hl, hs, ht, rfl⟩
    exact ⟨b, hb, l, hl, s, hs, t, ht, rfl⟩

theorem componentSchemas_sorted_eq_ok {schemas' : Entries} :
    componentSchemas doc.sorted = .ok schemas' ↔
      ∃ schemas, componentSchemas doc = .ok schemas ∧ schemas' = sortEntries schemas := by
  rw [componentSchemas_sorted]
  cases componentSchemas doc <;> simp [Except.map, eq_comm]

/-- **The drift check of a document against itself** reports nothing. -/
theorem compare_self {differences : List OpenApiDifference}
    (h : compareOpenapiDocuments doc doc = .ok differences) : differences = [] := by
  have hunique : ∀ id c c', doc.HasContract id c → doc.HasContract id c' → c = c' := by
    obtain ⟨contracts, -, -, -, hcontracts, -⟩ := compare_eq_ok.mp h
    intro id c c' hc hc'
    exact Option.some.inj (((get?_operationContracts hcontracts).mpr hc).symm.trans
      ((get?_operationContracts hcontracts).mpr hc'))
  refine (compareOpenapiDocuments_eq_nil h).mpr ⟨fun _ => Iff.rfl, fun id c c' hc hc' => ?_,
    fun _ => Iff.rfl, fun name x y hx hy => ?_⟩
  · obtain rfl := hunique id c c' hc hc'
    obtain ⟨hparameters, hbody, hresponses⟩ := keysDistinct_contract hc
    exact ⟨rfl, rfl, pyEq_self hparameters, pyEq_self hbody, pyEq_self hresponses⟩
  · obtain ⟨hnodup, hvalues⟩ := Json.keysDistinct_dict_iff.mp (@keysDistinct_schemas doc)
    obtain rfl : x = y := Option.some.inj
      (((Dict.lookup_eq_some_iff_mem hnodup).mpr hx).symm.trans ((Dict.lookup_eq_some_iff_mem hnodup).mpr hy))
    exact pyEq_self (hvalues _ hx)

/-- **The drift check of the sorted baseline** reports what it reports of the baseline. -/
theorem compare_sorted_left {differences : List OpenApiDifference} :
    compareOpenapiDocuments baseline.sorted live = .ok differences ↔
      compareOpenapiDocuments baseline live = .ok differences := by
  rw [compare_eq_ok, compare_eq_ok]
  constructor
  · rintro ⟨b', l, s', t, hb', hl, hs', ht, rfl⟩
    obtain ⟨b, hb⟩ := operationContracts_sorted_returns.mp ⟨b', hb'⟩
    obtain ⟨s, hs, rfl⟩ := componentSchemas_sorted_eq_ok.mp hs'
    refine ⟨b, l, s, t, hb, hl, hs, ht, ?_⟩
    rw [operationDifferences_sorted_left (made_operationContracts hb hb')
      (keysDistinct_operationContracts hb) (keysDistinct_operationContracts hl),
      schemaDifferences_sorted_left (keysDistinct_componentSchemas hs)
        (keysDistinct_componentSchemas ht)]
  · rintro ⟨b, l, s, t, hb, hl, hs, ht, rfl⟩
    obtain ⟨b', hb'⟩ := operationContracts_sorted_returns.mpr ⟨b, hb⟩
    refine ⟨b', l, sortEntries s, t, hb', hl, componentSchemas_sorted_eq_ok.mpr ⟨s, hs, rfl⟩, ht, ?_⟩
    rw [operationDifferences_sorted_left (made_operationContracts hb hb')
      (keysDistinct_operationContracts hb) (keysDistinct_operationContracts hl),
      schemaDifferences_sorted_left (keysDistinct_componentSchemas hs)
        (keysDistinct_componentSchemas ht)]

/-- **The drift check against the sorted live document** reports what it reports against the document. -/
theorem compare_sorted_right {differences : List OpenApiDifference} :
    compareOpenapiDocuments baseline live.sorted = .ok differences ↔
      compareOpenapiDocuments baseline live = .ok differences := by
  rw [compare_eq_ok, compare_eq_ok]
  constructor
  · rintro ⟨b, l', s, t', hb, hl', hs, ht', rfl⟩
    obtain ⟨l, hl⟩ := operationContracts_sorted_returns.mp ⟨l', hl'⟩
    obtain ⟨t, ht, rfl⟩ := componentSchemas_sorted_eq_ok.mp ht'
    refine ⟨b, l, s, t, hb, hl, hs, ht, ?_⟩
    rw [operationDifferences_sorted_right (made_operationContracts hl hl')
      (keysDistinct_operationContracts hb) (keysDistinct_operationContracts hl),
      schemaDifferences_sorted_right (keysDistinct_componentSchemas hs)
        (keysDistinct_componentSchemas ht)]
  · rintro ⟨b, l, s, t, hb, hl, hs, ht, rfl⟩
    obtain ⟨l', hl'⟩ := operationContracts_sorted_returns.mpr ⟨l, hl⟩
    refine ⟨b, l', s, sortEntries t, hb, hl', hs, componentSchemas_sorted_eq_ok.mpr ⟨t, ht, rfl⟩, ?_⟩
    rw [operationDifferences_sorted_right (made_operationContracts hl hl')
      (keysDistinct_operationContracts hb) (keysDistinct_operationContracts hl),
      schemaDifferences_sorted_right (keysDistinct_componentSchemas hs)
        (keysDistinct_componentSchemas ht)]

end ApiTests.OpenApi
