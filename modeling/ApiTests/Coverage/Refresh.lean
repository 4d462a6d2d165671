import ApiTests.Coverage.OperationCoverage
import ApiTests.OpenApi.RequestCase
import ApiTests.OpenApi.Snapshot
import ApiTests.Py.JsonIntegers

/-!
# Refreshing the OpenAPI snapshot (`tools/openapi_coverage.py:236-274`)

Model of `refresh_main` from the response on, and of the two reports that `build_coverage` and
`build_forbidden_coverage` read off a document (`openapi.py:122-136, 271-273`). The snapshot is
written with sorted keys, so what is loaded from it is another document than the fetched one. A
document that is nested deeper than `json` goes raises before the file is opened.

`SameReports` says that the program's reports do not tell two documents apart.

Results:
* `coverage_sorted`, `documenting_sorted`: the reports on a document and on the sorted one.
* **`refresh_snapshot`**: a refresh returns 0 iff a document is fetched that is not nested too deep;
  one that does not leaves the snapshot; one that does leaves a file which loads as a document with
  the same reports as the fetched one.
-/

namespace ApiTests.Coverage

open Py OpenApi

/-! ## The reports on a document -/

/-- The rows of `build_coverage` for the unified contract. -/
def unifiedCoverage (unicode : Unicode) (doc : OpenApiDocument)
    (deferredAdminOperations : List DeferredAdminOperation)
    (markerCounts : Dict OperationKey MarkerCounts) (source : CoverageSource) :
    Except ValueError (List OperationCoverage) := do
  let operations ← iterOperations unicode doc .unified
  buildOperationCoverage unicode operations deferredAdminOperations markerCounts source

/-- `_documents_response`. -/
def documentsResponse (operation : Entries) (statusKey : Text) : Bool :=
  match operation.lookup (lit "responses") with
  | some (.dict responses) => (responses.lookup statusKey).isSome
  | _ => false

/-- `operations_documenting_response`. -/
def operationsDocumentingResponse (unicode : Unicode) (doc : OpenApiDocument) (status : Text)
    (contract : OpenApiContractKey) : Except ValueError (List OpenApiOperation) := do
  let entries ← validatedOperationEntries unicode doc contract
  .ok (sortBy operationSortKey ((entries.filter fun entry =>
    documentsResponse entry.rawOperation status).map OpenApiOperationEntry.operation))

/-- The rows of `build_forbidden_coverage`. -/
def forbiddenCoverage (unicode : Unicode) (doc : OpenApiDocument)
    (deferrals : List ForbiddenResponseDeferral) (markerCounts : Dict Text MarkerCounts) :
    Except ValueError (List ForbiddenResponseCoverage) := do
  let operations ← operationsDocumentingResponse unicode doc (lit "403") .unified
  buildForbiddenResponseCoverage operations deferrals markerCounts

/-- **No report tells the documents apart**: neither of the coverage reports, nor the drift check with
one or the other as its baseline or as the live document; and between them it finds nothing. -/
structure SameReports (doc doc' : OpenApiDocument) : Prop where
  coverage : ∀ unicode deferred markerCounts source rows,
    unifiedCoverage unicode doc' deferred markerCounts source = .ok rows ↔
      unifiedCoverage unicode doc deferred markerCounts source = .ok rows
  forbidden : ∀ unicode deferrals markerCounts rows,
    forbiddenCoverage unicode doc' deferrals markerCounts = .ok rows ↔
      forbiddenCoverage unicode doc deferrals markerCounts = .ok rows
  baseline : ∀ live differences, compareOpenapiDocuments doc' live = .ok differences ↔
    compareOpenapiDocuments doc live = .ok differences
  live : ∀ baseline differences, compareOpenapiDocuments baseline doc' = .ok differences ↔
    compareOpenapiDocuments baseline doc = .ok differences
  noDrift : ∀ differences, compareOpenapiDocuments doc' doc = .ok differences → differences = []

section Reports

variable {unicode : Unicode} {doc : OpenApiDocument}

theorem keyOfOperation_nodup {operations : List OpenApiOperation}
    (h : (operations.map OpenApiOperation.operationId).Nodup) :
    (operations.map keyOfOperation).Nodup := by
  rw [List.Nodup, List.pairwise_map] at h ⊢
  exact h.imp fun hne heq => hne (congrArg OperationKey.operationId heq)

/-- The validation of the inventory does not look at the order of the operations. -/
theorem validateInventory_perm {operations operations' : List OpenApiOperation}
    (hids : (operations.map OpenApiOperation.operationId).Nodup) (hperm : operations'.Perm operations)
    (deferred : List DeferredAdminOperation) (markerCounts : Dict OperationKey MarkerCounts) :
    validateInventory unicode operations' deferred markerCounts =
      validateInventory unicode operations deferred markerCounts := by
  have hkeys := keyOfOperation_nodup hids
  have hkeys' : (operations'.map keyOfOperation).Nodup := (hperm.map _).nodup_iff.mpr hkeys
  have hchecked : collect .ok keyOfOperation (duplicateOperationKey unicode) .ok [] operations =
      .ok operations := collect_keys_eq_ok.mpr ⟨rfl, hkeys, fun _ _ _ hs => absurd hs List.not_mem_nil⟩
  have hchecked' : collect .ok keyOfOperation (duplicateOperationKey unicode) .ok [] operations' =
      .ok operations' := collect_keys_eq_ok.mpr ⟨rfl, hkeys', fun _ _ _ hs => absurd hs List.not_mem_nil⟩
  have hget : ∀ key, (Dict.ofList (operations'.map fun o => (keyOfOperation o, o))).get? key =
      (Dict.ofList (operations.map fun o => (keyOfOperation o, o))).get? key := by
    intro key
    refine Option.ext fun operation => ?_
    rw [Dict.get?_keyed hkeys, Dict.get?_keyed hkeys', hperm.mem_iff]
  have hcheck : checkDeferred (Dict.ofList (operations'.map fun o => (keyOfOperation o, o))) =
      checkDeferred (Dict.ofList (operations.map fun o => (keyOfOperation o, o))) := by
    funext d
    simp only [checkDeferred, hget]
  simp only [validateInventory, hchecked, hchecked', bind, Except.bind, hget, hcheck]

theorem buildOperationCoverage_perm {operations operations' : List OpenApiOperation}
    (hids : (operations.map OpenApiOperation.operationId).Nodup) (hperm : operations'.Perm operations)
    (deferred : List DeferredAdminOperation) (markerCounts : Dict OperationKey MarkerCounts)
    (source : CoverageSource) :
    buildOperationCoverage unicode operations' deferred markerCounts source =
      buildOperationCoverage unicode operations deferred markerCounts source := by
  have hids' : (operations'.map OpenApiOperation.operationId).Nodup :=
    (hperm.map _).nodup_iff.mpr hids
  simp only [buildOperationCoverage, validateInventory_perm hids hperm,
    sortBy_eq_of_perm (sortKeys_nodup hids') hperm]

/-- **The coverage rows of the sorted document** are those of the document. -/
theorem coverage_sorted {deferred : List DeferredAdminOperation}
    {markerCounts : Dict OperationKey MarkerCounts} {source : CoverageSource}
    {rows : List OperationCoverage} :
    unifiedCoverage unicode doc.sorted deferred markerCounts source = .ok rows ↔
      unifiedCoverage unicode doc deferred markerCounts source = .ok rows := by
  simp only [unifiedCoverage, bind_eq_ok_iff]
  constructor
  · rintro ⟨operations', h', hrows⟩
    obtain ⟨operations, h⟩ := iterOperations_sorted_returns.mp ⟨operations', h'⟩
    refine ⟨operations, h, ?_⟩
    rwa [← buildOperationCoverage_perm (iterOperations_ids h) (iterOperations_sorted h h')]
  · rintro ⟨operations, h, hrows⟩
    obtain ⟨operations', h'⟩ := iterOperations_sorted_returns.mpr ⟨operations, h⟩
    refine ⟨operations', h', ?_⟩
    rwa [buildOperationCoverage_perm (iterOperations_ids h) (iterOperations_sorted h h')]

/-- Whether a response is documented does not depend on the order of keys. -/
theorem documentsResponse_sorted {operation : Entries} (h : (Json.dict operation).KeysDistinct)
    (statusKey : Text) :
    documentsResponse (sortEntries operation) statusKey = documentsResponse operation statusKey := by
  unfold documentsResponse
  rw [lookup_sortKeys (nodup_keys h)]
  cases hresponses : operation.lookup (lit "responses") with
  | none => rfl
  | some x =>
    cases x with
    | dict responses =>
      have hdistinct := nodup_keys (keysDistinct_lookup h hresponses)
      simp only [Option.map_some, sortKeys_dict_eq, lookup_sortKeys hdistinct, Option.isSome_map]
    | _ => rfl

/-- The operations that document a response, before they are sorted. -/
theorem mem_documenting {contract : OpenApiContractKey} {status : Text}
    {entries : List OpenApiOperationEntry}
    (h : validatedOperationEntries unicode doc contract = .ok entries) {operation : OpenApiOperation} :
    operation ∈ (entries.filter fun entry => documentsResponse entry.rawOperation status).map
        OpenApiOperationEntry.operation ↔
      operation.contract = contract ∧ ∃ item raw,
        doc.HasOperation operation.path operation.method item raw ∧
          raw.lookup (lit "operationId") = some (.str operation.operationId) ∧
            documentsResponse raw status = true := by
  obtain ⟨paths, hpaths, hcollect⟩ := bind_eq_ok_iff.mp h
  rw [requiredMapping_eq_ok] at hpaths
  have hiter : iterOperations unicode doc contract =
      .ok (entries.map OpenApiOperationEntry.operation) := by
    rw [iterOperations, h]
    rfl
  rw [List.mem_map]
  constructor
  · rintro ⟨entry, hentry, rfl⟩
    obtain ⟨hmem, hdocuments⟩ := List.mem_filter.mp hentry
    obtain ⟨hhas, hid⟩ := hasOperation_of_mem h hmem
    exact ⟨((mem_iterOperations hiter).mp (List.mem_map_of_mem hmem)).2, _, _, hhas, hid, hdocuments⟩
  · rintro ⟨rfl, item, raw, hhas, hid, hdocuments⟩
    have hstrip : strip operation.operationId ≠ [] :=
      (iterOperations_returns_iff.mp ⟨_, hiter⟩).valid hhas hid
    refine ⟨_, List.mem_filter.mpr ⟨(mem_collect_iff hcollect).mpr ⟨_, hhas.site hpaths, _,
      readOperation_eq_ok.mpr ⟨raw, _, operation.method, rfl, hid, hstrip, normalizeMethod_key _, rfl⟩,
      rfl⟩, hdocuments⟩, rfl⟩

theorem validatedOperationEntries_returns_iff {contract : OpenApiContractKey} :
    (∃ entries, validatedOperationEntries unicode doc contract = .ok entries) ↔
      ∃ operations, iterOperations unicode doc contract = .ok operations := by
  simp only [iterOperations, bind_eq_ok_iff, Except.ok.injEq]
  constructor
  · rintro ⟨entries, h⟩
    exact ⟨_, entries, h, rfl⟩
  · rintro ⟨_, entries, h, -⟩
    exact ⟨entries, h⟩

/-- The documenting operations have distinct ids. -/
theorem documenting_ids {contract : OpenApiContractKey} {status : Text}
    {entries : List OpenApiOperationEntry}
    (h : validatedOperationEntries unicode doc contract = .ok entries) :
    (((entries.filter fun entry => documentsResponse entry.rawOperation status).map
      OpenApiOperationEntry.operation).map OpenApiOperation.operationId).Nodup := by
  have hiter : iterOperations unicode doc contract =
      .ok (entries.map OpenApiOperationEntry.operation) := by
    rw [iterOperations, h]
    rfl
  exact (iterOperations_ids hiter).sublist ((List.filter_sublist.map _).map _)

/-- **The operations that document a response** in the sorted document are those of the document, in
the same order. -/
theorem documenting_sorted {contract : OpenApiContractKey} {status : Text}
    {operations : List OpenApiOperation} :
    operationsDocumentingResponse unicode doc.sorted status contract = .ok operations ↔
      operationsDocumentingResponse unicode doc status contract = .ok operations := by
  have hsame : ∀ {entries entries' : List OpenApiOperationEntry},
      validatedOperationEntries unicode doc contract = .ok entries →
      validatedOperationEntries unicode doc.sorted contract = .ok entries' →
      sortBy operationSortKey ((entries'.filter fun entry =>
          documentsResponse entry.rawOperation status).map OpenApiOperationEntry.operation) =
        sortBy operationSortKey ((entries.filter fun entry =>
          documentsResponse entry.rawOperation status).map OpenApiOperationEntry.operation) := by
    intro entries entries' h h'
    refine sortBy_eq_of_perm (sortKeys_nodup (documenting_ids h')) ?_
    refine (List.perm_ext_iff_of_nodup (List.Nodup.of_map _ (documenting_ids h'))
      (List.Nodup.of_map _ (documenting_ids h))).mpr fun operation => ?_
    rw [mem_documenting h', mem_documenting h]
    refine and_congr_right' ⟨?_, ?_⟩
    · rintro ⟨item', raw', hhas', hid, hdocuments⟩
      obtain ⟨item, raw, hhas, rfl, rfl⟩ := hasOperation_sorted.mp hhas'
      have hraw := (HasOperation.keysDistinct hhas).2
      exact ⟨item, raw, hhas, (lookup_sorted_str hraw).mp hid,
        (documentsResponse_sorted hraw status) ▸ hdocuments⟩
    · rintro ⟨item, raw, hhas, hid, hdocuments⟩
      have hraw := (HasOperation.keysDistinct hhas).2
      exact ⟨_, _, hasOperation_sorted.mpr ⟨item, raw, hhas, rfl, rfl⟩,
        (lookup_sorted_str hraw).mpr hid, (documentsResponse_sorted hraw status).trans hdocuments⟩
  have hreturns : (∃ entries, validatedOperationEntries unicode doc.sorted contract = .ok entries) ↔
      ∃ entries, validatedOperationEntries unicode doc contract = .ok entries := by
    rw [validatedOperationEntries_returns_iff, validatedOperationEntries_returns_iff,
      iterOperations_sorted_returns]
  simp only [operationsDocumentingResponse, bind_eq_ok_iff, Except.ok.injEq]
  constructor
  · rintro ⟨entries', h', rfl⟩
    obtain ⟨entries, h⟩ := hreturns.mp ⟨entries', h'⟩
    exact ⟨entries, h, (hsame h h').symm⟩
  · rintro ⟨entries, h, rfl⟩
    obtain ⟨entries', h'⟩ := hreturns.mpr ⟨entries, h⟩
    exact ⟨entries', h', hsame h h'⟩

/-- **The reports on the sorted document** are those on the document. -/
theorem sameReports_sorted (doc : OpenApiDocument) : SameReports doc doc.sorted where
  coverage _ _ _ _ _ := coverage_sorted
  forbidden _ _ _ _ := by simp only [forbiddenCoverage, bind_eq_ok_iff, documenting_sorted]
  baseline _ _ := compare_sorted_left
  live _ _ := compare_sorted_right
  noDrift _ h := compare_self (compare_sorted_left.mp h)

end Reports

/-! ## The command -/

/-- What loading the environment, opening the client and the request raise: an exception that
`refresh_main` catches, or another one. -/
inductive RequestFailure where
  | caught
  | uncaught
  deriving Repr, DecidableEq

/-- What a refresh leaves. -/
structure Refreshed where
  /-- The exit code, `none` for an exception that is not caught. -/
  exit : Option Nat
  /-- The bytes of the snapshot file. -/
  snapshot : Option (List Nat)

section

variable (numbers : JsonNumbers PyNumber)

/-- `json.dumps(openapi_doc, indent=2, sort_keys=True) + "\\n"`. -/
def snapshotText (doc : OpenApiDocument) : Text :=
  dumpsIndented numbers.write 0 (.dict doc.entries) ++ [lf]

/-- `refresh_main`, from the response on. `jsonDepth` is how deep `json` reads and writes a document
before it raises a `RecursionError`, which is not caught. -/
def refreshMain (jsonDepth : Nat) (openapiPath : Text) (response : Except RequestFailure LiveResponse)
    (snapshot : Option (List Nat)) : Refreshed :=
  match response with
  | .error .uncaught => ⟨none, snapshot⟩
  | .error .caught => ⟨some 1, snapshot⟩
  | .ok response =>
    match fetchLiveOpenapi numbers openapiPath response with
    | .error _ => ⟨some 1, snapshot⟩
    | .ok openapiDoc =>
      if jsonDepth < (Json.dict openapiDoc.entries).depth then ⟨none, snapshot⟩ else
      -- `write_text` has emptied the file when the encoder raises.
      match encodeUtf8 (snapshotText numbers openapiDoc) with
      | none => ⟨none, some []⟩
      | some content => ⟨some 0, some content⟩

end

variable {numbers : JsonNumbers PyNumber}

/-- A text of ASCII is its own encoding, and read back as it is. -/
theorem decodeUtf8_ascii {t : Text} (ht : ∀ c ∈ t, c < 128) :
    encodeUtf8 t = some t ∧ Dependencies.decodeUtf8 t = some t := by
  have hscalar : ∀ c ∈ t, IsScalar c := by
    intro c hc
    have := ht c hc
    refine ⟨by omega, ?_⟩
    simp only [isSurrogate, Bool.and_eq_false_iff, decide_eq_false_iff_not]
    omega
  have hbytes : t.flatMap utf8Bytes = t := flatMap_utf8Bytes_of_ascii ht
  have hencode : encodeUtf8 t = some t := by
    have hnone : t.any isSurrogate = false := by
      rw [List.any_eq_false]
      intro c hc
      rw [(hscalar c hc).2]
      exact Bool.false_ne_true
    rw [encodeUtf8, hnone, hbytes]
    rfl
  have hdecode : decodeUtf8Ignore t = t := by
    have hlongest := longest_decodeUtf8Ignore hscalar t.length
    rw [hbytes, List.take_length] at hlongest
    exact hlongest.isPrefix.eq_of_length_le
      (hlongest.longest t List.prefix_rfl (by rw [hbytes])).length_le
  refine ⟨hencode, ?_⟩
  rw [Dependencies.decodeUtf8, hdecode, if_pos hencode]

theorem loadsDocument_eq_ok {text : Option Text} {value : JsonValue PyNumber} :
    loadsDocument numbers text = .ok value ↔ ∃ t, text = some t ∧ loads numbers t = .ok value.json := by
  unfold loadsDocument
  cases text with
  | none => simp
  | some t =>
    simp only [← loadsValue_eq_ok, Option.some.injEq, exists_eq_left']
    cases loadsValue numbers t <;> simp

/-- A fetched document is a response's object. -/
theorem fetchLiveOpenapi_eq_ok {openapiPath : Text} {response : LiveResponse} {doc : OpenApiDocument} :
    fetchLiveOpenapi numbers openapiPath response = .ok doc ↔ response.statusCode = 200 ∧
      ∃ t, response.text = some t ∧ loads numbers t = .ok (.dict doc.entries) := by
  unfold fetchLiveOpenapi
  split_ifs with hstatus
  · exact ⟨fun h => (nomatch h), fun h => absurd h.1 hstatus⟩
  · rw [not_not] at hstatus
    simp only [bind_eq_ok_iff, loadsDocument_eq_ok, requireObject_eq_ok, hstatus, true_and]
    constructor
    · rintro ⟨value, ⟨t, ht, hloads⟩, hobject⟩
      exact ⟨t, ht, hobject ▸ hloads⟩
    · rintro ⟨t, ht, hloads⟩
      exact ⟨⟨_, doc.keysDistinct⟩, ⟨t, ht, hloads⟩, rfl⟩

/-- A snapshot file that is an object in JSON. -/
theorem loadSnapshot_json {safeLoad : Text → Option (JsonValue PyNumber)} {path t : Text}
    (hsuffix : (pathSuffix path).map lowerAscii = lit ".json") {content : List Nat}
    (hdecode : Dependencies.decodeUtf8 content = some t) {doc : OpenApiDocument}
    (hloads : loads numbers (universalNewlines t) = .ok (.dict doc.entries)) :
    loadSnapshot numbers safeLoad path (some content) = .ok doc := by
  have hdocument : loadsDocument numbers (some (universalNewlines t)) =
      .ok ⟨.dict doc.entries, doc.keysDistinct⟩ := loadsDocument_eq_ok.mpr ⟨_, rfl, hloads⟩
  simp only [loadSnapshot, hdecode, Option.map_some, hsuffix, if_true, hdocument, bind, Except.bind]
  exact requireObject_eq_ok.mpr rfl

section Written

variable (hprinting : ∀ n, ∀ c ∈ numbers.write n, IsPrinting c) (doc : OpenApiDocument)

include hprinting

theorem mem_snapshotText : ∀ c ∈ snapshotText numbers doc, c = lf ∨ IsPrinting c := by
  intro c hc
  rcases List.mem_append.mp hc with hc | hc
  · exact mem_dumpsIndented hprinting 0 c hc
  · exact Or.inl (List.mem_singleton.mp hc)

theorem ascii_snapshotText : ∀ c ∈ snapshotText numbers doc, c < 128 := by
  intro c hc
  rcases mem_snapshotText hprinting doc c hc with rfl | hc
  · decide
  · exact lt_trans hc.2 (by decide)

theorem universalNewlines_snapshotText :
    universalNewlines (snapshotText numbers doc) = snapshotText numbers doc := by
  refine universalNewlines_of_notMem fun hcr => ?_
  rcases mem_snapshotText hprinting doc cr hcr with h | h
  · exact absurd h (by decide)
  · exact absurd h (by decide)

/-- **The written snapshot loads as the sorted document.** -/
theorem loadSnapshot_snapshotText (hdoc : (Json.dict doc.entries).Each (ReadsBack numbers) Unpaired)
    {safeLoad : Text → Option (JsonValue PyNumber)} {path : Text}
    (hsuffix : (pathSuffix path).map lowerAscii = lit ".json") :
    loadSnapshot numbers safeLoad path (some (snapshotText numbers doc)) = .ok doc.sorted := by
  refine loadSnapshot_json hsuffix (decodeUtf8_ascii (ascii_snapshotText hprinting doc)).2 ?_
  rw [universalNewlines_snapshotText hprinting]
  have hloads := loads_dumpsIndented doc.keysDistinct hdoc
    (show ∀ c ∈ [lf], isJsonSpace c = true by decide)
  rwa [sortKeys_dict_eq] at hloads

end Written

section Command

variable {jsonDepth : Nat} {openapiPath : Text} {before : Option (List Nat)}

/-- **A document is fetched** that is not nested deeper than `json` goes. -/
def Fetches (numbers : JsonNumbers PyNumber) (jsonDepth : Nat) (openapiPath : Text)
    (response : Except RequestFailure LiveResponse) (doc : OpenApiDocument) : Prop :=
  ∃ r, response = .ok r ∧ fetchLiveOpenapi numbers openapiPath r = .ok doc ∧
    (Json.dict doc.entries).depth ≤ jsonDepth

theorem Fetches.writes {response : Except RequestFailure LiveResponse} {doc : OpenApiDocument}
    (h : Fetches numbers jsonDepth openapiPath response doc)
    (hprinting : ∀ n, ∀ c ∈ numbers.write n, IsPrinting c) :
    refreshMain numbers jsonDepth openapiPath response before =
      ⟨some 0, some (snapshotText numbers doc)⟩ := by
  obtain ⟨r, rfl, hfetch, hdepth⟩ := h
  simp only [refreshMain, hfetch, if_neg (Nat.not_lt.mpr hdepth),
    (decodeUtf8_ascii (ascii_snapshotText hprinting doc)).1]

/-- Without such a document nothing is written. -/
theorem refreshMain_of_not_fetches {response : Except RequestFailure LiveResponse}
    (h : ∀ doc, ¬ Fetches numbers jsonDepth openapiPath response doc) :
    (refreshMain numbers jsonDepth openapiPath response before).exit ≠ some 0 ∧
      (refreshMain numbers jsonDepth openapiPath response before).snapshot = before := by
  cases response with
  | error e => cases e <;> simp [refreshMain]
  | ok r =>
    cases hfetch : fetchLiveOpenapi numbers openapiPath r with
    | error e => simp [refreshMain, hfetch]
    | ok doc =>
      have hdeep : jsonDepth < (Json.dict doc.entries).depth :=
        Nat.lt_of_not_le fun hdepth => h doc ⟨r, rfl, hfetch, hdepth⟩
      simp [refreshMain, hfetch, hdeep]

end Command

/-- One operation, its keys not in order, and a limit of 5. -/
def viewsDocument : OpenApiDocument where
  entries := [(lit "paths", .dict [(lit "/v1/views", .dict [(lit "get",
    .dict [(lit "operationId", .str (lit "listViews")), (lit "limit", .number (.int 5))])])]),
    (lit "openapi", .str (lit "3.1.0"))]
  keysDistinct := by simp [Json.KeysDistinct, Json.KeysDistinctEntries, lit]

/-- The response with that document. -/
def viewsResponse : LiveResponse where
  statusCode := 200
  text := some (lit "\x7b\"paths\": \x7b\"/v1/views\": \x7b\"get\": \x7b\"operationId\": \"listViews\", \"limit\": 5\x7d\x7d\x7d, \"openapi\": \"3.1.0\"\x7d")

/-- A document nested deeper than `json` goes is not written. -/
example : (refreshMain integers 3 (lit "/v3/api-docs") (.ok viewsResponse) none).exit = none := by
  decide +kernel

end ApiTests.Coverage
