import ApiTests.Coverage.Exercised
import ApiTests.Coverage.GatewayContract
import ApiTests.Coverage.Manifests
import ApiTests.Coverage.Refresh

/-!
# What the coverage gates accept

`build_coverage`, `build_forbidden_coverage` and `build_session_gateway_coverage`
(`tools/openapi_coverage.py:154-245`) check one thing after the other. `Accepted` says what the
documents, manifests and tests are when nothing has been raised and nothing is missing, in their own
terms and not in those of the rows.

Results:
* `requests_jsonResponse`: request cases are built only where every operation documents the responses
  in JSON.
* `complete_of_unified`, `complete_of_gateway`, `partition_of_forbidden`: each report, on its document.
* **`accepted_of_checks`**: all checks together.
-/

namespace ApiTests.Coverage

open Py OpenApi

/-- The rows of `build_coverage` for the gateway contract. -/
def gatewayCoverage (unicode : Unicode) (doc : OpenApiDocument)
    (markerCounts : Dict OperationKey MarkerCounts) : Except ValueError (List OperationCoverage) := do
  let operations ← iterOperations unicode doc .sessionGateway
  buildOperationCoverage unicode operations [] markerCounts .snapshot

/-! ## The operations of a document -/

section Document

variable {unicode : Unicode} {doc : OpenApiDocument} {contract : OpenApiContractKey}

/-- Every operation of a document that is read has an entry. -/
theorem exists_entry {entries : List OpenApiOperationEntry}
    (h : validatedOperationEntries unicode doc contract = .ok entries) {path : Text}
    {method : HttpMethod} {item operation : Entries}
    (hhas : doc.HasOperation path method item operation) :
    ∃ entry ∈ entries, entry.rawOperation = operation := by
  obtain ⟨paths, hpaths, hcollect⟩ := bind_eq_ok_iff.mp h
  rw [requiredMapping_eq_ok] at hpaths
  have hiter : ∃ operations, iterOperations unicode doc contract = .ok operations :=
    validatedOperationEntries_returns_iff.mp ⟨entries, h⟩
  obtain ⟨paths', hpaths', hids, -⟩ := iterOperations_returns_iff.mp hiter
  obtain rfl : paths' = paths := by simpa [hpaths] using hpaths'.symm
  obtain ⟨id, hid, hstrip⟩ := hids _ (hhas.site hpaths)
  obtain ⟨raw, hraw, hlookup⟩ := OperationSite.id?_eq_some.mp hid
  cases hraw
  exact ⟨_, (mem_collect_iff hcollect).mpr ⟨_, hhas.site hpaths, _, readOperation_eq_ok.mpr
    ⟨operation, id, method, rfl, hlookup, hstrip, normalizeMethod_key _, rfl⟩, rfl⟩, rfl⟩

end Document

/-! ## The request cases -/

/-- **The operation documents the response with a JSON schema.** -/
def JsonResponse (operation : Entries) (statusKey : Text) : Prop :=
  ∃ responses response content media schema,
    operation.lookup (lit "responses") = some (.dict responses) ∧
    responses.lookup statusKey = some (.dict response) ∧
    response.lookup (lit "content") = some (.dict content) ∧
    content.lookup (lit "application/json") = some (.dict media) ∧
    media.lookup (lit "schema") = some (.dict schema)

theorem JsonResponse.documents {operation : Entries} {statusKey : Text}
    (h : JsonResponse operation statusKey) : documentsResponse operation statusKey = true := by
  obtain ⟨responses, response, -, -, -, hresponses, hresponse, -⟩ := h
  simp only [documentsResponse, hresponses, hresponse, Option.isSome_some]

theorem jsonResponse_of_required {printer : Printer} {entry : OpenApiOperationEntry}
    {statusKey : Text} {u : Unit} (h : requireJsonResponseSchema printer entry statusKey = .ok u) :
    JsonResponse entry.rawOperation statusKey := by
  unfold requireJsonResponseSchema at h
  dsimp only at h
  split at h
  · rename_i responses hresponses
    split at h
    · cases h
    · rename_i response hresponse
      split at h
      · rename_i content hcontent
        split at h
        · rename_i media hmedia
          split at h
          · rename_i schema hschema
            exact ⟨responses, response, content, media, schema, hresponses, hresponse, hcontent,
              hmedia, hschema⟩
          · cases h
        · cases h
      · cases h
    · cases h
  · cases h

/-- **Request cases are built only where every operation documents the responses in JSON.** -/
theorem requests_jsonResponse {printer : Printer} {doc : OpenApiDocument}
    {contract : OpenApiContractKey} {statuses : List Text} {cases : List OpenApiRequestCase}
    (h : buildOperationRequestCases printer doc contract statuses = .ok cases) {path : Text}
    {method : HttpMethod} {item operation : Entries} (hhas : doc.HasOperation path method item operation)
    {status : Text} (hstatus : status ∈ statuses) : JsonResponse operation status := by
  obtain ⟨entries, hentries, h⟩ := bind_eq_ok_iff.mp h
  rw [mapError_eq_ok] at hentries
  obtain ⟨read, hread, -⟩ := bind_eq_ok_iff.mp h
  obtain ⟨entry, hmem, rfl⟩ := exists_entry hentries hhas
  obtain ⟨c, -, hcase⟩ := exists_of_forall₂ (readAll_eq_ok.mp hread) hmem
  obtain ⟨_, hchecked, -⟩ := bind_eq_ok_iff.mp hcase
  exact jsonResponse_of_required (checkAll_eq_ok.mp hchecked status (by simpa using hstatus))

/-! ## The reports -/

/-- The document of a contract. -/
def documentOf (doc gatewayDoc : OpenApiDocument) : OpenApiContractKey → OpenApiDocument
  | .unified => doc
  | .sessionGateway => gatewayDoc

/-- A decorator of some function is the given one. -/
def Decorated (modules : List (List Stmt)) (decorator : Expr) : Prop :=
  ∃ module ∈ modules, ∃ site ∈ walk module, decorator ∈ site.decorators

/-- **The documents, manifests and tests that the coverage gates accept.** -/
structure Accepted (modules : List (List Stmt)) (deferredAdmin : List DeferredAdminOperation)
    (deferrals : List ForbiddenResponseDeferral) (routes : List SessionGatewayRoute)
    (doc gatewayDoc : OpenApiDocument) : Prop where
  /-- Every operation of the unified contract is deferred as it stands, or exercised. -/
  unified : ∀ id method path, doc.Declares id method path →
    (∃ d ∈ deferredAdmin, d.operationId = id ∧ d.method = method ∧ d.path = path) ∨
      Exercised modules ⟨.unified, id⟩
  deferredAdmin : ∀ d ∈ deferredAdmin, doc.Declares d.operationId d.method d.path
  /-- Every operation of the gateway is exercised. -/
  gateway : ∀ id method path, gatewayDoc.Declares id method path →
    Exercised modules ⟨.sessionGateway, id⟩
  /-- No marker names an operation that is not there. -/
  named : ∀ module ∈ modules, ∀ site ∈ walk module, ∀ contract id,
    site.NamesOperation ⟨contract, id⟩ →
      ∃ method path, (documentOf doc gatewayDoc contract).Declares id method path
  /-- Every operation documents `401` and `403` in JSON. -/
  documented : ∀ path method item operation, doc.HasOperation path method item operation →
    JsonResponse operation (lit "401") ∧ JsonResponse operation (lit "403")
  /-- Its `403` is exercised or deferred as it stands, and not both. -/
  forbidden : ∀ id method path, doc.Declares id method path →
    Xor (ExercisesForbidden modules id)
      (∃ d ∈ deferrals, d.operationId = id ∧ d.method = method ∧ d.path = path)
  deferrals : ∀ d ∈ deferrals, doc.Declares d.operationId d.method d.path
  namedForbidden : ∀ id, Decorated modules (namedForbidden id) →
    ∃ method path, doc.Declares id method path
  logout : RedirectsOnLogout gatewayDoc
  /-- The inventory of the gateway's routes is that of its document, and the tests' cases are its. -/
  inventory : ∃ counts rows, collectSessionGatewayCaseMarkersFromTests modules = .ok counts ∧
    Correspondence routes gatewayDoc counts rows
  /-- Every covered case is named by a test. -/
  cases : ∀ case ∈ casesOf routes, case.status = .covered → NamedCase modules case.caseId

section Reports

variable {unicode : Unicode} {doc : OpenApiDocument} {modules : List (List Stmt)}
  {counts : Dict OperationKey MarkerCounts} {rows : List OperationCoverage}

/-- **The unified rows.** -/
theorem complete_of_unified {deferred : List DeferredAdminOperation} {source : CoverageSource}
    (hcollect : collectOpenapiMarkersFromTests modules = .ok counts)
    (hrows : unifiedCoverage unicode doc deferred (ofContract .unified counts) source = .ok rows)
    (hmissing : missingOperationIds rows = []) (hplaceholder : placeholderOperationIds rows = []) :
    ∃ operations, iterOperations unicode doc .unified = .ok operations ∧
      Complete operations deferred modules .unified := by
  obtain ⟨operations, hoperations, hrows⟩ := bind_eq_ok_iff.mp hrows
  exact ⟨operations, hoperations, complete_rows hcollect hrows
    (fun _ h => ((mem_iterOperations hoperations).mp h).2) hmissing hplaceholder⟩

/-- **The gateway's rows.** -/
theorem complete_of_gateway (hcollect : collectOpenapiMarkersFromTests modules = .ok counts)
    (hrows : gatewayCoverage unicode doc (ofContract .sessionGateway counts) = .ok rows)
    (hmissing : missingOperationIds rows = []) (hplaceholder : placeholderOperationIds rows = []) :
    ∃ operations, iterOperations unicode doc .sessionGateway = .ok operations ∧
      Complete operations [] modules .sessionGateway := by
  obtain ⟨operations, hoperations, hrows⟩ := bind_eq_ok_iff.mp hrows
  exact ⟨operations, hoperations, complete_rows hcollect hrows
    (fun _ h => ((mem_iterOperations hoperations).mp h).2) hmissing hplaceholder⟩

/-- An operation of the list, as the document declares it. -/
theorem declares_of_mem {contract : OpenApiContractKey} {operations : List OpenApiOperation}
    (h : iterOperations unicode doc contract = .ok operations) {operation : OpenApiOperation}
    (hmem : operation ∈ operations) :
    doc.Declares operation.operationId operation.method operation.path :=
  ((mem_iterOperations h).mp hmem).1

theorem mem_of_declares {contract : OpenApiContractKey} {operations : List OpenApiOperation}
    (h : iterOperations unicode doc contract = .ok operations) {id path : Text} {method : HttpMethod}
    (hdeclares : doc.Declares id method path) : ⟨id, method, path, contract⟩ ∈ operations :=
  (mem_iterOperations h).mpr ⟨hdeclares, rfl⟩

/-- **The documented 403 responses**, in a document where every operation has one. -/
theorem partition_of_forbidden {operations : List OpenApiOperation}
    {deferrals : List ForbiddenResponseDeferral} {forbiddenCounts : Dict Text MarkerCounts}
    {rows : List ForbiddenResponseCoverage}
    (hdocumenting : operationsDocumentingResponse unicode doc (lit "403") .unified = .ok operations)
    (hall : ∀ path method item operation, doc.HasOperation path method item operation →
      JsonResponse operation (lit "403"))
    (hcollect : collectForbiddenResponseMarkersFromTests modules = .ok forbiddenCounts)
    (hrows : buildForbiddenResponseCoverage operations deferrals forbiddenCounts = .ok rows) :
    (∀ id method path, doc.Declares id method path →
      Xor (ExercisesForbidden modules id)
        (∃ d ∈ deferrals, d.operationId = id ∧ d.method = method ∧ d.path = path)) ∧
    (∀ d ∈ deferrals, doc.Declares d.operationId d.method d.path) ∧
    ∀ id, Decorated modules (namedForbidden id) → ∃ method path, doc.Declares id method path := by
  have hpartition := (buildForbiddenResponseCoverage_eq_ok.mp hrows).1
  obtain ⟨entries, hentries, hsorted⟩ := bind_eq_ok_iff.mp hdocumenting
  have hmem : ∀ operation, operation ∈ operations ↔ operation.contract = .unified ∧
      doc.Declares operation.operationId operation.method operation.path := by
    intro operation
    obtain rfl := Except.ok.inj hsorted
    rw [mem_sortBy, mem_documenting hentries]
    refine and_congr_right fun _ => ⟨?_, ?_⟩
    · rintro ⟨item, raw, hhas, hid, -⟩
      exact ⟨item, raw, hhas, hid⟩
    · rintro ⟨item, raw, hhas, hid⟩
      exact ⟨item, raw, hhas, hid, (hall _ _ _ _ hhas).documents⟩
  have hunique : ∀ {o o' : OpenApiOperation}, o ∈ operations → o' ∈ operations →
      o.operationId = o'.operationId → o = o' :=
    fun ho ho' => List.inj_on_of_nodup_map hpartition.operationIds ho ho'
  refine ⟨fun id method path hdeclares => ?_, fun d hd => ?_, fun id hnamed => ?_⟩
  · have ho : (⟨id, method, path, .unified⟩ : OpenApiOperation) ∈ operations :=
      (hmem _).mpr ⟨rfl, hdeclares⟩
    have hdeferred : Deferred deferrals id ↔
        ∃ d ∈ deferrals, d.operationId = id ∧ d.method = method ∧ d.path = path := by
      constructor
      · rintro ⟨d, hd, rfl⟩
        obtain ⟨o, ho', hid, hmethod, hpath⟩ := hpartition.deferred d hd
        obtain rfl := hunique ho' ho hid
        exact ⟨d, hd, rfl, hmethod.symm, hpath.symm⟩
      · rintro ⟨d, hd, hid, -, -⟩
        exact ⟨d, hd, hid⟩
    rw [← executable_iff hcollect, ← hdeferred]
    exact hpartition.partition _ ho
  · obtain ⟨o, ho, hid, hmethod, hpath⟩ := hpartition.deferred d hd
    rw [← hid, ← hmethod, ← hpath]
    exact ((hmem o).mp ho).2
  · obtain ⟨c, hc⟩ := (counted_iff hcollect).mpr hnamed
    obtain ⟨o, ho, rfl⟩ := hpartition.marked id c hc
    exact ⟨_, _, ((hmem o).mp ho).2⟩

end Reports

/-- **All checks together**: where nothing is raised and nothing is missing, the documents, manifests
and tests are accepted. -/
theorem accepted_of_checks {printer : Printer} {display : Yaml → Text} {inventoryPath : Text}
    {rawInventory : Yaml} {modules : List (List Stmt)} {deferredAdmin : List DeferredAdminOperation}
    {deferrals : List ForbiddenResponseDeferral} {routes : List SessionGatewayRoute}
    {doc gatewayDoc : OpenApiDocument} {counts : Dict OperationKey MarkerCounts}
    {forbiddenCounts : Dict Text MarkerCounts} {caseCounts : Dict Text Int}
    {requestCases : List OpenApiRequestCase} {documenting : List OpenApiOperation}
    {forbiddenRows : List ForbiddenResponseCoverage} {unifiedRows gatewayRows : List OperationCoverage}
    {cases : List SessionGatewayCaseCoverage} {source : CoverageSource}
    {report : SessionGatewayCoverageReport} {u : Unit}
    (hmarkers : collectOpenapiMarkersFromTests modules = .ok counts)
    (hrequests : buildOperationRequestCases printer doc .unified [lit "401", lit "403"] =
      .ok requestCases)
    (hdocumenting : operationsDocumentingResponse printer.unicode doc (lit "403") .unified =
      .ok documenting)
    (hforbiddenMarkers : collectForbiddenResponseMarkersFromTests modules = .ok forbiddenCounts)
    (hforbidden : buildForbiddenResponseCoverage documenting deferrals forbiddenCounts =
      .ok forbiddenRows)
    (hunified : unifiedCoverage printer.unicode doc deferredAdmin (ofContract .unified counts) source =
      .ok unifiedRows)
    (hcontract : validateSessionGatewayContract printer.unicode gatewayDoc = .ok u)
    (hgateway : gatewayCoverage printer.unicode gatewayDoc (ofContract .sessionGateway counts) =
      .ok gatewayRows)
    (hload : loadSessionGatewayInventory display inventoryPath rawInventory = .ok routes)
    (hcaseMarkers : collectSessionGatewayCaseMarkersFromTests modules = .ok caseCounts)
    (hinventory : validateSessionGatewayInventory printer.unicode routes gatewayDoc (some caseCounts) =
      .ok cases)
    (hreport : buildSessionGatewayCoverageReport gatewayRows cases = .ok report)
    (hmissing : missingOperationIds (unifiedRows ++ gatewayRows) = [])
    (hplaceholder : placeholderOperationIds (unifiedRows ++ gatewayRows) = [])
    (huncovered : report.claims.uncoveredExecutableCaseIds = []) :
    Accepted modules deferredAdmin deferrals routes doc gatewayDoc := by
  have hsplit : ∀ status, idsWithStatus status (unifiedRows ++ gatewayRows) = [] →
      idsWithStatus status unifiedRows = [] ∧ idsWithStatus status gatewayRows = [] := by
    intro status h
    simp only [idsWithStatus_eq_nil, List.forall_mem_append] at h ⊢
    exact h
  obtain ⟨unifiedOperations, hunifiedOperations, hcompleteUnified⟩ :=
    complete_of_unified hmarkers hunified (hsplit _ hmissing).1 (hsplit _ hplaceholder).1
  obtain ⟨gatewayOperations, hgatewayOperations, hcompleteGateway⟩ :=
    complete_of_gateway hmarkers hgateway (hsplit _ hmissing).2 (hsplit _ hplaceholder).2
  have hdocumented : ∀ path method item operation, doc.HasOperation path method item operation →
      JsonResponse operation (lit "401") ∧ JsonResponse operation (lit "403") :=
    fun _ _ _ _ hhas => ⟨requests_jsonResponse hrequests hhas (by simp),
      requests_jsonResponse hrequests hhas (by simp)⟩
  obtain ⟨hpartition, hdeferrals, hnamedForbidden⟩ := partition_of_forbidden hdocumenting
    (fun _ _ _ _ hhas => (hdocumented _ _ _ _ hhas).2) hforbiddenMarkers hforbidden
  have hflag : report.claims.allCurrentlyExecutablePublicCasesCovered = true := by
    simp only [buildSessionGatewayCoverageReport, bind_eq_ok_iff, raiseWhen_eq_ok,
      Except.ok.injEq] at hreport
    obtain ⟨-, -, -, -, -, -, rfl⟩ := hreport
    exact decide_eq_true huncovered
  refine
    { unified := fun id method path hdeclares => ?_
      deferredAdmin := fun d hd => ?_
      gateway := fun id method path hdeclares => ?_
      named := ?_
      documented := hdocumented
      forbidden := hpartition
      deferrals := hdeferrals
      namedForbidden := hnamedForbidden
      logout := (validateSessionGatewayContract_eq_ok.mp hcontract).2
      inventory := ⟨caseCounts, cases, hcaseMarkers,
        gateway_correspondence printer.unicode display inventoryPath rawInventory routes gatewayDoc
          (some caseCounts) cases hload hinventory⟩
      cases := (allCovered_iff hcaseMarkers hinventory hreport).mp hflag }
  · rcases hcompleteUnified.accounted _ (mem_of_declares hunifiedOperations hdeclares) with
      ⟨-, hdeferred⟩ | hexercised
    · exact Or.inl hdeferred
    · exact Or.inr hexercised
  · obtain ⟨operation, hoperation, hid, hmethod, hpath⟩ := hcompleteUnified.deferred d hd
    rw [← hid, ← hmethod, ← hpath]
    exact declares_of_mem hunifiedOperations hoperation
  · rcases hcompleteGateway.accounted _ (mem_of_declares hgatewayOperations hdeclares) with
      ⟨hcontract, -⟩ | hexercised
    · cases hcontract
    · exact hexercised
  · intro module hmodule site hsite contract id hnames
    cases contract with
    | unified =>
      obtain ⟨operation, hoperation, rfl⟩ :=
        hcompleteUnified.named module hmodule site hsite id hnames
      exact ⟨_, _, declares_of_mem hunifiedOperations hoperation⟩
    | sessionGateway =>
      obtain ⟨operation, hoperation, rfl⟩ :=
        hcompleteGateway.named module hmodule site hsite id hnames
      exact ⟨_, _, declares_of_mem hgatewayOperations hoperation⟩

end ApiTests.Coverage
