import ApiTests.Config
import ApiTests.Coverage.Accepted
import ApiTests.Py.Traced

/-!
# The coverage reports of a checkout

Model of `build_coverage`, `build_forbidden_coverage` and `build_session_gateway_coverage`
(`tools/openapi_coverage.py:154-215, 236-245`). A checkout is the files as they stand while a command
runs; what a file that cannot be read raises is part of it. Only the live document is asked for, since
it may be another one every time.

Results:
* `Passes`: what a run of the checks on a checkout goes through.
* **`Passes.accepted`**: the checkout that passes is accepted.
-/

namespace ApiTests.Runner

open Py OpenApi Coverage

/-! ## What is raised -/

/-- The classes of exceptions that the commands tell apart. -/
inductive ErrorKind where
  /-- `FileNotFoundError`. -/
  | fileNotFound
  /-- `ValueError`, with the errors of decoding, of JSON and of validation. -/
  | value
  /-- `LocalCredentialError`. -/
  | localCredential
  /-- `DependencyInventoryError`. -/
  | dependencyInventory
  /-- `httpx.RequestError`. -/
  | request
  /-- `subprocess.SubprocessError`. -/
  | subprocess
  /-- Any other exception: a `TypeError`, a YAML error, another `OSError`. -/
  | other
  deriving Repr, DecidableEq

/-- An exception, with `str(exc)`. -/
structure RunError where
  kind : ErrorKind
  message : Text
  deriving Repr, DecidableEq

/-- What the commands take from the libraries. -/
structure Platform where
  numbers : JsonNumbers PyNumber
  /-- `yaml.safe_load` of a document that is used as JSON. -/
  safeLoad : Text → Option (JsonValue PyNumber)
  printer : Printer
  /-- `str` of a value of `yaml.safe_load`. -/
  display : Yaml → Text
  /-- The messages of exceptions that no function here writes. -/
  describe : SnapshotError → Text
  encodeMessage : Text
  hashMessage : Text

/-- The files that the commands read, as they stand. -/
structure Checkout where
  /-- `repository_root()`. -/
  root : Text
  /-- `load_environment`. -/
  environment : Text → Except RunError EnvironmentConfig
  /-- What `yaml.safe_load` returns for the manifests. -/
  deferredAdmin : Except RunError Yaml
  forbiddenResponses : Except RunError Yaml
  gatewayInventory : Except RunError Yaml
  /-- The contents of the snapshots. -/
  openapi : Option (List Nat)
  gatewayOpenapi : Option (List Nat)
  /-- The modules of `test_*.py`, in order. -/
  tests : Except RunError (List (List Stmt))

/-- A `ValueError`. -/
def raised {α : Type} (result : Except ValueError α) : Except RunError α :=
  result.mapError fun e => ⟨.value, e.message⟩

variable (platform : Platform) (checkout : Checkout)

/-- What a loader of a manifest raises. -/
def raisedInventory {α : Type} (result : Except InventoryError α) : Except RunError α :=
  result.mapError fun e => match e with
    | .valueError message => ⟨.value, message⟩
    | .typeError => ⟨.other, platform.hashMessage⟩

/-- What the request cases raise. -/
def raisedRequest {α : Type} (result : Requested α) : Except RunError α :=
  result.mapError fun e => match e with
    | .valueError e => ⟨.value, e.message⟩
    | .unicodeEncodeError => ⟨.value, platform.encodeMessage⟩

/-- What a reader of documents raises. -/
def raisedSnapshot {α : Type} (result : Except SnapshotError α) : Except RunError α :=
  result.mapError fun e => match e with
    | .fileNotFound => ⟨.fileNotFound, platform.describe e⟩
    | .yaml => ⟨.other, platform.describe e⟩
    | .value e => ⟨.value, e.message⟩
    | _ => ⟨.value, platform.describe e⟩

/-! ## The files -/

/-- `root / "schemas" / name`. -/
def Checkout.schema (name : Text) : Text := checkout.root ++ lit "/schemas/" ++ name

/-- The deferred admin operations. -/
def deferredAdminOperations : Except RunError (List DeferredAdminOperation) := do
  let raw ← checkout.deferredAdmin
  raisedInventory platform (loadDeferredAdminOperations platform.display
    (checkout.schema (lit "deferred-admin-operations.yaml")) raw)

/-- The forbidden-response deferrals. -/
def forbiddenDeferrals : Except RunError (List ForbiddenResponseDeferral) := do
  let raw ← checkout.forbiddenResponses
  raisedInventory platform (loadForbiddenResponseDeferrals platform.display
    (checkout.schema (lit "deferred-forbidden-responses.yaml")) raw)

/-- The inventory of the gateway. -/
def gatewayRoutes : Except RunError (List SessionGatewayRoute) := do
  let raw ← checkout.gatewayInventory
  raisedInventory platform (loadSessionGatewayInventory platform.display
    (checkout.schema (lit "session-gateway-inbound-inventory.yaml")) raw)

/-- The unified snapshot. -/
def openapiSnapshot : Except RunError OpenApiDocument :=
  raisedSnapshot platform (loadSnapshot platform.numbers platform.safeLoad
    (checkout.schema (lit "openapi.json")) checkout.openapi)

/-- The gateway's snapshot. -/
def gatewaySnapshot : Except RunError OpenApiDocument :=
  raisedSnapshot platform (loadSnapshot platform.numbers platform.safeLoad
    (checkout.schema (lit "session-gateway-openapi.yaml")) checkout.gatewayOpenapi)

/-- A collector of markers, on the tests. -/
def collected {α : Type} (collector : List (List Stmt) → Except ValueError α) :
    Except RunError α := do
  let modules ← checkout.tests
  raised (collector modules)

/-! ## The reports -/

/-- The statuses that every operation has to document. -/
def requiredStatuses : List Text := [lit "401", lit "403"]

/-- `build_forbidden_coverage`, from the document on. -/
def forbiddenRows (doc : OpenApiDocument) : Except RunError (List ForbiddenResponseCoverage) := do
  let _ ← raisedRequest platform
    (buildOperationRequestCases platform.printer doc .unified requiredStatuses)
  let documenting ← raised
    (operationsDocumentingResponse platform.printer.unicode doc (lit "403") .unified)
  let deferrals ← forbiddenDeferrals platform checkout
  let markers ← collected checkout collectForbiddenResponseMarkersFromTests
  raised (buildForbiddenResponseCoverage documenting deferrals markers)

/-- `build_coverage`, from the document on. -/
def coverageRows (deferred : List DeferredAdminOperation)
    (markers : Dict OperationKey MarkerCounts) (source : CoverageSource) (doc : OpenApiDocument) :
    Except RunError (List OperationCoverage) := do
  let deferrals ← forbiddenDeferrals platform checkout
  let _ ← raisedRequest platform
    (buildOperationRequestCases platform.printer doc .unified requiredStatuses)
  let documenting ← raised
    (operationsDocumentingResponse platform.printer.unicode doc (lit "403") .unified)
  let forbiddenMarkers ← collected checkout collectForbiddenResponseMarkersFromTests
  let _ ← raised (buildForbiddenResponseCoverage documenting deferrals forbiddenMarkers)
  let unified ← raised (unifiedCoverage platform.printer.unicode doc deferred
    (ofContract .unified markers) source)
  let gatewayDoc ← gatewaySnapshot platform checkout
  raised (validateSessionGatewayContract platform.printer.unicode gatewayDoc)
  let gateway ← raised (gatewayCoverage platform.printer.unicode gatewayDoc
    (ofContract .sessionGateway markers))
  .ok (unified ++ gateway)

/-- `build_session_gateway_coverage`. -/
def buildSessionGatewayCoverage : Except RunError (List SessionGatewayCaseCoverage) := do
  let doc ← gatewaySnapshot platform checkout
  raised (validateSessionGatewayContract platform.printer.unicode doc)
  let inventory ← gatewayRoutes platform checkout
  let markers ← collected checkout collectSessionGatewayCaseMarkersFromTests
  raised (validateSessionGatewayInventory platform.printer.unicode inventory doc (some markers))

/-- The gateway's rows. -/
def sessionGatewayOperations (coverage : List OperationCoverage) : List OperationCoverage :=
  coverage.filter fun row => row.contract = .sessionGateway

/-! ## A checkout that passes -/

/-- **The checks go through on the document**, with these reports, and report nothing missing. -/
def Passes (source : CoverageSource) (doc : OpenApiDocument) (coverage : List OperationCoverage)
    (forbidden : List ForbiddenResponseCoverage) (report : SessionGatewayCoverageReport) : Prop :=
  (∃ deferred markers, deferredAdminOperations platform checkout = .ok deferred ∧
    collected checkout collectOpenapiMarkersFromTests = .ok markers ∧
    coverageRows platform checkout deferred markers source doc = .ok coverage) ∧
  forbiddenRows platform checkout doc = .ok forbidden ∧
  (∃ cases, buildSessionGatewayCoverage platform checkout = .ok cases ∧
    buildSessionGatewayCoverageReport (sessionGatewayOperations coverage) cases = .ok report) ∧
  missingOperationIds coverage = [] ∧ placeholderOperationIds coverage = [] ∧
  report.claims.uncoveredExecutableCaseIds = []

/-- **The files of the checkout are accepted, with the document.** -/
def AcceptedCheckout (doc : OpenApiDocument) : Prop :=
  ∃ modules deferredAdmin deferrals routes gatewayDoc,
    checkout.tests = .ok modules ∧ deferredAdminOperations platform checkout = .ok deferredAdmin ∧
    forbiddenDeferrals platform checkout = .ok deferrals ∧
    gatewayRoutes platform checkout = .ok routes ∧
    gatewaySnapshot platform checkout = .ok gatewayDoc ∧
    Accepted modules deferredAdmin deferrals routes doc gatewayDoc

section

variable {platform : Platform} {checkout : Checkout}

theorem raised_eq_ok {α : Type} {x : Except ValueError α} {a : α} : raised x = .ok a ↔ x = .ok a :=
  mapError_eq_ok

theorem raisedInventory_eq_ok {α : Type} {x : Except InventoryError α} {a : α} :
    raisedInventory platform x = .ok a ↔ x = .ok a := mapError_eq_ok

theorem raisedRequest_eq_ok {α : Type} {x : Requested α} {a : α} :
    raisedRequest platform x = .ok a ↔ x = .ok a := mapError_eq_ok

/-- Markers that are collected, from modules that are read. -/
theorem collected_eq_ok {α : Type} {collector : List (List Stmt) → Except ValueError α} {a : α} :
    collected checkout collector = .ok a ↔
      ∃ modules, checkout.tests = .ok modules ∧ collector modules = .ok a := by
  simp only [collected, bind_eq_ok_iff, raised_eq_ok]

/-- The rows of a report are for operations of its contract. -/
theorem contract_of_rows {unicode : Unicode} {operations : List OpenApiOperation}
    {deferred : List DeferredAdminOperation} {markers : Dict OperationKey MarkerCounts}
    {source : CoverageSource} {rows : List OperationCoverage} {contract : OpenApiContractKey}
    (h : buildOperationCoverage unicode operations deferred markers source = .ok rows)
    (hcontract : ∀ operation ∈ operations, operation.contract = contract) :
    ∀ row ∈ rows, row.contract = contract := by
  obtain ⟨-, -, hrows⟩ := bind_eq_ok_iff.mp h
  cases hrows
  intro row hrow
  obtain ⟨operation, hoperation, rfl⟩ := List.mem_map.mp hrow
  exact hcontract operation (mem_sortBy.mp hoperation)

/-- The gateway's rows among those of both contracts. -/
theorem sessionGatewayOperations_append {unicode : Unicode} {doc gatewayDoc : OpenApiDocument}
    {deferred : List DeferredAdminOperation} {markers gatewayMarkers : Dict OperationKey MarkerCounts}
    {source : CoverageSource} {unified gateway : List OperationCoverage}
    (hunified : unifiedCoverage unicode doc deferred markers source = .ok unified)
    (hgateway : gatewayCoverage unicode gatewayDoc gatewayMarkers = .ok gateway) :
    sessionGatewayOperations (unified ++ gateway) = gateway := by
  obtain ⟨operations, hoperations, hrows⟩ := bind_eq_ok_iff.mp hunified
  obtain ⟨gatewayOperations, hgatewayOperations, hgatewayRows⟩ := bind_eq_ok_iff.mp hgateway
  have hcontract := contract_of_rows hrows fun _ h => ((mem_iterOperations hoperations).mp h).2
  have hgatewayContract := contract_of_rows hgatewayRows
    fun _ h => ((mem_iterOperations hgatewayOperations).mp h).2
  have hnone : unified.filter (fun row => row.contract = .sessionGateway) = [] := by
    rw [List.filter_eq_nil_iff]
    intro row hrow h
    rw [hcontract row hrow] at h
    exact absurd h (by decide)
  have hall : gateway.filter (fun row => row.contract = .sessionGateway) = gateway :=
    List.filter_eq_self.mpr fun row hrow => decide_eq_true (hgatewayContract row hrow)
  rw [sessionGatewayOperations, List.filter_append, hnone, hall, List.nil_append]

/-- **The checkout that passes is accepted.** -/
theorem Passes.accepted {source : CoverageSource} {doc : OpenApiDocument}
    {coverage : List OperationCoverage} {forbidden : List ForbiddenResponseCoverage}
    {report : SessionGatewayCoverageReport}
    (h : Passes platform checkout source doc coverage forbidden report) :
    AcceptedCheckout platform checkout doc := by
  obtain ⟨⟨deferredAdmin, markers, hdeferredAdmin, hmarkers, hcoverage⟩, -, ⟨cases, hcases, hreport⟩,
    hmissing, hplaceholder, huncovered⟩ := h
  simp only [coverageRows, bind_eq_ok_iff, raised_eq_ok, raisedRequest_eq_ok, collected_eq_ok,
    Except.ok.injEq] at hcoverage
  obtain ⟨deferrals, hdeferrals, requests, hrequests, documenting, hdocumenting, forbiddenMarkers,
    ⟨modules', htests', hforbiddenMarkers⟩, rows, hrows, unified, hunified, gatewayDoc, hgatewayDoc,
    u, hcontract, gateway, hgateway, rfl⟩ := hcoverage
  obtain ⟨modules, htests, hmarkers⟩ := collected_eq_ok.mp hmarkers
  obtain rfl := Except.ok.inj (htests'.symm.trans htests)
  simp only [buildSessionGatewayCoverage, bind_eq_ok_iff, raised_eq_ok, collected_eq_ok] at hcases
  obtain ⟨gatewayDoc', hgatewayDoc', -, -, routes, hroutes, caseMarkers,
    ⟨modules'', htests'', hcaseMarkers⟩, hinventory⟩ := hcases
  obtain rfl := Except.ok.inj (htests'.symm.trans htests'')
  obtain rfl := Except.ok.inj (hgatewayDoc.symm.trans hgatewayDoc')
  have hroutes' := hroutes
  simp only [gatewayRoutes, bind_eq_ok_iff, raisedInventory_eq_ok] at hroutes'
  obtain ⟨raw, -, hload⟩ := hroutes'
  rw [sessionGatewayOperations_append hunified hgateway] at hreport
  exact ⟨modules', deferredAdmin, deferrals, routes, gatewayDoc, htests, hdeferredAdmin, hdeferrals,
    hroutes, hgatewayDoc, accepted_of_checks hmarkers hrequests hdocumenting hforbiddenMarkers hrows
      hunified hcontract hgateway hload hcaseMarkers hinventory hreport hmissing hplaceholder
      huncovered⟩

end

end ApiTests.Runner
