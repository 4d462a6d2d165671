import ApiTests.Coverage.GatewayInventory
import ApiTests.Coverage.Markers

/-!
# The Session Gateway report and the tests behind it

Model of `build_session_gateway_coverage_report` (`session_gateway_inventory.py:86-124, 255-313,
355-371`), on the rows of the inventory and of the operations.

The flag `all_currently_executable_public_cases_covered` says that every covered case has a test. What
stands behind it is the collector of the decorators, which looks at every function.

Results:
* `allCovered_iff`: **the flag says that some decorator names each covered case.**
* **`covered_cases_evidenced`**: so the cases are evidenced by tests that run, unless all are named and
  one only where nothing runs.
-/

namespace ApiTests.Coverage

open Py OpenApi

/-- `CoverageSource`. -/
inductive CoverageSource where
  | live
  | snapshot
  deriving Repr, DecidableEq

/-- `CoverageStatus`. -/
inductive CoverageStatus where
  | covered
  | placeholder
  | missing
  | deferred
  deriving Repr, DecidableEq

/-- `OperationCoverage`. -/
structure OperationCoverage where
  contract : OpenApiContractKey
  operationId : Text
  method : HttpMethod
  path : Text
  source : CoverageSource
  deferredAdmin : Bool
  markerCount : Int
  placeholderMarkerCount : Int
  status : CoverageStatus
  deriving Repr, DecidableEq

/-- `OperationCoverageClassification` and `ScenarioCoverageClassification`. -/
structure CoverageClassification (σ : Type) where
  status : σ
  count : Nat
  ids : List Text
  deriving Repr, DecidableEq

/-- `SessionGatewayOperationCoverageReport`. -/
structure SessionGatewayOperationCoverageReport where
  classifications : List (CoverageClassification CoverageStatus)
  rows : List OperationCoverage
  deriving Repr, DecidableEq

/-- `SessionGatewayScenarioCoverageReport`. -/
structure SessionGatewayScenarioCoverageReport where
  routeCount : Nat
  classifications : List (CoverageClassification InventoryStatus)
  rows : List SessionGatewayCaseCoverage
  deriving Repr, DecidableEq

/-- `SessionGatewayCoverageClaims`. -/
structure SessionGatewayCoverageClaims where
  allKnownInboundRoutesInventoried : Bool
  allCurrentlyExecutablePublicCasesCovered : Bool
  fullSessionGatewayBehaviorCoverage : Bool
  uncoveredExecutableCaseIds : List Text
  deriving Repr, DecidableEq

/-- `SessionGatewayCoverageReport`. -/
structure SessionGatewayCoverageReport where
  claims : SessionGatewayCoverageClaims
  operationCoverage : SessionGatewayOperationCoverageReport
  scenarioCoverage : SessionGatewayScenarioCoverageReport
  deriving Repr, DecidableEq

/-- `_operation_classification` and `_scenario_classification`. -/
def classification {σ α : Type} [DecidableEq σ] (statusOf : α → σ) (idOf : α → Text) (rows : List α)
    (status : σ) : CoverageClassification σ :=
  let ids := sortTexts ((rows.filter fun row => statusOf row = status).map idOf)
  { status, count := ids.length, ids }

/-- The covered cases without a marker. -/
def uncoveredExecutableCaseIds (scenarios : List SessionGatewayCaseCoverage) : List Text :=
  sortTexts ((scenarios.filter fun case =>
    case.status = .covered ∧ case.testMarkerCount = 0).map SessionGatewayCaseCoverage.caseId)

/-- `build_session_gateway_coverage_report`. -/
def buildSessionGatewayCoverageReport (operations : List OperationCoverage)
    (scenarios : List SessionGatewayCaseCoverage) :
    Except ValueError SessionGatewayCoverageReport := do
  raiseWhen (operations = [])
    ⟨lit "Session Gateway operation report requires at least one operation"⟩
  raiseWhen (scenarios = [])
    ⟨lit "Session Gateway scenario report requires at least one scenario"⟩
  let wrongContractOperations := sortTexts ((operations.filter fun operation =>
    operation.contract ≠ .sessionGateway).map OperationCoverage.operationId)
  raiseWhen (wrongContractOperations ≠ [])
    ⟨lit "Session Gateway operation report received other contracts: " ++
      joinTexts wrongContractOperations⟩
  let uncovered := uncoveredExecutableCaseIds scenarios
  let allExecutableCovered := decide (uncovered = [])
  let fullBehaviorCoverage := allExecutableCovered &&
    operations.all (fun operation => operation.status = .covered) &&
    scenarios.all fun case => case.status = .covered
  .ok
    { claims :=
        { allKnownInboundRoutesInventoried := true
          allCurrentlyExecutablePublicCasesCovered := allExecutableCovered
          fullSessionGatewayBehaviorCoverage := fullBehaviorCoverage
          uncoveredExecutableCaseIds := uncovered }
      operationCoverage :=
        { classifications := [.covered, .deferred, .missing, .placeholder].map
            (classification OperationCoverage.status OperationCoverage.operationId operations)
          rows := operations }
      scenarioCoverage :=
        { routeCount := (scenarios.map fun case => (case.method, case.path)).dedup.length
          classifications := [.covered, .deferred, .untestable].map
            (classification SessionGatewayCaseCoverage.status SessionGatewayCaseCoverage.caseId
              scenarios)
          rows := scenarios } }

/-! ## What the flag says -/

variable {routes : List SessionGatewayRoute} {doc : OpenApiDocument} {unicode : Unicode}
  {rows : List SessionGatewayCaseCoverage} {counts : Dict Text Int}
  {operations : List OperationCoverage} {report : SessionGatewayCoverageReport}

/-- The report's flag, from its rows. -/
theorem flag_of_buildReport (h : buildSessionGatewayCoverageReport operations rows = .ok report) :
    report.claims.allCurrentlyExecutablePublicCasesCovered = true ↔
      ∀ row ∈ rows, row.status = .covered → row.testMarkerCount ≠ 0 := by
  simp only [buildSessionGatewayCoverageReport, bind_eq_ok_iff, raiseWhen_eq_ok,
    Except.ok.injEq] at h
  obtain ⟨-, -, -, -, -, -, rfl⟩ := h
  simp only [uncoveredExecutableCaseIds, decide_eq_true_eq, sortTexts_eq_nil, List.map_eq_nil_iff,
    List.filter_eq_nil_iff, not_and]

/-- **The flag says that some decorator names each covered case.** -/
theorem allCovered_iff {modules : List (List Stmt)}
    (hcollect : collectSessionGatewayCaseMarkersFromTests modules = .ok counts)
    (hvalidate : validateSessionGatewayInventory unicode routes doc (some counts) = .ok rows)
    (hreport : buildSessionGatewayCoverageReport operations rows = .ok report) :
    report.claims.allCurrentlyExecutablePublicCasesCovered = true ↔
      ∀ case ∈ casesOf routes, case.status = .covered → NamedCase modules case.caseId := by
  rw [flag_of_buildReport hreport]
  constructor
  · intro h case hcase hcovered
    obtain ⟨route, hroute, hmem⟩ := mem_casesOf.mp hcase
    have hrow := (mem_validatedRows hvalidate).mpr ⟨route, hroute, case, hmem, rfl⟩
    exact (getD_collectedCases hcollect).mp (h _ hrow hcovered)
  · intro h row hrow hcovered
    obtain ⟨route, hroute, case, hmem, rfl⟩ := (mem_validatedRows hvalidate).mp hrow
    exact (getD_collectedCases hcollect).mpr
      (h case (mem_casesOf.mpr ⟨route, hroute, hmem⟩) hcovered)

/-! ## Tests that run -/

/-- **A test that runs names the case**: `isTest` are the functions that are tests. -/
def Evidenced (isTest : List Stmt → FunctionSite → Prop) (modules : List (List Stmt))
    (caseId : Text) : Prop :=
  ∃ module ∈ modules, ∃ site ∈ walk module, namedCase caseId ∈ site.decorators ∧
    isTest module site ∧ ¬ CarriesPlaceholder site

/-- The case is named, if at all, on placeholders and on functions that are no tests. -/
def NamedIdlyOnly (isTest : List Stmt → FunctionSite → Prop) (modules : List (List Stmt))
    (caseId : Text) : Prop :=
  ∀ module ∈ modules, ∀ site ∈ walk module, namedCase caseId ∈ site.decorators →
    CarriesPlaceholder site ∨ ¬ isTest module site

theorem not_evidenced_iff {isTest : List Stmt → FunctionSite → Prop} {modules : List (List Stmt)}
    {caseId : Text} : ¬ Evidenced isTest modules caseId ↔ NamedIdlyOnly isTest modules caseId := by
  constructor
  · intro h module hmodule site hsite hnamed
    by_contra hidle
    rw [not_or, not_not] at hidle
    exact h ⟨module, hmodule, site, hsite, hnamed, hidle.2, hidle.1⟩
  · rintro h ⟨module, hmodule, site, hsite, hnamed, htest, hplaceholder⟩
    rcases h module hmodule site hsite hnamed with h | h
    · exact hplaceholder h
    · exact h htest

/-- **When the flag keeps its word**: not where every covered case is named and one of them only on
placeholders and on functions that are no tests. -/
theorem covered_cases_evidenced (isTest : List Stmt → FunctionSite → Prop) (unicode : Unicode)
    (routes : List SessionGatewayRoute) (modules : List (List Stmt)) (counts : Dict Text Int)
    (doc : OpenApiDocument) (rows : List SessionGatewayCaseCoverage)
    (operations : List OperationCoverage) (report : SessionGatewayCoverageReport)
    (hcollect : collectSessionGatewayCaseMarkersFromTests modules = .ok counts)
    (hvalidate : validateSessionGatewayInventory unicode routes doc (some counts) = .ok rows)
    (hreport : buildSessionGatewayCoverageReport operations rows = .ok report) :
    (report.claims.allCurrentlyExecutablePublicCasesCovered = true →
        ∀ case ∈ casesOf routes, case.status = .covered → Evidenced isTest modules case.caseId) ↔
      ¬ ((∀ case ∈ casesOf routes, case.status = .covered → NamedCase modules case.caseId) ∧
        ∃ case ∈ casesOf routes, case.status = .covered ∧
          NamedIdlyOnly isTest modules case.caseId) := by
  rw [allCovered_iff hcollect hvalidate hreport]
  constructor
  · rintro h ⟨hnamed, case, hcase, hcovered, hidle⟩
    exact not_evidenced_iff.mpr hidle (h hnamed case hcase hcovered)
  · intro h hnamed case hcase hcovered
    by_contra hnot
    exact h ⟨hnamed, case, hcase, hcovered, not_evidenced_iff.mp hnot⟩

/-- Two tests of the logout, with the decorators given beside the one that names the case. -/
def logoutModule (decorators : List Expr) : List Stmt :=
  [.functionDef (lit "test_logout") (namedCase (lit "logout-redirect") :: decorators) [],
    .functionDef (lit "test_logout_again") (namedCase (lit "logout-redirect") :: decorators) []]

/-- The row of the one operation. -/
def logoutOperation : OperationCoverage :=
  { contract := .sessionGateway, operationId := lit "logout", method := .get, path := lit "/logout",
    source := .snapshot, deferredAdmin := false, markerCount := 1, placeholderMarkerCount := 0,
    status := .covered }

/-- The report of the logout inventory. -/
def logoutReport : SessionGatewayCoverageReport :=
  { claims :=
      { allKnownInboundRoutesInventoried := true
        allCurrentlyExecutablePublicCasesCovered := true
        fullSessionGatewayBehaviorCoverage := false
        uncoveredExecutableCaseIds := [] }
    operationCoverage :=
      { classifications := [⟨.covered, 1, [lit "logout"]⟩, ⟨.deferred, 0, []⟩, ⟨.missing, 0, []⟩,
          ⟨.placeholder, 0, []⟩]
        rows := [logoutOperation] }
    scenarioCoverage :=
      { routeCount := 2
        classifications := [⟨.covered, 1, [lit "logout-redirect"]⟩, ⟨.deferred, 0, []⟩,
          ⟨.untestable, 1, [lit "probe"]⟩]
        rows := logoutRows } }

theorem covered_cases_evidenced_example :
    (logoutReport.claims.allCurrentlyExecutablePublicCasesCovered = true →
        ∀ case ∈ casesOf logoutRoutes, case.status = .covered →
          Evidenced (fun _ site => site.scope = []) [logoutModule []] case.caseId) ↔
      ¬ ((∀ case ∈ casesOf logoutRoutes, case.status = .covered →
          NamedCase [logoutModule []] case.caseId) ∧
        ∃ case ∈ casesOf logoutRoutes, case.status = .covered ∧
          NamedIdlyOnly (fun _ site => site.scope = []) [logoutModule []] case.caseId) :=
  covered_cases_evidenced (fun _ site => site.scope = []) .ascii logoutRoutes [logoutModule []]
    logoutMarks logoutDocument logoutRows [logoutOperation] logoutReport (by decide +kernel)
    (by decide +kernel) (by decide +kernel)

/-- Placeholders alone make the flag true. -/
theorem placeholder_cases_example :
    loadSessionGatewayInventory (fun _ => []) (lit "inventory.yaml") logoutInventory =
        .ok logoutRoutes ∧
      collectSessionGatewayCaseMarkersFromTests [logoutModule [pytestMark (lit "placeholder")]] =
        .ok logoutMarks ∧
      validateSessionGatewayInventory .ascii logoutRoutes logoutDocument (some logoutMarks) =
        .ok logoutRows ∧
      buildSessionGatewayCoverageReport [logoutOperation] logoutRows = .ok logoutReport ∧
      logoutReport.claims.allCurrentlyExecutablePublicCasesCovered = true ∧
      ∀ isTest : List Stmt → FunctionSite → Prop, ¬ ∀ case ∈ casesOf logoutRoutes,
        case.status = .covered →
          Evidenced isTest [logoutModule [pytestMark (lit "placeholder")]] case.caseId := by
  refine ⟨by decide +kernel, by decide +kernel, by decide +kernel, by decide +kernel, rfl,
    fun isTest h => ?_⟩
  obtain ⟨module, hmodule, site, hsite, -, -, hplaceholder⟩ := h _ List.mem_cons_self rfl
  obtain rfl := List.mem_singleton.mp hmodule
  have hcarries : ∀ site ∈ walk (logoutModule [pytestMark (lit "placeholder")]),
      CarriesPlaceholder site := by
    rintro site (_ | ⟨_, _ | ⟨_, hnil⟩⟩)
    · exact ⟨_, List.mem_cons_of_mem _ List.mem_cons_self, Or.inl rfl⟩
    · exact ⟨_, List.mem_cons_of_mem _ List.mem_cons_self, Or.inl rfl⟩
    · cases hnil
  exact hplaceholder (hcarries site hsite)

end ApiTests.Coverage
