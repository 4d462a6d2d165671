import ApiTests.Coverage.Inventory
import Mathlib.Algebra.BigOperators.Group.Finset.Basic
import Mathlib.Algebra.Ring.Int.Defs

/-!
# The Session Gateway inventory against the snapshot

Model of `validate_session_gateway_inventory` (`session_gateway_inventory.py:67-83, 149-226,
521-529`): one loop over the routes with the sets of route keys and operation ids met so far, its
checks in the order of the source.

`Correspondence` says what the inventory is for, on the whole: its routes are the operations of the
document and others the document does not have, and its rows account for every case and every marker
once.

Results:
* `checkRoutes_eq_ok`: what the loop has checked when it ends, and the rows it has written.
* **`gateway_correspondence`**: the function returns rows only for a corresponding inventory.
-/

namespace ApiTests.Coverage

open Py OpenApi

/-- `SessionGatewayCaseCoverage`; its contract is always `session_gateway`. -/
structure SessionGatewayCaseCoverage where
  caseId : Text
  method : HttpMethod
  path : Text
  owner : RouteOwner
  exposure : RouteExposure
  openapiOperationId : Option Text
  behavior : Text
  status : InventoryStatus
  testMarkerCount : Int
  reason : Option Text
  prerequisite : Option Text
  boundary : Option Text
  optionalIndirectProof : Option SessionGatewayIndirectProof
  deriving Repr, DecidableEq

def InventoryStatus.text : InventoryStatus → Text
  | .covered => lit "covered"
  | .deferred => lit "deferred"
  | .untestable => lit "untestable"

/-- `_validate_route_matches_operation`. -/
def validateRouteMatchesOperation (route : SessionGatewayRoute) (operation : OpenApiOperation) :
    Except ValueError Unit :=
  raiseWhen (route.method ≠ operation.method ∨ route.path ≠ operation.path)
    ⟨lit "stale Session Gateway inventory route for " ++ operation.operationId ++
      lit ": inventory has " ++ route.method.text ++ lit " " ++ route.path ++ lit ", snapshot has " ++
      operation.method.text ++ lit " " ++ operation.path⟩

/-- The operation ids met so far, with the route's. -/
def checkRouteOperation (operationsById : Dict Text OpenApiOperation) (seenOperationIds : List Text)
    (route : SessionGatewayRoute) : Except ValueError (List Text) :=
  match route.openapiOperationId with
  | none => .ok seenOperationIds
  | some id =>
    match operationsById.get? id with
    | none => .error ⟨lit "inventory OpenAPI operation is absent from Session Gateway snapshot: " ++
        id ++ lit " (" ++ route.method.text ++ lit " " ++ route.path ++ lit ")"⟩
    | some operation => do
      validateRouteMatchesOperation route operation
      raiseWhen (operation.operationId ∈ seenOperationIds)
        ⟨lit "duplicate inventory OpenAPI operation id: " ++ operation.operationId⟩
      .ok (operation.operationId :: seenOperationIds)

/-- The row of a case. -/
def rowOf (markerCounts : Dict Text Int) (route : SessionGatewayRoute) (case : SessionGatewayCase) :
    SessionGatewayCaseCoverage where
  caseId := case.caseId
  method := route.method
  path := route.path
  owner := route.owner
  exposure := route.exposure
  openapiOperationId := route.openapiOperationId
  behavior := case.behavior
  status := case.status
  testMarkerCount := markerCounts.getD case.caseId 0
  reason := case.reason
  prerequisite := case.prerequisite
  boundary := case.boundary
  optionalIndirectProof := case.optionalIndirectProof

/-- The check on one case, and its row. -/
def caseRow (markerCounts : Dict Text Int) (route : SessionGatewayRoute)
    (case : SessionGatewayCase) : Except ValueError SessionGatewayCaseCoverage := do
  raiseWhen (case.status ≠ .untestable ∧ route.exposure ≠ .publicRoute)
    ⟨case.status.text ++ lit " Session Gateway case " ++ case.caseId ++
      lit " must use public exposure"⟩
  .ok (rowOf markerCounts route case)

/-- The loop over the routes: the operation ids met in the end, and the rows. -/
def checkRoutes (operationsById : Dict Text OpenApiOperation) (markerCounts : Dict Text Int) :
    List (HttpMethod × Text) → List Text → List SessionGatewayRoute →
      Except ValueError (List Text × List SessionGatewayCaseCoverage)
  | _, seenOperationIds, [] => .ok (seenOperationIds, [])
  | seenRouteKeys, seenOperationIds, route :: routes => do
    raiseWhen ((route.method, route.path) ∈ seenRouteKeys)
      ⟨lit "duplicate Session Gateway route: " ++ route.method.text ++ lit " " ++ route.path⟩
    let seenOperationIds ← checkRouteOperation operationsById seenOperationIds route
    let rows ← readAll (caseRow markerCounts route) route.cases
    let (seenOperationIds, rest) ← checkRoutes operationsById markerCounts
      ((route.method, route.path) :: seenRouteKeys) seenOperationIds routes
    .ok (seenOperationIds, rows ++ rest)

/-- `key=lambda row: (row.path, row.method, row.case_id)`. -/
def rowSortKey (row : SessionGatewayCaseCoverage) : Text ×ₗ Text ×ₗ Text :=
  keyOfTexts row.path row.method.text row.caseId

/-- `validate_session_gateway_inventory`. -/
def validateSessionGatewayInventory (unicode : Unicode) (routes : List SessionGatewayRoute)
    (openapiDoc : OpenApiDocument) (caseMarkerCounts : Option (Dict Text Int)) :
    Except ValueError (List SessionGatewayCaseCoverage) := do
  let operations ← iterOperations unicode openapiDoc .sessionGateway
  let operationsById := Dict.ofList (operations.map fun o => (o.operationId, o))
  let markerCounts := caseMarkerCounts.getD .empty
  let knownCases := Dict.ofList ((casesOf routes).map fun c => (c.caseId, c))
  let markedIds := markerCounts.entries.map Prod.fst
  let unknownMarkers := sortTexts (markedIds.filter fun id => (knownCases.get? id).isNone)
  raiseWhen (unknownMarkers ≠ [])
    ⟨lit "unrecognized pytest.mark.session_gateway_case ids: " ++ joinTexts unknownMarkers⟩
  let noncoveredMarkers := sortTexts (markedIds.filter fun id =>
    (knownCases.get? id).any fun case => decide (case.status ≠ .covered))
  raiseWhen (noncoveredMarkers ≠ [])
    ⟨lit "Session Gateway case markers may reference only covered cases: " ++
      joinTexts noncoveredMarkers⟩
  let (seenOperationIds, rows) ← checkRoutes operationsById markerCounts [] [] routes
  let missingOperationIds := sortTexts ((operationsById.entries.map Prod.fst).filter fun id =>
    decide (id ∉ seenOperationIds))
  raiseWhen (missingOperationIds ≠ [])
    ⟨lit "Session Gateway snapshot operations missing from inventory: " ++
      joinTexts missingOperationIds⟩
  .ok (sortBy rowSortKey rows)

/-! ## The correspondence -/

/-- **The inventory's routes and rows account for the document's operations, the cases and the
markers.** -/
structure Correspondence (routes : List SessionGatewayRoute) (doc : OpenApiDocument)
    (markerCounts : Dict Text Int) (rows : List SessionGatewayCaseCoverage) : Prop where
  /-- No two routes stand at one method and path. -/
  routeKeys : (routes.map fun route => (route.method, route.path)).Nodup
  /-- No two routes carry one operation id. -/
  operationIds : (routes.filterMap SessionGatewayRoute.openapiOperationId).Nodup
  /-- Every operation of the document has an id. -/
  named : ∀ path method item operation, doc.HasOperation path method item operation →
    ∃ id, doc.Declares id method path
  /-- The operations carried are the document's, each with its method and path. -/
  operations : ∀ id method path, doc.Declares id method path ↔
    ∃ route ∈ routes, route.openapiOperationId = some id ∧ route.method = method ∧ route.path = path
  /-- A route carries no operation id exactly where the document has no operation. -/
  noOperation : ∀ route ∈ routes, route.openapiOperationId = none ↔
    ¬ ∃ item operation, doc.HasOperation route.path route.method item operation
  /-- The cases have distinct ids, and one row each. -/
  caseIds : ((casesOf routes).map SessionGatewayCase.caseId).Nodup
  onePerCase : rows.Perm
    (routes.flatMap fun route => route.cases.map (rowOf markerCounts route))
  sorted : rows.Pairwise fun r r' => rowSortKey r < rowSortKey r'
  /-- A row that is not untestable belongs to a public route. -/
  publicRoutes : ∀ row ∈ rows, row.status = .covered ∨ row.status = .deferred →
    row.exposure = .publicRoute
  /-- Only covered rows have markers. -/
  coveredMarkers : ∀ row ∈ rows, row.testMarkerCount ≠ 0 → row.status = .covered
  /-- The rows' marker counts add up to the markers of the map. -/
  total : (rows.map SessionGatewayCaseCoverage.testMarkerCount).sum =
    (markerCounts.entries.map Prod.snd).sum

/-! ## The loop -/

variable {operationsById : Dict Text OpenApiOperation} {markerCounts : Dict Text Int}

theorem checkRouteOperation_eq_ok (hids : ∀ id operation, operationsById.get? id = some operation →
    operation.operationId = id) {seen seen' : List Text} {route : SessionGatewayRoute} :
    checkRouteOperation operationsById seen route = .ok seen' ↔
      (route.openapiOperationId = none ∧ seen' = seen) ∨
        ∃ id operation, route.openapiOperationId = some id ∧
          operationsById.get? id = some operation ∧ operation.method = route.method ∧
          operation.path = route.path ∧ id ∉ seen ∧ seen' = id :: seen := by
  unfold checkRouteOperation
  cases route.openapiOperationId with
  | none => simp [eq_comm]
  | some id =>
    cases hget : operationsById.get? id with
    | none => simp [hget]
    | some operation =>
      have hid := hids id operation hget
      subst hid
      simp only [hget, validateRouteMatchesOperation, bind_eq_ok_iff, raiseWhen_eq_ok, not_or,
        not_not, Except.ok.injEq]
      constructor
      · rintro ⟨-, ⟨hmethod, hpath⟩, -, hnew, rfl⟩
        exact Or.inr ⟨_, operation, rfl, hget, hmethod.symm, hpath.symm, hnew, rfl⟩
      · rintro (⟨hnone, -⟩ | ⟨_, operation', hsome, hget', hmethod, hpath, hnew, rfl⟩)
        · cases hnone
        · cases hsome
          rw [hget, Option.some.injEq] at hget'
          subst hget'
          exact ⟨(), ⟨hmethod.symm, hpath.symm⟩, (), hnew, rfl⟩

theorem caseRow_eq_ok {route : SessionGatewayRoute} {case : SessionGatewayCase}
    {row : SessionGatewayCaseCoverage} : caseRow markerCounts route case = .ok row ↔
      row = rowOf markerCounts route case ∧
        (case.status ≠ .untestable → route.exposure = .publicRoute) := by
  simp only [caseRow, bind_eq_ok_iff, raiseWhen_eq_ok, Except.ok.injEq, not_and, not_not]
  exact ⟨fun ⟨_, hpublic, hrow⟩ => ⟨hrow.symm, hpublic⟩, fun ⟨hrow, hpublic⟩ =>
    ⟨(), hpublic, hrow.symm⟩⟩

theorem readAll_caseRow {route : SessionGatewayRoute} {cases : List SessionGatewayCase}
    {rows : List SessionGatewayCaseCoverage} (h : readAll (caseRow markerCounts route) cases = .ok rows) :
    rows = cases.map (rowOf markerCounts route) ∧
      ∀ case ∈ cases, case.status ≠ .untestable → route.exposure = .publicRoute := by
  have hread := readAll_eq_ok.mp h
  constructor
  · rw [← List.forall₂_eq_eq_eq, List.forall₂_map_right_iff]
    exact hread.flip.imp fun _ _ h => (caseRow_eq_ok.mp h).1
  · intro case hcase
    obtain ⟨row, -, hrow⟩ := exists_of_forall₂ hread hcase
    exact (caseRow_eq_ok.mp hrow).2

/-- What the loop has checked when it ends, having met route keys and operation ids before. -/
structure RoutesChecked (operationsById : Dict Text OpenApiOperation) (markerCounts : Dict Text Int)
    (seenKeys : List (HttpMethod × Text)) (seenIds : List Text) (routes : List SessionGatewayRoute)
    (lastIds : List Text) (rows : List SessionGatewayCaseCoverage) : Prop where
  keys : (routes.map fun r => (r.method, r.path)).Nodup
  newKeys : ∀ r ∈ routes, (r.method, r.path) ∉ seenKeys
  ids : (routes.filterMap SessionGatewayRoute.openapiOperationId).Nodup
  newIds : ∀ r ∈ routes, ∀ id, r.openapiOperationId = some id → id ∉ seenIds
  known : ∀ r ∈ routes, ∀ id, r.openapiOperationId = some id → ∃ operation,
    operationsById.get? id = some operation ∧ operation.method = r.method ∧ operation.path = r.path
  last : ∀ id, id ∈ lastIds ↔ id ∈ seenIds ∨ ∃ r ∈ routes, r.openapiOperationId = some id
  rows_eq : rows = routes.flatMap fun r => r.cases.map (rowOf markerCounts r)
  publicCases : ∀ r ∈ routes, ∀ case ∈ r.cases, case.status ≠ .untestable →
    r.exposure = .publicRoute

/-- **The loop, route by route.** -/
theorem checkRoutes_eq_ok (hids : ∀ id operation, operationsById.get? id = some operation →
    operation.operationId = id) {seenKeys : List (HttpMethod × Text)} {seenIds lastIds : List Text}
    {routes : List SessionGatewayRoute} {rows : List SessionGatewayCaseCoverage}
    (h : checkRoutes operationsById markerCounts seenKeys seenIds routes = .ok (lastIds, rows)) :
    RoutesChecked operationsById markerCounts seenKeys seenIds routes lastIds rows := by
  induction routes generalizing seenKeys seenIds lastIds rows with
  | nil =>
    cases h
    constructor <;> simp
  | cons route routes ih =>
    simp only [checkRoutes, bind_eq_ok_iff, raiseWhen_eq_ok] at h
    obtain ⟨-, hkey, seenIds', hoperation, caseRows, hcases, ⟨lastIds', rest⟩, hrest, h⟩ := h
    cases h
    obtain ⟨hkeys, hnewKeys, hdistinct, hnewIds, hknown, hlast, hrows, hpublic⟩ := ih hrest
    obtain ⟨hcaseRows, hcasePublic⟩ := readAll_caseRow hcases
    have hhead : (route.method, route.path) ∉ routes.map fun r => (r.method, r.path) := by
      intro hmem
      obtain ⟨r, hr, heq⟩ := List.mem_map.mp hmem
      exact hnewKeys r hr (heq ▸ List.mem_cons_self)
    have hrowsEq : caseRows ++ rest =
        (route :: routes).flatMap fun r => r.cases.map (rowOf markerCounts r) := by
      rw [List.flatMap_cons, hcaseRows, hrows]
    have hkeysNew : ∀ r ∈ route :: routes, (r.method, r.path) ∉ seenKeys := by
      rintro r (_ | ⟨_, hr⟩)
      · exact hkey
      · exact fun hmem => hnewKeys r hr (List.mem_cons_of_mem _ hmem)
    have hpublicAll : ∀ r ∈ route :: routes, ∀ case ∈ r.cases, case.status ≠ .untestable →
        r.exposure = .publicRoute := by
      rintro r (_ | ⟨_, hr⟩)
      · exact hcasePublic
      · exact hpublic r hr
    rcases (checkRouteOperation_eq_ok hids).mp hoperation with
      ⟨hnone, rfl⟩ | ⟨id, operation, hsome, hget, hmethod, hpath, hnew, rfl⟩
    · refine ⟨List.nodup_cons.mpr ⟨hhead, hkeys⟩, hkeysNew, ?_, ?_, ?_, ?_, hrowsEq, hpublicAll⟩
      · rwa [List.filterMap_cons_none hnone]
      · rintro r (_ | ⟨_, hr⟩) id hid
        · rw [hnone] at hid
          cases hid
        · exact hnewIds r hr id hid
      · rintro r (_ | ⟨_, hr⟩) id hid
        · rw [hnone] at hid
          cases hid
        · exact hknown r hr id hid
      · intro id
        rw [hlast id, List.exists_mem_cons_iff, hnone]
        simp
    · refine ⟨List.nodup_cons.mpr ⟨hhead, hkeys⟩, hkeysNew, ?_, ?_, ?_, ?_, hrowsEq, hpublicAll⟩
      · rw [List.filterMap_cons_some hsome, List.nodup_cons]
        refine ⟨fun hmem => ?_, hdistinct⟩
        obtain ⟨r, hr, hid⟩ := List.mem_filterMap.mp hmem
        exact hnewIds r hr id hid List.mem_cons_self
      · rintro r (_ | ⟨_, hr⟩) id' hid
        · rw [hsome, Option.some.injEq] at hid
          exact hid ▸ hnew
        · exact fun hmem => hnewIds r hr id' hid (List.mem_cons_of_mem _ hmem)
      · rintro r (_ | ⟨_, hr⟩) id' hid
        · rw [hsome, Option.some.injEq] at hid
          exact ⟨operation, hid ▸ hget, hmethod, hpath⟩
        · exact hknown r hr id' hid
      · intro id'
        rw [hlast id', List.exists_mem_cons_iff, hsome, List.mem_cons, Option.some.injEq]
        tauto

/-! ## The markers -/

/-- Counts looked up at distinct keys that include those of the dictionary add up to its values. -/
theorem sum_getD {d : Dict Text Int} {keys : List Text} (hkeys : keys.Nodup)
    (hsub : ∀ id ∈ d.entries.map Prod.fst, id ∈ keys) :
    (keys.map fun id => d.getD id 0).sum = (d.entries.map Prod.snd).sum := by
  have hvalues : d.entries.map Prod.snd = (d.entries.map Prod.fst).map fun id => d.getD id 0 := by
    rw [List.map_map]
    refine List.map_congr_left fun e he => ?_
    simp [Dict.getD, Dict.mem_entries_iff.mp he]
  rw [hvalues, ← List.sum_toFinset _ hkeys, ← List.sum_toFinset _ d.nodup]
  refine (Finset.sum_subset (fun id hid => ?_) fun id _ hid => ?_).symm
  · exact List.mem_toFinset.mpr (hsub id (List.mem_toFinset.mp hid))
  · have : d.get? id = none := Dict.get?_eq_none_iff.mpr fun hmem => hid (List.mem_toFinset.mpr hmem)
    simp [Dict.getD, this]

/-! ## The function -/

variable {unicode : Unicode} {display : Yaml → Text} {routes : List SessionGatewayRoute}
  {doc : OpenApiDocument} {rows : List SessionGatewayCaseCoverage}

/-- **What the function has checked when it returns.** -/
theorem validateSessionGatewayInventory_eq_ok {marks : Option (Dict Text Int)}
    (h : validateSessionGatewayInventory unicode routes doc marks = .ok rows) :
    ∃ operations lastIds read,
      iterOperations unicode doc .sessionGateway = .ok operations ∧
      (∀ id ∈ (marks.getD .empty).entries.map Prod.fst, ∃ case,
        (Dict.ofList ((casesOf routes).map fun c => (c.caseId, c))).get? id = some case ∧
          case.status = .covered) ∧
      RoutesChecked (Dict.ofList (operations.map fun o => (o.operationId, o))) (marks.getD .empty)
        [] [] routes lastIds read ∧
      (∀ operation ∈ operations, operation.operationId ∈ lastIds) ∧ rows = sortBy rowSortKey read := by
  simp only [validateSessionGatewayInventory, bind_eq_ok_iff, raiseWhen_eq_ok, not_not, ne_eq,
    sortTexts_eq_nil, Except.ok.injEq] at h
  obtain ⟨operations, hoperations, -, hunknown, -, hnoncovered, ⟨lastIds, read⟩, hread, -, hmissing,
    hrows⟩ := h
  have hids := iterOperations_ids hoperations
  refine ⟨operations, lastIds, read, hoperations, fun id hid => ?_,
    checkRoutes_eq_ok (fun id o h => ((Dict.get?_keyed hids).mp h).2) hread, fun o ho => ?_,
    hrows.symm⟩
  · have hknown := List.filter_eq_nil_iff.mp hunknown id hid
    have hcovered := List.filter_eq_nil_iff.mp hnoncovered id hid
    cases hget : (Dict.ofList ((casesOf routes).map fun c => (c.caseId, c))).get? id with
    | none => simp [hget] at hknown
    | some case => exact ⟨case, rfl, by simpa [hget] using hcovered⟩
  · have hkey : o.operationId ∈
        (Dict.ofList (operations.map fun o => (o.operationId, o))).entries.map Prod.fst := by
      rw [Dict.mem_keys_ofList, List.map_map]
      exact List.mem_map_of_mem ho
    simpa using List.filter_eq_nil_iff.mp hmissing _ hkey

/-- The rows of an inventory, before they are sorted. -/
theorem mem_rows {row : SessionGatewayCaseCoverage} :
    (row ∈ routes.flatMap fun r => r.cases.map (rowOf markerCounts r)) ↔
      ∃ route ∈ routes, ∃ case ∈ route.cases, row = rowOf markerCounts route case := by
  simp only [List.mem_flatMap, List.mem_map, eq_comm]

/-- **The rows the function returns** are the rows of the cases. -/
theorem mem_validatedRows {marks : Option (Dict Text Int)}
    (h : validateSessionGatewayInventory unicode routes doc marks = .ok rows)
    {row : SessionGatewayCaseCoverage} : row ∈ rows ↔
      ∃ route ∈ routes, ∃ case ∈ route.cases, row = rowOf (marks.getD .empty) route case := by
  obtain ⟨operations, lastIds, read, -, -, hchecked, -, rfl⟩ := validateSessionGatewayInventory_eq_ok h
  rw [mem_sortBy, hchecked.rows_eq, mem_rows]

theorem mem_casesOf {case : SessionGatewayCase} :
    case ∈ casesOf routes ↔ ∃ route ∈ routes, case ∈ route.cases := List.mem_flatMap

theorem rows_caseIds : (routes.flatMap fun r => r.cases.map (rowOf markerCounts r)).map
    SessionGatewayCaseCoverage.caseId = (casesOf routes).map SessionGatewayCase.caseId := by
  simp only [casesOf, List.map_flatMap, List.map_map]
  rfl

theorem rows_markerCounts : (routes.flatMap fun r => r.cases.map (rowOf markerCounts r)).map
    SessionGatewayCaseCoverage.testMarkerCount =
      ((casesOf routes).map SessionGatewayCase.caseId).map fun id => markerCounts.getD id 0 := by
  simp only [casesOf, List.map_flatMap, List.map_map]
  rfl

/-- Two routes that pass the loop and carry one id are one. -/
theorem route_eq_of_key (h : (routes.map fun r => (r.method, r.path)).Nodup)
    {r r' : SessionGatewayRoute} (hr : r ∈ routes) (hr' : r' ∈ routes) (hmethod : r.method = r'.method)
    (hpath : r.path = r'.path) : r = r' :=
  List.inj_on_of_nodup_map h hr hr' (by rw [hmethod, hpath])

section Operations

variable {operations : List OpenApiOperation} {lastIds : List Text}
  (hoperations : iterOperations unicode doc .sessionGateway = .ok operations)

include hoperations

/-- The operations that are read have an id. -/
theorem named_of_operations {path : Text} {method : HttpMethod} {item operation : Entries}
    (hhas : doc.HasOperation path method item operation) : ∃ id, doc.Declares id method path := by
  obtain ⟨paths, hpaths, hsite⟩ := hasOperation_iff.mp hhas
  obtain ⟨paths', hpaths', hall, -⟩ := iterOperations_returns_iff.mp ⟨_, hoperations⟩
  rw [hpaths, Option.some.injEq, Json.dict.injEq] at hpaths'
  subst hpaths'
  obtain ⟨id, hid, -⟩ := hall _ hsite
  obtain ⟨raw, hraw, hlookup⟩ := OperationSite.id?_eq_some.mp hid
  cases hraw
  exact ⟨id, item, operation, hhas, hlookup⟩

variable (hchecked : RoutesChecked (Dict.ofList (operations.map fun o => (o.operationId, o))) markerCounts
  [] [] routes lastIds rows)

include hchecked

/-- A route with an id stands where the document declares the id. -/
theorem declares_of_route {route : SessionGatewayRoute} (hroute : route ∈ routes) {id : Text}
    (hid : route.openapiOperationId = some id) : doc.Declares id route.method route.path := by
  obtain ⟨o, hget, hmethod, hpath⟩ := hchecked.known route hroute id hid
  obtain ⟨ho, rfl⟩ := (Dict.get?_keyed (iterOperations_ids hoperations)).mp hget
  rw [← hmethod, ← hpath]
  exact ((mem_iterOperations hoperations).mp ho).1

/-- Where the document declares an id stands the route with the id. -/
theorem route_of_declares (hall : ∀ operation ∈ operations, operation.operationId ∈ lastIds) {id path : Text}
    {method : HttpMethod} (hdeclared : doc.Declares id method path) : ∃ route ∈ routes,
      route.openapiOperationId = some id ∧ route.method = method ∧ route.path = path := by
  have ho : (⟨id, method, path, .sessionGateway⟩ : OpenApiOperation) ∈ operations :=
    (mem_iterOperations hoperations).mpr ⟨hdeclared, rfl⟩
  rcases (hchecked.last id).mp (hall _ ho) with hnil | ⟨route, hroute, hid⟩
  · exact absurd hnil List.not_mem_nil
  · obtain ⟨o, hget, hmethod, hpath⟩ := hchecked.known route hroute id hid
    rw [(Dict.get?_keyed (iterOperations_ids hoperations)).mpr ⟨ho, rfl⟩, Option.some.injEq] at hget
    subst hget
    exact ⟨route, hroute, hid, hmethod.symm, hpath.symm⟩

end Operations

/-- **The inventory corresponds to the snapshot.** -/
theorem gateway_correspondence (unicode : Unicode) (display : Yaml → Text) (path : Text)
    (rawInventory : Yaml) (routes : List SessionGatewayRoute) (doc : OpenApiDocument)
    (marks : Option (Dict Text Int)) (rows : List SessionGatewayCaseCoverage)
    (hload : loadSessionGatewayInventory display path rawInventory = .ok routes)
    (hvalidate : validateSessionGatewayInventory unicode routes doc marks = .ok rows) :
    Correspondence routes doc (marks.getD .empty) rows := by
  have hcaseIds := loadSessionGatewayInventory_caseIds hload
  have hmem : ∀ row, row ∈ rows ↔
      ∃ route ∈ routes, ∃ case ∈ route.cases, row = rowOf (marks.getD .empty) route case :=
    fun row => mem_validatedRows hvalidate
  obtain ⟨operations, lastIds, read, hoperations, hmarked, hchecked, hall, rfl⟩ :=
    validateSessionGatewayInventory_eq_ok hvalidate
  have hperm : (sortBy rowSortKey read).Perm read := sortBy_perm _ _
  have hreadIds : (read.map SessionGatewayCaseCoverage.caseId).Nodup := by
    rw [hchecked.rows_eq, rows_caseIds]
    exact hcaseIds
  refine
    { routeKeys := hchecked.keys
      operationIds := hchecked.ids
      named := fun path method item operation hhas => named_of_operations hoperations hhas
      operations := fun id method path => ⟨route_of_declares hoperations hchecked hall, ?_⟩
      noOperation := fun route hmemRoute => ⟨?_, ?_⟩
      caseIds := hcaseIds
      onePerCase := hchecked.rows_eq ▸ hperm
      sorted := sortBy_strict ?_
      publicRoutes := ?_
      coveredMarkers := ?_
      total := ?_ }
  · rintro ⟨route, hmemRoute, hid, rfl, rfl⟩
    exact declares_of_route hoperations hchecked hmemRoute hid
  · rintro hnone ⟨item, operation, hhas⟩
    obtain ⟨id, hdeclared⟩ := named_of_operations hoperations hhas
    obtain ⟨route', hmemRoute', hid, hmethod, hpath⟩ :=
      route_of_declares hoperations hchecked hall hdeclared
    rw [route_eq_of_key hchecked.keys hmemRoute' hmemRoute hmethod hpath, hnone] at hid
    cases hid
  · intro hno
    cases hid : route.openapiOperationId with
    | none => rfl
    | some id =>
      obtain ⟨item, operation, hhas, -⟩ := declares_of_route hoperations hchecked hmemRoute hid
      exact absurd ⟨item, operation, hhas⟩ hno
  · rw [List.Nodup, List.pairwise_map] at hreadIds ⊢
    exact hreadIds.imp fun hne heq => hne (keyOfTexts_inj.mp heq).2.2
  · intro row hrow hstatus
    obtain ⟨route, hmemRoute, case, hcase, rfl⟩ := (hmem row).mp hrow
    refine hchecked.publicCases route hmemRoute case hcase fun huntestable => ?_
    rcases hstatus with h | h
    · cases huntestable.symm.trans h
    · cases huntestable.symm.trans h
  · intro row hrow hcount
    obtain ⟨route, hmemRoute, case, hcase, rfl⟩ := (hmem row).mp hrow
    have hkey : case.caseId ∈ (marks.getD .empty).entries.map Prod.fst := by
      by_contra hkey
      exact hcount (by simp [rowOf, Dict.getD, Dict.get?_eq_none_iff.mpr hkey])
    obtain ⟨case', hget, hcovered⟩ := hmarked _ hkey
    obtain ⟨hcase', hid⟩ := (Dict.get?_keyed hcaseIds).mp hget
    have hsame : case' = case := List.inj_on_of_nodup_map hcaseIds hcase'
      (mem_casesOf.mpr ⟨route, hmemRoute, hcase⟩) hid
    exact hsame ▸ hcovered
  · rw [(hperm.map _).sum_eq, hchecked.rows_eq, rows_markerCounts]
    refine sum_getD hcaseIds fun id hid => ?_
    obtain ⟨case, hget, -⟩ := hmarked id hid
    obtain ⟨hcase, rfl⟩ := (Dict.get?_keyed hcaseIds).mp hget
    exact List.mem_map_of_mem hcase

/-- A mapping with text keys. -/
def yamlMapping (entries : List (String × Yaml)) : Yaml :=
  .dict (entries.map fun e => (.text (lit e.1), e.2))

/-- The logout route with one covered case, and the probe of the pod, which no test reaches. -/
def logoutInventory : Yaml :=
  yamlMapping [("routes", .list [
    yamlMapping [("method", .str (lit "GET")), ("path", .str (lit "/logout")),
      ("owner", .str (lit "spring_security")), ("exposure", .str (lit "public")),
      ("openapi_operation_id", .str (lit "logout")), ("cases", .list [
        yamlMapping [("id", .str (lit "logout-redirect")), ("behavior", .str (lit "redirects")),
          ("status", .str (lit "covered"))]])],
    yamlMapping [("method", .str (lit "GET")), ("path", .str (lit "/health")),
      ("owner", .str (lit "actuator")), ("exposure", .str (lit "mesh_internal")),
      ("cases", .list [
        yamlMapping [("id", .str (lit "probe")), ("behavior", .str (lit "answers")),
          ("status", .str (lit "untestable")), ("reason", .str (lit "internal")),
          ("boundary", .str (lit "mesh"))]])]])]

def logoutRoutes : List SessionGatewayRoute := [
  { method := .get, path := lit "/logout", owner := .springSecurity, exposure := .publicRoute,
    openapiOperationId := some (lit "logout"),
    cases := [
      { caseId := lit "logout-redirect", behavior := lit "redirects", status := .covered,
        reason := none, prerequisite := none, boundary := none, optionalIndirectProof := none }] },
  { method := .get, path := lit "/health", owner := .actuator, exposure := .meshInternal,
    openapiOperationId := none,
    cases := [
      { caseId := lit "probe", behavior := lit "answers", status := .untestable,
        reason := some (lit "internal"), prerequisite := none, boundary := some (lit "mesh"),
        optionalIndirectProof := none }] }]

def logoutDocument : OpenApiDocument where
  entries := [(lit "paths", .dict [(lit "/logout", .dict [(lit "get", .dict [(lit "operationId",
    .str (lit "logout"))])])])]
  keysDistinct := by simp [Json.KeysDistinct, Json.KeysDistinctEntries]

/-- Two tests of the logout. -/
def logoutMarks : Dict Text Int := .single (lit "logout-redirect") 2

/-- The rows, the probe's first by its path. -/
def logoutRows : List SessionGatewayCaseCoverage :=
  logoutRoutes.reverse.flatMap fun route => route.cases.map (rowOf logoutMarks route)

theorem gateway_correspondence_example :
    Correspondence logoutRoutes logoutDocument logoutMarks logoutRows :=
  gateway_correspondence .ascii (fun _ => []) (lit "inventory.yaml") logoutInventory
    logoutRoutes logoutDocument (some logoutMarks) logoutRows (by decide +kernel)
    (by decide +kernel)

end ApiTests.Coverage
