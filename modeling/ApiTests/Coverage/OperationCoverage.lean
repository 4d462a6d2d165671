import ApiTests.Coverage.GatewayReport
import ApiTests.Py.Counter
import Mathlib.Algebra.BigOperators.Ring.Finset
import Mathlib.Algebra.Ring.Int.Defs

/-!
# The coverage rows of the operations

Model of `build_marker_counts`, `build_operation_coverage`, `_validate_inventory` and
`_coverage_status` (`coverage.py:107-209, 398-405`). The markers of the tests are counted for each
contract and id, the inventory is checked, and each operation gets a row.

`InventoryAgrees` says what the checks are for, `CoverageRows` what the rows say about the markers,
both in terms of the lists that were passed.

Results:
* `getD_buildMarkerCounts`: the counts of a key are the numbers of its markers.
* **`operation_coverage`**: the rows are written iff the inventory agrees, and then every marker is
  counted once, for its own operation.
-/

namespace ApiTests.Coverage

open Py OpenApi

/-- `DeferredAdminOperation`. -/
structure DeferredAdminOperation where
  operationId : Text
  method : HttpMethod
  path : Text
  deriving Repr, DecidableEq

/-- A marker of a test: contract, operation id, and whether the test is a placeholder. -/
abbrev MarkerTriple := OpenApiContractKey × Text × Bool

/-- `OperationKey(contract=contract, operation_id=operation_id)`. -/
def keyOfMarker (marker : MarkerTriple) : OperationKey := ⟨marker.1, marker.2.1⟩

def isPlaceholder (marker : MarkerTriple) : Bool := marker.2.2

/-- `OperationKey(operation.contract, operation.operation_id)`. -/
def keyOfOperation (operation : OpenApiOperation) : OperationKey :=
  ⟨operation.contract, operation.operationId⟩

/-- The text of a contract key. -/
def contractText : OpenApiContractKey → Text
  | .unified => lit "unified"
  | .sessionGateway => lit "session_gateway"

/-- The order of `OperationKey`, field by field. -/
def OperationKey.sortKey (key : OperationKey) : Text ×ₗ Text :=
  toLex (contractText key.contract, key.operationId)

/-- One round of the loop of `build_marker_counts`. -/
def countMarker (counters : Dict OperationKey Int × Dict OperationKey Int) (marker : MarkerTriple) :
    Dict OperationKey Int × Dict OperationKey Int :=
  (counters.1.increment (keyOfMarker marker),
    if isPlaceholder marker then counters.2.increment (keyOfMarker marker) else counters.2)

/-- `build_marker_counts`. -/
def buildMarkerCounts (markers : List MarkerTriple) : Dict OperationKey MarkerCounts :=
  let counters := markers.foldl countMarker (.empty, .empty)
  let operationKeys := (counters.1.entries.map Prod.fst ++ counters.2.entries.map Prod.fst).dedup
  .ofList ((sortBy OperationKey.sortKey operationKeys).map fun key =>
    (key, ⟨counters.1.getD key 0, counters.2.getD key 0⟩))

/-- The error about an operation met again. -/
def duplicateOperationKey (unicode : Unicode) (previous operation : OpenApiOperation) : ValueError :=
  ⟨lit "duplicate " ++ contractText operation.contract ++ lit " OpenAPI operationId " ++
    reprText unicode operation.operationId ++ lit ": " ++ previous.method.text ++ lit " " ++
    previous.path ++ lit " and " ++ operation.method.text ++ lit " " ++ operation.path⟩

/-- The error about a deferred id met again. -/
def duplicateDeferred (_ deferred : DeferredAdminOperation) : ValueError :=
  ⟨lit "duplicate deferred admin operationId: " ++ deferred.operationId⟩

/-- The checks on one deferred operation. -/
def checkDeferred (operationsByKey : Dict OperationKey OpenApiOperation)
    (deferred : DeferredAdminOperation) : Except ValueError DeferredAdminOperation :=
  match operationsByKey.get? ⟨.unified, deferred.operationId⟩ with
  | none => .error ⟨lit "stale deferred admin operation is absent from OpenAPI: " ++
      deferred.operationId ++ lit " (" ++ deferred.method.text ++ lit " " ++ deferred.path ++ lit ")"⟩
  | some matchingOperation => do
    raiseWhen (matchingOperation.method ≠ deferred.method ∨ matchingOperation.path ≠ deferred.path)
      ⟨lit "stale deferred admin method/path for " ++ deferred.operationId ++
        lit ": manifest has " ++ deferred.method.text ++ lit " " ++ deferred.path ++
        lit ", OpenAPI has " ++ matchingOperation.method.text ++ lit " " ++ matchingOperation.path⟩
    .ok deferred

/-- `_validate_inventory`. -/
def validateInventory (unicode : Unicode) (operations : List OpenApiOperation)
    (deferredAdminOperations : List DeferredAdminOperation)
    (markerCounts : Dict OperationKey MarkerCounts) : Except ValueError Unit := do
  let checked ← collect .ok keyOfOperation (duplicateOperationKey unicode) .ok [] operations
  let operationsByKey := Dict.ofList (checked.map fun o => (keyOfOperation o, o))
  let unrecognizedMarkers := sortBy OperationKey.sortKey
    ((markerCounts.entries.map Prod.fst).filter fun key => (operationsByKey.get? key).isNone)
  raiseWhen (unrecognizedMarkers ≠ [])
    ⟨lit "unrecognized pytest.mark.openapi operations: " ++ joinTexts
      (unrecognizedMarkers.map fun key => contractText key.contract ++ lit ":" ++ key.operationId)⟩
  let _ ← collect .ok DeferredAdminOperation.operationId duplicateDeferred
    (checkDeferred operationsByKey) [] deferredAdminOperations
  .ok ()

/-- `_coverage_status`. -/
def coverageStatus (deferredAdmin : Bool) (counts : MarkerCounts) : CoverageStatus :=
  if deferredAdmin then .deferred
  else if counts.markerCount = 0 then .missing
  else if counts.placeholderMarkerCount = counts.markerCount then .placeholder
  else .covered

/-- The row of an operation. -/
def operationRow (source : CoverageSource) (deferredById : Dict Text DeferredAdminOperation)
    (markerCounts : Dict OperationKey MarkerCounts) (operation : OpenApiOperation) :
    OperationCoverage :=
  let counts := markerCounts.getD (keyOfOperation operation) .zero
  let deferredAdmin :=
    decide (operation.contract = .unified) && (deferredById.get? operation.operationId).isSome
  { contract := operation.contract
    operationId := operation.operationId
    method := operation.method
    path := operation.path
    source
    deferredAdmin
    markerCount := counts.markerCount
    placeholderMarkerCount := counts.placeholderMarkerCount
    status := coverageStatus deferredAdmin counts }

/-- `build_operation_coverage`. -/
def buildOperationCoverage (unicode : Unicode) (operations : List OpenApiOperation)
    (deferredAdminOperations : List DeferredAdminOperation)
    (markerCounts : Dict OperationKey MarkerCounts) (source : CoverageSource) :
    Except ValueError (List OperationCoverage) := do
  validateInventory unicode operations deferredAdminOperations markerCounts
  let deferredById := Dict.ofList (deferredAdminOperations.map fun d => (d.operationId, d))
  .ok ((sortBy operationSortKey operations).map (operationRow source deferredById markerCounts))

/-! ## What agrees, and what the rows say -/

/-- **The markers and the deferred operations agree with the operations.** -/
structure InventoryAgrees (operations : List OpenApiOperation)
    (deferredAdminOperations : List DeferredAdminOperation) (markers : List MarkerTriple) : Prop where
  operationKeys : (operations.map keyOfOperation).Nodup
  marked : ∀ marker ∈ markers, ∃ operation ∈ operations,
    keyOfOperation operation = keyOfMarker marker
  deferredIds : (deferredAdminOperations.map DeferredAdminOperation.operationId).Nodup
  deferred : ∀ deferred ∈ deferredAdminOperations, ∃ operation ∈ operations,
    operation.contract = .unified ∧ operation.operationId = deferred.operationId ∧
      operation.method = deferred.method ∧ operation.path = deferred.path

/-- The marker is for the operation of the row. -/
def MarkerOf (row : OperationCoverage) (marker : MarkerTriple) : Prop :=
  marker.1 = row.contract ∧ marker.2.1 = row.operationId

instance (row : OperationCoverage) (marker : MarkerTriple) : Decidable (MarkerOf row marker) :=
  inferInstanceAs (Decidable (_ ∧ _))

/-- The row is for a deferred unified operation. -/
def DeferredRow (deferredAdminOperations : List DeferredAdminOperation) (row : OperationCoverage) :
    Prop :=
  row.contract = .unified ∧ ∃ deferred ∈ deferredAdminOperations,
    deferred.operationId = row.operationId

/-- **What the rows say about the markers.** -/
structure CoverageRows (operations : List OpenApiOperation)
    (deferredAdminOperations : List DeferredAdminOperation) (markers : List MarkerTriple)
    (rows : List OperationCoverage) : Prop where
  /-- One row an operation. -/
  onePerOperation : (rows.map fun r => (r.contract, r.operationId, r.method, r.path)).Perm
    (operations.map fun o => (o.contract, o.operationId, o.method, o.path))
  sorted : rows.Pairwise fun r r' => keyOfTexts r.path r.method.text r.operationId ≤
    keyOfTexts r'.path r'.method.text r'.operationId
  markerCount : ∀ r ∈ rows, r.markerCount = (markers.countP fun m => MarkerOf r m : Nat)
  placeholderMarkerCount : ∀ r ∈ rows, r.placeholderMarkerCount =
    (markers.countP fun m => MarkerOf r m ∧ isPlaceholder m = true : Nat)
  /-- No marker is lost or counted twice. -/
  total : (rows.map OperationCoverage.markerCount).sum = markers.length
  deferred : ∀ r ∈ rows, r.status = .deferred ↔ DeferredRow deferredAdminOperations r
  missing : ∀ r ∈ rows, r.status = .missing ↔
    ¬ DeferredRow deferredAdminOperations r ∧ ∀ m ∈ markers, ¬ MarkerOf r m
  placeholder : ∀ r ∈ rows, r.status = .placeholder ↔ ¬ DeferredRow deferredAdminOperations r ∧
    (∃ m ∈ markers, MarkerOf r m) ∧ ∀ m ∈ markers, MarkerOf r m → isPlaceholder m = true
  covered : ∀ r ∈ rows, r.status = .covered ↔ ¬ DeferredRow deferredAdminOperations r ∧
    ∃ m ∈ markers, MarkerOf r m ∧ isPlaceholder m = false

/-! ## The counts -/

variable {operations : List OpenApiOperation} {deferredAdminOperations : List DeferredAdminOperation}
  {markers : List MarkerTriple}

/-- The loop fills two counters. -/
theorem foldl_countMarker (counters : Dict OperationKey Int × Dict OperationKey Int) :
    markers.foldl countMarker counters =
      ((markers.map keyOfMarker).foldl Dict.increment counters.1,
        ((markers.filter isPlaceholder).map keyOfMarker).foldl Dict.increment counters.2) := by
  induction markers generalizing counters with
  | nil => rfl
  | cons marker markers ih =>
    rw [List.foldl_cons, ih, List.map_cons, List.foldl_cons]
    unfold countMarker
    by_cases h : isPlaceholder marker = true
    · rw [if_pos h, List.filter_cons_of_pos h, List.map_cons, List.foldl_cons]
    · rw [if_neg h, List.filter_cons_of_neg h]

/-- The keys of both counters. -/
def markedKeys (markers : List MarkerTriple) : List OperationKey :=
  ((counterOf (markers.map keyOfMarker)).entries.map Prod.fst ++
    (counterOf ((markers.filter isPlaceholder).map keyOfMarker)).entries.map Prod.fst).dedup

theorem mem_markedKeys {key : OperationKey} :
    key ∈ markedKeys markers ↔ ∃ marker ∈ markers, keyOfMarker marker = key := by
  rw [markedKeys, List.mem_dedup, List.mem_append, mem_keys_counterOf, mem_keys_counterOf,
    List.mem_map, List.mem_map, or_iff_left_iff_imp]
  rintro ⟨marker, hmarker, rfl⟩
  exact ⟨marker, List.mem_of_mem_filter hmarker, rfl⟩

/-- The counts of the markers with one key. -/
def countsOf (markers : List MarkerTriple) (key : OperationKey) : MarkerCounts :=
  ⟨((markers.map keyOfMarker).count key : Nat),
    (((markers.filter isPlaceholder).map keyOfMarker).count key : Nat)⟩

theorem buildMarkerCounts_eq : buildMarkerCounts markers =
    .ofList ((sortBy OperationKey.sortKey (markedKeys markers)).map fun key =>
      (key, countsOf markers key)) := by
  unfold buildMarkerCounts
  simp only [foldl_countMarker]
  refine congrArg Dict.ofList (List.map_congr_left fun key _ => ?_)
  exact congrArg (Prod.mk key) (congr (congrArg MarkerCounts.mk (getD_counterOf _ key))
    (getD_counterOf _ key))

theorem mem_keys_buildMarkerCounts {key : OperationKey} :
    key ∈ (buildMarkerCounts markers).entries.map Prod.fst ↔
      ∃ marker ∈ markers, keyOfMarker marker = key := by
  rw [buildMarkerCounts_eq, Dict.mem_keys_ofList, List.map_map, ← mem_markedKeys, List.mem_map]
  simp

/-- **The counts of a key are the numbers of its markers.** -/
theorem getD_buildMarkerCounts (key : OperationKey) :
    (buildMarkerCounts markers).getD key .zero = countsOf markers key := by
  have hkeys : ((sortBy OperationKey.sortKey (markedKeys markers)).map fun key =>
      (key, countsOf markers key)).map Prod.fst =
        sortBy OperationKey.sortKey (markedKeys markers) := by
    rw [List.map_map]
    exact List.map_id _
  have hnodup : (((sortBy OperationKey.sortKey (markedKeys markers)).map fun key =>
      (key, countsOf markers key)).map Prod.fst).Nodup := by
    rw [hkeys]
    exact (sortBy_perm _ _).nodup_iff.mpr (List.nodup_dedup _)
  unfold Dict.getD
  by_cases hmem : key ∈ markedKeys markers
  · rw [buildMarkerCounts_eq, (Dict.get?_ofList_eq_some_iff hnodup).mpr
      (List.mem_map_of_mem (mem_sortBy.mpr hmem)), Option.getD_some]
  · have hnone : ∀ marker ∈ markers, keyOfMarker marker ≠ key := fun marker hmarker heq =>
      hmem (mem_markedKeys.mpr ⟨marker, hmarker, heq⟩)
    rw [buildMarkerCounts_eq, (Dict.get?_ofList_eq_none_iff hnodup).mpr
      (by rwa [hkeys, mem_sortBy])]
    unfold countsOf
    rw [List.count_eq_zero_of_not_mem fun h => ?_, List.count_eq_zero_of_not_mem fun h => ?_]
    · rfl
    · obtain ⟨marker, hmarker, heq⟩ := List.mem_map.mp h
      exact hnone marker (List.mem_of_mem_filter hmarker) heq
    · obtain ⟨marker, hmarker, heq⟩ := List.mem_map.mp h
      exact hnone marker hmarker heq

/-! ## The checks -/

theorem checkDeferred_eq_ok {operationsByKey : Dict OperationKey OpenApiOperation}
    {deferred checked : DeferredAdminOperation} :
    checkDeferred operationsByKey deferred = .ok checked ↔ checked = deferred ∧
      ∃ operation, operationsByKey.get? ⟨.unified, deferred.operationId⟩ = some operation ∧
        operation.method = deferred.method ∧ operation.path = deferred.path := by
  unfold checkDeferred
  cases operationsByKey.get? ⟨.unified, deferred.operationId⟩ with
  | none => simp
  | some operation =>
    simp only [bind_eq_ok_iff, raiseWhen_eq_ok, Except.ok.injEq, Option.some.injEq, not_or, not_not]
    constructor
    · rintro ⟨-, ⟨hmethod, hpath⟩, rfl⟩
      exact ⟨rfl, operation, rfl, hmethod, hpath⟩
    · rintro ⟨rfl, _, rfl, hmethod, hpath⟩
      exact ⟨(), ⟨hmethod, hpath⟩, rfl⟩

/-- No marked key is without an operation. -/
theorem unrecognizedKeys_eq_nil :
    ((buildMarkerCounts markers).entries.map Prod.fst).filter (fun key =>
        ((Dict.ofList (operations.map fun o => (keyOfOperation o, o))).get? key).isNone) = [] ↔
      ∀ marker ∈ markers, ∃ operation ∈ operations,
        keyOfOperation operation = keyOfMarker marker := by
  have hknown : ∀ key, ¬ ((Dict.ofList (operations.map fun o => (keyOfOperation o, o))).get?
      key).isNone = true ↔ ∃ operation ∈ operations, keyOfOperation operation = key := by
    intro key
    rw [Option.isNone_iff_eq_none, Dict.get?_eq_none_iff, not_not, Dict.mem_keys_ofList,
      List.map_map, List.mem_map]
    rfl
  rw [List.filter_eq_nil_iff]
  simp only [hknown, mem_keys_buildMarkerCounts]
  constructor
  · exact fun h marker hmarker => h _ ⟨marker, hmarker, rfl⟩
  · rintro h _ ⟨marker, hmarker, rfl⟩
    exact h marker hmarker

/-- **What the validation checks.** -/
theorem validateInventory_eq_ok {unicode : Unicode} :
    validateInventory unicode operations deferredAdminOperations (buildMarkerCounts markers) = .ok () ↔
      InventoryAgrees operations deferredAdminOperations markers := by
  have hsame : ∀ b c : OpenApiOperation, (.ok b : Except ValueError OpenApiOperation) = .ok c →
      c = b := fun b c h => (Except.ok.inj h).symm
  have hcheck : ∀ b c : DeferredAdminOperation, checkDeferred
      (Dict.ofList (operations.map fun o => (keyOfOperation o, o))) b = .ok c → c = b :=
    fun b c h => (checkDeferred_eq_ok.mp h).1
  have hget : (operations.map keyOfOperation).Nodup → ∀ (id : Text) (operation : OpenApiOperation),
      (Dict.ofList (operations.map fun o => (keyOfOperation o, o))).get? ⟨.unified, id⟩ =
          some operation ↔
        operation ∈ operations ∧ operation.contract = .unified ∧ operation.operationId = id := by
    intro hkeys id operation
    rw [Dict.get?_keyed hkeys, keyOfOperation, OperationKey.mk.injEq]
  simp only [validateInventory, bind_eq_ok_iff, collect_check_eq_ok hsame, raiseWhen_eq_ok, ne_eq,
    not_not, sortBy_eq_nil]
  constructor
  · rintro ⟨_, ⟨rfl, hkeys, -⟩, -, hmarked, _, hdeferred, -⟩
    obtain ⟨rfl, hids, hchecked⟩ := (collect_check_eq_ok hcheck).mp hdeferred
    refine ⟨hkeys, unrecognizedKeys_eq_nil.mp hmarked, hids, fun d hd => ?_⟩
    obtain ⟨-, operation, hoperation, hmethod, hpath⟩ := checkDeferred_eq_ok.mp (hchecked d hd)
    obtain ⟨hmem, hcontract, hid⟩ := (hget hkeys _ _).mp hoperation
    exact ⟨operation, hmem, hcontract, hid, hmethod, hpath⟩
  · intro h
    refine ⟨operations, ⟨rfl, h.operationKeys, fun _ _ => trivial⟩, (), unrecognizedKeys_eq_nil.mpr
      h.marked, deferredAdminOperations, (collect_check_eq_ok hcheck).mpr ⟨rfl, h.deferredIds,
        fun d hd => ?_⟩, trivial⟩
    obtain ⟨operation, hmem, hcontract, hid, hmethod, hpath⟩ := h.deferred d hd
    exact checkDeferred_eq_ok.mpr ⟨rfl, operation,
      (hget h.operationKeys _ _).mpr ⟨hmem, hcontract, hid⟩, hmethod, hpath⟩

/-! ## The rows -/

/-- The counts as numbers of markers. -/
theorem countsOf_row (row : OperationCoverage) : countsOf markers ⟨row.contract, row.operationId⟩ =
    ⟨(markers.countP fun m => MarkerOf row m : Nat),
      (markers.countP fun m => isPlaceholder m && decide (MarkerOf row m) : Nat)⟩ := by
  have hkey : ∀ m : MarkerTriple, (keyOfMarker m == ⟨row.contract, row.operationId⟩) =
      decide (MarkerOf row m) := by
    intro m
    rw [beq_eq_decide, keyOfMarker]
    exact decide_eq_decide.mpr (iff_of_eq (OperationKey.mk.injEq ..))
  unfold countsOf List.count
  rw [List.countP_map, List.countP_map, List.countP_filter]
  simp only [Function.comp_def, hkey, Bool.and_comm]

/-- The placeholder markers are all the markers iff none is real. -/
theorem countP_and_eq_iff {α : Type} {p q : α → Bool} {l : List α} :
    (l.countP fun a => q a && p a) = l.countP p ↔ ∀ a ∈ l, p a = true → q a = true := by
  rw [← List.countP_filter, List.countP_eq_length_filter (p := p), List.countP_eq_length]
  simp only [List.mem_filter, and_imp]

theorem coverageStatus_deferred {deferredAdmin : Bool} {counts : MarkerCounts} :
    coverageStatus deferredAdmin counts = .deferred ↔ deferredAdmin = true := by
  unfold coverageStatus
  split_ifs <;> simp_all

theorem coverageStatus_missing {deferredAdmin : Bool} {counts : MarkerCounts} :
    coverageStatus deferredAdmin counts = .missing ↔
      deferredAdmin = false ∧ counts.markerCount = 0 := by
  unfold coverageStatus
  split_ifs <;> simp_all

theorem coverageStatus_placeholder {deferredAdmin : Bool} {counts : MarkerCounts} :
    coverageStatus deferredAdmin counts = .placeholder ↔ deferredAdmin = false ∧
      counts.markerCount ≠ 0 ∧ counts.placeholderMarkerCount = counts.markerCount := by
  unfold coverageStatus
  split_ifs <;> simp_all

theorem coverageStatus_covered {deferredAdmin : Bool} {counts : MarkerCounts} :
    coverageStatus deferredAdmin counts = .covered ↔ deferredAdmin = false ∧
      counts.markerCount ≠ 0 ∧ counts.placeholderMarkerCount ≠ counts.markerCount := by
  unfold coverageStatus
  split_ifs <;> simp_all

/-- What the row of an operation reports. -/
structure RowOf (deferredAdminOperations : List DeferredAdminOperation) (markers : List MarkerTriple)
    (row : OperationCoverage) : Prop where
  deferredAdmin : row.deferredAdmin = true ↔ DeferredRow deferredAdminOperations row
  markerCount : row.markerCount = (markers.countP fun m => MarkerOf row m : Nat)
  placeholderMarkerCount : row.placeholderMarkerCount =
    (markers.countP fun m => isPlaceholder m && decide (MarkerOf row m) : Nat)
  status : row.status =
    coverageStatus row.deferredAdmin ⟨row.markerCount, row.placeholderMarkerCount⟩

theorem rowOf_operationRow (source : CoverageSource) (operation : OpenApiOperation) :
    RowOf deferredAdminOperations markers (operationRow source
      (.ofList (deferredAdminOperations.map fun d => (d.operationId, d)))
      (buildMarkerCounts markers) operation) := by
  have hcounts : ∀ row : OperationCoverage, row.contract = operation.contract →
      row.operationId = operation.operationId →
      (buildMarkerCounts markers).getD (keyOfOperation operation) .zero =
        ⟨(markers.countP fun m => MarkerOf row m : Nat),
          (markers.countP fun m => isPlaceholder m && decide (MarkerOf row m) : Nat)⟩ := by
    intro row hcontract hid
    rw [getD_buildMarkerCounts, keyOfOperation, ← hcontract, ← hid, countsOf_row]
  refine ⟨?_, congrArg MarkerCounts.markerCount (hcounts _ rfl rfl),
    congrArg MarkerCounts.placeholderMarkerCount (hcounts _ rfl rfl), rfl⟩
  have hknown : ((Dict.ofList (deferredAdminOperations.map fun d => (d.operationId, d))).get?
      operation.operationId).isSome = true ↔
        ∃ d ∈ deferredAdminOperations, d.operationId = operation.operationId := by
    rw [Option.isSome_iff_ne_none, ne_eq, Dict.get?_eq_none_iff, not_not, Dict.mem_keys_ofList,
      List.map_map, List.mem_map]
    rfl
  simp only [operationRow, DeferredRow, Bool.and_eq_true, decide_eq_true_eq, hknown]

namespace RowOf

variable {row : OperationCoverage} (h : RowOf deferredAdminOperations markers row)

include h

theorem markerCount_eq_zero : row.markerCount = 0 ↔ ∀ m ∈ markers, ¬ MarkerOf row m := by
  rw [h.markerCount, Int.natCast_eq_zero, List.countP_eq_zero]
  simp only [decide_eq_true_eq]

theorem placeholder_eq : row.placeholderMarkerCount = row.markerCount ↔
    ∀ m ∈ markers, MarkerOf row m → isPlaceholder m = true := by
  rw [h.markerCount, h.placeholderMarkerCount, Int.ofNat_inj, countP_and_eq_iff]
  simp only [decide_eq_true_eq]

theorem not_deferred : row.deferredAdmin = false ↔ ¬ DeferredRow deferredAdminOperations row := by
  rw [← h.deferredAdmin, Bool.not_eq_true]

theorem status_deferred : row.status = .deferred ↔ DeferredRow deferredAdminOperations row := by
  rw [h.status, coverageStatus_deferred, h.deferredAdmin]

theorem status_missing : row.status = .missing ↔
    ¬ DeferredRow deferredAdminOperations row ∧ ∀ m ∈ markers, ¬ MarkerOf row m := by
  rw [h.status, coverageStatus_missing, h.not_deferred, h.markerCount_eq_zero]

theorem exists_marker : row.markerCount ≠ 0 ↔ ∃ m ∈ markers, MarkerOf row m := by
  rw [ne_eq, h.markerCount_eq_zero]
  simp only [not_forall, not_not, exists_prop]

theorem status_placeholder : row.status = .placeholder ↔
    ¬ DeferredRow deferredAdminOperations row ∧ (∃ m ∈ markers, MarkerOf row m) ∧
      ∀ m ∈ markers, MarkerOf row m → isPlaceholder m = true := by
  rw [h.status, coverageStatus_placeholder, h.not_deferred, h.exists_marker, h.placeholder_eq]

theorem status_covered : row.status = .covered ↔ ¬ DeferredRow deferredAdminOperations row ∧
    ∃ m ∈ markers, MarkerOf row m ∧ isPlaceholder m = false := by
  rw [h.status, coverageStatus_covered, h.not_deferred, h.exists_marker, ne_eq, h.placeholder_eq]
  refine and_congr_right fun _ => ⟨fun ⟨_, hreal⟩ => ?_, fun ⟨m, hm, hrow, hreal⟩ => ?_⟩
  · by_contra hnone
    refine hreal fun m hm hrow => ?_
    by_contra hplaceholder
    exact hnone ⟨m, hm, hrow, Bool.eq_false_of_not_eq_true hplaceholder⟩
  · exact ⟨⟨m, hm, hrow⟩, fun hall => Bool.false_ne_true (hreal.symm.trans (hall m hm hrow))⟩

end RowOf

/-- **What the function does**: it checks the inventory and writes the rows. -/
theorem buildOperationCoverage_eq_ok {unicode : Unicode} {source : CoverageSource}
    {rows : List OperationCoverage} :
    buildOperationCoverage unicode operations deferredAdminOperations (buildMarkerCounts markers)
        source = .ok rows ↔
      InventoryAgrees operations deferredAdminOperations markers ∧
        rows = (sortBy operationSortKey operations).map (operationRow source
          (.ofList (deferredAdminOperations.map fun d => (d.operationId, d)))
          (buildMarkerCounts markers)) := by
  simp only [buildOperationCoverage, bind_eq_ok_iff, Except.ok.injEq]
  constructor
  · rintro ⟨_, hvalid, rfl⟩
    exact ⟨validateInventory_eq_ok.mp hvalid, rfl⟩
  · rintro ⟨h, rfl⟩
    exact ⟨(), validateInventory_eq_ok.mpr h, rfl⟩

/-- The counts of the rows add up to the number of markers. -/
theorem sum_markerCount (h : InventoryAgrees operations deferredAdminOperations markers)
    (source : CoverageSource) (deferredById : Dict Text DeferredAdminOperation) :
    (((sortBy operationSortKey operations).map (operationRow source deferredById
      (buildMarkerCounts markers))).map OperationCoverage.markerCount).sum = markers.length := by
  have hkeys : ((sortBy operationSortKey operations).map keyOfOperation).Nodup :=
    ((sortBy_perm operationSortKey operations).map keyOfOperation).nodup_iff.mpr h.operationKeys
  have hcover : ∀ key ∈ markers.map keyOfMarker,
      key ∈ (sortBy operationSortKey operations).map keyOfOperation := by
    intro key hkey
    obtain ⟨marker, hmarker, rfl⟩ := List.mem_map.mp hkey
    obtain ⟨operation, hoperation, heq⟩ := h.marked marker hmarker
    exact heq ▸ List.mem_map_of_mem (mem_sortBy.mpr hoperation)
  have hcounts : ((sortBy operationSortKey operations).map (operationRow source deferredById
      (buildMarkerCounts markers))).map OperationCoverage.markerCount =
        (((sortBy operationSortKey operations).map keyOfOperation).map fun key =>
          (markers.map keyOfMarker).count key).map fun n : Nat => (n : Int) := by
    rw [List.map_map, List.map_map, List.map_map]
    refine List.map_congr_left fun operation _ => ?_
    simp only [Function.comp, operationRow, getD_buildMarkerCounts, countsOf]
  have hsum := sum_count_of_subset hkeys hcover
  rw [hcounts, ← Nat.cast_list_sum, hsum, List.length_map]

/-- **The coverage rows**: they are written iff the inventory agrees, and then every marker is counted
once, for its own operation. -/
theorem operation_coverage (unicode : Unicode) (operations : List OpenApiOperation)
    (deferredAdminOperations : List DeferredAdminOperation) (markers : List MarkerTriple)
    (source : CoverageSource) :
    ((∃ rows, buildOperationCoverage unicode operations deferredAdminOperations
        (buildMarkerCounts markers) source = .ok rows) ↔
        InventoryAgrees operations deferredAdminOperations markers) ∧
      ∀ rows, buildOperationCoverage unicode operations deferredAdminOperations
          (buildMarkerCounts markers) source = .ok rows →
        CoverageRows operations deferredAdminOperations markers rows := by
  constructor
  · constructor
    · rintro ⟨rows, h⟩
      exact (buildOperationCoverage_eq_ok.mp h).1
    · exact fun h => ⟨_, buildOperationCoverage_eq_ok.mpr ⟨h, rfl⟩⟩
  · intro rows h
    obtain ⟨hagrees, rfl⟩ := buildOperationCoverage_eq_ok.mp h
    have hrow : ∀ r ∈ (sortBy operationSortKey operations).map (operationRow source
        (.ofList (deferredAdminOperations.map fun d => (d.operationId, d)))
        (buildMarkerCounts markers)), RowOf deferredAdminOperations markers r := by
      intro r hr
      obtain ⟨operation, -, rfl⟩ := List.mem_map.mp hr
      exact rowOf_operationRow source operation
    refine ⟨?_, ?_, fun r hr => (hrow r hr).markerCount, fun r hr => ?_,
      sum_markerCount hagrees source _, fun r hr => (hrow r hr).status_deferred,
      fun r hr => (hrow r hr).status_missing, fun r hr => (hrow r hr).status_placeholder,
      fun r hr => (hrow r hr).status_covered⟩
    · rw [List.map_map]
      exact (sortBy_perm operationSortKey operations).map _
    · rw [List.pairwise_map]
      exact sortBy_pairwise operationSortKey operations
    · rw [(hrow r hr).placeholderMarkerCount]
      refine congrArg Nat.cast (List.countP_congr fun m _ => ?_)
      simp [and_comm]

end ApiTests.Coverage
