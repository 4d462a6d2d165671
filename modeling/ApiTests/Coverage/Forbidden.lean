import ApiTests.OpenApi.Document
import ApiTests.Py.Sorted

/-!
# The partition of the documented `403` responses

Model of `build_forbidden_response_coverage` (`coverage.py:58-67, 232-316`) with its six rejections.
Its inputs are the operations that document a `403`, the deferrals of the manifest and the counts of
the markers in the tests.

`ExactPartition` says what the inventory is for: every operation is either covered by a test that
runs or deferred, and not both.

Results:
* **`forbidden_partition`**: the function returns iff the partition is exact, and then one row an
  operation, in order, whatever the order of its inputs.
-/

namespace ApiTests.Coverage

open Py OpenApi

/-- `ForbiddenResponseDeferralReason`. -/
inductive ForbiddenResponseDeferralReason where
  | noRestrictedNormalUserScenario
  | adminIdentityAndSafetyPlanRequired
  | globalMutationNotAuthorized
  deriving Repr, DecidableEq

/-- `ForbiddenResponseDeferral`. -/
structure ForbiddenResponseDeferral where
  operationId : Text
  method : HttpMethod
  path : Text
  reason : ForbiddenResponseDeferralReason
  deriving Repr, DecidableEq

/-- `MarkerCounts`. -/
structure MarkerCounts where
  markerCount : Int
  placeholderMarkerCount : Int
  deriving Repr, DecidableEq

/-- `ForbiddenResponseCoverageStatus`. -/
inductive ForbiddenResponseCoverageStatus where
  | covered
  | deferred
  deriving Repr, DecidableEq

/-- `ForbiddenResponseCoverage`. -/
structure ForbiddenResponseCoverage where
  operationId : Text
  method : HttpMethod
  path : Text
  status : ForbiddenResponseCoverageStatus
  markerCount : Int
  placeholderMarkerCount : Int
  deferralReason : Option ForbiddenResponseDeferralReason
  deriving Repr, DecidableEq

/-- `MarkerCounts()`. -/
def MarkerCounts.zero : MarkerCounts := ⟨0, 0⟩

/-- Every marker of the operation is on a placeholder. -/
def MarkerCounts.placeholderOnly (counts : MarkerCounts) : Bool :=
  decide (0 < counts.markerCount) && decide (counts.markerCount = counts.placeholderMarkerCount)

/-- Some marker of the operation is on a test that runs. -/
def MarkerCounts.executable (counts : MarkerCounts) : Bool :=
  decide (counts.placeholderMarkerCount < counts.markerCount)

/-- `key=lambda item: (item.path, item.method, item.operation_id)`. -/
def operationSortKey (operation : OpenApiOperation) : Text ×ₗ Text ×ₗ Text :=
  keyOfTexts operation.path operation.method.text operation.operationId

/-- The checks on one deferral. -/
def checkDeferral (operationsById : Dict Text OpenApiOperation)
    (deferral : ForbiddenResponseDeferral) : Except ValueError ForbiddenResponseDeferral :=
  match operationsById.get? deferral.operationId with
  | none => .error ⟨lit "stale forbidden-response deferral is absent from documented OpenAPI 403 " ++
      lit "responses: " ++ deferral.operationId ++ lit " (" ++ deferral.method.text ++ lit " " ++
      deferral.path ++ lit ")"⟩
  | some operation => do
    raiseWhen (operation.method ≠ deferral.method ∨ operation.path ≠ deferral.path)
      ⟨lit "stale forbidden-response method/path for " ++ deferral.operationId ++
        lit ": manifest has " ++ deferral.method.text ++ lit " " ++ deferral.path ++
        lit ", OpenAPI has " ++ operation.method.text ++ lit " " ++ operation.path⟩
    .ok deferral

/-- The error about a deferred id met again. -/
def duplicateDeferral (_ deferral : ForbiddenResponseDeferral) : ValueError :=
  ⟨lit "duplicate forbidden-response deferral operationId: " ++ deferral.operationId⟩

/-- The row of an operation. -/
def coverageRow (markerCounts : Dict Text MarkerCounts)
    (deferralsById : Dict Text ForbiddenResponseDeferral) (operation : OpenApiOperation) :
    ForbiddenResponseCoverage :=
  let counts := markerCounts.getD operation.operationId .zero
  let rowDeferral := deferralsById.get? operation.operationId
  { operationId := operation.operationId
    method := operation.method
    path := operation.path
    status := if rowDeferral.isSome then .deferred else .covered
    markerCount := counts.markerCount
    placeholderMarkerCount := counts.placeholderMarkerCount
    deferralReason := rowDeferral.map ForbiddenResponseDeferral.reason }

/-- `build_forbidden_response_coverage`. -/
def buildForbiddenResponseCoverage (operations : List OpenApiOperation)
    (deferrals : List ForbiddenResponseDeferral) (markerCounts : Dict Text MarkerCounts) :
    Except ValueError (List ForbiddenResponseCoverage) := do
  let operationsById := Dict.ofList (operations.map fun o => (o.operationId, o))
  raiseWhen (operationsById.entries.length ≠ operations.length)
    ⟨lit "documented 403 operations contain duplicate operation ids"⟩
  let markedIds := markerCounts.entries.map Prod.fst
  let unrecognizedMarkers := sortTexts (markedIds.filter fun id => (operationsById.get? id).isNone)
  raiseWhen (unrecognizedMarkers ≠ [])
    ⟨lit "unrecognized pytest.mark.forbidden_response operations: " ++ joinTexts unrecognizedMarkers⟩
  let placeholderOnly := sortTexts
    ((markerCounts.entries.filter fun e => e.2.placeholderOnly).map Prod.fst)
  raiseWhen (placeholderOnly ≠ [])
    ⟨lit "forbidden-response evidence has only placeholder tests: " ++ joinTexts placeholderOnly⟩
  let checked ← collect .ok ForbiddenResponseDeferral.operationId duplicateDeferral
    (checkDeferral operationsById) [] deferrals
  let deferralsById := Dict.ofList (checked.map fun d => (d.operationId, d))
  let executableIds := (markerCounts.entries.filter fun e => e.2.executable).map Prod.fst
  let deferredIds := deferralsById.entries.map Prod.fst
  let overlap := sortTexts (executableIds.filter fun id => decide (id ∈ deferredIds))
  raiseWhen (overlap ≠ [])
    ⟨lit "documented 403 responses have both executable evidence and deferrals: " ++
      joinTexts overlap⟩
  let missing := sortTexts ((operationsById.entries.map Prod.fst).filter fun id =>
    decide (id ∉ executableIds) && decide (id ∉ deferredIds))
  raiseWhen (missing ≠ [])
    ⟨lit "documented 403 responses have neither executable evidence nor deferrals: " ++
      joinTexts missing⟩
  .ok ((sortBy operationSortKey operations).map (coverageRow markerCounts deferralsById))

/-! ## The exact partition -/

/-- The operation has executable evidence. -/
def Executable (markerCounts : Dict Text MarkerCounts) (id : Text) : Prop :=
  ∃ counts, markerCounts.get? id = some counts ∧ counts.placeholderMarkerCount < counts.markerCount

/-- The operation is deferred. -/
def Deferred (deferrals : List ForbiddenResponseDeferral) (id : Text) : Prop :=
  ∃ deferral ∈ deferrals, deferral.operationId = id

/-- **The markers and the deferrals partition the operations.** -/
structure ExactPartition (operations : List OpenApiOperation)
    (deferrals : List ForbiddenResponseDeferral) (markerCounts : Dict Text MarkerCounts) : Prop where
  operationIds : (operations.map OpenApiOperation.operationId).Nodup
  marked : ∀ id counts, markerCounts.get? id = some counts →
    ∃ operation ∈ operations, operation.operationId = id
  notPlaceholder : ∀ id counts, markerCounts.get? id = some counts →
    ¬ (0 < counts.markerCount ∧ counts.markerCount = counts.placeholderMarkerCount)
  deferralIds : (deferrals.map ForbiddenResponseDeferral.operationId).Nodup
  deferred : ∀ deferral ∈ deferrals, ∃ operation ∈ operations,
    operation.operationId = deferral.operationId ∧ operation.method = deferral.method ∧
      operation.path = deferral.path
  partition : ∀ operation ∈ operations, Xor (Executable markerCounts operation.operationId)
    (Deferred deferrals operation.operationId)

/-! ## The single checks -/

variable {operations : List OpenApiOperation} {deferrals : List ForbiddenResponseDeferral}
  {markerCounts : Dict Text MarkerCounts}

theorem checkDeferral_eq_ok {operationsById : Dict Text OpenApiOperation}
    {deferral checked : ForbiddenResponseDeferral} :
    checkDeferral operationsById deferral = .ok checked ↔ checked = deferral ∧
      ∃ operation, operationsById.get? deferral.operationId = some operation ∧
        operation.method = deferral.method ∧ operation.path = deferral.path := by
  unfold checkDeferral
  cases operationsById.get? deferral.operationId with
  | none => simp
  | some operation =>
    simp only [bind_eq_ok_iff, raiseWhen_eq_ok, Except.ok.injEq, Option.some.injEq, not_or,
      not_not]
    constructor
    · rintro ⟨-, ⟨hmethod, hpath⟩, rfl⟩
      exact ⟨rfl, operation, rfl, hmethod, hpath⟩
    · rintro ⟨rfl, _, rfl, hmethod, hpath⟩
      exact ⟨(), ⟨hmethod, hpath⟩, rfl⟩

theorem mem_operationIds {id : Text} :
    id ∈ (Dict.ofList (operations.map fun o => (o.operationId, o))).entries.map Prod.fst ↔
      ∃ operation ∈ operations, operation.operationId = id := by
  rw [Dict.mem_keys_ofList, List.map_map, List.mem_map]
  rfl

theorem mem_deferredIds {id : Text} :
    id ∈ (Dict.ofList (deferrals.map fun d => (d.operationId, d))).entries.map Prod.fst ↔
      Deferred deferrals id := by
  rw [Dict.mem_keys_ofList, List.map_map, List.mem_map]
  rfl

theorem mem_executableIds {id : Text} :
    id ∈ (markerCounts.entries.filter fun e => e.2.executable).map Prod.fst ↔
      Executable markerCounts id := by
  rw [List.mem_map]
  constructor
  · rintro ⟨⟨id, counts⟩, he, rfl⟩
    rw [List.mem_filter] at he
    exact ⟨counts, Dict.mem_entries_iff.mp he.1, of_decide_eq_true he.2⟩
  · rintro ⟨counts, hget, hlt⟩
    exact ⟨(id, counts), List.mem_filter.mpr ⟨Dict.mem_entries_iff.mpr hget, decide_eq_true hlt⟩,
      rfl⟩

/-- No marked id is unrecognized. -/
theorem unrecognized_eq_nil : (markerCounts.entries.map Prod.fst).filter (fun id =>
      ((Dict.ofList (operations.map fun o => (o.operationId, o))).get? id).isNone) = [] ↔
    ∀ id counts, markerCounts.get? id = some counts →
      ∃ operation ∈ operations, operation.operationId = id := by
  rw [List.filter_eq_nil_iff, List.forall_mem_map]
  have hknown : ∀ id, ¬ ((Dict.ofList (operations.map fun o => (o.operationId, o))).get? id).isNone =
      true ↔ ∃ operation ∈ operations, operation.operationId = id := by
    intro id
    rw [Option.isNone_iff_eq_none, Dict.get?_eq_none_iff, not_not, mem_operationIds]
  simp only [hknown]
  constructor
  · exact fun h id counts hget => h (id, counts) (Dict.mem_entries_iff.mpr hget)
  · exact fun h e he => h e.1 e.2 (Dict.mem_entries_iff.mp he)

/-- No marked id has placeholders only. -/
theorem placeholderOnly_eq_nil :
    (markerCounts.entries.filter fun e => e.2.placeholderOnly) = [] ↔
      ∀ id counts, markerCounts.get? id = some counts →
        ¬ (0 < counts.markerCount ∧ counts.markerCount = counts.placeholderMarkerCount) := by
  rw [List.filter_eq_nil_iff]
  simp only [MarkerCounts.placeholderOnly, Bool.and_eq_true, decide_eq_true_eq]
  constructor
  · exact fun h id counts hget => h (id, counts) (Dict.mem_entries_iff.mpr hget)
  · exact fun h e he => h e.1 e.2 (Dict.mem_entries_iff.mp he)

/-- No operation is executable and deferred. -/
theorem overlap_eq_nil :
    ((markerCounts.entries.filter fun e => e.2.executable).map Prod.fst).filter (fun id =>
        decide (id ∈ (Dict.ofList (deferrals.map fun d => (d.operationId, d))).entries.map
          Prod.fst)) = [] ↔
      ∀ id, Executable markerCounts id → ¬ Deferred deferrals id := by
  rw [List.filter_eq_nil_iff]
  simp only [mem_deferredIds, mem_executableIds, decide_eq_true_eq]

/-- No operation is neither executable nor deferred. -/
theorem missing_eq_nil :
    ((Dict.ofList (operations.map fun o => (o.operationId, o))).entries.map Prod.fst).filter
        (fun id => decide (id ∉ (markerCounts.entries.filter fun e => e.2.executable).map Prod.fst) &&
          decide (id ∉ (Dict.ofList (deferrals.map fun d => (d.operationId, d))).entries.map
            Prod.fst)) = [] ↔
      ∀ operation ∈ operations, Executable markerCounts operation.operationId ∨
        Deferred deferrals operation.operationId := by
  rw [List.filter_eq_nil_iff]
  simp only [mem_deferredIds, mem_executableIds, mem_operationIds, Bool.and_eq_true,
    decide_eq_true_eq, ← not_or, not_not]
  exact ⟨fun h operation ho => h _ ⟨operation, ho, rfl⟩, fun h id ⟨operation, ho, hid⟩ =>
    hid ▸ h operation ho⟩

/-! ## The function -/

/-- **What the function does**: it checks the partition and writes the rows. -/
theorem buildForbiddenResponseCoverage_eq_ok {rows : List ForbiddenResponseCoverage} :
    buildForbiddenResponseCoverage operations deferrals markerCounts = .ok rows ↔
      ExactPartition operations deferrals markerCounts ∧
        rows = (sortBy operationSortKey operations).map
          (coverageRow markerCounts (Dict.ofList (deferrals.map fun d => (d.operationId, d)))) := by
  have hcheck : ∀ (b c : ForbiddenResponseDeferral), checkDeferral
      (Dict.ofList (operations.map fun o => (o.operationId, o))) b = .ok c → c = b :=
    fun b c h => (checkDeferral_eq_ok.mp h).1
  have hlength : (Dict.ofList (operations.map fun o => (o.operationId, o))).entries.length =
      operations.length ↔ (operations.map OpenApiOperation.operationId).Nodup := by
    have hentries : (operations.map fun o => (o.operationId, o)).length = operations.length :=
      List.length_map _
    rw [← hentries, Dict.length_ofList_eq_iff, List.map_map]
    rfl
  simp only [buildForbiddenResponseCoverage, bind_eq_ok_iff, raiseWhen_eq_ok, not_not, ne_eq,
    sortTexts_eq_nil, List.map_eq_nil_iff, hlength, unrecognized_eq_nil, placeholderOnly_eq_nil,
    collect_check_eq_ok hcheck, overlap_eq_nil, missing_eq_nil, Except.ok.injEq]
  constructor
  · rintro ⟨-, hids, -, hmarked, -, hplaceholder, _, ⟨rfl, hdeferralIds, hdeferred⟩, -, hoverlap, -,
      hmissing, rfl⟩
    refine ⟨⟨hids, hmarked, hplaceholder, hdeferralIds, fun d hd => ?_, fun o ho => ?_⟩, rfl⟩
    · obtain ⟨-, o, ho, hmethod, hpath⟩ := checkDeferral_eq_ok.mp (hdeferred d hd)
      obtain ⟨ho, hid⟩ := (Dict.get?_keyed hids).mp ho
      exact ⟨o, ho, hid, hmethod, hpath⟩
    · rcases hmissing o ho with h | h
      · exact Or.inl ⟨h, hoverlap _ h⟩
      · exact Or.inr ⟨h, fun h' => hoverlap _ h' h⟩
  · rintro ⟨h, rfl⟩
    have hoverlap : ∀ id, Executable markerCounts id → ¬ Deferred deferrals id := by
      rintro id hexecutable ⟨d, hd, rfl⟩
      obtain ⟨o, ho, hid, -, -⟩ := h.deferred d hd
      rcases h.partition o ho with ⟨-, hnot⟩ | ⟨-, hnot⟩
      · exact hnot ⟨d, hd, hid.symm⟩
      · exact hnot (hid ▸ hexecutable)
    refine ⟨(), h.operationIds, (), h.marked, (), h.notPlaceholder, _, ⟨rfl, h.deferralIds,
      fun d hd => ?_⟩, (), hoverlap, (), fun o ho => ?_, rfl⟩
    · obtain ⟨o, ho, hid, hmethod, hpath⟩ := h.deferred d hd
      exact checkDeferral_eq_ok.mpr ⟨rfl, o, (Dict.get?_keyed h.operationIds).mpr ⟨ho, hid⟩,
        hmethod, hpath⟩
    · exact (h.partition o ho).imp And.left And.left

/-! ## The rows -/

variable {rows : List ForbiddenResponseCoverage}

theorem sortKeys_nodup (h : (operations.map OpenApiOperation.operationId).Nodup) :
    (operations.map operationSortKey).Nodup := by
  rw [List.Nodup, List.pairwise_map] at h ⊢
  exact h.imp fun hne heq => hne (keyOfTexts_inj.mp heq).2.2

/-- The deferral the row of an operation reports. -/
theorem coverageRow_reason (h : (deferrals.map ForbiddenResponseDeferral.operationId).Nodup)
    {operation : OpenApiOperation} {reason : ForbiddenResponseDeferralReason} :
    (coverageRow markerCounts (Dict.ofList (deferrals.map fun d => (d.operationId, d)))
        operation).deferralReason = some reason ↔
      ∃ deferral ∈ deferrals, deferral.operationId = operation.operationId ∧
        deferral.reason = reason := by
  unfold coverageRow
  simp only [Option.map_eq_some_iff, Dict.get?_keyed h, and_assoc]

theorem coverageRow_status {operation : OpenApiOperation} :
    (coverageRow markerCounts (Dict.ofList (deferrals.map fun d => (d.operationId, d)))
        operation).status = .deferred ↔ Deferred deferrals operation.operationId := by
  rw [← mem_deferredIds, ← not_iff_not, ← Dict.get?_eq_none_iff]
  unfold coverageRow
  cases (Dict.ofList (deferrals.map fun d => (d.operationId, d))).get? operation.operationId <;> simp

/-- Deferrals by id do not depend on the order of the deferrals. -/
theorem get?_deferrals_perm {deferrals' : List ForbiddenResponseDeferral}
    (h : (deferrals.map ForbiddenResponseDeferral.operationId).Nodup)
    (hperm : deferrals.Perm deferrals') (id : Text) :
    (Dict.ofList (deferrals'.map fun d => (d.operationId, d))).get? id =
      (Dict.ofList (deferrals.map fun d => (d.operationId, d))).get? id := by
  have h' := (hperm.map ForbiddenResponseDeferral.operationId).nodup_iff.mp h
  refine Option.ext fun d => ?_
  rw [Dict.get?_keyed h, Dict.get?_keyed h', hperm.mem_iff]

/-- Lookups do not depend on the order of a dictionary. -/
theorem get?_perm {ν : Type} {d d' : Dict Text ν} (hperm : d.entries.Perm d'.entries) (id : Text) :
    d'.get? id = d.get? id := by
  refine Option.ext fun x => ?_
  rw [← Dict.mem_entries_iff, ← Dict.mem_entries_iff, hperm.mem_iff]

/-- **The partition does not depend on the order of the inputs.** -/
theorem ExactPartition.perm {operations' : List OpenApiOperation}
    {deferrals' : List ForbiddenResponseDeferral} {markerCounts' : Dict Text MarkerCounts}
    (h : ExactPartition operations deferrals markerCounts) (ho : operations.Perm operations')
    (hd : deferrals.Perm deferrals') (hm : markerCounts.entries.Perm markerCounts'.entries) :
    ExactPartition operations' deferrals' markerCounts' where
  operationIds := (ho.map _).nodup_iff.mp h.operationIds
  marked id counts hget := by
    obtain ⟨o, hmem, hid⟩ := h.marked id counts (get?_perm hm id ▸ hget)
    exact ⟨o, ho.mem_iff.mp hmem, hid⟩
  notPlaceholder id counts hget := h.notPlaceholder id counts (get?_perm hm id ▸ hget)
  deferralIds := (hd.map _).nodup_iff.mp h.deferralIds
  deferred d hmem := by
    obtain ⟨o, hmem', hsame⟩ := h.deferred d (hd.mem_iff.mpr hmem)
    exact ⟨o, ho.mem_iff.mp hmem', hsame⟩
  partition o hmem := by
    have := h.partition o (ho.mem_iff.mpr hmem)
    simpa only [Executable, Deferred, get?_perm hm, hd.mem_iff] using this

/-- **What the rows of an exact partition are.** -/
structure PartitionRows (operations : List OpenApiOperation)
    (deferrals : List ForbiddenResponseDeferral) (markerCounts : Dict Text MarkerCounts)
    (rows : List ForbiddenResponseCoverage) : Prop where
  /-- One row an operation. -/
  onePerOperation : (rows.map fun r => (r.operationId, r.method, r.path)).Perm
    (operations.map fun o => (o.operationId, o.method, o.path))
  sorted : rows.Pairwise fun r r' => keyOfTexts r.path r.method.text r.operationId <
    keyOfTexts r'.path r'.method.text r'.operationId
  status : ∀ r ∈ rows, r.status = .deferred ↔ Deferred deferrals r.operationId
  reason : ∀ r ∈ rows, ∀ reason, r.deferralReason = some reason ↔
    ∃ deferral ∈ deferrals, deferral.operationId = r.operationId ∧ deferral.reason = reason
  /-- No input's order matters. -/
  orderFree : ∀ operations' deferrals' markerCounts', operations.Perm operations' →
    deferrals.Perm deferrals' → markerCounts.entries.Perm markerCounts'.entries →
      buildForbiddenResponseCoverage operations' deferrals' markerCounts' = .ok rows

theorem partitionRows (h : ExactPartition operations deferrals markerCounts) :
    PartitionRows operations deferrals markerCounts ((sortBy operationSortKey operations).map
      (coverageRow markerCounts (Dict.ofList (deferrals.map fun d => (d.operationId, d))))) where
  onePerOperation := by
    rw [List.map_map]
    exact (sortBy_perm operationSortKey operations).map _
  sorted := by
    rw [List.pairwise_map]
    exact sortBy_strict (sortKeys_nodup h.operationIds)
  status r hr := by
    obtain ⟨operation, -, rfl⟩ := List.mem_map.mp hr
    exact coverageRow_status
  reason r hr reason := by
    obtain ⟨operation, -, rfl⟩ := List.mem_map.mp hr
    exact coverageRow_reason h.deferralIds
  orderFree operations' deferrals' markerCounts' ho hd hm := by
    refine buildForbiddenResponseCoverage_eq_ok.mpr ⟨h.perm ho hd hm, ?_⟩
    rw [sortBy_eq_of_perm (sortKeys_nodup h.operationIds) ho]
    refine List.map_congr_left fun operation _ => ?_
    simp only [coverageRow, Dict.getD, get?_perm hm, get?_deferrals_perm h.deferralIds hd]

/-- **The forbidden-response partition**: the function returns iff the partition is exact, and then
its rows are the operations in order, with the deferrals. -/
theorem forbidden_partition (operations : List OpenApiOperation)
    (deferrals : List ForbiddenResponseDeferral) (markerCounts : Dict Text MarkerCounts) :
    ((∃ rows, buildForbiddenResponseCoverage operations deferrals markerCounts = .ok rows) ↔
        ExactPartition operations deferrals markerCounts) ∧
      ∀ rows, buildForbiddenResponseCoverage operations deferrals markerCounts = .ok rows →
        PartitionRows operations deferrals markerCounts rows := by
  constructor
  · constructor
    · rintro ⟨rows, h⟩
      exact (buildForbiddenResponseCoverage_eq_ok.mp h).1
    · exact fun h => ⟨_, buildForbiddenResponseCoverage_eq_ok.mpr ⟨h, rfl⟩⟩
  · intro rows h
    obtain ⟨hpartition, rfl⟩ := buildForbiddenResponseCoverage_eq_ok.mp h
    exact partitionRows hpartition

end ApiTests.Coverage
