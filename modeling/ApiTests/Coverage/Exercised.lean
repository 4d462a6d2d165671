import ApiTests.Coverage.MarkerAgreement
import ApiTests.Coverage.OperationCoverage

/-!
# What the collected markers say of the tests

Model of `collect_openapi_markers_from_tests`, `collect_forbidden_response_markers_from_tests` and
`_forbidden_response_marker_operation` (`coverage.py:208-213, 319-366, 476-490`), of the selection of
one contract in `build_coverage`, and of `missing_operation_ids` and `placeholder_operation_ids`.

`Exercised` and `ExercisesForbidden` say what a marker is for: some function that is no placeholder
names the operation.

Results:
* `ofContract_buildMarkerCounts`: the counts of one contract are those of its markers.
* `executable_iff`: **a documented 403 has executable evidence iff it is exercised.**
* **`complete_rows`**: rows with nothing missing and no placeholder say that every operation is
  deferred or exercised.
-/

namespace ApiTests.Coverage

open Py OpenApi

/-! ## The collectors -/

/-- `collect_openapi_markers_from_tests`, on the modules of `test_*.py` in order. -/
def collectOpenapiMarkersFromTests (modules : List (List Stmt)) :
    Except ValueError (Dict OperationKey MarkerCounts) := do
  let markerEntries ← readAll collectOpenapiMarkersFromFile modules
  .ok (buildMarkerCounts markerEntries.flatten)

/-- `{key: counts for key, counts in markers.items() if key.contract == contract}`. -/
def ofContract (contract : OpenApiContractKey) (markers : Dict OperationKey MarkerCounts) :
    Dict OperationKey MarkerCounts where
  entries := markers.entries.filter fun e => e.1.contract = contract
  nodup := markers.nodup.sublist (List.filter_sublist.map _)

/-- `_forbidden_response_marker_operation`. -/
def forbiddenResponseMarkerOperation (node : Expr) : Except ValueError (Option Text) :=
  match node with
  | .call func args keywords =>
    if isPytestMarker func (lit "forbidden_response") then
      match args, keywords with
      | [.str []], [] =>
        .error ⟨lit "@pytest.mark.forbidden_response operation id must not be empty"⟩
      | [.str operationId], [] => .ok (some operationId)
      | [_], [] =>
        .error ⟨lit "@pytest.mark.forbidden_response operation id must be a string literal"⟩
      | _, _ => .error
        ⟨lit "@pytest.mark.forbidden_response requires exactly one positional operation id"⟩
    else .ok none
  | _ => .ok none

/-- The operation ids a function is marked with, each with its placeholder flag. -/
def functionForbidden (node : FunctionSite) : Except ValueError (List (Text × Bool)) := do
  let operationIds ← readAll forbiddenResponseMarkerOperation node.decorators
  let isPlaceholder := node.decorators.any fun d => isPytestMarker d (lit "placeholder")
  .ok (operationIds.reduceOption.map fun operationId => (operationId, isPlaceholder))

/-- One round of the inner loop. -/
def countForbidden (counters : Dict Text Int × Dict Text Int) (marked : Text × Bool) :
    Dict Text Int × Dict Text Int :=
  (counters.1.increment marked.1,
    if marked.2 then counters.2.increment marked.1 else counters.2)

/-- The counts of the marked ids. -/
def forbiddenCounts (marked : List (Text × Bool)) : Dict Text MarkerCounts :=
  let counters := marked.foldl countForbidden (.empty, .empty)
  let allOperationIds := (counters.1.entries.map Prod.fst ++ counters.2.entries.map Prod.fst).dedup
  .ofList ((sortTexts allOperationIds).map fun operationId =>
    (operationId, ⟨counters.1.getD operationId 0, counters.2.getD operationId 0⟩))

/-- `collect_forbidden_response_markers_from_tests`, on the modules of `test_*.py` in order. -/
def collectForbiddenResponseMarkersFromTests (modules : List (List Stmt)) :
    Except ValueError (Dict Text MarkerCounts) := do
  let marked ← readAll functionForbidden (modules.flatMap walk)
  .ok (forbiddenCounts marked.flatten)

/-- The ids of the rows with a status. -/
def idsWithStatus (status : CoverageStatus) (coverage : List OperationCoverage) : List Text :=
  (coverage.filter fun row => row.status = status).map OperationCoverage.operationId

/-- `missing_operation_ids`. -/
def missingOperationIds : List OperationCoverage → List Text := idsWithStatus .missing

/-- `placeholder_operation_ids`. -/
def placeholderOperationIds : List OperationCoverage → List Text := idsWithStatus .placeholder

/-! ## What a marker is for -/

/-- The function names the operation in an `openapi` marker. -/
def FunctionSite.NamesOperation (site : FunctionSite) (key : OperationKey) : Prop :=
  ∃ d ∈ site.decorators, Names key d

/-- The function carries `@pytest.mark.placeholder`. -/
def FunctionSite.Placeholder (site : FunctionSite) : Prop :=
  pytestMark (lit "placeholder") ∈ site.decorators

/-- **Some function that is no placeholder names the operation.** -/
def Exercised (modules : List (List Stmt)) (key : OperationKey) : Prop :=
  ∃ module ∈ modules, ∃ site ∈ walk module, site.NamesOperation key ∧ ¬ site.Placeholder

/-- The decorator that names an operation with a documented 403. -/
def namedForbidden (operationId : Text) : Expr :=
  .call (pytestMark (lit "forbidden_response")) [.str operationId] []

/-- **Some function that is no placeholder is marked for the operation's 403.** -/
def ExercisesForbidden (modules : List (List Stmt)) (operationId : Text) : Prop :=
  ∃ module ∈ modules, ∃ site ∈ walk module,
    namedForbidden operationId ∈ site.decorators ∧ ¬ site.Placeholder

/-! ## The `openapi` markers -/

theorem mem_keysOf {site : FunctionSite} {key : OperationKey} :
    key ∈ keysOf site ↔ site.NamesOperation key := by
  unfold keysOf FunctionSite.NamesOperation
  rw [List.mem_filterMap]
  simp only [key?_eq_some]

/-- The marker entries of the tests. -/
def markerEntries (modules : List (List Stmt)) : List MarkerTriple :=
  modules.flatMap fun module =>
    (walk module).flatMap fun site => (keysOf site).map (entry (barePlaceholder site))

theorem collectOpenapiMarkersFromTests_eq_ok {modules : List (List Stmt)}
    {counts : Dict OperationKey MarkerCounts}
    (h : collectOpenapiMarkersFromTests modules = .ok counts) :
    counts = buildMarkerCounts (markerEntries modules) := by
  simp only [collectOpenapiMarkersFromTests, bind_eq_ok_iff, Except.ok.injEq] at h
  obtain ⟨read, hread, rfl⟩ := h
  have hmap : read = modules.map fun module =>
      (walk module).flatMap fun site => (keysOf site).map (entry (barePlaceholder site)) := by
    rw [← List.forall₂_eq_eq_eq, List.forall₂_map_right_iff]
    exact (readAll_eq_ok.mp hread).flip.imp fun _ _ h =>
      (collectOpenapiMarkersFromFile_eq_ok.mp h).2
  rw [hmap, markerEntries, List.flatMap_def]

theorem mem_markerEntries {modules : List (List Stmt)} {marker : MarkerTriple} :
    marker ∈ markerEntries modules ↔ ∃ module ∈ modules, ∃ site ∈ walk module,
      site.NamesOperation (keyOfMarker marker) ∧ isPlaceholder marker = barePlaceholder site := by
  obtain ⟨contract, operationId, placeholder⟩ := marker
  simp only [markerEntries, List.mem_flatMap, List.mem_map, mem_keysOf]
  refine exists_congr fun module => and_congr_right fun _ => exists_congr fun site =>
    and_congr_right fun _ => ?_
  constructor
  · rintro ⟨key, hkey, heq⟩
    cases heq
    exact ⟨hkey, rfl⟩
  · rintro ⟨hkey, rfl⟩
    exact ⟨_, hkey, rfl⟩

theorem sortKey_injective : Function.Injective OperationKey.sortKey := by
  rintro ⟨contract, operationId⟩ ⟨contract', operationId'⟩ h
  obtain ⟨hcontract, hid⟩ := Prod.mk.inj (toLex_inj.mp h)
  have hsame : contract = contract' := by
    cases contract <;> cases contract'
    case unified.unified | sessionGateway.sessionGateway => rfl
    case unified.sessionGateway =>
      exact absurd hcontract (show lit "unified" ≠ lit "session_gateway" by decide)
    case sessionGateway.unified =>
      exact absurd hcontract (show lit "session_gateway" ≠ lit "unified" by decide)
  obtain rfl : operationId = operationId' := hid
  rw [hsame]

/-- The keys of one contract, sorted. -/
theorem filter_sortBy_markedKeys (markers : List MarkerTriple) (contract : OpenApiContractKey) :
    (sortBy OperationKey.sortKey (markedKeys markers)).filter (fun key => key.contract = contract) =
      sortBy OperationKey.sortKey (markedKeys (markers.filter fun m => m.1 = contract)) := by
  have hnodup : ∀ markers, (sortBy OperationKey.sortKey (markedKeys markers)).Nodup :=
    fun markers => (sortBy_perm _ _).nodup_iff.mpr (List.nodup_dedup _)
  have hperm : ((sortBy OperationKey.sortKey (markedKeys markers)).filter
      fun key => key.contract = contract).Perm
        (sortBy OperationKey.sortKey (markedKeys (markers.filter fun m => m.1 = contract))) := by
    refine (List.perm_ext_iff_of_nodup ((hnodup _).filter _) (hnodup _)).mpr fun key => ?_
    rw [List.mem_filter, mem_sortBy, mem_sortBy, mem_markedKeys, mem_markedKeys,
      decide_eq_true_eq]
    constructor
    · rintro ⟨⟨marker, hmarker, rfl⟩, hcontract⟩
      exact ⟨marker, List.mem_filter.mpr ⟨hmarker, decide_eq_true hcontract⟩, rfl⟩
    · rintro ⟨marker, hmarker, rfl⟩
      obtain ⟨hmarker, hcontract⟩ := List.mem_filter.mp hmarker
      exact ⟨⟨marker, hmarker, rfl⟩, of_decide_eq_true hcontract⟩
  exact hperm.eq_of_pairwise (fun _ _ _ _ h h' => sortKey_injective (le_antisymm h h'))
    ((sortBy_pairwise _ _).filter _) (sortBy_pairwise _ _)

theorem countsOf_filter {markers : List MarkerTriple} {key : OperationKey} :
    countsOf (markers.filter fun m => m.1 = key.contract) key = countsOf markers key := by
  have hcount : ∀ l : List MarkerTriple,
      ((l.filter fun m => m.1 = key.contract).map keyOfMarker).count key =
        (l.map keyOfMarker).count key := by
    intro l
    unfold List.count
    rw [List.countP_map, List.countP_map, List.countP_filter]
    refine List.countP_congr fun marker _ => ?_
    simp only [Function.comp, Bool.and_eq_true, beq_iff_eq, decide_eq_true_eq, and_iff_left_iff_imp]
    rintro rfl
    rfl
  unfold countsOf
  rw [hcount, List.filter_comm, hcount]

/-- **The counts of one contract** are those of its markers. -/
theorem ofContract_buildMarkerCounts (contract : OpenApiContractKey) (markers : List MarkerTriple) :
    ofContract contract (buildMarkerCounts markers) =
      buildMarkerCounts (markers.filter fun m => m.1 = contract) := by
  have hentries : ∀ markers : List MarkerTriple, (buildMarkerCounts markers).entries =
      (sortBy OperationKey.sortKey (markedKeys markers)).map fun key => (key, countsOf markers key) := by
    intro markers
    rw [buildMarkerCounts_eq, Dict.entries_ofList]
    rw [List.map_map]
    exact (List.map_id (sortBy OperationKey.sortKey (markedKeys markers))).symm ▸
      (sortBy_perm _ _).nodup_iff.mpr (List.nodup_dedup _)
  refine Dict.ext ?_
  simp only [ofContract, hentries, List.filter_map, ← filter_sortBy_markedKeys]
  refine List.map_congr_left fun key hkey => ?_
  obtain rfl := of_decide_eq_true (List.mem_filter.mp hkey).2
  rw [countsOf_filter]

/-! ## The rows -/

theorem idsWithStatus_eq_nil {status : CoverageStatus} {rows : List OperationCoverage} :
    idsWithStatus status rows = [] ↔ ∀ row ∈ rows, row.status ≠ status := by
  simp only [idsWithStatus, List.map_eq_nil_iff, List.filter_eq_nil_iff, decide_eq_true_eq, ne_eq]

/-- A function that is no placeholder names the operation of the row. -/
theorem exercised_of_marker {modules : List (List Stmt)} {contract : OpenApiContractKey}
    {operationId : Text} (h : ∃ m ∈ (markerEntries modules).filter fun m => m.1 = contract,
      m.1 = contract ∧ m.2.1 = operationId ∧ isPlaceholder m = false) :
    Exercised modules ⟨contract, operationId⟩ := by
  obtain ⟨m, hm, hcontract, hid, hreal⟩ := h
  obtain ⟨module, hmodule, site, hsite, hnames, hflag⟩ :=
    mem_markerEntries.mp (List.mem_of_mem_filter hm)
  refine ⟨module, hmodule, site, hsite, ?_, fun hplaceholder => ?_⟩
  · rw [keyOfMarker, hcontract, hid] at hnames
    exact hnames
  · rw [barePlaceholder_iff.mpr hplaceholder, hreal] at hflag
    cases hflag

/-- **The operations of a contract are accounted for**: each is deferred as it stands or exercised,
and no marker and no deferral names another. -/
structure Complete (operations : List OpenApiOperation) (deferred : List DeferredAdminOperation)
    (modules : List (List Stmt)) (contract : OpenApiContractKey) : Prop where
  accounted : ∀ operation ∈ operations,
    (contract = .unified ∧ ∃ d ∈ deferred, d.operationId = operation.operationId ∧
      d.method = operation.method ∧ d.path = operation.path) ∨
    Exercised modules ⟨contract, operation.operationId⟩
  named : ∀ module ∈ modules, ∀ site ∈ walk module, ∀ operationId,
    site.NamesOperation ⟨contract, operationId⟩ →
      ∃ operation ∈ operations, operation.operationId = operationId
  deferred : ∀ d ∈ deferred, ∃ operation ∈ operations, operation.operationId = d.operationId ∧
    operation.method = d.method ∧ operation.path = d.path

/-- **Rows with nothing missing and no placeholder**. -/
theorem complete_rows {unicode : Unicode} {operations : List OpenApiOperation}
    {deferred : List DeferredAdminOperation} {modules : List (List Stmt)}
    {counts : Dict OperationKey MarkerCounts} {contract : OpenApiContractKey}
    {source : CoverageSource} {rows : List OperationCoverage}
    (hcollect : collectOpenapiMarkersFromTests modules = .ok counts)
    (hrows : buildOperationCoverage unicode operations deferred (ofContract contract counts) source =
      .ok rows)
    (hcontract : ∀ operation ∈ operations, operation.contract = contract)
    (hmissing : missingOperationIds rows = []) (hplaceholder : placeholderOperationIds rows = []) :
    Complete operations deferred modules contract := by
  rw [collectOpenapiMarkersFromTests_eq_ok hcollect, ofContract_buildMarkerCounts] at hrows
  have hagrees := (buildOperationCoverage_eq_ok.mp hrows).1
  have hcoverage := (operation_coverage unicode operations deferred _ source).2 rows hrows
  refine ⟨fun operation hoperation => ?_, ?_, fun d hd => ?_⟩
  · have hmem : (operation.contract, operation.operationId, operation.method, operation.path) ∈
        rows.map fun r => (r.contract, r.operationId, r.method, r.path) :=
      hcoverage.onePerOperation.mem_iff.mpr (List.mem_map_of_mem hoperation)
    obtain ⟨row, hrow, heq⟩ := List.mem_map.mp hmem
    simp only [Prod.mk.injEq] at heq
    obtain ⟨hrowContract, hrowId, -, -⟩ := heq
    cases hstatus : row.status with
    | missing => exact absurd hstatus (idsWithStatus_eq_nil.mp hmissing row hrow)
    | placeholder => exact absurd hstatus (idsWithStatus_eq_nil.mp hplaceholder row hrow)
    | covered =>
      right
      obtain ⟨-, m, hm, hmarker, hreal⟩ := (hcoverage.covered row hrow).mp hstatus
      exact exercised_of_marker ⟨m, hm, (hmarker.1.trans hrowContract).trans (hcontract _ hoperation),
        hmarker.2.trans hrowId, hreal⟩
    | deferred =>
      left
      obtain ⟨hunified, d, hd, hid⟩ := (hcoverage.deferred row hrow).mp hstatus
      have hcontract' : operation.contract = .unified := hrowContract.symm.trans hunified
      have hid' : d.operationId = operation.operationId := hid.trans hrowId
      obtain ⟨operation', hoperation', hsame, hsameId, hmethod, hpath⟩ := hagrees.deferred d hd
      have heq : operation' = operation := by
        refine List.inj_on_of_nodup_map hagrees.operationKeys hoperation' hoperation ?_
        rw [keyOfOperation, keyOfOperation, hsame, hcontract', hsameId, hid']
      subst heq
      exact ⟨(hcontract _ hoperation).symm.trans hcontract', d, hd, hid', hmethod.symm, hpath.symm⟩
  · intro module hmodule site hsite operationId hnames
    have hmarker : entry (barePlaceholder site) ⟨contract, operationId⟩ ∈
        (markerEntries modules).filter fun m => m.1 = contract :=
      List.mem_filter.mpr ⟨mem_markerEntries.mpr ⟨module, hmodule, site, hsite, hnames, rfl⟩,
        decide_eq_true rfl⟩
    obtain ⟨operation, hoperation, hkey⟩ := hagrees.marked _ hmarker
    exact ⟨operation, hoperation, congrArg OperationKey.operationId hkey⟩
  · obtain ⟨operation, hoperation, -, hid, hmethod, hpath⟩ := hagrees.deferred d hd
    exact ⟨operation, hoperation, hid, hmethod, hpath⟩

/-! ## The `forbidden_response` markers -/

theorem forbiddenResponseMarkerOperation_eq_some {decorator : Expr} {operationId : Text} :
    forbiddenResponseMarkerOperation decorator = .ok (some operationId) ↔
      decorator = namedForbidden operationId ∧ operationId ≠ [] := by
  constructor
  · intro h
    cases decorator with
    | call func args keywords =>
      by_cases hmarker : isPytestMarker func (lit "forbidden_response") = true
      · simp only [forbiddenResponseMarkerOperation, hmarker, if_true] at h
        rw [isPytestMarker_iff] at hmarker
        subst hmarker
        split at h
        · cases h
        · rename_i hne
          cases h
          exact ⟨rfl, fun hnil => hne (by rw [hnil])⟩
        · cases h
        · cases h
      · simp only [forbiddenResponseMarkerOperation, hmarker] at h
        cases h
    | _ => cases h
  · rintro ⟨rfl, hne⟩
    obtain ⟨c, t, rfl⟩ := List.exists_cons_of_ne_nil hne
    simp only [forbiddenResponseMarkerOperation, namedForbidden, isPytestMarker_iff, if_true]

/-- What a function is marked with. -/
theorem mem_functionForbidden {site : FunctionSite} {marked : List (Text × Bool)}
    (h : functionForbidden site = .ok marked) {operationId : Text} {placeholder : Bool} :
    (operationId, placeholder) ∈ marked ↔
      namedForbidden operationId ∈ site.decorators ∧ placeholder = barePlaceholder site := by
  simp only [functionForbidden, bind_eq_ok_iff, Except.ok.injEq] at h
  obtain ⟨read, hread, rfl⟩ := h
  have hall := readAll_eq_ok.mp hread
  rw [List.mem_map]
  constructor
  · rintro ⟨id, hid, heq⟩
    cases heq
    obtain ⟨d, hd, hmarker⟩ := mem_of_forall₂ hall (List.reduceOption_mem_iff.mp hid)
    obtain ⟨rfl, -⟩ := forbiddenResponseMarkerOperation_eq_some.mp hmarker
    exact ⟨hd, rfl⟩
  · rintro ⟨hd, rfl⟩
    obtain ⟨o, ho, hmarker⟩ := exists_of_forall₂ hall hd
    have hne : operationId ≠ [] := by
      rintro rfl
      simp [forbiddenResponseMarkerOperation, namedForbidden, isPytestMarker_iff] at hmarker
    rw [forbiddenResponseMarkerOperation_eq_some.mpr ⟨rfl, hne⟩, Except.ok.injEq] at hmarker
    exact ⟨operationId, List.reduceOption_mem_iff.mpr (hmarker ▸ ho), rfl⟩

/-- The loop fills two counters. -/
theorem foldl_countForbidden (marked : List (Text × Bool))
    (counters : Dict Text Int × Dict Text Int) :
    marked.foldl countForbidden counters =
      ((marked.map Prod.fst).foldl Dict.increment counters.1,
        ((marked.filter Prod.snd).map Prod.fst).foldl Dict.increment counters.2) := by
  induction marked generalizing counters with
  | nil => rfl
  | cons m marked ih =>
    rw [List.foldl_cons, ih, List.map_cons, List.foldl_cons]
    unfold countForbidden
    by_cases h : m.2 = true
    · rw [if_pos h, List.filter_cons_of_pos h, List.map_cons, List.foldl_cons]
    · rw [if_neg h, List.filter_cons_of_neg h]

/-- **The counts of an id** are the numbers of its marks. -/
theorem get?_forbiddenCounts {marked : List (Text × Bool)} {operationId : Text}
    {counts : MarkerCounts} :
    (forbiddenCounts marked).get? operationId = some counts ↔ operationId ∈ marked.map Prod.fst ∧
      counts = ⟨((marked.map Prod.fst).count operationId : Nat),
        (((marked.filter Prod.snd).map Prod.fst).count operationId : Nat)⟩ := by
  have hids : ∀ id, id ∈ ((counterOf (marked.map Prod.fst)).entries.map Prod.fst ++
      (counterOf ((marked.filter Prod.snd).map Prod.fst)).entries.map Prod.fst).dedup ↔
        id ∈ marked.map Prod.fst := by
    intro id
    rw [List.mem_dedup, List.mem_append, mem_keys_counterOf, mem_keys_counterOf,
      or_iff_left_iff_imp]
    exact fun h => (List.filter_sublist.map Prod.fst).subset h
  have hcounts : ∀ keys : List Text, keys.foldl Dict.increment .empty = counterOf keys := fun _ => rfl
  unfold forbiddenCounts
  simp only [foldl_countForbidden, hcounts, getD_counterOf]
  rw [Dict.get?_ofList_eq_some_iff]
  · simp only [List.mem_map, mem_sortTexts, hids, Prod.mk.injEq]
    constructor
    · rintro ⟨id, hid, rfl, rfl⟩
      exact ⟨hid, by congr!⟩
    · rintro ⟨hid, rfl⟩
      exact ⟨operationId, hid, rfl, by congr!⟩
  · rw [List.map_map]
    exact (List.map_id (sortTexts _)).symm ▸
      (sortBy_perm _ _).nodup_iff.mpr (List.nodup_dedup _)

/-- Some mark of an id is on no placeholder iff its counts differ. -/
theorem count_lt_iff {marked : List (Text × Bool)} {operationId : Text} :
    ((marked.filter Prod.snd).map Prod.fst).count operationId <
        (marked.map Prod.fst).count operationId ↔ (operationId, false) ∈ marked := by
  have hsame := countP_and_eq_iff (p := fun m : Text × Bool => m.1 == operationId)
    (q := fun m => m.2) (l := marked)
  have hle : (marked.countP fun m => m.2 && m.1 == operationId) ≤
      marked.countP fun m => m.1 == operationId :=
    List.countP_mono_left fun m _ h => (Bool.and_eq_true _ _ ▸ h).2
  have hcount : ((marked.filter Prod.snd).map Prod.fst).count operationId =
      marked.countP fun m => m.2 && m.1 == operationId := by
    rw [List.count, List.countP_map, List.countP_filter]
    exact List.countP_congr fun m _ => by simp [and_comm]
  rw [hcount, List.count, List.countP_map, lt_iff_le_and_ne]
  constructor
  · rintro ⟨-, hne⟩
    by_contra hno
    refine hne (hsame.mpr fun m hm hid => ?_)
    obtain ⟨id, placeholder⟩ := m
    obtain rfl := eq_of_beq hid
    cases placeholder with
    | true => rfl
    | false => exact absurd hm hno
  · intro hm
    exact ⟨hle, fun heq => Bool.false_ne_true (hsame.mp heq _ hm (beq_self_eq_true _))⟩

section

variable {modules : List (List Stmt)} {counts : Dict Text MarkerCounts}
  (h : collectForbiddenResponseMarkersFromTests modules = .ok counts) {operationId : Text}

include h

/-- The marks behind the counts. -/
theorem collectedForbidden : ∃ marked, counts = forbiddenCounts marked ∧
    ∀ id placeholder, (id, placeholder) ∈ marked ↔ ∃ module ∈ modules, ∃ site ∈ walk module,
      namedForbidden id ∈ site.decorators ∧ placeholder = barePlaceholder site := by
  simp only [collectForbiddenResponseMarkersFromTests, bind_eq_ok_iff, Except.ok.injEq] at h
  obtain ⟨read, hread, rfl⟩ := h
  have hall := readAll_eq_ok.mp hread
  refine ⟨read.flatten, rfl, fun id placeholder => ?_⟩
  rw [List.mem_flatten]
  constructor
  · rintro ⟨marked, hmarked, hmem⟩
    obtain ⟨site, hsite, hok⟩ := mem_of_forall₂ hall hmarked
    obtain ⟨module, hmodule, hwalk⟩ := List.mem_flatMap.mp hsite
    exact ⟨module, hmodule, site, hwalk, (mem_functionForbidden hok).mp hmem⟩
  · rintro ⟨module, hmodule, site, hwalk, hmem⟩
    obtain ⟨marked, hmarked, hok⟩ :=
      exists_of_forall₂ hall (List.mem_flatMap.mpr ⟨module, hmodule, hwalk⟩)
    exact ⟨marked, hmarked, (mem_functionForbidden hok).mpr hmem⟩

/-- **A documented 403 has executable evidence iff it is exercised.** -/
theorem executable_iff : Executable counts operationId ↔ ExercisesForbidden modules operationId := by
  obtain ⟨marked, rfl, hmarked⟩ := collectedForbidden h
  have hreal : (operationId, false) ∈ marked ↔ ExercisesForbidden modules operationId := by
    rw [hmarked]
    refine exists_congr fun module => and_congr_right fun _ => exists_congr fun site =>
      and_congr_right fun _ => and_congr_right fun _ => ?_
    rw [FunctionSite.Placeholder, ← barePlaceholder_iff, Bool.not_eq_true, eq_comm]
  rw [← hreal, ← count_lt_iff, Executable]
  constructor
  · rintro ⟨c, hget, hlt⟩
    obtain ⟨-, rfl⟩ := get?_forbiddenCounts.mp hget
    exact Int.ofNat_lt.mp hlt
  · intro hlt
    have hmem := List.count_pos_iff.mp (lt_of_le_of_lt (Nat.zero_le _) hlt)
    exact ⟨_, get?_forbiddenCounts.mpr ⟨hmem, rfl⟩, Int.ofNat_lt.mpr hlt⟩

/-- An id is counted iff some decorator names it. -/
theorem counted_iff : (∃ c, counts.get? operationId = some c) ↔ ∃ module ∈ modules,
    ∃ site ∈ walk module, namedForbidden operationId ∈ site.decorators := by
  obtain ⟨marked, rfl, hmarked⟩ := collectedForbidden h
  simp only [get?_forbiddenCounts, exists_and_left, exists_eq, and_true, List.mem_map]
  constructor
  · rintro ⟨⟨id, placeholder⟩, hm, rfl⟩
    obtain ⟨module, hmodule, site, hsite, hnamed, -⟩ := (hmarked _ _).mp hm
    exact ⟨module, hmodule, site, hsite, hnamed⟩
  · rintro ⟨module, hmodule, site, hsite, hnamed⟩
    exact ⟨_, (hmarked _ _).mpr ⟨module, hmodule, site, hsite, hnamed, rfl⟩, rfl⟩

end

end ApiTests.Coverage
