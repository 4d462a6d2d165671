import ApiTests.OpenApi.Document
import ApiTests.Py.Sorted
import Mathlib.Data.List.Dedup
import Mathlib.Data.List.ReduceOption

/-!
# Markers read from the syntax of the tests

Model of the collectors of `coverage.py:384-395, 408-498` that read a test module without running it.
The syntax tree holds what they look into: the functions with their decorators, wherever they stand,
and the shapes of an expression that `_is_pytest_marker` and its callers tell apart. `ast.walk` visits
a tree level by level; `levels` lists its functions so.

Results:
* `walk_topLevel_perm`: the walk meets the functions of the module itself once each.
* `openapiMarkerOperation_eq_ok`: what a decorator must be to be counted.
* `getD_collectedCases`: **the cases counted are the ones some decorator names.**
-/

namespace ApiTests.Coverage

open Py OpenApi

/-- `ast.expr`. -/
inductive Expr where
  | name (id : Text)
  | attribute (value : Expr) (attr : Text)
  /-- A `Constant` that is a text. -/
  | str (value : Text)
  /-- A literal of another type: a number, bytes, `None`, or a display of literals. Looking it up in
  a set raises where it is not `hashable`: a list or mapping, or a tuple of such. -/
  | literal (hashable : Bool)
  /-- A keyword without a name is a `**` unpacking. -/
  | call (func : Expr) (args : List Expr) (keywords : List (Option Text × Expr))
  | other

/-- `ast.stmt`, with the handlers and cases of a statement. -/
inductive Stmt where
  /-- `FunctionDef` and `AsyncFunctionDef`. -/
  | functionDef (name : Text) (decorators : List Expr) (body : List Stmt)
  | classDef (name : Text) (body : List Stmt)
  /-- Another statement with statements in it, one of its handlers or one of its cases. -/
  | block (body : List Stmt)
  | simple

/-- What a definition stands in. -/
inductive Scope where
  | function (name : Text)
  | cls (name : Text)
  | block
  deriving Repr, DecidableEq

/-- A function of a module, with the scopes around it, the innermost first. -/
structure FunctionSite where
  scope : List Scope
  name : Text
  decorators : List Expr

/-- Two trees side by side, level by level. -/
def mergeLevels {α : Type} : List (List α) → List (List α) → List (List α)
  | [], levels => levels
  | levels, [] => levels
  | level :: levels, level' :: levels' => (level ++ level') :: mergeLevels levels levels'

mutual

/-- The functions of a statement by their depth in it. -/
def Stmt.levels (scope : List Scope) : Stmt → List (List FunctionSite)
  | .functionDef name decorators body =>
    [⟨scope, name, decorators⟩] :: levelsOf (.function name :: scope) body
  | .classDef name body => [] :: levelsOf (.cls name :: scope) body
  | .block body => [] :: levelsOf (.block :: scope) body
  | .simple => []

/-- The functions of a body by their depth. -/
def levelsOf (scope : List Scope) : List Stmt → List (List FunctionSite)
  | [] => []
  | stmt :: body => mergeLevels (stmt.levels scope) (levelsOf scope body)

end

/-- The functions `ast.walk(module)` meets, in order. -/
def walk (module : List Stmt) : List FunctionSite := (levelsOf [] module).flatten

/-- `_is_pytest_marker`. -/
def isPytestMarker (node : Expr) (markerName : Text) : Bool :=
  match node with
  | .attribute (.attribute (.name id) attr) name =>
    name = markerName && attr = lit "mark" && id = lit "pytest"
  | _ => false

/-- `OperationKey`. -/
structure OperationKey where
  contract : OpenApiContractKey
  operationId : Text
  deriving Repr, DecidableEq

/-- `{"unified", "session_gateway"}`. -/
def readContractKey (t : Text) : Option OpenApiContractKey :=
  if t = lit "unified" then some .unified
  else if t = lit "session_gateway" then some .sessionGateway
  else none

/-- `_openapi_marker_operation` of the syntax. -/
def openapiMarkerOperation (node : Expr) : Except ValueError (Option OperationKey) :=
  match node with
  | .call func args keywords =>
    if isPytestMarker func (lit "openapi") then
      match args with
      | [.str operationId] =>
        match keywords with
        | [] => .ok (some ⟨.unified, operationId⟩)
        | [(some keyword, value)] =>
          if keyword = lit "contract" then
            match value with
            | .str rawContract =>
              match readContractKey rawContract with
              | some contract => .ok (some ⟨contract, operationId⟩)
              | none => .error
                ⟨lit "@pytest.mark.openapi contract must be 'unified' or 'session_gateway'"⟩
            | _ => .error ⟨lit "@pytest.mark.openapi contract must be a string literal"⟩
          else .error ⟨lit "@pytest.mark.openapi accepts only the contract keyword"⟩
        | _ => .error ⟨lit "@pytest.mark.openapi accepts only the contract keyword"⟩
      | [_] => .error ⟨lit "@pytest.mark.openapi operation id must be a string literal"⟩
      | _ => .error ⟨lit "@pytest.mark.openapi requires exactly one positional operation id"⟩
    else .ok none
  | _ => .ok none

/-- The entries of one function. -/
def functionMarkers (node : FunctionSite) :
    Except ValueError (List (OpenApiContractKey × Text × Bool)) := do
  let operations ← readAll openapiMarkerOperation node.decorators
  let isPlaceholder := node.decorators.any fun d => isPytestMarker d (lit "placeholder")
  .ok (operations.reduceOption.map fun o => (o.contract, o.operationId, isPlaceholder))

/-- `_collect_openapi_markers_from_file`. -/
def collectOpenapiMarkersFromFile (module : List Stmt) :
    Except ValueError (List (OpenApiContractKey × Text × Bool)) := do
  let markers ← readAll functionMarkers (walk module)
  .ok markers.flatten

/-- `_session_gateway_case_marker`. -/
def sessionGatewayCaseMarker (node : Expr) : Except ValueError (Option Text) :=
  match node with
  | .call func args keywords =>
    if isPytestMarker func (lit "session_gateway_case") then
      match args, keywords with
      | [.str []], [] => .error ⟨lit "@pytest.mark.session_gateway_case case id must not be empty"⟩
      | [.str caseId], [] => .ok (some caseId)
      | [_], [] =>
        .error ⟨lit "@pytest.mark.session_gateway_case case id must be a string literal"⟩
      | _, _ => .error
        ⟨lit "@pytest.mark.session_gateway_case requires exactly one positional case id"⟩
    else .ok none
  | _ => .ok none

/-- The case ids of one function. -/
def functionCaseIds (node : FunctionSite) : Except ValueError (List Text) := do
  let caseIds ← readAll sessionGatewayCaseMarker node.decorators
  .ok caseIds.reduceOption

/-- `dict(sorted(Counter(ids).items()))`. -/
def countTexts (ids : List Text) : Dict Text Int :=
  .ofList ((sortTexts ids.dedup).map fun id => (id, (ids.count id : Int)))

/-- `collect_session_gateway_case_markers_from_tests`, on the modules of `test_*.py` in order. -/
def collectSessionGatewayCaseMarkersFromTests (modules : List (List Stmt)) :
    Except ValueError (Dict Text Int) := do
  let caseIds ← readAll functionCaseIds (modules.flatMap walk)
  .ok (countTexts caseIds.flatten)

/-! ## Decorators -/

/-- `pytest.mark.NAME`. -/
def pytestMark (name : Text) : Expr := .attribute (.attribute (.name (lit "pytest")) (lit "mark")) name

theorem isPytestMarker_iff {node : Expr} {name : Text} :
    isPytestMarker node name = true ↔ node = pytestMark name := by
  constructor
  · intro h
    unfold isPytestMarker at h
    split at h
    · simp only [Bool.and_eq_true, decide_eq_true_eq] at h
      obtain ⟨⟨rfl, rfl⟩, rfl⟩ := h
      rfl
    · cases h
  · rintro rfl
    simp [isPytestMarker, pytestMark]

/-- The decorator is `pytest.mark.NAME(...)`. -/
def Calls (marker : Text) (decorator : Expr) : Prop :=
  ∃ args keywords, decorator = .call (pytestMark marker) args keywords

/-- The function carries the marker `placeholder`, bare or called. -/
def CarriesPlaceholder (site : FunctionSite) : Prop :=
  ∃ d ∈ site.decorators, d = pytestMark (lit "placeholder") ∨ Calls (lit "placeholder") d

/-- **The decorator names an operation**: one text, and no keyword but a known contract. -/
def Names (key : OperationKey) (decorator : Expr) : Prop :=
  ∃ keywords, decorator = .call (pytestMark (lit "openapi")) [.str key.operationId] keywords ∧
    ((keywords = [] ∧ key.contract = .unified) ∨
      ∃ raw, keywords = [(some (lit "contract"), .str raw)] ∧
        readContractKey raw = some key.contract)

theorem Names.calls {key : OperationKey} {decorator : Expr} (h : Names key decorator) :
    Calls (lit "openapi") decorator := by
  obtain ⟨keywords, rfl, -⟩ := h
  exact ⟨_, _, rfl⟩

/-- A decorator names one operation at most. -/
theorem Names.unique {key key' : OperationKey} {decorator : Expr} (h : Names key decorator)
    (h' : Names key' decorator) : key = key' := by
  obtain ⟨keywords, rfl, hcontract⟩ := h
  obtain ⟨keywords', heq, hcontract'⟩ := h'
  obtain ⟨contract, id⟩ := key
  obtain ⟨contract', id'⟩ := key'
  cases heq
  rcases hcontract with ⟨rfl, rfl⟩ | ⟨raw, rfl, hraw⟩
  · rcases hcontract' with ⟨-, rfl⟩ | ⟨raw', hraw', -⟩
    · rfl
    · cases hraw'
  · rcases hcontract' with ⟨hnil, -⟩ | ⟨raw', hraw', hread⟩
    · cases hnil
    · cases hraw'
      rw [hraw] at hread
      cases hread
      rfl

/-- The decorator's own operation. -/
theorem openapiMarkerOperation_of_names {key : OperationKey} {decorator : Expr}
    (h : Names key decorator) : openapiMarkerOperation decorator = .ok (some key) := by
  obtain ⟨contract, id⟩ := key
  obtain ⟨keywords, rfl, ⟨rfl, rfl⟩ | ⟨raw, rfl, hraw⟩⟩ := h
  · simp [openapiMarkerOperation, isPytestMarker_iff]
  · simp only [openapiMarkerOperation, isPytestMarker_iff, if_true, hraw]

/-- **What is counted, and what is passed over.** -/
theorem openapiMarkerOperation_eq_ok {decorator : Expr} {operation : Option OperationKey} :
    openapiMarkerOperation decorator = .ok operation ↔
      (operation = none ∧ ¬ Calls (lit "openapi") decorator) ∨
        ∃ key, operation = some key ∧ Names key decorator := by
  constructor
  · intro h
    cases decorator with
    | call func args keywords =>
      by_cases hmarker : isPytestMarker func (lit "openapi") = true
      · simp only [openapiMarkerOperation, hmarker, if_true] at h
        rw [isPytestMarker_iff] at hmarker
        subst hmarker
        right
        split at h
        · split at h
          · cases h
            exact ⟨_, rfl, [], rfl, Or.inl ⟨rfl, rfl⟩⟩
          · split at h
            · rename_i hkeyword
              subst hkeyword
              split at h
              · split at h
                · rename_i hcontract
                  cases h
                  exact ⟨_, rfl, _, rfl, Or.inr ⟨_, rfl, hcontract⟩⟩
                · cases h
              · cases h
            · cases h
          · cases h
        · cases h
        · cases h
      · simp only [openapiMarkerOperation, hmarker] at h
        left
        refine ⟨(Except.ok.inj h).symm, ?_⟩
        rintro ⟨args', keywords', heq⟩
        cases heq
        exact hmarker (isPytestMarker_iff.mpr rfl)
    | _ =>
      left
      refine ⟨(Except.ok.inj h).symm, ?_⟩
      rintro ⟨args', keywords', heq⟩
      cases heq
  · rintro (⟨rfl, hnot⟩ | ⟨key, rfl, hnames⟩)
    · cases decorator with
      | call func args keywords =>
        have hmarker : ¬ isPytestMarker func (lit "openapi") = true := by
          rw [isPytestMarker_iff]
          rintro rfl
          exact hnot ⟨_, _, rfl⟩
        exact if_neg hmarker
      | _ => rfl
    · exact openapiMarkerOperation_of_names hnames

/-- The case a decorator names. -/
def namedCase (caseId : Text) : Expr := .call (pytestMark (lit "session_gateway_case")) [.str caseId] []

theorem sessionGatewayCaseMarker_eq_some {decorator : Expr} {caseId : Text} :
    sessionGatewayCaseMarker decorator = .ok (some caseId) ↔
      decorator = namedCase caseId ∧ caseId ≠ [] := by
  constructor
  · intro h
    cases decorator with
    | call func args keywords =>
      by_cases hmarker : isPytestMarker func (lit "session_gateway_case") = true
      · simp only [sessionGatewayCaseMarker, hmarker, if_true] at h
        rw [isPytestMarker_iff] at hmarker
        subst hmarker
        split at h
        · cases h
        · rename_i hne
          cases h
          exact ⟨rfl, fun hnil => hne (by rw [hnil])⟩
        · cases h
        · cases h
      · simp only [sessionGatewayCaseMarker, hmarker] at h
        cases h
    | _ => cases h
  · rintro ⟨rfl, hne⟩
    obtain ⟨c, t, rfl⟩ := List.exists_cons_of_ne_nil hne
    simp only [sessionGatewayCaseMarker, namedCase, isPytestMarker_iff, if_true]

/-! ## The walk -/

theorem mergeLevels_perm {α : Type} : ∀ levels levels' : List (List α),
    (mergeLevels levels levels').flatten.Perm (levels.flatten ++ levels'.flatten)
  | [], levels' => by simp [mergeLevels]
  | level :: levels, [] => by simp [mergeLevels]
  | level :: levels, level' :: levels' => by
    rw [mergeLevels, List.flatten_cons, List.flatten_cons, List.flatten_cons, List.append_assoc,
      List.append_assoc]
    refine List.Perm.append_left level ?_
    refine ((mergeLevels_perm levels levels').append_left level').trans ?_
    rw [← List.append_assoc, ← List.append_assoc]
    exact List.perm_append_comm.append_right _

mutual

/-- Scopes only nest. -/
theorem scope_of_mem_levels {scope : List Scope} {site : FunctionSite} : ∀ {stmt : Stmt},
    site ∈ (stmt.levels scope).flatten → scope <:+ site.scope
  | .functionDef name decorators body, h => by
    rw [Stmt.levels, List.flatten_cons, List.singleton_append, List.mem_cons] at h
    rcases h with rfl | h
    · exact List.suffix_rfl
    · exact (List.suffix_cons _ _).trans (scope_of_mem_levelsOf h)
  | .classDef name body, h => by
    rw [Stmt.levels, List.flatten_cons, List.nil_append] at h
    exact (List.suffix_cons _ _).trans (scope_of_mem_levelsOf h)
  | .block body, h => by
    rw [Stmt.levels, List.flatten_cons, List.nil_append] at h
    exact (List.suffix_cons _ _).trans (scope_of_mem_levelsOf h)
  | .simple, h => absurd h List.not_mem_nil

theorem scope_of_mem_levelsOf {scope : List Scope} {site : FunctionSite} : ∀ {body : List Stmt},
    site ∈ (levelsOf scope body).flatten → scope <:+ site.scope
  | [], h => absurd h List.not_mem_nil
  | stmt :: body, h => by
    rw [levelsOf, (mergeLevels_perm _ _).mem_iff, List.mem_append] at h
    rcases h with h | h
    · exact scope_of_mem_levels h
    · exact scope_of_mem_levelsOf h

end

/-- The functions that stand in the module itself. -/
def topLevelFunctions (module : List Stmt) : List FunctionSite :=
  module.filterMap fun stmt => match stmt with
    | .functionDef name decorators _ => some ⟨[], name, decorators⟩
    | _ => none

/-- No function under a scope stands in the module itself. -/
theorem filter_scope_eq_nil {scope : List Scope} (hscope : scope ≠ []) (body : List Stmt) :
    (levelsOf scope body).flatten.filter (fun site => site.scope = []) = [] := by
  rw [List.filter_eq_nil_iff]
  intro site hsite hnil
  have hsuffix := scope_of_mem_levelsOf hsite
  rw [of_decide_eq_true hnil, List.suffix_nil] at hsuffix
  exact hscope hsuffix

/-- **The walk meets the functions of the module itself once each.** -/
theorem walk_topLevel_perm (module : List Stmt) :
    ((walk module).filter fun site => site.scope = []).Perm (topLevelFunctions module) := by
  unfold walk
  induction module with
  | nil => exact List.Perm.refl _
  | cons stmt body ih =>
    rw [levelsOf]
    refine ((mergeLevels_perm _ _).filter _).trans ?_
    rw [List.filter_append]
    cases stmt with
    | functionDef name decorators inner =>
      have hrest := filter_scope_eq_nil (List.cons_ne_nil (Scope.function name) []) inner
      rw [Stmt.levels, List.flatten_cons, List.singleton_append,
        List.filter_cons_of_pos (by simp), hrest]
      exact ih.cons _
    | classDef name inner =>
      rw [Stmt.levels, List.flatten_cons, List.nil_append,
        filter_scope_eq_nil (List.cons_ne_nil _ _)]
      exact ih
    | block inner =>
      rw [Stmt.levels, List.flatten_cons, List.nil_append,
        filter_scope_eq_nil (List.cons_ne_nil _ _)]
      exact ih
    | simple => exact ih

/-! ## The cases named -/

theorem mem_functionCaseIds {node : FunctionSite} {caseIds : List Text}
    (h : functionCaseIds node = .ok caseIds) {caseId : Text} :
    caseId ∈ caseIds ↔ namedCase caseId ∈ node.decorators := by
  simp only [functionCaseIds, bind_eq_ok_iff, Except.ok.injEq] at h
  obtain ⟨read, hread, rfl⟩ := h
  have hall := readAll_eq_ok.mp hread
  rw [List.reduceOption_mem_iff]
  constructor
  · intro hmem
    obtain ⟨d, hd, hmarker⟩ := mem_of_forall₂ hall hmem
    obtain ⟨rfl, -⟩ := sessionGatewayCaseMarker_eq_some.mp hmarker
    exact hd
  · intro hmem
    obtain ⟨o, ho, hmarker⟩ := exists_of_forall₂ hall hmem
    have hne : caseId ≠ [] := by
      rintro rfl
      simp [sessionGatewayCaseMarker, namedCase, isPytestMarker_iff] at hmarker
    rw [sessionGatewayCaseMarker_eq_some.mpr ⟨rfl, hne⟩, Except.ok.injEq] at hmarker
    rwa [hmarker]

/-- Counting texts. -/
theorem getD_countTexts (ids : List Text) (id : Text) :
    (countTexts ids).getD id 0 = (ids.count id : Int) := by
  have hnodup : (((sortTexts ids.dedup).map fun id => (id, (ids.count id : Int))).map
      Prod.fst).Nodup := by
    rw [List.map_map]
    refine ((sortBy_perm _ ids.dedup).map _).nodup_iff.mpr ?_
    exact (List.map_id ids.dedup).symm ▸ ids.nodup_dedup
  unfold Dict.getD countTexts
  by_cases hmem : id ∈ ids
  · have hentry : (id, (ids.count id : Int)) ∈
        (sortTexts ids.dedup).map fun id => (id, (ids.count id : Int)) :=
      List.mem_map_of_mem (mem_sortTexts.mpr (List.mem_dedup.mpr hmem))
    rw [(Dict.get?_ofList_eq_some_iff hnodup).mpr hentry]
    rfl
  · have hkey : id ∉ ((sortTexts ids.dedup).map fun id => (id, (ids.count id : Int))).map
        Prod.fst := by
      rw [List.map_map, List.mem_map]
      rintro ⟨id', hid', rfl⟩
      exact hmem (List.mem_dedup.mp (mem_sortTexts.mp hid'))
    rw [(Dict.get?_ofList_eq_none_iff hnodup).mpr hkey, List.count_eq_zero_of_not_mem hmem]
    rfl

/-- Some decorator of the modules names the case. -/
def NamedCase (modules : List (List Stmt)) (caseId : Text) : Prop :=
  ∃ module ∈ modules, ∃ site ∈ walk module, namedCase caseId ∈ site.decorators

/-- **A case is counted iff some decorator names it.** -/
theorem getD_collectedCases {modules : List (List Stmt)} {counts : Dict Text Int}
    (h : collectSessionGatewayCaseMarkersFromTests modules = .ok counts) {caseId : Text} :
    counts.getD caseId 0 ≠ 0 ↔ NamedCase modules caseId := by
  simp only [collectSessionGatewayCaseMarkersFromTests, bind_eq_ok_iff, Except.ok.injEq] at h
  obtain ⟨caseIds, hread, rfl⟩ := h
  have hall := readAll_eq_ok.mp hread
  rw [getD_countTexts, Int.natCast_ne_zero, Nat.ne_zero_iff_zero_lt, List.count_pos_iff,
    List.mem_flatten]
  constructor
  · rintro ⟨ids, hids, hmem⟩
    obtain ⟨site, hsite, hok⟩ := mem_of_forall₂ hall hids
    obtain ⟨module, hmodule, hwalk⟩ := List.mem_flatMap.mp hsite
    exact ⟨module, hmodule, site, hwalk, (mem_functionCaseIds hok).mp hmem⟩
  · rintro ⟨module, hmodule, site, hwalk, hmem⟩
    obtain ⟨ids, hids, hok⟩ := exists_of_forall₂ hall (List.mem_flatMap.mpr ⟨module, hmodule, hwalk⟩)
    exact ⟨ids, hids, (mem_functionCaseIds hok).mpr hmem⟩

end ApiTests.Coverage
