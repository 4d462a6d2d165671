import ApiTests.OpenApi.Drift

/-!
# What a drift check without differences says (`openapi_drift.py:31-199`)

`SameContract` is the abstract view of two documents with one contract: the same operation ids, for
each the same method and path and the same JSON values behind them, and the same component schemas.
The check compares these values with Python's `==`, for which `True` is `1`; so it is exact except
where a document has a boolean and the other a number in the same place.

Results:
* `compareOpenapiDocuments_eq_nil`: **no difference is reported iff the compared values are equal for
  `==`.**
* **`drift_exact`**: no difference is reported iff the contracts are the same, unless they differ in
  nothing but booleans against numbers.
-/

namespace ApiTests.OpenApi

open Py

/-- The component schemas of a document, missing or null read as none. -/
def OpenApiDocument.schemas (doc : OpenApiDocument) : Entries :=
  match doc.entries.lookup (lit "components") with
  | some (.dict components) =>
    match components.lookup (lit "schemas") with
    | some (.dict schemas) => schemas
    | _ => []
  | _ => []

/-- **Two documents have one contract**, their JSON values compared by `same`. -/
structure SameContractBy (same : Json PyNumber → Json PyNumber → Prop)
    (baseline live : OpenApiDocument) : Prop where
  ids : ∀ id, (∃ contract, baseline.HasContract id contract) ↔
    ∃ contract, live.HasContract id contract
  contracts : ∀ id contract contract', baseline.HasContract id contract →
    live.HasContract id contract' →
      contract.method = contract'.method ∧ contract.path = contract'.path ∧
        same contract.parameters contract'.parameters ∧
        same contract.requestBody contract'.requestBody ∧
        same contract.responses contract'.responses
  names : ∀ name, name ∈ baseline.schemas.map Prod.fst ↔ name ∈ live.schemas.map Prod.fst
  schemas : ∀ name x y, (name, x) ∈ baseline.schemas → (name, y) ∈ live.schemas → same x y

/-- **Two documents have one contract.** -/
abbrev SameContract : OpenApiDocument → OpenApiDocument → Prop := SameContractBy SameJson

/-- They have one contract once true is read as 1 and false as 0. -/
abbrev SameAsNumbers : OpenApiDocument → OpenApiDocument → Prop :=
  SameContractBy fun x y => SameJson (numbered x) (numbered y)

/-- The values `x` and `y` stand at the same place of the two contracts. -/
inductive Compared (baseline live : OpenApiDocument) : Json PyNumber → Json PyNumber → Prop where
  | parameters {id : Text} {c c' : OperationContract} (h : baseline.HasContract id c)
      (h' : live.HasContract id c') : Compared baseline live c.parameters c'.parameters
  | requestBody {id : Text} {c c' : OperationContract} (h : baseline.HasContract id c)
      (h' : live.HasContract id c') : Compared baseline live c.requestBody c'.requestBody
  | responses {id : Text} {c c' : OperationContract} (h : baseline.HasContract id c)
      (h' : live.HasContract id c') : Compared baseline live c.responses c'.responses
  | schema {name : Text} {x y : Json PyNumber} (h : (name, x) ∈ baseline.schemas)
      (h' : (name, y) ∈ live.schemas) : Compared baseline live x y

/-- Somewhere in the contracts one document has a boolean and the other has a number. -/
def Confused (baseline live : OpenApiDocument) : Prop :=
  ∃ x y, Compared baseline live x y ∧ clashes x y = true

/-! ## The compared values are well formed -/

theorem keysDistinct_lookup {entries : Entries} (h : (Json.dict entries).KeysDistinct) {key : Text}
    {x : Json PyNumber} (hx : entries.lookup key = some x) : x.KeysDistinct := by
  have h := Json.keysDistinct_dict_iff.mp h
  exact h.2 _ ((Dict.lookup_eq_some_iff_mem h.1).mp hx)

theorem keysDistinct_getD {entries : Entries} (h : (Json.dict entries).KeysDistinct) (key : Text)
    {x : Json PyNumber} (hx : x.KeysDistinct) : ((entries.lookup key).getD x).KeysDistinct := by
  cases hl : entries.lookup key with
  | none => exact hx
  | some y => exact keysDistinct_lookup h hl

variable {doc baseline live : OpenApiDocument}

theorem keysDistinct_schemas : (Json.dict doc.schemas).KeysDistinct := by
  have hnil : (Json.dict ([] : Entries)).KeysDistinct := by
    simp [Json.KeysDistinct, Json.KeysDistinctEntries]
  unfold OpenApiDocument.schemas
  split
  · rename_i components hcomponents
    have hdistinct := keysDistinct_lookup doc.keysDistinct hcomponents
    split
    · rename_i schemas hschemas
      exact keysDistinct_lookup hdistinct hschemas
    · exact hnil
  · exact hnil

theorem HasOperation.keysDistinct {path : Text} {method : HttpMethod} {item operation : Entries}
    (h : doc.HasOperation path method item operation) :
    (Json.dict item).KeysDistinct ∧ (Json.dict operation).KeysDistinct := by
  obtain ⟨paths, hpaths, hpath⟩ := h.exists_paths
  have hpaths := Json.keysDistinct_dict_iff.mp (keysDistinct_lookup doc.keysDistinct hpaths)
  have hitem := hpaths.2 _ hpath
  exact ⟨hitem, (Json.keysDistinct_dict_iff.mp hitem).2 _ h.mem_item⟩

theorem keysDistinct_contract {id : Text} {contract : OperationContract}
    (h : doc.HasContract id contract) :
    contract.parameters.KeysDistinct ∧ contract.requestBody.KeysDistinct ∧
      contract.responses.KeysDistinct := by
  obtain ⟨path, method, item, operation, hhas, -, rfl⟩ := h
  obtain ⟨hitem, hoperation⟩ := HasOperation.keysDistinct hhas
  have hnil : (Json.list ([] : List (Json PyNumber))).KeysDistinct := by
    simp [Json.KeysDistinct, Json.KeysDistinctItems]
  have hnull : (Json.null : Json PyNumber).KeysDistinct := by simp [Json.KeysDistinct]
  refine ⟨?_, keysDistinct_getD hoperation _ hnull, keysDistinct_getD hoperation _ hnull⟩
  rw [contractOf, Json.keysDistinct_list_iff]
  intro x hx
  rcases List.mem_pair.mp hx with rfl | rfl
  · exact keysDistinct_getD hitem _ hnil
  · exact keysDistinct_getD hoperation _ hnil

theorem Compared.keysDistinct {x y : Json PyNumber} (h : Compared baseline live x y) :
    x.KeysDistinct ∧ y.KeysDistinct := by
  cases h with
  | parameters h h' => exact ⟨(keysDistinct_contract h).1, (keysDistinct_contract h').1⟩
  | requestBody h h' => exact ⟨(keysDistinct_contract h).2.1, (keysDistinct_contract h').2.1⟩
  | responses h h' => exact ⟨(keysDistinct_contract h).2.2, (keysDistinct_contract h').2.2⟩
  | schema h h' =>
    exact ⟨(Json.keysDistinct_dict_iff.mp keysDistinct_schemas).2 _ h,
      (Json.keysDistinct_dict_iff.mp keysDistinct_schemas).2 _ h'⟩

/-! ## Changing the comparison -/

/-- One contract under a comparison is one contract under a weaker one. -/
theorem SameContractBy.mono {same same' : Json PyNumber → Json PyNumber → Prop}
    (h : SameContractBy same baseline live)
    (himp : ∀ x y, Compared baseline live x y → same x y → same' x y) :
    SameContractBy same' baseline live where
  ids := h.ids
  contracts id c c' hc hc' := by
    obtain ⟨hmethod, hpath, hparameters, hbody, hresponses⟩ := h.contracts id c c' hc hc'
    exact ⟨hmethod, hpath, himp _ _ (.parameters hc hc') hparameters,
      himp _ _ (.requestBody hc hc') hbody, himp _ _ (.responses hc hc') hresponses⟩
  names := h.names
  schemas name x y hx hy := himp _ _ (.schema hx hy) (h.schemas name x y hx hy)

/-- In documents with one contract, the compared values are the same. -/
theorem SameContractBy.compared {same : Json PyNumber → Json PyNumber → Prop}
    (h : SameContractBy same baseline live) {x y : Json PyNumber}
    (hxy : Compared baseline live x y) : same x y := by
  cases hxy with
  | parameters hc hc' => exact (h.contracts _ _ _ hc hc').2.2.1
  | requestBody hc hc' => exact (h.contracts _ _ _ hc hc').2.2.2.1
  | responses hc hc' => exact (h.contracts _ _ _ hc hc').2.2.2.2
  | schema hx hy => exact h.schemas _ _ _ hx hy

/-- The contracts are the same iff they are equal for `==` and nowhere confused. -/
theorem sameContract_iff_pyEq : SameContract baseline live ↔
    SameContractBy (fun x y => pyEq x y = true) baseline live ∧ ¬ Confused baseline live := by
  constructor
  · intro h
    constructor
    · refine h.mono fun x y hxy hsame => ?_
      exact ((sameJson_iff_pyEq hxy.keysDistinct.1 hxy.keysDistinct.2).mp hsame).1
    · rintro ⟨x, y, hxy, hclash⟩
      have hsame := h.compared hxy
      rw [((sameJson_iff_pyEq hxy.keysDistinct.1 hxy.keysDistinct.2).mp hsame).2] at hclash
      cases hclash
  · rintro ⟨h, hclear⟩
    refine h.mono fun x y hxy heq => ?_
    refine (sameJson_iff_pyEq hxy.keysDistinct.1 hxy.keysDistinct.2).mpr ⟨heq, ?_⟩
    rw [← Bool.not_eq_true]
    exact fun hclash => hclear ⟨x, y, hxy, hclash⟩

theorem sameAsNumbers_iff_pyEq : SameAsNumbers baseline live ↔
    SameContractBy (fun x y => pyEq x y = true) baseline live := by
  constructor
  · exact fun h => h.mono fun x y hxy =>
      (pyEq_iff_numbered hxy.keysDistinct.1 hxy.keysDistinct.2).mpr
  · exact fun h => h.mono fun x y hxy =>
      (pyEq_iff_numbered hxy.keysDistinct.1 hxy.keysDistinct.2).mp

/-! ## The list of differences -/

theorem scalarChange_eq_nil {location b l : Text} : scalarChange location b l = [] ↔ b = l := by
  unfold scalarChange
  split <;> simp_all

theorem structuralChange_eq_nil {location : Text} {b l : Json PyNumber} :
    structuralChange location b l = [] ↔ pyEq b l = true := by
  unfold structuralChange
  split <;> simp_all

theorem text_injective {m m' : HttpMethod} : m.text = m'.text ↔ m = m' := by
  refine ⟨fun h => ?_, fun h => h ▸ rfl⟩
  cases m <;> cases m' <;> first | rfl | exact absurd h (by decide)

theorem contractChanges_eq_nil {id : Text} {b l : OperationContract} :
    contractChanges id b l = [] ↔ b.method = l.method ∧ b.path = l.path ∧
      pyEq b.parameters l.parameters = true ∧ pyEq b.requestBody l.requestBody = true ∧
      pyEq b.responses l.responses = true := by
  simp only [contractChanges, List.append_eq_nil_iff, scalarChange_eq_nil, structuralChange_eq_nil,
    text_injective, and_assoc]

theorem operationDifferences_eq_nil {b l : Dict Text OperationContract} :
    operationDifferences b l = [] ↔
      (∀ id, (∃ c, b.get? id = some c) ↔ ∃ c, l.get? id = some c) ∧
        ∀ id c c', b.get? id = some c → l.get? id = some c' → contractChanges id c c' = [] := by
  have hiff : ∀ {d d' : Dict Text OperationContract},
      (∀ e ∈ d.entries, ¬ (d'.get? e.1).isNone = true) ↔
        ∀ id, (∃ c, d.get? id = some c) → ∃ c, d'.get? id = some c := by
    intro d d'
    constructor
    · rintro h id ⟨c, hc⟩
      have := h (id, c) (Dict.mem_entries_iff.mpr hc)
      rwa [Option.isNone_iff_eq_none, ← ne_eq, Option.ne_none_iff_exists'] at this
    · intro h e he
      rw [Option.isNone_iff_eq_none, ← ne_eq, Option.ne_none_iff_exists']
      exact h e.1 ⟨e.2, Dict.mem_entries_iff.mp he⟩
  simp only [operationDifferences, List.append_eq_nil_iff, List.map_eq_nil_iff,
    List.filter_eq_nil_iff, List.flatMap_eq_nil_iff, mem_sortByKey, hiff]
  constructor
  · rintro ⟨⟨hb, hl⟩, hcommon⟩
    refine ⟨fun id => ⟨hb id, hl id⟩, fun id c c' hc hc' => ?_⟩
    have := hcommon (id, c) (Dict.mem_entries_iff.mpr hc)
    simpa only [hc'] using this
  · rintro ⟨hids, hcommon⟩
    refine ⟨⟨fun id => (hids id).mp, fun id => (hids id).mpr⟩, fun e he => ?_⟩
    cases hl : l.get? e.1 with
    | none => rfl
    | some c => exact hcommon e.1 e.2 c (Dict.mem_entries_iff.mp he) hl

theorem schemaDifferences_eq_nil {b l : Entries} (hl : (l.map Prod.fst).Nodup) :
    schemaDifferences b l = [] ↔
      (∀ name, name ∈ b.map Prod.fst ↔ name ∈ l.map Prod.fst) ∧
        ∀ name x y, (name, x) ∈ b → (name, y) ∈ l → pyEq x y = true := by
  have hiff : ∀ {d d' : Entries}, (∀ e ∈ d, ¬ (d'.lookup e.1).isNone = true) ↔
      ∀ name, name ∈ d.map Prod.fst → name ∈ d'.map Prod.fst := by
    intro d d'
    rw [← List.forall_mem_map (f := Prod.fst)
      (P := fun name => ¬ (d'.lookup name).isNone = true)]
    refine forall₂_congr fun name _ => ?_
    rw [Option.isNone_iff_eq_none, List.lookup_eq_none_iff]
    simp
  simp only [schemaDifferences, List.append_eq_nil_iff, List.map_eq_nil_iff,
    List.filter_eq_nil_iff, List.flatMap_eq_nil_iff, mem_sortByKey, hiff]
  constructor
  · rintro ⟨⟨hbl, hlb⟩, hcommon⟩
    refine ⟨fun name => ⟨hbl name, hlb name⟩, fun name x y hx hy => ?_⟩
    have := hcommon (name, x) hx
    rw [(Dict.lookup_eq_some_iff_mem hl).mpr hy] at this
    exact structuralChange_eq_nil.mp this
  · rintro ⟨hnames, hcommon⟩
    refine ⟨⟨fun name => (hnames name).mp, fun name => (hnames name).mpr⟩, fun e he => ?_⟩
    cases hlookup : l.lookup e.1 with
    | none => rfl
    | some y =>
      exact structuralChange_eq_nil.mpr
        (hcommon e.1 e.2 y he ((Dict.lookup_eq_some_iff_mem hl).mp hlookup))

theorem componentSchemas_eq_ok {schemas : Entries} (h : componentSchemas doc = .ok schemas) :
    schemas = doc.schemas := by
  unfold componentSchemas at h
  unfold OpenApiDocument.schemas
  cases hcomponents : doc.entries.lookup (lit "components") with
  | none =>
    rw [hcomponents] at h
    exact (Except.ok.inj h).symm
  | some components =>
    rw [hcomponents] at h
    cases components with
    | null => exact (Except.ok.inj h).symm
    | dict components =>
      cases hschemas : components.lookup (lit "schemas") with
      | none =>
        simp only [hschemas] at h ⊢
        exact (Except.ok.inj h).symm
      | some schemas' =>
        simp only [hschemas] at h ⊢
        cases schemas' with
        | null => exact (Except.ok.inj h).symm
        | dict schemas' => exact (Except.ok.inj h).symm
        | _ => cases h
    | _ => cases h

/-! ## The check -/

/-- **The check reports nothing iff the compared values are equal for `==`.** -/
theorem compareOpenapiDocuments_eq_nil {differences : List OpenApiDifference}
    (h : compareOpenapiDocuments baseline live = .ok differences) :
    differences = [] ↔ SameContractBy (fun x y => pyEq x y = true) baseline live := by
  simp only [compareOpenapiDocuments, bind_eq_ok_iff] at h
  obtain ⟨baselineOperations, hb, liveOperations, hl, baselineSchemas, hbs, liveSchemas, hls, h⟩ := h
  cases h
  rw [componentSchemas_eq_ok hbs, componentSchemas_eq_ok hls, List.append_eq_nil_iff,
    operationDifferences_eq_nil,
    schemaDifferences_eq_nil (Json.keysDistinct_dict_iff.mp keysDistinct_schemas).1]
  simp only [get?_operationContracts hb, get?_operationContracts hl, contractChanges_eq_nil]
  exact ⟨fun ⟨⟨hids, hcontracts⟩, hnames, hschemas⟩ => ⟨hids, hcontracts, hnames, hschemas⟩,
    fun ⟨hids, hcontracts, hnames, hschemas⟩ => ⟨⟨hids, hcontracts⟩, hnames, hschemas⟩⟩

/-- **The drift check is exact** unless the two contracts are the same once true is read as 1 and
false as 0, and somewhere one has a boolean where the other has a number. -/
theorem drift_exact {differences : List OpenApiDifference}
    (h : compareOpenapiDocuments baseline live = .ok differences) :
    (differences = [] ↔ SameContract baseline live) ↔
      ¬ (SameAsNumbers baseline live ∧ Confused baseline live) := by
  rw [compareOpenapiDocuments_eq_nil h, sameContract_iff_pyEq, sameAsNumbers_iff_pyEq]
  tauto

/-- Two operations and two schemas, a maximum written as an integer. -/
def quotesBaseline : OpenApiDocument where
  entries := [
    (lit "info", .dict [(lit "title", .str (lit "Quotes")), (lit "version", .str (lit "1"))]),
    (lit "paths", .dict [(lit "/v1/quotes", .dict [
      (lit "get", .dict [(lit "operationId", .str (lit "listQuotes")), (lit "parameters", .list [
        .dict [(lit "in", .str (lit "query")), (lit "name", .str (lit "limit")), (lit "schema",
          .dict [(lit "maximum", .number (.int 100))])]])]),
      (lit "post", .dict [(lit "operationId", .str (lit "createQuote")), (lit "requestBody",
        .dict [(lit "required", .bool true)])])])]),
    (lit "components", .dict [(lit "schemas", .dict [
      (lit "Price", .dict [(lit "exclusiveMinimum", .bool true), (lit "minimum", .number (.int 0))]),
      (lit "Quote", .dict [(lit "type", .str (lit "object")), (lit "nullable", .bool false)])])])]
  keysDistinct := by simp [Json.KeysDistinct, Json.KeysDistinctEntries, Json.KeysDistinctItems, lit]

/-- The same contract: other metadata, other orders of the keys, the maximum written as a float. -/
def quotesLive : OpenApiDocument where
  entries := [
    (lit "components", .dict [(lit "schemas", .dict [
      (lit "Quote", .dict [(lit "nullable", .bool false), (lit "type", .str (lit "object"))]),
      (lit "Price", .dict [(lit "minimum", .number (.int 0)), (lit "exclusiveMinimum", .bool true)])])]),
    (lit "paths", .dict [(lit "/v1/quotes", .dict [
      (lit "post", .dict [(lit "requestBody", .dict [(lit "required", .bool true)]),
        (lit "operationId", .str (lit "createQuote"))]),
      (lit "get", .dict [(lit "operationId", .str (lit "listQuotes")), (lit "summary",
        .str (lit "All quotes")), (lit "parameters", .list [.dict [(lit "name", .str (lit "limit")),
          (lit "in", .str (lit "query")), (lit "schema",
            .dict [(lit "maximum", .number (.float (.finite 100)))])]])])])])]
  keysDistinct := by simp [Json.KeysDistinct, Json.KeysDistinctEntries, Json.KeysDistinctItems, lit]

theorem drift_exact_example : ([] = ([] : List OpenApiDifference) ↔ SameContract quotesBaseline quotesLive) ↔
    ¬ (SameAsNumbers quotesBaseline quotesLive ∧ Confused quotesBaseline quotesLive) :=
  drift_exact (show compareOpenapiDocuments quotesBaseline quotesLive = .ok [] by decide +kernel)

/-- A document without operations, its one schema a price bounded by `bound`. -/
def boundedDocument (bound : Json PyNumber) (hbound : bound.KeysDistinct) : OpenApiDocument where
  entries := [(lit "paths", .dict []), (lit "components", .dict [(lit "schemas",
    .dict [(lit "Price", .dict [(lit "exclusiveMinimum", bound)])])])]
  keysDistinct := by
    have hkeys : lit "paths" ≠ lit "components" := by decide
    simp [Json.KeysDistinct, Json.KeysDistinctEntries, hbound, hkeys]

/-- `exclusiveMinimum: true`, as OpenAPI 3.0 writes a strict bound. -/
def strictDocument : OpenApiDocument := boundedDocument (.bool true) (by simp [Json.KeysDistinct])

/-- `exclusiveMinimum: 1`, as OpenAPI 3.1 writes the bound itself. -/
def boundOneDocument : OpenApiDocument :=
  boundedDocument (.number (.int 1)) (by simp [Json.KeysDistinct])

/-- A strict bound turned into the bound 1 is not reported. -/
theorem boolean_bound_example : compareOpenapiDocuments strictDocument boundOneDocument = .ok [] ∧
    ¬ ([] = ([] : List OpenApiDifference) ↔ SameContract strictDocument boundOneDocument) := by
  refine ⟨rfl, fun h => ?_⟩
  have hprice := (h.mp rfl).schemas (lit "Price") _ _ List.mem_cons_self List.mem_cons_self
  cases hprice with
  | dict hkeys hvalues =>
    have hbound := hvalues (lit "exclusiveMinimum") _ _ List.mem_cons_self List.mem_cons_self
    cases hbound

end ApiTests.OpenApi
