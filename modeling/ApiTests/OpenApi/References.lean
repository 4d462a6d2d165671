import ApiTests.OpenApi.DriftExact
import ApiTests.Py.Pointer

/-!
# References and the drift check (`openapi_drift.py:31-97, 118-179`)

An operation's parameters, request body and responses may refer to shared components, and these to
others. `Reaches` follows such `$ref`s through a document, from its operations on, whatever the
section of `components` and through cycles. The drift check compares the inline values and the
section `schemas`; it looks into no other section.

Results:
* **`drift_follows_references`**: after a check without differences, everything the operations reach
  is unchanged exactly when what they reach outside `schemas` is, and the schemas they reach confuse
  no boolean with a number.
-/

namespace ApiTests.OpenApi

open Py

/-! ## References -/

mutual

/-- The `$ref` texts inside a value. -/
def refs : Json PyNumber → List Text
  | .list items => refsItems items
  | .dict entries => refsEntries entries
  | _ => []

def refsItems : List (Json PyNumber) → List Text
  | [] => []
  | item :: items => refs item ++ refsItems items

def refsEntries : Entries → List Text
  | [] => []
  | (key, item) :: entries =>
    (match item with
      | .str target => if key = lit "$ref" then [target] else []
      | item => refs item) ++ refsEntries entries

end

/-- The section and the name of the component that the segments of a pointer lead to, or into. -/
def componentAt? : List Text → Option (Text × Text)
  | root :: kind :: name :: _ => if root = lit "components" then some (kind, name) else none
  | _ => none

/-- The section and the name of the component a local reference `#/components/section/name` is to, or
into. The fragment is read as `resolveFragment` reads it: its percent escapes decoded, then split. -/
def componentOf? : Text → Option (Text × Text)
  | 35 :: 47 :: pointer => componentAt? (((unquote pointer).splitOn 47).map unescapePointer)
  | _ => none

/-- The component `name` in a section of `components`. -/
def OpenApiDocument.component? (doc : OpenApiDocument) (kind name : Text) :
    Option (Json PyNumber) :=
  match doc.entries.lookup (lit "components") with
  | some (.dict components) =>
    match components.lookup kind with
    | some (.dict items) => items.lookup name
    | _ => none
  | _ => none

/-- **The document's operations reach the component `name` of a section.** -/
inductive OpenApiDocument.Reaches (doc : OpenApiDocument) : Text → Text → Prop where
  /-- By a reference in an operation's own values. -/
  | inline {id : Text} {contract : OperationContract} {ref kind name : Text} {x : Json PyNumber}
      (hcontract : doc.HasContract id contract)
      (href : ref ∈ refs contract.parameters ++ refs contract.requestBody ++ refs contract.responses)
      (htarget : componentOf? ref = some (kind, name)) (hx : doc.component? kind name = some x) :
      doc.Reaches kind name
  /-- By a reference in a component they reach. -/
  | through {kind name ref kind' name' : Text} {x y : Json PyNumber} (h : doc.Reaches kind name)
      (hx : doc.component? kind name = some x) (href : ref ∈ refs x)
      (htarget : componentOf? ref = some (kind', name')) (hy : doc.component? kind' name' = some y) :
      doc.Reaches kind' name'

/-- The component is in both documents, with the same value. -/
def Unchanged (baseline live : OpenApiDocument) (kind name : Text) : Prop :=
  ∃ x y, baseline.component? kind name = some x ∧ live.component? kind name = some y ∧ SameJson x y

/-- **Every component the baseline's operations reach is unchanged.** -/
def Follows (baseline live : OpenApiDocument) : Prop :=
  ∀ kind name, baseline.Reaches kind name → Unchanged baseline live kind name

/-- Some schema the baseline's operations reach has a boolean where the other document has a number. -/
def ConfusedSchema (baseline live : OpenApiDocument) : Prop :=
  ∃ name x y, baseline.Reaches (lit "schemas") name ∧
    baseline.component? (lit "schemas") name = some x ∧
    live.component? (lit "schemas") name = some y ∧ clashes x y = true

/-! ## The section `schemas` -/

variable {doc baseline live : OpenApiDocument}

theorem component?_schemas {name : Text} {x : Json PyNumber} :
    doc.component? (lit "schemas") name = some x ↔ (name, x) ∈ doc.schemas := by
  rw [← Dict.lookup_eq_some_iff_mem (Json.keysDistinct_dict_iff.mp keysDistinct_schemas).1]
  unfold OpenApiDocument.component? OpenApiDocument.schemas
  cases doc.entries.lookup (lit "components") with
  | none => simp
  | some components =>
    cases components with
    | dict components =>
      simp only
      cases components.lookup (lit "schemas") with
      | none => simp
      | some schemas => cases schemas <;> simp
    | _ => simp

theorem OpenApiDocument.Reaches.exists_component {kind name : Text} (h : doc.Reaches kind name) :
    ∃ x, doc.component? kind name = some x := by
  cases h with
  | inline _ _ _ hx => exact ⟨_, hx⟩
  | through _ _ _ _ hy => exact ⟨_, hy⟩

/-- A schema of the baseline, after a check without differences. -/
theorem unchanged_schema_iff (h : compareOpenapiDocuments baseline live = .ok []) {name : Text}
    {x : Json PyNumber} (hx : baseline.component? (lit "schemas") name = some x) :
    ∃ y, live.component? (lit "schemas") name = some y ∧
      (Unchanged baseline live (lit "schemas") name ↔ clashes x y = false) := by
  have hsame := (compareOpenapiDocuments_eq_nil h).mp rfl
  have hxs := component?_schemas.mp hx
  obtain ⟨⟨_, y⟩, hys, rfl⟩ := List.mem_map.mp
    ((hsame.names name).mp (List.mem_map.mpr ⟨(name, x), hxs, rfl⟩))
  have hcompared : Compared baseline live x y := .schema hxs hys
  have hboth := sameJson_iff_pyEq hcompared.keysDistinct.1 hcompared.keysDistinct.2
  have hy := component?_schemas.mpr hys
  refine ⟨y, hy, ?_⟩
  constructor
  · rintro ⟨x', y', hx', hy', heq⟩
    rw [hx, Option.some.injEq] at hx'
    rw [hy, Option.some.injEq] at hy'
    subst hx' hy'
    exact (hboth.mp heq).2
  · exact fun hclear => ⟨x, y, hx, hy, hboth.mpr ⟨hsame.schemas _ x y hxs hys, hclear⟩⟩

/-! ## The check -/

/-- **What a check without differences says about shared components.** -/
theorem drift_follows_references (h : compareOpenapiDocuments baseline live = .ok []) :
    Follows baseline live ↔
      (∀ kind name, kind ≠ lit "schemas" → baseline.Reaches kind name →
        Unchanged baseline live kind name) ∧ ¬ ConfusedSchema baseline live := by
  constructor
  · intro hfollows
    refine ⟨fun kind name _ hreach => hfollows kind name hreach, ?_⟩
    rintro ⟨name, x, y, hreach, hx, hy, hclash⟩
    obtain ⟨y', hy', hiff⟩ := unchanged_schema_iff h hx
    rw [hy, Option.some.injEq] at hy'
    subst hy'
    rw [hiff.mp (hfollows _ _ hreach)] at hclash
    cases hclash
  · rintro ⟨hothers, hclear⟩ kind name hreach
    by_cases hkind : kind = lit "schemas"
    · subst hkind
      obtain ⟨x, hx⟩ := hreach.exists_component
      obtain ⟨y, hy, hiff⟩ := unchanged_schema_iff h hx
      refine hiff.mpr ?_
      rw [← Bool.not_eq_true]
      exact fun hclash => hclear ⟨name, x, y, hreach, hx, hy, hclash⟩
    · exact hothers kind name hkind hreach

/-- Two operations: one whose parameter is a component that refers to a schema, and one whose body is
a component that refers to a schema of views, which refers to itself. -/
def viewsDocument (title : Text) : OpenApiDocument where
  entries := [
    (lit "info", .dict [(lit "title", .str title)]),
    (lit "paths", .dict [(lit "/v1/views", .dict [
      (lit "get", .dict [(lit "operationId", .str (lit "listViews")), (lit "parameters", .list [
        .dict [(lit "$ref", .str (lit "#/components/parameters/%4Cimit"))]])]),
      (lit "post", .dict [(lit "operationId", .str (lit "createView")), (lit "requestBody",
        .dict [(lit "$ref", .str (lit "#/components/requestBodies/View"))])])])]),
    (lit "components", .dict [
      (lit "parameters", .dict [(lit "Limit", .dict [(lit "in", .str (lit "query")), (lit "schema",
        .dict [(lit "$ref", .str (lit "#/components/schemas/Bound"))])])]),
      (lit "requestBodies", .dict [(lit "View", .dict [(lit "schema",
        .dict [(lit "$ref", .str (lit "#/components/schemas/View"))])])]),
      (lit "schemas", .dict [
        (lit "Bound", .dict [(lit "maximum", .number (.int 10))]),
        (lit "View", .dict [(lit "parent",
          .dict [(lit "$ref", .str (lit "#/components/schemas/View"))])])])])]
  keysDistinct := by simp [Json.KeysDistinct, Json.KeysDistinctEntries, Json.KeysDistinctItems, lit]

/-- Another title, and the same contract: what the operations reach by way of other components is
unchanged. -/
theorem drift_follows_references_example :
    (viewsDocument (lit "Views")).Reaches (lit "schemas") (lit "Bound") ∧
      (Follows (viewsDocument (lit "Views")) (viewsDocument (lit "All views")) ↔
        (∀ kind name, kind ≠ lit "schemas" → (viewsDocument (lit "Views")).Reaches kind name →
          Unchanged (viewsDocument (lit "Views")) (viewsDocument (lit "All views")) kind name) ∧
        ¬ ConfusedSchema (viewsDocument (lit "Views")) (viewsDocument (lit "All views"))) := by
  refine ⟨?_, drift_follows_references (show compareOpenapiDocuments _ _ = .ok [] by rfl)⟩
  have hcontract : ∃ contract, (viewsDocument (lit "Views")).HasContract (lit "listViews") contract ∧
      lit "#/components/parameters/%4Cimit" ∈ refs contract.parameters := by
    refine ⟨_, ⟨lit "/v1/views", .get, _, _, ⟨⟨_, rfl, List.mem_cons_self⟩, List.mem_cons_self⟩, rfl,
      rfl⟩, ?_⟩
    decide
  obtain ⟨contract, hcontract, href⟩ := hcontract
  have hlimit : (viewsDocument (lit "Views")).Reaches (lit "parameters") (lit "Limit") :=
    .inline hcontract (List.mem_append_left _ (List.mem_append_left _ href)) rfl rfl
  exact .through hlimit rfl (show lit "#/components/schemas/Bound" ∈ _ by decide) rfl rfl

/-- One operation whose only parameter is the shared `Limit`, at most `maximum`. -/
def limitDocument (maximum : Int) : OpenApiDocument where
  entries := [
    (lit "paths", .dict [(lit "/v1/views", .dict [(lit "get", .dict [
      (lit "operationId", .str (lit "listViews")),
      (lit "parameters", .list [.dict [(lit "$ref", .str (lit "#/components/parameters/Limit"))]])])])]),
    (lit "components", .dict [(lit "parameters", .dict [(lit "Limit", .dict [
      (lit "in", .str (lit "query")), (lit "maximum", .number (.int maximum))])])])]
  keysDistinct := by simp [Json.KeysDistinct, Json.KeysDistinctEntries, Json.KeysDistinctItems, lit]

/-- A shared parameter changes from at most 10 to at most 100, and nothing is reported. -/
theorem shared_parameter_example :
    compareOpenapiDocuments (limitDocument 10) (limitDocument 100) = .ok [] ∧
      ¬ Follows (limitDocument 10) (limitDocument 100) := by
  refine ⟨rfl, fun h => ?_⟩
  have hcontracts : ∃ contract, (limitDocument 10).HasContract (lit "listViews") contract ∧
      lit "#/components/parameters/Limit" ∈ refs contract.parameters := by
    refine ⟨_, ⟨lit "/v1/views", .get, _, _, ⟨⟨_, rfl, List.mem_cons_self⟩, List.mem_cons_self⟩, rfl,
      rfl⟩, ?_⟩
    decide
  obtain ⟨contract, hcontract, href⟩ := hcontracts
  have hreach : (limitDocument 10).Reaches (lit "parameters") (lit "Limit") :=
    .inline hcontract (List.mem_append_left _ (List.mem_append_left _ href)) rfl rfl
  obtain ⟨x, y, hx, hy, hsame⟩ := h _ _ hreach
  cases hx
  cases hy
  cases hsame with
  | dict hkeys hvalues =>
    have hmaximum := hvalues (lit "maximum") _ _ (List.mem_cons_of_mem _ List.mem_cons_self)
      (List.mem_cons_of_mem _ List.mem_cons_self)
    cases hmaximum with
    | number hvalue => exact absurd hvalue (by decide)

end ApiTests.OpenApi
