import ApiTests.OpenApi.Document
import ApiTests.Py.Percent
import ApiTests.Py.Rearranged
import ApiTests.Py.Template

/-!
# Request cases of the documented operations

Model of `build_operation_request_cases` (`openapi.py:138-157, 275-388`): every operation becomes a
request with a concrete path, its placeholders replaced one after another by values that its path
parameters give. What `str` writes of floats and, in messages, of other values is a parameter.

Results:
* `pathParameters_declared`: what the declarations of path parameters say.
* `materialize_eq_fill`: the replacements one after another fill the template.
* **`request_cases`**: one case for each operation, in order, with the filled template as its path.
-/

namespace ApiTests.OpenApi

open Py

/-- `OpenApiRequestCase`. -/
structure OpenApiRequestCase where
  operationId : Text
  method : HttpMethod
  path : Text
  contract : OpenApiContractKey
  deriving Repr, DecidableEq

/-- What the module writes of values with `str` and `repr`. -/
structure Printer where
  unicode : Unicode
  /-- `str` of a `float`. -/
  float : NumberValue → Text
  /-- `str` of what a mapping has for a key. -/
  display : Option (Json PyNumber) → Text

/-- What `build_operation_request_cases` raises. -/
inductive RequestError where
  | valueError (e : ValueError)
  /-- `quote` of a lone surrogate. -/
  | unicodeEncodeError
  deriving Repr, DecidableEq

/-- A check of the module. -/
abbrev Requested := Except RequestError

/-- `raise ValueError(message)`. -/
def refuse {α : Type} (message : Text) : Requested α := .error (.valueError ⟨message⟩)

/-- `if condition: raise ValueError(message)`. -/
def refuseIf (condition : Prop) [Decidable condition] (message : Text) : Requested Unit :=
  raiseWhen condition (.valueError ⟨message⟩)

/-- `value == text`. -/
def isText (text : Text) : Option (Json PyNumber) → Bool
  | some (.str t) => t == text
  | _ => false

/-- `value is True`. -/
def isTrue : Option (Json PyNumber) → Bool
  | some (.bool b) => b
  | _ => false

/-- What a mapping has for a key, with `None` for `null`. -/
def present (entries : Entries) (key : Text) : Option (Json PyNumber) :=
  match entries.lookup key with
  | some .null => none
  | x => x

variable (printer : Printer)

/-- `_operation_context`. -/
def operationContext (operation : OpenApiOperation) : Text :=
  lit "OpenAPI operation " ++ reprText printer.unicode operation.operationId ++ lit " (" ++
    operation.method.text ++ lit " " ++ operation.path ++ lit ")"

/-- `_require_json_response_schema`. -/
def requireJsonResponseSchema (entry : OpenApiOperationEntry) (statusKey : Text) :
    Requested Unit :=
  let context := operationContext printer entry.operation
  match entry.rawOperation.lookup (lit "responses") with
  | some (.dict responses) =>
    match responses.lookup statusKey with
    | none => refuse (context ++ lit " is missing documented " ++ statusKey ++ lit " response")
    | some (.dict response) =>
      match response.lookup (lit "content") with
      | some (.dict content) =>
        match content.lookup (lit "application/json") with
        | some (.dict media) =>
          match media.lookup (lit "schema") with
          | some (.dict _) => .ok ()
          | _ => refuse (context ++ lit " response " ++ statusKey ++
              lit " is missing application/json schema")
        | _ => refuse (context ++ lit " response " ++ statusKey ++
            lit " is missing application/json schema")
      | _ => refuse (context ++ lit " response " ++ statusKey ++
          lit " is missing application/json content")
    | some _ => refuse (context ++ lit " response " ++ statusKey ++ lit " must be an object")
  | _ => refuse (context ++ lit " is missing documented " ++ statusKey ++ lit " response")

/-! ## Path parameters -/

/-- The path parameters declared so far, by name. -/
abbrev Parameters := Dict Text Entries

/-- The loop over the parameters of an owner, from number `index` on. -/
def addParameters (context owner : Text) : Nat → Parameters → List (Json PyNumber) →
    Requested Parameters
  | _, parameters, [] => .ok parameters
  | index, parameters, .dict parameter :: rest =>
    if isText (lit "path") (parameter.lookup (lit "in")) then
      match parameter.lookup (lit "name") with
      | some (.str name) => do
        refuseIf (name = []) (context ++ lit " " ++ owner ++ lit " path parameter #" ++
          lit (toString (index + 1)) ++ lit " is missing name")
        refuseIf (name ∈ parameters.entries.map Prod.fst)
          (context ++ lit " has duplicate path parameter " ++ reprText printer.unicode name)
        refuseIf (¬ isTrue (parameter.lookup (lit "required")))
          (context ++ lit " path parameter " ++ reprText printer.unicode name ++
            lit " must be required")
        addParameters context owner (index + 1) (parameters.update (.single name parameter)) rest
      | _ => refuse (context ++ lit " " ++ owner ++ lit " path parameter #" ++
          lit (toString (index + 1)) ++ lit " is missing name")
    else addParameters context owner (index + 1) parameters rest
  | index, _, _ :: _ => refuse (context ++ lit " " ++ owner ++ lit " parameter #" ++
      lit (toString (index + 1)) ++ lit " must be an object")

/-- The parameters of one owner. -/
def ownerParameters (context owner : Text) (entries : Entries) (parameters : Parameters) :
    Requested Parameters :=
  match (entries.lookup (lit "parameters")).getD (.list []) with
  | .list items => addParameters printer context owner 0 parameters items
  | _ => refuse (context ++ lit " " ++ owner ++ lit " parameters must be an array")

/-- `_path_parameters`. -/
def pathParameters (entry : OpenApiOperationEntry) : Requested Parameters := do
  let context := operationContext printer entry.operation
  let parameters ← ownerParameters printer context (lit "path item") entry.pathItem .empty
  ownerParameters printer context (lit "operation") entry.rawOperation parameters

/-- `str` of a number. -/
def Printer.number : PyNumber → Text
  | .int n => lit (toString n)
  | .float v => printer.float v

/-- `_UUID_PATH_FALLBACK`. -/
def uuidPathFallback : Text := lit "00000000-0000-4000-8000-000000000001"

/-- `quote(value, safe="")`. -/
def quoted (value : Text) : Requested Text :=
  match quote value with
  | some text => .ok text
  | none => .error .unicodeEncodeError

/-- The `str(example)` of `_path_parameter_value`, checked and quoted. -/
def exampleValue (context name value : Text) : Requested Text := do
  refuseIf (value = [])
    (context ++ lit " path parameter " ++ reprText printer.unicode name ++
      lit " has an empty example")
  quoted value

/-- The value of an example that is not `None`. -/
def quotedExample (context name : Text) : Json PyNumber → Requested Text
  | .str value => exampleValue printer context name value
  | .number n => exampleValue printer context name (printer.number n)
  | _ => refuse (context ++ lit " path parameter " ++ reprText printer.unicode name ++
      lit " has an unsupported example")

/-- The value of a schema without an example. -/
def typedFallback (context name : Text) (schema : Entries) : Requested Text :=
  let schemaType := schema.lookup (lit "type")
  let schemaFormat := schema.lookup (lit "format")
  if isText (lit "integer") schemaType then .ok (lit "1")
  else if isText (lit "string") schemaType ∧ isText (lit "uuid") schemaFormat then
    .ok uuidPathFallback
  else if isText (lit "string") schemaType then .ok (lit "example")
  else
    refuse (context ++ lit " path parameter " ++ reprText printer.unicode name ++
      lit " has unsupported schema type/format: " ++ printer.display schemaType ++ lit "/" ++
      printer.display schemaFormat)

/-- `_path_parameter_value`. -/
def pathParameterValue (operation : OpenApiOperation) (name : Text) (parameter : Entries) :
    Requested Text :=
  let context := operationContext printer operation
  match parameter.lookup (lit "schema") with
  | some (.dict schema) =>
    match (present parameter (lit "example")).or (present schema (lit "example")) with
    | some x => quotedExample printer context name x
    | none => typedFallback printer context name schema
  | _ => refuse (context ++ lit " path parameter " ++ reprText printer.unicode name ++
      lit " is missing a schema")

/-! ## The path -/

/-- The loop that replaces the placeholders. -/
def substitute (operation : OpenApiOperation) (parameters : Parameters) :
    List Text → Text → Requested Text
  | [], materialized => .ok materialized
  | name :: placeholders, materialized => do
    let value ← pathParameterValue printer operation name (parameters.getD name [])
    substitute operation parameters placeholders
      (replaceFirst (placeholder name) value materialized)

/-- `_materialize_operation_path`. -/
def materializeOperationPath (entry : OpenApiOperationEntry) : Requested Text := do
  let context := operationContext printer entry.operation
  let path := entry.operation.path
  let placeholders := findPlaceholders path
  refuseIf (path.count openBrace ≠ placeholders.length ∨
      path.count closeBrace ≠ placeholders.length)
    (context ++ lit " has unsupported path template: " ++ path)
  let _ ← collect .ok (fun name => name) (fun _ name => .valueError
    ⟨context ++ lit " has duplicate path parameter " ++ reprText printer.unicode name⟩) .ok []
    placeholders
  let parameters ← pathParameters printer entry
  checkAll (fun name => refuseIf (name ∉ parameters.entries.map Prod.fst)
    (context ++ lit " path parameter " ++ reprText printer.unicode name ++
      lit " is missing a declaration")) placeholders
  checkAll (fun name => refuseIf (name ∉ placeholders)
    (context ++ lit " path parameter " ++ reprText printer.unicode name ++
      lit " does not match the path template")) (parameters.entries.map Prod.fst)
  substitute printer entry.operation parameters placeholders path

/-- The case of one operation. -/
def requestCase (statusKeys : List Text) (entry : OpenApiOperationEntry) :
    Requested OpenApiRequestCase := do
  checkAll (requireJsonResponseSchema printer entry) statusKeys
  let path ← materializeOperationPath printer entry
  .ok
    { operationId := entry.operation.operationId
      method := entry.operation.method
      path
      contract := entry.operation.contract }

/-- `build_operation_request_cases`, the statuses as texts. -/
def buildOperationRequestCases (doc : OpenApiDocument) (contract : OpenApiContractKey)
    (requiredResponseStatuses : List Text) : Requested (List OpenApiRequestCase) := do
  let entries ← (validatedOperationEntries printer.unicode doc contract).mapError .valueError
  let cases ← readAll (requestCase printer requiredResponseStatuses.eraseDups) entries
  .ok (sortBy (fun c => keyOfTexts c.path c.method.text c.operationId) cases)

/-! ## What a path is filled with -/

/-- The path parameters in the list of an owner, with their names. -/
def namedParameters (items : List (Json PyNumber)) : List (Text × Entries) :=
  items.filterMap fun item =>
    match item with
    | .dict parameter =>
      if isText (lit "path") (parameter.lookup (lit "in")) then
        match parameter.lookup (lit "name") with
        | some (.str name) => some (name, parameter)
        | _ => none
      else none
    | _ => none

/-- The path parameters an owner declares. -/
def declaredParameters (owner : Entries) : List (Text × Entries) :=
  match owner.lookup (lit "parameters") with
  | some (.list items) => namedParameters items
  | _ => []

/-- `parameter` is a path parameter `name` of the operation or its path item. -/
structure PathParameter (item operation : Entries) (name : Text) (parameter : Entries) : Prop where
  declared : ∃ items, (item.lookup (lit "parameters") = some (.list items) ∨
    operation.lookup (lit "parameters") = some (.list items)) ∧ .dict parameter ∈ items
  place : parameter.lookup (lit "in") = some (.str (lit "path"))
  name : parameter.lookup (lit "name") = some (.str name)

/-- An example that is a string or a number, as a text. -/
inductive ExampleText : Json PyNumber → Text → Prop
  | str (t : Text) : ExampleText (.str t) t
  | number (n : PyNumber) : ExampleText (.number n) (printer.number n)

/-- What a schema without an example stands for. -/
inductive TypedFallback (schema : Entries) : Text → Prop
  | integer (htype : schema.lookup (lit "type") = some (.str (lit "integer"))) :
      TypedFallback schema (lit "1")
  | uuid (htype : schema.lookup (lit "type") = some (.str (lit "string")))
      (hformat : schema.lookup (lit "format") = some (.str (lit "uuid"))) :
      TypedFallback schema uuidPathFallback
  | string (htype : schema.lookup (lit "type") = some (.str (lit "string")))
      (hformat : schema.lookup (lit "format") ≠ some (.str (lit "uuid"))) :
      TypedFallback schema (lit "example")

/-- **The value chosen for a parameter**: its example, else its schema's, else the typed fallback. -/
inductive ChosenValue (parameter : Entries) : Text → Prop
  | parameterExample {x : Json PyNumber} {value : Text}
      (h : present parameter (lit "example") = some x) (hx : ExampleText printer x value) :
      ChosenValue parameter value
  | schemaExample {schema : Entries} {x : Json PyNumber} {value : Text}
      (hnone : present parameter (lit "example") = none)
      (hschema : parameter.lookup (lit "schema") = some (.dict schema))
      (h : present schema (lit "example") = some x) (hx : ExampleText printer x value) :
      ChosenValue parameter value
  | fallback {schema : Entries} {value : Text}
      (hnone : present parameter (lit "example") = none)
      (hschema : parameter.lookup (lit "schema") = some (.dict schema))
      (hnone' : present schema (lit "example") = none) (h : TypedFallback schema value) :
      ChosenValue parameter value

/-- `/`. -/
abbrev slash : Nat := 0x2F

/-- **The path is the template with every placeholder filled at once**, by the quoted value of its
parameter. -/
structure FilledPath (item operation : Entries) (template path : Text) (parts : List TemplatePart)
    (chosen value : Text → Text) : Prop where
  source : sourceOf parts = template
  proper : ∀ p ∈ parts, p.Proper
  parameter : ∀ name ∈ namesOf parts, ∃ parameter, PathParameter item operation name parameter ∧
    (∀ other, PathParameter item operation name other → other = parameter) ∧
    ChosenValue printer parameter (chosen name)
  quoted : ∀ name ∈ namesOf parts, quote (chosen name) = some (value name)
  filled : path = fillOf value parts
  noBrace : ∀ c ∈ path, noBrace c = true
  /-- The slashes are those outside the placeholders. -/
  slashes : path.count slash = (parts.flatMap TemplatePart.literal).count slash
  /-- A value is read back, its characters being characters. -/
  decoded : ∀ name ∈ namesOf parts, (∀ c ∈ chosen name, c < 0x110000) →
    unquote (value name) = chosen name

/-- The case of an operation that the document declares. -/
structure CaseOf (doc : OpenApiDocument) (operation : OpenApiOperation) (c : OpenApiRequestCase) :
    Prop where
  operationId : c.operationId = operation.operationId
  method : c.method = operation.method
  contract : c.contract = operation.contract
  path : ∃ item raw, doc.HasOperation operation.path operation.method item raw ∧
    raw.lookup (lit "operationId") = some (.str operation.operationId) ∧
    ∃ parts chosen value, FilledPath printer item raw operation.path c.path parts chosen value

/-- The cases stand in the order of `(path, method, operation_id)`. -/
def SortedCases (cases : List OpenApiRequestCase) : Prop :=
  cases.Pairwise fun c c' =>
    keyOfTexts c.path c.method.text c.operationId < keyOfTexts c'.path c'.method.text c'.operationId

/-! ## The parameters -/

variable {printer} {context owner : Text} {entry : OpenApiOperationEntry}

theorem isText_iff {text : Text} {x : Option (Json PyNumber)} :
    isText text x = true ↔ x = some (.str text) := by
  unfold isText
  cases x with
  | none => simp
  | some x => cases x <;> simp

theorem refuseIf_eq_ok {condition : Prop} [Decidable condition] {message : Text} {u : Unit} :
    refuseIf condition message = .ok u ↔ ¬ condition := raiseWhen_eq_ok

theorem mapError_eq_ok {ε ε' α : Type} {x : Except ε α} {f : ε → ε'} {a : α} :
    x.mapError f = .ok a ↔ x = .ok a := by
  cases x with
  | ok b => simp [Except.mapError]
  | error e => simp [Except.mapError]

theorem refuse_ne_ok {α : Type} {message : Text} {a : α} : refuse message ≠ .ok a :=
  fun h => nomatch h

/-- **What the declarations of an owner add**: its path parameters, in order. -/
theorem addParameters_entries {items : List (Json PyNumber)} {index : Nat}
    {parameters result : Parameters}
    (h : addParameters printer context owner index parameters items = .ok result) :
    result.entries = parameters.entries ++ namedParameters items := by
  induction items generalizing index parameters with
  | nil =>
    cases h
    exact (List.append_nil _).symm
  | cons item rest ih =>
    cases item with
    | dict parameter =>
      rw [addParameters] at h
      by_cases hplace : isText (lit "path") (parameter.lookup (lit "in")) = true
      · rw [if_pos hplace] at h
        cases hname : parameter.lookup (lit "name") with
        | none =>
          rw [hname] at h
          exact absurd h refuse_ne_ok
        | some x =>
          rw [hname] at h
          cases x with
          | str name =>
            simp only [bind_eq_ok_iff, refuseIf_eq_ok] at h
            obtain ⟨-, -, -, hnew, -, -, h⟩ := h
            have hnamed : namedParameters (.dict parameter :: rest) =
                (name, parameter) :: namedParameters rest := by
              rw [namedParameters, List.filterMap_cons_some (b := (name, parameter))]
              · rfl
              · simp only [hplace, if_true, hname]
            rw [ih h, hnamed, Dict.entries_update_single (Dict.get?_eq_none_iff.mpr hnew),
              List.append_assoc]
            rfl
          | _ => exact absurd h refuse_ne_ok
      · rw [if_neg hplace] at h
        have hnamed : namedParameters (.dict parameter :: rest) = namedParameters rest := by
          rw [namedParameters, List.filterMap_cons_none]
          · rfl
          · simp only [hplace, if_false, Bool.false_eq_true]
        rw [ih h, hnamed]
    | _ => exact absurd h refuse_ne_ok

theorem ownerParameters_entries {entries : Entries} {parameters result : Parameters}
    (h : ownerParameters printer context owner entries parameters = .ok result) :
    result.entries = parameters.entries ++ declaredParameters entries := by
  unfold ownerParameters at h
  unfold declaredParameters
  cases hlist : entries.lookup (lit "parameters") with
  | none =>
    rw [hlist] at h
    exact addParameters_entries h
  | some x =>
    rw [hlist] at h
    cases x with
    | list items => exact addParameters_entries h
    | _ => exact absurd h refuse_ne_ok

theorem pathParameters_entries {parameters : Parameters}
    (h : pathParameters printer entry = .ok parameters) :
    parameters.entries = declaredParameters entry.pathItem ++
      declaredParameters entry.rawOperation := by
  unfold pathParameters at h
  obtain ⟨first, hfirst, h⟩ := bind_eq_ok_iff.mp h
  rw [ownerParameters_entries h, ownerParameters_entries hfirst]
  rfl

theorem mem_declaredParameters {entries parameter : Entries} {name : Text} :
    (name, parameter) ∈ declaredParameters entries ↔
      ∃ items, entries.lookup (lit "parameters") = some (.list items) ∧ .dict parameter ∈ items ∧
        parameter.lookup (lit "in") = some (.str (lit "path")) ∧
        parameter.lookup (lit "name") = some (.str name) := by
  have hnamed : ∀ items, (name, parameter) ∈ namedParameters items ↔ .dict parameter ∈ items ∧
      parameter.lookup (lit "in") = some (.str (lit "path")) ∧
      parameter.lookup (lit "name") = some (.str name) := by
    intro items
    unfold namedParameters
    rw [List.mem_filterMap]
    constructor
    · rintro ⟨item, hitem, h⟩
      cases item with
      | dict p =>
        by_cases hplace : isText (lit "path") (p.lookup (lit "in")) = true
        · simp only [hplace, if_true] at h
          cases hname : p.lookup (lit "name") with
          | none => simp [hname] at h
          | some x =>
            cases x with
            | str t =>
              simp only [hname, Option.some.injEq, Prod.mk.injEq] at h
              obtain ⟨rfl, rfl⟩ := h
              exact ⟨hitem, isText_iff.mp hplace, hname⟩
            | _ => simp [hname] at h
        · simp [hplace] at h
      | _ => exact nomatch h
    · rintro ⟨hitem, hplace, hname⟩
      refine ⟨_, hitem, ?_⟩
      simp only [isText_iff.mpr hplace, if_true, hname]
  unfold declaredParameters
  cases hlist : entries.lookup (lit "parameters") with
  | none => simp
  | some x =>
    cases x with
    | list items => simp [hnamed]
    | _ => simp

theorem pathParameter_iff {item operation parameter : Entries} {name : Text} :
    PathParameter item operation name parameter ↔
      (name, parameter) ∈ declaredParameters item ++ declaredParameters operation := by
  rw [List.mem_append, mem_declaredParameters, mem_declaredParameters]
  constructor
  · rintro ⟨⟨items, hlist | hlist, hmem⟩, hplace, hname⟩
    · exact Or.inl ⟨items, hlist, hmem, hplace, hname⟩
    · exact Or.inr ⟨items, hlist, hmem, hplace, hname⟩
  · rintro (⟨items, hlist, hmem, hplace, hname⟩ | ⟨items, hlist, hmem, hplace, hname⟩)
    · exact ⟨⟨items, Or.inl hlist, hmem⟩, hplace, hname⟩
    · exact ⟨⟨items, Or.inr hlist, hmem⟩, hplace, hname⟩

/-- **What the declarations of path parameters say**: a name has one parameter. -/
theorem pathParameters_declared {parameters : Parameters}
    (h : pathParameters printer entry = .ok parameters) {name : Text} {parameter : Entries} :
    parameters.get? name = some parameter ↔
      PathParameter entry.pathItem entry.rawOperation name parameter := by
  rw [Dict.mem_entries_iff.symm, pathParameters_entries h, pathParameter_iff]

/-! ## The values -/

theorem quoted_eq_ok {value text : Text} : quoted value = .ok text ↔ quote value = some text := by
  unfold quoted
  cases quote value with
  | none => simp
  | some t => simp

theorem exampleValue_eq_ok {name value text : Text}
    (h : exampleValue printer context name value = .ok text) : quote value = some text := by
  obtain ⟨-, -, h⟩ := bind_eq_ok_iff.mp h
  exact quoted_eq_ok.mp h

theorem quotedExample_eq_ok {name text : Text} {x : Json PyNumber}
    (h : quotedExample printer context name x = .ok text) :
    ∃ value, ExampleText printer x value ∧ quote value = some text := by
  cases x with
  | str value => exact ⟨value, .str value, exampleValue_eq_ok h⟩
  | number n => exact ⟨_, .number n, exampleValue_eq_ok h⟩
  | _ => exact absurd h refuse_ne_ok

/-- A fallback has unreserved characters only. -/
theorem typedFallback_eq_ok {name text : Text} {schema : Entries}
    (h : typedFallback printer context name schema = .ok text) :
    TypedFallback schema text ∧ quote text = some text := by
  unfold typedFallback at h
  dsimp only at h
  split_ifs at h with hinteger huuid hstring
  · cases h
    exact ⟨.integer (isText_iff.mp hinteger), quote_unreserved (by decide)⟩
  · cases h
    exact ⟨.uuid (isText_iff.mp huuid.1) (isText_iff.mp huuid.2), quote_unreserved (by decide)⟩
  · cases h
    refine ⟨.string (isText_iff.mp hstring) fun hformat => huuid ⟨hstring, ?_⟩,
      quote_unreserved (by decide)⟩
    exact isText_iff.mpr hformat
  · exact absurd h refuse_ne_ok

/-- **The text for a parameter is its chosen value, quoted.** -/
theorem pathParameterValue_chosen {operation : OpenApiOperation} {name text : Text}
    {parameter : Entries} (h : pathParameterValue printer operation name parameter = .ok text) :
    ∃ value, ChosenValue printer parameter value ∧ quote value = some text := by
  unfold pathParameterValue at h
  cases hschema : parameter.lookup (lit "schema") with
  | none =>
    rw [hschema] at h
    exact absurd h refuse_ne_ok
  | some x =>
    rw [hschema] at h
    cases x with
    | dict schema =>
      dsimp only at h
      cases hparameter : present parameter (lit "example") with
      | some x =>
        rw [hparameter] at h
        obtain ⟨value, hvalue, hquote⟩ := quotedExample_eq_ok h
        exact ⟨value, .parameterExample hparameter hvalue, hquote⟩
      | none =>
        cases hexample : present schema (lit "example") with
        | some x =>
          rw [hparameter, hexample] at h
          obtain ⟨value, hvalue, hquote⟩ := quotedExample_eq_ok h
          exact ⟨value, .schemaExample hparameter hschema hexample hvalue, hquote⟩
        | none =>
          rw [hparameter, hexample] at h
          obtain ⟨hvalue, hquote⟩ := typedFallback_eq_ok h
          exact ⟨text, .fallback hparameter hschema hexample hvalue, hquote⟩
    | _ => exact absurd h refuse_ne_ok

/-! ## The replacements -/

/-- The text of a value, where there is one. -/
def textOf (value : Requested Text) : Text := value.toOption.getD []

/-- **The loop replaces each placeholder by the text for its parameter.** -/
theorem substitute_eq_ok {operation : OpenApiOperation} {parameters : Parameters} {value : Text → Text}
    (hvalue : ∀ name, value name =
      textOf (pathParameterValue printer operation name (parameters.getD name []))) :
    ∀ {names : List Text} {t result : Text},
      substitute printer operation parameters names t = .ok result →
      (∀ name ∈ names,
        pathParameterValue printer operation name (parameters.getD name []) = .ok (value name)) ∧
        result = replaceEach value names t
  | [], t, result, h => by
    cases h
    exact ⟨fun _ hname => absurd hname List.not_mem_nil, rfl⟩
  | name :: names, t, result, h => by
    obtain ⟨text, htext, h⟩ := bind_eq_ok_iff.mp h
    have hsame : value name = text := by
      rw [hvalue, htext]
      rfl
    obtain ⟨hrest, hresult⟩ := substitute_eq_ok hvalue h
    refine ⟨List.forall_mem_cons.mpr ⟨by rw [htext, hsame], hrest⟩, ?_⟩
    rw [hresult, replaceEach, replaceEach, List.foldl_cons, hsame]

theorem mem_quote_noBrace {value text : Text} (h : quote value = some text) :
    ∀ c ∈ text, noBrace c = true ∧ c ≠ slash := by
  intro c hc
  have hquoted := mem_quote h c hc
  constructor
  · unfold noBrace
    rw [Bool.and_eq_true, bne_iff_ne, bne_iff_ne]
    constructor
    · rintro rfl
      exact absurd hquoted (by decide)
    · rintro rfl
      exact absurd hquoted (by decide)
  · rintro rfl
    exact absurd hquoted (by decide)

/-- What a template filled with quoted values has. -/
theorem filledPath_of {item operation : Entries} {template path : Text} {parts : List TemplatePart}
    {chosen value : Text → Text} (hsource : sourceOf parts = template)
    (hproper : ∀ p ∈ parts, p.Proper)
    (hparameter : ∀ name ∈ namesOf parts, ∃ parameter, PathParameter item operation name parameter ∧
      (∀ other, PathParameter item operation name other → other = parameter) ∧
      ChosenValue printer parameter (chosen name))
    (hquote : ∀ name ∈ namesOf parts, quote (chosen name) = some (value name))
    (hpath : path = fillOf value parts) :
    FilledPath printer item operation template path parts chosen value where
  source := hsource
  proper := hproper
  parameter := hparameter
  quoted := hquote
  filled := hpath
  noBrace := by
    rw [hpath]
    intro c hc
    rcases mem_fillOf hc with hchar | ⟨name, hname, hc⟩
    · exact hproper _ hchar
    · exact (mem_quote_noBrace (hquote name hname) c hc).1
  slashes := by
    rw [hpath, List.count_eq_countP, List.count_eq_countP]
    refine countP_fillOf fun name hname => List.countP_eq_zero.mpr fun c hc => ?_
    rw [beq_iff_eq]
    exact (mem_quote_noBrace (hquote name hname) c hc).2
  decoded := fun name hname hchars => unquote_quote hchars (hquote name hname)

/-- **A path that is materialized is the template, filled.** -/
theorem materialize_filled {path : Text} (h : materializeOperationPath printer entry = .ok path) :
    ∃ parts chosen value, FilledPath printer entry.pathItem entry.rawOperation entry.operation.path
      path parts chosen value := by
  simp only [materializeOperationPath, bind_eq_ok_iff, refuseIf_eq_ok, checkAll_eq_ok, not_or,
    not_not] at h
  obtain ⟨-, ⟨hopen, hclose⟩, -, -, parameters, hparameters, -, hdeclared, -, -, h⟩ := h
  have hproper := proper_partsOf hopen hclose
  have hnames := namesOf_partsOf entry.operation.path
  obtain ⟨hvalues, hresult⟩ := substitute_eq_ok (fun _ => rfl) h
  have hchosen : ∀ name, ∃ chosen, name ∈ findPlaceholders entry.operation.path →
      (∃ parameter, PathParameter entry.pathItem entry.rawOperation name parameter ∧
        (∀ other, PathParameter entry.pathItem entry.rawOperation name other →
          other = parameter) ∧ ChosenValue printer parameter chosen) ∧
        quote chosen = some (textOf
          (pathParameterValue printer entry.operation name (parameters.getD name []))) := by
    intro name
    by_cases hname : name ∈ findPlaceholders entry.operation.path
    · obtain ⟨chosen, hchosen, hquote⟩ := pathParameterValue_chosen (hvalues name hname)
      obtain ⟨parameter, hget⟩ := Option.ne_none_iff_exists'.mp
        (fun hnone => Dict.get?_eq_none_iff.mp hnone (hdeclared name hname))
      have hgetD : parameters.getD name [] = parameter := by rw [Dict.getD, hget]; rfl
      rw [hgetD] at hchosen
      refine ⟨chosen, fun _ => ⟨⟨parameter, (pathParameters_declared hparameters).mp hget,
        fun other hother => ?_, hchosen⟩, hquote⟩⟩
      rw [(pathParameters_declared hparameters).mpr hother] at hget
      exact Option.some.inj hget
    · exact ⟨[], fun h => absurd h hname⟩
  choose chosen hchosen using hchosen
  rw [← hnames] at hchosen hresult
  have hquote := fun name hname => (hchosen name hname).2
  refine ⟨partsOf entry.operation.path, chosen, _, filledPath_of (sourceOf_partsOf _) hproper
    (fun name hname => (hchosen name hname).1) hquote ?_⟩
  have heach := replaceEach_eq_fill hproper fun name hname =>
    openBrace_notMem fun c hc => (mem_quote_noBrace (hquote name hname) c hc).1
  rw [sourceOf_partsOf] at heach
  exact hresult.trans heach

/-! ## The cases -/

theorem requestCase_eq_ok {statusKeys : List Text} {c : OpenApiRequestCase}
    (h : requestCase printer statusKeys entry = .ok c) :
    c.operationId = entry.operation.operationId ∧ c.method = entry.operation.method ∧
      c.contract = entry.operation.contract ∧
      materializeOperationPath printer entry = .ok c.path := by
  obtain ⟨-, -, h⟩ := bind_eq_ok_iff.mp h
  obtain ⟨path, hpath, h⟩ := bind_eq_ok_iff.mp h
  cases h
  exact ⟨rfl, rfl, rfl, hpath⟩


section

variable {unicode : Unicode} {doc : OpenApiDocument} {contract : OpenApiContractKey}

/-- An entry of the traversal stands in the document. -/
theorem hasOperation_of_mem {entries : List OpenApiOperationEntry}
    (h : validatedOperationEntries unicode doc contract = .ok entries) (hentry : entry ∈ entries) :
    doc.HasOperation entry.operation.path entry.operation.method entry.pathItem
      entry.rawOperation ∧
    entry.rawOperation.lookup (lit "operationId") = some (.str entry.operation.operationId) := by
  obtain ⟨paths, hpaths, hcollect⟩ := bind_eq_ok_iff.mp h
  rw [requiredMapping_eq_ok] at hpaths
  obtain ⟨site, hsite, entry', hread, hok⟩ := (mem_collect_iff hcollect).mp hentry
  cases hok
  obtain ⟨raw, id, method, hraw, hid, -, hmethod, rfl⟩ := readOperation_eq_ok.mp hread
  exact ⟨hasOperation_of_site hpaths hsite hraw hmethod, hid⟩

end

/-- **One case for each operation of the document**, in order, its path the template filled at once. -/
theorem request_cases {doc : OpenApiDocument} {contract : OpenApiContractKey}
    {requiredResponseStatuses : List Text} {cases : List OpenApiRequestCase}
    (h : buildOperationRequestCases printer doc contract requiredResponseStatuses = .ok cases) :
    ∃ operations : List OpenApiOperation,
      (operations.map OpenApiOperation.operationId).Nodup ∧
      (∀ operation, operation ∈ operations ↔
        doc.Declares operation.operationId operation.method operation.path ∧
          operation.contract = contract) ∧
      Rearranged (CaseOf printer doc) operations cases ∧ SortedCases cases := by
  obtain ⟨entries, hentries, h⟩ := bind_eq_ok_iff.mp h
  rw [mapError_eq_ok] at hentries
  obtain ⟨unsorted, hread, h⟩ := bind_eq_ok_iff.mp h
  cases h
  have hiter : iterOperations printer.unicode doc contract =
      .ok (entries.map OpenApiOperationEntry.operation) := by
    rw [iterOperations, hentries]
    rfl
  have hids := iterOperations_ids hiter
  have hcases : List.Forall₂ (fun entry c => CaseOf printer doc entry.operation c) entries
      unsorted := by
    refine forall₂_imp_mem (readAll_eq_ok.mp hread) fun entry hentry c _ hc => ?_
    obtain ⟨hid, hmethod, hcontract, hpath⟩ := requestCase_eq_ok hc
    obtain ⟨hhas, hraw⟩ := hasOperation_of_mem hentries hentry
    exact ⟨hid, hmethod, hcontract, _, _, hhas, hraw, materialize_filled hpath⟩
  refine ⟨_, hids, fun operation => mem_iterOperations hiter, ?_, ?_⟩
  · refine Rearranged.of_perm_right (Rearranged.of_forall₂ ?_) (sortBy_perm _ _).symm
    exact List.forall₂_map_left_iff.mpr hcases
  · refine sortBy_strict ?_
    have hsame : unsorted.map OpenApiRequestCase.operationId =
        entries.map fun entry => entry.operation.operationId :=
      (map_eq_map_of_forall₂ hcases fun entry c hc => hc.operationId.symm).symm
    rw [List.map_map] at hids
    have hnodup : (unsorted.map OpenApiRequestCase.operationId).Nodup := hsame ▸ hids
    rw [List.Nodup, List.pairwise_map] at hnodup ⊢
    exact hnodup.imp fun hne heq => hne (keyOfTexts_inj.mp heq).2.2

/-! ## Two documents -/

/-- A printer for documents in ASCII. -/
def asciiPrinter : Printer := ⟨Unicode.ascii, fun _ => lit "1.5", fun _ => lit "None"⟩

/-- A path parameter, with further entries. -/
def pathParameter (name : Text) (entries : Entries) : Json PyNumber :=
  .dict ([(lit "in", .str (lit "path")), (lit "name", .str name), (lit "required", .bool true)] ++
    entries)

/-- Four operations: two without placeholders, one with a parameter whose example is quoted and one
whose schema has an example, and one whose parameter has a type alone. -/
def versionsDocument : OpenApiDocument where
  entries := [(lit "paths", .dict [
    (lit "/v1/files/{id}/versions/{version}", .dict [
      (lit "parameters", .list [pathParameter (lit "id") [(lit "example", .str (lit "a b/50%\x7b\x7d")),
        (lit "schema", .dict [(lit "type", .str (lit "string"))])]]),
      (lit "get", .dict [(lit "operationId", .str (lit "getVersion")), (lit "parameters", .list [
        pathParameter (lit "version") [(lit "schema", .dict [(lit "type", .str (lit "integer")),
          (lit "example", .number (.int 12))])]])])]),
    (lit "/v1/files", .dict [(lit "post", .dict [(lit "operationId", .str (lit "createFile"))]),
      (lit "get", .dict [(lit "operationId", .str (lit "listFiles"))])]),
    (lit "/v1/files/{id}", .dict [(lit "delete", .dict [(lit "operationId", .str (lit "deleteFile")),
      (lit "parameters", .list [pathParameter (lit "id")
        [(lit "schema", .dict [(lit "type", .str (lit "string"))])]])])])])]
  keysDistinct := by
    simp [Json.KeysDistinct, Json.KeysDistinctEntries, Json.KeysDistinctItems, pathParameter, lit]

/-- Its cases. -/
def versionsCases : List OpenApiRequestCase := [
  ⟨lit "listFiles", .get, lit "/v1/files", .unified⟩,
  ⟨lit "createFile", .post, lit "/v1/files", .unified⟩,
  ⟨lit "getVersion", .get, lit "/v1/files/a%20b%2F50%25%7B%7D/versions/12", .unified⟩,
  ⟨lit "deleteFile", .delete, lit "/v1/files/example", .unified⟩]

theorem request_cases_example : ∃ operations : List OpenApiOperation,
    (operations.map OpenApiOperation.operationId).Nodup ∧
    (∀ operation, operation ∈ operations ↔
      versionsDocument.Declares operation.operationId operation.method operation.path ∧
        operation.contract = .unified) ∧
    Rearranged (CaseOf asciiPrinter versionsDocument) operations versionsCases ∧
    SortedCases versionsCases :=
  request_cases (show buildOperationRequestCases asciiPrinter versionsDocument .unified [] =
    .ok versionsCases by decide +kernel)

/-- One operation with one path parameter. -/
def fileDocument (path name : Text) : OpenApiDocument where
  entries := [(lit "paths", .dict [(path, .dict [(lit "get", .dict [
    (lit "operationId", .str (lit "getFile")), (lit "parameters", .list [pathParameter name
      [(lit "schema", .dict [(lit "type", .str (lit "string"))])]])])])])]
  keysDistinct := by
    simp [Json.KeysDistinct, Json.KeysDistinctEntries, Json.KeysDistinctItems, pathParameter, lit]

/-- A placeholder with a slash in its name: the path has one slash less than the template. -/
theorem slashName_example :
    buildOperationRequestCases asciiPrinter (fileDocument (lit "/v1/files/{a/b}") (lit "a/b"))
      .unified [] = .ok [⟨lit "getFile", .get, lit "/v1/files/example", .unified⟩] ∧
    (fileDocument (lit "/v1/files/{a/b}") (lit "a/b")).Declares (lit "getFile") .get
      (lit "/v1/files/{a/b}") ∧
    (lit "/v1/files/example").count slash ≠ (lit "/v1/files/{a/b}").count slash := by
  refine ⟨by rfl, ⟨_, _, ⟨⟨_, rfl, List.mem_cons_self⟩, List.mem_cons_self⟩, rfl⟩, by decide⟩

end ApiTests.OpenApi
