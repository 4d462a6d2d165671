import ApiTests.Logging.RedactBody
import ApiTests.OpenApi.Document
import ApiTests.Py.Pointer
import ApiTests.Py.Url

/-!
# The schema a response is checked against

Model of `assert_response_matches_openapi` up to its validator (`schemas.py:23-92, 101-183`) and of
`operation_response_schema` (`openapi.py:395-425`). The first writes a reference to the response schema,
a JSON pointer made by hand from the keys it went by; the second returns the schema. What
`operation_response_schema` returns is a node of the document, since a reference names a node. How
`httpx` reads a JSON body is a parameter.

Results:
* `documentedResponse_node`: both functions go by the same keys, wherever the check reaches the
  validator.
* **`reference_resolves_iff`**: the reference names the schema iff the path of the operation has no
  percent escape.
-/

namespace ApiTests.OpenApi

open Py Logging

/-- What the check raises. -/
inductive CheckError where
  | assertionError (message : Text)
  /-- While the response was described. -/
  | bodyError (e : BodyError)
  /-- `response.json()`, other than a `JSONDecodeError`. -/
  | otherError
  deriving Repr, DecidableEq

/-- `raise AssertionError(message)`. -/
def assertion {α : Type} (message : Text) : Except CheckError α := .error (.assertionError message)

/-- What `response.json()` raises. -/
inductive JsonError where
  | jsonDecodeError (message : Text)
  | other

/-- What the check takes of the libraries. -/
structure Libraries where
  unicode : Unicode
  codec : Codec PyNumber
  /-- `response.json()`. -/
  json : Response → Except JsonError (Json PyNumber)
  /-- `repr` of bytes. -/
  reprBytes : List Nat → Text

/-- Where a check ends without an error: early, or at the validator with a reference and a body. -/
inductive CheckOutcome where
  | passed
  | validates (reference : Text) (body : Json PyNumber)

/-- `_OPENAPI_DOCUMENT_URI`. -/
def openapiDocumentUri : Text := lit "urn:budget-analyzer-api-tests:openapi-document"

/-! ## The documented response -/

/-- The first operation with an id, past the `continue`s of both traversals. -/
def operationSite? (paths : Entries) (operationId : Text) : Option OperationSite :=
  (operationSites paths).find? fun site => site.id? = some operationId

/-- The `responses` of an operation, if they are a mapping. -/
def OperationSite.responses? (site : OperationSite) : Option Entries :=
  match site.rawOperation with
  | .dict operation =>
    match operation.lookup (lit "responses") with
    | some (.dict responses) => some responses
    | _ => none
  | _ => none

/-- `_DocumentedResponse`. -/
structure DocumentedResponse where
  response : Entries
  path : Text

/-- `_JsonContent`. -/
structure JsonContent where
  content : Entries
  path : Text

variable (libraries : Libraries)

/-- `str(status)`. -/
def statusText (status : Int) : Text := lit (toString status)

/-- The key of the response that documents a status. -/
def responseKey (responses : Entries) (statusKey : Text) : Text :=
  if statusKey ∈ responses.map Prod.fst then statusKey else lit "default"

/-- `_documented_response`. -/
def documentedResponse (doc : OpenApiDocument) (operationId : Text) (expectedStatus : Int) :
    Except CheckError DocumentedResponse :=
  match doc.entries.lookup (lit "paths") with
  | some (.dict paths) =>
    match operationSite? paths operationId with
    | some site =>
      let operationPath := lit "#/paths/" ++ escapePointer site.path ++ lit "/" ++ site.method
      match site.responses? with
      | some responses =>
        let statusKey := statusText expectedStatus
        let key := responseKey responses statusKey
        match responses.lookup key with
        | some (.dict response) =>
          .ok ⟨response, operationPath ++ lit "/responses/" ++ escapePointer key⟩
        | _ =>
          assertion (lit "OpenAPI operation " ++ reprText libraries.unicode operationId ++
            lit " does not document status " ++ statusKey ++ lit " at " ++ operationPath ++
            lit "/responses/" ++ escapePointer statusKey)
      | none =>
        assertion (lit "OpenAPI operation " ++ reprText libraries.unicode operationId ++
          lit " does not document responses at " ++ operationPath ++ lit "/responses")
    | none =>
      assertion (lit "OpenAPI operation " ++ reprText libraries.unicode operationId ++
        lit " was not found while checking status " ++ statusText expectedStatus)
  | _ => assertion (lit "OpenAPI document must contain object field 'paths'")

/-- `_json_content`. -/
def jsonContent (documented : DocumentedResponse) : Option JsonContent :=
  match documented.response.lookup (lit "content") with
  | some (.dict content) =>
    match content.lookup (lit "application/json") with
    | some (.dict media) => some ⟨media, documented.path ++ lit "/content/application~1json"⟩
    | _ => none
  | _ => none

/-! ## The schema -/

/-- Python's truth value. -/
def truthy : Json PyNumber → Bool
  | .null => false
  | .bool b => b
  | .number n => n.value != .finite 0
  | .str t => t != []
  | .list items => !items.isEmpty
  | .dict entries => !entries.isEmpty

/-- The operation at a place, as a node of the document. -/
def OperationSite.node (site : OperationSite) : JsonNode PyNumber :=
  ⟨[.key (lit "paths"), .key site.path, .key site.method], site.rawOperation⟩

/-- `responses.get(status_key) or responses.get("default")`. -/
def responseNode (responses : JsonNode PyNumber) (statusKey : Text) : Option (JsonNode PyNumber) :=
  match responses.get? statusKey with
  | some response =>
    if truthy response.value then some response else responses.get? (lit "default")
  | none => responses.get? (lit "default")

/-- The schema below an operation; what is no mapping has no keys, and `null` is `None`. -/
def schemaNode (operation : JsonNode PyNumber) (statusKey : Text) : Option (JsonNode PyNumber) := do
  let responses ← operation.get? (lit "responses")
  let response ← responseNode responses statusKey
  let content ← response.get? (lit "content")
  let media ← content.get? (lit "application/json")
  let schema ← media.get? (lit "schema")
  match schema.value with
  | .null => none
  | _ => some schema

/-- `operation_response_schema`. -/
def operationResponseSchema (doc : OpenApiDocument) (operationId statusKey : Text) :
    Except ValueError (Option (JsonNode PyNumber)) := do
  let paths ← requiredMapping doc.entries (lit "paths") (lit "OpenAPI document")
  match operationSite? paths operationId with
  | some site => .ok (schemaNode site.node statusKey)
  | none => .error ⟨lit "OpenAPI operation not found: " ++ operationId⟩

/-! ## The check -/

/-- `type(schema).__name__`. -/
def typeName : Json PyNumber → Text
  | .null => lit "NoneType"
  | .bool _ => lit "bool"
  | .number (.int _) => lit "int"
  | .number (.float _) => lit "float"
  | .str _ => lit "str"
  | .list _ => lit "list"
  | .dict _ => lit "dict"

/-- The media type of a response: no other character has a lower case with its letters. -/
def mediaType (response : Response) : Text :=
  (strip ((response.contentType.getD []).takeWhile fun c => c != 59)).map lowerAscii

/-- `_is_success_status`. -/
def isSuccessStatus (status : Int) : Bool := 200 ≤ status && status < 300

/-- The check from the schema on. -/
def checkSchema (response : Response) (operationId : Text) (expectedStatus : Int)
    (schemaPath : Text) (schema : Json PyNumber) : Except CheckError CheckOutcome :=
  if (match schema with
    | .bool _ => true
    | .dict _ => true
    | _ => false) then
    match libraries.json response with
    | .ok body => .ok (.validates (openapiDocumentUri ++ schemaPath) body)
    | .error (.jsonDecodeError message) =>
      assertion (operationId ++ lit " status " ++ statusText expectedStatus ++
        lit " response did not contain valid JSON for schema " ++ schemaPath ++ lit ": " ++ message)
    | .error .other => .error .otherError
  else
    assertion (operationId ++ lit " status " ++ statusText expectedStatus ++
      lit " has invalid OpenAPI schema at " ++ schemaPath ++ lit ": expected object or boolean, got " ++
      typeName schema)

/-- The check from the JSON content on. -/
def checkContent (response : Response) (operationId : Text) (expectedStatus : Int)
    (doc : OpenApiDocument) (json : JsonContent) : Except CheckError CheckOutcome :=
  if mediaType response = lit "application/json" then
    let schemaPath := json.path ++ lit "/schema"
    match operationResponseSchema doc operationId (statusText expectedStatus) with
    | .error _ =>
      assertion (lit "OpenAPI operation " ++ reprText libraries.unicode operationId ++
        lit " was not found while looking up status " ++ statusText expectedStatus ++
        lit " response schema")
    | .ok none =>
      if isSuccessStatus expectedStatus then
        assertion (operationId ++ lit " status " ++ statusText expectedStatus ++
          lit " documents application/json at " ++ json.path ++ lit " but is missing schema " ++
          schemaPath)
      else .ok .passed
    | .ok (some schema) =>
      checkSchema libraries response operationId expectedStatus schemaPath schema.value
  else
    assertion (operationId ++ lit " status " ++ statusText expectedStatus ++
      lit " is documented as application/json at " ++ json.path ++
      lit ", but response content-type was " ++
      ((response.contentType.map (reprText libraries.unicode)).getD (lit "None")))

/-- `assert_response_matches_openapi` up to its validator. -/
def assertResponseMatchesOpenapi (response : Response) (operationId : Text) (expectedStatus : Int)
    (doc : OpenApiDocument) : Except CheckError CheckOutcome :=
  if (response.statusCode : Int) ≠ expectedStatus then
    match redactedResponseContext libraries.unicode libraries.codec response 500 with
    | .error e => .error (.bodyError e)
    | .ok context =>
      assertion (operationId ++ lit " expected HTTP " ++ statusText expectedStatus ++
        lit ", got HTTP " ++ lit (toString response.statusCode) ++ lit ": " ++ context)
  else
    match documentedResponse libraries doc operationId expectedStatus with
    | .error e => .error e
    | .ok documented =>
      match jsonContent documented with
      | some json => checkContent libraries response operationId expectedStatus doc json
      | none =>
        if expectedStatus = 204 ∧ response.content ≠ [] then
          assertion (operationId ++ lit " status " ++ statusText expectedStatus ++
            lit " is documented with no JSON content, but response body was " ++
            libraries.reprBytes response.content)
        else .ok .passed

/-- The node that a reference names: what stands behind the first `#` is its fragment. -/
def resolveReference (int : Text → Option Int) (doc : OpenApiDocument) (reference : Text) :
    Option (JsonNode PyNumber) :=
  resolveFragment int (.dict doc.entries) (splitOnce 35 reference).2

/-! ## Where both functions go -/

variable {libraries} {doc : OpenApiDocument} {operationId : Text} {expectedStatus : Int}
  {response : Response}

theorem documentedResponse_eq_ok {documented : DocumentedResponse}
    (h : documentedResponse libraries doc operationId expectedStatus = .ok documented) :
    ∃ paths site responses, doc.entries.lookup (lit "paths") = some (.dict paths) ∧
      operationSite? paths operationId = some site ∧ site.responses? = some responses ∧
      responses.lookup (responseKey responses (statusText expectedStatus)) =
        some (.dict documented.response) ∧
      documented.path = lit "#/paths/" ++ escapePointer site.path ++ lit "/" ++ site.method ++
        lit "/responses/" ++ escapePointer (responseKey responses (statusText expectedStatus)) := by
  unfold documentedResponse at h
  cases hpaths : doc.entries.lookup (lit "paths") with
  | none =>
    rw [hpaths] at h
    cases h
  | some x =>
    rw [hpaths] at h
    cases x with
    | dict paths =>
      dsimp only at h
      cases hsite : operationSite? paths operationId with
      | none =>
        rw [hsite] at h
        cases h
      | some site =>
        rw [hsite] at h
        dsimp only at h
        cases hresponses : site.responses? with
        | none =>
          rw [hresponses] at h
          cases h
        | some responses =>
          rw [hresponses] at h
          dsimp only at h
          cases hentry : responses.lookup (responseKey responses (statusText expectedStatus)) with
          | none =>
            rw [hentry] at h
            cases h
          | some y =>
            rw [hentry] at h
            cases y with
            | dict entries =>
              cases h
              exact ⟨paths, site, responses, rfl, hsite, hresponses, hentry, rfl⟩
            | _ => cases h
    | _ => cases h

theorem jsonContent_eq_some {documented : DocumentedResponse} {json : JsonContent}
    (h : jsonContent documented = some json) :
    ∃ content, documented.response.lookup (lit "content") = some (.dict content) ∧
      content.lookup (lit "application/json") = some (.dict json.content) ∧
      json.path = documented.path ++ lit "/content/application~1json" := by
  unfold jsonContent at h
  cases hcontent : documented.response.lookup (lit "content") with
  | none =>
    rw [hcontent] at h
    cases h
  | some x =>
    rw [hcontent] at h
    cases x with
    | dict content =>
      dsimp only at h
      cases hmedia : content.lookup (lit "application/json") with
      | none =>
        rw [hmedia] at h
        cases h
      | some y =>
        rw [hmedia] at h
        cases y with
        | dict media =>
          cases h
          exact ⟨content, rfl, hmedia, rfl⟩
        | _ => cases h
    | _ => cases h

theorem checkSchema_validates {schemaPath reference : Text} {schema body : Json PyNumber}
    (h : checkSchema libraries response operationId expectedStatus schemaPath schema =
      .ok (.validates reference body)) : reference = openapiDocumentUri ++ schemaPath := by
  unfold checkSchema at h
  split_ifs at h
  · cases hjson : libraries.json response with
    | ok body =>
      rw [hjson] at h
      cases h
      rfl
    | error e =>
      rw [hjson] at h
      cases e <;> cases h
  · cases h

theorem checkContent_validates {json : JsonContent} {reference : Text} {body : Json PyNumber}
    (h : checkContent libraries response operationId expectedStatus doc json =
      .ok (.validates reference body)) :
    ∃ schema, operationResponseSchema doc operationId (statusText expectedStatus) =
        .ok (some schema) ∧ reference = openapiDocumentUri ++ (json.path ++ lit "/schema") := by
  unfold checkContent at h
  by_cases htype : mediaType response = lit "application/json"
  · rw [if_pos htype] at h
    dsimp only at h
    cases hschema : operationResponseSchema doc operationId (statusText expectedStatus) with
    | error e =>
      rw [hschema] at h
      cases h
    | ok found =>
      rw [hschema] at h
      cases found with
      | none =>
        dsimp only at h
        by_cases hsuccess : isSuccessStatus expectedStatus = true
        · rw [if_pos hsuccess] at h
          cases h
        · rw [if_neg hsuccess] at h
          cases h
      | some schema => exact ⟨schema, rfl, checkSchema_validates h⟩
  · rw [if_neg htype] at h
    cases h

/-- **A check that reaches the validator** went through a documented response with JSON content. -/
theorem assertResponse_validates {reference : Text} {body : Json PyNumber}
    (h : assertResponseMatchesOpenapi libraries response operationId expectedStatus doc =
      .ok (.validates reference body)) :
    (response.statusCode : Int) = expectedStatus ∧ ∃ documented json,
      documentedResponse libraries doc operationId expectedStatus = .ok documented ∧
      jsonContent documented = some json ∧
      checkContent libraries response operationId expectedStatus doc json =
        .ok (.validates reference body) := by
  unfold assertResponseMatchesOpenapi at h
  by_cases hstatus : (response.statusCode : Int) ≠ expectedStatus
  · rw [if_pos hstatus] at h
    cases hcontext : redactedResponseContext libraries.unicode libraries.codec response 500 with
    | error e =>
      rw [hcontext] at h
      cases h
    | ok context =>
      rw [hcontext] at h
      cases h
  · rw [if_neg hstatus] at h
    refine ⟨not_not.mp hstatus, ?_⟩
    cases hdocumented : documentedResponse libraries doc operationId expectedStatus with
    | error e =>
      rw [hdocumented] at h
      cases h
    | ok documented =>
      rw [hdocumented] at h
      dsimp only at h
      cases hjson : jsonContent documented with
      | none =>
        rw [hjson] at h
        dsimp only at h
        by_cases hcontent : expectedStatus = 204 ∧ response.content ≠ []
        · rw [if_pos hcontent] at h
          cases h
        · rw [if_neg hcontent] at h
          cases h
      | some json =>
        rw [hjson] at h
        exact ⟨documented, json, rfl, hjson, h⟩

/-- The keys from the document to the schema of a response. -/
def schemaKeys (site : OperationSite) (key : Text) : List Text :=
  [lit "paths", site.path, site.method, lit "responses", key, lit "content",
    lit "application/json", lit "schema"]

theorem get?_of_lookup (location : List PointerStep) {entries : Entries} {key : Text}
    {x : Json PyNumber} (h : entries.lookup key = some x) :
    (⟨location, .dict entries⟩ : JsonNode PyNumber).get? key = some ⟨location ++ [.key key], x⟩ :=
  JsonNode.get?_eq_some.mpr ⟨entries, x, rfl, h, rfl⟩

theorem responses?_eq_some {site : OperationSite} {responses : Entries} :
    site.responses? = some responses ↔ ∃ operation, site.rawOperation = .dict operation ∧
      operation.lookup (lit "responses") = some (.dict responses) := by
  unfold OperationSite.responses?
  cases site.rawOperation with
  | dict operation =>
    cases hlookup : operation.lookup (lit "responses") with
    | none => simp [hlookup]
    | some x => cases x <;> simp [hlookup]
  | _ => simp

/-- **Membership and truth choose one response**, where the response has something. -/
theorem responseNode_eq {location : List PointerStep} {responses entries : Entries}
    {statusKey : Text} (hne : entries ≠ [])
    (h : responses.lookup (responseKey responses statusKey) = some (.dict entries)) :
    responseNode ⟨location, .dict responses⟩ statusKey =
      some ⟨location ++ [.key (responseKey responses statusKey)], .dict entries⟩ := by
  have hget := get?_of_lookup location h
  unfold responseNode
  by_cases hmem : statusKey ∈ responses.map Prod.fst
  · have hkey : responseKey responses statusKey = statusKey := if_pos hmem
    rw [hkey] at hget ⊢
    rw [hget]
    have htruthy : truthy (.dict entries) = true := by
      rw [truthy, Bool.not_eq_true', List.isEmpty_eq_false_iff]
      exact hne
    exact if_pos htruthy
  · have hkey : responseKey responses statusKey = lit "default" := if_neg hmem
    have hnone : (⟨location, .dict responses⟩ : JsonNode PyNumber).get? statusKey = none := by
      have hlookup : responses.lookup statusKey = none := by
        rw [List.lookup_eq_none_iff]
        intro e he
        rw [bne_iff_ne]
        rintro rfl
        exact hmem (List.mem_map_of_mem he)
      unfold JsonNode.get?
      dsimp only
      rw [hlookup]
      rfl
    rw [hkey] at hget ⊢
    rw [hnone]
    exact hget

/-- **Both functions go by the same keys.** -/
theorem schemaNode_eq {site : OperationSite} {responses response content media : Entries}
    {statusKey : Text} {schema : JsonNode PyNumber} (hresponses : site.responses? = some responses)
    (hresponse : responses.lookup (responseKey responses statusKey) = some (.dict response))
    (hcontent : response.lookup (lit "content") = some (.dict content))
    (hmedia : content.lookup (lit "application/json") = some (.dict media))
    (h : schemaNode site.node statusKey = some schema) :
    schema.location = (schemaKeys site (responseKey responses statusKey)).map .key ∧
      media.lookup (lit "schema") = some schema.value := by
  obtain ⟨operation, hraw, hlookup⟩ := responses?_eq_some.mp hresponses
  have hne : response ≠ [] := by
    rintro rfl
    cases hcontent
  unfold schemaNode at h
  unfold OperationSite.node at h
  rw [hraw] at h
  obtain ⟨_, h₁, h⟩ := Option.bind_eq_some_iff.mp h
  rw [get?_of_lookup _ hlookup] at h₁
  cases h₁
  obtain ⟨_, h₂, h⟩ := Option.bind_eq_some_iff.mp h
  rw [responseNode_eq hne hresponse] at h₂
  cases h₂
  obtain ⟨_, h₃, h⟩ := Option.bind_eq_some_iff.mp h
  rw [get?_of_lookup _ hcontent] at h₃
  cases h₃
  obtain ⟨_, h₄, h⟩ := Option.bind_eq_some_iff.mp h
  rw [get?_of_lookup _ hmedia] at h₄
  cases h₄
  obtain ⟨found, h₅, h⟩ := Option.bind_eq_some_iff.mp h
  obtain rfl : found = schema := by
    cases hvalue : found.value with
    | null =>
      rw [hvalue] at h
      cases h
    | _ =>
      rw [hvalue] at h
      exact Option.some.inj h
  obtain ⟨entries, x, heq, hx, rfl⟩ := JsonNode.get?_eq_some.mp h₅
  cases heq
  exact ⟨rfl, hx⟩

/-! ## The reference -/

/-- The operation of an id. -/
def OpenApiDocument.operation? (doc : OpenApiDocument) (operationId : Text) : Option OperationSite :=
  match doc.entries.lookup (lit "paths") with
  | some (.dict paths) => operationSite? paths operationId
  | _ => none

theorem statusText_natCast (n : Nat) : ∀ c ∈ statusText n, c ≠ 37 := by
  intro c hc
  obtain ⟨d, hd, rfl⟩ := List.mem_map.mp hc
  have hrepr : toString (n : Int) = Nat.repr n := rfl
  rw [hrepr, Nat.repr, String.toList_ofList] at hd
  have hdigit := Nat.isDigit_of_mem_toDigits (by decide) (by decide) hd
  intro h37
  simp only [Char.isDigit, Bool.and_eq_true, decide_eq_true_eq] at hdigit
  have hle : 48 ≤ d.toNat := UInt32.le_iff_toNat_le.mp hdigit.1
  rw [h37] at hle
  exact absurd hle (by decide)

theorem not_hasEscape_of_ne {t : Text} (h : ∀ c ∈ t, c ≠ 37) : ¬ HasEscape t := by
  rintro ⟨u, a, b, v, rfl, -⟩
  exact h 37 (by simp) rfl

theorem escapePointer_method {method : Text} (h : method ∈ httpMethods) :
    escapePointer method = method := by
  obtain ⟨m, rfl⟩ := mem_httpMethods.mp h
  cases m <;> rfl

/-- The pointer that is written by hand. -/
theorem pointerOf_schemaKeys {site : OperationSite} (hmethod : site.method ∈ httpMethods)
    (key : Text) :
    lit "#/paths/" ++ escapePointer site.path ++ lit "/" ++ site.method ++ lit "/responses/" ++
        escapePointer key ++ lit "/content/application~1json" ++ lit "/schema" =
      35 :: pointerOf (schemaKeys site key) := by
  have hjson : escapePointer (lit "application/json") = lit "application~1json" := rfl
  have hpaths : escapePointer (lit "paths") = lit "paths" := rfl
  have hresponses : escapePointer (lit "responses") = lit "responses" := rfl
  have hcontent : escapePointer (lit "content") = lit "content" := rfl
  have hschema : escapePointer (lit "schema") = lit "schema" := rfl
  have hstart : lit "#/paths/" = 35 :: 47 :: (lit "paths" ++ [47]) := rfl
  have hslash : lit "/" = [47] := rfl
  have hmiddle : lit "/responses/" = 47 :: (lit "responses" ++ [47]) := rfl
  have hlast : lit "/content/application~1json" =
    47 :: (lit "content" ++ 47 :: lit "application~1json") := rfl
  have hend : lit "/schema" = 47 :: lit "schema" := rfl
  unfold pointerOf schemaKeys
  simp only [List.flatMap_cons, List.flatMap_nil, hjson, hpaths, hresponses, hcontent, hschema,
    escapePointer_method hmethod, hstart, hslash, hmiddle, hlast, hend, List.cons_append,
    List.append_assoc, List.nil_append, List.append_nil]

/-- The keys lead to the schema. -/
theorem at?_schemaKeys {paths responses response content media : Entries} {site : OperationSite}
    {key : Text} {schema : Json PyNumber}
    (hpaths : doc.entries.lookup (lit "paths") = some (.dict paths))
    (hsite : site ∈ operationSites paths) (hresponses : site.responses? = some responses)
    (hresponse : responses.lookup key = some (.dict response))
    (hcontent : response.lookup (lit "content") = some (.dict content))
    (hmedia : content.lookup (lit "application/json") = some (.dict media))
    (hschema : media.lookup (lit "schema") = some schema) :
    (Json.dict doc.entries).at? (schemaKeys site key) = some schema := by
  obtain ⟨operation, hraw, hlookup⟩ := responses?_eq_some.mp hresponses
  obtain ⟨hpath, hmethod, -⟩ := mem_operationSites.mp hsite
  obtain ⟨hkeys, hvalues⟩ := Json.keysDistinct_dict_iff.mp doc.keysDistinct
  have hdistinct := hvalues _ ((Dict.lookup_eq_some_iff_mem hkeys).mp hpaths)
  obtain ⟨hpathKeys, hitems⟩ := Json.keysDistinct_dict_iff.mp hdistinct
  obtain ⟨hmethodKeys, -⟩ := Json.keysDistinct_dict_iff.mp (hitems _ hpath)
  have hitem := Dict.lookup_of_mem hpathKeys hpath
  have hoperation := Dict.lookup_of_mem hmethodKeys hmethod
  unfold schemaKeys
  simp only [Json.at?, hpaths, hitem, hoperation, hraw, hlookup, hresponse, hcontent, hmedia, hschema]

theorem operationResponseSchema_eq_ok {statusKey : Text} {paths : Entries} {site : OperationSite}
    {found : Option (JsonNode PyNumber)}
    (hpaths : doc.entries.lookup (lit "paths") = some (.dict paths))
    (hsite : operationSite? paths operationId = some site)
    (h : operationResponseSchema doc operationId statusKey = .ok found) :
    found = schemaNode site.node statusKey := by
  unfold operationResponseSchema at h
  obtain ⟨paths', hpaths', h⟩ := bind_eq_ok_iff.mp h
  rw [requiredMapping_eq_ok, hpaths, Option.some.injEq, Json.dict.injEq] at hpaths'
  subst hpaths'
  rw [hsite] at h
  exact (Except.ok.inj h).symm

/-- What stands behind the first `#` of a reference. -/
theorem splitOnce_reference (pointer : Text) :
    (splitOnce 35 (openapiDocumentUri ++ 35 :: pointer)).2 = pointer := by
  have huri : ∀ c ∈ openapiDocumentUri, (c != 35) = true := by decide
  unfold splitOnce
  rw [List.dropWhile_append_of_pos huri]
  rfl

/-- Only the path of the operation can have an escape. -/
theorem schemaKeys_plain {site : OperationSite} {key : Text} (hmethod : site.method ∈ httpMethods)
    (hkey : ¬ HasEscape key) :
    (∀ k ∈ schemaKeys site key, ¬ HasEscape k) ↔ ¬ HasEscape site.path := by
  have hplain : ∀ k ∈ [site.method, lit "paths", lit "responses", lit "content",
      lit "application/json", lit "schema"], ¬ HasEscape k := by
    have hwords : ∀ k ∈ httpMethods ++ [lit "paths", lit "responses", lit "content",
      lit "application/json", lit "schema"], ∀ c ∈ k, c ≠ 37 := by decide
    intro k hk
    refine not_hasEscape_of_ne (hwords k ?_)
    rcases List.mem_cons.mp hk with rfl | hk
    · exact List.mem_append_left _ hmethod
    · exact List.mem_append_right _ hk
  simp only [List.forall_mem_cons] at hplain
  simp only [schemaKeys, List.forall_mem_cons, hplain, hkey, not_false_eq_true, true_and, and_true,
    List.not_mem_nil, false_implies, implies_true]

theorem responseKey_plain (responses : Entries) (status : Nat) :
    ¬ HasEscape (responseKey responses (statusText status)) := by
  unfold responseKey
  by_cases h : statusText status ∈ responses.map Prod.fst
  · rw [if_pos h]
    exact not_hasEscape_of_ne (statusText_natCast status)
  · rw [if_neg h]
    exact not_hasEscape_of_ne (by decide)

/-- **The reference names the schema iff the operation's path has no percent escape.** -/
theorem reference_resolves_iff {reference : Text} {body : Json PyNumber}
    (h : assertResponseMatchesOpenapi libraries response operationId expectedStatus doc =
      .ok (.validates reference body)) (int : Text → Option Int) :
    (∃ schema, resolveReference int doc reference = some schema ∧
      operationResponseSchema doc operationId (statusText expectedStatus) = .ok (some schema)) ↔
    ∀ site, doc.operation? operationId = some site → ¬ HasEscape site.path := by
  obtain ⟨hstatus, documented, json, hdocumented, hjson, hcheck⟩ := assertResponse_validates h
  obtain ⟨schema, hschema, hreference⟩ := checkContent_validates hcheck
  obtain ⟨paths, site, responses, hpaths, hsite, hresponses, hresponse, hpath⟩ :=
    documentedResponse_eq_ok hdocumented
  obtain ⟨content, hcontent, hmedia, hjsonPath⟩ := jsonContent_eq_some hjson
  obtain ⟨hlocation, hvalue⟩ := schemaNode_eq hresponses hresponse hcontent hmedia
    (operationResponseSchema_eq_ok hpaths hsite hschema).symm
  have hmem : site ∈ operationSites paths := List.mem_of_find?_eq_some hsite
  have hmethod := (mem_operationSites.mp hmem).2.2
  have hfragment : (splitOnce 35 reference).2 =
      pointerOf (schemaKeys site (responseKey responses (statusText expectedStatus))) := by
    rw [hreference, hjsonPath, hpath, pointerOf_schemaKeys hmethod, splitOnce_reference]
  have hat := at?_schemaKeys hpaths hmem hresponses hresponse hcontent hmedia hvalue
  have hne : schemaKeys site (responseKey responses (statusText expectedStatus)) ≠ [] :=
    List.cons_ne_nil _ _
  have hiff := resolveFragment_pointerOf_iff int hne hat
  have hkeys : (∀ key ∈ schemaKeys site (responseKey responses (statusText expectedStatus)),
      ¬ HasEscape key) ↔ ¬ HasEscape site.path := by
    refine schemaKeys_plain hmethod ?_
    rw [← hstatus]
    exact responseKey_plain responses response.statusCode
  have hoperation : doc.operation? operationId = some site := by
    unfold OpenApiDocument.operation?
    rw [hpaths]
    exact hsite
  unfold resolveReference
  rw [hfragment]
  constructor
  · rintro ⟨found, hfound, hsame⟩ site' hsite'
    rw [hoperation, Option.some.injEq] at hsite'
    subst hsite'
    rw [hschema, Except.ok.injEq, Option.some.injEq] at hsame
    subst hsame
    rw [← hkeys, ← hiff, hfound, ← hlocation]
  · intro hnone
    refine ⟨schema, ?_, hschema⟩
    rw [hiff.mpr (hkeys.mpr (hnone site hoperation)), ← hlocation]

/-! ## Two paths -/

/-- A document with one operation, which answers with any JSON. -/
def anyJsonDocument (path : Text) : OpenApiDocument where
  entries := [(lit "paths", .dict [(path, .dict [(lit "get", .dict [
    (lit "operationId", .str (lit "getFile")),
    (lit "responses", .dict [(lit "200", .dict [(lit "content", .dict [
      (lit "application/json", .dict [(lit "schema", .bool true)])])])])])])])]
  keysDistinct := by
    have hkeys : lit "operationId" ≠ lit "responses" := by decide
    simp [Json.KeysDistinct, Json.KeysDistinctEntries, hkeys]

/-- A JSON response with status 200. -/
def okResponse : Response := ⟨200, some (lit "application/json"), lit "null", none, none⟩

/-- Libraries that read that response. -/
def nullLibraries : Libraries where
  unicode := Unicode.ascii
  codec := ⟨fun _ bytes => bytes, fun _ => .ok ⟨.null, trivial⟩, fun _ => []⟩
  json := fun _ => .ok .null
  reprBytes := fun _ => lit "b'null'"

/-- The reference that the check writes for it, the path as it is escaped there. -/
def getFileReference (escapedPath : Text) : Text :=
  openapiDocumentUri ++ lit "#/paths/" ++ escapedPath ++
    lit "/get/responses/200/content/application~1json/schema"

theorem reference_resolves_iff_example :
    (∃ schema, resolveReference (fun _ => none) (anyJsonDocument (lit "/v1/~files"))
        (getFileReference (lit "~1v1~1~0files")) = some schema ∧
      operationResponseSchema (anyJsonDocument (lit "/v1/~files")) (lit "getFile")
        (statusText 200) = .ok (some schema)) ↔
    ∀ site, (anyJsonDocument (lit "/v1/~files")).operation? (lit "getFile") = some site →
      ¬ HasEscape site.path :=
  reference_resolves_iff (show assertResponseMatchesOpenapi nullLibraries okResponse _ 200 _ =
    .ok (.validates (getFileReference (lit "~1v1~1~0files")) .null) by rfl) _

/-- A space in a path, written `%20`: the check reaches the validator with a reference to nothing. -/
theorem escapedPath_example :
    assertResponseMatchesOpenapi nullLibraries okResponse (lit "getFile") 200
        (anyJsonDocument (lit "/v1/files/a%20b")) =
      .ok (.validates (getFileReference (lit "~1v1~1files~1a%20b")) .null) ∧
    (∀ int, resolveReference int (anyJsonDocument (lit "/v1/files/a%20b"))
      (getFileReference (lit "~1v1~1files~1a%20b")) = none) ∧
    ∃ schema, operationResponseSchema (anyJsonDocument (lit "/v1/files/a%20b")) (lit "getFile")
      (statusText 200) = .ok (some schema) :=
  ⟨by rfl, fun int => by rfl, _, by rfl⟩

end ApiTests.OpenApi
