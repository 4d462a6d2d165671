import ApiTests.OpenApi.RequestCase
import ApiTests.OpenApi.Snapshot

/-!
# The reviewed contract of the Session Gateway

Model of `validate_session_gateway_contract` and `_mapping`
(`session_gateway_inventory.py:229-252, 532-535`): the checks on the snapshot that are not about its
operations as a whole, but about what `GET /logout` documents.

Results:
* **`validateSessionGatewayContract_eq_ok`**: a snapshot passes iff its operations are read and its
  logout documents a redirect, and no `200`.
-/

namespace ApiTests.Coverage

open Py OpenApi

/-- `_mapping`. -/
def mapping (value : Option (Json PyNumber)) (context : Text) : Except ValueError Entries :=
  match value with
  | some (.dict entries) => .ok entries
  | _ => .error ⟨context ++ lit " must be an object"⟩

/-- The error about a missing logout. -/
def missingLogout : ValueError := ⟨lit "Session Gateway snapshot is missing logout GET /logout"⟩

/-- `operations.get("logout")`, checked. -/
def checkLogout : Option OpenApiOperation → Except ValueError Unit
  | none => .error missingLogout
  | some logout => raiseWhen (logout.method ≠ .get ∨ logout.path ≠ lit "/logout") missingLogout

/-- `validate_session_gateway_contract`. -/
def validateSessionGatewayContract (unicode : Unicode) (openapiDoc : OpenApiDocument) :
    Except ValueError Unit := do
  let operations ← iterOperations unicode openapiDoc .sessionGateway
  let operationsById := Dict.ofList (operations.map fun o => (o.operationId, o))
  checkLogout (operationsById.get? (lit "logout"))
  let paths ← mapping (openapiDoc.entries.lookup (lit "paths")) (lit "Session Gateway OpenAPI paths")
  let logoutPath ← mapping (paths.lookup (lit "/logout"))
    (lit "Session Gateway /logout path item")
  let logoutOperation ← mapping (logoutPath.lookup (lit "get"))
    (lit "Session Gateway GET /logout operation")
  let responses ← mapping (logoutOperation.lookup (lit "responses"))
    (lit "Session Gateway logout responses")
  raiseWhen (responses.lookup (lit "302") = none)
    ⟨lit "Session Gateway logout must document response 302"⟩
  raiseWhen (responses.lookup (lit "200") ≠ none)
    ⟨lit "Session Gateway logout must not document stale response 200"⟩
  let response ← mapping (responses.lookup (lit "302")) (lit "Session Gateway logout response 302")
  let headers ← mapping (response.lookup (lit "headers"))
    (lit "Session Gateway logout response 302 headers")
  let location ← mapping (headers.lookup (lit "Location"))
    (lit "Session Gateway logout Location header")
  let schema ← mapping (location.lookup (lit "schema"))
    (lit "Session Gateway logout Location header schema")
  raiseWhen (isText (lit "string") (schema.lookup (lit "type")) = false ∨
      isText (lit "uri") (schema.lookup (lit "format")) = false)
    ⟨lit "Session Gateway logout Location header must use a string schema with uri format"⟩

/-- **The document's logout is a redirect**: `GET /logout` documents a `302` with a `Location` that is
a URI, and no `200`. -/
def RedirectsOnLogout (doc : OpenApiDocument) : Prop :=
  ∃ item operation responses response headers location schema,
    doc.HasOperation (lit "/logout") .get item operation ∧
    operation.lookup (lit "operationId") = some (.str (lit "logout")) ∧
    operation.lookup (lit "responses") = some (.dict responses) ∧
    responses.lookup (lit "200") = none ∧
    responses.lookup (lit "302") = some (.dict response) ∧
    response.lookup (lit "headers") = some (.dict headers) ∧
    headers.lookup (lit "Location") = some (.dict location) ∧
    location.lookup (lit "schema") = some (.dict schema) ∧
    schema.lookup (lit "type") = some (.str (lit "string")) ∧
    schema.lookup (lit "format") = some (.str (lit "uri"))

theorem mapping_eq_ok {value : Option (Json PyNumber)} {context : Text} {entries : Entries} :
    mapping value context = .ok entries ↔ value = some (.dict entries) := by
  unfold mapping
  cases value with
  | none => simp
  | some x => cases x <;> simp

theorem checkLogout_eq_ok {logout : Option OpenApiOperation} {u : Unit} :
    checkLogout logout = .ok u ↔ ∃ operation, logout = some operation ∧ operation.method = .get ∧
      operation.path = lit "/logout" := by
  cases logout with
  | none => simp [checkLogout]
  | some operation => simp [checkLogout]

/-- An operation of a document, by lookups. -/
theorem hasOperation_iff_lookup {doc : OpenApiDocument} {path : Text} {method : HttpMethod}
    {item operation : Entries} :
    doc.HasOperation path method item operation ↔ ∃ paths,
      doc.entries.lookup (lit "paths") = some (.dict paths) ∧
      paths.lookup path = some (.dict item) ∧ item.lookup method.key = some (.dict operation) := by
  constructor
  · rintro ⟨⟨paths, hpaths, hpath⟩, hitem⟩
    have hdistinct := keysDistinct_lookup doc.keysDistinct hpaths
    have hlookup := (Dict.lookup_eq_some_iff_mem (nodup_keys hdistinct)).mpr hpath
    exact ⟨paths, hpaths, hlookup, (Dict.lookup_eq_some_iff_mem
      (nodup_keys (keysDistinct_lookup hdistinct hlookup))).mpr hitem⟩
  · rintro ⟨paths, hpaths, hpath, hitem⟩
    have hdistinct := keysDistinct_lookup doc.keysDistinct hpaths
    exact ⟨⟨paths, hpaths, (Dict.lookup_eq_some_iff_mem (nodup_keys hdistinct)).mp hpath⟩,
      (Dict.lookup_eq_some_iff_mem (nodup_keys (keysDistinct_lookup hdistinct hpath))).mp hitem⟩

/-- **What the check is**: the operations are read, and logout redirects. -/
theorem validateSessionGatewayContract_eq_ok {unicode : Unicode} {doc : OpenApiDocument} {u : Unit} :
    validateSessionGatewayContract unicode doc = .ok u ↔
      (∃ operations, iterOperations unicode doc .sessionGateway = .ok operations) ∧
        RedirectsOnLogout doc := by
  simp only [validateSessionGatewayContract, bind_eq_ok_iff, checkLogout_eq_ok, mapping_eq_ok,
    raiseWhen_eq_ok, not_or, Bool.not_eq_false, isText_iff, not_not]
  constructor
  · rintro ⟨operations, hoperations, -, ⟨logout, hget, hmethod, hpath⟩, paths, hpaths, item, hitem,
      operation, hoperation, responses, hresponses, -, -, -, hstale, response, hresponse, headers,
      hheaders, location, hlocation, schema, hschema, htype, hformat⟩
    refine ⟨⟨operations, hoperations⟩, item, operation, responses, response, headers, location, schema,
      hasOperation_iff_lookup.mpr ⟨paths, hpaths, hitem, hoperation⟩, ?_, hresponses, hstale, hresponse,
      hheaders, hlocation, hschema, htype, hformat⟩
    obtain ⟨hlogout, hid⟩ := (Dict.get?_keyed (iterOperations_ids hoperations)).mp hget
    obtain ⟨⟨item', operation', hhas, hlookup⟩, -⟩ := (mem_iterOperations hoperations).mp hlogout
    rw [hmethod, hpath, hasOperation_iff_lookup] at hhas
    obtain ⟨paths', hpaths', hitem', hoperation'⟩ := hhas
    obtain rfl : paths' = paths := by simpa [hpaths] using hpaths'.symm
    obtain rfl : item' = item := by simpa [hitem] using hitem'.symm
    obtain rfl : operation' = operation := by
      have hsame : some (Json.dict operation) = some (.dict operation') := hoperation.symm.trans hoperation'
      simpa using hsame.symm
    rw [hlookup, hid]
  · rintro ⟨⟨operations, hoperations⟩, item, operation, responses, response, headers, location, schema,
      hhas, hid, hresponses, hstale, hresponse, hheaders, hlocation, hschema, htype, hformat⟩
    have hlogout : (⟨lit "logout", .get, lit "/logout", .sessionGateway⟩ : OpenApiOperation) ∈
        operations := (mem_iterOperations hoperations).mpr ⟨⟨item, operation, hhas, hid⟩, rfl⟩
    have hdocumented : responses.lookup (lit "302") ≠ none := by
      rw [hresponse]
      exact Option.some_ne_none _
    obtain ⟨paths, hpaths, hitem, hoperation⟩ := hasOperation_iff_lookup.mp hhas
    exact ⟨operations, hoperations, (), ⟨_, (Dict.get?_keyed (iterOperations_ids hoperations)).mpr
      ⟨hlogout, rfl⟩, rfl, rfl⟩, paths, hpaths, item, hitem, operation, hoperation, responses, hresponses,
      (), hdocumented, (), hstale, response, hresponse, headers, hheaders,
      location, hlocation, schema, hschema, htype, hformat⟩

end ApiTests.Coverage
