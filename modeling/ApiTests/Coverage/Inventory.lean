import ApiTests.Coverage.Forbidden
import ApiTests.Py.Yaml

/-!
# Loading the Session Gateway inventory

Model of `session_gateway_inventory.py:20-64, 127-146, 373-518`: the routes and cases of the
inventory and `load_session_gateway_inventory`, with every check in the order of the source and the
text of every error. The loader starts from what `yaml.safe_load` returns; `display` is the text
`f"{value}"` of such a value and `path` that of the file.

Results:
* `loadSessionGatewayInventory_caseIds`: **the case ids of an accepted inventory are distinct.**
-/

namespace ApiTests.Coverage

open Py OpenApi

/-- `RouteOwner`. -/
inductive RouteOwner where
  | controller
  | springSecurity
  | actuator
  | springdoc
  deriving Repr, DecidableEq

/-- `RouteExposure`. -/
inductive RouteExposure where
  /-- `"public"`. -/
  | publicRoute
  | meshInternal
  | deploymentOperational
  | developmentOnly
  deriving Repr, DecidableEq

/-- `InventoryStatus`. -/
inductive InventoryStatus where
  | covered
  | deferred
  | untestable
  deriving Repr, DecidableEq

/-- `SessionGatewayIndirectProof`. -/
structure SessionGatewayIndirectProof where
  scenario : Text
  prerequisite : Text
  limitation : Text
  deriving Repr, DecidableEq

/-- `SessionGatewayCase`. -/
structure SessionGatewayCase where
  caseId : Text
  behavior : Text
  status : InventoryStatus
  reason : Option Text
  prerequisite : Option Text
  boundary : Option Text
  optionalIndirectProof : Option SessionGatewayIndirectProof
  deriving Repr, DecidableEq

/-- `SessionGatewayRoute`. -/
structure SessionGatewayRoute where
  method : HttpMethod
  path : Text
  owner : RouteOwner
  exposure : RouteExposure
  openapiOperationId : Option Text
  cases : List SessionGatewayCase
  deriving Repr, DecidableEq

/-- What the loader raises: a `ValueError`, or the `TypeError` of hashing a list or mapping. -/
inductive InventoryError where
  | valueError (message : Text)
  | typeError
  deriving Repr, DecidableEq

/-- `if value not in allowed: raise ValueError(message)`, then the value as `read` gives it. -/
def memberOf {α : Type} (read : Text → Option α) (value : Yaml) (message : Text) :
    Except InventoryError α :=
  if value.hashable then
    match value with
    | .str t =>
      match read t with
      | some a => .ok a
      | none => .error (.valueError message)
    | _ => .error (.valueError message)
  else .error .typeError

/-- `_METHODS`. -/
def readMethod (t : Text) : Option HttpMethod :=
  if t = lit "GET" then some .get
  else if t = lit "POST" then some .post
  else if t = lit "PUT" then some .put
  else if t = lit "PATCH" then some .patch
  else if t = lit "DELETE" then some .delete
  else none

/-- `_OWNERS`. -/
def readOwner (t : Text) : Option RouteOwner :=
  if t = lit "controller" then some .controller
  else if t = lit "spring_security" then some .springSecurity
  else if t = lit "actuator" then some .actuator
  else if t = lit "springdoc" then some .springdoc
  else none

/-- `_EXPOSURES`. -/
def readExposure (t : Text) : Option RouteExposure :=
  if t = lit "public" then some .publicRoute
  else if t = lit "mesh_internal" then some .meshInternal
  else if t = lit "deployment_operational" then some .deploymentOperational
  else if t = lit "development_only" then some .developmentOnly
  else none

/-- `_STATUSES`. -/
def readStatus (t : Text) : Option InventoryStatus :=
  if t = lit "covered" then some .covered
  else if t = lit "deferred" then some .deferred
  else if t = lit "untestable" then some .untestable
  else none

/-- A number in a message. -/
def decimal (n : Nat) : Text := lit (toString n)

/-- An optional text of a case: absent, or not blank. -/
def optionalText (caseId fieldName : Text) (value : Yaml) : Except InventoryError (Option Text) :=
  match value with
  | .null => .ok none
  | .str t =>
    if strip t = [] then
      .error (.valueError (lit "Session Gateway case " ++ caseId ++ lit " has invalid " ++ fieldName))
    else .ok (some t)
  | _ => .error (.valueError (lit "Session Gateway case " ++ caseId ++ lit " has invalid " ++ fieldName))

/-- `_validate_classification`. -/
def validateClassification (caseId : Text) (status : InventoryStatus)
    (reason prerequisite boundary : Option Text) (hasOptionalIndirectProof : Bool) :
    Except InventoryError Unit := do
  match status with
  | .covered =>
    raiseWhen (reason ≠ none ∨ prerequisite ≠ none ∨ boundary ≠ none)
      (.valueError (lit "covered Session Gateway case " ++ caseId ++
        lit " must not declare deferral"))
  | .deferred => do
    raiseWhen (reason = none ∨ prerequisite = none)
      (.valueError (lit "deferred Session Gateway case " ++ caseId ++
        lit " requires reason and prerequisite"))
    raiseWhen (boundary ≠ none)
      (.valueError (lit "deferred Session Gateway case " ++ caseId ++
        lit " must not declare boundary"))
  | .untestable => do
    raiseWhen (reason = none ∨ boundary = none)
      (.valueError (lit "untestable Session Gateway case " ++ caseId ++
        lit " requires reason and boundary"))
    raiseWhen (prerequisite ≠ none)
      (.valueError (lit "untestable Session Gateway case " ++ caseId ++
        lit " must not declare prerequisite"))
  raiseWhen (hasOptionalIndirectProof = true ∧ status ≠ .untestable)
    (.valueError (lit "only untestable Session Gateway case " ++ caseId ++
      lit " may declare optional_indirect_proof"))

/-- A required text of an indirect proof. -/
def proofText (caseId : Text) (entries : List (YamlKey × Yaml)) (fieldName : Text) :
    Except InventoryError Text :=
  match yamlGet entries fieldName with
  | .str t =>
    if strip t = [] then
      .error (.valueError (lit "Session Gateway case " ++ caseId ++
        lit " optional_indirect_proof requires " ++ fieldName))
    else .ok t
  | _ => .error (.valueError (lit "Session Gateway case " ++ caseId ++
      lit " optional_indirect_proof requires " ++ fieldName))

/-- The text keys of a mapping that are not expected; keys of other types have no place in a sorted
list of texts, so they raise a `TypeError`. -/
def extraFields (expected : List Text) (entries : List (YamlKey × Yaml)) :
    Except InventoryError (List Text) :=
  if entries.any fun e => match e.1 with
    | .other _ => true
    | .text _ => false then .error .typeError
  else .ok (sortTexts (entries.filterMap fun e => match e.1 with
    | .text t => if t ∈ expected then none else some t
    | .other _ => none))

/-- `_load_optional_indirect_proof`. -/
def loadOptionalIndirectProof (rawProof : Yaml) (caseId : Text) :
    Except InventoryError (Option SessionGatewayIndirectProof) :=
  match rawProof with
  | .null => .ok none
  | .dict entries => do
    let extra ← extraFields [lit "scenario", lit "prerequisite", lit "limitation"] entries
    raiseWhen (extra ≠ [])
      (.valueError (lit "Session Gateway case " ++ caseId ++
        lit " optional_indirect_proof has unknown fields: " ++ joinTexts extra))
    let limitation ← proofText caseId entries (lit "limitation")
    let prerequisite ← proofText caseId entries (lit "prerequisite")
    let scenario ← proofText caseId entries (lit "scenario")
    .ok (some { scenario, prerequisite, limitation })
  | _ => .error (.valueError (lit "Session Gateway case " ++ caseId ++
      lit " optional_indirect_proof must be a mapping"))

variable (display : Yaml → Text)

/-- `_load_case`. -/
def loadCase (rawCase : Yaml) (context : Text) : Except InventoryError SessionGatewayCase :=
  match rawCase with
  | .dict entries => do
    let caseId ← match yamlGet entries (lit "id") with
      | .str (c :: t) => .ok (c :: t)
      | _ => .error (.valueError (context ++ lit " is missing id"))
    let behavior ← match yamlGet entries (lit "behavior") with
      | .str (c :: t) => .ok (c :: t)
      | _ => .error (.valueError (lit "Session Gateway case " ++ caseId ++ lit " is missing behavior"))
    let rawStatus := yamlGet entries (lit "status")
    let status ← memberOf readStatus rawStatus
      (lit "Session Gateway case " ++ caseId ++ lit " has unsupported status: " ++ display rawStatus)
    let reason ← optionalText caseId (lit "reason") (yamlGet entries (lit "reason"))
    let prerequisite ←
      optionalText caseId (lit "prerequisite") (yamlGet entries (lit "prerequisite"))
    let boundary ← optionalText caseId (lit "boundary") (yamlGet entries (lit "boundary"))
    let rawProof := yamlGet entries (lit "optional_indirect_proof")
    validateClassification caseId status reason prerequisite boundary
      (match rawProof with
        | .null => false
        | _ => true)
    let optionalIndirectProof ← loadOptionalIndirectProof rawProof caseId
    .ok { caseId, behavior, status, reason, prerequisite, boundary, optionalIndirectProof }
  | _ => .error (.valueError (context ++ lit " must be a mapping"))

/-- `_load_route`. -/
def loadRoute (rawRoute : Yaml) (context : Text) : Except InventoryError SessionGatewayRoute :=
  match rawRoute with
  | .dict entries => do
    let rawMethod := yamlGet entries (lit "method")
    let method ← memberOf readMethod rawMethod
      (context ++ lit " has unsupported method: " ++ display rawMethod)
    let path ← match yamlGet entries (lit "path") with
      | .str (47 :: t) => .ok (47 :: t)
      | _ => .error (.valueError (context ++ lit " has invalid path"))
    let rawOwner := yamlGet entries (lit "owner")
    let owner ← memberOf readOwner rawOwner
      (context ++ lit " has unsupported owner: " ++ display rawOwner)
    let rawExposure := yamlGet entries (lit "exposure")
    let exposure ← memberOf readExposure rawExposure
      (context ++ lit " has unsupported exposure: " ++ display rawExposure)
    let openapiOperationId ← match yamlGet entries (lit "openapi_operation_id") with
      | .null => .ok none
      | .str (c :: t) => .ok (some (c :: t))
      | _ => .error (.valueError (context ++ lit " has invalid openapi_operation_id"))
    let rawCases ← match yamlGet entries (lit "cases") with
      | .list (x :: items) => .ok (x :: items)
      | _ => .error (.valueError (context ++ lit " must contain a non-empty cases list"))
    let cases ← readAll (fun e => loadCase display e.1 (context ++ lit " case #" ++ decimal e.2))
      (rawCases.zipIdx 1)
    .ok { method, path, owner, exposure, openapiOperationId, cases }
  | _ => .error (.valueError (context ++ lit " must be a mapping"))

/-- The error about a case id met again. -/
def duplicateCase (_ case : SessionGatewayCase) : InventoryError :=
  .valueError (lit "duplicate Session Gateway case id: " ++ case.caseId)

/-- The loop over the routes, with the cases met so far. -/
def loadRoutes : List SessionGatewayCase → List (Yaml × Nat) →
    Except InventoryError (List SessionGatewayRoute)
  | _, [] => .ok []
  | seen, (rawRoute, index) :: rest => do
    let route ← loadRoute display rawRoute (lit "Session Gateway route #" ++ decimal index)
    let cases ← collect .ok SessionGatewayCase.caseId duplicateCase .ok seen route.cases
    let routes ← loadRoutes (cases ++ seen) rest
    .ok (route :: routes)

/-- `load_session_gateway_inventory`. -/
def loadSessionGatewayInventory (path : Text) (rawInventory : Yaml) :
    Except InventoryError (List SessionGatewayRoute) :=
  match rawInventory with
  | .dict entries =>
    match yamlGet entries (lit "routes") with
    | .list rawRoutes => loadRoutes display [] (rawRoutes.zipIdx 1)
    | _ => .error (.valueError
        (lit "Session Gateway inventory must contain list field 'routes': " ++ path))
  | _ => .error (.valueError (lit "Session Gateway inventory must contain a YAML mapping: " ++ path))

/-! ## Case ids -/

variable {display}

/-- The cases of an inventory. -/
def casesOf (routes : List SessionGatewayRoute) : List SessionGatewayCase :=
  routes.flatMap SessionGatewayRoute.cases

theorem loadRoutes_caseIds {seen : List SessionGatewayCase} {rest : List (Yaml × Nat)}
    {routes : List SessionGatewayRoute} (h : loadRoutes display seen rest = .ok routes) :
    ((casesOf routes).map SessionGatewayCase.caseId).Nodup ∧
      ∀ c ∈ casesOf routes, ∀ s ∈ seen, s.caseId ≠ c.caseId := by
  induction rest generalizing seen routes with
  | nil =>
    cases h
    exact ⟨List.nodup_nil, fun c hc => absurd hc List.not_mem_nil⟩
  | cons e rest ih =>
    obtain ⟨rawRoute, index⟩ := e
    simp only [loadRoutes, bind_eq_ok_iff, Except.ok.injEq] at h
    obtain ⟨route, -, cases, hcases, routes', hroutes, rfl⟩ := h
    obtain ⟨rfl, hnodup, hnew⟩ := collect_keys_eq_ok.mp hcases
    obtain ⟨hrest, hdisjoint⟩ := ih hroutes
    have hsplit : casesOf (route :: routes') = route.cases ++ casesOf routes' := rfl
    rw [hsplit, List.map_append, List.nodup_append']
    refine ⟨⟨hnodup, hrest, fun id hid hid' => ?_⟩, fun c hc s hs => ?_⟩
    · obtain ⟨c, hc, rfl⟩ := List.mem_map.mp hid
      obtain ⟨c', hc', heq⟩ := List.mem_map.mp hid'
      exact hdisjoint c' hc' c (List.mem_append_left _ hc) heq.symm
    · rcases List.mem_append.mp hc with hc | hc
      · exact hnew c hc s hs
      · exact hdisjoint c hc s (List.mem_append_right _ hs)

/-- **An accepted inventory has each case id once.** -/
theorem loadSessionGatewayInventory_caseIds {path : Text} {rawInventory : Yaml}
    {routes : List SessionGatewayRoute}
    (h : loadSessionGatewayInventory display path rawInventory = .ok routes) :
    ((casesOf routes).map SessionGatewayCase.caseId).Nodup := by
  unfold loadSessionGatewayInventory at h
  split at h
  · split at h
    · exact (loadRoutes_caseIds h).1
    · cases h
  · cases h

end ApiTests.Coverage
