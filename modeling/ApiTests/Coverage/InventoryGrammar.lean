import ApiTests.Coverage.Inventory

/-!
# The grammar of the Session Gateway inventory (`session_gateway_inventory.py:127-146, 373-518`)

`InventoryOf` says what an inventory is and which routes it stands for, without an order of checks.
`in` on a frozen set hashes a list or mapping on its left, and `", ".join` wants texts, so a few
malformed values raise a `TypeError`. `InventoryTrips` says where: everything in front of them is well formed.

Results:
* `loadCase_eq_ok_iff`, `loadRoute_eq_ok_iff`, `loadSessionGatewayInventory_eq_ok_iff`: **the loader
  returns iff the value is an inventory, and then what it stands for.**
* `loadSessionGatewayInventory_typeError_iff`: when it raises a `TypeError`.
* **`inventory_grammar_iff`**: every other value is reported as a `ValueError` iff nothing trips.
-/

namespace ApiTests.Coverage

open Py OpenApi

/-! ## What an inventory is -/

/-- The text of an allowed value. -/
def Spelled {α : Type} (read : Text → Option α) (value : Yaml) (a : α) : Prop :=
  ∃ t, value = .str t ∧ read t = some a

/-- A text that is not empty. -/
def IsText (value : Yaml) (t : Text) : Prop := value = .str t ∧ t ≠ []

/-- Null, or a text that is not blank. -/
inductive OptionalText : Yaml → Option Text → Prop
  | absent : OptionalText .null none
  | present {t : Text} (h : strip t ≠ []) : OptionalText (.str t) (some t)

/-- What the status requires. -/
inductive StatusRule : InventoryStatus → Option Text → Option Text → Option Text → Prop
  | covered : StatusRule .covered none none none
  | deferred (reason prerequisite : Text) :
      StatusRule .deferred (some reason) (some prerequisite) none
  | untestable (reason boundary : Text) : StatusRule .untestable (some reason) none (some boundary)

/-- The fields of an indirect proof. -/
def proofFields : List Text := [lit "scenario", lit "prerequisite", lit "limitation"]

/-- An indirect proof: exactly three texts that are not blank. -/
structure ProofOf (entries : List (YamlKey × Yaml)) (proof : SessionGatewayIndirectProof) :
    Prop where
  keys : ∀ e ∈ entries, ∃ t ∈ proofFields, e.1 = .text t
  scenario : OptionalText (yamlGet entries (lit "scenario")) (some proof.scenario)
  prerequisite : OptionalText (yamlGet entries (lit "prerequisite")) (some proof.prerequisite)
  limitation : OptionalText (yamlGet entries (lit "limitation")) (some proof.limitation)

/-- Null, or an indirect proof. -/
inductive OptionalProof : Yaml → Option SessionGatewayIndirectProof → Prop
  | absent : OptionalProof .null none
  | present {entries : List (YamlKey × Yaml)} {proof : SessionGatewayIndirectProof}
      (h : ProofOf entries proof) : OptionalProof (.dict entries) (some proof)

/-- The fields of a case. -/
structure CaseFields (entries : List (YamlKey × Yaml)) (case : SessionGatewayCase) : Prop where
  id : IsText (yamlGet entries (lit "id")) case.caseId
  behavior : IsText (yamlGet entries (lit "behavior")) case.behavior
  status : Spelled readStatus (yamlGet entries (lit "status")) case.status
  reason : OptionalText (yamlGet entries (lit "reason")) case.reason
  prerequisite : OptionalText (yamlGet entries (lit "prerequisite")) case.prerequisite
  boundary : OptionalText (yamlGet entries (lit "boundary")) case.boundary
  rule : StatusRule case.status case.reason case.prerequisite case.boundary
  proof : OptionalProof (yamlGet entries (lit "optional_indirect_proof")) case.optionalIndirectProof
  untestable : case.optionalIndirectProof ≠ none → case.status = .untestable

/-- A mapping that is a case. -/
def CaseOf (rawCase : Yaml) (case : SessionGatewayCase) : Prop :=
  ∃ entries, rawCase = .dict entries ∧ CaseFields entries case

/-- The fields of a route. -/
structure RouteFields (entries : List (YamlKey × Yaml)) (route : SessionGatewayRoute) : Prop where
  method : Spelled readMethod (yamlGet entries (lit "method")) route.method
  path : yamlGet entries (lit "path") = .str route.path ∧ lit "/" <+: route.path
  owner : Spelled readOwner (yamlGet entries (lit "owner")) route.owner
  exposure : Spelled readExposure (yamlGet entries (lit "exposure")) route.exposure
  operationId : (yamlGet entries (lit "openapi_operation_id") = .null ∧
      route.openapiOperationId = none) ∨
    ∃ t, IsText (yamlGet entries (lit "openapi_operation_id")) t ∧
      route.openapiOperationId = some t
  cases : ∃ rawCases, yamlGet entries (lit "cases") = .list rawCases ∧ rawCases ≠ [] ∧
    List.Forall₂ CaseOf rawCases route.cases

/-- A mapping that is a route. -/
def RouteOf (rawRoute : Yaml) (route : SessionGatewayRoute) : Prop :=
  ∃ entries, rawRoute = .dict entries ∧ RouteFields entries route

/-- The case ids of the routes are distinct. -/
def DistinctIds (routes : List SessionGatewayRoute) : Prop :=
  ((casesOf routes).map SessionGatewayCase.caseId).Nodup

/-- **A mapping that is an inventory**, and the routes it stands for in the order of the file. -/
def InventoryOf (rawInventory : Yaml) (routes : List SessionGatewayRoute) : Prop :=
  ∃ entries rawRoutes, rawInventory = .dict entries ∧
    yamlGet entries (lit "routes") = .list rawRoutes ∧
    List.Forall₂ RouteOf rawRoutes routes ∧ DistinctIds routes

/-! ## Where a `TypeError` is raised -/

/-- The fields of a case up to a status that has no hash, or those of an untestable case whose
indirect proof has a key that is no text. -/
def CaseTrips (rawCase : Yaml) : Prop :=
  ∃ entries id behavior, rawCase = .dict entries ∧ IsText (yamlGet entries (lit "id")) id ∧
    IsText (yamlGet entries (lit "behavior")) behavior ∧
    ((yamlGet entries (lit "status")).hashable = false ∨
      (∃ reason boundary proof n x,
        Spelled readStatus (yamlGet entries (lit "status")) .untestable ∧
        OptionalText (yamlGet entries (lit "reason")) (some reason) ∧
        OptionalText (yamlGet entries (lit "prerequisite")) none ∧
        OptionalText (yamlGet entries (lit "boundary")) (some boundary) ∧
        yamlGet entries (lit "optional_indirect_proof") = .dict proof ∧
        (.other n, x) ∈ proof))

/-- The fields of a route up to a value that has no hash, or up to a case that trips. -/
def RouteTrips (rawRoute : Yaml) : Prop :=
  ∃ entries, rawRoute = .dict entries ∧
    ((yamlGet entries (lit "method")).hashable = false ∨
    (∃ method, Spelled readMethod (yamlGet entries (lit "method")) method) ∧
    (∃ path, yamlGet entries (lit "path") = .str path ∧ lit "/" <+: path) ∧
    ((yamlGet entries (lit "owner")).hashable = false ∨
    (∃ owner, Spelled readOwner (yamlGet entries (lit "owner")) owner) ∧
    ((yamlGet entries (lit "exposure")).hashable = false ∨
    (∃ exposure, Spelled readExposure (yamlGet entries (lit "exposure")) exposure) ∧
    (yamlGet entries (lit "openapi_operation_id") = .null ∨
      ∃ t, IsText (yamlGet entries (lit "openapi_operation_id")) t) ∧
    ∃ before rawCase after,
      yamlGet entries (lit "cases") = .list (before ++ rawCase :: after) ∧
      (∃ cases, List.Forall₂ CaseOf before cases) ∧ CaseTrips rawCase)))

/-- Routes with distinct case ids, up to a route that trips. -/
def InventoryTrips (rawInventory : Yaml) : Prop :=
  ∃ entries before rawRoute after, rawInventory = .dict entries ∧
    yamlGet entries (lit "routes") = .list (before ++ rawRoute :: after) ∧
    (∃ routes, List.Forall₂ RouteOf before routes ∧ DistinctIds routes) ∧ RouteTrips rawRoute

/-! ## One value -/

section Values

variable {α : Type} {read : Text → Option α} {value : Yaml} {message caseId fieldName : Text}

theorem memberOf_eq_ok {a : α} : memberOf read value message = .ok a ↔ Spelled read value a := by
  unfold memberOf Spelled
  cases value with
  | str t =>
    simp only [Yaml.hashable, if_true, Yaml.str.injEq, exists_eq_left']
    cases read t with
    | none => simp
    | some b => simp
  | _ => simp [Yaml.hashable]

theorem memberOf_typeError :
    memberOf read value message = .error .typeError ↔ value.hashable = false := by
  unfold memberOf
  cases value with
  | str t =>
    simp only [Yaml.hashable, if_true]
    cases read t with
    | none => simp
    | some b => simp
  | _ => simp [Yaml.hashable]

theorem optionalText_eq_ok {t : Option Text} :
    optionalText caseId fieldName value = .ok t ↔ OptionalText value t := by
  unfold optionalText
  cases value with
  | null =>
    refine ⟨fun h => ?_, fun h => ?_⟩
    · cases h
      exact .absent
    · cases h
      rfl
  | str text =>
    dsimp only
    split_ifs with hblank
    · refine iff_of_false (fun h => nomatch h) ?_
      rintro (_ | hpresent)
      exact hpresent hblank
    · refine ⟨fun h => ?_, fun h => ?_⟩
      · cases h
        exact .present hblank
      · cases h
        rfl
  | _ => exact iff_of_false (fun h => nomatch h) fun h => nomatch h

theorem optionalText_ne_typeError :
    optionalText caseId fieldName value ≠ .error .typeError := by
  unfold optionalText
  cases value with
  | str text =>
    dsimp only
    split_ifs <;> simp
  | _ => simp

theorem validateClassification_eq_ok {status : InventoryStatus}
    {reason prerequisite boundary : Option Text} {hasProof : Bool} {u : Unit} :
    validateClassification caseId status reason prerequisite boundary hasProof = .ok u ↔
      StatusRule status reason prerequisite boundary ∧
        (hasProof = true → status = .untestable) := by
  have hproof : (hasProof = true → status = .untestable) ↔
      ¬ (hasProof = true ∧ status ≠ .untestable) := by
    rw [not_and, not_not]
  rw [hproof]
  unfold validateClassification
  cases status with
  | covered =>
    simp only [bind_eq_ok_iff, raiseWhen_eq_ok, exists_and_left, exists_const, not_or, not_not]
    refine and_congr_left fun _ => ⟨fun ⟨hr, hp, hb⟩ => ?_, fun h => ?_⟩
    · subst hr hp hb
      exact .covered
    · cases h
      exact ⟨rfl, rfl, rfl⟩
  | deferred =>
    simp only [bind_eq_ok_iff, raiseWhen_eq_ok, exists_and_left, exists_const, not_or, not_not,
      ← and_assoc]
    refine and_congr_left fun _ => ⟨fun ⟨⟨hr, hp⟩, hb⟩ => ?_, fun h => ?_⟩
    · obtain ⟨reason, rfl⟩ := Option.ne_none_iff_exists'.mp hr
      obtain ⟨prerequisite, rfl⟩ := Option.ne_none_iff_exists'.mp hp
      subst hb
      exact .deferred reason prerequisite
    · cases h
      exact ⟨⟨Option.some_ne_none _, Option.some_ne_none _⟩, rfl⟩
  | untestable =>
    simp only [bind_eq_ok_iff, raiseWhen_eq_ok, exists_and_left, exists_const, not_or, not_not,
      ← and_assoc]
    refine and_congr_left fun _ => ⟨fun ⟨⟨hr, hb⟩, hp⟩ => ?_, fun h => ?_⟩
    · obtain ⟨reason, rfl⟩ := Option.ne_none_iff_exists'.mp hr
      obtain ⟨boundary, rfl⟩ := Option.ne_none_iff_exists'.mp hb
      subst hp
      exact .untestable reason boundary
    · cases h
      exact ⟨⟨Option.some_ne_none _, Option.some_ne_none _⟩, rfl⟩

/-- A raised condition is a `ValueError`. -/
theorem raiseWhen_ne_typeError {condition : Prop} [Decidable condition] :
    raiseWhen condition (InventoryError.valueError message) ≠ .error .typeError := by
  unfold raiseWhen
  split_ifs <;> simp

theorem validateClassification_ne_typeError {status : InventoryStatus}
    {reason prerequisite boundary : Option Text} {hasProof : Bool} :
    validateClassification caseId status reason prerequisite boundary hasProof ≠
      .error .typeError := by
  have hne : ∀ {condition : Prop} [Decidable condition] {m : Text},
      raiseWhen condition (InventoryError.valueError m) = .error .typeError ↔ False :=
    iff_of_false raiseWhen_ne_typeError id
  unfold validateClassification
  cases status with
  | covered => simp [bind_eq_error_iff, hne]
  | deferred => simp [bind_eq_error_iff, hne]
  | untestable => simp [bind_eq_error_iff, hne]

theorem proofText_eq_ok {entries : List (YamlKey × Yaml)} {t : Text} :
    proofText caseId entries fieldName = .ok t ↔
      OptionalText (yamlGet entries fieldName) (some t) := by
  unfold proofText
  cases yamlGet entries fieldName with
  | str text =>
    dsimp only
    split_ifs with hblank
    · refine iff_of_false (fun h => nomatch h) ?_
      rintro (_ | hpresent)
      exact hpresent hblank
    · refine ⟨fun h => ?_, fun h => ?_⟩
      · cases h
        exact .present hblank
      · cases h
        rfl
  | _ => exact iff_of_false (fun h => nomatch h) fun h => nomatch h

theorem proofText_ne_typeError {entries : List (YamlKey × Yaml)} :
    proofText caseId entries fieldName ≠ .error .typeError := by
  unfold proofText
  cases yamlGet entries fieldName with
  | str text =>
    dsimp only
    split_ifs <;> simp
  | _ => simp

end Values

/-! ## One indirect proof -/

/-- There is no unknown field when each key is an expected text. -/
theorem extraFields_eq_nil {expected : List Text} {entries : List (YamlKey × Yaml)} :
    extraFields expected entries = .ok [] ↔ ∀ e ∈ entries, ∃ t ∈ expected, e.1 = .text t := by
  unfold extraFields
  split_ifs with hother
  · refine iff_of_false (fun h => nomatch h) fun h => ?_
    obtain ⟨⟨key, x⟩, he, hkey⟩ := List.any_eq_true.mp hother
    obtain ⟨t, -, rfl⟩ := h _ he
    cases hkey
  · rw [Except.ok.injEq, sortTexts, sortBy_eq_nil, List.filterMap_eq_nil_iff]
    refine forall₂_congr fun e he => ?_
    obtain ⟨key, x⟩ := e
    cases key with
    | other n => exact absurd (List.any_eq_true.mpr ⟨_, he, rfl⟩) hother
    | text t => simp

theorem extraFields_typeError {expected : List Text} {entries : List (YamlKey × Yaml)} :
    extraFields expected entries = .error .typeError ↔ ∃ n x, (.other n, x) ∈ entries := by
  unfold extraFields
  split_ifs with hother
  · refine iff_of_true rfl ?_
    obtain ⟨⟨key, x⟩, he, hkey⟩ := List.any_eq_true.mp hother
    cases key with
    | other n => exact ⟨n, x, he⟩
    | text t => cases hkey
  · refine iff_of_false (fun h => nomatch h) ?_
    rintro ⟨n, x, he⟩
    exact hother (List.any_eq_true.mpr ⟨_, he, rfl⟩)

section Proof

variable {rawProof : Yaml} {caseId : Text}

theorem loadOptionalIndirectProof_eq_ok {proof : Option SessionGatewayIndirectProof} :
    loadOptionalIndirectProof rawProof caseId = .ok proof ↔ OptionalProof rawProof proof := by
  unfold loadOptionalIndirectProof
  cases rawProof with
  | null =>
    refine ⟨fun h => ?_, fun h => ?_⟩
    · cases h
      exact .absent
    · cases h
      rfl
  | dict entries =>
    simp only [bind_eq_ok_iff, raiseWhen_eq_ok, not_not, proofText_eq_ok, Except.ok.injEq]
    constructor
    · rintro ⟨extra, hextra, -, rfl, limitation, hl, prerequisite, hp, scenario, hs, rfl⟩
      exact .present ⟨extraFields_eq_nil.mp hextra, hs, hp, hl⟩
    · rintro (_ | ⟨hkeys, hs, hp, hl⟩)
      exact ⟨[], extraFields_eq_nil.mpr hkeys, (), rfl, _, hl, _, hp, _, hs, rfl⟩
  | _ => exact iff_of_false (fun h => nomatch h) fun h => nomatch h

theorem loadOptionalIndirectProof_typeError :
    loadOptionalIndirectProof rawProof caseId = .error .typeError ↔
      ∃ entries n x, rawProof = .dict entries ∧ (.other n, x) ∈ entries := by
  unfold loadOptionalIndirectProof
  cases rawProof with
  | dict entries =>
    simp only [bind_eq_error_iff, extraFields_typeError, raiseWhen_ne_typeError,
      proofText_ne_typeError, false_or, Yaml.dict.injEq]
    constructor
    · rintro (⟨n, x, hmem⟩ | ⟨_, -, _, -, _, -, _, -, _, -, h⟩)
      · exact ⟨entries, n, x, rfl, hmem⟩
      · cases h
    · rintro ⟨_, n, x, rfl, hmem⟩
      exact .inl ⟨n, x, hmem⟩
  | _ => simp

end Proof

/-! ## One case -/

theorem isText_cons {value : Yaml} {t : Text} (h : IsText value t) :
    ∃ c cs, t = c :: cs ∧ value = .str (c :: cs) := by
  obtain ⟨hvalue, hne⟩ := h
  obtain ⟨c, cs, rfl⟩ := List.exists_cons_of_ne_nil hne
  exact ⟨c, cs, rfl, hvalue⟩

/-- A text that is not empty, or the error about it. -/
def textOr (message : Text) : Yaml → Except InventoryError Text
  | .str (c :: t) => .ok (c :: t)
  | _ => .error (.valueError message)

/-- `raw_optional_indirect_proof is not None`. -/
def isGiven : Yaml → Bool
  | .null => false
  | _ => true

theorem textOr_eq_ok {message : Text} {value : Yaml} {t : Text} :
    textOr message value = .ok t ↔ IsText value t := by
  unfold IsText
  rcases value with _ | _ | _ | ⟨_ | ⟨c, cs⟩⟩ | _ | _ | _
  case str.cons =>
    rw [textOr, Except.ok.injEq, Yaml.str.injEq, iff_self_and]
    rintro rfl
    exact List.cons_ne_nil _ _
  case str.nil =>
    refine iff_of_false (fun h => nomatch h) ?_
    rintro ⟨heq, hne⟩
    cases heq
    exact hne rfl
  all_goals exact iff_of_false (fun h => nomatch h) fun h => nomatch h.1

theorem textOr_ne_typeError {message : Text} {value : Yaml} :
    textOr message value ≠ .error .typeError := by
  rcases value with _ | _ | _ | ⟨_ | ⟨c, cs⟩⟩ | _ | _ | _ <;> exact fun h => nomatch h

section Case

variable {display : Yaml → Text} {rawCase : Yaml} {context : Text}

/-- `_load_case` of a mapping, check by check. -/
theorem loadCase_dict (entries : List (YamlKey × Yaml)) :
    loadCase display (.dict entries) context = (do
      let caseId ← textOr (context ++ lit " is missing id") (yamlGet entries (lit "id"))
      let behavior ← textOr (lit "Session Gateway case " ++ caseId ++ lit " is missing behavior")
        (yamlGet entries (lit "behavior"))
      let status ← memberOf readStatus (yamlGet entries (lit "status"))
        (lit "Session Gateway case " ++ caseId ++ lit " has unsupported status: " ++
          display (yamlGet entries (lit "status")))
      let reason ← optionalText caseId (lit "reason") (yamlGet entries (lit "reason"))
      let prerequisite ←
        optionalText caseId (lit "prerequisite") (yamlGet entries (lit "prerequisite"))
      let boundary ← optionalText caseId (lit "boundary") (yamlGet entries (lit "boundary"))
      validateClassification caseId status reason prerequisite boundary
        (isGiven (yamlGet entries (lit "optional_indirect_proof")))
      let optionalIndirectProof ←
        loadOptionalIndirectProof (yamlGet entries (lit "optional_indirect_proof")) caseId
      .ok { caseId, behavior, status, reason, prerequisite, boundary, optionalIndirectProof }) := by
  unfold loadCase
  dsimp only
  generalize yamlGet entries (lit "id") = id
  generalize yamlGet entries (lit "behavior") = behavior
  rcases id with _ | _ | _ | ⟨_ | ⟨c, cs⟩⟩ | _ | _ | _
  case str.cons =>
    rcases behavior with _ | _ | _ | ⟨_ | ⟨d, ds⟩⟩ | _ | _ | _ <;> rfl
  all_goals rfl

/-- **A case is loaded iff it is one.** -/
theorem loadCase_eq_ok_iff {case : SessionGatewayCase} :
    loadCase display rawCase context = .ok case ↔ CaseOf rawCase case := by
  cases rawCase with
  | dict entries =>
    rw [loadCase_dict]
    simp only [CaseOf, bind_eq_ok_iff, textOr_eq_ok, memberOf_eq_ok, optionalText_eq_ok,
      validateClassification_eq_ok, loadOptionalIndirectProof_eq_ok, Except.ok.injEq,
      Yaml.dict.injEq, exists_eq_left']
    constructor
    · rintro ⟨id, hid, behavior, hbehavior, status, hstatus, reason, hr, prerequisite, hp, boundary,
        hb, -, ⟨hrule, huntestable⟩, proof, hproof, rfl⟩
      refine ⟨hid, hbehavior, hstatus, hr, hp, hb, hrule, hproof, fun hsome => huntestable ?_⟩
      generalize yamlGet entries (lit "optional_indirect_proof") = rawProof at hproof
      cases hproof with
      | absent => exact absurd rfl hsome
      | present => rfl
    · intro h
      refine ⟨_, h.id, _, h.behavior, _, h.status, _, h.reason, _, h.prerequisite, _, h.boundary, (),
        ⟨h.rule, fun hgiven => h.untestable ?_⟩, _, h.proof, rfl⟩
      have hproof := h.proof
      generalize yamlGet entries (lit "optional_indirect_proof") = rawProof at hproof hgiven
      generalize case.optionalIndirectProof = proof at hproof
      cases hproof with
      | absent => cases hgiven
      | present => exact Option.some_ne_none _
  | _ =>
    refine iff_of_false (fun h => nomatch h) ?_
    rintro ⟨entries, h, -⟩
    cases h

/-- **When a case raises a `TypeError`.** -/
theorem loadCase_typeError_iff :
    loadCase display rawCase context = .error .typeError ↔ CaseTrips rawCase := by
  unfold CaseTrips
  cases rawCase with
  | dict entries =>
    rw [loadCase_dict]
    simp only [bind_eq_error_iff, textOr_ne_typeError, textOr_eq_ok, memberOf_eq_ok,
      memberOf_typeError, optionalText_eq_ok, optionalText_ne_typeError,
      validateClassification_eq_ok, validateClassification_ne_typeError,
      loadOptionalIndirectProof_typeError, false_or, reduceCtorEq, and_false, exists_false, or_false]
    constructor
    · rintro ⟨id, hid, behavior, hbehavior, hstatus | ⟨status, hstatus, reason, hr, prerequisite, hp,
        boundary, hb, -, ⟨hrule, huntestable⟩, proof, n, x, hproof, hmem⟩⟩
      · exact ⟨entries, id, behavior, rfl, hid, hbehavior, .inl hstatus⟩
      · obtain rfl := huntestable (by rw [hproof]; rfl)
        cases hrule with
        | untestable reason boundary =>
          exact ⟨entries, id, behavior, rfl, hid, hbehavior,
            .inr ⟨reason, boundary, proof, n, x, hstatus, hr, hp, hb, hproof, hmem⟩⟩
    · rintro ⟨_, id, behavior, heq, hid, hbehavior, hstatus | ⟨reason, boundary, proof, n, x, hstatus,
        hr, hp, hb, hproof, hmem⟩⟩ <;> cases heq
      · exact ⟨id, hid, behavior, hbehavior, .inl hstatus⟩
      · exact ⟨id, hid, behavior, hbehavior, .inr ⟨_, hstatus, _, hr, _, hp, _, hb, (),
          ⟨.untestable reason boundary, fun _ => rfl⟩, proof, n, x, hproof, hmem⟩⟩
  | _ =>
    refine iff_of_false (fun h => nomatch h) ?_
    rintro ⟨entries, id, behavior, h, -⟩
    cases h

end Case

/-! ## One route -/

/-- A text that begins with a slash, or the error about it. -/
def pathOr (message : Text) : Yaml → Except InventoryError Text
  | .str (47 :: t) => .ok (47 :: t)
  | _ => .error (.valueError message)

/-- Null or a text that is not empty, or the error about it. -/
def optionalTextOr (message : Text) : Yaml → Except InventoryError (Option Text)
  | .null => .ok none
  | .str (c :: t) => .ok (some (c :: t))
  | _ => .error (.valueError message)

/-- A list that is not empty, or the error about it. -/
def itemsOr (message : Text) : Yaml → Except InventoryError (List Yaml)
  | .list (x :: items) => .ok (x :: items)
  | _ => .error (.valueError message)

section Fields

variable {message : Text} {value : Yaml}

theorem pathOr_eq_ok {path : Text} :
    pathOr message value = .ok path ↔ value = .str path ∧ lit "/" <+: path := by
  have hslash : lit "/" = [47] := by decide
  rw [hslash]
  unfold pathOr
  split
  next t =>
    rw [Except.ok.injEq, Yaml.str.injEq, iff_self_and]
    rintro rfl
    exact ⟨t, rfl⟩
  next hother =>
    refine iff_of_false (fun h => nomatch h) ?_
    rintro ⟨rfl, t, rfl⟩
    exact hother t rfl

theorem optionalTextOr_eq_ok {t : Option Text} : optionalTextOr message value = .ok t ↔
    (value = .null ∧ t = none) ∨ ∃ text, IsText value text ∧ t = some text := by
  unfold optionalTextOr
  split
  next => simp [IsText, eq_comm]
  next c cs =>
    rw [Except.ok.injEq, or_iff_right (fun h => nomatch h.1)]
    refine ⟨fun h => ⟨_, ⟨rfl, List.cons_ne_nil _ _⟩, h.symm⟩, ?_⟩
    rintro ⟨text, ⟨htext, -⟩, rfl⟩
    cases htext
    rfl
  next hnull hother =>
    refine iff_of_false (fun h => nomatch h) ?_
    rintro (⟨rfl, -⟩ | ⟨text, htext, -⟩)
    · exact hnull rfl
    · obtain ⟨c, cs, rfl, rfl⟩ := isText_cons htext
      exact hother c cs rfl

theorem itemsOr_eq_ok {items : List Yaml} :
    itemsOr message value = .ok items ↔ value = .list items ∧ items ≠ [] := by
  unfold itemsOr
  split
  next x xs =>
    rw [Except.ok.injEq, Yaml.list.injEq, iff_self_and]
    rintro rfl
    exact List.cons_ne_nil _ _
  next hother =>
    refine iff_of_false (fun h => nomatch h) ?_
    rintro ⟨rfl, hne⟩
    obtain ⟨x, xs, rfl⟩ := List.exists_cons_of_ne_nil hne
    exact hother x xs rfl

theorem pathOr_ne_typeError : pathOr message value ≠ .error .typeError := by
  unfold pathOr
  split <;> exact fun h => nomatch h

theorem optionalTextOr_ne_typeError : optionalTextOr message value ≠ .error .typeError := by
  unfold optionalTextOr
  split <;> exact fun h => nomatch h

theorem itemsOr_ne_typeError : itemsOr message value ≠ .error .typeError := by
  unfold itemsOr
  split <;> exact fun h => nomatch h

end Fields

section Route

variable {display : Yaml → Text} {rawRoute : Yaml} {context : Text}

/-- `_load_route` of a mapping, check by check. -/
theorem loadRoute_dict (entries : List (YamlKey × Yaml)) :
    loadRoute display (.dict entries) context = (do
      let method ← memberOf readMethod (yamlGet entries (lit "method"))
        (context ++ lit " has unsupported method: " ++ display (yamlGet entries (lit "method")))
      let path ← pathOr (context ++ lit " has invalid path") (yamlGet entries (lit "path"))
      let owner ← memberOf readOwner (yamlGet entries (lit "owner"))
        (context ++ lit " has unsupported owner: " ++ display (yamlGet entries (lit "owner")))
      let exposure ← memberOf readExposure (yamlGet entries (lit "exposure"))
        (context ++ lit " has unsupported exposure: " ++ display (yamlGet entries (lit "exposure")))
      let openapiOperationId ← optionalTextOr (context ++ lit " has invalid openapi_operation_id")
        (yamlGet entries (lit "openapi_operation_id"))
      let rawCases ← itemsOr (context ++ lit " must contain a non-empty cases list")
        (yamlGet entries (lit "cases"))
      let cases ← readAll (fun e => loadCase display e.1 (context ++ lit " case #" ++ decimal e.2))
        (rawCases.zipIdx 1)
      .ok { method, path, owner, exposure, openapiOperationId, cases }) := by
  unfold loadRoute
  dsimp only
  generalize memberOf readMethod (yamlGet entries (lit "method")) _ = method
  generalize memberOf readOwner (yamlGet entries (lit "owner")) _ = owner
  generalize memberOf readExposure (yamlGet entries (lit "exposure")) _ = exposure
  generalize yamlGet entries (lit "path") = path
  generalize yamlGet entries (lit "openapi_operation_id") = operationId
  generalize yamlGet entries (lit "cases") = rawCases
  cases method with
  | error e => rfl
  | ok method =>
    by_cases hpath : ∃ t, path = .str (47 :: t)
    · obtain ⟨t, rfl⟩ := hpath
      cases owner with
      | error e => rfl
      | ok owner =>
        cases exposure with
        | error e => rfl
        | ok exposure =>
          rcases operationId with _ | _ | _ | ⟨_ | ⟨c, cs⟩⟩ | _ | _ | _ <;>
            rcases rawCases with _ | _ | _ | _ | ⟨_ | ⟨x, xs⟩⟩ | _ | _ <;> rfl
    · have hnot : ∀ m, pathOr m path = .error (.valueError m) := by
        intro m
        unfold pathOr
        split
        · exact absurd ⟨_, rfl⟩ hpath
        · rfl
      rw [hnot]
      dsimp only [bind, Except.bind]
      split
      · exact absurd ⟨_, rfl⟩ hpath
      · rfl

theorem loadCases_eq_ok_iff {rawCases : List Yaml} {cases : List SessionGatewayCase} :
    readAll (fun e => loadCase display e.1 (context ++ lit " case #" ++ decimal e.2))
      (rawCases.zipIdx 1) = .ok cases ↔ List.Forall₂ CaseOf rawCases cases :=
  readAll_zipIdx_eq_ok (R := CaseOf) (fun _ _ _ => loadCase_eq_ok_iff) 1

theorem loadCases_typeError_iff {rawCases : List Yaml} :
    readAll (fun e => loadCase display e.1 (context ++ lit " case #" ++ decimal e.2))
      (rawCases.zipIdx 1) = .error .typeError ↔
    ∃ before rawCase after, rawCases = before ++ rawCase :: after ∧
      (∃ cases, List.Forall₂ CaseOf before cases) ∧ CaseTrips rawCase :=
  readAll_zipIdx_eq_error (R := CaseOf) (fun _ _ _ => loadCase_eq_ok_iff)
    (fun _ _ => loadCase_typeError_iff) 1

/-- **A route is loaded iff it is one.** -/
theorem loadRoute_eq_ok_iff {route : SessionGatewayRoute} :
    loadRoute display rawRoute context = .ok route ↔ RouteOf rawRoute route := by
  cases rawRoute with
  | dict entries =>
    rw [loadRoute_dict]
    simp only [RouteOf, bind_eq_ok_iff, pathOr_eq_ok, memberOf_eq_ok, optionalTextOr_eq_ok,
      itemsOr_eq_ok, loadCases_eq_ok_iff, Except.ok.injEq,
      Yaml.dict.injEq, exists_eq_left']
    constructor
    · rintro ⟨method, hmethod, path, hpath, owner, howner, exposure, hexposure, operationId,
        hoperationId, rawCases, ⟨hlist, hne⟩, cases, hcases, rfl⟩
      exact ⟨hmethod, hpath, howner, hexposure, hoperationId, rawCases, hlist, hne, hcases⟩
    · rintro ⟨hmethod, hpath, howner, hexposure, hoperationId, rawCases, hlist, hne, hcases⟩
      exact ⟨_, hmethod, _, hpath, _, howner, _, hexposure, _, hoperationId, _, ⟨hlist, hne⟩, _,
        hcases, rfl⟩
  | _ =>
    refine iff_of_false (fun h => nomatch h) ?_
    rintro ⟨entries, h, -⟩
    cases h

/-- **When a route raises a `TypeError`.** -/
theorem loadRoute_typeError_iff :
    loadRoute display rawRoute context = .error .typeError ↔ RouteTrips rawRoute := by
  unfold RouteTrips
  cases rawRoute with
  | dict entries =>
    rw [loadRoute_dict]
    simp only [bind_eq_error_iff, memberOf_typeError, memberOf_eq_ok, pathOr_eq_ok,
      pathOr_ne_typeError, optionalTextOr_eq_ok, optionalTextOr_ne_typeError, itemsOr_eq_ok,
      itemsOr_ne_typeError, false_or, reduceCtorEq, and_false, exists_false, or_false,
      loadCases_typeError_iff]
    constructor
    · rintro (hmethod | ⟨method, hmethod, path, hpath, howner | ⟨owner, howner,
        hexposure | ⟨exposure, hexposure, operationId, hoperationId, rawCases, ⟨hlist, hne⟩, before,
          rawCase, after, rfl, hbefore, htrips⟩⟩⟩)
      · exact ⟨entries, rfl, .inl hmethod⟩
      · exact ⟨entries, rfl, .inr ⟨⟨method, hmethod⟩, ⟨path, hpath⟩, .inl howner⟩⟩
      · exact ⟨entries, rfl, .inr ⟨⟨method, hmethod⟩, ⟨path, hpath⟩,
          .inr ⟨⟨owner, howner⟩, .inl hexposure⟩⟩⟩
      · refine ⟨entries, rfl, .inr ⟨⟨method, hmethod⟩, ⟨path, hpath⟩, .inr ⟨⟨owner, howner⟩,
          .inr ⟨⟨exposure, hexposure⟩, ?_, before, rawCase, after, hlist, hbefore, htrips⟩⟩⟩⟩
        rcases hoperationId with ⟨hnull, -⟩ | ⟨t, ht, -⟩
        · exact .inl hnull
        · exact .inr ⟨t, ht⟩
    · rintro ⟨_, heq, h⟩
      cases heq
      rcases h with hmethod | ⟨⟨method, hmethod⟩, ⟨path, hpath⟩, howner | ⟨⟨owner, howner⟩,
        hexposure | ⟨⟨exposure, hexposure⟩, hoperationId, before, rawCase, after, hlist, hbefore,
          htrips⟩⟩⟩
      · exact .inl hmethod
      · exact .inr ⟨method, hmethod, path, hpath, .inl howner⟩
      · exact .inr ⟨method, hmethod, path, hpath, .inr ⟨owner, howner, .inl hexposure⟩⟩
      · have hread : ∃ operationId, (yamlGet entries (lit "openapi_operation_id") = .null ∧
            operationId = none) ∨ ∃ t, IsText (yamlGet entries (lit "openapi_operation_id")) t ∧
              operationId = some t := by
          rcases hoperationId with hnull | ⟨t, ht⟩
          · exact ⟨none, .inl ⟨hnull, rfl⟩⟩
          · exact ⟨some t, .inr ⟨t, ht, rfl⟩⟩
        obtain ⟨operationId, hread⟩ := hread
        exact .inr ⟨method, hmethod, path, hpath, .inr ⟨owner, howner, .inr ⟨exposure, hexposure,
          operationId, hread, _, ⟨hlist, by simp⟩, before, rawCase, after, rfl, hbefore, htrips⟩⟩⟩
  | _ =>
    refine iff_of_false (fun h => nomatch h) ?_
    rintro ⟨entries, h, -⟩
    cases h

end Route

/-! ## The whole inventory -/

section Inventory

variable {display : Yaml → Text} {rawInventory : Yaml}

theorem casesOf_cons (route : SessionGatewayRoute) (routes : List SessionGatewayRoute) :
    casesOf (route :: routes) = route.cases ++ casesOf routes := rfl

/-- The ids of the cases are new. -/
def NewIds (seen cases : List SessionGatewayCase) : Prop :=
  ∀ c ∈ cases, ∀ s ∈ seen, s.caseId ≠ c.caseId

/-- A route in front: its ids are distinct and new, and so are the ids behind it. -/
theorem distinct_cons {seen : List SessionGatewayCase} {route : SessionGatewayRoute}
    {routes : List SessionGatewayRoute} :
    DistinctIds (route :: routes) ∧ NewIds seen (casesOf (route :: routes)) ↔
      ((route.cases.map SessionGatewayCase.caseId).Nodup ∧ NewIds seen route.cases) ∧
        DistinctIds routes ∧ NewIds (route.cases ++ seen) (casesOf routes) := by
  unfold DistinctIds NewIds
  simp only [casesOf_cons, List.map_append, List.nodup_append', List.forall_mem_append,
    List.disjoint_iff_ne, List.forall_mem_map]
  constructor
  · rintro ⟨⟨hcases, hroutes, hapart⟩, hnew, hnew'⟩
    exact ⟨⟨hcases, hnew⟩, hroutes, fun c hc => ⟨fun s hs => hapart s hs c hc, hnew' c hc⟩⟩
  · rintro ⟨⟨hcases, hnew⟩, hroutes, hnew'⟩
    exact ⟨⟨hcases, hroutes, fun s hs c hc => (hnew' c hc).1 s hs⟩, hnew, fun c hc => (hnew' c hc).2⟩

/-- **The loop over the routes** returns iff they are routes with new and distinct case ids. -/
theorem loadRoutes_eq_ok_iff {seen : List SessionGatewayCase} {rawRoutes : List Yaml}
    {routes : List SessionGatewayRoute} (n : Nat) :
    loadRoutes display seen (rawRoutes.zipIdx n) = .ok routes ↔
      List.Forall₂ RouteOf rawRoutes routes ∧ DistinctIds routes ∧ NewIds seen (casesOf routes) := by
  induction rawRoutes generalizing seen routes n with
  | nil =>
    rw [List.zipIdx_nil, loadRoutes, Except.ok.injEq, List.forall₂_nil_left_iff, eq_comm]
    refine ⟨?_, And.left⟩
    rintro rfl
    exact ⟨rfl, List.nodup_nil, fun c hc => absurd hc List.not_mem_nil⟩
  | cons rawRoute rawRoutes ih =>
    simp only [List.zipIdx_cons, loadRoutes, bind_eq_ok_iff, loadRoute_eq_ok_iff,
      collect_keys_eq_ok, ih, Except.ok.injEq, List.forall₂_cons_left_iff]
    constructor
    · rintro ⟨route, hroute, _, ⟨rfl, hnodup, hnew⟩, routes', ⟨hroutes, hdistinct, hnew'⟩, rfl⟩
      exact ⟨⟨route, routes', hroute, hroutes, rfl⟩,
        distinct_cons.mpr ⟨⟨hnodup, hnew⟩, hdistinct, hnew'⟩⟩
    · rintro ⟨⟨route, routes', hroute, hroutes, rfl⟩, hids⟩
      obtain ⟨⟨hnodup, hnew⟩, hdistinct, hnew'⟩ := distinct_cons.mp hids
      exact ⟨route, hroute, _, ⟨rfl, hnodup, hnew⟩, routes', ⟨hroutes, hdistinct, hnew'⟩, rfl⟩

/-- **When the loop over the routes raises a `TypeError`.** -/
theorem loadRoutes_typeError_iff {seen : List SessionGatewayCase} {rawRoutes : List Yaml} (n : Nat) :
    loadRoutes display seen (rawRoutes.zipIdx n) = .error .typeError ↔
      ∃ before rawRoute after, rawRoutes = before ++ rawRoute :: after ∧
        (∃ routes, List.Forall₂ RouteOf before routes ∧ DistinctIds routes ∧
          NewIds seen (casesOf routes)) ∧ RouteTrips rawRoute := by
  induction rawRoutes generalizing seen n with
  | nil => simp [loadRoutes]
  | cons rawRoute rawRoutes ih =>
    have hcollect : ∀ cases, collect .ok SessionGatewayCase.caseId duplicateCase .ok seen cases ≠
        .error .typeError := by
      intro cases h
      obtain ⟨b, b', heq⟩ := collect_keys_error h
      cases heq
    simp only [List.zipIdx_cons, loadRoutes, bind_eq_error_iff, loadRoute_typeError_iff,
      loadRoute_eq_ok_iff, hcollect, collect_keys_eq_ok, ih, false_or, reduceCtorEq, and_false,
      exists_false, or_false]
    constructor
    · rintro (htrips | ⟨route, hroute, _, ⟨rfl, hnodup, hnew⟩, before, rawRoute', after, rfl,
        ⟨routes, hroutes, hdistinct, hnew'⟩, htrips⟩)
      · exact ⟨[], rawRoute, rawRoutes, rfl,
          ⟨[], .nil, List.nodup_nil, fun c hc => absurd hc List.not_mem_nil⟩, htrips⟩
      · exact ⟨rawRoute :: before, rawRoute', after, rfl, ⟨route :: routes, .cons hroute hroutes,
          distinct_cons.mpr ⟨⟨hnodup, hnew⟩, hdistinct, hnew'⟩⟩, htrips⟩
    · rintro ⟨before, rawRoute', after, hsplit, ⟨routes, hroutes, hids⟩, htrips⟩
      cases hroutes with
      | nil =>
        obtain ⟨rfl, rfl⟩ := List.cons.inj hsplit
        exact .inl htrips
      | cons hroute hroutes =>
        obtain ⟨rfl, rfl⟩ := List.cons.inj hsplit
        obtain ⟨⟨hnodup, hnew⟩, hdistinct, hnew'⟩ := distinct_cons.mp hids
        exact .inr ⟨_, hroute, _, ⟨rfl, hnodup, hnew⟩, _, rawRoute', after, rfl,
          ⟨_, hroutes, hdistinct, hnew'⟩, htrips⟩

theorem newIds_nil (cases : List SessionGatewayCase) : NewIds [] cases :=
  fun _ _ _ hs => absurd hs List.not_mem_nil

/-- **The loader returns iff the value is an inventory**, and then the routes it stands for. -/
theorem loadSessionGatewayInventory_eq_ok_iff (display : Yaml → Text) (path : Text)
    {routes : List SessionGatewayRoute} :
    loadSessionGatewayInventory display path rawInventory = .ok routes ↔
      InventoryOf rawInventory routes := by
  unfold loadSessionGatewayInventory InventoryOf
  split
  next entries =>
    simp only [Yaml.dict.injEq, exists_and_left, exists_eq_left']
    split
    next rawRoutes hraw =>
      simp only [hraw, Yaml.list.injEq, exists_eq_left', loadRoutes_eq_ok_iff, newIds_nil, and_true]
    next hother =>
      refine iff_of_false (fun h => nomatch h) ?_
      rintro ⟨rawRoutes, hraw, -⟩
      exact hother rawRoutes hraw
  next hother =>
    refine iff_of_false (fun h => nomatch h) ?_
    rintro ⟨entries, rawRoutes, rfl, -⟩
    exact hother entries rfl

/-- **When the loader raises a `TypeError`.** -/
theorem loadSessionGatewayInventory_typeError_iff (display : Yaml → Text) (path : Text) :
    loadSessionGatewayInventory display path rawInventory = .error .typeError ↔
      InventoryTrips rawInventory := by
  unfold loadSessionGatewayInventory InventoryTrips
  split
  next entries =>
    split
    next rawRoutes hraw =>
      simp only [loadRoutes_typeError_iff, newIds_nil, and_true]
      constructor
      · rintro ⟨before, rawRoute, after, rfl, hbefore, htrips⟩
        exact ⟨entries, before, rawRoute, after, rfl, hraw, hbefore, htrips⟩
      · rintro ⟨_, before, rawRoute, after, heq, hlist, hbefore, htrips⟩
        cases heq
        rw [hraw, Yaml.list.injEq] at hlist
        exact ⟨before, rawRoute, after, hlist, hbefore, htrips⟩
    next hother =>
      refine iff_of_false (fun h => nomatch h) ?_
      rintro ⟨_, before, rawRoute, after, heq, hlist, -⟩
      cases heq
      exact hother _ hlist
  next hother =>
    refine iff_of_false (fun h => nomatch h) ?_
    rintro ⟨entries, before, rawRoute, after, rfl, -⟩
    exact hother entries rfl

/-- **The loader accepts exactly the inventories, and every other value is a `ValueError`**, iff
nothing in front of the first fault trips. -/
theorem inventory_grammar_iff (display : Yaml → Text) (path : Text) (rawInventory : Yaml) :
    ((∀ routes, loadSessionGatewayInventory display path rawInventory = .ok routes ↔
        InventoryOf rawInventory routes) ∧
      ((¬ ∃ routes, InventoryOf rawInventory routes) → ∃ message,
        loadSessionGatewayInventory display path rawInventory = .error (.valueError message))) ↔
    ¬ InventoryTrips rawInventory := by
  rw [← loadSessionGatewayInventory_typeError_iff display path,
    and_iff_right fun routes => loadSessionGatewayInventory_eq_ok_iff display path]
  simp only [← loadSessionGatewayInventory_eq_ok_iff display path]
  cases loadSessionGatewayInventory display path rawInventory with
  | ok routes => simp
  | error e => cases e <;> simp

/-- `routes: [{method: []}]`. -/
def listMethod : Yaml :=
  .dict [(.text (lit "routes"), .list [.dict [(.text (lit "method"), .list [])]])]

/-- A method that is a list is no inventory, and no `ValueError` either. -/
theorem listMethod_typeError : (¬ ∃ routes, InventoryOf listMethod routes) ∧
    loadSessionGatewayInventory (fun _ => lit "[]") (lit "inventory.yaml") listMethod =
      .error .typeError := by
  have hload : loadSessionGatewayInventory (fun _ => lit "[]") (lit "inventory.yaml") listMethod =
      .error .typeError := rfl
  refine ⟨fun ⟨routes, h⟩ => ?_, hload⟩
  rw [← loadSessionGatewayInventory_eq_ok_iff (fun _ => lit "[]") (lit "inventory.yaml"), hload] at h
  cases h

end Inventory

end ApiTests.Coverage
