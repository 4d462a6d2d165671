import ApiTests.Coverage.Markers

/-!
# Markers read from the syntax and markers of the run

Model of `pytest_collection_modifyitems` (`pytest_plugin.py:79-129`), as far as it reads `openapi`
marks; the other marks it checks in the same loop are left out, with the errors they raise. pytest
gives an item one mark for each decorator `pytest.mark.NAME` or `pytest.mark.NAME(literals)`, the
lowest first, and here collects the functions `test*` that stand in the module itself.

Results:
* `collect_rejects_iff`, `modifyitems_rejects_iff`: which decorators either side rejects.
* `flagged_perm_iff`: when two flags per function give the same entries.
* **`markers_agree`**: exactly when the two sides agree on a module.
-/

namespace ApiTests.Coverage

open Py OpenApi

/-- What a literal evaluates to. -/
inductive Value where
  | str (t : Text)
  | other (hashable : Bool)
  deriving Repr, DecidableEq

/-- `pytest.Mark`. -/
structure Mark where
  name : Text
  args : List Value
  kwargs : List (Text × Value)
  deriving Repr, DecidableEq

/-- `pytest.Item`. -/
structure Item where
  nodeid : Text
  marks : List Mark
  deriving Repr, DecidableEq

/-- What the hook raises: a `pytest.UsageError`, or the `TypeError` of hashing a value. -/
inductive CollectionError where
  | usageError (message : Text)
  | typeError
  deriving Repr, DecidableEq

def literalValue? : Expr → Option Value
  | .str t => some (.str t)
  | .literal hashable => some (.other hashable)
  | _ => none

def keywordValue? (keyword : Option Text × Expr) : Option (Text × Value) :=
  match keyword.1, literalValue? keyword.2 with
  | some name, some value => some (name, value)
  | _, _ => none

/-- The name in `pytest.mark.NAME`. -/
def markName? (node : Expr) : Option Text :=
  match node with
  | .attribute (.attribute (.name id) attr) name =>
    if attr = lit "mark" ∧ id = lit "pytest" then some name else none
  | _ => none

/-- The mark a decorator gives, if it is of the two forms. -/
def mark? (decorator : Expr) : Option Mark :=
  match decorator with
  | .call func args keywords =>
    (markName? func).map fun name =>
      ⟨name, args.filterMap literalValue?, keywords.filterMap keywordValue?⟩
  | func => (markName? func).map fun name => ⟨name, [], []⟩

/-- pytest's own pattern of test names. -/
def FunctionSite.IsTest (site : FunctionSite) : Prop := site.scope = [] ∧ lit "test" <+: site.name

instance (site : FunctionSite) : Decidable site.IsTest := inferInstanceAs (Decidable (_ ∧ _))

/-- The functions pytest collects from a module. -/
def collectedTests (module : List Stmt) : List FunctionSite :=
  (topLevelFunctions module).filter fun site => lit "test" <+: site.name

/-- The item of a test. -/
def itemOf (file : Text) (site : FunctionSite) : Item :=
  { nodeid := file ++ lit "::" ++ site.name, marks := site.decorators.reverse.filterMap mark? }

/-- `_openapi_marker_operation` of the plugin. -/
def openapiMarkOperation (marker : Mark) (item : Item) :
    Except CollectionError (OpenApiContractKey × Text) :=
  match marker.args with
  | [.str (c :: t)] =>
    if marker.kwargs.any fun e => e.1 ≠ lit "contract" then
      .error (.usageError (item.nodeid ++
        lit ": @pytest.mark.openapi accepts only the contract keyword"))
    else
      match marker.kwargs.lookup (lit "contract") with
      | none => .ok (.unified, c :: t)
      | some (.other false) => .error .typeError
      | some (.other true) => .error (.usageError (item.nodeid ++
          lit ": @pytest.mark.openapi contract must be 'unified' or 'session_gateway'"))
      | some (.str rawContract) =>
        match readContractKey rawContract with
        | some contract => .ok (contract, c :: t)
        | none => .error (.usageError (item.nodeid ++
            lit ": @pytest.mark.openapi contract must be 'unified' or 'session_gateway'"))
  | [_] => .error (.usageError (item.nodeid ++
      lit ": @pytest.mark.openapi operation id must be a non-empty string"))
  | _ => .error (.usageError (item.nodeid ++
      lit ": @pytest.mark.openapi requires exactly one positional operation id"))

/-- The entries of one item. -/
def itemMarkers (item : Item) : Except CollectionError (List (OpenApiContractKey × Text × Bool)) := do
  let isPlaceholder := item.marks.any fun m => m.name = lit "placeholder"
  let operations ← readAll (fun m => openapiMarkOperation m item)
    (item.marks.filter fun m => m.name = lit "openapi")
  .ok (operations.map fun o => (o.1, o.2, isPlaceholder))

/-- `pytest_collection_modifyitems`, its entries before they are counted. -/
def pytestCollectionModifyitems (items : List Item) :
    Except CollectionError (List (OpenApiContractKey × Text × Bool)) := do
  let markers ← readAll itemMarkers items
  .ok markers.flatten

/-! ## Decorators with literal arguments -/

/-- A called mark has literal arguments, and keywords with distinct names. -/
def LiteralMark (decorator : Expr) : Prop :=
  ∀ name args keywords, decorator = .call (pytestMark name) args keywords →
    (∀ a ∈ args, ∃ v, literalValue? a = some v) ∧
      (∀ k ∈ keywords, ∃ e, keywordValue? k = some e) ∧ (keywords.map Prod.fst).Nodup

/-- **A test module whose marks are literal.** -/
structure TestModule where
  body : List Stmt
  literal : ∀ site ∈ walk body, ∀ d ∈ site.decorators, LiteralMark d

/-- The decorator is `@pytest.mark.openapi` without a call, or names the empty operation id. -/
def Lenient (decorator : Expr) : Prop :=
  decorator = pytestMark (lit "openapi") ∨ ∃ contract, Names ⟨contract, []⟩ decorator

/-- The decorator calls `pytest.mark.openapi` and names no operation. -/
def Malformed (decorator : Expr) : Prop :=
  Calls (lit "openapi") decorator ∧ ¬ ∃ key, Names key decorator

/-- The operation a decorator names. -/
def key? (decorator : Expr) : Option OperationKey :=
  match openapiMarkerOperation decorator with
  | .ok operation => operation
  | .error _ => none

theorem key?_eq_some {decorator : Expr} {key : OperationKey} :
    key? decorator = some key ↔ Names key decorator := by
  unfold key?
  constructor
  · intro h
    cases hok : openapiMarkerOperation decorator with
    | error e =>
      rw [hok] at h
      cases h
    | ok operation =>
      rw [hok] at h
      obtain rfl : operation = some key := h
      rcases openapiMarkerOperation_eq_ok.mp hok with ⟨hnone, -⟩ | ⟨key', hsome, hnames⟩
      · cases hnone
      · cases hsome
        exact hnames
  · intro h
    rw [openapiMarkerOperation_of_names h]

theorem key?_eq_none {decorator : Expr} (h : ¬ Calls (lit "openapi") decorator) :
    key? decorator = none := by
  rw [Option.eq_none_iff_forall_ne_some]
  exact fun key hkey => h (key?_eq_some.mp hkey).calls

/-! ## The syntax side -/

theorem openapiMarkerOperation_eq_ok_iff {decorator : Expr} {operation : Option OperationKey} :
    openapiMarkerOperation decorator = .ok operation ↔
      ¬ Malformed decorator ∧ operation = key? decorator := by
  rw [openapiMarkerOperation_eq_ok]
  constructor
  · rintro (⟨rfl, hnot⟩ | ⟨key, rfl, hnames⟩)
    · exact ⟨fun h => hnot h.1, (key?_eq_none hnot).symm⟩
    · exact ⟨fun h => h.2 ⟨key, hnames⟩, (key?_eq_some.mpr hnames).symm⟩
  · rintro ⟨hwell, rfl⟩
    by_cases hcalls : Calls (lit "openapi") decorator
    · right
      have hnamed : ∃ key, Names key decorator := by
        by_contra hno
        exact hwell ⟨hcalls, hno⟩
      exact hnamed.imp fun key hkey => ⟨key?_eq_some.mpr hkey, hkey⟩
    · exact Or.inl ⟨key?_eq_none hcalls, hcalls⟩

/-- The operations a function's decorators name. -/
def keysOf (site : FunctionSite) : List OperationKey := site.decorators.filterMap key?

/-- The flag of the syntax side: a bare `placeholder`. -/
def barePlaceholder (site : FunctionSite) : Bool :=
  site.decorators.any fun d => isPytestMarker d (lit "placeholder")

/-- The entry of an operation. -/
def entry (isPlaceholder : Bool) (key : OperationKey) : OpenApiContractKey × Text × Bool :=
  (key.contract, key.operationId, isPlaceholder)

theorem functionMarkers_eq_ok {site : FunctionSite}
    {entries : List (OpenApiContractKey × Text × Bool)} :
    functionMarkers site = .ok entries ↔ (∀ d ∈ site.decorators, ¬ Malformed d) ∧
      entries = (keysOf site).map (entry (barePlaceholder site)) := by
  have hread : ∀ d ∈ site.decorators, ∀ o, openapiMarkerOperation d = .ok o ↔
      ¬ Malformed d ∧ o = key? d := fun _ _ _ => openapiMarkerOperation_eq_ok_iff
  simp only [functionMarkers, bind_eq_ok_iff, readAll_eq_map hread, Except.ok.injEq]
  constructor
  · rintro ⟨_, ⟨hwell, rfl⟩, rfl⟩
    refine ⟨hwell, ?_⟩
    rw [List.reduceOption, List.filterMap_map]
    rfl
  · rintro ⟨hwell, rfl⟩
    refine ⟨_, ⟨hwell, rfl⟩, ?_⟩
    rw [List.reduceOption, List.filterMap_map]
    rfl

/-- **What the syntax side returns.** -/
theorem collectOpenapiMarkersFromFile_eq_ok {body : List Stmt}
    {entries : List (OpenApiContractKey × Text × Bool)} :
    collectOpenapiMarkersFromFile body = .ok entries ↔
      (∀ site ∈ walk body, ∀ d ∈ site.decorators, ¬ Malformed d) ∧
        entries = (walk body).flatMap fun site => (keysOf site).map (entry (barePlaceholder site)) := by
  have hread : ∀ site ∈ walk body, ∀ entries, functionMarkers site = .ok entries ↔
      (∀ d ∈ site.decorators, ¬ Malformed d) ∧
        entries = (keysOf site).map (entry (barePlaceholder site)) :=
    fun _ _ _ => functionMarkers_eq_ok
  simp only [collectOpenapiMarkersFromFile, bind_eq_ok_iff, readAll_eq_map hread, Except.ok.injEq]
  constructor
  · rintro ⟨_, ⟨hwell, rfl⟩, rfl⟩
    exact ⟨hwell, (List.flatMap_def ..).symm⟩
  · rintro ⟨hwell, rfl⟩
    exact ⟨_, ⟨hwell, rfl⟩, (List.flatMap_def ..).symm⟩

/-! ## The side of the run -/

theorem markName?_eq_some {node : Expr} {name : Text} :
    markName? node = some name ↔ node = pytestMark name := by
  constructor
  · intro h
    unfold markName? at h
    split at h
    · split at h
      · rename_i hpytest
        obtain ⟨rfl, rfl⟩ := hpytest
        cases h
        rfl
      · cases h
    · cases h
  · rintro rfl
    simp [markName?, pytestMark]

/-- A decorator gives a mark of a name iff it is one of the two forms with that name. -/
theorem mark?_eq_some {decorator : Expr} {mark : Mark} :
    mark? decorator = some mark ↔
      (decorator = pytestMark mark.name ∧ mark.args = [] ∧ mark.kwargs = []) ∨
        ∃ args keywords, decorator = .call (pytestMark mark.name) args keywords ∧
          mark.args = args.filterMap literalValue? ∧
          mark.kwargs = keywords.filterMap keywordValue? := by
  obtain ⟨name, args, kwargs⟩ := mark
  constructor
  · intro h
    unfold mark? at h
    split at h
    · obtain ⟨name', hname, heq⟩ := Option.map_eq_some_iff.mp h
      cases heq
      exact Or.inr ⟨_, _, by rw [markName?_eq_some.mp hname], rfl, rfl⟩
    · obtain ⟨name', hname, heq⟩ := Option.map_eq_some_iff.mp h
      cases heq
      exact Or.inl ⟨markName?_eq_some.mp hname, rfl, rfl⟩
  · rintro (⟨rfl, rfl, rfl⟩ | ⟨args', keywords', rfl, rfl, rfl⟩)
    · simp [mark?, markName?, pytestMark]
    · simp [mark?, markName?, pytestMark]

/-- Keywords that evaluate, and name nothing but the contract. -/
theorem keywords_eq_of_only_contract {keywords : List (Option Text × Expr)}
    (hliteral : ∀ k ∈ keywords, ∃ e, keywordValue? k = some e)
    (hdistinct : (keywords.map Prod.fst).Nodup)
    (honly : ∀ e ∈ keywords.filterMap keywordValue?, e.1 = lit "contract") :
    keywords = [] ∨ ∃ expr value, keywords = [(some (lit "contract"), expr)] ∧
      literalValue? expr = some value := by
  have hname : ∀ k ∈ keywords, k.1 = some (lit "contract") ∧
      ∃ value, literalValue? k.2 = some value := by
    intro k hk
    obtain ⟨e, he⟩ := hliteral k hk
    have hcontract := honly e (List.mem_filterMap.mpr ⟨k, hk, he⟩)
    unfold keywordValue? at he
    split at he
    · rename_i hfst hsnd
      cases he
      exact ⟨hfst.trans (congrArg some hcontract), _, hsnd⟩
    · cases he
  match keywords, hdistinct, hname with
  | [], _, _ => exact Or.inl rfl
  | [(name, expr)], _, hname =>
    obtain ⟨hfst, value, hvalue⟩ := hname _ List.mem_cons_self
    obtain rfl : name = some (lit "contract") := hfst
    exact Or.inr ⟨expr, value, rfl, hvalue⟩
  | k :: k' :: rest, hdistinct, hname =>
    have hk := (hname k List.mem_cons_self).1
    have hk' := (hname k' (List.mem_cons_of_mem _ List.mem_cons_self)).1
    simp [hk, hk'] at hdistinct

/-- A list that evaluates throughout, to one value. -/
theorem eq_singleton_of_filterMap {α β : Type} {f : α → Option β} {l : List α} {b : β}
    (hall : ∀ a ∈ l, ∃ b, f a = some b) (h : l.filterMap f = [b]) : ∃ a, l = [a] ∧ f a = some b := by
  match l, hall, h with
  | [], _, h => cases h
  | [a], hall, h =>
    obtain ⟨b', hb'⟩ := hall a List.mem_cons_self
    rw [List.filterMap_cons_some hb'] at h
    cases h
    exact ⟨a, rfl, hb'⟩
  | a :: a' :: rest, hall, h =>
    obtain ⟨b', hb'⟩ := hall a List.mem_cons_self
    obtain ⟨b'', hb''⟩ := hall a' (List.mem_cons_of_mem _ List.mem_cons_self)
    rw [List.filterMap_cons_some hb', List.filterMap_cons_some hb''] at h
    cases h

theorem literalValue?_eq_str {expr : Expr} {t : Text} :
    literalValue? expr = some (.str t) ↔ expr = .str t := by
  cases expr <;> simp [literalValue?]

/-- **What the plugin reads from a mark**, against the decorator it comes from. -/
theorem openapiMarkOperation_eq_ok {decorator : Expr} (hliteral : LiteralMark decorator) {mark : Mark}
    (hmark : mark? decorator = some mark) (hname : mark.name = lit "openapi") {item : Item}
    {operation : OpenApiContractKey × Text} :
    openapiMarkOperation mark item = .ok operation ↔
      Names ⟨operation.1, operation.2⟩ decorator ∧ operation.2 ≠ [] := by
  obtain ⟨contract, id⟩ := operation
  rcases mark?_eq_some.mp hmark with ⟨hbare, hargs, -⟩ | ⟨args, keywords, hcall, hargs, hkwargs⟩
  · constructor
    · intro h
      rw [openapiMarkOperation, hargs] at h
      cases h
    · rintro ⟨⟨keywords, hcall, -⟩, -⟩
      rw [hbare] at hcall
      cases hcall
  · rw [hname] at hcall
    obtain ⟨hliteralArgs, hliteralKeywords, hdistinct⟩ := hliteral _ _ _ hcall
    constructor
    · intro h
      unfold openapiMarkOperation at h
      split at h
      · rename_i c t hsingle
        split at h
        · cases h
        · rename_i hany
          have honly : ∀ e ∈ keywords.filterMap keywordValue?, e.1 = lit "contract" := by
            rw [← hkwargs]
            simpa using hany
          obtain ⟨a, rfl, ha⟩ := eq_singleton_of_filterMap hliteralArgs (hargs ▸ hsingle)
          obtain rfl := literalValue?_eq_str.mp ha
          rcases keywords_eq_of_only_contract hliteralKeywords hdistinct honly with
            rfl | ⟨expr, value, rfl, hvalue⟩
          · simp only [hkwargs, List.filterMap_nil, List.lookup_nil] at h
            cases h
            exact ⟨⟨[], hcall, Or.inl ⟨rfl, rfl⟩⟩, List.cons_ne_nil _ _⟩
          · simp only [hkwargs, List.filterMap_cons, List.filterMap_nil, keywordValue?, hvalue,
              List.lookup_cons_self] at h
            cases value with
            | str raw =>
              obtain rfl := literalValue?_eq_str.mp hvalue
              cases hcontract : readContractKey raw with
              | none =>
                simp only [hcontract] at h
                cases h
              | some contract' =>
                simp only [hcontract] at h
                cases h
                exact ⟨⟨_, hcall, Or.inr ⟨raw, rfl, hcontract⟩⟩, List.cons_ne_nil _ _⟩
            | other hashable => cases hashable <;> cases h
      · cases h
      · cases h
    · rintro ⟨⟨keywords', hcall', hcontract⟩, hne⟩
      rw [hcall] at hcall'
      cases hcall'
      obtain ⟨c, t, rfl⟩ := List.exists_cons_of_ne_nil hne
      rcases hcontract with ⟨rfl, rfl⟩ | ⟨raw, rfl, hraw⟩
      · simp [openapiMarkOperation, hargs, hkwargs, literalValue?]
      · simp [openapiMarkOperation, hargs, hkwargs, literalValue?, keywordValue?, hraw]

/-- A decorator without an `openapi` mark. -/
theorem key?_of_other {decorator : Expr}
    (h : ∀ mark, mark? decorator = some mark → mark.name ≠ lit "openapi") :
    key? decorator = none ∧ ¬ Malformed decorator ∧ ¬ Lenient decorator := by
  have hcalls : ¬ Calls (lit "openapi") decorator := by
    rintro ⟨args, keywords, hcall⟩
    exact h ⟨lit "openapi", _, _⟩ (mark?_eq_some.mpr (Or.inr ⟨args, keywords, hcall, rfl, rfl⟩)) rfl
  refine ⟨key?_eq_none hcalls, fun hmalformed => hcalls hmalformed.1, ?_⟩
  rintro (hbare | ⟨contract, hnames⟩)
  · exact h ⟨lit "openapi", [], []⟩ (mark?_eq_some.mpr (Or.inl ⟨hbare, rfl, rfl⟩)) rfl
  · exact hcalls hnames.calls

/-- The plugin over the marks of some decorators. -/
theorem readAll_openapiMarkOperation {decorators : List Expr}
    (hliteral : ∀ d ∈ decorators, LiteralMark d) {item : Item}
    {operations : List (OpenApiContractKey × Text)} :
    readAll (fun m => openapiMarkOperation m item)
        ((decorators.filterMap mark?).filter fun m => m.name = lit "openapi") = .ok operations ↔
      (∀ d ∈ decorators, ¬ Malformed d ∧ ¬ Lenient d) ∧
        operations = (decorators.filterMap key?).map fun key => (key.contract, key.operationId) := by
  induction decorators generalizing operations with
  | nil => simp [readAll, eq_comm]
  | cons d decorators ih =>
    rw [List.forall_mem_cons] at hliteral
    have hskip : (∀ mark, mark? d = some mark → mark.name ≠ lit "openapi") →
        ((d :: decorators).filterMap mark?).filter (fun m => m.name = lit "openapi") =
          (decorators.filterMap mark?).filter fun m => m.name = lit "openapi" := by
      intro hother
      cases hmark : mark? d with
      | none => rw [List.filterMap_cons_none hmark]
      | some mark =>
        rw [List.filterMap_cons_some hmark, List.filter_cons_of_neg (by simp [hother mark hmark])]
    by_cases hopenapi : ∃ mark, mark? d = some mark ∧ mark.name = lit "openapi"
    · obtain ⟨mark, hmark, hname⟩ := hopenapi
      rw [List.filterMap_cons_some hmark, List.filter_cons_of_pos (by simp [hname]),
        List.forall_mem_cons]
      simp only [readAll, bind_eq_ok_iff, ih hliteral.2, Except.ok.injEq,
        openapiMarkOperation_eq_ok hliteral.1 hmark hname]
      constructor
      · rintro ⟨⟨contract, id⟩, ⟨hnames, hne⟩, _, ⟨hrest, rfl⟩, rfl⟩
        have hstrict : ¬ Lenient d := by
          rintro (hbare | ⟨contract', hempty⟩)
          · obtain ⟨args, keywords, hcall⟩ := hnames.calls
            rw [hbare] at hcall
            cases hcall
          · exact hne (congrArg OperationKey.operationId (hnames.unique hempty))
        refine ⟨⟨⟨fun hmalformed => hmalformed.2 ⟨_, hnames⟩, hstrict⟩, hrest⟩, ?_⟩
        rw [List.filterMap_cons_some (key?_eq_some.mpr hnames)]
        rfl
      · rintro ⟨⟨⟨hwell, hstrict⟩, hrest⟩, rfl⟩
        have hcalls : Calls (lit "openapi") d := by
          rcases mark?_eq_some.mp hmark with ⟨hbare, -, -⟩ | ⟨args, keywords, hcall, -, -⟩
          · exact absurd (Or.inl (hname ▸ hbare)) hstrict
          · exact ⟨args, keywords, hname ▸ hcall⟩
        have hnamed : ∃ key, Names key d := by
          by_contra hno
          exact hwell ⟨hcalls, hno⟩
        obtain ⟨⟨contract, id⟩, hnames⟩ := hnamed
        have hne : id ≠ [] := by
          rintro rfl
          exact hstrict (Or.inr ⟨contract, hnames⟩)
        refine ⟨(contract, id), ⟨hnames, hne⟩, _, ⟨hrest, rfl⟩, ?_⟩
        rw [List.filterMap_cons_some (key?_eq_some.mpr hnames)]
        rfl
    · have hother : ∀ mark, mark? d = some mark → mark.name ≠ lit "openapi" :=
        fun mark hmark hname => hopenapi ⟨mark, hmark, hname⟩
      obtain ⟨hkey, hwell, hstrict⟩ := key?_of_other hother
      rw [hskip hother, ih hliteral.2, List.filterMap_cons_none hkey, List.forall_mem_cons]
      constructor
      · rintro ⟨hrest, heq⟩
        exact ⟨⟨⟨hwell, hstrict⟩, hrest⟩, heq⟩
      · rintro ⟨⟨-, hrest⟩, heq⟩
        exact ⟨hrest, heq⟩

/-- The flag of the run: any mark `placeholder`. -/
def markedPlaceholder (site : FunctionSite) : Bool :=
  (site.decorators.reverse.filterMap mark?).any fun m => m.name = lit "placeholder"

theorem markedPlaceholder_iff {site : FunctionSite} :
    markedPlaceholder site = true ↔ CarriesPlaceholder site := by
  simp only [markedPlaceholder, List.any_eq_true, List.mem_filterMap, List.mem_reverse,
    decide_eq_true_eq]
  constructor
  · rintro ⟨mark, ⟨d, hd, hmark⟩, hname⟩
    rcases mark?_eq_some.mp hmark with ⟨hbare, -, -⟩ | ⟨args, keywords, hcall, -, -⟩
    · exact ⟨d, hd, Or.inl (hname ▸ hbare)⟩
    · exact ⟨d, hd, Or.inr ⟨args, keywords, hname ▸ hcall⟩⟩
  · rintro ⟨d, hd, hbare | ⟨args, keywords, hcall⟩⟩
    · exact ⟨⟨lit "placeholder", [], []⟩, ⟨d, hd, mark?_eq_some.mpr (Or.inl ⟨hbare, rfl, rfl⟩)⟩, rfl⟩
    · exact ⟨⟨lit "placeholder", _, _⟩, ⟨d, hd, mark?_eq_some.mpr
        (Or.inr ⟨args, keywords, hcall, rfl, rfl⟩)⟩, rfl⟩

theorem barePlaceholder_iff {site : FunctionSite} :
    barePlaceholder site = true ↔ pytestMark (lit "placeholder") ∈ site.decorators := by
  simp only [barePlaceholder, List.any_eq_true, isPytestMarker_iff, exists_eq_right]

/-- The syntax side sees no placeholder the run does not. -/
theorem marked_of_bare {site : FunctionSite} (h : barePlaceholder site = true) :
    markedPlaceholder site = true :=
  markedPlaceholder_iff.mpr ⟨_, barePlaceholder_iff.mp h, Or.inl rfl⟩

theorem itemMarkers_eq_ok {site : FunctionSite} (hliteral : ∀ d ∈ site.decorators, LiteralMark d)
    {file : Text} {entries : List (OpenApiContractKey × Text × Bool)} :
    itemMarkers (itemOf file site) = .ok entries ↔
      (∀ d ∈ site.decorators, ¬ Malformed d ∧ ¬ Lenient d) ∧
        entries = (keysOf site).reverse.map (entry (markedPlaceholder site)) := by
  have hreverse : ∀ d ∈ site.decorators.reverse, LiteralMark d :=
    fun d hd => hliteral d (List.mem_reverse.mp hd)
  have hkeys : site.decorators.reverse.filterMap key? = (keysOf site).reverse :=
    List.filterMap_reverse
  simp only [itemMarkers, itemOf, bind_eq_ok_iff, readAll_openapiMarkOperation hreverse,
    List.mem_reverse, Except.ok.injEq, hkeys]
  constructor
  · rintro ⟨_, ⟨hall, rfl⟩, rfl⟩
    rw [List.map_map]
    exact ⟨hall, rfl⟩
  · rintro ⟨hall, rfl⟩
    refine ⟨_, ⟨hall, rfl⟩, ?_⟩
    rw [List.map_map]
    rfl

/-- The items of a module. -/
def TestModule.items (module : TestModule) (file : Text) : List Item :=
  (collectedTests module.body).map (itemOf file)

/-- **The walk meets the collected tests once each.** -/
theorem walk_tests_perm (body : List Stmt) :
    ((walk body).filter fun site => site.IsTest).Perm (collectedTests body) := by
  have hsplit : ((walk body).filter fun site => site.IsTest) =
      ((walk body).filter fun site => site.scope = []).filter fun site =>
        lit "test" <+: site.name := by
    rw [List.filter_filter]
    refine List.filter_congr fun site _ => ?_
    rw [Bool.and_comm, ← Bool.decide_and]
    rfl
  rw [hsplit]
  exact (walk_topLevel_perm body).filter _

theorem mem_collectedTests {body : List Stmt} {site : FunctionSite} :
    site ∈ collectedTests body ↔ site ∈ walk body ∧ site.IsTest := by
  rw [← (walk_tests_perm body).mem_iff, List.mem_filter, decide_eq_true_eq]

/-- **What the run returns.** -/
theorem modifyitems_eq_ok {module : TestModule} (file : Text)
    {entries : List (OpenApiContractKey × Text × Bool)} :
    pytestCollectionModifyitems (module.items file) = .ok entries ↔
      (∀ site ∈ collectedTests module.body, ∀ d ∈ site.decorators, ¬ Malformed d ∧ ¬ Lenient d) ∧
        entries = (collectedTests module.body).flatMap fun site =>
          (keysOf site).reverse.map (entry (markedPlaceholder site)) := by
  have hreadSites : ∀ {sites : List FunctionSite}, (∀ site ∈ sites, site ∈ walk module.body) →
      ∀ {markers}, readAll itemMarkers (sites.map (itemOf file)) = .ok markers ↔
        (∀ site ∈ sites, ∀ d ∈ site.decorators, ¬ Malformed d ∧ ¬ Lenient d) ∧
          markers = sites.map fun site =>
            (keysOf site).reverse.map (entry (markedPlaceholder site)) := by
    intro sites hsites markers
    rw [readAll_map]
    exact readAll_eq_map fun site hsite _ => itemMarkers_eq_ok (module.literal site (hsites site hsite))
  have hwalk : ∀ site ∈ collectedTests module.body, site ∈ walk module.body :=
    fun site hsite => (mem_collectedTests.mp hsite).1
  simp only [pytestCollectionModifyitems, TestModule.items, bind_eq_ok_iff, hreadSites hwalk,
    Except.ok.injEq]
  constructor
  · rintro ⟨_, ⟨hall, rfl⟩, rfl⟩
    exact ⟨hall, (List.flatMap_def ..).symm⟩
  · rintro ⟨hall, rfl⟩
    exact ⟨_, ⟨hall, rfl⟩, (List.flatMap_def ..).symm⟩

/-! ## Entries with two flags -/

section Flags

variable {syntaxFlag runFlag : FunctionSite → Bool}

theorem countP_flagged (flag : Bool) (keys : List OperationKey) :
    (keys.map (entry flag)).countP (fun e => e.2.2) = if flag then keys.length else 0 := by
  rw [List.countP_map]
  cases flag with
  | true => exact List.countP_eq_length.mpr fun _ _ => rfl
  | false => exact List.countP_eq_zero.mpr fun _ _ => Bool.false_ne_true

/-- The entries that are flagged on either side, when one flag implies the other. -/
theorem countP_flags (himp : ∀ site, syntaxFlag site = true → runFlag site = true)
    (tests : List FunctionSite) :
    (tests.flatMap fun t => (keysOf t).map (entry (syntaxFlag t))).countP (fun e => e.2.2) ≤
        (tests.flatMap fun t => (keysOf t).reverse.map (entry (runFlag t))).countP (fun e => e.2.2) ∧
      ((tests.flatMap fun t => (keysOf t).map (entry (syntaxFlag t))).countP (fun e => e.2.2) =
          (tests.flatMap fun t => (keysOf t).reverse.map (entry (runFlag t))).countP
            (fun e => e.2.2) →
        ∀ t ∈ tests, keysOf t ≠ [] → syntaxFlag t = runFlag t) := by
  induction tests with
  | nil => simp
  | cons t tests ih =>
    obtain ⟨hle, heq⟩ := ih
    simp only [List.flatMap_cons, List.countP_append, countP_flagged, List.length_reverse]
    have hhead : (if syntaxFlag t then (keysOf t).length else 0) ≤
        if runFlag t then (keysOf t).length else 0 := by
      by_cases hflag : syntaxFlag t = true
      · rw [if_pos hflag, if_pos (himp t hflag)]
      · rw [if_neg hflag]
        exact Nat.zero_le _
    refine ⟨Nat.add_le_add hhead hle, fun hsum => ?_⟩
    have hrest := heq (by omega)
    have hsame : (if syntaxFlag t then (keysOf t).length else 0) =
        if runFlag t then (keysOf t).length else 0 := by omega
    rintro t' (_ | ⟨_, ht'⟩) hkeys
    · have hlength : (keysOf t).length ≠ 0 := fun h => hkeys (List.length_eq_zero_iff.mp h)
      cases hs : syntaxFlag t with
      | true => exact (himp t hs).symm
      | false =>
        cases hr : runFlag t with
        | false => rfl
        | true =>
          rw [hs, hr] at hsame
          exact absurd hsame.symm hlength
    · exact hrest t' ht' hkeys

/-- **When the two sides have the same entries**: no entry beside the tests, and the flags agree on
every test with an entry. -/
theorem flagged_perm_iff (himp : ∀ site, syntaxFlag site = true → runFlag site = true)
    (tests others : List FunctionSite) :
    ((tests.flatMap fun t => (keysOf t).map (entry (syntaxFlag t))) ++
        others.flatMap fun t => (keysOf t).map (entry (syntaxFlag t))).Perm
        (tests.flatMap fun t => (keysOf t).reverse.map (entry (runFlag t))) ↔
      (∀ t ∈ others, keysOf t = []) ∧
        ∀ t ∈ tests, keysOf t ≠ [] → syntaxFlag t = runFlag t := by
  have hlengths : (tests.flatMap fun t => (keysOf t).map (entry (syntaxFlag t))).length =
      (tests.flatMap fun t => (keysOf t).reverse.map (entry (runFlag t))).length := by
    rw [List.length_flatMap, List.length_flatMap]
    exact congrArg List.sum (List.map_congr_left fun t _ => by simp)
  constructor
  · intro hperm
    have hothers : (others.flatMap fun t => (keysOf t).map (entry (syntaxFlag t))) = [] := by
      have := hperm.length_eq
      rw [List.length_append, hlengths] at this
      exact List.length_eq_zero_iff.mp (by omega)
    refine ⟨fun t ht => ?_, (countP_flags himp tests).2 ?_⟩
    · exact List.map_eq_nil_iff.mp (List.flatMap_eq_nil_iff.mp hothers t ht)
    · rw [hothers, List.append_nil] at hperm
      exact hperm.countP_eq _
  · rintro ⟨hothers, hflags⟩
    have hnil : (others.flatMap fun t => (keysOf t).map (entry (syntaxFlag t))) = [] :=
      List.flatMap_eq_nil_iff.mpr fun t ht => by rw [hothers t ht, List.map_nil]
    rw [hnil, List.append_nil]
    refine List.Perm.flatMap_left tests fun t ht => ?_
    by_cases hkeys : keysOf t = []
    · rw [hkeys]
      exact List.Perm.refl _
    · rw [hflags t ht hkeys]
      exact (List.reverse_perm _).symm.map _

end Flags

/-! ## Agreement -/

/-- **The two sides agree on a module**: both reject it, or both give the same entries. -/
structure SidesAgree (file : Text) (module : TestModule) : Prop where
  rejects : (∃ e, collectOpenapiMarkersFromFile module.body = .error e) ↔
    ∃ e, pytestCollectionModifyitems (module.items file) = .error e
  entries : ∀ read run, collectOpenapiMarkersFromFile module.body = .ok read →
    pytestCollectionModifyitems (module.items file) = .ok run → read.Perm run

/-- Both sides find a decorator to reject. -/
structure RejectedTwice (body : List Stmt) : Prop where
  syntaxSide : ∃ site ∈ walk body, ∃ d ∈ site.decorators, Malformed d
  runSide : ∃ test ∈ collectedTests body, ∃ d ∈ test.decorators, Malformed d ∨ Lenient d

/-- The module's `openapi` marks are called with an operation, stand on tests, and have no placeholder
beside them that is only called. -/
structure WellMarked (body : List Stmt) : Prop where
  wellFormed : ∀ site ∈ walk body, ∀ d ∈ site.decorators, ¬ Malformed d
  strict : ∀ test ∈ collectedTests body, ∀ d ∈ test.decorators, ¬ Lenient d
  onTests : ∀ site ∈ walk body, (∃ d ∈ site.decorators, Calls (lit "openapi") d) → site.IsTest
  placeholders : ∀ test ∈ collectedTests body, (∃ d ∈ test.decorators, Calls (lit "openapi") d) →
    CarriesPlaceholder test → pytestMark (lit "placeholder") ∈ test.decorators

variable {file : Text} {module : TestModule}

theorem collect_rejects_iff : (∃ e, collectOpenapiMarkersFromFile module.body = .error e) ↔
    ∃ site ∈ walk module.body, ∃ d ∈ site.decorators, Malformed d := by
  rw [exists_error_iff]
  constructor
  · intro h
    by_contra hno
    push Not at hno
    exact h ⟨_, collectOpenapiMarkersFromFile_eq_ok.mpr ⟨hno, rfl⟩⟩
  · rintro ⟨site, hsite, d, hd, hmalformed⟩ ⟨entries, h⟩
    exact (collectOpenapiMarkersFromFile_eq_ok.mp h).1 site hsite d hd hmalformed

theorem modifyitems_rejects_iff : (∃ e, pytestCollectionModifyitems (module.items file) = .error e) ↔
    ∃ test ∈ collectedTests module.body, ∃ d ∈ test.decorators, Malformed d ∨ Lenient d := by
  rw [exists_error_iff]
  constructor
  · intro h
    by_contra hno
    push Not at hno
    exact h ⟨_, (modifyitems_eq_ok file).mpr ⟨hno, rfl⟩⟩
  · rintro ⟨test, htest, d, hd, hbad⟩ ⟨entries, h⟩
    obtain ⟨hwell, hstrict⟩ := ((modifyitems_eq_ok file).mp h).1 test htest d hd
    exact hbad.elim hwell hstrict

/-- Without malformed decorators a function names an operation iff it calls the mark. -/
theorem keysOf_ne_nil_iff {site : FunctionSite} (hwell : ∀ d ∈ site.decorators, ¬ Malformed d) :
    keysOf site ≠ [] ↔ ∃ d ∈ site.decorators, Calls (lit "openapi") d := by
  constructor
  · intro hne
    obtain ⟨key, hkey⟩ := List.exists_mem_of_ne_nil _ hne
    obtain ⟨d, hd, hsome⟩ := List.mem_filterMap.mp hkey
    exact ⟨d, hd, (key?_eq_some.mp hsome).calls⟩
  · rintro ⟨d, hd, hcalls⟩
    have hnamed : ∃ key, Names key d := by
      by_contra hno
      exact hwell d hd ⟨hcalls, hno⟩
    obtain ⟨key, hnames⟩ := hnamed
    exact List.ne_nil_of_mem (List.mem_filterMap.mpr ⟨d, hd, key?_eq_some.mpr hnames⟩)

/-- The entries of a module that neither side rejects. -/
theorem entries_perm_iff (hwell : ∀ site ∈ walk module.body, ∀ d ∈ site.decorators, ¬ Malformed d) :
    ((walk module.body).flatMap fun site => (keysOf site).map (entry (barePlaceholder site))).Perm
        ((collectedTests module.body).flatMap fun site =>
          (keysOf site).reverse.map (entry (markedPlaceholder site))) ↔
      (∀ site ∈ walk module.body, (∃ d ∈ site.decorators, Calls (lit "openapi") d) → site.IsTest) ∧
        ∀ test ∈ collectedTests module.body, (∃ d ∈ test.decorators, Calls (lit "openapi") d) →
          CarriesPlaceholder test → pytestMark (lit "placeholder") ∈ test.decorators := by
  have hsplit : (walk module.body).Perm (collectedTests module.body ++
      (walk module.body).filter fun site => ! decide site.IsTest) :=
    (List.filter_append_perm (fun site => decide site.IsTest) (walk module.body)).symm.trans
      ((walk_tests_perm module.body).append_right _)
  have hread : ((walk module.body).flatMap fun site =>
      (keysOf site).map (entry (barePlaceholder site))).Perm
      (((collectedTests module.body).flatMap fun t => (keysOf t).map (entry (barePlaceholder t))) ++
        ((walk module.body).filter fun site => ! decide site.IsTest).flatMap fun t =>
          (keysOf t).map (entry (barePlaceholder t))) := by
    rw [← List.flatMap_append]
    exact hsplit.flatMap_right _
  have himp : ∀ site, barePlaceholder site = true → markedPlaceholder site = true :=
    fun _ => marked_of_bare
  have hflags := flagged_perm_iff himp (collectedTests module.body)
    ((walk module.body).filter fun site => ! decide site.IsTest)
  constructor
  · intro hperm
    obtain ⟨hothers, hsame⟩ := hflags.mp (hread.symm.trans hperm)
    constructor
    · intro site hsite hcalls
      by_contra hnot
      exact (keysOf_ne_nil_iff (hwell site hsite)).mpr hcalls
        (hothers site (List.mem_filter.mpr ⟨hsite, by simp [hnot]⟩))
    · intro test htest hcalls hcarries
      have hwalk := (mem_collectedTests.mp htest).1
      have heq := hsame test htest ((keysOf_ne_nil_iff (hwell test hwalk)).mpr hcalls)
      exact barePlaceholder_iff.mp (heq.trans (markedPlaceholder_iff.mpr hcarries))
  · rintro ⟨honTests, hplaceholders⟩
    refine hread.trans (hflags.mpr ⟨fun site hsite => ?_, fun test htest hkeys => ?_⟩)
    · obtain ⟨hwalk, hnot⟩ := List.mem_filter.mp hsite
      by_contra hkeys
      have := honTests site hwalk ((keysOf_ne_nil_iff (hwell site hwalk)).mp hkeys)
      simp [this] at hnot
    · have hcalls := (keysOf_ne_nil_iff (hwell test (mem_collectedTests.mp htest).1)).mp hkeys
      rw [Bool.eq_iff_iff]
      exact ⟨marked_of_bare, fun hmarked => barePlaceholder_iff.mpr
        (hplaceholders test htest hcalls (markedPlaceholder_iff.mp hmarked))⟩

/-- **Exactly when the syntax and the run agree on a module.** -/
theorem markers_agree (file : Text) (module : TestModule) :
    SidesAgree file module ↔ RejectedTwice module.body ∨ WellMarked module.body := by
  constructor
  · rintro ⟨hrejects, hentries⟩
    rw [collect_rejects_iff, modifyitems_rejects_iff] at hrejects
    by_cases hbad : ∃ site ∈ walk module.body, ∃ d ∈ site.decorators, Malformed d
    · exact Or.inl ⟨hbad, hrejects.mp hbad⟩
    · have hrun : ¬ ∃ test ∈ collectedTests module.body, ∃ d ∈ test.decorators,
          Malformed d ∨ Lenient d := fun h => hbad (hrejects.mpr h)
      push Not at hbad hrun
      have hperm := hentries _ _ (collectOpenapiMarkersFromFile_eq_ok.mpr ⟨hbad, rfl⟩)
        ((modifyitems_eq_ok file).mpr ⟨hrun, rfl⟩)
      obtain ⟨honTests, hplaceholders⟩ := (entries_perm_iff hbad).mp hperm
      exact Or.inr ⟨hbad, fun test htest d hd => (hrun test htest d hd).2, honTests, hplaceholders⟩
  · rintro (⟨hforms, hrun⟩ | ⟨hwell, hstrict, honTests, hplaceholders⟩)
    · refine ⟨iff_of_true (collect_rejects_iff.mpr hforms) (modifyitems_rejects_iff.mpr hrun),
        fun read run hread => ?_⟩
      obtain ⟨e, he⟩ := collect_rejects_iff.mpr hforms
      rw [he] at hread
      cases hread
    · have hall : ∀ test ∈ collectedTests module.body, ∀ d ∈ test.decorators,
          ¬ Malformed d ∧ ¬ Lenient d := fun test htest d hd =>
        ⟨hwell test (mem_collectedTests.mp htest).1 d hd, hstrict test htest d hd⟩
      have hread := collectOpenapiMarkersFromFile_eq_ok.mpr ⟨hwell, rfl⟩
      have hrun := (modifyitems_eq_ok file).mpr ⟨hall, rfl⟩
      refine ⟨?_, fun read run hread' hrun' => ?_⟩
      · rw [exists_error_iff, exists_error_iff]
        exact not_congr (iff_of_true ⟨_, hread⟩ ⟨_, hrun⟩)
      · rw [hread, Except.ok.injEq] at hread'
        rw [hrun, Except.ok.injEq] at hrun'
        rw [← hread', ← hrun']
        exact (entries_perm_iff hwell).mpr ⟨honTests, hplaceholders⟩

/-- `@pytest.mark.openapi("")` on a test. -/
def emptyIdModule : TestModule where
  body := [.functionDef (lit "test_views")
    [.call (pytestMark (lit "openapi")) [.str []] []] []]
  literal := by
    intro site hsite d hd name args keywords hcall
    obtain rfl := List.mem_singleton.mp hsite
    obtain rfl := List.mem_singleton.mp hd
    cases hcall
    refine ⟨fun a ha => ?_, fun k hk => absurd hk List.not_mem_nil, List.nodup_nil⟩
    obtain rfl := List.mem_singleton.mp ha
    exact ⟨.str [], rfl⟩

/-- The syntax side counts an empty operation id, which the run rejects. -/
theorem empty_id_example :
    collectOpenapiMarkersFromFile emptyIdModule.body = .ok [(.unified, [], false)] ∧
      pytestCollectionModifyitems (emptyIdModule.items (lit "test_views.py")) =
        .error (.usageError (lit "test_views.py::test_views" ++
          lit ": @pytest.mark.openapi operation id must be a non-empty string")) ∧
      ¬ SidesAgree (lit "test_views.py") emptyIdModule := by
  have hread : collectOpenapiMarkersFromFile emptyIdModule.body = .ok [(.unified, [], false)] := by
    decide +kernel
  have hrun : pytestCollectionModifyitems (emptyIdModule.items (lit "test_views.py")) =
      .error (.usageError (lit "test_views.py::test_views" ++
        lit ": @pytest.mark.openapi operation id must be a non-empty string")) := by
    decide +kernel
  refine ⟨hread, hrun, fun h => ?_⟩
  obtain ⟨e, he⟩ := h.rejects.mpr ⟨_, hrun⟩
  rw [hread] at he
  cases he

end ApiTests.Coverage
