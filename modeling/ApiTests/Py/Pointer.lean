import ApiTests.Py.Json
import ApiTests.Py.Percent
import ApiTests.Py.Re
import ApiTests.Py.Replace

/-!
# JSON pointers in URI fragments

A `JsonNode` is a value of a document together with where it stands. `resolveFragment` finds the node
that a fragment names, as the `referencing` library does: it decodes the percent escapes of the
fragment, splits it at `/`, and goes down, by a key into a mapping and by an index into a list or a
string. How an index is read (`int`) is a parameter.

`pointerOf` writes the pointer to a list of keys, without escapes for `%`.

Results:
* `unescapePointer_escapePointer`: a key is read back.
* **`resolveFragment_pointerOf_iff`**: the pointer to a node names it iff no key on its way has a
  percent escape.
-/

namespace ApiTests.Py

variable {ν : Type}

/-! ## Nodes -/

/-- One step down. -/
inductive PointerStep where
  | key (key : Text)
  | index (i : Int)
  deriving Repr, DecidableEq

/-- A value and where it stands. -/
structure JsonNode (ν : Type) where
  location : List PointerStep
  value : Json ν

/-- What a mapping has for a key. -/
def JsonNode.get? (node : JsonNode ν) (key : Text) : Option (JsonNode ν) :=
  match node.value with
  | .dict entries => (entries.lookup key).map fun x => ⟨node.location ++ [.key key], x⟩
  | _ => none

/-- `items[i]`, counted from the end where `i` is negative. -/
def sequenceItem {α : Type} (items : List α) (i : Int) : Option α :=
  if 0 ≤ i then items[i.toNat]?
  else if i.natAbs ≤ items.length then items[items.length - i.natAbs]?
  else none

/-- `segment.replace("~1", "/").replace("~0", "~")`. -/
def unescapePointer (segment : Text) : Text :=
  replaceAll (lit "~0") (lit "~") (replaceAll (lit "~1") (lit "/") segment)

/-- One segment down. -/
def JsonNode.child? (int : Text → Option Int) (node : JsonNode ν) (segment : Text) :
    Option (JsonNode ν) :=
  match node.value with
  | .dict _ => node.get? (unescapePointer segment)
  | .list items => do
    let i ← int segment
    let x ← sequenceItem items i
    some ⟨node.location ++ [.index i], x⟩
  | .str t => do
    let i ← int segment
    let c ← sequenceItem t i
    some ⟨node.location ++ [.index i], .str [c]⟩
  | _ => none

/-- The segments of a pointer, one after another. -/
def walkPointer (int : Text → Option Int) : JsonNode ν → List Text → Option (JsonNode ν)
  | node, [] => some node
  | node, segment :: segments =>
    match node.child? int segment with
    | some child => walkPointer int child segments
    | none => none

/-- The node that a fragment names; another fragment than a pointer names an anchor. -/
def resolveFragment (int : Text → Option Int) (contents : Json ν) : Text → Option (JsonNode ν)
  | 47 :: pointer => walkPointer int ⟨[], contents⟩ ((unquote pointer).splitOn 47)
  | _ => none

/-! ## Pointers to keys -/

/-- `value.replace("~", "~0").replace("/", "~1")`. -/
def escapePointer (value : Text) : Text :=
  replaceAll (lit "/") (lit "~1") (replaceAll (lit "~") (lit "~0") value)

/-- The pointer to a list of keys. -/
def pointerOf (keys : List Text) : Text := keys.flatMap fun key => 47 :: escapePointer key

/-- What stands below a list of keys. -/
def Json.at? : Json ν → List Text → Option (Json ν)
  | x, [] => some x
  | .dict entries, key :: keys =>
    match entries.lookup key with
    | some x => x.at? keys
    | none => none
  | _, _ :: _ => none

/-- One character, escaped. -/
def escapeChar (c : Nat) : Text := if c = 126 then [126, 48] else if c = 47 then [126, 49] else [c]

theorem escapePointer_eq_flatMap (value : Text) : escapePointer value = value.flatMap escapeChar := by
  unfold escapePointer
  have htilde : lit "~" = [126] := rfl
  have hslash : lit "/" = [47] := rfl
  rw [htilde, hslash, replaceAll_singleton, replaceAll_singleton, List.flatMap_assoc]
  refine List.flatMap_congr fun c _ => ?_
  unfold escapeChar
  by_cases h : c = 126
  · subst h
    rfl
  · rw [if_neg h, if_neg h, List.flatMap_singleton]
    by_cases h' : c = 47
    · rw [if_pos h', if_pos h']
      rfl
    · rw [if_neg h', if_neg h']

/-- **A key is read back.** -/
theorem unescapePointer_escapePointer (key : Text) : unescapePointer (escapePointer key) = key := by
  have htilde : ∀ c, c = 126 ∨ c ≠ 126 := fun c => eq_or_ne c 126
  have hfirst : replaceAll (lit "~1") (lit "/") (key.flatMap escapeChar) =
      key.flatMap fun c => if c = 126 then [126, 48] else [c] := by
    refine replaceAll_blocks fun c _ => ?_
    unfold escapeChar
    rcases htilde c with rfl | h
    · exact Or.inr (Or.inl ⟨48, by decide, by decide, rfl, rfl⟩)
    · rw [if_neg h, if_neg h]
      by_cases h' : c = 47
      · subst h'
        exact Or.inl ⟨rfl, rfl⟩
      · rw [if_neg h']
        exact Or.inr (Or.inr ⟨c, h, rfl, rfl⟩)
  have hsecond : replaceAll (lit "~0") (lit "~")
      (key.flatMap fun c => if c = 126 then [126, 48] else [c]) = key.flatMap fun c => [c] := by
    refine replaceAll_blocks fun c _ => ?_
    rcases htilde c with rfl | h
    · exact Or.inl ⟨rfl, rfl⟩
    · rw [if_neg h]
      exact Or.inr (Or.inr ⟨c, h, rfl, rfl⟩)
  rw [unescapePointer, escapePointer_eq_flatMap, hfirst, hsecond]
  exact List.flatMap_singleton' key

/-- An escaped key has no slash. -/
theorem slash_notMem_escapePointer (key : Text) : 47 ∉ escapePointer key := by
  rw [escapePointer_eq_flatMap, List.mem_flatMap]
  rintro ⟨c, -, hc⟩
  unfold escapeChar at hc
  split_ifs at hc with h h'
  · exact absurd hc (by decide)
  · exact absurd hc (by decide)
  · exact h' (List.mem_singleton.mp hc).symm

/-! ## Escapes in a pointer -/

theorem readHexDigit_ne {a : Nat} (h : (readHexDigit a).isSome) : a ≠ 126 ∧ a ≠ 47 := by
  constructor
  · rintro rfl
    exact absurd h (by decide)
  · rintro rfl
    exact absurd h (by decide)

/-- A character that is no `%` begins no escape. -/
theorem hasEscape_cons_of_ne {c : Nat} {t : Text} (hc : c ≠ 37) : HasEscape (c :: t) ↔ HasEscape t := by
  rw [hasEscape_cons]
  constructor
  · rintro (⟨_, _, _, rfl, -⟩ | h)
    · exact absurd rfl hc
    · exact h
  · exact Or.inr

theorem not_hasEscape_nil : ¬ HasEscape [] := by
  rintro ⟨u, a, b, v, h, -⟩
  exact absurd h (by simp)

/-- An escape lies on one side of a slash. -/
theorem hasEscape_append_slash {u v : Text} :
    HasEscape (u ++ 47 :: v) ↔ HasEscape u ∨ HasEscape v := by
  constructor
  · intro h
    induction u with
    | nil => exact Or.inr ((hasEscape_cons_of_ne (by decide)).mp h)
    | cons c u ih =>
      rcases hasEscape_cons.mp h with ⟨a, b, w, rfl, heq, ha, hb⟩ | h
      · left
        refine hasEscape_cons.mpr (Or.inl ?_)
        rcases u with _ | ⟨a', _ | ⟨b', u⟩⟩
        · cases heq
          exact absurd rfl (readHexDigit_ne ha).2
        · cases heq
          exact absurd rfl (readHexDigit_ne hb).2
        · cases heq
          exact ⟨a, b, u, rfl, rfl, ha, hb⟩
      · exact (ih h).imp_left (HasEscape.append_left [c])
  · rintro (h | h)
    · exact h.append_right _
    · exact HasEscape.append_left u (h.append_left [47])

/-- A character that the escapes of a pointer do not touch. -/
theorem escapeChar_of_hex {a : Nat} (h : (readHexDigit a).isSome) : escapeChar a = [a] := by
  obtain ⟨h126, h47⟩ := readHexDigit_ne h
  rw [escapeChar, if_neg h126, if_neg h47]

/-- The escaped text begins with a hexadecimal digit iff the text does. -/
theorem escapeChar_head {a : Nat} {t w : Text} (ha : (readHexDigit a).isSome)
    (h : t.flatMap escapeChar = a :: w) : ∃ v, t = a :: v ∧ v.flatMap escapeChar = w := by
  cases t with
  | nil => cases h
  | cons c t =>
    rw [List.flatMap_cons] at h
    unfold escapeChar at h
    split_ifs at h with h126 h47
    · cases h
      exact absurd rfl (readHexDigit_ne ha).1
    · cases h
      exact absurd rfl (readHexDigit_ne ha).1
    · cases h
      exact ⟨t, rfl, rfl⟩

theorem hasEscape_escapePointer {t : Text} : HasEscape (escapePointer t) ↔ HasEscape t := by
  rw [escapePointer_eq_flatMap]
  induction t with
  | nil => rfl
  | cons c t ih =>
    by_cases hc : c = 37
    · subst hc
      have hhead : (37 :: t).flatMap escapeChar = 37 :: t.flatMap escapeChar := rfl
      rw [hhead, hasEscape_cons, hasEscape_cons, ih]
      refine or_congr_left ?_
      constructor
      · rintro ⟨a, b, w, -, heq, ha, hb⟩
        obtain ⟨v, rfl, htail⟩ := escapeChar_head ha heq
        obtain ⟨v', rfl, -⟩ := escapeChar_head hb htail
        exact ⟨a, b, v', rfl, rfl, ha, hb⟩
      · rintro ⟨a, b, v, -, rfl, ha, hb⟩
        refine ⟨a, b, v.flatMap escapeChar, rfl, ?_, ha, hb⟩
        rw [List.flatMap_cons, List.flatMap_cons, escapeChar_of_hex ha, escapeChar_of_hex hb]
        rfl
    · rw [List.flatMap_cons, hasEscape_cons_of_ne hc, ← ih]
      unfold escapeChar
      split_ifs with h126 h47
      · rw [List.cons_append, hasEscape_cons_of_ne (by decide), List.singleton_append,
          hasEscape_cons_of_ne (by decide)]
      · rw [List.cons_append, hasEscape_cons_of_ne (by decide), List.singleton_append,
          hasEscape_cons_of_ne (by decide)]
      · rw [List.singleton_append, hasEscape_cons_of_ne hc]

/-- **A pointer has an escape iff one of its keys has.** -/
theorem hasEscape_pointerOf {keys : List Text} :
    HasEscape (pointerOf keys) ↔ ∃ key ∈ keys, HasEscape key := by
  induction keys with
  | nil => simp [pointerOf, not_hasEscape_nil]
  | cons key keys ih =>
    have hcons : pointerOf (key :: keys) = 47 :: escapePointer key ++ pointerOf keys := rfl
    rw [hcons, List.cons_append, hasEscape_cons_of_ne (by decide), List.exists_mem_cons_iff, ← ih,
      ← hasEscape_escapePointer (t := key)]
    cases keys with
    | nil =>
      rw [show pointerOf [] = [] from rfl, List.append_nil]
      exact ⟨Or.inl, fun h => h.resolve_right not_hasEscape_nil⟩
    | cons key' keys =>
      have hcons' : pointerOf (key' :: keys) = 47 :: (escapePointer key' ++ pointerOf keys) := rfl
      rw [hcons', hasEscape_append_slash, hasEscape_cons_of_ne (by decide)]

/-! ## Where a pointer leads -/

theorem JsonNode.get?_eq_some {node child : JsonNode ν} {key : Text} :
    node.get? key = some child ↔ ∃ entries x, node.value = .dict entries ∧
      entries.lookup key = some x ∧ child = ⟨node.location ++ [.key key], x⟩ := by
  unfold JsonNode.get?
  cases node.value with
  | dict entries => simp [eq_comm]
  | _ => simp

/-- A segment leads one step down, by its key or by an index. -/
theorem JsonNode.child?_location {int : Text → Option Int} {node child : JsonNode ν} {segment : Text}
    (h : node.child? int segment = some child) :
    ∃ step, child.location = node.location ++ [step] ∧
      ∀ key, step = .key key → key = unescapePointer segment := by
  have hindex : ∀ {α : Type} {items : List α} {f : Int → α → JsonNode ν},
      (∀ i x, (f i x).location = node.location ++ [.index i]) →
      (do let i ← int segment; let x ← sequenceItem items i; some (f i x)) = some child →
      ∃ step, child.location = node.location ++ [step] ∧
        ∀ key, step = .key key → key = unescapePointer segment := by
    intro α items f hf h
    obtain ⟨i, -, h⟩ := Option.bind_eq_some_iff.mp h
    obtain ⟨x, -, h⟩ := Option.bind_eq_some_iff.mp h
    cases h
    exact ⟨.index i, hf i x, nofun⟩
  unfold JsonNode.child? at h
  cases hvalue : node.value with
  | dict entries =>
    rw [hvalue] at h
    obtain ⟨_, x, -, -, rfl⟩ := JsonNode.get?_eq_some.mp h
    exact ⟨_, rfl, fun key hkey => by cases hkey; rfl⟩
  | list items =>
    rw [hvalue] at h
    exact hindex (fun _ _ => rfl) h
  | str t =>
    rw [hvalue] at h
    exact hindex (fun _ _ => rfl) h
  | _ =>
    rw [hvalue] at h
    cases h

/-- A walk only goes down. -/
theorem walkPointer_extends {int : Text → Option Int} : ∀ {segments : List Text}
    {node last : JsonNode ν}, walkPointer int node segments = some last →
      ∃ below, last.location = node.location ++ below
  | [], node, last, h => by
    cases h
    exact ⟨[], (List.append_nil _).symm⟩
  | segment :: segments, node, last, h => by
    rw [walkPointer] at h
    cases hchild : node.child? int segment with
    | none =>
      rw [hchild] at h
      cases h
    | some child =>
      rw [hchild] at h
      obtain ⟨step, hstep, -⟩ := JsonNode.child?_location hchild
      obtain ⟨below, hbelow⟩ := walkPointer_extends h
      exact ⟨step :: below, by rw [hbelow, hstep, List.append_assoc]; rfl⟩

/-- **A walk by keys alone goes by what its segments spell.** -/
theorem walkPointer_keys {int : Text → Option Int} : ∀ {segments keys : List Text}
    {node last : JsonNode ν}, walkPointer int node segments = some last →
      last.location = node.location ++ keys.map .key → keys = segments.map unescapePointer
  | [], keys, node, last, h, hlocation => by
    cases h
    have hnil : keys.map PointerStep.key = [] := List.append_cancel_left
      (hlocation.symm.trans (List.append_nil _).symm)
    rw [List.map_eq_nil_iff.mp hnil]
    rfl
  | segment :: segments, keys, node, last, h, hlocation => by
    rw [walkPointer] at h
    cases hchild : node.child? int segment with
    | none =>
      rw [hchild] at h
      cases h
    | some child =>
      rw [hchild] at h
      obtain ⟨step, hstep, hkey⟩ := JsonNode.child?_location hchild
      obtain ⟨below, hbelow⟩ := walkPointer_extends h
      rw [hbelow, hstep, List.append_assoc] at hlocation
      have hkeys := List.append_cancel_left hlocation
      cases keys with
      | nil => cases hkeys
      | cons key keys =>
        rw [List.map_cons, List.singleton_append, List.cons.injEq] at hkeys
        obtain ⟨rfl, hrest⟩ := hkeys
        rw [List.map_cons, hkey key rfl]
        refine congrArg _ (walkPointer_keys h ?_)
        rw [hbelow, hrest]

theorem walkPointer_at? (int : Text → Option Int) : ∀ {keys : List Text} {x y : Json ν}
    (location : List PointerStep), x.at? keys = some y →
      walkPointer int ⟨location, x⟩ (keys.map escapePointer) =
        some ⟨location ++ keys.map .key, y⟩
  | [], x, y, location, h => by
    cases h
    rw [List.map_nil, List.map_nil, List.append_nil]
    rfl
  | key :: keys, .dict entries, y, location, h => by
    rw [Json.at?] at h
    cases hx : entries.lookup key with
    | none =>
      rw [hx] at h
      cases h
    | some x =>
      rw [hx] at h
      have hchild : (⟨location, .dict entries⟩ : JsonNode ν).child? int (escapePointer key) =
          some ⟨location ++ [.key key], x⟩ := by
        unfold JsonNode.child?
        dsimp only
        rw [unescapePointer_escapePointer]
        exact JsonNode.get?_eq_some.mpr ⟨entries, x, rfl, hx, rfl⟩
      have hbelow := walkPointer_at? int (location ++ [.key key]) h
      rw [List.append_assoc] at hbelow
      rw [List.map_cons, walkPointer, hchild]
      exact hbelow

/-! ## What a pointer counts -/

theorem countP_intercalate {P : Nat → Bool} (hP : P 47 = false) : ∀ segments : List Text,
    ([47].intercalate segments).countP P = (segments.map fun segment => segment.countP P).sum
  | [] => rfl
  | [segment] => by simp
  | segment :: segment' :: segments => by
    rw [List.intercalate_cons_cons, List.countP_append, List.countP_append,
      countP_intercalate hP (segment' :: segments), List.map_cons, List.sum_cons,
      List.countP_singleton, hP]
    rfl

theorem pointerOf_eq : ∀ {keys : List Text}, keys ≠ [] →
    pointerOf keys = 47 :: [47].intercalate (keys.map escapePointer)
  | [], h => absurd rfl h
  | [key], _ => by simp [pointerOf]
  | key :: key' :: keys, _ => by
    have ih := pointerOf_eq (List.cons_ne_nil key' keys)
    have hcons : pointerOf (key :: key' :: keys) =
      47 :: (escapePointer key ++ pointerOf (key' :: keys)) := rfl
    rw [hcons, ih, List.map_cons, List.map_cons, List.map_cons, List.intercalate_cons_cons,
      List.append_assoc]
    rfl

/-- The escapes of a pointer are no marks of a percent escape. -/
theorem countP_escapePointer (key : Text) :
    (escapePointer key).countP isEscapeMark = key.countP isEscapeMark := by
  rw [escapePointer, countP_replaceAll (by decide) (by decide) (by decide),
    countP_replaceAll (by decide) (by decide) (by decide)]

theorem countP_unescapePointer (segment : Text) :
    (unescapePointer segment).countP isEscapeMark = segment.countP isEscapeMark := by
  rw [unescapePointer, countP_replaceAll (by decide) (by decide) (by decide),
    countP_replaceAll (by decide) (by decide) (by decide)]

/-- **The pointer to a node names it iff no key has a percent escape**: an escape that is decoded
leaves fewer `%` and `2` than the keys have. -/
theorem resolveFragment_pointerOf_iff (int : Text → Option Int) {x y : Json ν} {keys : List Text}
    (hne : keys ≠ []) (h : x.at? keys = some y) :
    resolveFragment int x (pointerOf keys) = some ⟨keys.map .key, y⟩ ↔
      ∀ key ∈ keys, ¬ HasEscape key := by
  have hescape : HasEscape ([47].intercalate (keys.map escapePointer)) ↔
      ∃ key ∈ keys, HasEscape key := by
    rw [← hasEscape_pointerOf, pointerOf_eq hne, hasEscape_cons_of_ne (by decide)]
  rw [pointerOf_eq hne, resolveFragment]
  constructor
  · intro hwalk key hkey hhas
    have hkeys := walkPointer_keys hwalk (List.nil_append _).symm
    have hdecoded := countP_intercalate (P := isEscapeMark) rfl
      ((unquote ([47].intercalate (keys.map escapePointer))).splitOn 47)
    rw [List.intercalate_splitOn] at hdecoded
    have hencoded := countP_intercalate (P := isEscapeMark) rfl (keys.map escapePointer)
    have hsame : (keys.map fun key => key.countP isEscapeMark).sum =
        (((unquote ([47].intercalate (keys.map escapePointer))).splitOn 47).map
          fun segment => segment.countP isEscapeMark).sum := by
      generalize (unquote ([47].intercalate (keys.map escapePointer))).splitOn 47 = segments at hkeys
      rw [hkeys, List.map_map]
      exact congrArg List.sum (List.map_congr_left fun segment _ => countP_unescapePointer segment)
    have hkept : ((keys.map escapePointer).map fun segment => segment.countP isEscapeMark).sum =
        (keys.map fun key => key.countP isEscapeMark).sum := by
      rw [List.map_map]
      exact congrArg List.sum (List.map_congr_left fun key _ => countP_escapePointer key)
    have hlt := countP_unquote_lt (hescape.mpr ⟨key, hkey, hhas⟩)
    rw [hdecoded, hencoded, hkept, hsame] at hlt
    exact lt_irrefl _ hlt
  · intro hnone
    have hplain : ¬ HasEscape ([47].intercalate (keys.map escapePointer)) := by
      rw [hescape]
      rintro ⟨key, hkey, hhas⟩
      exact hnone key hkey hhas
    have hsplit : ([47].intercalate (keys.map escapePointer)).splitOn 47 =
        keys.map escapePointer := by
      refine List.splitOn_intercalate 47 (fun segment hsegment => ?_) ?_
      · obtain ⟨key, -, rfl⟩ := List.mem_map.mp hsegment
        exact slash_notMem_escapePointer key
      · rw [Ne, List.map_eq_nil_iff]
        exact hne
    rw [unquote_eq_self hplain, hsplit, walkPointer_at? int [] h, List.nil_append]

end ApiTests.Py
