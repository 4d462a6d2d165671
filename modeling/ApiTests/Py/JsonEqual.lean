import ApiTests.Py.Dict
import ApiTests.Py.Json
import Mathlib.Data.Rat.Defs
import Mathlib.Data.List.Perm.Subperm

/-!
# Python's `==` on JSON values, and the equality of JSON values

A number is an `int` or a `float`; `==` compares two numbers by value, whatever their types. But a
`bool` is an `int` too, so `True == 1` and `False == 0.0`: `pyEq` is that comparison. `SameJson` is
the equality of the values themselves: the same structure, the entries of a dict in any order,
numbers by value, and `true` is no number. A `float` is its value, a rational or an infinity: the
`NaN` that `json` also reads and writes, which equals nothing, is excluded.

Results:
* `sameJson_iff_pyEq`: **two values are the same iff Python finds them equal and they nowhere have a
  boolean in one and a number in the other at the same place** (`clashes`).
* `pyEq_dict_iff`: what `==` of two dicts asks for.
* `pyEq_iff_numbered`: `==` is the equality of the values in which true is read as 1, false as 0.
-/

namespace ApiTests.Py

/-- The value of a number. -/
inductive NumberValue where
  | finite (q : Rat)
  | infinite (negative : Bool)
  deriving DecidableEq

/-- An `int` or a `float`. -/
inductive PyNumber where
  | int (n : Int)
  | float (v : NumberValue)
  deriving DecidableEq

def PyNumber.value : PyNumber → NumberValue
  | .int n => .finite n
  | .float v => v

/-- The number a `bool` is. -/
def boolValue (b : Bool) : NumberValue := .finite (if b then 1 else 0)

mutual

/-- `x == y`. -/
def pyEq : Json PyNumber → Json PyNumber → Bool
  | .null, .null => true
  | .bool b, .bool b' => b == b'
  | .bool b, .number n => boolValue b == n.value
  | .number n, .bool b => n.value == boolValue b
  | .number n, .number m => n.value == m.value
  | .str s, .str t => s == t
  | .list xs, .list ys => pyEqItems xs ys
  | .dict d, .dict e => d.length == e.length && pyEqEntries d e
  | _, _ => false

def pyEqItems : List (Json PyNumber) → List (Json PyNumber) → Bool
  | [], [] => true
  | x :: xs, y :: ys => pyEq x y && pyEqItems xs ys
  | _, _ => false

/-- Every entry of the first dict is in the second, with an equal value. -/
def pyEqEntries : List (Text × Json PyNumber) → List (Text × Json PyNumber) → Bool
  | [], _ => true
  | (key, x) :: d, e =>
    (match e.lookup key with
      | some y => pyEq x y
      | none => false) && pyEqEntries d e

end

mutual

/-- Somewhere one value has a boolean and the other has a number. -/
def clashes : Json PyNumber → Json PyNumber → Bool
  | .bool _, .number _ => true
  | .number _, .bool _ => true
  | .list xs, .list ys => clashesItems xs ys
  | .dict d, .dict e => clashesEntries d e
  | _, _ => false

def clashesItems : List (Json PyNumber) → List (Json PyNumber) → Bool
  | x :: xs, y :: ys => clashes x y || clashesItems xs ys
  | _, _ => false

def clashesEntries : List (Text × Json PyNumber) → List (Text × Json PyNumber) → Bool
  | [], _ => false
  | (key, x) :: d, e =>
    (match e.lookup key with
      | some y => clashes x y
      | none => false) || clashesEntries d e

end

/-- **The two values are the same JSON value.** -/
inductive SameJson : Json PyNumber → Json PyNumber → Prop where
  | null : SameJson .null .null
  | bool (b : Bool) : SameJson (.bool b) (.bool b)
  | number {n m : PyNumber} (h : n.value = m.value) : SameJson (.number n) (.number m)
  | str (t : Text) : SameJson (.str t) (.str t)
  | list {xs ys : List (Json PyNumber)} (hlength : xs.length = ys.length)
      (hitems : ∀ p ∈ xs.zip ys, SameJson p.1 p.2) : SameJson (.list xs) (.list ys)
  | dict {d e : List (Text × Json PyNumber)}
      (hkeys : ∀ key, key ∈ d.map Prod.fst ↔ key ∈ e.map Prod.fst)
      (hvalues : ∀ key x y, (key, x) ∈ d → (key, y) ∈ e → SameJson x y) :
      SameJson (.dict d) (.dict e)

/-! ## Lists and dicts -/

theorem pyEqItems_iff {xs ys : List (Json PyNumber)} :
    pyEqItems xs ys = true ↔ xs.length = ys.length ∧ ∀ p ∈ xs.zip ys, pyEq p.1 p.2 = true := by
  induction xs generalizing ys with
  | nil => cases ys <;> simp [pyEqItems]
  | cons x xs ih =>
    cases ys with
    | nil => simp [pyEqItems]
    | cons y ys =>
      rw [pyEqItems, Bool.and_eq_true, ih, List.zip_cons_cons, List.forall_mem_cons]
      simp only [List.length_cons, Nat.add_right_cancel_iff]
      tauto

theorem clashesItems_iff {xs ys : List (Json PyNumber)} :
    clashesItems xs ys = true ↔ ∃ p ∈ xs.zip ys, clashes p.1 p.2 = true := by
  induction xs generalizing ys with
  | nil => cases ys <;> simp [clashesItems]
  | cons x xs ih =>
    cases ys with
    | nil => simp [clashesItems]
    | cons y ys =>
      rw [clashesItems, Bool.or_eq_true, ih, List.zip_cons_cons, List.exists_mem_cons_iff]

theorem pyEqEntries_iff {d e : List (Text × Json PyNumber)} :
    pyEqEntries d e = true ↔ ∀ p ∈ d, ∃ y, e.lookup p.1 = some y ∧ pyEq p.2 y = true := by
  induction d with
  | nil => simp [pyEqEntries]
  | cons p d ih =>
    obtain ⟨key, x⟩ := p
    rw [pyEqEntries, Bool.and_eq_true, ih, List.forall_mem_cons]
    refine and_congr_left' ?_
    cases e.lookup key <;> simp

theorem clashesEntries_iff {d e : List (Text × Json PyNumber)} :
    clashesEntries d e = true ↔ ∃ p ∈ d, ∃ y, e.lookup p.1 = some y ∧ clashes p.2 y = true := by
  induction d with
  | nil => simp [clashesEntries]
  | cons p d ih =>
    obtain ⟨key, x⟩ := p
    rw [clashesEntries, Bool.or_eq_true, ih, List.exists_mem_cons_iff]
    refine or_congr_left ?_
    cases e.lookup key <;> simp

/-- Two key lists of one length, the first inside the second, have the same keys. -/
theorem mem_iff_of_subset_length {ks ks' : List Text} (hks : ks.Nodup) (hsub : ks ⊆ ks')
    (hlength : ks.length = ks'.length) (key : Text) : key ∈ ks ↔ key ∈ ks' :=
  ((hks.subperm hsub).perm_of_length_le hlength.ge).mem_iff

/-- **`==` of two dicts**: the same keys, with equal values. -/
theorem pyEq_dict_iff {d e : List (Text × Json PyNumber)} (hd : (d.map Prod.fst).Nodup)
    (he : (e.map Prod.fst).Nodup) :
    pyEq (.dict d) (.dict e) = true ↔
      (∀ key, key ∈ d.map Prod.fst ↔ key ∈ e.map Prod.fst) ∧
        ∀ key x y, (key, x) ∈ d → (key, y) ∈ e → pyEq x y = true := by
  rw [pyEq, Bool.and_eq_true, beq_iff_eq, pyEqEntries_iff]
  constructor
  · rintro ⟨hlength, hentries⟩
    have hsub : d.map Prod.fst ⊆ e.map Prod.fst := by
      intro key hkey
      obtain ⟨p, hp, rfl⟩ := List.mem_map.mp hkey
      obtain ⟨y, hy, -⟩ := hentries p hp
      exact List.mem_map.mpr ⟨(p.1, y), (Dict.lookup_eq_some_iff_mem he).mp hy, rfl⟩
    refine ⟨mem_iff_of_subset_length hd hsub (by simpa using hlength), ?_⟩
    intro key x y hx hy
    obtain ⟨y', hy', heq⟩ := hentries _ hx
    obtain rfl : y' = y := by
      have := (Dict.lookup_eq_some_iff_mem he).mpr hy
      exact Option.some.inj (hy'.symm.trans this)
    exact heq
  · rintro ⟨hkeys, hvalues⟩
    have hperm : (d.map Prod.fst).Perm (e.map Prod.fst) :=
      (List.perm_ext_iff_of_nodup hd he).mpr hkeys
    refine ⟨by simpa using hperm.length_eq, fun p hp => ?_⟩
    obtain ⟨q, hq, hkey⟩ := List.mem_map.mp ((hkeys p.1).mp (List.mem_map.mpr ⟨p, hp, rfl⟩))
    obtain ⟨key, y⟩ := q
    obtain rfl : key = p.1 := hkey
    exact ⟨y, (Dict.lookup_eq_some_iff_mem he).mpr hq, hvalues _ _ _ hp hq⟩

theorem clashes_dict_iff {d e : List (Text × Json PyNumber)} (he : (e.map Prod.fst).Nodup) :
    clashes (.dict d) (.dict e) = true ↔
      ∃ key x y, (key, x) ∈ d ∧ (key, y) ∈ e ∧ clashes x y = true := by
  rw [clashes, clashesEntries_iff]
  constructor
  · rintro ⟨p, hp, y, hy, h⟩
    exact ⟨p.1, p.2, y, hp, (Dict.lookup_eq_some_iff_mem he).mp hy, h⟩
  · rintro ⟨key, x, y, hx, hy, h⟩
    exact ⟨(key, x), hx, y, (Dict.lookup_eq_some_iff_mem he).mpr hy, h⟩

/-! ## The two equalities -/

/-- **The same value is an equal one without a clash**, and conversely. -/
theorem sameJson_iff_pyEq {x y : Json PyNumber} (hx : x.KeysDistinct) (hy : y.KeysDistinct) :
    SameJson x y ↔ pyEq x y = true ∧ clashes x y = false := by
  induction x using Json.induction generalizing y with
  | null => cases y <;> simp [pyEq, clashes] <;> first | exact .null | exact fun h => nomatch h
  | bool b =>
    constructor
    · rintro ⟨⟩
      simp [pyEq, clashes]
    · intro h
      cases y <;> simp [pyEq, clashes] at h
      subst h
      exact .bool b
  | number n =>
    constructor
    · rintro ⟨⟩
      simpa [pyEq, clashes]
    · intro h
      cases y <;> simp [pyEq, clashes] at h
      exact .number h
  | str t =>
    constructor
    · rintro ⟨⟩
      simp [pyEq, clashes]
    · intro h
      cases y <;> simp [pyEq, clashes] at h
      subst h
      exact .str t
  | list xs ih =>
    rw [Json.keysDistinct_list_iff] at hx
    have hpair : ∀ {ys : List (Json PyNumber)}, (Json.list ys).KeysDistinct → ∀ p ∈ xs.zip ys,
        (SameJson p.1 p.2 ↔ pyEq p.1 p.2 = true ∧ clashes p.1 p.2 = false) := by
      intro ys hys p hp
      have hmem := List.of_mem_zip hp
      exact ih p.1 hmem.1 (hx _ hmem.1) (Json.keysDistinct_list_iff.mp hys _ hmem.2)
    constructor
    · intro h
      cases h with
      | list hlength hitems =>
        rw [pyEq, pyEqItems_iff, clashes, ← Bool.not_eq_true, clashesItems_iff]
        refine ⟨⟨hlength, fun p hp => ((hpair hy p hp).mp (hitems p hp)).1⟩, ?_⟩
        rintro ⟨p, hp, hclash⟩
        rw [((hpair hy p hp).mp (hitems p hp)).2] at hclash
        cases hclash
    · rintro ⟨heq, hclash⟩
      cases y with
      | list ys =>
        rw [pyEq, pyEqItems_iff] at heq
        rw [clashes, ← Bool.not_eq_true, clashesItems_iff] at hclash
        refine .list heq.1 fun p hp => (hpair hy p hp).mpr ⟨heq.2 p hp, ?_⟩
        rw [← Bool.not_eq_true]
        exact fun hc => hclash ⟨p, hp, hc⟩
      | _ => simp [pyEq] at heq
  | dict d ih =>
    rw [Json.keysDistinct_dict_iff] at hx
    have hentry : ∀ {e : List (Text × Json PyNumber)}, (Json.dict e).KeysDistinct →
        ∀ key x y, (key, x) ∈ d → (key, y) ∈ e →
          (SameJson x y ↔ pyEq x y = true ∧ clashes x y = false) := by
      intro e he key x y hxd hye
      exact ih (key, x) hxd (hx.2 _ hxd) ((Json.keysDistinct_dict_iff.mp he).2 _ hye)
    constructor
    · intro h
      cases h with
      | dict hkeys hvalues =>
        have he := (Json.keysDistinct_dict_iff.mp hy).1
        rw [pyEq_dict_iff hx.1 he, ← Bool.not_eq_true, clashes_dict_iff he]
        refine ⟨⟨hkeys, fun key x y hxd hye =>
          ((hentry hy key x y hxd hye).mp (hvalues key x y hxd hye)).1⟩, ?_⟩
        rintro ⟨key, x, y, hxd, hye, hclash⟩
        rw [((hentry hy key x y hxd hye).mp (hvalues key x y hxd hye)).2] at hclash
        cases hclash
    · rintro ⟨heq, hclash⟩
      cases y with
      | dict e =>
        have he := (Json.keysDistinct_dict_iff.mp hy).1
        rw [pyEq_dict_iff hx.1 he] at heq
        rw [← Bool.not_eq_true, clashes_dict_iff he] at hclash
        refine .dict heq.1 fun key x y hxd hye => (hentry hy key x y hxd hye).mpr
          ⟨heq.2 key x y hxd hye, ?_⟩
        rw [← Bool.not_eq_true]
        exact fun hc => hclash ⟨key, x, y, hxd, hye, hc⟩
      | _ => simp [pyEq] at heq

/-! ## Reading booleans as numbers -/

mutual

/-- The value with `true` read as 1 and `false` as 0. -/
def numbered : Json PyNumber → Json PyNumber
  | .bool b => .number (.int (if b then 1 else 0))
  | .list xs => .list (numberedItems xs)
  | .dict d => .dict (numberedEntries d)
  | .null => .null
  | .number n => .number n
  | .str t => .str t

def numberedItems : List (Json PyNumber) → List (Json PyNumber)
  | [] => []
  | x :: xs => numbered x :: numberedItems xs

def numberedEntries : List (Text × Json PyNumber) → List (Text × Json PyNumber)
  | [] => []
  | (key, x) :: d => (key, numbered x) :: numberedEntries d

end

theorem numberedItems_eq (xs : List (Json PyNumber)) : numberedItems xs = xs.map numbered := by
  induction xs with
  | nil => rfl
  | cons x xs ih => rw [numberedItems, ih, List.map_cons]

theorem numberedEntries_eq (d : List (Text × Json PyNumber)) :
    numberedEntries d = d.map fun e => (e.1, numbered e.2) := by
  induction d with
  | nil => rfl
  | cons e d ih =>
    obtain ⟨key, x⟩ := e
    rw [numberedEntries, ih, List.map_cons]

theorem map_fst_numberedEntries (d : List (Text × Json PyNumber)) :
    (numberedEntries d).map Prod.fst = d.map Prod.fst := by
  rw [numberedEntries_eq, List.map_map]
  rfl

theorem mem_numberedEntries {d : List (Text × Json PyNumber)} {key : Text} {x' : Json PyNumber} :
    (key, x') ∈ numberedEntries d ↔ ∃ x, (key, x) ∈ d ∧ x' = numbered x := by
  rw [numberedEntries_eq, List.mem_map]
  constructor
  · rintro ⟨⟨key', x⟩, he, heq⟩
    cases heq
    exact ⟨x, he, rfl⟩
  · rintro ⟨x, he, rfl⟩
    exact ⟨(key, x), he, rfl⟩

theorem numbered_keysDistinct {x : Json PyNumber} (hx : x.KeysDistinct) :
    (numbered x).KeysDistinct := by
  induction x using Json.induction with
  | list xs ih =>
    rw [numbered, numberedItems_eq, Json.keysDistinct_list_iff]
    intro y hy
    obtain ⟨x, hmem, rfl⟩ := List.mem_map.mp hy
    exact ih x hmem (Json.keysDistinct_list_iff.mp hx x hmem)
  | dict d ih =>
    rw [Json.keysDistinct_dict_iff] at hx
    rw [numbered, Json.keysDistinct_dict_iff, map_fst_numberedEntries]
    refine ⟨hx.1, ?_⟩
    rintro ⟨key, y⟩ he
    obtain ⟨x, hmem, rfl⟩ := mem_numberedEntries.mp he
    exact ih _ hmem (hx.2 _ hmem)
  | _ => rwa [numbered]

theorem clashes_numbered {x y : Json PyNumber} (hy : y.KeysDistinct) :
    clashes (numbered x) (numbered y) = false := by
  induction x using Json.induction generalizing y with
  | list xs ih =>
    cases y with
    | list ys =>
      rw [numbered, numbered, clashes, ← Bool.not_eq_true, clashesItems_iff, numberedItems_eq,
        numberedItems_eq, List.zip_map]
      rintro ⟨p, hp, h⟩
      obtain ⟨q, hq, rfl⟩ := List.mem_map.mp hp
      have hmem := List.of_mem_zip hq
      have := ih q.1 hmem.1 (Json.keysDistinct_list_iff.mp hy _ hmem.2)
      rw [Prod.map_fst, Prod.map_snd, this] at h
      cases h
    | _ => simp [numbered, clashes]
  | dict d ih =>
    cases y with
    | dict e =>
      have he := Json.keysDistinct_dict_iff.mp hy
      rw [numbered, numbered, ← Bool.not_eq_true,
        clashes_dict_iff (by rw [map_fst_numberedEntries]; exact he.1)]
      rintro ⟨key, x', y', hx', hy', h⟩
      obtain ⟨x, hx, rfl⟩ := mem_numberedEntries.mp hx'
      obtain ⟨y, hye, rfl⟩ := mem_numberedEntries.mp hy'
      rw [ih _ hx (he.2 _ hye)] at h
      cases h
    | _ => simp [numbered, clashes]
  | _ => cases y <;> simp [numbered, clashes]

theorem value_numbered (b : Bool) : PyNumber.value (.int (if b then 1 else 0)) = boolValue b := by
  cases b <;> rfl

theorem pyEq_numbered {x y : Json PyNumber} (hx : x.KeysDistinct) (hy : y.KeysDistinct) :
    pyEq (numbered x) (numbered y) = true ↔ pyEq x y = true := by
  induction x using Json.induction generalizing y with
  | bool b =>
    cases y with
    | bool b' => cases b <;> cases b' <;> decide
    | _ => simp [numbered, pyEq, value_numbered]
  | number n => cases y <;> simp [numbered, pyEq, value_numbered]
  | list xs ih =>
    cases y with
    | list ys =>
      rw [numbered, numbered, pyEq, pyEq, pyEqItems_iff, pyEqItems_iff, numberedItems_eq,
        numberedItems_eq, List.zip_map, List.length_map, List.length_map, List.forall_mem_map]
      refine and_congr_right' (forall₂_congr fun p hp => ?_)
      have hmem := List.of_mem_zip hp
      exact ih p.1 hmem.1 (Json.keysDistinct_list_iff.mp hx _ hmem.1)
        (Json.keysDistinct_list_iff.mp hy _ hmem.2)
    | _ => simp [numbered, pyEq]
  | dict d ih =>
    cases y with
    | dict e =>
      have hd := Json.keysDistinct_dict_iff.mp hx
      have he := Json.keysDistinct_dict_iff.mp hy
      rw [numbered, numbered, pyEq_dict_iff hd.1 he.1,
        pyEq_dict_iff (by rw [map_fst_numberedEntries]; exact hd.1)
          (by rw [map_fst_numberedEntries]; exact he.1),
        map_fst_numberedEntries, map_fst_numberedEntries]
      refine and_congr_right' ⟨fun h key x y hxd hye => ?_, fun h key x' y' hx' hy' => ?_⟩
      · exact (ih _ hxd (hd.2 _ hxd) (he.2 _ hye)).mp (h key _ _ (mem_numberedEntries.mpr ⟨x, hxd, rfl⟩)
          (mem_numberedEntries.mpr ⟨y, hye, rfl⟩))
      · obtain ⟨x, hxd, rfl⟩ := mem_numberedEntries.mp hx'
        obtain ⟨y, hye, rfl⟩ := mem_numberedEntries.mp hy'
        exact (ih _ hxd (hd.2 _ hxd) (he.2 _ hye)).mpr (h key x y hxd hye)
    | _ => simp [numbered, pyEq]
  | _ => cases y <;> simp [numbered, pyEq]

/-- **Python's `==` is the equality of the values once booleans are read as numbers.** -/
theorem pyEq_iff_numbered {x y : Json PyNumber} (hx : x.KeysDistinct) (hy : y.KeysDistinct) :
    pyEq x y = true ↔ SameJson (numbered x) (numbered y) := by
  rw [sameJson_iff_pyEq (numbered_keysDistinct hx) (numbered_keysDistinct hy), pyEq_numbered hx hy,
    clashes_numbered hy]
  simp

end ApiTests.Py
