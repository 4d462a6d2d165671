import ApiTests.Py.Text
import Mathlib.Data.List.Lex
import Mathlib.Data.List.Sort

/-!
# JSON values and `json.dumps(..., sort_keys=True)`

`Json ν` is what `json.loads` returns: `None`, a `bool`, a number (of a type `ν`: an `int` or a
`float`), a `str`, a `list`, or a `dict` whose entries stand in insertion order. A `JsonValue` has no
key twice in a dict, as a Python dict has not. `dumps` is the encoder with its default separators and
`ensure_ascii`, the entries of a dict sorted by key, and `dumpsIndented` the one with `indent=2`; how a
number is written is a parameter.

Results:
* `Json.induction`: the induction over a value, with the items of a list and the entries of a dict.
* `sortByKey_eq_of_perm`: **the order of a dict's entries does not matter to the sorted encoder.**
-/

namespace ApiTests.Py

/-- A value `json.loads` returns. -/
inductive Json (ν : Type) where
  | null
  | bool (b : Bool)
  | number (n : ν)
  | str (t : Text)
  | list (items : List (Json ν))
  | dict (entries : List (Text × Json ν))

variable {ν α : Type}

mutual

/-- No dict in the value has a key twice. -/
def Json.KeysDistinct : Json ν → Prop
  | .list items => Json.KeysDistinctItems items
  | .dict entries => (entries.map Prod.fst).Nodup ∧ Json.KeysDistinctEntries entries
  | _ => True

def Json.KeysDistinctItems : List (Json ν) → Prop
  | [] => True
  | item :: items => item.KeysDistinct ∧ Json.KeysDistinctItems items

def Json.KeysDistinctEntries : List (Text × Json ν) → Prop
  | [] => True
  | (_, item) :: entries => item.KeysDistinct ∧ Json.KeysDistinctEntries entries

end

/-- A value whose dicts have each key once. -/
structure JsonValue (ν : Type) where
  json : Json ν
  keysDistinct : json.KeysDistinct

/-- **Induction over a value**: lists from their items, dicts from their entries. -/
@[elab_as_elim] theorem Json.induction {motive : Json ν → Prop} (null : motive .null)
    (bool : ∀ b, motive (.bool b)) (number : ∀ n, motive (.number n)) (str : ∀ t, motive (.str t))
    (list : ∀ items, (∀ x ∈ items, motive x) → motive (.list items))
    (dict : ∀ entries, (∀ e ∈ entries, motive e.2) → motive (.dict entries)) :
    ∀ x, motive x
  | .null => null
  | .bool b => bool b
  | .number n => number n
  | .str t => str t
  | .list items => list items fun x _ => Json.induction null bool number str list dict x
  | .dict entries => dict entries fun e _ => Json.induction null bool number str list dict e.2
termination_by x => sizeOf x
decreasing_by
  · rename_i hx
    have := List.sizeOf_lt_of_mem hx
    simp only [Json.list.sizeOf_spec]
    omega
  · rename_i he
    have hlt := List.sizeOf_lt_of_mem he
    have hpair : sizeOf e = 1 + sizeOf e.1 + sizeOf e.2 := by
      obtain ⟨k, x⟩ := e
      rfl
    simp only [Json.dict.sizeOf_spec]
    omega

theorem Json.keysDistinct_list_iff {items : List (Json ν)} :
    (Json.list items).KeysDistinct ↔ ∀ x ∈ items, x.KeysDistinct := by
  rw [Json.KeysDistinct]
  induction items with
  | nil => simp [Json.KeysDistinctItems]
  | cons x items ih => rw [Json.KeysDistinctItems, ih, List.forall_mem_cons]

theorem Json.keysDistinct_dict_iff {entries : List (Text × Json ν)} :
    (Json.dict entries).KeysDistinct ↔
      (entries.map Prod.fst).Nodup ∧ ∀ e ∈ entries, e.2.KeysDistinct := by
  rw [Json.KeysDistinct]
  refine and_congr_right' ?_
  induction entries with
  | nil => simp [Json.KeysDistinctEntries]
  | cons e entries ih =>
    obtain ⟨key, x⟩ := e
    rw [Json.KeysDistinctEntries, ih, List.forall_mem_cons]

mutual

/-- How deep lists and dicts stand in each other. -/
def Json.depth : Json ν → Nat
  | .list items => Json.depthItems items + 1
  | .dict entries => Json.depthEntries entries + 1
  | _ => 0

def Json.depthItems : List (Json ν) → Nat
  | [] => 0
  | item :: items => max item.depth (Json.depthItems items)

def Json.depthEntries : List (Text × Json ν) → Nat
  | [] => 0
  | (_, item) :: entries => max item.depth (Json.depthEntries entries)

end

/-! ## Strings -/

/-- One character of a string, as `py_encode_basestring_ascii` writes it. -/
def escapeJson (c : Nat) : Text :=
  if c = 34 then lit "\\\""
  else if c = 92 then lit "\\\\"
  else if c = 10 then lit "\\n"
  else if c = 13 then lit "\\r"
  else if c = 9 then lit "\\t"
  else if c = 12 then lit "\\f"
  else if c = 8 then lit "\\b"
  else if 32 ≤ c ∧ c ≤ 126 then [c]
  else if c < 0x10000 then lit "\\u" ++ hexDigits 4 c
  else lit "\\u" ++ hexDigits 4 (0xD800 + (c - 0x10000) / 1024) ++
    lit "\\u" ++ hexDigits 4 (0xDC00 + (c - 0x10000) % 1024)

/-- A string with its quotes. -/
def dumpsStr (t : Text) : Text := [34] ++ t.flatMap escapeJson ++ [34]

/-! ## Sorted dicts -/

/-- The order of a dict's items by key. -/
abbrev KeyLe (e e' : Text × α) : Prop := e.1 ≤ e'.1

/-- `sorted(dct.items())`. -/
def sortByKey (entries : List (Text × α)) : List (Text × α) := entries.insertionSort KeyLe

@[simp] theorem mem_sortByKey {entries : List (Text × α)} {e : Text × α} :
    e ∈ sortByKey entries ↔ e ∈ entries := List.mem_insertionSort _

/-- **Sorting forgets the order of the entries** of a dict. -/
theorem sortByKey_eq_of_perm {entries entries' : List (Text × α)}
    (h : (entries.map Prod.fst).Nodup) (hperm : entries.Perm entries') :
    sortByKey entries = sortByKey entries' := by
  have : Std.Total (KeyLe (α := α)) := ⟨fun e e' => le_total e.1 e'.1⟩
  have : IsTrans (Text × α) KeyLe := ⟨fun _ _ _ h h' => le_trans h h'⟩
  have hsorted : ∀ l : List (Text × α), (sortByKey l).Pairwise KeyLe := List.pairwise_insertionSort _
  have hsame : (sortByKey entries).Perm (sortByKey entries') :=
    ((List.perm_insertionSort _ _).trans hperm).trans (List.perm_insertionSort _ _).symm
  refine hsame.eq_of_pairwise (fun e e' he he' hle hle' => ?_) (hsorted _) (hsorted _)
  have hmem : e ∈ entries := (List.mem_insertionSort _).mp he
  have hmem' : e' ∈ entries := hperm.mem_iff.mpr ((List.mem_insertionSort _).mp he')
  exact List.inj_on_of_nodup_map h hmem hmem' (le_antisymm hle hle')

/-! ## The encoder -/

mutual

/-- `json.dumps(value, sort_keys=True)`. -/
def dumps (number : ν → Text) : Json ν → Text
  | .null => lit "null"
  | .bool b => if b then lit "true" else lit "false"
  | .number n => number n
  | .str t => dumpsStr t
  | .list items => lit "[" ++ (lit ", ").intercalate (dumpsItems number items) ++ lit "]"
  | .dict entries =>
    lit "\x7b" ++ (lit ", ").intercalate ((sortByKey (dumpsEntries number entries)).map fun e =>
      dumpsStr e.1 ++ lit ": " ++ e.2) ++ lit "\x7d"

def dumpsItems (number : ν → Text) : List (Json ν) → List Text
  | [] => []
  | item :: items => dumps number item :: dumpsItems number items

/-- The entries of a dict, each value encoded. -/
def dumpsEntries (number : ν → Text) : List (Text × Json ν) → List (Text × Text)
  | [] => []
  | (key, item) :: entries => (key, dumps number item) :: dumpsEntries number entries

end

/-- The start of a line at a level of an indented text. -/
def newline (level : Nat) : Text := 10 :: List.replicate (2 * level) 32

mutual

/-- `json.dumps(value, indent=2, sort_keys=True)`, the value standing at a level. -/
def dumpsIndented (number : ν → Text) (level : Nat) : Json ν → Text
  | .null => lit "null"
  | .bool b => if b then lit "true" else lit "false"
  | .number n => number n
  | .str t => dumpsStr t
  | .list items =>
    if items.isEmpty then lit "[]"
    else lit "[" ++ newline (level + 1) ++ (lit "," ++ newline (level + 1)).intercalate
      (dumpsIndentedItems number (level + 1) items) ++ newline level ++ lit "]"
  | .dict entries =>
    if entries.isEmpty then lit "\x7b\x7d"
    else lit "\x7b" ++ newline (level + 1) ++ (lit "," ++ newline (level + 1)).intercalate
      ((sortByKey (dumpsIndentedEntries number (level + 1) entries)).map fun e =>
        dumpsStr e.1 ++ lit ": " ++ e.2) ++ newline level ++ lit "\x7d"

def dumpsIndentedItems (number : ν → Text) (level : Nat) : List (Json ν) → List Text
  | [] => []
  | item :: items => dumpsIndented number level item :: dumpsIndentedItems number level items

/-- The entries of a dict, each value encoded. -/
def dumpsIndentedEntries (number : ν → Text) (level : Nat) : List (Text × Json ν) → List (Text × Text)
  | [] => []
  | (key, item) :: entries =>
    (key, dumpsIndented number level item) :: dumpsIndentedEntries number level entries

end

end ApiTests.Py
