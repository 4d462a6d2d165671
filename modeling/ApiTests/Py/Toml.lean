import ApiTests.Py.Sorted
import ApiTests.Py.Unicode

/-!
# What `tomllib.loads` returns

A TOML document is a table of texts, arrays, tables and scalars of other types: numbers, booleans,
dates and times. Nothing in the program looks into these, so a scalar is told by what it prints as.

Results:
* `isSingle_iff`: the comparison with a dictionary of one text.
-/

namespace ApiTests.Py

/-- A value of `tomllib.loads`. -/
inductive Toml where
  | str (t : Text)
  | array (items : List Toml)
  | table (entries : List (Text × Toml))
  /-- A number, a boolean, a date or a time. -/
  | scalar (printed : Text)

/-- The entries of a table. -/
abbrev TomlTable := List (Text × Toml)

mutual

/-- `repr(value)`. -/
def Toml.reprValue (unicode : Unicode) : Toml → Text
  | .str t => reprText unicode t
  | .array items => lit "[" ++ joinTexts (reprItems unicode items) ++ lit "]"
  | .table entries => lit "\x7b" ++ joinTexts (reprEntries unicode entries) ++ lit "\x7d"
  | .scalar printed => printed

def reprItems (unicode : Unicode) : List Toml → List Text
  | [] => []
  | item :: items => item.reprValue unicode :: reprItems unicode items

def reprEntries (unicode : Unicode) : TomlTable → List Text
  | [] => []
  | (key, value) :: entries =>
    (reprText unicode key ++ lit ": " ++ value.reprValue unicode) :: reprEntries unicode entries

end

/-- `table == {key: t}`. -/
def isSingle (key t : Text) : TomlTable → Bool
  | [(k, .str value)] => k = key && value = t
  | _ => false

theorem isSingle_iff {key t : Text} {table : TomlTable} :
    isSingle key t table = true ↔ table = [(key, .str t)] := by
  constructor
  · intro h
    unfold isSingle at h
    split at h
    · rw [Bool.and_eq_true, decide_eq_true_eq, decide_eq_true_eq] at h
      rw [h.1, h.2]
    · cases h
  · rintro rfl
    simp [isSingle]

end ApiTests.Py
