import ApiTests.Py.JsonEqual

/-!
# What `yaml.safe_load` returns

Besides the values JSON has, a YAML document can give dates, bytes and sets, and a mapping's keys
need not be texts. Nothing looks into these, so they are one `object`, and a key that is no text is
told by a number. `x in s` for a frozen set `s` of texts hashes `x` first, and raises a `TypeError` on
a list or a mapping; a set is looked up as the frozen set of its elements, which raises nothing.
-/

namespace ApiTests.Py

/-- A key of a mapping. -/
inductive YamlKey where
  | text (t : Text)
  /-- A key of another type. -/
  | other (n : Nat)
  deriving DecidableEq

/-- A value of `yaml.safe_load`. -/
inductive Yaml where
  | null
  | bool (b : Bool)
  | number (n : PyNumber)
  | str (t : Text)
  | list (items : List Yaml)
  | dict (entries : List (YamlKey × Yaml))
  /-- A date, bytes or a set. -/
  | object

/-- `mapping.get(key)`. -/
def yamlGet (entries : List (YamlKey × Yaml)) (key : Text) : Yaml :=
  (entries.lookup (.text key)).getD .null

/-- Looking the value up in a frozen set does not raise. -/
def Yaml.hashable : Yaml → Bool
  | .list _ | .dict _ => false
  | _ => true

end ApiTests.Py
