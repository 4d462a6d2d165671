import ApiTests.Py.JsonEqual
import ApiTests.Py.JsonString
import ApiTests.Py.Re

/-!
# The dependency contract

Model of the data of `dependency_contract.py:13-51`: the contract that is read from the declarations
and the lock, and the normalized name of a distribution. How the contract is read from the files is
not modelled here.
-/

namespace ApiTests.Dependencies

open Py

/-- `PYPI_INDEX`. -/
def pypiIndex : Text := lit "https://pypi.org/simple"

/-- `PROJECT_NAME`. -/
def projectName : Text := lit "budget-analyzer-api-tests"

/-- `LockedRequirement`. -/
structure LockedRequirement where
  name : Text
  version : Text
  deriving Repr, DecidableEq

/-- `DependencyContract`. Its pins are read from UTF-8 files. -/
structure DependencyContract where
  pythonPin : Text
  requiresPython : Text
  uvVersion : Text
  pipAuditVersion : Text
  directRequirements : List Text
  lockedRequirements : List LockedRequirement
  pythonPin_system : IsSystemText pythonPin
  uvVersion_system : IsSystemText uvVersion

/-- `[-_.]`. -/
def isSeparator (c : Nat) : Bool := c = 45 || c = 95 || c = 46

/-- `canonicalize_name`; `lower` is `str.lower`. -/
def canonicalizeName (lower : Text → Text) (name : Text) : Text :=
  lower ((Re.rep 1 isSeparator).sub (fun _ => lit "-") name)

/-- A number in a message. -/
def decimal (n : Nat) : Text := lit (toString n)

/-- What `json.loads` raises. -/
inductive LoadsError where
  | jsonDecodeError (message : Text)
  /-- Another exception: too deep a value, or too long a number. -/
  | other
  deriving Repr, DecidableEq

end ApiTests.Dependencies
