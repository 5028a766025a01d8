/-!
# Environment variables

A named value that is set once for each environment a solution is imported into.
-/

namespace SpecBundle

/-- The type of an environment variable's value. -/
inductive VariableType where
  /-- A text. -/
  | string
  /-- A number. -/
  | decimal
  /-- Yes or no. -/
  | boolean
  /-- A JSON document. -/
  | json
  deriving DecidableEq, Repr

/-- The number by which the platform knows a type. -/
def VariableType.code : VariableType → Nat
  | .string => 100000000
  | .decimal => 100000001
  | .boolean => 100000002
  | .json => 100000003

/-- The definition of an environment variable. -/
structure EnvironmentVariable where
  /-- The name, in the spelling of its author. -/
  schemaName : String
  /-- What the user sees. -/
  displayName : String
  /-- A description, which may be empty. -/
  description : String
  /-- The type of its value. -/
  type : VariableType
  /-- The value where none is set. -/
  defaultValue : Option String
  deriving DecidableEq, Repr

end SpecBundle
