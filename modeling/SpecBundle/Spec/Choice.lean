/-!
# Choices

A choice is a list of labelled integer values. A global choice has a name by which columns of any
table refer to it; a column may also hold options of its own.
-/

namespace SpecBundle

/-- One option of a choice. -/
structure ChoiceOption where
  /-- The stored value. -/
  value : Int
  /-- What the user sees. -/
  label : String
  deriving DecidableEq, Repr

/-- A choice that columns refer to by name. -/
structure GlobalChoice where
  /-- The name. -/
  schemaName : String
  /-- What the user sees. -/
  displayName : String
  /-- A description, if there is one. -/
  description : Option String
  /-- The options in display order. -/
  options : List ChoiceOption
  deriving DecidableEq, Repr

end SpecBundle
