import SpecBundle.Json.Number

/-!
# Views

A view shows some columns of a table, in an order, for the rows that its filter admits.
-/

namespace SpecBundle

/-- A column that a view shows. -/
structure ViewColumn where
  /-- The reference to the column. -/
  name : String
  /-- The width at which it is shown. -/
  width : Nat
  deriving DecidableEq, Repr

/-- The direction of a sort key. -/
inductive SortDirection where
  /-- Least first. -/
  | ascending
  /-- Greatest first. -/
  | descending
  deriving DecidableEq, Repr

/-- A sort key of a view. -/
structure SortKey where
  /-- The reference to the column. -/
  column : String
  /-- The direction. -/
  direction : SortDirection
  deriving DecidableEq, Repr

/-- How the conditions of a filter are joined. -/
inductive Junction where
  /-- All must hold. -/
  | and
  /-- One must hold. -/
  | or
  deriving DecidableEq, Repr

/-- The word for a junction. -/
def Junction.word : Junction → String
  | .and => "and"
  | .or => "or"

/-- A date relative to the current one, such as seven days. -/
structure RelativeDate where
  /-- The unit that is counted, which may be empty. -/
  unit : String
  /-- How many units. -/
  offset : Int
  deriving DecidableEq, Repr

/-- A value that a condition compares with. -/
inductive Operand where
  /-- `true` or `false`. -/
  | bool (b : Bool)
  /-- A number. -/
  | number (n : Json.Number)
  /-- A text, which may be the label of an option. -/
  | text (s : String)
  /-- A relative date. -/
  | relative (date : RelativeDate)

/-- A condition of a filter. -/
structure Condition where
  /-- The reference to the column. -/
  column : String
  /-- The operator, in the spelling of its author. -/
  operator : String
  /-- The operand, if there is one. -/
  value : Option Operand
  /-- The operands of an operator that takes several. -/
  values : List Operand

/-- A filter. -/
structure Filter where
  /-- How the conditions are joined. -/
  junction : Junction
  /-- The conditions in authored order. -/
  conditions : List Condition

/-- A view. -/
structure View where
  /-- The name, in the spelling of its author. -/
  schemaName : String
  /-- What the user sees. -/
  displayName : String
  /-- The schema name of the table. -/
  entity : String
  /-- A description, if there is one. -/
  description : Option String
  /-- Whether it is the table's default view. -/
  isDefault : Bool
  /-- The columns in display order. -/
  columns : List ViewColumn
  /-- The sort keys, most significant first. -/
  sortOrder : List SortKey
  /-- The filter, if there is one. -/
  filter : Option Filter

end SpecBundle
