import SpecBundle.Spec.Choice

/-!
# Tables and columns

A table is a named list of columns, one of which is declared its primary column.
-/

namespace SpecBundle

/-- What a column holds. -/
inductive ColumnKind where
  /-- A line of text. -/
  | text (maxLength : Option Nat)
  /-- A line of text that is numbered by a format. -/
  | autoNumber (maxLength : Option Nat) (format : Option String)
  /-- Several lines of text. -/
  | memo
  /-- An integer. -/
  | wholeNumber (default : Option Int)
  /-- A floating point number. -/
  | float (precision : Option Nat)
  /-- A decimal number. -/
  | decimal (precision : Option Nat)
  /-- An amount of money. -/
  | currency
  /-- Yes or no. -/
  | boolean (default : Bool)
  /-- A date and a time of day. -/
  | dateTime
  /-- A date. -/
  | dateOnly
  /-- An option of a global choice. -/
  | globalChoice (choiceName : String)
  /-- One of the column's own options. -/
  | choice (options : List ChoiceOption)
  /-- A reference to a row of a table. -/
  | lookup (target : String)
  /-- A value that is computed elsewhere; never generated. -/
  | calculated
  /-- A kind that is not known, by its name; reported and never generated. -/
  | unknown (name : String)
  deriving DecidableEq, Repr

/-- A column of a table. -/
structure Column where
  /-- The name, in the spelling of its author. -/
  schemaName : String
  /-- What the user sees. -/
  displayName : String
  /-- A description, if there is one. -/
  description : Option String
  /-- Whether it must be filled in. -/
  required : Bool
  /-- Whether changes are recorded. -/
  audit : Bool
  /-- Whether it holds protected health information and is secured. -/
  phi : Bool
  /-- What it holds. -/
  kind : ColumnKind
  deriving DecidableEq, Repr

/-- Who owns the rows of a table. -/
inductive Ownership where
  /-- A user or team owns each row. -/
  | user
  /-- The organization owns all rows. -/
  | organization
  deriving DecidableEq, Repr

/-- The mask by which the platform knows a kind of ownership. -/
def Ownership.typeMask : Ownership → String
  | .user => "UserOwned"
  | .organization => "OrgOwned"

/-- A table. -/
structure Table where
  /-- The name, in the spelling of its author. -/
  schemaName : String
  /-- What the user sees. -/
  displayName : String
  /-- What the user sees for several rows. -/
  pluralName : String
  /-- A description, which may be empty. -/
  description : String
  /-- The schema name of the primary column. -/
  primaryColumn : String
  /-- Who owns the rows. -/
  ownership : Ownership
  /-- Whether changes are recorded. -/
  auditEnabled : Bool
  /-- The columns in declared order. -/
  columns : List Column
  deriving DecidableEq, Repr

/-- The first column that bears the declared primary column's name. -/
def Table.primary? (t : Table) : Option Column :=
  t.columns.find? (·.schemaName == t.primaryColumn)

end SpecBundle
