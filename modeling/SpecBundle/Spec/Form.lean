/-!
# Forms

A form lays out the columns of a table for one row: a main form in tabs of sections, a quick
create form in sections only.
-/

namespace SpecBundle

/-- The kind of a form. -/
inductive FormKind where
  /-- The form in which a row is read and edited. -/
  | main
  /-- The short form in which a row is created. -/
  | quickCreate
  deriving DecidableEq, Repr

/-- A column on a form. -/
structure FormField where
  /-- The reference to the column. -/
  name : String
  /-- What the user sees, if it differs from the column's own name. -/
  label : Option String
  /-- Whether it cannot be edited. -/
  isReadOnly : Bool
  deriving DecidableEq, Repr

/-- A grid of related rows on a form. -/
structure Subgrid where
  /-- The name of the grid. -/
  name : String
  /-- What the user sees. -/
  label : String
  /-- The schema name of the table whose rows are shown. -/
  entity : String
  /-- The relationship that the author declares. -/
  relationship : String
  /-- How many rows are shown at most. -/
  maxRows : Nat
  deriving DecidableEq, Repr

/-- A section of a form. -/
structure FormSection where
  /-- The name of the section. -/
  name : String
  /-- What the user sees. -/
  label : String
  /-- The fields in display order. -/
  fields : List FormField
  /-- The grids, which follow the fields. -/
  subgrids : List Subgrid
  deriving DecidableEq, Repr

/-- A tab of a form. -/
structure FormTab where
  /-- The name of the tab. -/
  name : String
  /-- What the user sees. -/
  label : String
  /-- The sections in display order. -/
  sections : List FormSection
  deriving DecidableEq, Repr

/-- A form. -/
structure Form where
  /-- The name, in the spelling of its author. -/
  schemaName : String
  /-- What the user sees. -/
  displayName : String
  /-- The schema name of the table. -/
  entity : String
  /-- A description, if there is one. -/
  description : Option String
  /-- The kind of the form. -/
  kind : FormKind
  /-- The fields in the header of a main form. -/
  header : List FormField
  /-- The tabs of a main form. -/
  tabs : List FormTab
  /-- The sections of a quick create form. -/
  sections : List FormSection
  deriving DecidableEq, Repr

end SpecBundle
