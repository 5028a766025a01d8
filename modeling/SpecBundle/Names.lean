import SpecBundle.Diagnostic
import SpecBundle.Spec.Table
import SpecBundle.Text.Lowercase

/-!
# Names

The platform knows tables and columns by the lowercase form of their schema names, and gives every
table a primary key `{entity}id` of its own. A column that would have that name is called
`{entity}_name` instead. `ColumnNames` holds the outcome for one table; attributes, views and
forms all resolve their references through it.
-/

namespace SpecBundle

/-! ## Logical and bare names -/

/-- The name by which the platform knows something. -/
def logicalName (schemaName : String) : String :=
  Text.lowercase schemaName

/-- The logical name of a table. -/
def Table.logicalName (t : Table) : String :=
  SpecBundle.logicalName t.schemaName

/-- The logical name of a column. -/
def Column.logicalName (c : Column) : String :=
  SpecBundle.logicalName c.schemaName

/-- What follows a start in a text, where the case of ASCII letters does not count. -/
def afterIgnoringCase : (start text : List Char) → Option (List Char)
  | [], text => some text
  | _ :: _, [] => none
  | s :: start, c :: text => if s.toLower = c.toLower then afterIgnoringCase start text else none

/-- The name without the publisher's prefix and its underscore, if something follows them. -/
def bareName (schemaName namePrefix : String) : String :=
  match afterIgnoringCase namePrefix.toList schemaName.toList with
  | some ('_' :: c :: rest) => String.ofList (c :: rest)
  | _ => schemaName

/-! ## Names that collide with the primary key -/

/-- The name of the primary key that the platform gives a table. -/
def primaryKeyName (entity : String) : String :=
  entity ++ "id"

/-- The substitute for a column's name that is the name of its table's primary key. -/
def collisionName? (physical entity : String) : Option String :=
  if physical = primaryKeyName entity then some (entity ++ "_name") else none

/-- The name that a column with the given logical name gets in a table. -/
def effectiveName (physical entity : String) : String :=
  (collisionName? physical entity).getD physical

/-- A name that is not that of the primary key stays. -/
theorem effectiveName_of_ne {physical entity : String} (h : physical ≠ primaryKeyName entity) :
    effectiveName physical entity = physical := by
  simp [effectiveName, collisionName?, h]

/-- The name of the primary key is replaced. -/
@[simp] theorem effectiveName_primaryKeyName (entity : String) :
    effectiveName (primaryKeyName entity) entity = entity ++ "_name" := by
  simp [effectiveName, collisionName?]

/-- The name that a column gets in a table with the given logical name. -/
def Column.effectiveName (c : Column) (entity : String) : String :=
  SpecBundle.effectiveName c.logicalName entity

/-! ## Lookups -/

/-- The tables of the platform itself that users and owners are rows of. Lookups to them are set
up by hand after the import and are never generated. -/
def builtinPrincipals : List String := ["systemuser"]

/-- Whether a name is that of a built-in principal, in any case of letters. -/
def isBuiltinPrincipal (entity : String) : Bool :=
  builtinPrincipals.any fun principal => Text.equalsIgnoringCase principal entity

/-- The target of a lookup that is generated. -/
def Column.lookupTarget? (c : Column) : Option String :=
  match c.kind with
  | .lookup target => if isBuiltinPrincipal target then none else some target
  | _ => none

/-- The column that a reference names, in any case of ASCII letters. -/
def Table.column? (t : Table) (reference : String) : Option Column :=
  t.columns.find? fun c => Text.equalsIgnoringCase c.schemaName reference

/-- Whether the column is a lookup to the table with the given logical name. -/
def Column.looksUp (c : Column) (entity : String) : Bool :=
  match c.kind with
  | .lookup target => Text.equalsIgnoringCase target entity
  | _ => false

/-- The lookup columns that point to the table with the given logical name. -/
def Table.lookupsTo (t : Table) (entity : String) : List Column :=
  t.columns.filter (·.looksUp entity)

/-! ## The names of a table -/

/-- The names of one table's columns. -/
structure ColumnNames where
  /-- The logical name of the table. -/
  entity : String
  /-- The logical names of the columns in declared order, each once. -/
  logical : List String
  /-- The effective name of the primary column, if the table has it. -/
  primary : Option String
  deriving DecidableEq, Repr

/-- The names of a table's columns. -/
def Table.names (t : Table) : ColumnNames where
  entity := t.logicalName
  logical := (t.columns.map (·.logicalName)).eraseDups
  primary := t.primary?.map (·.effectiveName t.logicalName)

namespace ColumnNames

/-- The primary key of the table. -/
def primaryKey (names : ColumnNames) : String :=
  primaryKeyName names.entity

/-- The name that a reference stands for: a column's effective name, or the lowercase reference
where the table has no such column. -/
def resolve (names : ColumnNames) (reference : String) : String :=
  let logical := logicalName reference
  if logical ∈ names.logical then effectiveName logical names.entity else logical

/-- The effective name of one of the table's columns. -/
def of (names : ColumnNames) (c : Column) : String :=
  names.resolve c.schemaName

/-- The effective names, one for each logical name. -/
def effective (names : ColumnNames) : List String :=
  names.logical.map (effectiveName · names.entity)

/-- The first column with the given effective name of the table that the names are of. -/
def columnFor? (names : ColumnNames) (t : Table) (name : String) : Option Column :=
  t.columns.find? fun c => c.effectiveName names.entity == name

end ColumnNames

/-- The names of a table give each of its columns its effective name. -/
theorem Table.names_of {t : Table} {c : Column} (h : c ∈ t.columns) :
    t.names.of c = c.effectiveName t.logicalName := by
  have known : SpecBundle.logicalName c.schemaName ∈ t.names.logical := by
    simp only [Table.names, List.mem_eraseDups]
    exact List.mem_map_of_mem h
  simp only [ColumnNames.of, ColumnNames.resolve, if_pos known]
  rfl

/-- The record of a column's renaming, if its name is that of the primary key. -/
def Column.renaming? (c : Column) (entity : String) : Option Diagnostic :=
  (collisionName? c.logicalName entity).map fun renamed =>
    .info .columnRenamed (entity ++ "." ++ c.schemaName)
      ("renamed to " ++ renamed ++ " (collides with auto-generated primary key)")

/-- The records of all renamed columns of a table. -/
def Table.renamings (t : Table) : List Diagnostic :=
  t.columns.filterMap (·.renaming? t.logicalName)

end SpecBundle
