import SpecBundle.Decimal.Integer
import SpecBundle.Names

/-!
# Relationships

Every generated lookup column is one relationship from the table that owns it to the table that it
points to. Its name is made from the publisher's prefix, the table and the column; where that name
is taken, in any case of letters, the first free suffix `_2`, `_3`, ... is added and recorded.
-/

namespace SpecBundle

/-- A relationship of one row to many. -/
structure Relationship where
  /-- The name. -/
  name : String
  /-- The logical name of the table that owns the lookup. -/
  referencingEntity : String
  /-- The logical name of the table that the lookup points to. -/
  referencedEntity : String
  /-- The effective name of the lookup. -/
  referencingAttribute : String
  deriving DecidableEq, Repr

/-- The name of the relationship that a lookup of a table defines. -/
def relationshipName (namePrefix table lookup : String) : String :=
  namePrefix ++ "_" ++ bareName table namePrefix ++ "_" ++ bareName lookup namePrefix

namespace Relationship

/-- The relationship that a column defines, if it is a generated lookup. -/
def ofColumn? (namePrefix : String) (t : Table) (c : Column) : Option Relationship :=
  c.lookupTarget?.map fun target =>
    { name := relationshipName namePrefix t.schemaName c.schemaName
      referencingEntity := t.logicalName
      referencedEntity := logicalName target
      referencingAttribute := c.effectiveName t.logicalName }

/-- The relationships of all tables before their names are made unique, each with the schema name
of its column. -/
def candidates (namePrefix : String) (tables : List Table) : List (Relationship × String) :=
  tables.flatMap fun t => t.columns.filterMap fun c =>
    (ofColumn? namePrefix t c).map fun r => (r, c.schemaName)

/-! ## Names that are taken -/

/-- The name with a numbered suffix. -/
def suffixed (base : String) (n : Nat) : String :=
  base ++ "_" ++ Decimal.ofNat n

/-- The first of the suffixes `n`, `n + 1`, ..., at most `tries` of them, that makes the name
free. -/
def freeName? (taken : List String) (base : String) : (tries n : Nat) → Option String
  | 0, _ => none
  | tries + 1, n =>
    if logicalName (suffixed base n) ∈ taken then freeName? taken base tries (n + 1)
    else some (suffixed base n)

/-- The record of a relationship that got another name. -/
def renameRecord (r : Relationship) (column unique : String) : Diagnostic :=
  .warn .relationshipRenamed (r.referencingEntity ++ "." ++ column)
    (r.name ++ " is already taken, renamed to " ++ unique)

/-- The relationships with unique names, each with the record of its renaming if it was renamed.
`taken` holds the lowercase names already given. -/
def settle (taken : List String) :
    List (Relationship × String) → List (Relationship × Option Diagnostic)
  | [] => []
  | (r, column) :: rest =>
    if logicalName r.name ∈ taken then
      let unique := (freeName? taken r.name taken.length 2).getD ""
      ({ r with name := unique }, some (r.renameRecord column unique)) ::
        settle (logicalName unique :: taken) rest
    else (r, none) :: settle (logicalName r.name :: taken) rest

/-- Every candidate becomes one relationship. -/
theorem length_settle (taken : List String) (candidates : List (Relationship × String)) :
    (settle taken candidates).length = candidates.length := by
  induction candidates generalizing taken with
  | nil => rfl
  | cons candidate rest ih =>
    unfold settle
    split <;> simp [ih]

/-- The relationships of all tables, in the order of tables and columns, with their renamings. -/
def settleAll (namePrefix : String) (tables : List Table) :
    List (Relationship × Option Diagnostic) :=
  settle [] (candidates namePrefix tables)

/-- The relationships of all tables. -/
def deriveAll (namePrefix : String) (tables : List Table) : List Relationship :=
  (settleAll namePrefix tables).map (·.1)

/-- The records of the relationships that got another name. -/
def renamings (namePrefix : String) (tables : List Table) : List Diagnostic :=
  (settleAll namePrefix tables).filterMap (·.2)

end Relationship

end SpecBundle
