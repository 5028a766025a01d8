import SpecBundle.Relationship
import SpecBundle.Spec.Form

/-!
# The relationship of a subgrid

A subgrid shows the rows of a child table that point to the row on the form, so it needs the name
of the relationship that one of the child's lookups defines. `Subgrid.binding` finds the lookup:
the only one that points to the parent, or of none or several the one named `{prefix}_{parent}id`.
-/

namespace SpecBundle

/-- The relationship that a subgrid is bound to. -/
inductive SubgridBinding where
  /-- There is no table of the name that the subgrid gives. -/
  | unknownTable
  /-- None of the child's lookups stands out; the child is given by its logical name. -/
  | noLookup (child : String)
  /-- The relationship of a lookup of the child. -/
  | relationship (name : String)
  deriving DecidableEq, Repr

/-- The name of the lookup that stands for the parent where the child has not exactly one. -/
def expectedLookup (namePrefix : String) (parent : Table) : String :=
  logicalName (namePrefix ++ "_" ++ bareName parent.schemaName namePrefix ++ "id")

/-- The lookup of the child that a subgrid of the parent follows. -/
def Table.lookupFor? (child parent : Table) (namePrefix : String) : Option Column :=
  match child.lookupsTo parent.logicalName with
  | [only] => some only
  | lookups => lookups.find? (·.logicalName == expectedLookup namePrefix parent)

/-- The name of the relationship that a lookup of a table defines, as it was settled. -/
def relationshipNameOf (relationships : List Relationship) (namePrefix : String) (t : Table)
    (lookup : Column) : String :=
  match relationships.find? fun r => r.referencingEntity == t.logicalName &&
      r.referencingAttribute == lookup.effectiveName t.logicalName with
  | some r => r.name
  | none => relationshipName namePrefix t.schemaName lookup.schemaName

/-- The most rows a subgrid spans: half of the rows it shows, and at least two. -/
def rowSpan (maxRows : Nat) : Nat :=
  max ((maxRows + 1) / 2) 2

namespace Subgrid

/-- The relationship that a subgrid on a form of the parent is bound to. -/
def binding (s : Subgrid) (parent : Table) (tables : List Table)
    (relationships : List Relationship) (namePrefix : String) : SubgridBinding :=
  match tables.find? fun t => Text.equalsIgnoringCase t.schemaName s.entity with
  | none => .unknownTable
  | some child =>
    match child.lookupFor? parent namePrefix with
    | some lookup => .relationship (relationshipNameOf relationships namePrefix child lookup)
    | none => .noLookup child.logicalName

/-- The name of the relationship that is written for a subgrid: the one that it is bound to, or
else the one that it declares. -/
def relationshipName (s : Subgrid) : SubgridBinding → String
  | .relationship name => name
  | .unknownTable => s.relationship
  | .noLookup _ => s.relationship

/-- The record of a binding, unless it is the relationship that the subgrid declares. -/
def note? (s : Subgrid) (parent : Table) : SubgridBinding → Option Diagnostic
  | .relationship name =>
    if name = s.relationship then none
    else some (.info .relationshipResolved (parent.logicalName ++ "." ++ s.name)
      (s.relationship ++ " -> " ++ name))
  | .unknownTable =>
    some (.warn .relationshipUnresolved (parent.logicalName ++ "." ++ s.name)
      ("target table " ++ s.entity ++ " not found, keeping " ++ s.relationship))
  | .noLookup child =>
    some (.warn .relationshipUnresolved (parent.logicalName ++ "." ++ s.name)
      ("no unambiguous lookup from " ++ child ++ " to " ++ parent.logicalName ++ ", keeping " ++
        s.relationship))

end Subgrid

end SpecBundle
