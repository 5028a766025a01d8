import SpecBundle.SavedQuery.Condition
import SpecBundle.StableId

/-!
# Saved queries

A view becomes a saved query: a grid that shows its columns, and a query that fetches them. Every
reference is checked on its own. One that the table does not have is left out with a record, and
the rest of the view stays as it is: `kept` and `dropped` are the two halves of such a list.
-/

namespace SpecBundle

/-- The results of a list of outcomes, in order. -/
def kept (outcomes : List (Except ε α)) : List α :=
  outcomes.filterMap fun
    | .ok a => some a
    | .error _ => none

/-- The errors of a list of outcomes, in order. -/
def dropped (outcomes : List (Except ε α)) : List ε :=
  outcomes.filterMap fun
    | .ok _ => none
    | .error e => some e

@[simp] theorem kept_cons_ok (a : α) (rest : List (Except ε α)) :
    kept (.ok a :: rest) = a :: kept rest := rfl

@[simp] theorem kept_cons_error (e : ε) (rest : List (Except ε α)) :
    kept (.error e :: rest) = kept rest := rfl

@[simp] theorem dropped_cons_ok (a : α) (rest : List (Except ε α)) :
    dropped (.ok a :: rest) = dropped rest := rfl

@[simp] theorem dropped_cons_error (e : ε) (rest : List (Except ε α)) :
    dropped (.error e :: rest) = e :: dropped rest := rfl

/-- A compiled filter. -/
structure QueryFilter where
  /-- How the conditions are joined. -/
  junction : Junction
  /-- The conditions in authored order. -/
  conditions : List QueryCondition
  deriving DecidableEq, Repr

/-- A compiled view. -/
structure SavedQuery where
  /-- What its identifier is derived from. -/
  seed : Seed
  /-- What the user sees. -/
  displayName : String
  /-- A description, if there is one. -/
  description : Option String
  /-- Whether it is the table's default view. -/
  isDefault : Bool
  /-- The attribute through which a row of the grid is opened. -/
  jump : String
  /-- The attribute that identifies a row. -/
  rowId : String
  /-- The attributes shown and their widths, in display order. -/
  cells : List (String × Nat)
  /-- The logical name of the table. -/
  entity : String
  /-- The attributes fetched. -/
  attributes : List String
  /-- The attributes sorted by and whether the greatest comes first. -/
  orders : List (String × Bool)
  /-- The filter, if there is one. -/
  filter : Option QueryFilter
  deriving DecidableEq, Repr

/-- The identifier of a saved query. -/
def SavedQuery.id (q : SavedQuery) : StableId :=
  StableId.ofSeed q.seed

/-- The seed of a view of a table. -/
def Seed.view (entity view : String) : Seed :=
  ⟨"view", [entity, view]⟩

namespace View

/-- The record of a reference that a view leaves out. -/
def skipped (v : View) (names : ColumnNames) (code : DiagnosticCode) (reference : String)
    (e : ReferenceError) : Diagnostic :=
  .warn code (names.entity ++ "." ++ reference) (e.message ++ " (view " ++ v.schemaName ++ ")")

/-- The cell of each column, or the record of why it is left out. -/
def cellOutcomes (v : View) (names : ColumnNames) : List (Except Diagnostic (String × Nat)) :=
  v.columns.map fun column =>
    ((names.resolveValid column.name).map (·, column.width)).mapError
      (v.skipped names .viewColumnSkipped column.name)

/-- The order of each sort key, or the record of why it is left out. -/
def orderOutcomes (v : View) (names : ColumnNames) : List (Except Diagnostic (String × Bool)) :=
  v.sortOrder.map fun key =>
    ((names.resolveValid key.column).map (·, key.direction == .descending)).mapError
      (v.skipped names .sortSkipped key.column)

end View

namespace Filter

/-- Each condition, compiled, or the record of why it is left out. -/
def outcomes (f : Filter) (index : ChoiceIndex) (names : ColumnNames) :
    List (Except Diagnostic QueryCondition) :=
  f.conditions.map (·.outcome index names)

/-- The compiled filter; it stays even if it has no condition left. -/
def compile (f : Filter) (index : ChoiceIndex) (names : ColumnNames) : QueryFilter :=
  ⟨f.junction, kept (f.outcomes index names)⟩

/-- The records of the conditions left out. -/
def notes (f : Filter) (index : ChoiceIndex) (names : ColumnNames) : List Diagnostic :=
  dropped (f.outcomes index names)

end Filter

/-- Appends what is not there yet. -/
def appendNew (names : List String) (name : String) : List String :=
  if name ∈ names then names else names ++ [name]

/-- Appending keeps the names apart. -/
theorem nodup_appendNew {names : List String} (h : names.Nodup) (name : String) :
    (appendNew names name).Nodup := by
  unfold appendNew
  split
  · exact h
  · rename_i hn
    rw [List.nodup_append]
    refine ⟨h, by simp, fun a ha b hb hab => hn ?_⟩
    rw [← List.mem_singleton.1 hb, ← hab]
    exact ha

namespace View

/-- The attributes that a view fetches: the primary key, then those of its cells, each once. -/
def fetched (v : View) (names : ColumnNames) : List String :=
  ((kept (v.cellOutcomes names)).map (·.1)).foldl appendNew [names.primaryKey]

/-- The saved query of a view. -/
def compile (v : View) (index : ChoiceIndex) (names : ColumnNames) : SavedQuery where
  seed := Seed.view names.entity v.schemaName
  displayName := v.displayName
  description := v.description.filter (· != "")
  isDefault := v.isDefault
  jump := names.primary.getD names.primaryKey
  rowId := names.primaryKey
  cells := kept (v.cellOutcomes names)
  entity := names.entity
  attributes := v.fetched names
  orders := kept (v.orderOutcomes names)
  filter := v.filter.map (·.compile index names)

/-- The records of what a view leaves out: columns, then sort keys, then conditions. -/
def notes (v : View) (index : ChoiceIndex) (names : ColumnNames) : List Diagnostic :=
  dropped (v.cellOutcomes names) ++ dropped (v.orderOutcomes names) ++
    (v.filter.map (·.notes index names)).getD []

end View

end SpecBundle
