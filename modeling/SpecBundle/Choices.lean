import SpecBundle.Names

/-!
# Choices in use

A column of a global choice is generated with the options of the choice that it names, and a
filter may name an option by its label. `choiceNamed?` finds the choice and `ChoiceIndex` finds the
value of a label. Of several with one name the last counts, both for choices and for labels.
-/

namespace SpecBundle

/-- The last of the choices that has the given name. -/
def choiceNamed? (choices : List GlobalChoice) (name : String) : Option GlobalChoice :=
  choices.reverse.find? (·.schemaName == name)

/-- The options of a column, if it is a choice that is defined. -/
def Column.options? (choices : List GlobalChoice) (c : Column) : Option (List ChoiceOption) :=
  match c.kind with
  | .globalChoice name => (choiceNamed? choices name).map (·.options)
  | .choice options => some options
  | _ => none

/-- The value of the last option with the given label. -/
def valueOfLabel? (options : List ChoiceOption) (label : String) : Option Int :=
  (options.reverse.find? (·.label == label)).map (·.value)

/-- The options of the choice columns of one table, by effective name. -/
def Table.choiceColumns (t : Table) (choices : List GlobalChoice) :
    List (String × List ChoiceOption) :=
  let names := t.names
  t.columns.filterMap fun c => (c.options? choices).map fun options => (names.of c, options)

/-- The choice columns of several tables, by entity; the table added last comes first. -/
structure ChoiceIndex where
  /-- The choice columns of each table in declared order. -/
  entities : List (String × List (String × List ChoiceOption))

namespace ChoiceIndex

/-- The index of no table. -/
def empty : ChoiceIndex := ⟨[]⟩

/-- Adds a table, unless it has no choice column. -/
def add (index : ChoiceIndex) (choices : List GlobalChoice) (t : Table) : ChoiceIndex :=
  let columns := t.choiceColumns choices
  if columns.isEmpty then index else ⟨(t.logicalName, columns) :: index.entities⟩

/-- The index of a list of tables. -/
def ofTables (choices : List GlobalChoice) (tables : List Table) : ChoiceIndex :=
  tables.foldl (·.add choices ·) empty

/-- The value of a label for a column of a table. -/
def valueOf? (index : ChoiceIndex) (entity column label : String) : Option Int := do
  let columns ← index.entities.lookup entity
  let options ← columns.reverse.lookup column
  valueOfLabel? options label

/-- A table that is added hides an earlier one of its name, unless it has no choice column. -/
theorem valueOf?_add (index : ChoiceIndex) (choices : List GlobalChoice) (t : Table)
    (entity column label : String) :
    (index.add choices t).valueOf? entity column label =
      if entity = t.logicalName ∧ t.choiceColumns choices ≠ [] then
        ((t.choiceColumns choices).reverse.lookup column).bind (valueOfLabel? · label)
      else index.valueOf? entity column label := by
  unfold add
  cases t.choiceColumns choices with
  | nil => simp
  | cons first rest =>
    by_cases he : entity = t.logicalName
    · subst he
      simp [valueOf?]
    · simp [valueOf?, List.lookup_cons, beq_false_of_ne he, he]

end ChoiceIndex

end SpecBundle
