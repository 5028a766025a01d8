import SpecBundle.Choices
import SpecBundle.Decimal.Integer
import SpecBundle.Spec.View

/-!
# Compiled conditions

A condition of a view's filter is compiled to the attribute that it tests, an operator of the
query language and what the operator is applied to. Relative dates become windows counted in
days, and labels of options become their values.
-/

namespace SpecBundle

/-! ## References -/

/-- The columns that the platform gives every table. -/
def systemColumns : List String :=
  ["createdon", "modifiedon", "statecode", "statuscode", "ownerid"]

/-- The names that a view or form of a table may refer to: the effective names of its columns, its
primary key, its primary column and the system columns. -/
def ColumnNames.valid (names : ColumnNames) : List String :=
  names.effective ++ names.primaryKey :: names.primary.toList ++ systemColumns

/-- Why a reference is left out. -/
inductive ReferenceError where
  /-- It refers to a column of another table. -/
  | linkedEntity
  /-- The table has no such column. -/
  | unknownColumn
  deriving DecidableEq, Repr

/-- The cause in words. -/
def ReferenceError.message : ReferenceError → String
  | .linkedEntity => "linked entity reference, configure manually"
  | .unknownColumn => "column not found in table definition"

/-- The name that a reference of a view stands for. -/
def ColumnNames.resolveValid (names : ColumnNames) (reference : String) :
    Except ReferenceError String :=
  if '.' ∈ reference.toList then .error .linkedEntity
  else if names.resolve reference ∈ names.valid then .ok (names.resolve reference)
  else .error .unknownColumn

/-! ## Operators -/

/-- The operators that are applied to nothing. -/
def valuelessOperators : List String := [
  "null", "not-null", "today", "yesterday", "tomorrow", "this-week", "last-week", "next-week",
  "this-month", "last-month", "next-month", "this-year", "last-year", "next-year",
  "eq-userid", "ne-userid", "eq-businessid", "ne-businessid"]

/-- The operators whose number counts days or months. -/
def relativeOperators : List String :=
  ["last-x-days", "next-x-days", "last-x-months", "on-or-before", "on-or-after"]

/-- The operators that are applied to a list. -/
def listOperators : List String :=
  ["in", "not-in"]

/-- What an operator is applied to. -/
inductive Payload where
  /-- Nothing. -/
  | none
  /-- One value. -/
  | single (value : String)
  /-- A list of values. -/
  | list (values : List String)
  deriving DecidableEq, Repr

/-- A condition of a compiled filter. -/
structure QueryCondition where
  /-- The effective name of the column that is tested. -/
  column : String
  /-- The operator. -/
  operator : String
  /-- What it is applied to. -/
  payload : Payload
  deriving DecidableEq, Repr

/-- The operator and payload of a date window: up to a date looks ahead, from a date on looks back
unless the offset is zero, and anything else looks ahead. -/
def relativeWindow (operator offset : String) (isZero : Bool) : String × Payload :=
  if operator = "on-or-after" then
    if isZero then ("today", .none) else ("last-x-days", .single offset)
  else ("next-x-days", .single offset)

/-! ## Conditions -/

/-- Whether a number is zero. -/
def isZero : Json.Number → Bool
  | .integer n => n == 0
  | .decimal x => x == 0

/-- The text of an operand for a column of a table. The label of one of the column's options
stands for the option's value. -/
def Operand.queryText (index : ChoiceIndex) (entity column : String) : Operand → String
  | .bool b => if b then "1" else "0"
  | .number n => n.text
  | .text label => ((index.valueOf? entity column label).map Decimal.ofInt).getD label
  | .relative date => Decimal.ofInt date.offset

/-- The operator and payload of a condition on an attribute; none if the operator needs a value
and there is none. -/
def Condition.compile? (index : ChoiceIndex) (entity column : String) (c : Condition) :
    Option (String × Payload) :=
  if c.operator ∈ valuelessOperators then some (c.operator, .none)
  else
    match c.value with
    | some (.relative date) =>
      some (relativeWindow c.operator (Decimal.ofInt date.offset) (date.offset == 0))
    | value =>
      if c.operator ∈ listOperators then
        some (c.operator, .list (c.values.map (·.queryText index entity column)))
      else
        match value with
        | none => none
        | some (.number n) =>
          if c.operator = "on-or-before" ∨ c.operator = "on-or-after" then
            some (relativeWindow c.operator n.text (isZero n))
          else some (c.operator, .single n.text)
        | some operand => some (c.operator, .single (operand.queryText index entity column))

/-- A condition, compiled, or the record of why it is left out. -/
def Condition.outcome (index : ChoiceIndex) (names : ColumnNames) (c : Condition) :
    Except Diagnostic QueryCondition :=
  let skipped (reason : String) : Except Diagnostic QueryCondition :=
    .error (.warn .filterSkipped (names.entity ++ "." ++ c.column) reason)
  match names.resolveValid c.column with
  | .error e => skipped e.message
  | .ok column =>
    match c.compile? index names.entity column with
    | none => skipped ("operator " ++ c.operator ++ " requires a value")
    | some compiled => .ok ⟨column, compiled.1, compiled.2⟩

end SpecBundle
