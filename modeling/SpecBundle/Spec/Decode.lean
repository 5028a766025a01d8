import SpecBundle.Json.Decode
import SpecBundle.Spec.DataModel

/-!
# Reading specifications

The JSON shape of every part of the data model: which fields it has, in which order an array
gives them, and what stands for a field that is left out.
-/

namespace SpecBundle

open Json

/-! ## Tables, choices and environment variables -/

/-- Reads an option of a choice. -/
def ChoiceOption.ofJson? : Decoder ChoiceOption := fun v => do
  let r ← v.record? [("value", .required), ("label", .required)]
  return { value := ← r.required? "value" signed64?, label := ← r.required? "label" text? }

/-- The description of something, where an empty one counts as none. -/
def nonEmpty (description : Option String) : Option String :=
  description.filter (· != "")

/-- The fields of a column. -/
def Column.shape : List (String × Presence) := [
  ("schemaName", .required), ("displayName", .required), ("type", .required),
  ("required", .defaulted), ("audit", .defaulted), ("phi", .defaulted),
  ("description", .optional), ("maxLength", .optional), ("precision", .optional),
  ("default", .optional), ("format", .optional), ("choiceName", .optional),
  ("localOptions", .optional), ("target", .optional)]

/-- The default of an integer column, if it is one of 64 bits. -/
def integerDefault (v : Value) : Option Int :=
  signed64? ⟨v, 0⟩

/-- Whether a value is `true`. -/
def isTrue : Value → Bool
  | .bool b => b
  | _ => false

/-- Reads a column. All fields have to be well formed, also those that its kind does not use. -/
def Column.ofJson? : Decoder Column := fun v => do
  let r ← v.record? Column.shape
  let type ← r.required? "type" text?
  let description ← r.optional? "description" text?
  let maxLength ← r.optional? "maxLength" (unsigned? 32)
  let precision ← r.optional? "precision" (unsigned? 8)
  let default ← r.optional? "default" any?
  let format ← r.optional? "format" text?
  let choiceName ← r.optional? "choiceName" text?
  let options ← r.optional? "localOptions" (list? ChoiceOption.ofJson?)
  let target ← r.optional? "target" text?
  let kind : ColumnKind :=
    match type with
    | "String" => .text maxLength
    | "AutoNumber" => .autoNumber maxLength format
    | "Memo" => .memo
    | "WholeNumber" => .wholeNumber (default.bind integerDefault)
    | "Float" => .float precision
    | "Decimal" => .decimal precision
    | "Currency" => .currency
    | "Boolean" => .boolean (default.any isTrue)
    | "DateTime" => .dateTime
    | "DateOnly" => .dateOnly
    | "GlobalChoice" => .globalChoice (choiceName.getD "")
    | "Choice" => .choice (options.getD [])
    | "Lookup" => .lookup (target.getD "")
    | "Calculated" => .calculated
    | other => .unknown other
  return {
    schemaName := ← r.required? "schemaName" text?
    displayName := ← r.required? "displayName" text?
    description := nonEmpty description
    required := ← r.getD? "required" bool? false
    audit := ← r.getD? "audit" bool? false
    phi := ← r.getD? "phi" bool? false
    kind := kind }

/-- The ownership of a name: `user` in any case of letters, and the organization otherwise. -/
def Ownership.ofName (name : String) : Ownership :=
  if Text.equalsIgnoringCase name "user" then .user else .organization

/-- Reads a table. -/
def Table.ofJson? : Decoder Table := fun v => do
  let r ← v.record? [
    ("schemaName", .required), ("displayName", .required), ("pluralName", .required),
    ("description", .defaulted), ("primaryColumn", .required), ("ownership", .defaulted),
    ("auditEnabled", .defaulted), ("columns", .defaulted)]
  return {
    schemaName := ← r.required? "schemaName" text?
    displayName := ← r.required? "displayName" text?
    pluralName := ← r.required? "pluralName" text?
    description := ← r.getD? "description" text? ""
    primaryColumn := ← r.required? "primaryColumn" text?
    ownership := ← r.getD? "ownership" (fun v => (text? v).map Ownership.ofName) .organization
    auditEnabled := ← r.getD? "auditEnabled" bool? false
    columns := ← r.getD? "columns" (list? Column.ofJson?) [] }

/-- Reads what a global choice file says under the choice's name. -/
def GlobalChoice.bodyOfJson? : Decoder (String → GlobalChoice) := fun v => do
  let r ← v.record? [
    ("displayName", .required), ("description", .optional), ("options", .defaulted)]
  let displayName ← r.required? "displayName" text?
  let description ← r.optional? "description" text?
  let options ← r.getD? "options" (list? ChoiceOption.ofJson?) []
  return fun schemaName => ⟨schemaName, displayName, nonEmpty description, options⟩

/-- Reads an environment variable. -/
def EnvironmentVariable.ofJson? : Decoder EnvironmentVariable := fun v => do
  let r ← v.record? [
    ("schemaName", .required), ("displayName", .required), ("description", .defaulted),
    ("type", .defaulted), ("defaultValue", .optional)]
  return {
    schemaName := ← r.required? "schemaName" text?
    displayName := ← r.required? "displayName" text?
    description := ← r.getD? "description" text? ""
    type := ← r.getD? "type" (oneOf? [("String", .string), ("Decimal", .decimal),
      ("Boolean", .boolean), ("JSON", .json)]) .string
    defaultValue := ← r.optional? "defaultValue" text? }

/-! ## Views -/

/-- Reads a relative date. -/
def RelativeDate.ofJson? : Decoder RelativeDate := fun v => do
  let r ← v.record? [("unit", .defaulted), ("offset", .required)]
  return { unit := ← r.getD? "unit" text? "", offset := ← r.required? "offset" signed64? }

/-- Reads an operand: whatever it is, it has to be sound as a whole. -/
def Operand.ofJson? : Decoder Operand := fun v => do
  match ← any? v with
  | .bool b => return .bool b
  | .number literal => return .number (← literal.toNumber?)
  | .text content => return .text (← content)
  | .null => none
  | .array _ => return .relative (← RelativeDate.ofJson? v)
  | .object _ => return .relative (← RelativeDate.ofJson? v)

/-- Reads a condition. -/
def Condition.ofJson? : Decoder Condition := fun v => do
  let r ← v.record? [
    ("column", .required), ("operator", .required), ("value", .defaulted), ("values", .defaulted)]
  return {
    column := ← r.required? "column" text?
    operator := ← r.required? "operator" text?
    value := ← r.optional? "value" Operand.ofJson?
    values := ← r.getD? "values" (list? Operand.ofJson?) [] }

/-- Reads a filter. -/
def Filter.ofJson? : Decoder Filter := fun v => do
  let r ← v.record? [("type", .required), ("conditions", .defaulted)]
  return {
    junction := ← r.required? "type" (oneOf? [("and", .and), ("or", .or)])
    conditions := ← r.getD? "conditions" (list? Condition.ofJson?) [] }

/-- Reads a column of a view. -/
def ViewColumn.ofJson? : Decoder ViewColumn := fun v => do
  let r ← v.record? [("name", .required), ("width", .defaulted)]
  return { name := ← r.required? "name" text?, width := ← r.getD? "width" (unsigned? 32) 100 }

/-- Reads a sort key. -/
def SortKey.ofJson? : Decoder SortKey := fun v => do
  let r ← v.record? [("column", .required), ("direction", .defaulted)]
  return {
    column := ← r.required? "column" text?
    direction := ← r.getD? "direction"
      (oneOf? [("Ascending", .ascending), ("Descending", .descending)]) .ascending }

/-- Reads a view. -/
def View.ofJson? : Decoder View := fun v => do
  let r ← v.record? [
    ("schemaName", .required), ("displayName", .required), ("entity", .defaulted),
    ("description", .optional), ("isDefault", .defaulted), ("columns", .defaulted),
    ("sortOrder", .defaulted), ("filter", .optional)]
  return {
    schemaName := ← r.required? "schemaName" text?
    displayName := ← r.required? "displayName" text?
    entity := ← r.getD? "entity" text? ""
    description := ← r.optional? "description" text?
    isDefault := ← r.getD? "isDefault" bool? false
    columns := ← r.getD? "columns" (list? ViewColumn.ofJson?) []
    sortOrder := ← r.getD? "sortOrder" (list? SortKey.ofJson?) []
    filter := ← r.optional? "filter" Filter.ofJson? }

/-! ## Forms -/

/-- Reads a field of a form. -/
def FormField.ofJson? : Decoder FormField := fun v => do
  let r ← v.record? [("name", .required), ("label", .optional), ("isReadOnly", .defaulted)]
  return {
    name := ← r.required? "name" text?
    label := ← r.optional? "label" text?
    isReadOnly := ← r.getD? "isReadOnly" bool? false }

/-- Reads a subgrid. -/
def Subgrid.ofJson? : Decoder Subgrid := fun v => do
  let r ← v.record? [
    ("name", .required), ("label", .required), ("entity", .required),
    ("relationship", .required), ("maxRows", .defaulted)]
  return {
    name := ← r.required? "name" text?
    label := ← r.required? "label" text?
    entity := ← r.required? "entity" text?
    relationship := ← r.required? "relationship" text?
    maxRows := ← r.getD? "maxRows" (unsigned? 32) 5 }

/-- Reads a section of a form. -/
def FormSection.ofJson? : Decoder FormSection := fun v => do
  let r ← v.record? [
    ("name", .required), ("label", .required), ("fields", .defaulted), ("subgrids", .defaulted)]
  return {
    name := ← r.required? "name" text?
    label := ← r.required? "label" text?
    fields := ← r.getD? "fields" (list? FormField.ofJson?) []
    subgrids := ← r.getD? "subgrids" (list? Subgrid.ofJson?) [] }

/-- Reads a tab of a form. -/
def FormTab.ofJson? : Decoder FormTab := fun v => do
  let r ← v.record? [("name", .required), ("label", .required), ("sections", .defaulted)]
  return {
    name := ← r.required? "name" text?
    label := ← r.required? "label" text?
    sections := ← r.getD? "sections" (list? FormSection.ofJson?) [] }

/-- Reads the layout of a form: its tabs and its sections. -/
def Form.layoutOfJson? : Decoder (List FormTab × List FormSection) := fun v => do
  let r ← v.record? [("tabs", .defaulted), ("sections", .defaulted)]
  return (← r.getD? "tabs" (list? FormTab.ofJson?) [],
    ← r.getD? "sections" (list? FormSection.ofJson?) [])

/-- Reads a form. -/
def Form.ofJson? : Decoder Form := fun v => do
  let r ← v.record? [
    ("schemaName", .required), ("displayName", .required), ("entity", .required),
    ("description", .optional), ("formType", .required), ("header", .defaulted),
    ("layout", .defaulted)]
  let layout ← r.getD? "layout" Form.layoutOfJson? ([], [])
  return {
    schemaName := ← r.required? "schemaName" text?
    displayName := ← r.required? "displayName" text?
    entity := ← r.required? "entity" text?
    description := ← r.optional? "description" text?
    kind := ← r.required? "formType" (oneOf? [("Main", .main), ("QuickCreate", .quickCreate)])
    header := ← r.getD? "header" (list? FormField.ofJson?) []
    tabs := layout.1
    sections := layout.2 }

end SpecBundle
