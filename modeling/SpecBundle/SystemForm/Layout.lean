import SpecBundle.SavedQuery.Condition
import SpecBundle.StableId
import SpecBundle.SystemForm.Subgrid
import SpecBundle.Xml.Element

/-!
# System forms

A form becomes a system form. Every tab, section and cell carries an identifier made from the
entity, the form and its own name. A section has one column, so each field and each subgrid gets a
row of its own. `Form.toXml` writes the form and `Form.notes` are the records made on the way, in
the order in which the fields and subgrids are written.
-/

namespace SpecBundle

open Xml (leaf group labels localizedNames descriptions)

/-- What the forms and views of one table are generated from. -/
structure TableScope where
  /-- The table. -/
  table : Table
  /-- The names of its columns. -/
  names : ColumnNames
  /-- All tables. -/
  tables : List Table
  /-- All relationships. -/
  relationships : List Relationship
  /-- The publisher's prefix. -/
  namePrefix : String
  /-- The version of the solution. -/
  version : String
  /-- The language of all labels. -/
  language : String

/-! ## Seeds -/

namespace Seed

/-- The seed of a form. -/
def form (entity form : String) : Seed := ⟨"form", [entity, form]⟩

/-- The seed of a tab of a form. -/
def tab (entity form tab : String) : Seed := ⟨"tab", [entity, form, tab]⟩

/-- The seed of a section of a form. -/
def sectionOf (entity form name : String) : Seed := ⟨"section", [entity, form, name]⟩

/-- The seed of the cell of a field. -/
def cell (entity form field : String) : Seed := ⟨"cell", [entity, form, field]⟩

/-- The seed of the cell of a subgrid. -/
def subgrid (entity form subgrid : String) : Seed := ⟨"subgrid", [entity, form, subgrid]⟩

/-- The seed of the header of a form. -/
def header (entity form : String) : Seed := ⟨"header", [entity, form]⟩

/-- The seed of the cell of a field in the header. -/
def headerCell (entity form field : String) : Seed := ⟨"headercell", [entity, form, field]⟩

/-- The seed of the footer of a form. -/
def footer (entity form : String) : Seed := ⟨"footer", [entity, form]⟩

/-- The seed of a cell of the footer. -/
def footerCell (entity form : String) (index : Nat) : Seed :=
  ⟨"footercell", [entity, form, Decimal.ofNat index]⟩

/-- The identifier of a seed, as it stands in a document. -/
def braced (seed : Seed) : String :=
  (StableId.ofSeed seed).braced

end Seed

/-! ## Fields and subgrids -/

/-- The class of the control of a field. -/
def standardClass : String := "\x7b4273EDBD-AC1D-40d3-9FB2-095C621B552D\x7d"

/-- The class of the control of a lookup. -/
def lookupClass : String := "\x7b270BD3DB-D9AF-4782-9025-509E298DEC0A\x7d"

/-- The class of the control of a subgrid. -/
def subgridClass : String := "\x7bE7A81278-8635-4D9E-8D4D-59480B391C5B\x7d"

/-- The class of the control for the column with the given effective name. -/
def controlClass (t : Table) (names : ColumnNames) (effective : String) : String :=
  match names.columnFor? t effective with
  | some { kind := .lookup _, .. } => lookupClass
  | _ => standardClass

/-- A field of a form, resolved against the table. -/
structure BoundField where
  /-- The effective name of the column. -/
  column : String
  /-- What the user sees. -/
  label : String
  /-- The class of the control. -/
  controlClass : String
  deriving DecidableEq, Repr

/-- The cell of a field. Its control may have more attributes than those that bind it. -/
def BoundField.cellXml (bound : BoundField) (language : String) (seed : Seed)
    (more : List Xml.Attribute) : Xml.Element :=
  .parent "cell" [("id", seed.braced), ("showlabel", "true")]
    [labels bound.label language,
      .empty "control"
        (("id", bound.column) :: ("classid", bound.controlClass) ::
          ("datafieldname", bound.column) :: more)]

namespace FormField

/-- What a field shows: its own label, or the column's name, or else the reference. -/
def shownLabel (f : FormField) (scope : TableScope) : String :=
  match f.label.filter (· != "") with
  | some label => label
  | none =>
    ((scope.names.columnFor? scope.table (scope.names.resolve f.name)).map (·.displayName)).getD
      f.name

/-- The field, resolved against the table. -/
def bind (f : FormField) (scope : TableScope) : BoundField where
  column := scope.names.resolve f.name
  label := f.shownLabel scope
  controlClass := SpecBundle.controlClass scope.table scope.names (scope.names.resolve f.name)

/-- The record of a field that the table does not have. -/
def note? (f : FormField) (scope : TableScope) : Option Diagnostic :=
  if scope.names.resolve f.name ∈ scope.names.valid then none
  else some (.warn .formFieldUnknown (scope.names.entity ++ "." ++ f.name)
    "field is not a column of the table")

/-- The row of a field in a section. -/
def rowXml (f : FormField) (scope : TableScope) (form : String) : Xml.Element :=
  group "row" [(f.bind scope).cellXml scope.language (Seed.cell scope.names.entity form f.name)
    [("disabled", if f.isReadOnly then "true" else "false")]]

/-- The row of a field in the header. -/
def headerRowXml (f : FormField) (scope : TableScope) (form : String) : Xml.Element :=
  group "row" [(f.bind scope).cellXml scope.language
    (Seed.headerCell scope.names.entity form f.name) []]

end FormField

namespace Subgrid

/-- The relationship that a subgrid on a form of the scope's table is bound to. -/
def bindingIn (s : Subgrid) (scope : TableScope) : SubgridBinding :=
  s.binding scope.table scope.tables scope.relationships scope.namePrefix

/-- The row of a subgrid. -/
def rowXml (s : Subgrid) (scope : TableScope) (form : String) : Xml.Element :=
  group "row" [
    .parent "cell"
      [("id", (Seed.subgrid scope.names.entity form s.name).braced),
        ("rowspan", Decimal.ofNat (rowSpan s.maxRows)), ("colspan", "1"), ("auto", "false")]
      [labels s.label scope.language,
        .parent "control"
          [("indicationOfSubgrid", "true"), ("id", s.name), ("classid", subgridClass)]
          [group "parameters" [
            leaf "RecordsPerPage" (Decimal.ofNat s.maxRows),
            leaf "AutoExpand" "Fixed",
            leaf "EnableQuickFind" "false",
            leaf "EnableViewPicker" "true",
            leaf "RelationshipName" (s.relationshipName (s.bindingIn scope)),
            leaf "TargetEntityType" (logicalName s.entity)]]]]

end Subgrid

/-! ## Sections, tabs and forms -/

namespace FormSection

/-- The element of a section. -/
def toXml (s : FormSection) (scope : TableScope) (form : String) : Xml.Element :=
  .parent "section"
    [("showlabel", "true"), ("showbar", "false"), ("IsUserDefined", "0"),
      ("id", (Seed.sectionOf scope.names.entity form s.name).braced), ("columns", "1")]
    [labels s.label scope.language,
      group "rows" (s.fields.map (·.rowXml scope form) ++ s.subgrids.map (·.rowXml scope form))]

/-- The records of the fields and subgrids of a section. -/
def notes (s : FormSection) (scope : TableScope) : List Diagnostic :=
  s.fields.filterMap (·.note? scope) ++
    s.subgrids.filterMap fun g => g.note? scope.table (g.bindingIn scope)

end FormSection

/-- The only column of a tab. -/
def columnsXml (sections : List FormSection) (scope : TableScope) (form : String) : Xml.Element :=
  group "columns" [.parent "column" [("width", "100%")]
    [group "sections" (sections.map (·.toXml scope form))]]

/-- The element of a tab. -/
def FormTab.toXml (t : FormTab) (scope : TableScope) (form : String) : Xml.Element :=
  .parent "tab"
    [("verticallayout", "true"), ("id", (Seed.tab scope.names.entity form t.name).braced),
      ("IsUserDefined", "1"), ("showlabel", "true"), ("expanded", "true")]
    [labels t.label scope.language, columnsXml t.sections scope form]

namespace Form

/-- The header of a form, which is left out if it has no field. -/
def headerXml (f : Form) (scope : TableScope) : List Xml.Element :=
  if f.header.isEmpty then []
  else
    [.parent "header"
      [("id", (Seed.header scope.names.entity f.schemaName).braced),
        ("celllabelposition", "Top"), ("columns", "1"), ("labelwidth", "115")]
      [group "rows" (f.header.map (·.headerRowXml scope f.schemaName))]]

/-- The footer of a form: three empty cells. -/
def footerXml (f : Form) (scope : TableScope) : Xml.Element :=
  .parent "footer"
    [("id", (Seed.footer scope.names.entity f.schemaName).braced),
      ("celllabelposition", "Top"), ("columns", "111"), ("labelwidth", "115"),
      ("celllabelalignment", "Left")]
    [group "rows" [group "row" ([0, 1, 2].map fun index =>
      .parent "cell"
        [("id", (Seed.footerCell scope.names.entity f.schemaName index).braced),
          ("showlabel", "false")]
        [labels "" scope.language])]]

/-- The body of a main form: its tabs, its header and its footer. -/
def mainBody (f : Form) (scope : TableScope) : Xml.Element :=
  .parent "form" [("headerdensity", "HighWithControls")]
    (group "tabs" (f.tabs.map (·.toXml scope f.schemaName)) ::
      f.headerXml scope ++ [f.footerXml scope])

/-- The body of a quick create form: its sections in one tab. -/
def quickCreateBody (f : Form) (scope : TableScope) : Xml.Element :=
  group "form" [group "tabs" [
    .parent "tab"
      [("verticallayout", "true"),
        ("id", (Seed.tab scope.names.entity f.schemaName "quicktab").braced),
        ("IsUserDefined", "1")]
      [labels "" scope.language, columnsXml f.sections scope f.schemaName]]]

/-- The body of a form. -/
def body (f : Form) (scope : TableScope) : Xml.Element :=
  match f.kind with
  | .main => f.mainBody scope
  | .quickCreate => f.quickCreateBody scope

/-- The element of a form. -/
def toXml (f : Form) (scope : TableScope) : Xml.Element :=
  group "systemform"
    ([leaf "formid" (Seed.form scope.names.entity f.schemaName).braced,
        leaf "IntroducedVersion" scope.version,
        leaf "FormPresentation" "1",
        leaf "FormActivationState" "1",
        f.body scope,
        leaf "IsCustomizable" "1",
        leaf "CanBeDeleted" "1",
        localizedNames f.displayName scope.language] ++
      ((f.description.filter (· != "")).map (descriptions · scope.language)).toList)

/-- The records of a form: those of its sections, then those of its header. Only what the kind of
the form shows leaves records. -/
def notes (f : Form) (scope : TableScope) : List Diagnostic :=
  match f.kind with
  | .main =>
    (f.tabs.flatMap fun t => t.sections.flatMap (·.notes scope)) ++
      f.header.filterMap (·.note? scope)
  | .quickCreate => f.sections.flatMap (·.notes scope)

end Form

/-! ## The forms of an entity -/

/-- The forms of one kind, in authored order. -/
def formsOfKind (forms : List Form) (kind : FormKind) : List Form :=
  forms.filter (·.kind == kind)

/-- The block of the forms of one kind, which is left out if there is none. -/
def formGroupXml (forms : List Form) (scope : TableScope) (kind : FormKind) (word : String) :
    List Xml.Element :=
  let forms := formsOfKind forms kind
  if forms.isEmpty then [] else [.parent "forms" [("type", word)] (forms.map (·.toXml scope))]

/-- The block of the forms of an entity: main forms, then quick create forms. -/
def formsXml (forms : List Form) (scope : TableScope) : Xml.Element :=
  group "FormXml" (formGroupXml forms scope .main "main" ++
    formGroupXml forms scope .quickCreate "quick")

/-- The records of the forms of an entity, in the order in which they are written. -/
def formNotes (forms : List Form) (scope : TableScope) : List Diagnostic :=
  (formsOfKind forms .main ++ formsOfKind forms .quickCreate).flatMap (·.notes scope)

end SpecBundle
