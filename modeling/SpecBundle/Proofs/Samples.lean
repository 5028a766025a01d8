import SpecBundle.Spec.DataModel
import SpecBundle.Spec.Project

/-!
# Parts of sample specifications

Columns, tables, views and forms of which only the names and kinds matter, from which statements
about one input build their specifications. A specification stands beside the statement it is for,
and here only if several modules have statements about it.
-/

namespace SpecBundle.Sample

/-- A column of the given name and kind. -/
def column (schemaName : String) (kind : ColumnKind) : Column where
  schemaName := schemaName
  displayName := schemaName
  description := none
  required := false
  audit := false
  phi := false
  kind := kind

/-- A table of the given name and columns. -/
def table (schemaName primaryColumn : String) (columns : List Column) : Table where
  schemaName := schemaName
  displayName := schemaName
  pluralName := schemaName ++ "s"
  description := ""
  primaryColumn := primaryColumn
  ownership := .user
  auditEnabled := false
  columns := columns

/-- A section of the given fields. -/
def formSection (name : String) (fields : List String) : FormSection where
  name := name
  label := name
  fields := fields.map fun field => ⟨field, none, false⟩
  subgrids := []

/-- A project with the prefix `seo`. -/
def project : Project where
  name := "Demo"
  friendlyName := "Demo"
  description := ""
  version := "1.0.0.0"
  languageCode := 1033
  publisher :=
    { uniqueName := "Pub"
      friendlyName := "Publisher"
      description := ""
      namePrefix := "seo"
      optionValuePrefix := 10000 }
  root := "."
  viewsDir := "views"
  formsDir := "forms"
  emitEnvironmentVariables := false

/-- A model of tables and forms. -/
def model (tables : List Table) (forms : List Form) : DataModel where
  tables := tables
  choices := []
  environmentVariables := []
  views := []
  forms := forms

/-- A grid of the rows of a table, with a declared relationship. -/
def subgrid (name entity relationship : String) : Subgrid where
  name := name
  label := name
  entity := entity
  relationship := relationship
  maxRows := 4

/-- A main form of one section with the given grids. -/
def gridForm (schemaName entity : String) (subgrids : List Subgrid) : Form where
  schemaName := schemaName
  displayName := schemaName
  entity := entity
  description := none
  kind := .main
  header := []
  tabs := [⟨"general", "General", [{ formSection "related" [] with subgrids := subgrids }]⟩]
  sections := []

/-- A view of nothing but the rows of a table. -/
def plainView (schemaName entity : String) : View where
  schemaName := schemaName
  displayName := schemaName
  entity := entity
  description := none
  isDefault := false
  columns := []
  sortOrder := []
  filter := none

/-- A model with a lookup that is the primary column and is renamed, one that is an ordinary column
and one to a built-in principal. -/
def callLookups : DataModel :=
  model
    [table "Agency" "Region" [column "Region" (.text none)],
      table "Call" "CallId"
        [column "Unit" (.lookup "Agency"), column "Owner" (.lookup "SystemUser"),
          column "CallId" (.lookup "Agency")]]
    []

/-- Global choices, two of which have one name. -/
def stageChoices : List GlobalChoice :=
  [⟨"stage", "Stage", none, [⟨1, "Open"⟩]⟩, ⟨"stage", "Stage", none, [⟨5, "Open"⟩, ⟨6, "Closed"⟩]⟩]

end SpecBundle.Sample
