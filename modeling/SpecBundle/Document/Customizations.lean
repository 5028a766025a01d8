import SpecBundle.Entity
import SpecBundle.Outcome
import SpecBundle.Spec.DataModel
import SpecBundle.Spec.Project

/-!
# The customizations document

The document holds every entity with its forms and views, the relationships and the environment
variables. `Customizations.generate` makes it in one pass, which records as it goes: renamed
columns, views and forms without a table and renamed relationships first, then the attributes table
by table, and then for each table its views and its forms. All entities are assembled before the
first of them is written, so a table that has no entity stops the pass with no view and no form on
record.
-/

namespace SpecBundle

open Xml (leaf leaves group localized descriptions)

/-! ## Relationships and environment variables as XML -/

namespace Relationship

/-- What becomes of the referencing rows when something is done to the referenced row: deleting it
removes the link and keeps the rows. -/
def cascades : List (String × String) := [
  ("CascadeAssign", "NoCascade"),
  ("CascadeDelete", "RemoveLink"),
  ("CascadeArchive", "RemoveLink"),
  ("CascadeReparent", "NoCascade"),
  ("CascadeShare", "NoCascade"),
  ("CascadeUnshare", "NoCascade"),
  ("CascadeRollupView", "NoCascade")]

/-- The element of a relationship. Role 1 is that of the referencing entity and role 0 that of the
referenced one. -/
def toXml (r : Relationship) (version language : String) : Xml.Element :=
  .parent "EntityRelationship" [("Name", r.name)]
    (leaves [
        ("EntityRelationshipType", "OneToMany"),
        ("IsCustomizable", "1"),
        ("IntroducedVersion", version),
        ("IsHierarchical", "0"),
        ("ReferencingEntityName", r.referencingEntity),
        ("ReferencedEntityName", r.referencedEntity)] ++
      leaves cascades ++
      [leaf "IsValidForAdvancedFind" "1",
        leaf "ReferencingAttributeName" r.referencingAttribute,
        group "RelationshipDescription" [descriptions "" language],
        group "EntityRelationshipRoles" [
          group "EntityRelationshipRole" (leaves [
            ("NavPaneDisplayOption", "UseCollectionName"),
            ("NavPaneArea", "Details"),
            ("NavPaneOrder", "10000"),
            ("NavigationPropertyName", r.referencingAttribute),
            ("RelationshipRoleType", "1")]),
          group "EntityRelationshipRole" (leaves [
            ("NavigationPropertyName", r.name),
            ("RelationshipRoleType", "0")])]])

/-- The block of all relationships. -/
def blockXml (relationships : List Relationship) (version language : String) : Xml.Element :=
  if relationships.isEmpty then .empty "EntityRelationships" []
  else group "EntityRelationships" (relationships.map (·.toXml version language))

end Relationship

namespace EnvironmentVariable

/-- The element of an environment variable. -/
def toXml (v : EnvironmentVariable) (version language : String) : Xml.Element :=
  .parent "environmentvariabledefinition" [("schemaName", v.schemaName)]
    ([.empty "displayname" [("languagecode", language), ("description", v.displayName)],
        .empty "description" [("languagecode", language), ("description", v.description)],
        leaf "type" (Decimal.ofNat v.type.code),
        leaf "IsCustomizable" "1",
        leaf "IsRequired" "0",
        leaf "IntroducedVersion" version] ++
      ((v.defaultValue.filter (· != "")).map (leaf "defaultvalue")).toList)

/-- The blocks of all environment variables. -/
def blocksXml (definitions : List EnvironmentVariable) (version language : String) :
    List Xml.Element :=
  [group "environmentvariabledefinitions" (definitions.map (·.toXml version language)),
    .empty "environmentvariablevalues" []]

end EnvironmentVariable

/-- The namespace of schema instances. -/
def instanceNamespace : String := "http://www.w3.org/2001/XMLSchema-instance"

/-- The language of a project's labels, as it stands in a document. -/
def Project.language (p : Project) : String :=
  Decimal.ofNat p.languageCode

/-! ## Views and forms without a table -/

namespace DataModel

/-- Whether there is a table of the given name, in any case of ASCII letters. -/
def hasTable (m : DataModel) (entity : String) : Bool :=
  m.tables.any fun t => Text.equalsIgnoringCase t.schemaName entity

/-- The record of each view that belongs to no table. -/
def orphanViewNotes (m : DataModel) : List Diagnostic :=
  (m.views.filter fun v => !m.hasTable v.entity).map fun v =>
    .warn .entityNotFound ("view " ++ v.schemaName)
      ("entity " ++ v.entity ++ " not found, view skipped")

/-- The record of each form that belongs to no table. -/
def orphanFormNotes (m : DataModel) : List Diagnostic :=
  (m.forms.filter fun f => !m.hasTable f.entity).map fun f =>
    .warn .entityNotFound ("form " ++ f.schemaName)
      ("entity " ++ f.entity ++ " not found, form skipped")

end DataModel

/-! ## The document -/

/-- What the views and forms of all tables refer to. -/
structure References where
  /-- The labels of options. -/
  index : ChoiceIndex
  /-- The relationships. -/
  relationships : List Relationship

namespace DataModel

/-- What the views and forms of a model refer to. -/
def references (m : DataModel) (p : Project) : References where
  index := ChoiceIndex.ofTables m.choices m.tables
  relationships := Relationship.deriveAll p.publisher.namePrefix m.tables

/-- What the forms and views of a table are generated from. -/
def scope (m : DataModel) (p : Project) (refs : References) (t : Table) : TableScope where
  table := t
  names := t.names
  tables := m.tables
  relationships := refs.relationships
  namePrefix := p.publisher.namePrefix
  version := p.version
  language := p.language

end DataModel

namespace Customizations

/-- The records made before any table is generated. -/
def leadingNotes (m : DataModel) (p : Project) : List Diagnostic :=
  m.tables.flatMap (·.renamings) ++ m.orphanViewNotes ++ m.orphanFormNotes ++
    Relationship.renamings p.publisher.namePrefix m.tables

/-- Assembles the entity of a table and records what its attributes leave out. -/
def assemble (m : DataModel) (p : Project) (t : Table) : Outcome (Table × Entity) where
  notes := t.attributeNotes m.choices
  result := (t.entity m.choices p.publisher.namePrefix (m.formsOf t)).map (t, ·)

/-- Assembles the entities of tables, up to the first table that has none. -/
def assembleAll (m : DataModel) (p : Project) (tables : List Table) :
    Outcome (List (Table × Entity)) :=
  tables.mapM (assemble m p)

/-- The records of the views and forms of a table. -/
def tableNotes (m : DataModel) (p : Project) (refs : References) (t : Table) : List Diagnostic :=
  let names := t.names
  (m.viewsOf t).flatMap (·.notes refs.index names) ++ formNotes (m.formsOf t) (m.scope p refs t)

/-- The element of a table's entity. -/
def entityXml (m : DataModel) (p : Project) (refs : References) (t : Table) (e : Entity) :
    Xml.Element :=
  let names := t.names
  e.toXml (m.scope p refs t) (m.formsOf t) ((m.viewsOf t).map (·.compile refs.index names))

/-- Writes the entity of a table and records what its views and forms leave out. -/
def write (m : DataModel) (p : Project) (refs : References) (te : Table × Entity) :
    Outcome Xml.Element where
  notes := tableNotes m p refs te.1
  result := .ok (entityXml m p refs te.1 te.2)

/-- The document around the elements of the entities. -/
def frame (m : DataModel) (p : Project) (refs : References) (entities : List Xml.Element) :
    Xml.Element :=
  .parent "ImportExportXml" [("xmlns:xsi", instanceNamespace)]
    ([.empty "optionsets" [],
        group "Entities" entities,
        leaf "Roles" "",
        leaf "Workflows" "",
        leaf "FieldSecurityProfiles" "",
        .empty "Templates" [],
        .empty "EntityMaps" [],
        Relationship.blockXml refs.relationships p.version p.language,
        .empty "OrganizationSettings" [],
        .empty "CustomControls" [],
        .empty "EntityDataProviders" []] ++
      (if p.emitEnvironmentVariables then
        EnvironmentVariable.blocksXml m.environmentVariables p.version p.language
      else []) ++
      [group "Languages" [leaf "Language" p.language]])

/-- Generates the document. -/
def generate (m : DataModel) (p : Project) : Outcome Xml.Element := do
  let refs := m.references p
  Outcome.record (leadingNotes m p)
  let entities ← assembleAll m p m.tables
  let elements ← entities.mapM (write m p refs)
  return frame m p refs elements

/-- The entities of tables, or the error of the first that has none. -/
def entities (m : DataModel) (p : Project) (tables : List Table) :
    Except BuildError (List (Table × Entity)) :=
  (assembleAll m p tables).result

/-- The root of the document, or the error that stops it. -/
def result (m : DataModel) (p : Project) : Except BuildError Xml.Element :=
  (generate m p).result

/-- The records of a generation. -/
def notes (m : DataModel) (p : Project) : List Diagnostic :=
  (generate m p).notes

end Customizations

end SpecBundle
