import SpecBundle.Attribute
import SpecBundle.Error
import SpecBundle.SavedQuery.Xml
import SpecBundle.SystemForm.Layout

/-!
# Entities

A table becomes an entity. Its attributes come first, the primary one before all others, then its
settings, its forms and its views; an import accepts no other order. A table that lacks the column
it declares as primary cannot become an entity, and that is the only error of a generation.
-/

namespace SpecBundle

open Xml (leaf leaves flag group localized localizedNames descriptions)

/-- The attributes of an entity. -/
structure Entity where
  /-- The logical name. -/
  logicalName : String
  /-- The effective name of the primary column. -/
  primaryColumn : String
  /-- The attributes, the primary one first and the others in declared order. -/
  attributes : List Attribute
  /-- Whether rows can be created in a quick create form. -/
  isQuickCreateEnabled : Bool
  deriving DecidableEq, Repr

/-- The name of the set of an entity's rows. -/
def Entity.setName (e : Entity) : String :=
  e.logicalName ++ "s"

namespace Table

/-- The columns without the primary one, in declared order. -/
def otherColumns (t : Table) : List Column :=
  t.columns.filter (·.schemaName != t.primaryColumn)

/-- The entity of a table with the given forms. -/
def entity (t : Table) (choices : List GlobalChoice) (namePrefix : String) (forms : List Form) :
    Except BuildError Entity :=
  match t.primary? with
  | none => .error (.primaryColumnNotFound t.schemaName t.primaryColumn)
  | some primary =>
    .ok { logicalName := t.logicalName
          primaryColumn := t.names.of primary
          attributes := (Attribute.ofColumn? choices namePrefix t.names true primary).toList ++
            t.otherColumns.filterMap (Attribute.ofColumn? choices namePrefix t.names false)
          isQuickCreateEnabled := forms.any (·.kind == .quickCreate) }

/-- The records of a table's attributes, in the order of the attributes; none if the table has no
entity. -/
def attributeNotes (t : Table) (choices : List GlobalChoice) : List Diagnostic :=
  match t.primary? with
  | none => []
  | some primary => (primary :: t.otherColumns).filterMap (·.attributeNote? choices t.logicalName)

end Table

namespace Entity

/-- The settings before the ownership. -/
def leadingFlags : List (String × String) := [
  ("IsDuplicateCheckSupported", "0"),
  ("IsBusinessProcessEnabled", "0"),
  ("IsRequiredOffline", "0"),
  ("IsInteractionCentricEnabled", "0"),
  ("IsCollaboration", "0"),
  ("AutoRouteToOwnerQueue", "0"),
  ("IsConnectionsEnabled", "0"),
  ("EntityColor", ""),
  ("IsDocumentManagementEnabled", "0"),
  ("AutoCreateAccessTeams", "0"),
  ("IsOneNoteIntegrationEnabled", "0"),
  ("IsKnowledgeManagementEnabled", "0"),
  ("IsSLAEnabled", "0"),
  ("IsDocumentRecommendationsEnabled", "0"),
  ("IsBPFEntity", "0")]

/-- The settings between auditing and quick creation. -/
def middleFlags : List (String × String) := [
  ("IsRetrieveAuditEnabled", "0"),
  ("IsRetrieveMultipleAuditEnabled", "0"),
  ("IsActivity", "0"),
  ("ActivityTypeMask", ""),
  ("IsActivityParty", "0"),
  ("IsReplicated", "0"),
  ("IsReplicationUserFiltered", "0"),
  ("IsMailMergeEnabled", "0"),
  ("IsVisibleInMobile", "1"),
  ("IsVisibleInMobileClient", "1"),
  ("IsReadOnlyInMobileClient", "0"),
  ("IsOfflineInMobileClient", "0"),
  ("DaysSinceRecordLastModified", "0"),
  ("MobileOfflineFilters", ""),
  ("IsMapiGridEnabled", "0"),
  ("IsReadingPaneEnabled", "0")]

/-- The settings after the version that introduced the entity. -/
def trailingFlags : List (String × String) := [
  ("IsCustomizable", "1"),
  ("IsRenameable", "1"),
  ("IsMappable", "1"),
  ("CanModifyAuditSettings", "1"),
  ("CanModifyMobileVisibility", "1"),
  ("CanModifyMobileClientVisibility", "1"),
  ("CanModifyMobileClientReadOnly", "1"),
  ("CanModifyMobileClientOffline", "1"),
  ("CanModifyConnectionSettings", "1"),
  ("CanModifyDuplicateDetectionSettings", "1"),
  ("CanModifyMailMergeSettings", "1"),
  ("CanModifyQueueSettings", "1"),
  ("CanCreateAttributes", "1"),
  ("CanCreateForms", "1"),
  ("CanCreateCharts", "1"),
  ("CanCreateViews", "1"),
  ("CanModifyAdditionalSettings", "1"),
  ("CanEnableSyncToExternalSearchIndex", "1"),
  ("EnforceStateTransitions", "0"),
  ("CanChangeHierarchicalRelationship", "1"),
  ("EntityHelpUrlEnabled", "0"),
  ("ChangeTrackingEnabled", "0"),
  ("CanChangeTrackingBeEnabled", "1"),
  ("IsEnabledForExternalChannels", "0"),
  ("IsSolutionAware", "0"),
  ("HasRelatedNotes", "True")]

/-- The attributes and settings of an entity. -/
def infoXml (e : Entity) (t : Table) (version language : String) : Xml.Element :=
  group "EntityInfo" [
    .parent "entity" [("Name", e.logicalName)]
      ([localizedNames t.displayName language,
          localized "LocalizedCollectionNames" "LocalizedCollectionName" t.pluralName language,
          descriptions t.description language,
          group "attributes" (e.attributes.map (·.toXml version language)),
          leaf "EntitySetName" e.setName] ++
        leaves leadingFlags ++
        [leaf "OwnershipTypeMask" t.ownership.typeMask,
          flag "IsAuditEnabled" t.auditEnabled] ++
        leaves middleFlags ++
        [flag "IsQuickCreateEnabled" e.isQuickCreateEnabled,
          leaf "SyncToExternalSearchIndex" "0",
          leaf "IntroducedVersion" version] ++
        leaves trailingFlags)]

/-- The element of an entity with its forms and views. -/
def toXml (e : Entity) (scope : TableScope) (forms : List Form) (queries : List SavedQuery) :
    Xml.Element :=
  group "Entity"
    ([.text "Name"
          [("LocalizedName", scope.table.displayName), ("OriginalName", scope.table.displayName)]
          e.logicalName,
        e.infoXml scope.table scope.version scope.language] ++
      (if forms.isEmpty then [] else [formsXml forms scope]) ++
      (if queries.isEmpty then []
        else [savedQueriesXml queries scope.version scope.language]))

end Entity

end SpecBundle
