import SpecBundle.Proofs.Document.Entities
import SpecBundle.Proofs.Entity.Attributes
import SpecBundle.Proofs.Identifiers.Seeds

/-!
# The identifiers of a whole document

Attributes, settings, relationships and environment variables bear no identifier, so a document
bears those of its forms and saved queries only. `identifiers_result` says that they are, in
document order, the identifiers of `DataModel.seeds`.
-/

namespace SpecBundle

open Xml (objectIdentifiers objectIdentifiers_of_not_mem objectTags identifierTags
  flatMap_identifiers_leaves flatMap_identifiers_toList)

/-! ## Elements without identifiers -/

/-- The attribute of a column has properties with tags of their own. -/
theorem Attribute.not_mem_identifierTags_of_ofColumn? {choices : List GlobalChoice}
    {namePrefix : String} {names : ColumnNames} {isPrimary : Bool} {c : Column} {a : Attribute}
    (h : ofColumn? choices namePrefix names isPrimary c = some a) :
    ∀ p ∈ a.typeProperties, p.1 ∉ identifierTags := by
  have others : ∀ tag ∈ identifierTags, tag ∉ propertyTags := by decide
  exact fun p hp among =>
    not_mem_tags_of_ofColumn? h (others p.1 among) (List.mem_map_of_mem hp)

/-- An option set bears no identifier. -/
theorem OptionSet.identifiers_toXml (s : OptionSet) (version language : String) :
    (s.toXml version language).identifiers = [] := by
  have option : ∀ o : ChoiceOption, (optionXml language o).identifiers = [] := by
    intro o
    simp [optionXml, objectIdentifiers, objectTags]
  have own : objectIdentifiers "optionset" [("Name", s.name)] = [] :=
    objectIdentifiers_of_not_mem (by decide) _
  have header : (s.header version).flatMap (·.identifiers) = [] := by
    unfold OptionSet.header
    cases s.kind <;> exact flatMap_identifiers_leaves (by simp [identifierTags])
  simp [toXml, own, header, option, identifierTags]

/-- An attribute bears no identifier. -/
theorem Attribute.identifiers_toXml {a : Attribute}
    (h : ∀ p ∈ a.typeProperties, p.1 ∉ identifierTags) (version language : String) :
    (a.toXml version language).identifiers = [] := by
  have own : objectIdentifiers "attribute" [("PhysicalName", a.physicalName)] = [] :=
    objectIdentifiers_of_not_mem (by decide) _
  have common : (Xml.leaves commonProperties).flatMap (·.identifiers) = [] :=
    flatMap_identifiers_leaves (by decide)
  have properties : (Xml.leaves a.typeProperties).flatMap (·.identifiers) = [] :=
    flatMap_identifiers_leaves h
  have targets : (if a.typeName = "lookup" then [Xml.Element.empty "LookupTypes" []]
      else []).flatMap (·.identifiers) = [] := by
    split <;> simp
  have options :
      (a.optionSet.map (·.toXml version language)).toList.flatMap (·.identifiers) = [] :=
    flatMap_identifiers_toList (·.identifiers_toXml version language) a.optionSet
  simp [toXml, own, common, properties, targets, options, identifierTags]

/-- The attributes and settings of an entity bear no identifier. -/
theorem Entity.identifiers_infoXml {t : Table} {choices : List GlobalChoice} {namePrefix : String}
    {forms : List Form} {e : Entity} (h : t.entity choices namePrefix forms = .ok e)
    (version language : String) : (e.infoXml t version language).identifiers = [] := by
  have own : objectIdentifiers "entity" [("Name", e.logicalName)] = [] :=
    objectIdentifiers_of_not_mem (by decide) _
  have attributes : ∀ a ∈ e.attributes, (a.toXml version language).identifiers = [] := by
    intro a ha
    obtain ⟨isPrimary, c, hc⟩ := Table.exists_ofColumn?_of_mem_attributes h ha
    exact Attribute.identifiers_toXml
      (Attribute.not_mem_identifierTags_of_ofColumn? hc) version language
  have leading : (Xml.leaves leadingFlags).flatMap (·.identifiers) = [] :=
    flatMap_identifiers_leaves (by decide)
  have middle : (Xml.leaves middleFlags).flatMap (·.identifiers) = [] :=
    flatMap_identifiers_leaves (by decide)
  have trailing : (Xml.leaves trailingFlags).flatMap (·.identifiers) = [] :=
    flatMap_identifiers_leaves (by decide)
  simpa [infoXml, own, leading, middle, trailing, identifierTags] using attributes

/-- The block of the relationships bears no identifier. -/
theorem Relationship.identifiers_blockXml (relationships : List Relationship)
    (version language : String) :
    (blockXml relationships version language).identifiers = [] := by
  have cascade : (Xml.leaves cascades).flatMap (·.identifiers) = [] :=
    flatMap_identifiers_leaves (by decide)
  have each : ∀ r : Relationship, (r.toXml version language).identifiers = [] := by
    intro r
    have own : objectIdentifiers "EntityRelationship" [("Name", r.name)] = [] :=
      objectIdentifiers_of_not_mem (by decide) _
    simp only [toXml, Xml.identifiers_parent, own, List.flatMap_append, cascade]
    simp [Xml.leaves, identifierTags]
  unfold blockXml
  split
  · simp
  · simp [each]

/-- The blocks of the environment variables bear no identifier. -/
theorem EnvironmentVariable.identifiers_blocksXml (definitions : List EnvironmentVariable)
    (version language : String) :
    (blocksXml definitions version language).flatMap (·.identifiers) = [] := by
  have each : ∀ v : EnvironmentVariable, (v.toXml version language).identifiers = [] := by
    intro v
    have default : ((v.defaultValue.filter (· != "")).map
        (Xml.leaf "defaultvalue")).toList.flatMap (·.identifiers) = [] :=
      flatMap_identifiers_toList (fun value => Xml.identifiers_leaf "defaultvalue" value) _
    simp [toXml, default, objectIdentifiers, objectTags, identifierTags]
  simp [blocksXml, each]

/-! ## Saved queries -/

/-- A condition of a query bears no identifier. -/
theorem QueryCondition.identifiers_toXml (c : QueryCondition) : c.toXml.identifiers = [] := by
  unfold toXml
  cases c.payload <;> simp [objectIdentifiers, objectTags, identifierTags]

/-- A saved query bears the identifier of its seed. -/
theorem SavedQuery.identifiers_toXml (q : SavedQuery) (version language : String) :
    (q.toXml version language).identifiers = [q.seed.braced] := by
  have grid : q.gridXml.identifiers = [] := by
    simp only [gridXml, Xml.identifiers_parent, List.flatMap_cons, List.flatMap_map]
    simp [objectIdentifiers, objectTags, List.lookup_cons]
  have filter : (q.filter.map (·.toXml)).toList.flatMap (·.identifiers) = [] := by
    refine flatMap_identifiers_toList (fun f => ?_) q.filter
    simp [QueryFilter.toXml, QueryCondition.identifiers_toXml, objectIdentifiers, objectTags]
  have fetch : q.fetchXml.identifiers = [] := by
    simp only [fetchXml, Xml.identifiers_parent, List.flatMap_cons, List.flatMap_append,
      List.flatMap_map, filter]
    simp [objectIdentifiers, objectTags]
  simp [toXml, grid, fetch, identifierTags, Seed.braced, SavedQuery.id]

/-- The block of saved queries bears the identifiers of their seeds. -/
theorem identifiers_savedQueriesXml (queries : List SavedQuery) (version language : String) :
    (savedQueriesXml queries version language).identifiers = queries.map (·.seed.braced) := by
  simp only [savedQueriesXml, Xml.identifiers_group, List.flatMap_singleton, List.flatMap_map,
    SavedQuery.identifiers_toXml, ← List.map_eq_flatMap]

/-! ## The document -/

namespace DataModel

/-- The seeds of the forms and views of a table. -/
def seedsOf (m : DataModel) (t : Table) : List Seed :=
  (m.writtenForms t).flatMap (·.seeds t.logicalName) ++
    (m.viewsOf t).map (Seed.view t.logicalName ·.schemaName)

/-- The seeds of all objects of a build. -/
def seeds (m : DataModel) : List Seed :=
  m.tables.flatMap m.seedsOf

end DataModel

/-- The forms of a kind bear the identifiers of their seeds. -/
theorem identifiers_formGroupXml (forms : List Form) (scope : TableScope) (kind : FormKind)
    (word : String) :
    (formGroupXml forms scope kind word).flatMap (·.identifiers) =
      ((formsOfKind forms kind).flatMap (·.seeds scope.names.entity)).map Seed.braced := by
  have own : objectIdentifiers "forms" [("type", word)] = [] :=
    objectIdentifiers_of_not_mem (by decide) _
  rw [formGroupXml, flatMap_block _ fun none => by simp [none, own]]
  simp [own, Form.identifiers_toXml, List.flatMap_map, List.map_flatMap]

namespace Customizations

variable {m : DataModel} {p : Project}

/-- The element of a table bears the identifiers of the table's seeds. -/
theorem identifiers_entityXml {t : Table} {e : Entity}
    (h : t.entity m.choices p.publisher.namePrefix (m.formsOf t) = .ok e) (refs : References) :
    (entityXml m p refs t e).identifiers = (m.seedsOf t).map Seed.braced := by
  -- Of the three blocks the first bears nothing.
  have info : (e.infoXml t p.version p.language).identifiers = [] :=
    Entity.identifiers_infoXml h p.version p.language
  have forms : ∀ scope : TableScope, scope.names = t.names →
      (if (m.formsOf t).isEmpty then [] else [formsXml (m.formsOf t) scope]).flatMap
        (·.identifiers) =
      ((m.writtenForms t).flatMap (·.seeds t.logicalName)).map Seed.braced := by
    intro scope same
    rw [flatMap_block _ fun none => by simp [none, formsXml, formGroupXml, formsOfKind]]
    simp [formsXml, identifiers_formGroupXml, same, Table.names, DataModel.writtenForms]
  have queries : ∀ index : ChoiceIndex,
      (if ((m.viewsOf t).map (·.compile index t.names)).isEmpty then []
        else [savedQueriesXml ((m.viewsOf t).map (·.compile index t.names)) p.version
          p.language]).flatMap (·.identifiers) =
      ((m.viewsOf t).map (Seed.view t.logicalName ·.schemaName)).map Seed.braced := by
    intro index
    rw [flatMap_block _ fun none => by rw [identifiers_savedQueriesXml, none, List.map_nil],
      identifiers_savedQueriesXml, List.map_map, List.map_map]
    rfl
  simp only [entityXml, Entity.toXml, Xml.identifiers_group, List.flatMap_append,
    List.flatMap_cons, Xml.identifiers_text, DataModel.scope, info, queries, DataModel.seedsOf,
    List.map_append]
  rw [forms _ rfl]
  simp [identifierTags]

/-- A document bears the identifiers of all seeds, in document order. -/
theorem identifiers_result {root : Xml.Element} (h : result m p = .ok root) :
    root.identifiers = m.seeds.map Seed.braced := by
  obtain ⟨es, he, rfl⟩ := exists_entities_of_result h
  have each : (es.map fun te => entityXml m p (m.references p) te.1 te.2).flatMap
      (·.identifiers) = m.tables.flatMap fun t => (m.seedsOf t).map Seed.braced :=
    flatMap_entityXml (fun t e made => identifiers_entityXml made (m.references p)) he
  -- All other blocks of the document bear nothing.
  have own : objectIdentifiers "ImportExportXml" [("xmlns:xsi", instanceNamespace)] = [] :=
    objectIdentifiers_of_not_mem (by decide) _
  have environment : (if p.emitEnvironmentVariables then
      EnvironmentVariable.blocksXml m.environmentVariables p.version p.language
      else []).flatMap (·.identifiers) = [] := by
    split
    · exact EnvironmentVariable.identifiers_blocksXml _ _ _
    · rfl
  simp only [root, frame, Xml.identifiers_parent, own, List.flatMap_append, List.flatMap_cons,
    Xml.identifiers_group, each, Relationship.identifiers_blockXml, environment]
  simp [identifierTags, DataModel.seeds, List.map_flatMap]

end Customizations

end SpecBundle
