import SpecBundle.Proofs.Document.RootComponents
import SpecBundle.Proofs.Xml.Tags

/-!
# The documents of a package, read back

The names of tags and attributes are the same in all packages: whatever is authored stands in texts
and in values. Each of these names is plain, which is decided where the library writes it. So what
is written for a model is read from the documents as it was written
(`Package.isDocumentOf_documents`), and no authored text adds a tag or ends one. Which texts are
displayed is said by `Package.captions_documents`.
-/

namespace SpecBundle

open Xml (IsPlain ArePlain HavePlainNames)

/-! ## Attributes and entities -/

/-- The properties of an attribute have plain names. -/
theorem Attribute.arePlain_of_ofColumn? {choices : List GlobalChoice} {namePrefix : String}
    {names : ColumnNames} {isPrimary : Bool} {c : Column} {a : Attribute}
    (h : ofColumn? choices namePrefix names isPrimary c = some a) :
    ArePlain (a.typeProperties.map (·.1)) := by
  have plain : ArePlain propertyTags := by decide +kernel
  exact fun tag among => plain tag (Classical.byContradiction fun other =>
    not_mem_tags_of_ofColumn? h other among)

/-- An option set has plain names. -/
theorem OptionSet.hasPlainNames_toXml (s : OptionSet) (version language : String) :
    (s.toXml version language).HasPlainNames := by
  have header : HavePlainNames (s.header version) := by
    unfold OptionSet.header
    cases s.kind <;> simp +decide
  have option : ∀ o, (optionXml language o).HasPlainNames := fun o => by
    simp +decide [optionXml]
  simp +decide [toXml, header, option]

/-- An attribute has plain names. -/
theorem Attribute.hasPlainNames_toXml {a : Attribute}
    (h : ArePlain (a.typeProperties.map (·.1))) (version language : String) :
    (a.toXml version language).HasPlainNames := by
  have targets : HavePlainNames (if a.typeName = "lookup" then [Xml.Element.empty "LookupTypes" []]
      else []) := by
    split
    · simp +decide
    · exact Xml.havePlainNames_nil
  simp +decide [toXml, h, targets, OptionSet.hasPlainNames_toXml]

/-- The attributes and settings of an entity have plain names. -/
theorem Entity.hasPlainNames_infoXml {t : Table} {choices : List GlobalChoice}
    {namePrefix : String} {forms : List Form} {e : Entity}
    (h : t.entity choices namePrefix forms = .ok e) (version language : String) :
    (e.infoXml t version language).HasPlainNames := by
  have attributes : ∀ a ∈ e.attributes, (a.toXml version language).HasPlainNames := by
    intro a ha
    obtain ⟨isPrimary, c, hc⟩ := Table.exists_ofColumn?_of_mem_attributes h ha
    exact Attribute.hasPlainNames_toXml (Attribute.arePlain_of_ofColumn? hc) version language
  simp +decide +contextual [infoXml, attributes]

/-! ## Saved queries -/

/-- A condition of a query has plain names. -/
theorem QueryCondition.hasPlainNames_toXml (c : QueryCondition) : c.toXml.HasPlainNames := by
  unfold toXml
  cases c.payload <;> simp +decide

/-- A saved query has plain names. -/
theorem SavedQuery.hasPlainNames_toXml (q : SavedQuery) (version language : String) :
    (q.toXml version language).HasPlainNames := by
  have grid : q.gridXml.HasPlainNames := by
    simp +decide [gridXml]
  have filter : ∀ f : QueryFilter, f.toXml.HasPlainNames := fun f => by
    simp +decide [QueryFilter.toXml, QueryCondition.hasPlainNames_toXml]
  have fetch : q.fetchXml.HasPlainNames := by
    -- The orders are pairs, which need not be taken apart: their names are the same for all.
    simp +decide [fetchXml, filter, -Prod.forall]
  simp +decide [toXml, grid, fetch]

/-- The block of saved queries has plain names. -/
theorem hasPlainNames_savedQueriesXml (queries : List SavedQuery) (version language : String) :
    (savedQueriesXml queries version language).HasPlainNames := by
  simp +decide [savedQueriesXml, SavedQuery.hasPlainNames_toXml]

/-! ## Forms -/

section

variable (scope : TableScope) (form : String)

/-- The cell of a field has plain names if the further attributes of its control have them. -/
theorem BoundField.hasPlainNames_cellXml (bound : BoundField) (language : String) (seed : Seed)
    (more : List Xml.Attribute) (h : ArePlain (more.map (·.1))) :
    (bound.cellXml language seed more).HasPlainNames := by
  simp +decide [cellXml, h]

/-- The row of a field in a section has plain names. -/
theorem FormField.hasPlainNames_rowXml (f : FormField) :
    (f.rowXml scope form).HasPlainNames := by
  have cell := (f.bind scope).hasPlainNames_cellXml scope.language
    (Seed.cell scope.names.entity form f.name)
    [("disabled", if f.isReadOnly then "true" else "false")] (by simp +decide)
  simp +decide [rowXml, cell]

/-- The row of a field in the header has plain names. -/
theorem FormField.hasPlainNames_headerRowXml (f : FormField) :
    (f.headerRowXml scope form).HasPlainNames := by
  have cell := (f.bind scope).hasPlainNames_cellXml scope.language
    (Seed.headerCell scope.names.entity form f.name) [] Xml.arePlain_nil
  simp +decide [headerRowXml, cell]

/-- The row of a subgrid has plain names. -/
theorem Subgrid.hasPlainNames_rowXml (g : Subgrid) : (g.rowXml scope form).HasPlainNames := by
  simp +decide [rowXml]

/-- A section has plain names. -/
theorem FormSection.hasPlainNames_toXml (s : FormSection) :
    (s.toXml scope form).HasPlainNames := by
  simp +decide [toXml, FormField.hasPlainNames_rowXml, Subgrid.hasPlainNames_rowXml]

/-- The sections of a tab have plain names. -/
theorem hasPlainNames_columnsXml (sections : List FormSection) :
    (columnsXml sections scope form).HasPlainNames := by
  simp +decide [columnsXml, FormSection.hasPlainNames_toXml]

/-- A tab has plain names. -/
theorem FormTab.hasPlainNames_toXml (t : FormTab) : (t.toXml scope form).HasPlainNames := by
  simp +decide [toXml, hasPlainNames_columnsXml]

end

namespace Form

variable (f : Form) (scope : TableScope)

/-- The header of a form has plain names. -/
theorem havePlainNames_headerXml : HavePlainNames (f.headerXml scope) := by
  unfold headerXml
  split
  · exact Xml.havePlainNames_nil
  · simp +decide [FormField.hasPlainNames_headerRowXml]

/-- The body of a form has plain names. -/
theorem hasPlainNames_body : (f.body scope).HasPlainNames := by
  unfold body
  cases f.kind with
  | main =>
    simp +decide [mainBody, footerXml, FormTab.hasPlainNames_toXml, havePlainNames_headerXml]
  | quickCreate => simp +decide [quickCreateBody, hasPlainNames_columnsXml]

/-- A form has plain names. -/
theorem hasPlainNames_toXml : (f.toXml scope).HasPlainNames := by
  simp +decide [toXml, hasPlainNames_body]

end Form

/-- The forms of an entity have plain names. -/
theorem hasPlainNames_formsXml (forms : List Form) (scope : TableScope) :
    (formsXml forms scope).HasPlainNames := by
  have ofKind : ∀ kind word, HavePlainNames (formGroupXml forms scope kind word) := by
    intro kind word
    unfold formGroupXml
    dsimp only
    split
    · exact Xml.havePlainNames_nil
    · simp +decide [Form.hasPlainNames_toXml]
  simp +decide [formsXml, ofKind]

/-! ## Whole documents -/

/-- The block of the relationships has plain names. -/
theorem Relationship.hasPlainNames_blockXml (relationships : List Relationship)
    (version language : String) :
    (blockXml relationships version language).HasPlainNames := by
  have each : ∀ r : Relationship, (r.toXml version language).HasPlainNames := fun r => by
    simp +decide [toXml]
  unfold blockXml
  split <;> simp +decide [each]

/-- The blocks of the environment variables have plain names. -/
theorem EnvironmentVariable.havePlainNames_blocksXml (definitions : List EnvironmentVariable)
    (version language : String) : HavePlainNames (blocksXml definitions version language) := by
  have each : ∀ v : EnvironmentVariable, (v.toXml version language).HasPlainNames := fun v => by
    simp +decide [toXml]
  simp +decide [blocksXml, each]

namespace Customizations

variable {m : DataModel} {p : Project}

/-- The element of a table's entity has plain names. -/
theorem hasPlainNames_entityXml {refs : References} {t : Table} {e : Entity}
    (made : t.entity m.choices p.publisher.namePrefix (m.formsOf t) = .ok e) :
    (entityXml m p refs t e).HasPlainNames := by
  have info := Entity.hasPlainNames_infoXml made
  have forms : ∀ scope, HavePlainNames
      (if (m.formsOf t).isEmpty then [] else [formsXml (m.formsOf t) scope]) := fun scope => by
    split <;> simp [hasPlainNames_formsXml]
  have queries : ∀ (qs : List SavedQuery) version language, HavePlainNames
      (if qs.isEmpty then [] else [savedQueriesXml qs version language]) := by
    intro qs version language
    split <;> simp [hasPlainNames_savedQueriesXml]
  rw [entityXml, Entity.toXml, Xml.hasPlainNames_group, Xml.havePlainNames_append,
    Xml.havePlainNames_append, Xml.havePlainNames_cons, Xml.havePlainNames_cons]
  refine ⟨by decide, ⟨⟨?_, info _ _, Xml.havePlainNames_nil⟩, forms _⟩, queries _ _ _⟩
  simp +decide

/-- A document has plain names. -/
theorem hasPlainNames_root {es : List (Table × Entity)} (h : entities m p m.tables = .ok es) :
    (root m p es).HasPlainNames := by
  -- The names in the entities are plain only because the entities are made from the tables.
  have each : HavePlainNames (es.map fun te => entityXml m p (m.references p) te.1 te.2) := by
    have own := forall₂_select_entities (R := fun _ entity => entity.HasPlainNames)
      (fun t _ e made => hasPlainNames_entityXml made) h
    rw [← select_entities]
    intro entity among
    obtain ⟨t, plain⟩ := exists_of_forall₂_of_mem own.flip entity among
    exact plain
  have environment : HavePlainNames (if p.emitEnvironmentVariables then
      EnvironmentVariable.blocksXml m.environmentVariables p.version p.language else []) := by
    split
    · exact EnvironmentVariable.havePlainNames_blocksXml _ _ _
    · exact Xml.havePlainNames_nil
  simp only [root, frame, Xml.hasPlainNames_parent, Xml.havePlainNames_append,
    Xml.havePlainNames_cons, Xml.hasPlainNames_group, each, Relationship.hasPlainNames_blockXml,
    environment]
  simp +decide

end Customizations

namespace Manifest

/-- The names in an element that holds explicitly nothing are its tag and those that say so. -/
@[simp] theorem hasPlainNames_nilElement (tag : String) :
    (nilElement tag).HasPlainNames ↔ IsPlain tag := by
  simp +decide [nilElement]

/-- The element of an address has plain names. -/
theorem hasPlainNames_addressXml (number : String) : (addressXml number).HasPlainNames := by
  simp +decide [addressXml, addressFields]

/-- The element of a publisher has plain names. -/
theorem hasPlainNames_publisherXml (publisher : Publisher) (language : String) :
    (publisherXml publisher language).HasPlainNames := by
  simp +decide [publisherXml, hasPlainNames_addressXml]

/-- A manifest has plain names. -/
theorem hasPlainNames_root (m : DataModel) (p : Project) : (root m p).HasPlainNames := by
  have component : ∀ c, (componentXml c).HasPlainNames := fun c => by
    simp +decide [componentXml]
  simp +decide [root, hasPlainNames_publisherXml, component]

end Manifest

/-! ## Packages -/

namespace Package

/-- Authored texts cannot inject markup: the customizations and the manifest of a package are
documents with the roots that were generated. Cutting either at its raw angle brackets gives the
tags that were written, in order and with the attributes and texts that were written, whatever
these hold, and the tags nest properly inside a single one. -/
theorem isDocumentOf_documents {m : DataModel} {p : Project} {docs : List (String × String)}
    (h : (documents m p).result = .ok docs) :
    ∃ root customizations manifest, Customizations.result m p = .ok root ∧
      docs.lookup "customizations.xml" = some customizations ∧
      Xml.IsDocumentOf customizations root ∧
      docs.lookup "solution.xml" = some manifest ∧
      Xml.IsDocumentOf manifest (Manifest.root m p) := by
  obtain ⟨root, generated, rfl⟩ := exists_members_of_documents h
  obtain ⟨es, made, rfl⟩ := Customizations.exists_entities_of_result generated
  exact ⟨_, _, _, generated, rfl,
    Xml.isDocumentOf_document rfl (Customizations.hasPlainNames_root made), rfl,
    Xml.isDocumentOf_document rfl (Manifest.hasPlainNames_root m p)⟩

end Package

namespace Sample

/-- A project whose displayed name is full of markup. -/
def marked : Project :=
  { emitting with friendlyName := "</LocalizedNames> & \"R&amp;D\" <b é='1'>" }

end Sample

namespace Package

/-- A displayed name with markup in it is one value of one tag of the manifest, and is read as it
was written. -/
theorem isDocumentOf_documents_marked :
    ∃ docs manifest, (documents Sample.settings Sample.marked).result = .ok docs ∧
      docs.lookup "solution.xml" = some manifest ∧
      Xml.IsDocumentOf manifest (Manifest.root Sample.settings Sample.marked) ∧
      .empty "LocalizedName" [("description", "</LocalizedNames> & \"R&amp;D\" <b é='1'>"),
        ("languagecode", "1033")] ∈ (Manifest.root Sample.settings Sample.marked).tags := by
  obtain ⟨root, -, manifest, -, -, -, among, written⟩ :=
    isDocumentOf_documents (m := Sample.settings) (p := Sample.marked) rfl
  exact ⟨_, manifest, rfl, among, written, by decide +kernel⟩

end Package

end SpecBundle
