import SpecBundle.Proofs.Document.Markup
import SpecBundle.Proofs.Xml.Captions

/-!
# The captions of a package

`DataModel.captions` and `Project.captions` list, from the specifications alone, what a person gets
to see of the generated objects: displayed names, labels and descriptions. They are exactly the
captions that are read off the documents of a package, in this order (`Package.captions_documents`),
so nothing that is authored for display is lost, and nothing else is displayed.
-/

namespace SpecBundle

/-! ## Captions of specifications -/

/-- The captions of options under the name and the description of their set. -/
def optionCaptions (displayName : String) (description : Option String)
    (options : List ChoiceOption) : List String :=
  displayName :: (description.toList ++ options.map (·.label))

/-- The captions of a column's options. Those of a global choice that is not defined are missing. -/
def Column.optionCaptions (choices : List GlobalChoice) (c : Column) : List String :=
  match c.kind with
  | .boolean _ => [c.displayName, "", "Yes", "No"]
  | .globalChoice name =>
    match choiceNamed? choices name with
    | some choice => SpecBundle.optionCaptions choice.displayName choice.description choice.options
    | none => [c.displayName]
  | .choice options => SpecBundle.optionCaptions c.displayName c.description options
  | _ => []

/-- The captions of a column, if it is generated. -/
def Column.captions (choices : List GlobalChoice) (c : Column) : List String :=
  if c.isGenerated then c.optionCaptions choices ++ c.displayName :: c.description.toList else []

/-- The captions of a table and its columns, the primary one first. -/
def Table.captions (choices : List GlobalChoice) (t : Table) : List String :=
  t.displayName :: t.pluralName :: t.description ::
    (t.primary?.toList ++ t.otherColumns).flatMap (·.captions choices)

/-- The captions of a view. An empty description counts as none. -/
def View.captions (v : View) : List String :=
  v.displayName :: (v.description.filter (· != "")).toList

/-- The captions of a section, its fields and its subgrids. -/
def FormSection.captions (scope : TableScope) (s : FormSection) : List String :=
  s.label :: (s.fields.map (·.shownLabel scope) ++ s.subgrids.map (·.label))

/-- The captions of a form's body. The tab of a quick create form and the three cells of the footer
have empty ones. -/
def Form.bodyCaptions (scope : TableScope) (f : Form) : List String :=
  match f.kind with
  | .main =>
    f.tabs.flatMap (fun t => t.label :: t.sections.flatMap (·.captions scope)) ++
      f.header.map (·.shownLabel scope) ++ ["", "", ""]
  | .quickCreate => "" :: f.sections.flatMap (·.captions scope)

/-- The captions of a form. An empty description counts as none. -/
def Form.captions (scope : TableScope) (f : Form) : List String :=
  f.bodyCaptions scope ++ f.displayName :: (f.description.filter (· != "")).toList

/-- The captions of an environment variable. -/
def EnvironmentVariable.captions (v : EnvironmentVariable) : List String :=
  [v.displayName, v.description]

namespace DataModel

variable (m : DataModel) (p : Project)

/-- The captions of a table, its forms and its views. -/
def captionsOf (t : Table) : List String :=
  t.captions m.choices ++
    (m.writtenForms t).flatMap (·.captions (m.scope p (m.references p) t)) ++
    (m.viewsOf t).flatMap (·.captions)

/-- The captions of the customizations. A relationship has an empty description. -/
def captions : List String :=
  m.tables.flatMap (m.captionsOf p) ++
    (m.references p).relationships.map (fun _ => "") ++
    (if p.emitEnvironmentVariables then m.environmentVariables.flatMap (·.captions) else [])

end DataModel

/-- The captions of the manifest. -/
def Project.captions (p : Project) : List String :=
  [p.friendlyName, p.description, p.publisher.friendlyName, p.publisher.description]

/-! ## Captions of attributes and entities -/

/-- An option set has the captions of its options. -/
theorem OptionSet.captions_toXml (s : OptionSet) (version language : String) :
    (s.toXml version language).captions =
      optionCaptions s.displayName s.description s.options := by
  have header : (s.header version).flatMap (·.captions) = [] := by
    unfold OptionSet.header
    cases s.kind <;> exact Xml.flatMap_captions_leaves _
  have option : ∀ o, (optionXml language o).captions = [o.label] := fun o => by
    simp [optionXml]
  simp [toXml, optionCaptions, header, option, List.flatMap_map, ← List.map_eq_flatMap]

namespace Attribute

/-- An attribute has the captions of its option set before its own. -/
theorem captions_toXml (a : Attribute) (version language : String) :
    (a.toXml version language).captions =
      a.optionSet.toList.flatMap
          (fun s => optionCaptions s.displayName s.description s.options) ++
        a.displayName :: a.description.toList := by
  have targets : (if a.typeName = "lookup" then [Xml.Element.empty "LookupTypes" []]
      else []).flatMap (·.captions) = [] := by
    split <;> simp
  have options : (a.optionSet.map (·.toXml version language)).toList.flatMap (·.captions) =
      a.optionSet.toList.flatMap
        (fun s => optionCaptions s.displayName s.description s.options) := by
    cases a.optionSet <;> simp [OptionSet.captions_toXml]
  simp [toXml, targets, options]

/-- The option set of a column has the captions of the column's options. -/
theorem flatMap_optionSetOf? (choices : List GlobalChoice) (namePrefix entity physicalName : String)
    (c : Column) :
    (optionSetOf? choices namePrefix entity physicalName c).toList.flatMap
        (fun s => optionCaptions s.displayName s.description s.options) =
      c.optionCaptions choices := by
  unfold optionSetOf? Column.optionCaptions
  cases c.kind with
  | globalChoice name => cases h : choiceNamed? choices name <;> simp [h, optionCaptions]
  | _ => simp [optionCaptions, yesNo]

/-- What a column becomes has the captions of the column. -/
theorem captions_ofColumn? (choices : List GlobalChoice) (namePrefix : String)
    (names : ColumnNames) (isPrimary : Bool) (c : Column) (version language : String) :
    (ofColumn? choices namePrefix names isPrimary c).toList.flatMap
        (fun a => (a.toXml version language).captions) = c.captions choices := by
  have generated := isSome_ofColumn? choices namePrefix names isPrimary c
  rw [Column.captions, ← generated]
  cases made : ofColumn? choices namePrefix names isPrimary c with
  | none => rfl
  | some a =>
    obtain ⟨type, -, rfl⟩ := Option.map_eq_some_iff.1 made
    simp [captions_toXml, flatMap_optionSetOf?]

end Attribute

/-- The attributes and settings of an entity have the captions of its table. -/
theorem Entity.captions_infoXml {t : Table} {choices : List GlobalChoice} {namePrefix : String}
    {forms : List Form} {e : Entity} (h : t.entity choices namePrefix forms = .ok e)
    (version language : String) :
    (e.infoXml t version language).captions = t.captions choices := by
  obtain ⟨primary, hp, attributes⟩ := Table.flatMap_attributes
    (fun isPrimary c => Attribute.captions_ofColumn? choices namePrefix t.names isPrimary c
      version language) h
  simp [infoXml, Table.captions, hp, attributes, List.flatMap_map]

/-! ## Captions of saved queries and forms -/

/-- A saved query has the captions of its view. -/
theorem View.captions_compile (v : View) (index : ChoiceIndex) (names : ColumnNames)
    (version language : String) :
    ((v.compile index names).toXml version language).captions = v.captions := by
  have condition : ∀ c : QueryCondition, c.toXml.captions = [] := fun c => by
    unfold QueryCondition.toXml
    cases c.payload <;> simp
  have grid : ∀ q : SavedQuery, q.gridXml.captions = [] := fun q => by
    simp [SavedQuery.gridXml, List.flatMap_map]
  have filter : ∀ f : Option QueryFilter, (f.map (·.toXml)).toList.flatMap (·.captions) = [] := by
    intro f
    cases f <;> simp [QueryFilter.toXml, condition, List.flatMap_map]
  have fetch : ∀ q : SavedQuery, q.fetchXml.captions = [] := fun q => by
    simp [SavedQuery.fetchXml, filter, List.flatMap_map]
  simp [SavedQuery.toXml, grid, fetch, compile, captions]

section

variable (scope : TableScope) (form : String)

/-- The cell of a field has the label of the field. -/
theorem BoundField.captions_cellXml (bound : BoundField) (language : String) (seed : Seed)
    {more : List Xml.Attribute} (h : Xml.attributeCaptions more = []) :
    (bound.cellXml language seed more).captions = [bound.label] := by
  simp [cellXml, h]

/-- The row of a field in a section has the label that is shown. -/
theorem FormField.captions_rowXml (f : FormField) :
    (f.rowXml scope form).captions = [f.shownLabel scope] := by
  simp [rowXml, BoundField.captions_cellXml, bind]

/-- The row of a field in the header has the label that is shown. -/
theorem FormField.captions_headerRowXml (f : FormField) :
    (f.headerRowXml scope form).captions = [f.shownLabel scope] := by
  rw [headerRowXml, Xml.captions_group, List.flatMap_singleton,
    BoundField.captions_cellXml _ _ _ Xml.attributeCaptions_nil, bind]

/-- The row of a subgrid has its label. -/
theorem Subgrid.captions_rowXml (g : Subgrid) : (g.rowXml scope form).captions = [g.label] := by
  simp [rowXml]

/-- A section has the captions of what is in it. -/
theorem FormSection.captions_toXml (s : FormSection) :
    (s.toXml scope form).captions = s.captions scope := by
  simp [toXml, captions, FormField.captions_rowXml, Subgrid.captions_rowXml, List.flatMap_map,
    ← List.map_eq_flatMap]

/-- The sections of a tab have the captions of what is in them. -/
theorem captions_columnsXml (sections : List FormSection) :
    (columnsXml sections scope form).captions = sections.flatMap (·.captions scope) := by
  simp [columnsXml, FormSection.captions_toXml, List.flatMap_map]

end

namespace Form

variable (f : Form) (scope : TableScope)

/-- The header of a form has the labels of its fields. -/
theorem captions_headerXml :
    (f.headerXml scope).flatMap (·.captions) = f.header.map (·.shownLabel scope) := by
  rw [headerXml, flatMap_block _ fun none => by simp [none]]
  simp [FormField.captions_headerRowXml, List.flatMap_map, ← List.map_eq_flatMap]

/-- The body of a form has the captions of what is in it. -/
theorem captions_body : (f.body scope).captions = f.bodyCaptions scope := by
  unfold body bodyCaptions
  cases f.kind with
  | main =>
    simp [mainBody, FormTab.toXml, footerXml, captions_headerXml, captions_columnsXml,
      List.flatMap_map]
  | quickCreate => simp [quickCreateBody, captions_columnsXml]

/-- A form has the captions of its specification. -/
theorem captions_toXml : (f.toXml scope).captions = f.captions scope := by
  simp [toXml, captions, captions_body]

end Form

/-- The forms of an entity have the captions of their specifications, in the order in which they are
written. -/
theorem captions_formsXml (forms : List Form) (scope : TableScope) :
    (formsXml forms scope).captions =
      (formsOfKind forms .main ++ formsOfKind forms .quickCreate).flatMap (·.captions scope) := by
  have ofKind : ∀ kind word, (formGroupXml forms scope kind word).flatMap (·.captions) =
      (formsOfKind forms kind).flatMap (·.captions scope) := by
    intro kind word
    rw [formGroupXml, flatMap_block _ fun none => by simp [none]]
    simp [Form.captions_toXml, List.flatMap_map]
  rw [formsXml, Xml.captions_group, List.flatMap_append, ofKind, ofKind, List.flatMap_append]

/-! ## Captions of documents -/

/-- A relationship has an empty description. -/
theorem Relationship.captions_blockXml (relationships : List Relationship)
    (version language : String) :
    (blockXml relationships version language).captions = relationships.map fun _ => "" := by
  have each : ∀ r : Relationship, (r.toXml version language).captions = [""] := fun r => by
    simp [toXml]
  unfold blockXml
  cases relationships with
  | nil => rfl
  | cons r rest => simp [each, List.flatMap_map, ← List.map_eq_flatMap]

/-- The blocks of the environment variables have their captions. -/
theorem EnvironmentVariable.captions_blocksXml (definitions : List EnvironmentVariable)
    (version language : String) :
    (blocksXml definitions version language).flatMap (·.captions) =
      definitions.flatMap (·.captions) := by
  have default : ∀ value : Option String,
      (value.map (Xml.leaf "defaultvalue")).toList.flatMap (·.captions) = [] := fun value => by
    cases value <;> simp
  have each : ∀ v : EnvironmentVariable, (v.toXml version language).captions = v.captions :=
    fun v => by simp [toXml, captions, default]
  simp [blocksXml, each, List.flatMap_map]

namespace Customizations

variable {m : DataModel} {p : Project}

/-- The element of a table's entity has the captions of the table. -/
theorem captions_entityXml {t : Table} {e : Entity}
    (made : t.entity m.choices p.publisher.namePrefix (m.formsOf t) = .ok e) :
    (entityXml m p (m.references p) t e).captions = m.captionsOf p t := by
  have info := Entity.captions_infoXml made p.version p.language
  have forms : ∀ scope,
      (if (m.formsOf t).isEmpty then [] else [formsXml (m.formsOf t) scope]).flatMap
        (·.captions) = (m.writtenForms t).flatMap (·.captions scope) := by
    intro scope
    rw [flatMap_block _ fun none => by simp [none, captions_formsXml, formsOfKind],
      captions_formsXml, DataModel.writtenForms]
  have queries : ∀ index names,
      (if ((m.viewsOf t).map (·.compile index names)).isEmpty then []
        else [savedQueriesXml ((m.viewsOf t).map (·.compile index names)) p.version
          p.language]).flatMap (·.captions) = (m.viewsOf t).flatMap (·.captions) := by
    intro index names
    rw [flatMap_block _ fun none => by simp [none, savedQueriesXml]]
    simp [savedQueriesXml, View.captions_compile, List.flatMap_map]
  simp only [entityXml, Entity.toXml, Xml.captions_group, List.flatMap_append, List.flatMap_cons,
    DataModel.captionsOf, DataModel.scope, info, forms, queries]
  simp

/-- The root of the customizations has the captions of the data model. -/
theorem captions_root {es : List (Table × Entity)} (made : entities m p m.tables = .ok es) :
    (root m p es).captions = m.captions p := by
  have each : (es.map fun te => entityXml m p (m.references p) te.1 te.2).flatMap (·.captions) =
      m.tables.flatMap (m.captionsOf p) :=
    flatMap_entityXml (fun t e entity => captions_entityXml entity) made
  have environment : (if p.emitEnvironmentVariables then
      EnvironmentVariable.blocksXml m.environmentVariables p.version p.language else []).flatMap
        (·.captions) =
      if p.emitEnvironmentVariables then m.environmentVariables.flatMap (·.captions) else [] := by
    split
    · exact EnvironmentVariable.captions_blocksXml _ _ _
    · rfl
  simp only [root, frame, Xml.captions_parent, List.flatMap_append, List.flatMap_cons,
    Xml.captions_group, each, Relationship.captions_blockXml, environment, DataModel.captions]
  simp

end Customizations

/-- The root of the manifest has the captions of the project. -/
theorem Manifest.captions_root (m : DataModel) (p : Project) :
    (root m p).captions = p.captions := by
  have empty : ∀ tag, (nilElement tag).captions = [] := fun tag => by
    simp [nilElement]
  have address : ∀ number, (addressXml number).captions = [] := fun number => by
    simp [addressXml, empty]
  have component : ∀ c, (componentXml c).captions = [] := fun c => by
    simp [componentXml]
  simp [root, publisherXml, empty, address, component, Project.captions]

/-- What is read off the documents of a package as displayed is what the specifications give for
display, all of it, once and in order. -/
theorem Package.captions_documents {m : DataModel} {p : Project} {docs : List (String × String)}
    (h : (documents m p).result = .ok docs) :
    (docs.lookup "customizations.xml").bind Xml.captionsOf? = some (m.captions p) ∧
      (docs.lookup "solution.xml").bind Xml.captionsOf? = some p.captions := by
  obtain ⟨root, generated, rfl⟩ := exists_members_of_documents h
  obtain ⟨es, made, rfl⟩ := Customizations.exists_entities_of_result generated
  have customizations : (members m p (Customizations.root m p es)).lookup "customizations.xml" =
      some (Xml.document (Customizations.root m p es)) := rfl
  have manifest : (members m p (Customizations.root m p es)).lookup "solution.xml" =
      some (Xml.document (Manifest.root m p)) := rfl
  constructor
  · rw [customizations, Option.bind_some, ← Customizations.captions_root made]
    exact (Xml.isDocumentOf_document rfl (Customizations.hasPlainNames_root made)).captionsOf?_eq
  · rw [manifest, Option.bind_some, ← Manifest.captions_root m p]
    exact (Xml.isDocumentOf_document rfl (Manifest.hasPlainNames_root m p)).captionsOf?_eq

end SpecBundle
