import SpecBundle.Proofs.Entity.Attributes
import SpecBundle.Proofs.Lists
import SpecBundle.Proofs.SystemForm.Shown

/-!
# Where things stand in a document

A document is made from the entities of all tables (`exists_entities_of_result`), and the pass that
makes it leaves the records of every table (`notes_of_entities`). Its entities stand in the order of
the tables, its relationships in that of their derivation, and the forms of an entity in the order
in which they are written.
-/

namespace SpecBundle

open Xml (select_cons selectFrom selectFrom_map selectFrom_map_nil selectFrom_of_ne)

namespace Customizations

variable {m : DataModel} {p : Project}

/-! ## The entities of tables -/

/-- The entity of a table is assembled exactly if the table has it. -/
theorem result_assemble_eq_ok_iff {t : Table} {te : Table × Entity} :
    (assemble m p t).result = .ok te ↔
      te.1 = t ∧ t.entity m.choices p.publisher.namePrefix (m.formsOf t) = .ok te.2 := by
  obtain ⟨u, e⟩ := te
  unfold assemble
  cases t.entity m.choices p.publisher.namePrefix (m.formsOf t) with
  | error e => simp [Except.map]
  | ok e => simp [Except.map, eq_comm]

/-- The entities of tables are those of each table by itself. -/
theorem forall₂_entities {tables : List Table} {es : List (Table × Entity)}
    (h : entities m p tables = .ok es) :
    List.Forall₂ (fun t te => te.1 = t ∧
      t.entity m.choices p.publisher.namePrefix (m.formsOf t) = .ok te.2) tables es := by
  rw [entities, assembleAll, Outcome.result_mapM] at h
  exact (forall₂_of_mapM_ok h).imp fun _ _ => result_assemble_eq_ok_iff.1

/-- The tables of entities are those that they were made from. -/
theorem map_fst_entities {tables : List Table} {es : List (Table × Entity)}
    (h : entities m p tables = .ok es) : es.map (·.1) = tables := by
  have same : tables.map id = es.map (·.1) :=
    map_eq_map_of_forall₂ ((forall₂_entities h).imp fun _ _ own => own.1.symm)
  rw [← same, List.map_id]

/-- Tables that have entities have primary columns. -/
theorem isSome_primary?_of_mem {tables : List Table} {es : List (Table × Entity)}
    (h : entities m p tables = .ok es) : ∀ t ∈ tables, t.primary?.isSome = true := by
  intro t ht
  obtain ⟨te, -, made⟩ := exists_of_forall₂_of_mem (forall₂_entities h) t ht
  cases hp : t.primary? with
  | none =>
    rw [Table.entity, hp] at made
    cases made
  | some primary => rfl

/-- Tables that have an entity each have them together. -/
theorem exists_entities {tables : List Table}
    (h : ∀ t ∈ tables, ∃ e,
      t.entity m.choices p.publisher.namePrefix (m.formsOf t) = .ok e) :
    ∃ es, entities m p tables = .ok es := by
  rw [entities, assembleAll, Outcome.result_mapM]
  refine exists_mapM_ok fun t ht => ?_
  obtain ⟨e, made⟩ := h t ht
  exact ⟨(t, e), result_assemble_eq_ok_iff.2 ⟨rfl, made⟩⟩

/-! ## The pass -/

/-- The document with the given entities. -/
def root (m : DataModel) (p : Project) (es : List (Table × Entity)) : Xml.Element :=
  frame m p (m.references p) (es.map fun te => entityXml m p (m.references p) te.1 te.2)

/-- Writing entities does not fail. -/
theorem result_mapM_write (refs : References) (es : List (Table × Entity)) :
    (es.mapM (write m p refs)).result = .ok (es.map fun te => entityXml m p refs te.1 te.2) := by
  rw [Outcome.result_mapM, mapM_eq_ok_iff, List.forall₂_map_right_iff, List.forall₂_same]
  exact fun _ _ => rfl

/-- A document is made from the entities of all tables, and there is none without these. -/
theorem result_eq : result m p = (entities m p m.tables).map (root m p) := by
  rw [result, generate, Outcome.result_record_bind, Outcome.result_bind, entities]
  cases (assembleAll m p m.tables).result with
  | error e => rfl
  | ok es =>
    change (es.mapM (write m p (m.references p)) >>= _).result = _
    rw [Outcome.result_bind, result_mapM_write]
    rfl

/-- A document is made from the entities of all tables. -/
theorem exists_entities_of_result {document : Xml.Element} (h : result m p = .ok document) :
    ∃ es, entities m p m.tables = .ok es ∧ document = root m p es := by
  rw [result_eq] at h
  cases he : entities m p m.tables with
  | error e =>
    rw [he] at h
    cases h
  | ok es =>
    rw [he] at h
    cases h
    exact ⟨es, rfl, rfl⟩

/-- The records that are made before the entities are assembled come first, and those of the
assembly stay, whether it stops or not. -/
theorem notes_prefix_generate (m : DataModel) (p : Project) :
    leadingNotes m p ++ (assembleAll m p m.tables).notes <+: notes m p := by
  rw [notes, generate, Outcome.notes_record_bind]
  exact (List.prefix_append_right_inj _).2 (Outcome.notes_prefix_bind _)

/-- A pass that cannot assemble an entity leaves no record of views and forms. -/
theorem notes_of_error {e : BuildError} (fails : entities m p m.tables = .error e) :
    notes m p = leadingNotes m p ++ (assembleAll m p m.tables).notes := by
  rw [notes, generate, Outcome.notes_record_bind, Outcome.notes_bind_of_error _ fails]

/-- A pass that assembles all entities leaves the records of the attributes of all tables and then
those of the views and forms of all tables. -/
theorem notes_of_entities {es : List (Table × Entity)} (made : entities m p m.tables = .ok es) :
    notes m p = leadingNotes m p ++ (m.tables.flatMap (·.attributeNotes m.choices) ++
      m.tables.flatMap (tableNotes m p (m.references p))) := by
  have assembled : (assembleAll m p m.tables).notes =
      m.tables.flatMap (·.attributeNotes m.choices) := by
    refine Outcome.notes_mapM_of_ok _ fun t ht => ?_
    obtain ⟨te, own⟩ := exists_of_forall₂_of_mem (forall₂_entities made) t ht
    exact ⟨te, result_assemble_eq_ok_iff.2 own⟩
  have written : (es.mapM (write m p (m.references p))).notes =
      m.tables.flatMap (tableNotes m p (m.references p)) := by
    rw [Outcome.notes_mapM_of_ok _ fun te _ => ⟨_, rfl⟩, ← map_fst_entities made,
      List.flatMap_map]
    rfl
  rw [notes, generate, Outcome.notes_record_bind, Outcome.notes_bind_of_ok _ made, bind_pure_comp,
    Outcome.notes_map, assembled, written]

/-! ## Where things stand -/

/-- The blocks of environment variables are left aside on the way to others. -/
theorem selectFrom_environment {tag : String} (path : List String)
    (h : tag ∉ ["environmentvariabledefinitions", "environmentvariablevalues"]) :
    selectFrom tag path (if p.emitEnvironmentVariables then
      EnvironmentVariable.blocksXml m.environmentVariables p.version p.language else []) = [] := by
  refine selectFrom_of_ne tag path fun e he same => h ?_
  rw [← same]
  split at he
  · simp only [EnvironmentVariable.blocksXml, List.mem_cons, List.not_mem_nil, or_false] at he
    rcases he with rfl | rfl <;> simp
  · cases he

/-- The block of relationships has the same tag whether there are any or not. -/
theorem tag_blockXml (relationships : List Relationship) (version language : String) :
    (Relationship.blockXml relationships version language).tag = "EntityRelationships" := by
  unfold Relationship.blockXml
  split <;> rfl

/-- The block of relationships has all of them. -/
theorem select_blockXml (relationships : List Relationship) (version language : String) :
    (Relationship.blockXml relationships version language).select ["EntityRelationship"] =
      relationships.map (·.toXml version language) := by
  unfold Relationship.blockXml
  split
  · rename_i none
    rw [List.isEmpty_iff.1 none]
    rfl
  · exact selectFrom_map_nil "EntityRelationship" _ (fun _ => rfl) relationships

/-- The entities of a document. -/
theorem select_entities (es : List (Table × Entity)) :
    (root m p es).select ["Entities", "Entity"] =
      es.map fun te => entityXml m p (m.references p) te.1 te.2 := by
  have inner : (Xml.group "Entities"
      (es.map fun te => entityXml m p (m.references p) te.1 te.2)).select ["Entity"] =
      es.map fun te => entityXml m p (m.references p) te.1 te.2 :=
    selectFrom_map_nil "Entity" _ (fun _ => rfl) es
  rw [root, frame, select_cons]
  simp [tag_blockXml, selectFrom_environment, inner]

/-- The relationships of a document. -/
theorem select_relationships (es : List (Table × Entity)) :
    (root m p es).select ["EntityRelationships", "EntityRelationship"] =
      (Relationship.deriveAll p.publisher.namePrefix m.tables).map
        (·.toXml p.version p.language) := by
  rw [root, frame, select_cons]
  simp [tag_blockXml, selectFrom_environment, select_blockXml, DataModel.references]

end Customizations

/-! ## Where things stand in an entity -/

/-- Where the saved queries of an entity stand in its element. -/
def savedQueryPath : List String :=
  ["SavedQueries", "savedqueries", "savedquery"]

/-- Where the attributes and settings of an entity stand in its element. -/
def settingsPath : List String :=
  ["EntityInfo", "entity"]

/-- Where the attributes of an entity stand in its element. -/
def attributePath : List String :=
  settingsPath ++ ["attributes", "attribute"]

/-- The forms of a kind stand in a block of their own. -/
theorem selectFrom_formGroupXml (forms : List Form) (scope : TableScope) (kind : FormKind)
    (word : String) :
    selectFrom "forms" ["systemform"] (formGroupXml forms scope kind word) =
      (formsOfKind forms kind).map (·.toXml scope) := by
  have inner := selectFrom_map_nil "systemform" (fun f : Form => f.toXml scope) (fun _ => rfl)
    (formsOfKind forms kind)
  cases none : (formsOfKind forms kind).isEmpty with
  | true => simp [formGroupXml, List.isEmpty_iff.1 none]
  | false => simp [formGroupXml, none, select_cons, inner]

/-- The forms of an entity, in the order in which they are written. -/
theorem select_formsXml (forms : List Form) (scope : TableScope) :
    (formsXml forms scope).select ["forms", "systemform"] =
      (formsOfKind forms .main ++ formsOfKind forms .quickCreate).map (·.toXml scope) := by
  simp [formsXml, select_cons, selectFrom_formGroupXml]

namespace Entity

variable (e : Entity) (scope : TableScope) (forms : List Form) (queries : List SavedQuery)

/-- What stands in the element of an entity after its name and settings. -/
theorem selectFrom_toXml {tag : String} (path : List String) (h : tag ∉ ["Name", "EntityInfo"]) :
    (e.toXml scope forms queries).select (tag :: path) =
      selectFrom tag path ((if forms.isEmpty then [] else [formsXml forms scope]) ++
        (if queries.isEmpty then []
          else [savedQueriesXml queries scope.version scope.language])) := by
  have info : (e.infoXml scope.table scope.version scope.language).tag = "EntityInfo" := rfl
  simp only [List.mem_cons, List.not_mem_nil, or_false, not_or] at h
  rw [Entity.toXml, select_cons, Xml.children_group, List.append_assoc, Xml.selectFrom_append]
  simp [info, Ne.symm h.1, Ne.symm h.2]

/-- The forms of an entity, in the order in which they are written. -/
theorem select_forms :
    (e.toXml scope forms queries).select ["FormXml", "forms", "systemform"] =
      (formsOfKind forms .main ++ formsOfKind forms .quickCreate).map (·.toXml scope) := by
  have block : (formsXml forms scope).tag = "FormXml" := rfl
  -- The block of saved queries has no forms.
  have views : selectFrom "FormXml" ["forms", "systemform"] (if queries.isEmpty then []
      else [savedQueriesXml queries scope.version scope.language]) = [] := by
    split <;> rfl
  rw [selectFrom_toXml e scope forms queries _ (by decide), Xml.selectFrom_append, views,
    List.append_nil]
  cases none : forms.isEmpty with
  | true => simp [List.isEmpty_iff.1 none, formsOfKind]
  | false => simp [block, select_formsXml]

/-- The saved queries of an entity, in the order in which they are written. -/
theorem select_savedQueries :
    (e.toXml scope forms queries).select savedQueryPath =
      queries.map (·.toXml scope.version scope.language) := by
  have inner := selectFrom_map_nil "savedquery"
    (fun q : SavedQuery => q.toXml scope.version scope.language) (fun _ => rfl) queries
  -- The block of forms has no saved queries.
  have others : selectFrom "SavedQueries" ["savedqueries", "savedquery"]
      (if forms.isEmpty then [] else [formsXml forms scope]) = [] := by
    split <;> rfl
  rw [savedQueryPath, selectFrom_toXml e scope forms queries _ (by decide),
    Xml.selectFrom_append, others, List.nil_append]
  cases none : queries.isEmpty with
  | true => simp [List.isEmpty_iff.1 none]
  | false => simp [savedQueriesXml, select_cons, inner]

/-- The blocks of forms and saved queries are left aside on the way to the name and settings. -/
theorem selectFrom_blocks {tag : String} (path : List String)
    (h : tag ∉ ["FormXml", "SavedQueries"]) :
    selectFrom tag path ((if forms.isEmpty then [] else [formsXml forms scope]) ++
      (if queries.isEmpty then []
        else [savedQueriesXml queries scope.version scope.language])) = [] := by
  have formBlock : (formsXml forms scope).tag = "FormXml" := rfl
  have queryBlock : (savedQueriesXml queries scope.version scope.language).tag = "SavedQueries" :=
    rfl
  simp only [List.mem_cons, List.not_mem_nil, or_false, not_or] at h
  rw [Xml.selectFrom_append]
  split <;> split <;> simp [formBlock, queryBlock, Ne.symm h.1, Ne.symm h.2]

/-- The name of an entity. -/
theorem texts_name : (e.toXml scope forms queries).texts ["Name"] = [e.logicalName] := by
  have info : (e.infoXml scope.table scope.version scope.language).tag = "EntityInfo" := rfl
  rw [Xml.Element.texts, Entity.toXml, select_cons, Xml.children_group, List.append_assoc,
    Xml.selectFrom_append, selectFrom_blocks scope forms queries [] (by decide)]
  simp [info]

/-- The attributes and settings of an entity stand in one element. -/
theorem select_settings :
    (e.toXml scope forms queries).select settingsPath =
      (e.infoXml scope.table scope.version scope.language).children := by
  rw [Entity.toXml, settingsPath, select_cons, Xml.children_group, List.append_assoc,
    Xml.selectFrom_append, selectFrom_blocks scope forms queries ["entity"] (by decide)]
  simp [infoXml, select_cons]

/-- The attributes of an entity, in the order in which they are written. -/
theorem select_attributes :
    (e.toXml scope forms queries).select attributePath =
      e.attributes.map (·.toXml scope.version scope.language) := by
  have inner := selectFrom_map_nil "attribute"
    (fun a : Attribute => a.toXml scope.version scope.language) (fun _ => rfl) e.attributes
  rw [attributePath, Xml.select_append, select_settings, infoXml, Xml.children_group]
  simp [select_cons, inner, Xml.selectFrom_leaves_of_not_mem, leadingFlags, middleFlags,
    trailingFlags]

/-- The names of an entity's attributes. -/
theorem values_attributes :
    (e.toXml scope forms queries).values attributePath "PhysicalName" =
      e.attributes.map (·.physicalName) := by
  rw [Xml.Element.values, select_attributes, List.filterMap_map, ← List.filterMap_eq_map]
  rfl

/-- Whether rows of an entity can be created in a quick create form. -/
theorem texts_isQuickCreateEnabled :
    (e.toXml scope forms queries).texts (settingsPath ++ ["IsQuickCreateEnabled"]) =
      [Xml.flagText e.isQuickCreateEnabled] := by
  rw [Xml.Element.texts, Xml.select_append, select_settings, infoXml, Xml.children_group]
  simp [select_cons, Xml.selectFrom_leaves_of_not_mem, leadingFlags, middleFlags, trailingFlags,
    Xml.flag]

end Entity

namespace Customizations

variable {m : DataModel} {p : Project}

/-- The entity of a table is called by its logical name. -/
theorem texts_name_entityXml {refs : References} {t : Table} {e : Entity}
    (made : t.entity m.choices p.publisher.namePrefix (m.formsOf t) = .ok e) :
    (entityXml m p refs t e).texts ["Name"] = [t.logicalName] := by
  rw [entityXml, Entity.texts_name, Table.logicalName_of_entity made]

/-- What holds of the element of every table's entity holds table by table of the entities of a
document. -/
theorem forall₂_select_entities {R : Table → Xml.Element → Prop}
    (own : ∀ t ∈ m.tables, ∀ e, t.entity m.choices p.publisher.namePrefix (m.formsOf t) = .ok e →
      R t (entityXml m p (m.references p) t e))
    {es : List (Table × Entity)} (made : entities m p m.tables = .ok es) :
    List.Forall₂ R m.tables ((root m p es).select ["Entities", "Entity"]) := by
  have among : List.Forall₂ (fun t te => t ∈ m.tables ∧ te.1 = t ∧
      t.entity m.choices p.publisher.namePrefix (m.formsOf t) = .ok te.2) m.tables es :=
    (List.forall₂_and_left m.tables es).2 ⟨fun _ ht => ht, forall₂_entities made⟩
  rw [select_entities, List.forall₂_map_right_iff]
  refine among.imp ?_
  rintro _ ⟨t, e⟩ ⟨ht, rfl, entity⟩
  exact own t ht e entity

/-- What the entities of a document say of their tables is said table by table. -/
theorem map_select_entities {β : Type} {f : Table → β} {g : Xml.Element → β}
    (own : ∀ t e, t.entity m.choices p.publisher.namePrefix (m.formsOf t) = .ok e →
      g (entityXml m p (m.references p) t e) = f t)
    {es : List (Table × Entity)} (made : entities m p m.tables = .ok es) :
    ((root m p es).select ["Entities", "Entity"]).map g = m.tables.map f :=
  (map_eq_map_of_forall₂ (forall₂_select_entities (R := fun t entity => f t = g entity)
    (fun t _ e entity => (own t e entity).symm) made)).symm

/-- What the elements of the entities say one after the other is said of the tables. -/
theorem flatMap_entityXml {β : Type} {f : Table → List β} {g : Xml.Element → List β}
    (own : ∀ t e, t.entity m.choices p.publisher.namePrefix (m.formsOf t) = .ok e →
      g (entityXml m p (m.references p) t e) = f t)
    {es : List (Table × Entity)} (made : entities m p m.tables = .ok es) :
    (es.map fun te => entityXml m p (m.references p) te.1 te.2).flatMap g = m.tables.flatMap f := by
  rw [← select_entities, List.flatMap_def, List.flatMap_def, map_select_entities own made]

end Customizations

end SpecBundle
