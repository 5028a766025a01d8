import SpecBundle.Proofs.Document.Entities
import SpecBundle.Proofs.Document.Records
import SpecBundle.Proofs.Samples
import SpecBundle.Proofs.Text.Lowercase

/-!
# Where views and forms are placed

Two filters look at the tables that views and forms belong to. The entity of a table is written with
the views and forms that give the table's name, and before that a record is made of each view and
form whose name no table has. The filters compare the names the other way round and run apart from
each other, and a third look at the forms decides whether an entity allows quick creation. They
agree (`Customizations.placement_of_result`): every entity holds the views and forms of its table
(`Customizations.Holds`), and there is one record for each of the others
(`Customizations.Placement`).
-/

namespace SpecBundle

open Xml (Element select_cons selectFrom)

/-! ## Views and forms without a table -/

namespace DataModel

variable (m : DataModel)

/-- No table has the name that a view or form gives, in any case of ASCII letters. -/
def LacksTable (entity : String) : Prop :=
  ∀ t ∈ m.tables, Text.equalsIgnoringCase entity t.schemaName = false

instance (entity : String) : Decidable (m.LacksTable entity) :=
  inferInstanceAs (Decidable (∀ t ∈ m.tables, _))

/-- A name is looked for among the tables as the tables look for theirs. -/
theorem not_hasTable_eq (entity : String) :
    (!m.hasTable entity) = decide (m.LacksTable entity) := by
  have lacks : (!m.hasTable entity) = true ↔ m.LacksTable entity := by
    simp [hasTable, LacksTable, Text.equalsIgnoringCase_comm]
  exact Bool.eq_iff_iff.2 (lacks.trans decide_eq_true_iff.symm)

/-- A view gives a name that no table has exactly if it is a view of no table. -/
theorem lacksTable_view_iff {v : View} (hv : v ∈ m.views) :
    m.LacksTable v.entity ↔ ∀ t ∈ m.tables, v ∉ m.viewsOf t := by
  simp [LacksTable, viewsOf, hv]

/-- A form gives a name that no table has exactly if it is a form of no table. -/
theorem lacksTable_form_iff {f : Form} (hf : f ∈ m.forms) :
    m.LacksTable f.entity ↔ ∀ t ∈ m.tables, f ∉ m.formsOf t := by
  simp [LacksTable, formsOf, hf]

end DataModel

/-! ## The groups of an entity's forms -/

/-- The blocks of forms in the element of an entity, with their types. -/
def formGroups (entity : Element) : List (Option String × List Element) :=
  (entity.select ["FormXml", "forms"]).map fun block => (block.attribute? "type", block.children)

/-- A block of the given type, unless it would be empty. -/
def formGroup (word : String) (forms : List Element) : List (Option String × List Element) :=
  if forms.isEmpty then [] else [(some word, forms)]

/-- A block of forms of another type is not there. -/
theorem any_formGroup (word other : String) (forms : List Element) :
    (formGroup word forms).any (·.1 == some other) = (word == other && !forms.isEmpty) := by
  unfold formGroup
  split <;> simp_all

/-- There is no form of a kind unless one of the forms is of the kind. -/
theorem isEmpty_formsOfKind (forms : List Form) (kind : FormKind) :
    (formsOfKind forms kind).isEmpty = !forms.any (·.kind == kind) := by
  rw [Bool.eq_iff_iff, List.isEmpty_iff, formsOfKind, List.filter_eq_nil_iff]
  simp

section

variable (forms : List Form) (scope : TableScope)

/-- The forms of a kind stand in one block of their type. -/
theorem map_selectFrom_formGroupXml (kind : FormKind) (word : String) :
    (selectFrom "forms" [] (formGroupXml forms scope kind word)).map
        (fun block => (block.attribute? "type", block.children)) =
      formGroup word ((formsOfKind forms kind).map (·.toXml scope)) := by
  cases none : (formsOfKind forms kind).isEmpty with
  | true => simp [formGroupXml, formGroup, List.isEmpty_iff.1 none]
  | false => simp [formGroupXml, formGroup, none]

/-- The blocks of forms: main forms, then quick create forms. -/
theorem formGroups_toXml (e : Entity) (queries : List SavedQuery) :
    formGroups (e.toXml scope forms queries) =
      formGroup "main" ((formsOfKind forms .main).map (·.toXml scope)) ++
        formGroup "quick" ((formsOfKind forms .quickCreate).map (·.toXml scope)) := by
  have block : (formsXml forms scope).tag = "FormXml" := rfl
  have views : selectFrom "FormXml" ["forms"] (if queries.isEmpty then []
      else [savedQueriesXml queries scope.version scope.language]) = [] := by
    split <;> rfl
  have inner : ((formsXml forms scope).select ["forms"]).map
        (fun block => (block.attribute? "type", block.children)) =
      formGroup "main" ((formsOfKind forms .main).map (·.toXml scope)) ++
        formGroup "quick" ((formsOfKind forms .quickCreate).map (·.toXml scope)) := by
    rw [formsXml, select_cons, Xml.children_group, Xml.selectFrom_append, List.map_append,
      map_selectFrom_formGroupXml, map_selectFrom_formGroupXml]
  rw [formGroups, e.selectFrom_toXml scope forms queries _ (by decide), Xml.selectFrom_append,
    views, List.append_nil]
  cases none : forms.isEmpty with
  | true => simp [List.isEmpty_iff.1 none, formsOfKind, formGroup]
  | false => simpa [block] using inner

end

/-! ## The document -/

namespace Customizations

/-- The element of a table's entity holds the views and forms of the table. -/
structure Holds (m : DataModel) (p : Project) (t : Table) (entity : Element) : Prop where
  /-- It is called like the table. -/
  name : entity.texts ["Name"] = [t.logicalName]
  /-- There is one saved query for each view of the table, in authored order. -/
  queries : entity.select savedQueryPath = (m.viewsOf t).map fun v =>
    (v.compile (m.references p).index t.names).toXml p.version p.language
  /-- There is one system form for each form of the table. -/
  forms : (entity.select ["FormXml", "forms", "systemform"]).Perm
    ((m.formsOf t).map (·.toXml (m.scope p (m.references p) t)))
  /-- The main forms stand in one block and the quick create forms in another behind it, each in
  authored order. -/
  groups : formGroups entity =
    formGroup "main" ((formsOfKind (m.formsOf t) .main).map
        (·.toXml (m.scope p (m.references p) t))) ++
      formGroup "quick" ((formsOfKind (m.formsOf t) .quickCreate).map
        (·.toXml (m.scope p (m.references p) t)))
  /-- Quick creation is enabled if there is a block of quick create forms. -/
  quickCreate : entity.texts (settingsPath ++ ["IsQuickCreateEnabled"]) =
    [Xml.flagText ((formGroups entity).any (·.1 == some "quick"))]

variable {m : DataModel} {p : Project}

/-- The element of every entity holds the views and forms of its table. -/
theorem holds_entityXml {t : Table} {e : Entity}
    (made : t.entity m.choices p.publisher.namePrefix (m.formsOf t) = .ok e) :
    Holds m p t (entityXml m p (m.references p) t e) where
  name := texts_name_entityXml made
  queries := by
    rw [entityXml, Entity.select_savedQueries, List.map_map]
    rfl
  forms := by
    rw [entityXml, Entity.select_forms]
    exact (m.writtenForms_perm t).map _
  groups := formGroups_toXml (m.formsOf t) (m.scope p (m.references p) t) e _
  quickCreate := by
    obtain ⟨primary, -, rfl⟩ := Table.entity_eq_ok made
    rw [entityXml, Entity.texts_isQuickCreateEnabled, formGroups_toXml]
    simp [any_formGroup, isEmpty_formsOfKind]

/-- The views and forms of a model are in the entities of a document, or they are recorded. -/
structure Placement (m : DataModel) (p : Project) (document : Element) : Prop where
  /-- The entity of each table holds the views and forms of the table. -/
  entities : List.Forall₂ (Holds m p) m.tables (document.select ["Entities", "Entity"])
  /-- There is one record for each view and then one for each form that gives a name which no table
  has, in authored order. -/
  records : withCode .entityNotFound (notes m p) =
    ((m.views.filter fun v => m.LacksTable v.entity).map fun v =>
        .warn .entityNotFound ("view " ++ v.schemaName)
          ("entity " ++ v.entity ++ " not found, view skipped")) ++
      (m.forms.filter fun f => m.LacksTable f.entity).map fun f =>
        .warn .entityNotFound ("form " ++ f.schemaName)
          ("entity " ++ f.entity ++ " not found, form skipped")
  /-- These are the views that are in no entity. -/
  views : ∀ v ∈ m.views, m.LacksTable v.entity ↔ ∀ t ∈ m.tables, v ∉ m.viewsOf t
  /-- These are the forms that are in no entity. -/
  forms : ∀ f ∈ m.forms, m.LacksTable f.entity ↔ ∀ t ∈ m.tables, f ∉ m.formsOf t

/-- No view or form is lost: whatever is in no entity of a document is recorded. -/
theorem placement_of_result {document : Element} (h : result m p = .ok document) :
    Placement m p document where
  entities := by
    obtain ⟨es, made, rfl⟩ := exists_entities_of_result h
    exact forall₂_select_entities (fun _ _ _ entity => holds_entityXml entity) made
  records := by
    rw [withCode_entityNotFound_notes, DataModel.orphanViewNotes, DataModel.orphanFormNotes]
    simp only [DataModel.not_hasTable_eq]
  views _ := m.lacksTable_view_iff
  forms _ := m.lacksTable_form_iff

end Customizations

namespace Sample

/-- A model whose views and forms are of two tables and of one that it lacks, in no order. -/
def scattered : DataModel :=
  { model
      [table "Agency" "Title" [column "Title" (.text none)],
        table "Call" "Title" [column "Title" (.text none)]]
      [{ gridForm "agency_quick" "agency" [] with kind := .quickCreate },
        gridForm "town_main" "Town" [],
        gridForm "agency_main" "AGENCY" [],
        gridForm "call_main" "Call" [],
        gridForm "agency_other" "Agency" []] with
    views :=
      [plainView "calls" "CALL", plainView "towns" "Town", plainView "agencies" "agency",
        plainView "cities" "City", plainView "bureaus" "AGENCY"] }

end Sample

namespace Customizations

/-- Views and forms of two tables and of one that is not there stand in no order. -/
theorem placement_scattered :
    ∃ document, result Sample.scattered Sample.project = .ok document ∧
      (document.select ["Entities", "Entity"]).map (fun entity =>
          (entity.values (savedQueryPath ++ ["LocalizedNames", "LocalizedName"]) "description",
            (formGroups entity).map fun group => (group.1, group.2.flatMap
              (·.values ["LocalizedNames", "LocalizedName"] "description")))) =
        [(["agencies", "bureaus"],
            [(some "main", ["agency_main", "agency_other"]), (some "quick", ["agency_quick"])]),
          (["calls"], [(some "main", ["call_main"])])] ∧
      (withCode .entityNotFound (notes Sample.scattered Sample.project)).map (·.subject) =
        ["view towns", "view cities", "form town_main"] ∧
      Placement Sample.scattered Sample.project document :=
  ⟨_, rfl, by decide, by decide, placement_of_result rfl⟩

end Customizations

end SpecBundle
