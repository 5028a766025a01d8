import SpecBundle.Proofs.Document.Entities
import SpecBundle.Proofs.SavedQuery.Compile

/-!
# The columns that saved queries mention

A saved query mentions columns in five places: the one through which a row is opened, those that
are shown, fetched and sorted by, and those that its filter tests. All of them are names that a view
of the table may refer to (`View.mem_valid_of_mem_columns`). These are checked against the columns
that the table declares, and the entity has an attribute for every declared column but those that
are never generated (`Table.hasAfterImport_or_omits`). So what a document mentions in a view is
there after the import, or it is a column that is set up by hand
(`Customizations.viewColumns_present_or_omitted`).
-/

namespace SpecBundle

open Xml (Element select_cons selectFrom selectFrom_map_of_ne selectFrom_of_ne
  filterMap_attribute?_map)

/-! ## What a saved query mentions -/

/-- The columns that a saved query mentions. -/
def SavedQuery.columns (q : SavedQuery) : List String :=
  [q.jump] ++ q.cells.map (·.1) ++ q.attributes ++ q.orders.map (·.1) ++
    q.conditions.map (·.column)

/-- The names that a view or form of a table may refer to, by where they come from. -/
theorem ColumnNames.mem_valid {names : ColumnNames} {name : String} :
    name ∈ names.valid ↔ name ∈ names.effective ∨ name = names.primaryKey ∨
      names.primary = some name ∨ name ∈ systemColumns := by
  simp [valid]

/-- Accepted references are resolved to names that a view may refer to. -/
theorem ColumnNames.mem_valid_of_accepted {names : ColumnNames} {α : Type} {kept : α → Prop}
    [DecidablePred kept] {reference : α → String}
    (accepted : ∀ a, kept a → names.Accepts (reference a)) (l : List α) :
    ∀ name ∈ (l.filter fun a => kept a).map fun a => names.resolve (reference a),
      name ∈ names.valid := by
  intro name hname
  obtain ⟨a, ha, rfl⟩ := List.mem_map.1 hname
  have stays : kept a := of_decide_eq_true (List.mem_filter.1 ha).2
  exact (accepted a stays).2

/-- A view is compiled to a saved query of names that a view may refer to. -/
theorem View.mem_valid_of_mem_columns (v : View) (index : ChoiceIndex) (names : ColumnNames) :
    ∀ name ∈ (v.compile index names).columns, name ∈ names.valid := by
  have parts := v.partition_compile index names
  have key : names.primaryKey ∈ names.valid := ColumnNames.mem_valid.2 (.inr (.inl rfl))
  have jump : (v.compile index names).jump ∈ names.valid := by
    change names.primary.getD names.primaryKey ∈ names.valid
    cases primary : names.primary with
    | none => exact key
    | some name => exact ColumnNames.mem_valid.2 (.inr (.inr (.inl primary)))
  have cells : ∀ name ∈ (v.compile index names).cells.map (·.1), name ∈ names.valid := by
    rw [parts.cells, List.map_map]
    exact ColumnNames.mem_valid_of_accepted (fun _ accepted => accepted) v.columns
  have attributes : ∀ name ∈ (v.compile index names).attributes, name ∈ names.valid := by
    rw [parts.attributes]
    intro name hname
    rcases List.mem_cons.1 (List.mem_eraseDups.1 hname) with rfl | shown
    · exact key
    · exact cells name shown
  have orders : ∀ name ∈ (v.compile index names).orders.map (·.1), name ∈ names.valid := by
    rw [parts.orders, List.map_map]
    exact ColumnNames.mem_valid_of_accepted (fun _ accepted => accepted) v.sortOrder
  have conditions : ∀ name ∈ (v.compile index names).conditions.map (·.column),
      name ∈ names.valid := by
    rw [map_eq_map_of_forall₂ (parts.conditions.imp fun _ _ own => own.1)]
    exact ColumnNames.mem_valid_of_accepted (fun _ compiles => compiles.1) v.conditions
  intro name hname
  simp only [SavedQuery.columns, List.mem_append, List.mem_singleton] at hname
  rcases hname with (((rfl | hname) | hname) | hname) | hname
  · exact jump
  · exact cells name hname
  · exact attributes name hname
  · exact orders name hname
  · exact conditions name hname

/-! ## What a table has -/

namespace Table

/-- A table has a column of the given name once an entity with the given attributes is imported for
it: the column is one of the attributes, the primary key or one of the platform's own. -/
def HasAfterImport (t : Table) (attributes : List String) (name : String) : Prop :=
  name ∈ attributes ∨ name = primaryKeyName t.logicalName ∨ name ∈ systemColumns

instance (t : Table) (attributes : List String) (name : String) :
    Decidable (t.HasAfterImport attributes name) :=
  inferInstanceAs (Decidable (_ ∨ _))

/-- A declared column that is never generated bears the given name. -/
def Omits (t : Table) (name : String) : Prop :=
  ∃ c ∈ t.columns, c.isGenerated = false ∧ t.names.of c = name

variable {t : Table} {choices : List GlobalChoice} {namePrefix : String} {forms : List Form}
  {e : Entity}

/-- The effective names are those of the columns. -/
theorem mem_effective {name : String} :
    name ∈ t.names.effective ↔ ∃ c ∈ t.columns, t.names.of c = name := by
  have own (c : Column) (hc : c ∈ t.columns) :
      effectiveName c.logicalName t.logicalName = t.names.of c := (names_of hc).symm
  simp only [ColumnNames.effective, names, List.mem_map, List.mem_eraseDups]
  constructor
  · rintro ⟨_, ⟨c, hc, rfl⟩, rfl⟩
    exact ⟨c, hc, (own c hc).symm⟩
  · rintro ⟨c, hc, rfl⟩
    exact ⟨c.logicalName, ⟨c, hc, rfl⟩, own c hc⟩

/-- A column has an attribute of its name in the entity, or it has the name of one that is never
generated. -/
theorem mem_attributes_or_omits (made : t.entity choices namePrefix forms = .ok e) {c : Column}
    (hc : c ∈ t.columns) :
    t.names.of c ∈ e.attributes.map (·.physicalName) ∨ t.Omits (t.names.of c) := by
  obtain ⟨primary, hp, named⟩ := map_physicalName_attributes made
  have among : primary ∈ t.columns := mem_columns_of_primary? hp
  -- Whatever is generated, be it the primary column or not, is an attribute.
  have generated (d : Column) (hd : d ∈ primary :: t.otherColumns) (within : d ∈ t.columns) :
      t.names.of d ∈ e.attributes.map (·.physicalName) ∨ t.Omits (t.names.of d) := by
    cases hg : d.isGenerated with
    | true =>
      left
      rw [named]
      exact List.mem_map_of_mem (List.mem_filter.2 ⟨hd, hg⟩)
    | false => exact .inr ⟨d, within, hg, rfl⟩
  by_cases declared : c.schemaName = t.primaryColumn
  · -- Columns that bear the primary column's schema name stand behind the first of them.
    have same : t.names.of c = t.names.of primary := by
      have first : primary.schemaName = t.primaryColumn := by
        simpa using List.find?_some hp
      rw [ColumnNames.of, ColumnNames.of, declared, first]
    rw [same]
    exact generated primary List.mem_cons_self among
  · have other : c ∈ t.otherColumns := List.mem_filter.2 ⟨hc, bne_iff_ne.2 declared⟩
    exact generated c (List.mem_cons_of_mem primary other) hc

/-- A name that a view may refer to is that of a column which the table has after the import, or of
one that is never generated. -/
theorem hasAfterImport_or_omits (made : t.entity choices namePrefix forms = .ok e) {name : String}
    (h : name ∈ t.names.valid) :
    t.HasAfterImport (e.attributes.map (·.physicalName)) name ∨ t.Omits name := by
  rcases ColumnNames.mem_valid.1 h with column | key | primary | system
  · obtain ⟨c, hc, rfl⟩ := mem_effective.1 column
    exact (mem_attributes_or_omits made hc).imp_left .inl
  · exact .inl (.inr (.inl key))
  · obtain ⟨c, hc, -⟩ := entity_eq_ok made
    rw [names_primary hc] at primary
    cases primary
    exact (mem_attributes_or_omits made (mem_columns_of_primary? hc)).imp_left .inl
  · exact .inl (.inr (.inr system))

end Table

/-! ## What a document mentions -/

namespace Customizations

/-- Where the query of a saved query stands in its element. -/
def fetchPath : List String :=
  ["fetchxml", "fetch", "entity"]

/-- The columns that the element of a saved query mentions: where a row of its grid leads, its
cells, and the attributes, orders and conditions of its query. -/
def viewColumns (query : Element) : List String :=
  query.values ["layoutxml", "grid"] "jump" ++
    query.values ["layoutxml", "grid", "row", "cell"] "name" ++
    query.values (fetchPath ++ ["attribute"]) "name" ++
    query.values (fetchPath ++ ["order"]) "attribute" ++
    query.values (fetchPath ++ ["filter", "condition"]) "attribute"

section

variable (q : SavedQuery) (version language : String)

/-- The description of a saved query is left aside on the way to its grid and its query. -/
theorem selectFrom_description {tag : String} (path : List String) (h : tag ≠ "Descriptions") :
    selectFrom tag path (q.description.map (Xml.descriptions · language)).toList = [] := by
  refine selectFrom_of_ne tag path fun e he => ?_
  obtain ⟨text, -, rfl⟩ := Option.map_eq_some_iff.1 (Option.mem_toList.1 he)
  exact h.symm

/-- The grid of a saved query. -/
theorem select_grid (path : List String) :
    (q.toXml version language).select ("layoutxml" :: "grid" :: path) = q.gridXml.select path := by
  have own : q.gridXml.tag = "grid" := rfl
  simp [SavedQuery.toXml, select_cons, selectFrom_description, own]

/-- The query of a saved query: its attributes, its orders and its filter. -/
theorem select_fetch (tag : String) (path : List String) :
    (q.toXml version language).select (fetchPath ++ tag :: path) =
      selectFrom tag path (q.attributes.map fun name => .empty "attribute" [("name", name)]) ++
        selectFrom tag path (q.orders.map fun order => .empty "order"
          [("attribute", order.1), ("descending", if order.2 then "true" else "false")]) ++
        selectFrom tag path (q.filter.map (·.toXml)).toList := by
  simp [fetchPath, SavedQuery.toXml, select_cons, selectFrom_description, SavedQuery.fetchXml]

/-- A condition is written with the column that it tests. -/
theorem attribute?_condition (c : QueryCondition) :
    c.toXml.tag = "condition" ∧ c.toXml.attribute? "attribute" = some c.column := by
  unfold QueryCondition.toXml
  cases c.payload <;> exact ⟨rfl, rfl⟩

/-- A saved query is written with the columns that it mentions. -/
theorem viewColumns_toXml : viewColumns (q.toXml version language) = q.columns := by
  have jump : (q.toXml version language).values ["layoutxml", "grid"] "jump" = [q.jump] := by
    rw [Element.values, select_grid]
    rfl
  have cells : (q.toXml version language).values ["layoutxml", "grid", "row", "cell"] "name" =
      q.cells.map (·.1) := by
    rw [Element.values, select_grid]
    simp only [SavedQuery.gridXml, select_cons, Xml.children_parent, Xml.selectFrom_cons,
      Xml.tag_parent, Xml.selectFrom_nil, if_true, List.append_nil]
    exact filterMap_attribute?_map "cell" _ "name" Prod.fst (fun _ => rfl) (fun _ => rfl) q.cells
  -- Of the three parts of the query, each is found by its tag.
  have attributes : (q.toXml version language).values (fetchPath ++ ["attribute"]) "name" =
      q.attributes := by
    have own := filterMap_attribute?_map "attribute"
      (fun name => Element.empty "attribute" [("name", name)]) "name" id (fun _ => rfl)
      (fun _ => rfl) q.attributes
    have filter : selectFrom "attribute" [] (q.filter.map (·.toXml)).toList = [] := by
      cases q.filter <;> rfl
    rw [Element.values, select_fetch, filter, List.append_nil, List.filterMap_append, own,
      List.map_id, selectFrom_map_of_ne "attribute" [] (by simp)]
    exact List.append_nil _
  have orders : (q.toXml version language).values (fetchPath ++ ["order"]) "attribute" =
      q.orders.map (·.1) := by
    have filter : selectFrom "order" [] (q.filter.map (·.toXml)).toList = [] := by
      cases q.filter <;> rfl
    rw [Element.values, select_fetch, filter, List.append_nil,
      selectFrom_map_of_ne "order" [] (by simp), List.nil_append]
    exact filterMap_attribute?_map "order" _ "attribute" Prod.fst (fun _ => rfl) (fun _ => rfl)
      q.orders
  have conditions : (q.toXml version language).values (fetchPath ++ ["filter", "condition"])
      "attribute" = q.conditions.map (·.column) := by
    rw [Element.values, select_fetch, selectFrom_map_of_ne "filter" ["condition"] (by simp),
      selectFrom_map_of_ne "filter" ["condition"] (by simp), List.nil_append, List.nil_append]
    cases hf : q.filter with
    | none => simp [SavedQuery.conditions, hf]
    | some f =>
      have inner := filterMap_attribute?_map "condition" QueryCondition.toXml "attribute"
        (·.column) (fun c => (attribute?_condition c).1) (fun c => (attribute?_condition c).2)
        f.conditions
      simp [SavedQuery.conditions, hf, QueryFilter.toXml, select_cons, inner]
  rw [viewColumns, jump, cells, attributes, orders, conditions]
  rfl

end

variable {m : DataModel} {p : Project}

/-- The element of an entity has the saved queries of its table's views, and what they mention is
there after the import or is called like a column that is never generated. -/
theorem viewColumns_entityXml {t : Table} {e : Entity}
    (made : t.entity m.choices p.publisher.namePrefix (m.formsOf t) = .ok e) :
    ((entityXml m p (m.references p) t e).select savedQueryPath).map viewColumns =
        (m.viewsOf t).map (fun v => (v.compile (m.references p).index t.names).columns) ∧
      ∀ query ∈ (entityXml m p (m.references p) t e).select savedQueryPath,
        ∀ name ∈ viewColumns query,
          t.HasAfterImport ((entityXml m p (m.references p) t e).values attributePath
            "PhysicalName") name ∨ t.Omits name := by
  have queries : (entityXml m p (m.references p) t e).select savedQueryPath =
      (m.viewsOf t).map fun v =>
        (v.compile (m.references p).index t.names).toXml p.version p.language := by
    rw [entityXml, Entity.select_savedQueries, List.map_map]
    rfl
  rw [queries]
  refine ⟨?_, fun query hquery name hname => ?_⟩
  · rw [List.map_map]
    exact List.map_congr_left fun v _ => viewColumns_toXml _ p.version p.language
  · obtain ⟨v, -, rfl⟩ := List.mem_map.1 hquery
    rw [viewColumns_toXml] at hname
    rw [entityXml, Entity.values_attributes]
    exact Table.hasAfterImport_or_omits made
      (v.mem_valid_of_mem_columns (m.references p).index t.names name hname)

/-- Every column that a view of a document mentions is there after the import, as an attribute of
the entity, as its primary key or as one of the platform's own columns, or it is called like a
declared column that is never generated. -/
theorem viewColumns_present_or_omitted {document : Element} (h : result m p = .ok document) :
    List.Forall₂ (fun t entity =>
        (entity.select savedQueryPath).map viewColumns =
            (m.viewsOf t).map (fun v => (v.compile (m.references p).index t.names).columns) ∧
          ∀ query ∈ entity.select savedQueryPath, ∀ name ∈ viewColumns query,
            t.HasAfterImport (entity.values attributePath "PhysicalName") name ∨ t.Omits name)
      m.tables (document.select ["Entities", "Entity"]) := by
  obtain ⟨es, made, rfl⟩ := exists_entities_of_result h
  exact forall₂_select_entities (fun _ _ _ entity => viewColumns_entityXml entity) made

end Customizations

namespace Sample

/-- A table with a column that is called like its primary key and one that is calculated. -/
def scored : Table :=
  table "Agency" "AgencyId"
    [column "AgencyId" (.text none), column "Region" (.text none), column "Score" .calculated]

/-- A model with a view of all columns of such a table. -/
def scoreView : DataModel :=
  { model [scored] [] with
    views :=
      [{ schemaName := "agency_scores"
         displayName := "Scores"
         entity := "agency"
         description := none
         isDefault := false
         columns := [⟨"Region", 100⟩, ⟨"AgencyId", 90⟩, ⟨"Score", 80⟩]
         sortOrder := [⟨"createdon", .descending⟩]
         filter := some ⟨.and, [⟨"Region", "not-null", none, []⟩]⟩ }] }

end Sample

namespace Customizations

/-- A view mentions a renamed column, a column of the platform and one that is never generated. -/
theorem viewColumns_present_or_omitted_scoreView :
    ∃ document, result Sample.scoreView Sample.project = .ok document ∧
      (document.select ["Entities", "Entity"]).flatMap (fun entity =>
          (entity.select savedQueryPath).map viewColumns) =
        [["agency_name", "region", "agency_name", "score", "agencyid", "region", "agency_name",
          "score", "createdon", "region"]] ∧
      List.Forall₂ (fun t entity =>
          (entity.select savedQueryPath).map viewColumns =
              (Sample.scoreView.viewsOf t).map (fun v =>
                (v.compile (Sample.scoreView.references Sample.project).index t.names).columns) ∧
            ∀ query ∈ entity.select savedQueryPath, ∀ name ∈ viewColumns query,
              t.HasAfterImport (entity.values attributePath "PhysicalName") name ∨ t.Omits name)
        Sample.scoreView.tables (document.select ["Entities", "Entity"]) :=
  ⟨_, rfl, by decide, viewColumns_present_or_omitted rfl⟩

/-- A view may show a calculated column, which its table does not have after the import. -/
theorem viewColumn_absent_scoreView :
    ∃ document entity, result Sample.scoreView Sample.project = .ok document ∧
      document.select ["Entities", "Entity"] = [entity] ∧
      ∃ query ∈ entity.select savedQueryPath, "score" ∈ viewColumns query ∧
        ¬ Sample.scored.HasAfterImport (entity.values attributePath "PhysicalName") "score" :=
  ⟨_, _, rfl, rfl, _, List.mem_singleton_self _, by decide, by decide⟩

end Customizations

end SpecBundle
