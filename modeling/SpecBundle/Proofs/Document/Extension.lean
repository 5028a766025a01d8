import SpecBundle.Proofs.SystemForm.Subgrids

/-!
# A table more

A document is made from all tables together. Relationships get names that are free among those of
the tables before, subgrids look through all tables and all relationships, and filters look up
labels in an index of all tables. Yet a table that is added behind the others, under a logical name
of its own, leaves what is generated for these as it is, as long as no subgrid asks for it
(`Customizations.entities_prefix_withTable`): each search that an entity depends on is for a table
of its own name, so it ends where it ended before.
-/

namespace SpecBundle

/-! ## Relationships -/

namespace Relationship

/-- Tables behind others add relationships of their own behind those of the others. -/
theorem exists_deriveAll_append (namePrefix : String) (ts us : List Table) :
    ∃ later, deriveAll namePrefix (ts ++ us) = deriveAll namePrefix ts ++ later ∧
      ∀ r ∈ later, ∃ u ∈ us, r.referencingEntity = u.logicalName := by
  have settled := settle_append [] (candidates namePrefix ts) (candidates namePrefix us)
  generalize (givenNames (settle [] (candidates namePrefix ts))).reverse ++ [] = taken at settled
  refine ⟨(settle taken (candidates namePrefix us)).map (·.1), ?_, fun r hr => ?_⟩
  · rw [deriveAll, settleAll, candidates, List.flatMap_append]
    exact (congrArg (List.map (·.1)) settled).trans List.map_append
  · obtain ⟨out, hout, rfl⟩ := List.mem_map.1 hr
    -- Whatever was taken before, it belongs to a lookup of the tables behind.
    have belongs : out.1.ends ∈ (generatedLookups us).map lookupEnds := by
      rw [← map_ends_settle namePrefix us taken]
      exact List.mem_map_of_mem hout
    obtain ⟨⟨u, c⟩, htc, same⟩ := List.mem_map.1 belongs
    exact ⟨u, (mem_generatedLookups.1 htc).1, (congrArg Prod.fst same).symm⟩

end Relationship

/-- Relationships of other tables do not change which one a lookup has. -/
theorem relationshipNameOf_append {relationships later : List Relationship} {t : Table}
    (h : ∀ r ∈ later, r.referencingEntity ≠ t.logicalName) (namePrefix : String)
    (lookup : Column) :
    relationshipNameOf (relationships ++ later) namePrefix t lookup =
      relationshipNameOf relationships namePrefix t lookup := by
  unfold relationshipNameOf
  rw [find?_append_of_forall_false relationships fun r hr => ?_]
  rw [beq_false_of_ne (h r hr), Bool.false_and]

/-! ## Subgrids and forms -/

/-- A subgrid that does not ask for the tables behind the others is bound as if they and their
relationships were not there. -/
theorem Subgrid.binding_append {s : Subgrid} {tables others : List Table}
    {relationships later : List Relationship}
    (unasked : ∀ u ∈ others, Text.equalsIgnoringCase u.schemaName s.entity = false)
    (foreign : ∀ r ∈ later, ∀ t ∈ tables, r.referencingEntity ≠ t.logicalName)
    (parent : Table) (namePrefix : String) :
    s.binding parent (tables ++ others) (relationships ++ later) namePrefix =
      s.binding parent tables relationships namePrefix := by
  unfold binding
  rw [find?_append_of_forall_false tables unasked]
  cases found : tables.find? fun t => Text.equalsIgnoringCase t.schemaName s.entity with
  | none => rfl
  | some child =>
    have among : child ∈ tables := List.mem_of_find?_eq_some found
    have same (lookup : Column) :
        relationshipNameOf (relationships ++ later) namePrefix child lookup =
          relationshipNameOf relationships namePrefix child lookup :=
      relationshipNameOf_append (fun r hr => foreign r hr child among) namePrefix lookup
    simp only [same]

/-- A scope with other tables and relationships around its table. -/
def TableScope.within (scope : TableScope) (tables : List Table)
    (relationships : List Relationship) : TableScope :=
  { scope with tables := tables, relationships := relationships }

section

variable {scope : TableScope} {tables : List Table} {relationships : List Relationship}

/-- A section is written alike where its subgrids are bound alike. -/
theorem FormSection.toXml_within {s : FormSection}
    (h : ∀ g ∈ s.subgrids,
      g.bindingIn (scope.within tables relationships) = g.bindingIn scope) (form : String) :
    s.toXml (scope.within tables relationships) form = s.toXml scope form := by
  -- The rows of fields do not look at other tables.
  have grids : s.subgrids.map (·.rowXml (scope.within tables relationships) form) =
      s.subgrids.map (·.rowXml scope form) := by
    refine List.map_congr_left fun g hg => ?_
    rw [Subgrid.rowXml, h g hg]
    rfl
  rw [toXml, grids]
  rfl

/-- The sections of a tab are written alike where their subgrids are bound alike. -/
theorem columnsXml_within {sections : List FormSection}
    (h : ∀ s ∈ sections, ∀ g ∈ s.subgrids,
      g.bindingIn (scope.within tables relationships) = g.bindingIn scope) (form : String) :
    columnsXml sections (scope.within tables relationships) form =
      columnsXml sections scope form := by
  rw [columnsXml, List.map_congr_left fun s hs => FormSection.toXml_within (h s hs) form]
  rfl

/-- A form is written alike where the subgrids that it shows are bound alike. -/
theorem Form.toXml_within {f : Form}
    (h : ∀ g ∈ f.shownSubgrids,
      g.bindingIn (scope.within tables relationships) = g.bindingIn scope) :
    f.toXml (scope.within tables relationships) = f.toXml scope := by
  have shown : ∀ s ∈ f.shownSections, ∀ g ∈ s.subgrids,
      g.bindingIn (scope.within tables relationships) = g.bindingIn scope :=
    fun s hs g hg => h g (List.mem_flatMap.2 ⟨s, hs, hg⟩)
  have same : f.body (scope.within tables relationships) = f.body scope := by
    cases hk : f.kind with
    | main =>
      simp only [shownSections, hk] at shown
      have tabs : f.tabs.map (·.toXml (scope.within tables relationships) f.schemaName) =
          f.tabs.map (·.toXml scope f.schemaName) := by
        refine List.map_congr_left fun t ht => ?_
        rw [FormTab.toXml, columnsXml_within fun s hs =>
          shown s (List.mem_flatMap.2 ⟨t, ht, hs⟩)]
        rfl
      simp only [body, hk, mainBody, tabs]
      rfl
    | quickCreate =>
      simp only [shownSections, hk] at shown
      simp only [body, hk, quickCreateBody, columnsXml_within shown]
      rfl
  rw [toXml, same]
  rfl

/-- The forms of an entity are written alike where the subgrids that they show are bound alike. -/
theorem formsXml_within {forms : List Form}
    (h : ∀ f ∈ forms, ∀ g ∈ f.shownSubgrids,
      g.bindingIn (scope.within tables relationships) = g.bindingIn scope) :
    formsXml forms (scope.within tables relationships) = formsXml forms scope := by
  have group (kind : FormKind) (word : String) :
      formGroupXml forms (scope.within tables relationships) kind word =
        formGroupXml forms scope kind word := by
    have each : (formsOfKind forms kind).map (·.toXml (scope.within tables relationships)) =
        (formsOfKind forms kind).map (·.toXml scope) :=
      List.map_congr_left fun f hf => Form.toXml_within (h f (List.mem_of_mem_filter hf))
    simp only [formGroupXml, each]
  rw [formsXml, group, group]
  rfl

/-- An entity is written alike where the subgrids that its forms show are bound alike. -/
theorem Entity.toXml_within (e : Entity) {forms : List Form}
    (h : ∀ f ∈ forms, ∀ g ∈ f.shownSubgrids,
      g.bindingIn (scope.within tables relationships) = g.bindingIn scope)
    (queries : List SavedQuery) :
    e.toXml (scope.within tables relationships) forms queries = e.toXml scope forms queries := by
  rw [toXml, formsXml_within h]
  rfl

end

/-! ## Labels and views -/

/-- Two indices know the same labels of an entity. -/
def ChoiceIndex.AgreeOn (entity : String) (index other : ChoiceIndex) : Prop :=
  ∀ column label, index.valueOf? entity column label = other.valueOf? entity column label

/-- A table behind others does not change the labels of entities of other names. -/
theorem ChoiceIndex.agreeOn_append (choices : List GlobalChoice) (tables : List Table) {t : Table}
    {entity : String} (h : entity ≠ t.logicalName) :
    AgreeOn entity (ofTables choices (tables ++ [t])) (ofTables choices tables) := by
  intro column label
  have last : ofTables choices (tables ++ [t]) = (ofTables choices tables).add choices t :=
    List.foldl_concat ..
  rw [last, valueOf?_add, if_neg fun same => h same.1]

section

variable {entity : String} {index other : ChoiceIndex} (h : index.AgreeOn entity other)

include h

/-- A condition is compiled alike where the labels of its entity are the same. -/
theorem Condition.compile?_congr (c : Condition) (column : String) :
    c.compile? index entity column = c.compile? other entity column := by
  have text (operand : Operand) :
      operand.queryText index entity column = operand.queryText other entity column := by
    cases operand with
    | text label => simp only [Operand.queryText, h column label]
    | bool | number | relative => rfl
  simp only [compile?, text]

/-- A view is compiled alike where the labels of its entity are the same. -/
theorem View.compile_congr (v : View) {names : ColumnNames} (own : names.entity = entity) :
    v.compile index names = v.compile other names := by
  subst own
  have condition (c : Condition) : c.outcome index names = c.outcome other names := by
    simp only [Condition.outcome, Condition.compile?_congr h]
  have filter (f : Filter) : f.compile index names = f.compile other names := by
    simp only [Filter.compile, Filter.outcomes, condition]
  simp only [compile, filter]

end

/-! ## Entities -/

/-- A model with a table more. -/
def DataModel.withTable (m : DataModel) (t : Table) : DataModel :=
  { m with tables := m.tables ++ [t] }

namespace Customizations

variable {m : DataModel} {p : Project} {t : Table}

/-- The entities of tables with one more are those of the tables and one more. -/
theorem exists_entities_append {tables : List Table} {es extended : List (Table × Entity)}
    (h : entities m p tables = .ok es) (h' : entities m p (tables ++ [t]) = .ok extended) :
    ∃ e, extended = es ++ [(t, e)] ∧
      t.entity m.choices p.publisher.namePrefix (m.formsOf t) = .ok e := by
  rw [entities, assembleAll, Outcome.result_mapM] at h h'
  rw [List.mapM_append, h] at h'
  cases last : (assemble m p t).result with
  | error e =>
    rw [List.mapM_cons, last] at h'
    cases h'
  | ok te =>
    rw [List.mapM_cons, last] at h'
    cases h'
    obtain ⟨rfl, made⟩ := result_assemble_eq_ok_iff.1 last
    exact ⟨te.2, rfl, made⟩

/-- The element of an entity stays as it is when a table of another name is added for which no
subgrid on the entity's forms asks. -/
theorem entityXml_withTable {u : Table} (apart : ∀ v ∈ m.tables, v.logicalName ≠ t.logicalName)
    (hu : u ∈ m.tables)
    (unasked : ∀ f ∈ m.formsOf u, ∀ s ∈ f.shownSubgrids,
      Text.equalsIgnoringCase t.schemaName s.entity = false) (e : Entity) :
    entityXml (m.withTable t) p ((m.withTable t).references p) u e =
      entityXml m p (m.references p) u e := by
  obtain ⟨later, derived, foreign⟩ :=
    Relationship.exists_deriveAll_append p.publisher.namePrefix m.tables [t]
  -- The scope of the table is the same but for the tables and relationships around it.
  have scope : (m.withTable t).scope p ((m.withTable t).references p) u =
      (m.scope p (m.references p) u).within (m.tables ++ [t])
        (Relationship.deriveAll p.publisher.namePrefix m.tables ++ later) := by
    rw [← derived]
    rfl
  -- Its subgrids look for neither the new table nor the new table's relationships.
  have bound : ∀ f ∈ m.formsOf u, ∀ s ∈ f.shownSubgrids,
      s.bindingIn ((m.scope p (m.references p) u).within (m.tables ++ [t])
          (Relationship.deriveAll p.publisher.namePrefix m.tables ++ later)) =
        s.bindingIn (m.scope p (m.references p) u) := by
    intro f hf s hs
    refine Subgrid.binding_append (fun other ho => ?_) (fun r hr v hv => ?_) u _
    · rw [List.mem_singleton.1 ho]
      exact unasked f hf s hs
    · obtain ⟨owner, ho, own⟩ := foreign r hr
      rw [own, List.mem_singleton.1 ho]
      exact (apart v hv).symm
  -- Its views look up labels under its own name.
  have views : (m.viewsOf u).map (·.compile ((m.withTable t).references p).index u.names) =
      (m.viewsOf u).map (·.compile (m.references p).index u.names) :=
    List.map_congr_left fun v _ =>
      v.compile_congr (ChoiceIndex.agreeOn_append m.choices m.tables (apart u hu)) rfl
  change e.toXml _ (m.formsOf u) ((m.viewsOf u).map _) = _
  rw [views, scope, e.toXml_within bound]
  rfl

/-- A table that is added behind the others, under a logical name of its own and such that no
subgrid asks for it, only adds to the document: its relationships stand behind those that were
there before, and its entity stands behind the entities of the others, which are the elements that
they were. An element that stands where it stood is printed as it was. -/
theorem entities_prefix_withTable {document extended : Xml.Element}
    (apart : ∀ u ∈ m.tables, u.logicalName ≠ t.logicalName)
    (unasked : ∀ f ∈ m.forms, ∀ s ∈ f.shownSubgrids,
      Text.equalsIgnoringCase t.schemaName s.entity = false)
    (h : result m p = .ok document) (h' : result (m.withTable t) p = .ok extended) :
    Relationship.deriveAll p.publisher.namePrefix m.tables <+:
        Relationship.deriveAll p.publisher.namePrefix (m.withTable t).tables ∧
      (document.select ["Entities", "Entity"]).map (·.texts ["Name"]) =
        m.tables.map (fun u => [u.logicalName]) ∧
      ∃ last, extended.select ["Entities", "Entity"] =
          document.select ["Entities", "Entity"] ++ [last] ∧
        last.texts ["Name"] = [t.logicalName] := by
  obtain ⟨es, made, rfl⟩ := exists_entities_of_result h
  obtain ⟨all, made', rfl⟩ := exists_entities_of_result h'
  obtain ⟨e, rfl, own⟩ := exists_entities_append made made'
  obtain ⟨later, derived, -⟩ :=
    Relationship.exists_deriveAll_append p.publisher.namePrefix m.tables [t]
  have stay : es.map (fun te => entityXml (m.withTable t) p ((m.withTable t).references p)
        te.1 te.2) = es.map fun te => entityXml m p (m.references p) te.1 te.2 := by
    refine List.map_congr_left fun te hte => ?_
    have among : te.1 ∈ m.tables := by
      rw [← map_fst_entities made]
      exact List.mem_map_of_mem hte
    exact entityXml_withTable apart among
      (fun f hf => unasked f (List.mem_of_mem_filter hf)) te.2
  refine ⟨⟨later, derived.symm⟩,
    map_select_entities (fun u e entity => texts_name_entityXml entity) made,
    entityXml (m.withTable t) p ((m.withTable t).references p) t e, ?_,
    texts_name_entityXml own⟩
  rw [select_entities, select_entities, List.map_append, stay]
  rfl

end Customizations

namespace Sample

/-- A table whose lookup would have a relationship that is called like one of those calls. -/
def prefixedCall : Table :=
  table "seo_Call" "Title" [column "Title" (.text none), column "AgencyId" (.lookup "Agency")]

end Sample

namespace Customizations

/-- A table is added whose lookup would be called like one that was there before. -/
theorem entities_prefix_prefixedCall :
    ∃ document extended, result Sample.agencyGrids Sample.project = .ok document ∧
      result (Sample.agencyGrids.withTable Sample.prefixedCall) Sample.project = .ok extended ∧
      (Relationship.deriveAll "seo" (Sample.agencyGrids.withTable Sample.prefixedCall).tables).map
          (·.name) = ["seo_Call_AgencyId", "seo_Call_AgencyId_2", "seo_Call_AgencyId_3"] ∧
      ∃ last, extended.select ["Entities", "Entity"] =
          document.select ["Entities", "Entity"] ++ [last] ∧
        last.texts ["Name"] = ["seo_call"] := by
  obtain ⟨-, -, only⟩ := entities_prefix_withTable (m := Sample.agencyGrids)
    (t := Sample.prefixedCall) (p := Sample.project) (by decide) (by decide) rfl rfl
  exact ⟨_, _, rfl, rfl, by decide, only⟩

end Customizations

end SpecBundle
