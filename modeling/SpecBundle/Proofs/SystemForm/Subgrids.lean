import SpecBundle.Proofs.Relationship.Lookups

/-!
# The relationships of subgrids

A subgrid is written with the name of a relationship. `Subgrid.bindingIn_cases` says all that can
become of it: either it follows a lookup of the table whose rows it shows, or it keeps the name
that its author declared and this is recorded. A lookup that is generated has a relationship of its
own, so the name that is written for it is that of a relationship of the document.

Lookups to built-in principals have none, and yet a subgrid follows them like any other. A subgrid
on a form of a table that is called like a principal can thus be written with a name that no
relationship bears, and without a record (`Subgrid.Dangles`).
`Customizations.subgrids_bound_iff` says that this is the only way.
-/

namespace SpecBundle

open Xml (Element select_cons select_append selectFrom selectFrom_map selectFrom_map_nil)

/-! ## The lookup that a subgrid follows -/

/-- The lookup that stands for the parent is one of the child's columns and points to it. -/
theorem Table.of_lookupFor? {child parent : Table} {namePrefix : String} {lookup : Column}
    (h : child.lookupFor? parent namePrefix = some lookup) :
    lookup ∈ child.columns ∧ lookup.looksUp parent.logicalName = true := by
  have among : lookup ∈ child.lookupsTo parent.logicalName := by
    unfold lookupFor? at h
    split at h
    · rename_i only hl
      obtain rfl := Option.some.inj h
      rw [hl]
      exact List.mem_singleton_self only
    · exact List.mem_of_find?_eq_some h
  exact List.mem_filter.1 among

/-- What looks up a table is a lookup whose target is that table. -/
theorem Column.exists_target_of_looksUp {c : Column} {entity : String}
    (h : c.looksUp entity = true) :
    ∃ target, c.kind = .lookup target ∧ Text.equalsIgnoringCase target entity = true := by
  unfold looksUp at h
  split at h
  · rename_i target hk
    exact ⟨target, hk, h⟩
  · cases h

/-- A lookup is generated unless the table that it points to is called like a principal. -/
theorem Column.isGeneratedLookup_or_principal {lookup : Column} {entity : String}
    (h : lookup.looksUp entity = true) :
    lookup.isGeneratedLookup = true ∨ isBuiltinPrincipal entity = true := by
  obtain ⟨target, hk, points⟩ := exists_target_of_looksUp h
  simp only [Text.equalsIgnoringCase, beq_iff_eq] at points
  cases hp : isBuiltinPrincipal target with
  | false =>
    left
    simp only [isGeneratedLookup, hk, hp, Bool.not_false]
  | true =>
    right
    simpa only [isBuiltinPrincipal, Text.equalsIgnoringCase, points] using hp

/-- Where a lookup has a relationship, its name is that of a relationship. -/
theorem mem_relationshipNameOf {relationships : List Relationship} {t : Table} {lookup : Column}
    (h : ∃ r ∈ relationships, r.ends = Relationship.lookupEnds (t, lookup)) (namePrefix : String) :
    relationshipNameOf relationships namePrefix t lookup ∈ relationships.map (·.name) := by
  unfold relationshipNameOf
  split
  · rename_i r found
    exact List.mem_map_of_mem (List.mem_of_find?_eq_some found)
  · rename_i missing
    obtain ⟨r, hr, belongs⟩ := h
    have rejected := List.find?_eq_none.1 missing r hr
    simp only [Relationship.ends, Relationship.lookupEnds, Prod.mk.injEq] at belongs
    simp [belongs.1, belongs.2] at rejected

namespace Subgrid

/-- A subgrid on a form of the scope's table follows a lookup of a child table. -/
structure Follows (s : Subgrid) (scope : TableScope) (child : Table) (lookup : Column) : Prop where
  /-- The child is the first table of the name that the subgrid gives. -/
  shown : scope.tables.find? (fun t => Text.equalsIgnoringCase t.schemaName s.entity) = some child
  /-- The lookup stands for the scope's table. -/
  chosen : child.lookupFor? scope.table scope.namePrefix = some lookup

/-- The record that a subgrid keeps the relationship that it declares. -/
structure Unresolved (s : Subgrid) (scope : TableScope) (d : Diagnostic) : Prop where
  /-- It is the record of the subgrid's binding. -/
  note : s.note? scope.table (s.bindingIn scope) = some d
  /-- It is a warning. -/
  warning : d.isWarning = true
  /-- It says that the relationship was not resolved. -/
  code : d.code = .relationshipUnresolved
  /-- It names the subgrid. -/
  subject : d.subject = scope.table.logicalName ++ "." ++ s.name

variable {s : Subgrid} {scope : TableScope}

/-- A subgrid is bound to the relationship of the lookup that it follows. -/
theorem bindingIn_of_follows {child : Table} {lookup : Column}
    (h : s.Follows scope child lookup) :
    s.bindingIn scope = .relationship
      (relationshipNameOf scope.relationships scope.namePrefix child lookup) := by
  simp only [bindingIn, binding, h.shown, h.chosen]

/-- A subgrid follows a lookup, or it is recorded that it keeps what it declares. -/
theorem bindingIn_cases (s : Subgrid) (scope : TableScope) :
    (∃ child lookup, s.Follows scope child lookup) ∨ ∃ d, s.Unresolved scope d := by
  cases hc : scope.tables.find? fun t => Text.equalsIgnoringCase t.schemaName s.entity with
  | none =>
    have unknown : s.bindingIn scope = .unknownTable := by simp only [bindingIn, binding, hc]
    exact .inr ⟨_, ⟨by rw [unknown]; rfl, rfl, rfl, rfl⟩⟩
  | some child =>
    cases hl : child.lookupFor? scope.table scope.namePrefix with
    | none =>
      have alone : s.bindingIn scope = .noLookup child.logicalName := by
        simp only [bindingIn, binding, hc, hl]
      exact .inr ⟨_, ⟨by rw [alone]; rfl, rfl, rfl, rfl⟩⟩
    | some lookup => exact .inl ⟨child, lookup, hc, hl⟩

/-- A subgrid that follows a lookup does not keep what it declares. -/
theorem not_unresolved_of_follows {child : Table} {lookup : Column}
    (h : s.Follows scope child lookup) (d : Diagnostic) : ¬ s.Unresolved scope d := by
  intro unresolved
  have note := unresolved.note
  have code := unresolved.code
  rw [bindingIn_of_follows h, note?] at note
  split at note
  · cases note
  · obtain rfl := Option.some.inj note
    cases code

/-- The relationship of a subgrid does not exist: the subgrid stands on a form of a table that is
called like a built-in principal, follows a lookup that is not generated, and is written with a
name that no relationship bears. -/
structure Dangles (s : Subgrid) (scope : TableScope) : Prop where
  /-- The table is called like a principal. -/
  principal : isBuiltinPrincipal scope.table.logicalName = true
  /-- The lookup has no relationship, and no other one happens to have its name. -/
  missing : ∃ child lookup, s.Follows scope child lookup ∧ lookup.isGeneratedLookup = false ∧
    relationshipNameOf scope.relationships scope.namePrefix child lookup ∉
      scope.relationships.map (·.name)

end Subgrid

/-! ## The subgrids of a document -/

/-- The subgrids among the controls of a form, each with its name and its relationship. -/
def Xml.Element.gridBindings (control : Element) : List (String × String) :=
  (control.attribute? "id").toList.flatMap fun id =>
    (control.texts ["parameters", "RelationshipName"]).map fun name => (id, name)

/-- Where the controls of a section stand in its element. -/
def controlPath : List String :=
  ["rows", "row", "cell", "control"]

section

variable (scope : TableScope) (form : String)

/-- A section is written with the relationships of its subgrids. -/
theorem FormSection.gridBindings_toXml (s : FormSection) :
    ((s.toXml scope form).select controlPath).flatMap (·.gridBindings) =
      s.subgrids.map fun g => (g.name, g.relationshipName (g.bindingIn scope)) := by
  have field (f : FormField) :
      ((f.rowXml scope form).select ["cell", "control"]).flatMap (·.gridBindings) = [] := by
    simp [FormField.rowXml, BoundField.cellXml, select_cons, Xml.Element.gridBindings,
      Xml.Element.texts]
  have grid (g : Subgrid) :
      ((g.rowXml scope form).select ["cell", "control"]).flatMap (·.gridBindings) =
        [(g.name, g.relationshipName (g.bindingIn scope))] := by
    simp [Subgrid.rowXml, select_cons, Xml.Element.gridBindings, Xml.Element.texts,
      List.lookup_cons]
  have fields := selectFrom_map "row" ["cell", "control"]
    (fun f : FormField => f.rowXml scope form) (fun _ => rfl) s.fields
  have grids := selectFrom_map "row" ["cell", "control"]
    (fun g : Subgrid => g.rowXml scope form) (fun _ => rfl) s.subgrids
  have rows : (s.toXml scope form).select controlPath =
      (s.fields.flatMap fun f => (f.rowXml scope form).select ["cell", "control"]) ++
        s.subgrids.flatMap fun g => (g.rowXml scope form).select ["cell", "control"] := by
    rw [← fields, ← grids, ← Xml.selectFrom_append, FormSection.toXml, controlPath, select_cons]
    simp [Xml.select_cons "row"]
  simp [rows, List.flatMap_assoc, field, grid, List.map_eq_flatMap]

/-- A form is written with the relationships of the subgrids that it shows. -/
theorem Form.gridBindings_toXml (f : Form) :
    ((f.toXml scope).select (sectionPath ++ controlPath)).flatMap (·.gridBindings) =
      f.shownSubgrids.map fun g => (g.name, g.relationshipName (g.bindingIn scope)) := by
  rw [select_append, select_sections, List.flatMap_map, List.flatMap_assoc, shownSubgrids,
    List.map_flatMap]
  exact List.flatMap_congr fun s _ => s.gridBindings_toXml scope f.schemaName

end

namespace DataModel

/-- The subgrids of a build, each with the table on whose form it stands, in document order. -/
def shownSubgrids (m : DataModel) : List (Table × Subgrid) :=
  m.tables.flatMap fun t => ((m.writtenForms t).flatMap (·.shownSubgrids)).map (Prod.mk t)

/-- A subgrid of a build is shown by a form that is written for its table. -/
theorem mem_shownSubgrids {m : DataModel} {t : Table} {s : Subgrid} :
    (t, s) ∈ m.shownSubgrids ↔ t ∈ m.tables ∧ ∃ f ∈ m.writtenForms t, s ∈ f.shownSubgrids := by
  simp [shownSubgrids]

/-- What the forms and views of a table are generated from in a whole build. -/
def scopeOf (m : DataModel) (p : Project) (t : Table) : TableScope :=
  m.scope p (m.references p) t

/-- The relationship that is written for a subgrid on a form of a table. -/
def relationshipOf (m : DataModel) (p : Project) (t : Table) (s : Subgrid) : String :=
  s.relationshipName (s.bindingIn (m.scopeOf p t))

end DataModel

namespace Customizations

/-- Where the controls of an entity's forms stand in its element. -/
def formControlPath : List String :=
  ["FormXml", "forms", "systemform"] ++ (Form.sectionPath ++ controlPath)

/-- The subgrids that an entity is written with, each with the entity's name, its own name and its
relationship. -/
def entitySubgrids (entity : Element) : List (String × String × String) :=
  (entity.texts ["Name"]).flatMap fun name =>
    ((entity.select formControlPath).flatMap (·.gridBindings)).map (Prod.mk name)

/-- The subgrids that a document is written with. -/
def writtenSubgrids (document : Element) : List (String × String × String) :=
  (document.select ["Entities", "Entity"]).flatMap entitySubgrids

/-- The names of the relationships that a document is written with. -/
def writtenRelationships (document : Element) : List String :=
  (document.select ["EntityRelationships", "EntityRelationship"]).filterMap (·.attribute? "Name")

variable {m : DataModel} {p : Project}

/-- The names of the relationships of a document are those that were derived. -/
theorem writtenRelationships_root (es : List (Table × Entity)) :
    writtenRelationships (root m p es) =
      (Relationship.deriveAll p.publisher.namePrefix m.tables).map (·.name) := by
  rw [writtenRelationships, select_relationships, List.filterMap_map, ← List.filterMap_eq_map]
  rfl

/-- An entity is written with the relationships of the subgrids that its forms show. -/
theorem entitySubgrids_entityXml {t : Table} {e : Entity}
    (made : t.entity m.choices p.publisher.namePrefix (m.formsOf t) = .ok e) :
    entitySubgrids (entityXml m p (m.references p) t e) =
      ((m.writtenForms t).flatMap (·.shownSubgrids)).map fun s =>
        (t.logicalName, s.name, m.relationshipOf p t s) := by
  have forms : (((entityXml m p (m.references p) t e).select formControlPath).flatMap
      (·.gridBindings)) = ((m.writtenForms t).flatMap (·.shownSubgrids)).map fun s =>
        (s.name, m.relationshipOf p t s) := by
    rw [formControlPath, select_append, entityXml, Entity.select_forms, List.flatMap_map,
      List.flatMap_assoc, List.map_flatMap]
    exact List.flatMap_congr fun f _ => f.gridBindings_toXml (m.scopeOf p t)
  rw [entitySubgrids, forms, texts_name_entityXml made, List.flatMap_singleton, List.map_map]
  rfl

/-- A document is written with the relationships of the subgrids of the build. -/
theorem writtenSubgrids_root {es : List (Table × Entity)}
    (made : entities m p m.tables = .ok es) :
    writtenSubgrids (root m p es) =
      m.shownSubgrids.map fun ts =>
        (ts.1.logicalName, ts.2.name, m.relationshipOf p ts.1 ts.2) := by
  rw [writtenSubgrids, List.flatMap_def,
    map_select_entities (fun t e entity => entitySubgrids_entityXml entity) made,
    DataModel.shownSubgrids, List.map_flatMap, List.flatMap_def]
  simp only [List.map_map]
  rfl

/-- What is recorded for a subgrid is recorded for the build. -/
theorem mem_notes_of_subgrid {es : List (Table × Entity)} (made : entities m p m.tables = .ok es)
    {t : Table} {s : Subgrid} (h : (t, s) ∈ m.shownSubgrids) {d : Diagnostic}
    (hd : s.note? t (s.bindingIn (m.scopeOf p t)) = some d) : d ∈ notes m p := by
  obtain ⟨ht, f, hf, shown⟩ := DataModel.mem_shownSubgrids.1 h
  obtain ⟨part, hpart, hs⟩ := List.mem_flatMap.1 shown
  -- The section records it, hence the form and the table.
  have inSection : d ∈ part.notes (m.scopeOf p t) :=
    List.mem_append_right _ (List.mem_filterMap.2 ⟨s, hs, hd⟩)
  have inForm : d ∈ f.notes (m.scopeOf p t) := Form.mem_notes_of_section _ hpart inSection
  have inTable : d ∈ tableNotes m p (m.references p) t :=
    List.mem_append_right _ (List.mem_flatMap.2 ⟨f, hf, inForm⟩)
  -- All entities are assembled, so the records of every table are made.
  rw [notes_of_entities made]
  exact List.mem_append_right _ (List.mem_append_right _ (List.mem_flatMap.2 ⟨t, ht, inTable⟩))

/-- A subgrid that does not dangle is written with the name of a relationship of the build, or it
is recorded that it keeps what its author declared. -/
theorem bound_or_unresolved_of_not_dangles {t : Table} {s : Subgrid}
    (h : ¬ s.Dangles (m.scopeOf p t)) :
    m.relationshipOf p t s ∈
        (Relationship.deriveAll p.publisher.namePrefix m.tables).map (·.name) ∨
      ∃ d, s.Unresolved (m.scopeOf p t) d := by
  rcases s.bindingIn_cases (m.scopeOf p t) with ⟨child, lookup, follows⟩ | unresolved
  · left
    have written : m.relationshipOf p t s =
        relationshipNameOf (Relationship.deriveAll p.publisher.namePrefix m.tables)
          p.publisher.namePrefix child lookup := by
      rw [DataModel.relationshipOf, Subgrid.bindingIn_of_follows follows]
      rfl
    rw [written]
    obtain ⟨own, points⟩ := Table.of_lookupFor? follows.chosen
    cases generated : lookup.isGeneratedLookup with
    | true =>
      have among : child ∈ m.tables := List.mem_of_find?_eq_some follows.shown
      exact mem_relationshipNameOf (Relationship.exists_mem_deriveAll among own generated) _
    | false =>
      -- Only a lookup to a principal is not generated, and then the name must be there by chance.
      have principal : isBuiltinPrincipal t.logicalName = true := by
        rcases Column.isGeneratedLookup_or_principal points with yes | principal
        · rw [generated] at yes
          cases yes
        · exact principal
      by_contra missing
      exact h ⟨principal, child, lookup, follows, generated, missing⟩
  · exact .inr unresolved

/-- The subgrids and the relationships of a document are those of the build. Every subgrid is
written with the name of a relationship of the document, or it is recorded that it keeps what its
author declared, exactly if no subgrid dangles. -/
theorem subgrids_bound_iff {document : Element} (h : result m p = .ok document) :
    writtenSubgrids document = m.shownSubgrids.map (fun ts =>
        (ts.1.logicalName, ts.2.name, m.relationshipOf p ts.1 ts.2)) ∧
      writtenRelationships document =
        (Relationship.deriveAll p.publisher.namePrefix m.tables).map (·.name) ∧
      ((∀ ts ∈ m.shownSubgrids,
          m.relationshipOf p ts.1 ts.2 ∈ writtenRelationships document ∨
            ∃ d ∈ notes m p, ts.2.Unresolved (m.scopeOf p ts.1) d) ↔
        ∀ ts ∈ m.shownSubgrids, ¬ ts.2.Dangles (m.scopeOf p ts.1)) := by
  obtain ⟨es, made, rfl⟩ := exists_entities_of_result h
  refine ⟨writtenSubgrids_root made, writtenRelationships_root es, fun sound ts hts dangles => ?_,
    fun none ts hts => ?_⟩
  · obtain ⟨child, lookup, follows, -, missing⟩ := dangles.missing
    rcases sound ts hts with bound | ⟨d, -, unresolved⟩
    · rw [writtenRelationships_root, DataModel.relationshipOf,
        Subgrid.bindingIn_of_follows follows] at bound
      exact missing bound
    · exact Subgrid.not_unresolved_of_follows follows d unresolved
  · rw [writtenRelationships_root]
    refine (bound_or_unresolved_of_not_dangles (none ts hts)).imp_right ?_
    rintro ⟨d, unresolved⟩
    exact ⟨d, mem_notes_of_subgrid made hts unresolved.note, unresolved⟩

end Customizations

namespace Sample

/-- A model with a grid that follows a lookup whose relationship is renamed, and with one that
follows none. -/
def agencyGrids : DataModel :=
  model
    [table "Region" "Title" [column "Title" (.text none)],
      table "Agency" "Title" [column "Title" (.text none)],
      table "Call" "Title"
        [column "Title" (.text none), column "seo_AgencyId" (.lookup "Region"),
          column "AgencyId" (.lookup "Agency")]]
    [gridForm "agency_main" "agency"
      [subgrid "calls" "CALL" "agency_calls", subgrid "regions" "Region" "agency_regions"]]

end Sample

namespace Customizations

/-- A grid that follows a lookup is written with the settled name of its relationship, and one that
follows none keeps its own with a record. -/
theorem subgrids_bound_agencyGrids :
    ∃ document, result Sample.agencyGrids Sample.project = .ok document ∧
      writtenSubgrids document =
        [("agency", "calls", "seo_Call_AgencyId_2"), ("agency", "regions", "agency_regions")] ∧
      ∀ ts ∈ Sample.agencyGrids.shownSubgrids,
        Sample.agencyGrids.relationshipOf Sample.project ts.1 ts.2 ∈
            writtenRelationships document ∨
          ∃ d ∈ notes Sample.agencyGrids Sample.project,
            ts.2.Unresolved (Sample.agencyGrids.scopeOf Sample.project ts.1) d := by
  have none : ∀ ts ∈ Sample.agencyGrids.shownSubgrids,
      isBuiltinPrincipal ts.1.logicalName = false := by decide
  have sound := subgrids_bound_iff (m := Sample.agencyGrids) (p := Sample.project) rfl
  refine ⟨_, rfl, sound.1.trans (by decide), sound.2.2.2 fun ts hts dangles => ?_⟩
  exact absurd dangles.principal (by simp [DataModel.scopeOf, DataModel.scope, none ts hts])

end Customizations

namespace Sample

/-- A model with a table that is called like a built-in principal and a grid on its form. -/
def userGrid : DataModel :=
  model
    [table "SystemUser" "FullName" [column "FullName" (.text none)],
      table "Ticket" "Title" [column "Title" (.text none), column "Owner" (.lookup "systemuser")]]
    [gridForm "user_main" "SystemUser" [subgrid "open" "Ticket" "user_tickets"]]

end Sample

namespace Customizations

/-- A grid on a form of a table that is called like a principal is written with a relationship that
the document does not have, and nothing is recorded. -/
theorem subgrid_dangles_userGrid :
    ∃ document, result Sample.userGrid Sample.project = .ok document ∧
      writtenSubgrids document = [("systemuser", "open", "seo_Ticket_Owner")] ∧
      writtenRelationships document = [] ∧
      withCode .relationshipUnresolved (notes Sample.userGrid Sample.project) = [] :=
  ⟨_, rfl, by decide, by decide, by decide⟩

end Customizations

end SpecBundle
