import SpecBundle.Proofs.Document.Entities
import SpecBundle.Proofs.Entity.Attributes
import SpecBundle.Proofs.Relationship.Settle

/-!
# Lookups and relationships belong together

A lookup column leaves two traces in a document: an attribute of its table's entity and a
relationship. The two are made apart from each other. The attributes come from the primary column
and then the others, each named through its table's names, and the relationships from all columns
in one pass. Settling a relationship changes its name only (`Relationship.map_ends_deriveAll`), so
both traces are read off the generated lookups, and they agree wherever a table has one primary
column (`DataModel.lookupEnds_perm_relationshipEnds`).
-/

namespace SpecBundle

/-! ## The relationships -/

namespace Relationship

/-- The lookup that a relationship belongs to: its entity and its attribute. -/
def ends (r : Relationship) : String × String :=
  (r.referencingEntity, r.referencingAttribute)

/-- A lookup as it is referred to: the logical name of its table and its effective name. -/
def lookupEnds (tc : Table × Column) : String × String :=
  (tc.1.logicalName, tc.2.effectiveName tc.1.logicalName)

/-- A relationship that is derived from what a lookup defines belongs to the lookup. -/
theorem DerivedFrom.ends_eq {namePrefix : String} {t : Table} {c : Column} {base r : Relationship}
    (derived : DerivedFrom base r) (defined : ofColumn? namePrefix t c = some base) :
    r.ends = lookupEnds (t, c) := by
  obtain ⟨target, -, rfl⟩ := Option.map_eq_some_iff.1 defined
  exact Prod.ext derived.referencingEntity derived.referencingAttribute

/-- The relationships of tables belong to their generated lookups, one by one, whatever names were
taken before. -/
theorem map_ends_settle (namePrefix : String) (tables : List Table) (taken : List String) :
    (settle taken (candidates namePrefix tables)).map (·.1.ends) =
      (generatedLookups tables).map lookupEnds := by
  have settled : List.Forall₂
      (fun out tc => ∃ base, ofColumn? namePrefix tc.1 tc.2 = some base ∧ DerivedFrom base out.1)
      (settle taken (candidates namePrefix tables)) (generatedLookups tables) :=
    forall₂_settle (forall₂_candidates namePrefix tables) taken
  refine map_eq_map_of_forall₂ (settled.imp fun out tc h => ?_)
  obtain ⟨base, defined, derived⟩ := h
  exact derived.ends_eq defined

/-- The derived relationships belong to the generated lookups, one by one. -/
theorem map_ends_deriveAll (namePrefix : String) (tables : List Table) :
    (deriveAll namePrefix tables).map ends = (generatedLookups tables).map lookupEnds := by
  rw [deriveAll, settleAll, List.map_map]
  exact map_ends_settle namePrefix tables []

/-- A generated lookup of one of the tables has a relationship that belongs to it. -/
theorem exists_mem_deriveAll {namePrefix : String} {tables : List Table} {t : Table} {c : Column}
    (ht : t ∈ tables) (hc : c ∈ t.columns) (hl : c.isGeneratedLookup = true) :
    ∃ r ∈ deriveAll namePrefix tables, r.ends = lookupEnds (t, c) := by
  have generated : (t, c) ∈ generatedLookups tables := mem_generatedLookups.2 ⟨ht, hc, hl⟩
  have belongs : lookupEnds (t, c) ∈ (deriveAll namePrefix tables).map ends := by
    rw [map_ends_deriveAll]
    exact List.mem_map_of_mem generated
  exact List.mem_map.1 belongs

end Relationship

/-! ## The attributes -/

/-- The attributes of an entity that are lookups, each with the entity. -/
def Entity.lookupEnds (e : Entity) : List (String × String) :=
  (e.attributes.filter (·.typeName == "lookup")).map fun a => (e.logicalName, a.physicalName)

namespace Attribute

variable {choices : List GlobalChoice} {namePrefix : String} {names : ColumnNames}
  {isPrimary : Bool}

/-- A generated lookup becomes an attribute that is a lookup, and no other column does. -/
theorem isSome_filter_ofColumn? (c : Column) :
    ((ofColumn? choices namePrefix names isPrimary c).filter (·.typeName == "lookup")).isSome =
      c.isGeneratedLookup := by
  unfold ofColumn? typeOf? Column.isGeneratedLookup
  cases c.kind with
  | lookup target => cases h : isBuiltinPrincipal target <;> simp [h]
  | _ => rfl

end Attribute

namespace Table

/-- The table has exactly one column of the name that it declares as that of its primary column. -/
def HasOnePrimary (t : Table) : Prop :=
  t.columns.countP (·.schemaName == t.primaryColumn) = 1

instance (t : Table) : Decidable t.HasOnePrimary :=
  inferInstanceAs (Decidable (_ = _))

variable {t : Table}

/-- Then the primary column and the others are all columns of the table. -/
theorem exists_primary_perm (h : t.HasOnePrimary) :
    ∃ primary, t.primary? = some primary ∧ (primary :: t.otherColumns).Perm t.columns := by
  have one : (t.columns.filter (·.schemaName == t.primaryColumn)).length = 1 := by
    rw [← List.countP_eq_length_filter]
    exact h
  obtain ⟨primary, only⟩ := List.length_eq_one_iff.1 one
  refine ⟨primary, ?_, ?_⟩
  · rw [primary?, ← List.head?_filter, only, List.head?_cons]
  · exact cons_otherColumns_perm only

/-- A table with one primary column has an entity. -/
theorem exists_entity (h : t.HasOnePrimary) (choices : List GlobalChoice) (namePrefix : String)
    (forms : List Form) : ∃ e, t.entity choices namePrefix forms = .ok e := by
  obtain ⟨primary, hp, -⟩ := exists_primary_perm h
  unfold entity
  rw [hp]
  exact ⟨_, rfl⟩

/-- The lookups of an entity are the generated lookups of its table, in another order perhaps. -/
theorem lookupEnds_entity_perm (h : t.HasOnePrimary) {choices : List GlobalChoice}
    {namePrefix : String} {forms : List Form} {e : Entity}
    (made : t.entity choices namePrefix forms = .ok e) :
    e.lookupEnds.Perm
      ((t.columns.filter (·.isGeneratedLookup)).map fun c => Relationship.lookupEnds (t, c)) := by
  obtain ⟨primary, hp, perm⟩ := exists_primary_perm h
  obtain ⟨primary', hp', named⟩ :=
    map_physicalName_filter_attributes (fun _ c => Attribute.isSome_filter_ofColumn? c) made
  obtain rfl : primary = primary' := Option.some.inj (hp.symm.trans hp')
  -- Attributes are named through the table's names, and relationships by the columns themselves.
  have effective : (t.columns.filter (·.isGeneratedLookup)).map t.names.of =
      (t.columns.filter (·.isGeneratedLookup)).map (·.effectiveName t.logicalName) :=
    List.map_congr_left fun c hc => names_of (List.mem_of_mem_filter hc)
  have paired := (((perm.filter (·.isGeneratedLookup)).map t.names.of).map
    (Prod.mk t.logicalName))
  rw [← named, effective, List.map_map, List.map_map] at paired
  rw [Entity.lookupEnds, logicalName_of_entity made]
  exact paired

end Table

/-! ## Both together -/

namespace DataModel

/-- Where every table has one primary column, all tables have entities, and the lookups among the
attributes of these are those that the relationships belong to, each as often. -/
theorem lookupEnds_perm_relationshipEnds (m : DataModel) (p : Project)
    (h : ∀ t ∈ m.tables, t.HasOnePrimary) :
    ∃ es, Customizations.entities m p m.tables = .ok es ∧
      (es.flatMap fun te => te.2.lookupEnds).Perm
        ((Relationship.deriveAll p.publisher.namePrefix m.tables).map (·.ends)) := by
  obtain ⟨es, made⟩ := Customizations.exists_entities fun t ht =>
    Table.exists_entity (h t ht) m.choices p.publisher.namePrefix (m.formsOf t)
  refine ⟨es, made, ?_⟩
  have related := (List.forall₂_and_left _ _).2 ⟨h, Customizations.forall₂_entities made⟩
  rw [Relationship.map_ends_deriveAll, generatedLookups, List.map_flatMap]
  simp only [List.map_map]
  refine (flatMap_perm_of_forall₂ (related.imp fun t te own => ?_)).symm
  obtain ⟨one, -, entity⟩ := own
  exact (Table.lookupEnds_entity_perm one entity).symm

/-- The lookups of a model with a renamed primary lookup and one to a built-in principal. -/
theorem lookupEnds_perm_callLookups :
    (∀ t ∈ Sample.callLookups.tables, t.HasOnePrimary) ∧
      ∃ es, Customizations.entities Sample.callLookups Sample.project
          Sample.callLookups.tables = .ok es ∧
        (es.flatMap fun te => te.2.lookupEnds).Perm
          ((Relationship.deriveAll "seo" Sample.callLookups.tables).map (·.ends)) :=
  have one : ∀ t ∈ Sample.callLookups.tables, t.HasOnePrimary := by decide
  ⟨one, lookupEnds_perm_relationshipEnds Sample.callLookups Sample.project one⟩

example : (Relationship.deriveAll "seo" Sample.callLookups.tables).map (·.ends) =
    [("call", "unit"), ("call", "call_name")] := by
  decide

end DataModel

end SpecBundle
