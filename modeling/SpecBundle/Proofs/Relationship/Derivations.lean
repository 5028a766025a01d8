import SpecBundle.Proofs.Relationship.Lookups
import SpecBundle.SystemForm.Subgrid

/-!
# The relationship of a lookup

Relationships are derived in one pass over all tables, so the one that comes from a lookup is the
one at the lookup's place: `derivations` pairs them. Later passes do not know that place. They
search by the logical name of the table and the effective name of the lookup, which settling a
relationship leaves as they are. Where the tables have names of their own, and so do the columns of
the lookup's table, nothing else has both names, and the search finds what was derived from the
lookup under whatever name it got (`relationshipNameOf_of_mem`).
-/

namespace SpecBundle

namespace Relationship

/-- The generated lookups, each with the relationship that is derived from it. -/
def derivations (namePrefix : String) (tables : List Table) :
    List ((Table × Column) × Relationship) :=
  (generatedLookups tables).zip (deriveAll namePrefix tables)

variable {namePrefix : String} {tables : List Table}

/-- The relationships are derived from the generated lookups, one by one. -/
theorem forall₂_deriveAll (namePrefix : String) (tables : List Table) :
    List.Forall₂
      (fun r tc => ∃ base, ofColumn? namePrefix tc.1 tc.2 = some base ∧ DerivedFrom base r)
      (deriveAll namePrefix tables) (generatedLookups tables) :=
  List.forall₂_map_left_iff.2 (forall₂_settle (forall₂_candidates namePrefix tables) [])

/-- Every generated lookup has its place. -/
theorem map_fst_derivations (namePrefix : String) (tables : List Table) :
    (derivations namePrefix tables).map (·.1) = generatedLookups tables :=
  List.map_fst_zip (Nat.le_of_eq (forall₂_deriveAll namePrefix tables).length_eq.symm)

/-- Every relationship has its place. -/
theorem map_snd_derivations (namePrefix : String) (tables : List Table) :
    (derivations namePrefix tables).map (·.2) = deriveAll namePrefix tables :=
  List.map_snd_zip (Nat.le_of_eq (forall₂_deriveAll namePrefix tables).length_eq)

/-- A relationship is what its lookup defines, up to the name. -/
theorem derivedFrom_of_mem {d : (Table × Column) × Relationship}
    (h : d ∈ derivations namePrefix tables) :
    ∃ base, ofColumn? namePrefix d.1.1 d.1.2 = some base ∧ DerivedFrom base d.2 :=
  List.forall₂_zip (forall₂_deriveAll namePrefix tables).flip h

/-- A relationship belongs to the lookup that it is derived from. -/
theorem ends_of_mem {d : (Table × Column) × Relationship}
    (h : d ∈ derivations namePrefix tables) : d.2.ends = lookupEnds d.1 := by
  obtain ⟨base, defined, derived⟩ := derivedFrom_of_mem h
  exact derived.ends_eq defined

/-- A relationship is derived from every generated lookup. -/
theorem exists_mem_derivations {t : Table} {c : Column} (ht : t ∈ tables) (hc : c ∈ t.columns)
    (hl : c.isGeneratedLookup = true) (namePrefix : String) :
    ∃ r, ((t, c), r) ∈ derivations namePrefix tables := by
  have generated : (t, c) ∈ (derivations namePrefix tables).map (·.1) := by
    rw [map_fst_derivations]
    exact mem_generatedLookups.2 ⟨ht, hc, hl⟩
  obtain ⟨⟨tc, r⟩, hd, rfl⟩ := List.mem_map.1 generated
  exact ⟨r, hd⟩

/-! ## Where the names are apart -/

/-- The generated lookups of the tables of some name are among all generated lookups those of that
name. -/
theorem generatedLookups_filter (entity : String) (tables : List Table) :
    generatedLookups (tables.filter (·.logicalName == entity)) =
      (generatedLookups tables).filter (·.1.logicalName == entity) := by
  unfold generatedLookups
  induction tables with
  | nil => rfl
  | cons t tables ih =>
    rw [List.filter_cons, List.flatMap_cons, List.filter_append, ← ih, List.filter_map]
    cases named : t.logicalName == entity <;> simp [Function.comp_def, named]

/-- The generated lookups of a table are told apart by their ends if the columns of the table are by
their effective names. -/
theorem nodup_lookupEnds {t : Table}
    (distinct : (t.columns.map (·.effectiveName t.logicalName)).Nodup) :
    ((generatedLookups [t]).map lookupEnds).Nodup := by
  have effective : ((generatedLookups [t]).map lookupEnds).map (·.2) =
      (t.columns.filter (·.isGeneratedLookup)).map (·.effectiveName t.logicalName) := by
    simp [generatedLookups, lookupEnds, Function.comp_def]
  refine List.Nodup.of_map (·.2) ?_
  rw [effective]
  exact distinct.sublist (List.filter_sublist.map _)

section

variable {t : Table} (apart : (tables.map (·.logicalName)).Nodup) (ht : t ∈ tables)
  (distinct : (t.columns.map (·.effectiveName t.logicalName)).Nodup)

include apart ht distinct

/-- Where tables have names of their own, and so do the columns of one of them, what belongs to one
lookup of that table is at one place. -/
theorem eq_of_ends_eq {d d' : (Table × Column) × Relationship}
    (h : d ∈ derivations namePrefix tables) (h' : d' ∈ derivations namePrefix tables)
    (own : d.1.1 = t) (same : d.2.ends = d'.2.ends) : d = d' := by
  have belong : lookupEnds d.1 = lookupEnds d'.1 := by
    rw [← ends_of_mem h, ← ends_of_mem h', same]
  have entity : d'.1.1.logicalName = t.logicalName := by
    rw [← own]
    exact (congrArg Prod.fst belong).symm
  -- Both are at places of lookups of a table that is called like `t`, and that is `t` alone.
  have here : (((derivations namePrefix tables).filter
      (·.1.1.logicalName == t.logicalName)).map (·.1)) = generatedLookups [t] := by
    rw [← filter_eq_singleton apart ht, generatedLookups_filter, ← map_fst_derivations namePrefix,
      List.filter_map]
    rfl
  have keys := nodup_lookupEnds distinct
  rw [← here, List.map_map] at keys
  have hd : d ∈ (derivations namePrefix tables).filter (·.1.1.logicalName == t.logicalName) :=
    List.mem_filter.2 ⟨h, by rw [own, beq_self_eq_true]⟩
  have hd' : d' ∈ (derivations namePrefix tables).filter (·.1.1.logicalName == t.logicalName) :=
    List.mem_filter.2 ⟨h', by rw [entity, beq_self_eq_true]⟩
  exact List.inj_on_of_nodup_map keys hd hd' belong

/-- The search for the relationship of a lookup finds what is derived from the lookup, whatever name
it was given. -/
theorem relationshipNameOf_of_mem {c : Column} {r : Relationship}
    (h : ((t, c), r) ∈ derivations namePrefix tables) :
    relationshipNameOf (deriveAll namePrefix tables) namePrefix t c = r.name := by
  have belongs : r.ends = lookupEnds (t, c) := ends_of_mem h
  have found : (deriveAll namePrefix tables).find? (fun r =>
      r.referencingEntity == t.logicalName &&
        r.referencingAttribute == c.effectiveName t.logicalName) = some r := by
    refine find?_eq_some_of_unique ?_ ?_ fun r' hr' searched => ?_
    · rw [← map_snd_derivations]
      exact List.mem_map_of_mem h
    · obtain ⟨entity, named⟩ := Prod.mk.inj belongs
      rw [entity, named, beq_self_eq_true, beq_self_eq_true, Bool.and_self]
    · -- What else the search accepts is derived from a lookup with the same ends.
      rw [← map_snd_derivations] at hr'
      obtain ⟨d, hd, rfl⟩ := List.mem_map.1 hr'
      rw [Bool.and_eq_true, beq_iff_eq, beq_iff_eq] at searched
      have same : r.ends = d.2.ends :=
        belongs.trans (Prod.ext searched.1.symm searched.2.symm)
      rw [← eq_of_ends_eq apart ht distinct h hd rfl same]
  rw [relationshipNameOf, found]

end

end Relationship

end SpecBundle
