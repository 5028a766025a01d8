import Mathlib.Data.List.Nodup
import SpecBundle.Names

/-!
# When effective names are distinct

A column gets its effective name without regard to the other columns of its table. The name is
never that of the primary key (`effectiveName_ne_primaryKeyName`), and it tells the column from
every other one but in one case: a column has the name of the primary key and another one has the
name that stands in for it (`effectiveName_eq_iff`). Where the logical names of a list of columns
are distinct, its effective names are thus distinct exactly if the list does not have both
(`nodup_map_effectiveName_iff`).
-/

namespace SpecBundle

/-! ## Two names -/

/-- The name that stands in for that of the primary key differs from it. -/
theorem substitute_ne_primaryKeyName (entity : String) :
    entity ++ "_name" ≠ primaryKeyName entity := by
  intro h
  exact absurd ((String.append_right_inj entity).1 h) (by decide)

/-- No effective name is that of the primary key. -/
theorem effectiveName_ne_primaryKeyName (physical entity : String) :
    effectiveName physical entity ≠ primaryKeyName entity := by
  by_cases h : physical = primaryKeyName entity
  · rw [h, effectiveName_primaryKeyName]
    exact substitute_ne_primaryKeyName entity
  · rw [effectiveName_of_ne h]
    exact h

/-- Two names have one effective name if they are equal, or if one is that of the primary key and
the other one stands in for it. -/
theorem effectiveName_eq_iff {p q entity : String} :
    effectiveName p entity = effectiveName q entity ↔
      p = q ∨ (p = primaryKeyName entity ∧ q = entity ++ "_name") ∨
        (q = primaryKeyName entity ∧ p = entity ++ "_name") := by
  have ne := substitute_ne_primaryKeyName entity
  by_cases hp : p = primaryKeyName entity <;> by_cases hq : q = primaryKeyName entity
  · simp [hp, hq]
  · subst hp
    rw [effectiveName_primaryKeyName, effectiveName_of_ne hq]
    simp [hq, Ne.symm hq, eq_comm]
  · subst hq
    rw [effectiveName_primaryKeyName, effectiveName_of_ne hp]
    simp [hp]
  · rw [effectiveName_of_ne hp, effectiveName_of_ne hq]
    simp [hp, hq]

/-! ## The columns of a table -/

/-- Some columns of an entity include one that is called like the primary key and one whose name
is the substitute for that. -/
def SubstituteTaken (entity : String) (columns : List Column) : Prop :=
  (∃ c ∈ columns, c.logicalName = primaryKeyName entity) ∧
    ∃ c ∈ columns, c.logicalName = entity ++ "_name"

instance (entity : String) (columns : List Column) : Decidable (SubstituteTaken entity columns) :=
  inferInstanceAs (Decidable (_ ∧ _))

/-- Columns with distinct logical names have distinct effective names exactly if none of them has
the name that another one is given. -/
theorem nodup_map_effectiveName_iff {columns : List Column} (entity : String)
    (distinct : (columns.map (·.logicalName)).Nodup) :
    (columns.map (·.effectiveName entity)).Nodup ↔ ¬ SubstituteTaken entity columns := by
  constructor
  · rintro effective ⟨⟨c, hc, key⟩, d, hd, substitute⟩
    have same : c.effectiveName entity = d.effectiveName entity :=
      effectiveName_eq_iff.2 (.inr (.inl ⟨key, substitute⟩))
    have equal : c = d := List.inj_on_of_nodup_map effective hc hd same
    rw [equal, substitute] at key
    exact substitute_ne_primaryKeyName entity key
  · intro free
    refine List.Nodup.map_on (fun c hc d hd same => ?_) distinct.of_map
    rcases effectiveName_eq_iff.1 same with names | ⟨key, substitute⟩ | ⟨key, substitute⟩
    · exact List.inj_on_of_nodup_map distinct hc hd names
    · exact absurd ⟨⟨c, hc, key⟩, d, hd, substitute⟩ free
    · exact absurd ⟨⟨d, hd, key⟩, c, hc, substitute⟩ free

end SpecBundle
