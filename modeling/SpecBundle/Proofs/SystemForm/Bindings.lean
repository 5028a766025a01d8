import SpecBundle.Proofs.Relationship.Derivations
import SpecBundle.Proofs.SystemForm.Subgrids
import SpecBundle.Proofs.Text.CaseFolding

/-!
# Which relationship a subgrid is bound to

A subgrid of a parent shows the rows of a child, and the lookup that it follows is elected among
those of the child that point to the parent (`Table.Elects`). Where names are apart there is at most
one such child, and it elects at most one lookup. `Subgrid.bound_to_elected` says that the subgrid
is written with the relationship that was derived from this very lookup, under the name that it was
settled with, and that it keeps the declared name with a warning if no lookup is elected.
-/

namespace SpecBundle

/-! ## The lookup that is elected -/

namespace Table

/-- A lookup of the child is elected to stand for the parent. -/
inductive Elects (child parent : Table) (namePrefix : String) (lookup : Column) : Prop where
  /-- It is the only one that points to the parent. -/
  | only (alone : child.lookupsTo parent.logicalName = [lookup])
  /-- It is not the only one, and it is called after the parent. -/
  | named (others : (child.lookupsTo parent.logicalName).length ≠ 1)
    (among : lookup ∈ child.lookupsTo parent.logicalName)
    (called : lookup.logicalName = expectedLookup namePrefix parent)

variable {child parent : Table} {namePrefix : String} {lookup : Column}

/-- What is chosen to stand for the parent is elected. -/
theorem elects_of_lookupFor? (h : child.lookupFor? parent namePrefix = some lookup) :
    child.Elects parent namePrefix lookup := by
  unfold lookupFor? at h
  split at h
  · rename_i only alone
    obtain rfl := Option.some.inj h
    exact .only alone
  · rename_i several
    have others : (child.lookupsTo parent.logicalName).length ≠ 1 := fun one => by
      obtain ⟨only, alone⟩ := List.length_eq_one_iff.1 one
      exact several only alone
    have called := List.find?_some h
    exact .named others (List.mem_of_find?_eq_some h) (eq_of_beq called)

/-- What is elected is chosen, if the columns of the child have names of their own. -/
theorem lookupFor?_of_elects
    (distinct : (child.columns.map (·.effectiveName child.logicalName)).Nodup)
    (h : child.Elects parent namePrefix lookup) :
    child.lookupFor? parent namePrefix = some lookup := by
  unfold lookupFor?
  cases h with
  | only alone => rw [alone]
  | named others among called =>
    split
    · rename_i only alone
      exact absurd (congrArg List.length alone) others
    · refine find?_eq_some_of_unique among (beq_iff_eq.2 called) fun other hother same => ?_
      -- Columns of one logical name have one effective name.
      have names : other.effectiveName child.logicalName =
          lookup.effectiveName child.logicalName := by
        unfold Column.effectiveName
        rw [eq_of_beq same, called]
      exact List.inj_on_of_nodup_map distinct (List.mem_of_mem_filter hother)
        (List.mem_of_mem_filter among) names

/-- What is elected is a lookup of the child that points to the parent. -/
theorem Elects.mem_lookupsTo (h : child.Elects parent namePrefix lookup) :
    lookup ∈ child.lookupsTo parent.logicalName := by
  cases h with
  | only alone =>
    rw [alone]
    exact List.mem_singleton_self lookup
  | named others among called => exact among

/-- What is elected for a table that is not called like a principal is generated. -/
theorem Elects.isGeneratedLookup (h : child.Elects parent namePrefix lookup)
    (ordinary : isBuiltinPrincipal parent.logicalName = false) :
    lookup ∈ child.columns ∧ lookup.isGeneratedLookup = true := by
  obtain ⟨own, points⟩ := List.mem_filter.1 h.mem_lookupsTo
  rcases Column.isGeneratedLookup_or_principal points with generated | principal
  · exact ⟨own, generated⟩
  · rw [ordinary] at principal
    cases principal

end Table

/-! ## What becomes of a subgrid -/

namespace Subgrid

/-- A table is one whose rows the subgrid shows. -/
def Shows (s : Subgrid) (child : Table) : Prop :=
  Text.equalsIgnoringCase child.schemaName s.entity = true

instance (s : Subgrid) (child : Table) : Decidable (s.Shows child) :=
  inferInstanceAs (Decidable (_ = _))

/-- A binding gives the subgrid a name, and this is recorded if the subgrid declares another one. -/
structure TakesName (s : Subgrid) (parent : Table) (binding : SubgridBinding) (name : String) :
    Prop where
  /-- The name is written. -/
  written : s.relationshipName binding = name
  /-- It is recorded exactly if it is new. -/
  note : s.note? parent binding =
    if name = s.relationship then none
    else some (.info .relationshipResolved (parent.logicalName ++ "." ++ s.name)
      (s.relationship ++ " -> " ++ name))

/-- A binding leaves the subgrid with the name that it declares, and a warning. -/
structure KeepsName (s : Subgrid) (parent : Table) (binding : SubgridBinding) : Prop where
  /-- The declared name is written. -/
  written : s.relationshipName binding = s.relationship
  /-- One warning is recorded, and it is about the subgrid. -/
  note : ∃ message, s.note? parent binding =
    some (.warn .relationshipUnresolved (parent.logicalName ++ "." ++ s.name) message)

variable {s : Subgrid} {parent child : Table} {tables : List Table} {namePrefix : String}

/-- The relationship of a lookup is a name that the subgrid takes. -/
theorem takesName_relationship (s : Subgrid) (parent : Table) (name : String) :
    s.TakesName parent (.relationship name) name :=
  ⟨rfl, rfl⟩

/-- Where tables have names of their own, the table that is shown is the one that is found. -/
theorem find?_of_shows (apart : (tables.map (·.logicalName)).Nodup) (hc : child ∈ tables)
    (shown : s.Shows child) :
    tables.find? (fun t => Text.equalsIgnoringCase t.schemaName s.entity) = some child := by
  refine find?_eq_some_of_unique hc shown fun other hother named => ?_
  have same : other.logicalName = child.logicalName :=
    (Text.lowercase_eq_of_equalsIgnoringCase named).trans
      (Text.lowercase_eq_of_equalsIgnoringCase shown).symm
  exact List.inj_on_of_nodup_map apart hother hc same

/-- A subgrid keeps its name if no table that it shows elects a lookup. -/
theorem keepsName_of_forall_not_elects (relationships : List Relationship)
    (h : ∀ child ∈ tables, s.Shows child → ∀ lookup, ¬ child.Elects parent namePrefix lookup) :
    s.KeepsName parent (s.binding parent tables relationships namePrefix) := by
  unfold binding
  cases found : tables.find? fun t => Text.equalsIgnoringCase t.schemaName s.entity with
  | none => exact ⟨rfl, _, rfl⟩
  | some child =>
    have shown := List.find?_some found
    cases chosen : child.lookupFor? parent namePrefix with
    | none =>
      simp only [chosen]
      exact ⟨rfl, _, rfl⟩
    | some lookup =>
      -- Whatever is chosen is elected, with or without names that are apart.
      have elected := Table.elects_of_lookupFor? chosen
      exact absurd elected (h child (List.mem_of_find?_eq_some found) shown lookup)

/-- Where tables have names of their own, and so do the columns of the tables that a subgrid shows,
one relationship is derived from the lookup that is elected for a table that is not called like a
principal. A subgrid of that table takes the name of this relationship, and it keeps its own name if
no lookup is elected. -/
theorem bound_to_elected (apart : (tables.map (·.logicalName)).Nodup)
    (ordinary : isBuiltinPrincipal parent.logicalName = false)
    (distinct : ∀ child ∈ tables, s.Shows child →
      (child.columns.map (·.effectiveName child.logicalName)).Nodup) (namePrefix : String) :
    let binding := s.binding parent tables (Relationship.deriveAll namePrefix tables) namePrefix
    (∀ child ∈ tables, s.Shows child → ∀ lookup, child.Elects parent namePrefix lookup →
        (∃! r, ((child, lookup), r) ∈ Relationship.derivations namePrefix tables) ∧
          ∀ r, ((child, lookup), r) ∈ Relationship.derivations namePrefix tables →
            s.TakesName parent binding r.name) ∧
      ((∀ child ∈ tables, s.Shows child → ∀ lookup, ¬ child.Elects parent namePrefix lookup) →
        s.KeepsName parent binding) := by
  intro binding
  refine ⟨fun child hc shown lookup elected => ⟨?_, fun r derived => ?_⟩,
    keepsName_of_forall_not_elects _⟩
  · -- The lookup is generated, so something is derived from it, and at one place only.
    obtain ⟨own, generated⟩ := elected.isGeneratedLookup ordinary
    obtain ⟨r, derived⟩ := Relationship.exists_mem_derivations hc own generated namePrefix
    refine ⟨r, derived, fun r' other => ?_⟩
    have ends : r'.ends = r.ends :=
      (Relationship.ends_of_mem other).trans (Relationship.ends_of_mem derived).symm
    have same :=
      Relationship.eq_of_ends_eq apart hc (distinct child hc shown) other derived rfl ends
    exact congrArg Prod.snd same
  · -- The three searches, for the table, the lookup and the relationship, find what they should.
    have chosen := Table.lookupFor?_of_elects (distinct child hc shown) elected
    have name := Relationship.relationshipNameOf_of_mem apart hc (distinct child hc shown) derived
    have bound : binding = .relationship r.name := by
      simp only [binding, Subgrid.binding, find?_of_shows apart hc shown, chosen, name]
    rw [bound]
    exact takesName_relationship s parent r.name

end Subgrid

namespace Sample

/-- A table and one with two lookups to it, whose relationships would have one name. The second
lookup is called after the table. -/
def twoLookups : List Table :=
  [table "Agency" "Title" [column "Title" (.text none)],
    table "Call" "Title"
      [column "Title" (.text none), column "AgencyId" (.lookup "Agency"),
        column "seo_AgencyId" (.lookup "AGENCY")]]

end Sample

namespace Subgrid

/-- A subgrid takes the name of the relationship of the second of two lookups, which is called after
its table, and that name has a suffix. -/
theorem bound_to_elected_twoLookups :
    let agency := Sample.twoLookups[0]
    let call := Sample.twoLookups[1]
    let calls := Sample.subgrid "calls" "CALL" "agency_calls"
    let binding := calls.binding agency Sample.twoLookups
      (Relationship.deriveAll "seo" Sample.twoLookups) "seo"
    (Sample.twoLookups.map (·.logicalName)).Nodup ∧
      isBuiltinPrincipal agency.logicalName = false ∧
      (∀ child ∈ Sample.twoLookups, calls.Shows child →
        (child.columns.map (·.effectiveName child.logicalName)).Nodup) ∧
      calls.Shows call ∧ call.Elects agency "seo" call.columns[2] ∧
      ∃ r, ((call, call.columns[2]), r) ∈
          Relationship.derivations "seo" Sample.twoLookups ∧
        r.name = "seo_Call_AgencyId_2" ∧ calls.TakesName agency binding r.name := by
  intro agency call calls binding
  have apart : (Sample.twoLookups.map (·.logicalName)).Nodup := by decide
  have ordinary : isBuiltinPrincipal agency.logicalName = false := by decide
  have distinct : ∀ child ∈ Sample.twoLookups, calls.Shows child →
      (child.columns.map (·.effectiveName child.logicalName)).Nodup := by decide
  have among : call ∈ Sample.twoLookups := by decide
  have shown : calls.Shows call := by decide
  have elected : call.Elects agency "seo" call.columns[2] :=
    .named (by decide) (by decide) (by decide)
  have bound := (bound_to_elected apart ordinary distinct "seo").1 call among shown _ elected
  obtain ⟨r, derived, -⟩ := bound.1
  have taken : calls.TakesName agency binding r.name := bound.2 r derived
  have written : calls.relationshipName binding = "seo_Call_AgencyId_2" := by decide
  exact ⟨apart, ordinary, distinct, shown, elected, r, derived, taken.written.symm.trans written,
    taken⟩

end Subgrid

end SpecBundle
