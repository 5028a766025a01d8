import SpecBundle.Proofs.Samples
import SpecBundle.Proofs.Text.CaseFolding
import SpecBundle.Relationship

/-!
# Which table a lookup points to

A lookup gives its target by name, and two definitions say which table that is. The relationship of
the lookup leads to the table whose logical name is the target in lowercase. The search for the
lookups that point to a table compares the target with that logical name, and folds `A` to `Z` only.
What the search finds is always what the relationship says. It misses a lookup whose target is
written with a capital letter outside of ASCII, and only such a one
(`mem_lookupsTo_iff_leadsTo_iff`). That a target is spelled like the table does not help: the
logical name with which it is compared is already in lowercase.
-/

namespace SpecBundle

namespace Relationship

/-- The relationship that a column of the child defines leads to the parent. -/
def LeadsTo (namePrefix : String) (child : Table) (c : Column) (parent : Table) : Prop :=
  ∃ r, ofColumn? namePrefix child c = some r ∧ r.referencedEntity = parent.logicalName

section

variable {child parent : Table} {c : Column} {target : String}

/-- The relationship of a generated lookup leads to the table whose logical name is the target in
lowercase. -/
theorem leadsTo_iff (kind : c.kind = .lookup target)
    (generated : isBuiltinPrincipal target = false) (namePrefix : String) :
    LeadsTo namePrefix child c parent ↔ logicalName target = parent.logicalName := by
  have points : c.lookupTarget? = some target := by
    simp only [Column.lookupTarget?, kind, generated, Bool.false_eq_true, if_false]
  unfold LeadsTo ofColumn?
  rw [points, Option.map_some]
  constructor
  · rintro ⟨r, made, leads⟩
    obtain rfl := Option.some.inj made
    exact leads
  · intro same
    exact ⟨_, rfl, same⟩

/-- A lookup is found for a table if its target is the table's name in lowercase and has no capital
letters but ASCII ones. -/
theorem mem_lookupsTo_iff (own : c ∈ child.columns) (kind : c.kind = .lookup target) :
    c ∈ child.lookupsTo parent.logicalName ↔
      logicalName target = parent.logicalName ∧ Text.onlyAsciiCapitals target = true := by
  have found : c.looksUp parent.logicalName =
      Text.equalsIgnoringCase target (Text.lowercase parent.schemaName) := by
    simp only [Column.looksUp, kind]
    rfl
  rw [Table.lookupsTo, List.mem_filter, and_iff_right own, found]
  exact Text.equalsIgnoringCase_lowercase_iff

/-- What is found for a table is what the relationships lead to, and the two agree about a generated
lookup exactly if its target, where it is the table's name in lowercase, has no capital letters but
ASCII ones. In particular this decides whether a lookup is found whose target is spelled like the
table. -/
theorem mem_lookupsTo_iff_leadsTo_iff (own : c ∈ child.columns) (kind : c.kind = .lookup target)
    (generated : isBuiltinPrincipal target = false) (parent : Table) (namePrefix : String) :
    (c ∈ child.lookupsTo parent.logicalName → LeadsTo namePrefix child c parent) ∧
      ((c ∈ child.lookupsTo parent.logicalName ↔ LeadsTo namePrefix child c parent) ↔
        (logicalName target = parent.logicalName → Text.onlyAsciiCapitals target = true)) ∧
      (target = parent.schemaName →
        (c ∈ child.lookupsTo parent.logicalName ↔ Text.onlyAsciiCapitals target = true)) := by
  have found : c ∈ child.lookupsTo parent.logicalName ↔
      logicalName target = parent.logicalName ∧ Text.onlyAsciiCapitals target = true :=
    mem_lookupsTo_iff own kind
  have leads : LeadsTo namePrefix child c parent ↔ logicalName target = parent.logicalName :=
    leadsTo_iff kind generated namePrefix
  rw [found, leads]
  refine ⟨fun both => both.1, ⟨fun agree same => (agree.2 same).2, fun ascii => ?_⟩, ?_⟩
  · exact ⟨fun both => both.1, fun same => ⟨same, ascii same⟩⟩
  · intro spelled
    have same : logicalName target = parent.logicalName := congrArg logicalName spelled
    exact and_iff_right same

end

/-! ## Letters inside and outside of ASCII -/

end Relationship

namespace Sample

/-- A table and one with a lookup to it, whose target is spelled in some way. -/
def lookupTo (schemaName target : String) : List Table :=
  [table schemaName "Title" [column "Title" (.text none)],
    table "Call" "Title" [column "Title" (.text none), column "Place" (.lookup target)]]

end Sample

namespace Relationship

/-- A target in other ASCII letters is found, whatever small letters it has besides. -/
theorem mem_lookupsTo_iff_leadsTo_cafe :
    let parent := (Sample.lookupTo "Café" "CAFé")[0]
    let child := (Sample.lookupTo "Café" "CAFé")[1]
    let place := Sample.column "Place" (.lookup "CAFé")
    place ∈ child.columns ∧ place.kind = .lookup "CAFé" ∧ isBuiltinPrincipal "CAFé" = false ∧
      (place ∈ child.lookupsTo parent.logicalName ↔ LeadsTo "seo" child place parent) ∧
      LeadsTo "seo" child place parent := by
  intro parent child place
  have own : place ∈ child.columns := by decide
  have ordinary : isBuiltinPrincipal "CAFé" = false := by decide
  have agree := mem_lookupsTo_iff_leadsTo_iff own rfl ordinary parent "seo"
  exact ⟨own, rfl, ordinary, agree.2.1.2 fun _ => by decide +kernel, _, rfl, by decide +kernel⟩

/-- A target that is spelled like its table is not found if it starts with a capital letter outside
of ASCII. -/
theorem not_mem_lookupsTo_umlaut :
    let parent := (Sample.lookupTo "Ärzte" "Ärzte")[0]
    let child := (Sample.lookupTo "Ärzte" "Ärzte")[1]
    let place := Sample.column "Place" (.lookup "Ärzte")
    place ∈ child.columns ∧ place.kind = .lookup parent.schemaName ∧
      isBuiltinPrincipal parent.schemaName = false ∧ LeadsTo "seo" child place parent ∧
      place ∉ child.lookupsTo parent.logicalName := by
  intro parent child place
  exact ⟨by decide, rfl, by decide, ⟨_, rfl, rfl⟩, by decide +kernel⟩

end Relationship

end SpecBundle
