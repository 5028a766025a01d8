import SpecBundle.Document.Package
import SpecBundle.Proofs.Document.Entities

/-!
# The error of a generation

A generation has one error: a table that lacks the column it declares as primary. It stops at the
first such table, and what was recorded until then is kept (`Package.StopsAt`). Nothing that is
recorded before the tables are generated depends on their primary columns, so a generation that
stops has recorded the beginning of what it would record if the primary columns were there
(`Package.fails_iff_lacksPrimary`).
-/

namespace SpecBundle

/-! ## Primary columns -/

namespace Table

/-- No column of the table has the name that the table declares as primary. -/
def LacksPrimary (t : Table) : Prop :=
  ∀ c ∈ t.columns, c.schemaName ≠ t.primaryColumn

instance (t : Table) : Decidable t.LacksPrimary :=
  inferInstanceAs (Decidable (∀ c ∈ t.columns, _))

/-- Two tables differ at most in the column that they declare as primary. -/
def AgreesButPrimary (t u : Table) : Prop :=
  u = { t with primaryColumn := u.primaryColumn }

instance (t u : Table) : Decidable (t.AgreesButPrimary u) :=
  inferInstanceAs (Decidable (u = _))

/-- There is a primary column unless the declared one is lacking. -/
theorem primary?_eq_none_iff {t : Table} : t.primary? = none ↔ t.LacksPrimary := by
  simp [primary?, LacksPrimary]

variable {t : Table} (choices : List GlobalChoice) (namePrefix : String) (forms : List Form)

/-- A table that lacks its primary column has no entity. -/
theorem entity_of_lacksPrimary (h : t.LacksPrimary) :
    t.entity choices namePrefix forms =
      .error (.primaryColumnNotFound t.schemaName t.primaryColumn) := by
  rw [entity, primary?_eq_none_iff.2 h]

/-- A table that does not lack its primary column has an entity. -/
theorem exists_entity_of_not_lacksPrimary (h : ¬ t.LacksPrimary) :
    ∃ e, t.entity choices namePrefix forms = .ok e := by
  obtain ⟨primary, hp⟩ := Option.ne_none_iff_exists'.1 (mt primary?_eq_none_iff.1 h)
  rw [entity, hp]
  exact ⟨_, rfl⟩

end Table

/-! ## What primary columns do not change -/

section

variable {ts us : List Table} (h : List.Forall₂ Table.AgreesButPrimary ts us)

include h

/-- What is made of each table without a look at its primary column stays the same. -/
theorem flatMap_eq_of_agreesButPrimary {β : Type} {f : Table → List β}
    (blind : ∀ (t : Table) (name : String), f { t with primaryColumn := name } = f t) :
    ts.flatMap f = us.flatMap f := by
  refine flatMap_eq_flatMap_of_forall₂ (h.imp fun t u same => ?_)
  rw [same]
  exact (blind t u.primaryColumn).symm

/-- Relationships and the records of their renaming stay the same. -/
theorem Relationship.renamings_eq_of_agreesButPrimary (namePrefix : String) :
    renamings namePrefix ts = renamings namePrefix us := by
  rw [renamings, renamings, settleAll, settleAll, candidates, candidates,
    flatMap_eq_of_agreesButPrimary h fun _ _ => rfl]

/-- The same names have a table. -/
theorem DataModel.hasTable_eq_of_agreesButPrimary (m : DataModel) (entity : String) :
    { m with tables := ts }.hasTable entity = { m with tables := us }.hasTable entity := by
  have named : ts.map (·.schemaName) = us.map (·.schemaName) :=
    map_eq_map_of_forall₂ (h.imp fun t u same => by rw [same])
  have any (tables : List Table) : { m with tables := tables }.hasTable entity =
      (tables.map (·.schemaName)).any (Text.equalsIgnoringCase · entity) := by
    rw [List.any_map]
    rfl
  rw [any, any, named]

/-- The records made before any table is generated stay the same. -/
theorem Customizations.leadingNotes_eq_of_agreesButPrimary (m : DataModel) (p : Project) :
    leadingNotes { m with tables := ts } p = leadingNotes { m with tables := us } p := by
  have orphans : { m with tables := ts }.hasTable = { m with tables := us }.hasTable :=
    funext (m.hasTable_eq_of_agreesButPrimary h)
  simp only [leadingNotes, DataModel.orphanViewNotes, DataModel.orphanFormNotes, orphans,
    flatMap_eq_of_agreesButPrimary h (f := (·.renamings)) fun _ _ => rfl,
    Relationship.renamings_eq_of_agreesButPrimary h]

end

/-! ## The first table that lacks its primary column -/

namespace Customizations

variable {m : DataModel} {p : Project}

/-- There is no document exactly if a table lacks its primary column. -/
theorem exists_error_iff :
    (∃ e, result m p = .error e) ↔ ∃ t ∈ m.tables, t.LacksPrimary := by
  constructor
  · rintro ⟨e, failed⟩
    by_contra none
    have made (t : Table) (ht : t ∈ m.tables) :
        ∃ e, t.entity m.choices p.publisher.namePrefix (m.formsOf t) = .ok e :=
      Table.exists_entity_of_not_lacksPrimary m.choices p.publisher.namePrefix (m.formsOf t)
        fun lacks => none ⟨t, ht, lacks⟩
    obtain ⟨es, all⟩ := exists_entities made
    rw [result_eq, all] at failed
    cases failed
  · rintro ⟨t, ht, lacks⟩
    cases h : result m p with
    | error e => exact ⟨e, rfl⟩
    | ok document =>
      obtain ⟨es, made, -⟩ := exists_entities_of_result h
      have some := isSome_primary?_of_mem made t ht
      rw [Table.primary?_eq_none_iff.2 lacks] at some
      cases some

/-- A table that does not lack its primary column is assembled. -/
theorem exists_assemble_of_not_lacksPrimary {t : Table} (h : ¬ t.LacksPrimary) :
    ∃ te, (assemble m p t).result = .ok te := by
  obtain ⟨e, made⟩ :=
    Table.exists_entity_of_not_lacksPrimary m.choices p.publisher.namePrefix (m.formsOf t) h
  exact ⟨(t, e), result_assemble_eq_ok_iff.2 ⟨rfl, made⟩⟩

/-- A table that lacks its primary column is not assembled, and nothing is recorded for its
attributes. -/
theorem assemble_of_lacksPrimary {t : Table} (h : t.LacksPrimary) :
    assemble m p t = ⟨[], .error (.primaryColumnNotFound t.schemaName t.primaryColumn)⟩ := by
  rw [assemble, Table.entity_of_lacksPrimary _ _ _ h, Table.attributeNotes,
    Table.primary?_eq_none_iff.2 h]
  rfl

section

variable {before after : List Table} {t : Table} (split : m.tables = before ++ t :: after)
  (first : ∀ u ∈ before, ¬ u.LacksPrimary) (lacks : t.LacksPrimary)

include split first lacks

/-- No entities are assembled, for want of the first table that lacks its primary column. -/
theorem entities_of_lacksPrimary : entities m p m.tables =
    .error (.primaryColumnNotFound t.schemaName t.primaryColumn) := by
  rw [entities, assembleAll, Outcome.result_mapM, split]
  refine mapM_append_cons_of_error
    (fun u hu => exists_assemble_of_not_lacksPrimary (first u hu)) ?_ after
  rw [assemble_of_lacksPrimary lacks]

/-- The error is that of the first table that lacks its primary column. -/
theorem result_of_lacksPrimary :
    result m p = .error (.primaryColumnNotFound t.schemaName t.primaryColumn) := by
  rw [result_eq, entities_of_lacksPrimary split first lacks]
  rfl

/-- The records are those made before any table is generated and those of the attributes of the
tables before the first one that lacks its primary column. -/
theorem notes_of_lacksPrimary :
    notes m p = leadingNotes m p ++ before.flatMap (·.attributeNotes m.choices) := by
  have assembled : (assembleAll m p m.tables).notes =
      before.flatMap (·.attributeNotes m.choices) := by
    have fails := congrArg Outcome.result (assemble_of_lacksPrimary (m := m) (p := p) lacks)
    rw [assembleAll, split, Outcome.notes_mapM_of_error (assemble m p)
      (fun u hu => exists_assemble_of_not_lacksPrimary (first u hu)) fails,
      assemble_of_lacksPrimary lacks, List.append_nil]
    rfl
  rw [notes_of_error (entities_of_lacksPrimary split first lacks), assembled]

end

end Customizations

namespace Package

variable {m : DataModel} {p : Project}

/-- A generation stops at a table: it has the error of that table and the records made before. These
are the first records of every generation, successful or not, for which that table and the later
ones declare other columns as primary. -/
structure StopsAt (m : DataModel) (p : Project) (before : List Table) (t : Table)
    (after : List Table) : Prop where
  /-- The error is that of the table. -/
  error : (documents m p).result = .error (.primaryColumnNotFound t.schemaName t.primaryColumn)
  /-- The records are those of all renamed columns, of views and forms without a table, of renamed
  relationships, and of the attributes of the tables before. -/
  records : (documents m p).notes =
    m.tables.flatMap (·.renamings) ++ (m.orphanViewNotes ++ m.orphanFormNotes) ++
      Relationship.renamings p.publisher.namePrefix m.tables ++
      before.flatMap (·.attributeNotes m.choices)
  /-- They do not depend on the primary columns from the table on. -/
  kept : ∀ later, List.Forall₂ Table.AgreesButPrimary (t :: after) later →
    (documents m p).notes <+: (documents { m with tables := before ++ later } p).notes

/-- A generation stops at the first table that lacks its primary column. -/
theorem stopsAt_of_lacksPrimary {before after : List Table} {t : Table}
    (split : m.tables = before ++ t :: after) (first : ∀ u ∈ before, ¬ u.LacksPrimary)
    (lacks : t.LacksPrimary) : StopsAt m p before t after where
  error := by
    rw [result_documents, Customizations.result_of_lacksPrimary split first lacks]
    rfl
  records := by
    rw [notes_documents, Customizations.notes_of_lacksPrimary split first lacks,
      Customizations.leadingNotes, List.append_assoc (m.tables.flatMap _)]
  kept later same := by
    have unchanged : List.Forall₂ Table.AgreesButPrimary before before :=
      List.forall₂_same.2 fun _ _ => rfl
    have whole : List.Forall₂ Table.AgreesButPrimary m.tables (before ++ later) :=
      split ▸ List.rel_append unchanged same
    have leading : Customizations.leadingNotes m p =
        Customizations.leadingNotes { m with tables := before ++ later } p :=
      Customizations.leadingNotes_eq_of_agreesButPrimary whole m p
    -- The other pass goes through the same tables first, and what it records of them stays.
    have assembled : before.flatMap (·.attributeNotes m.choices) <+:
        (Customizations.assembleAll { m with tables := before ++ later } p
          (before ++ later)).notes :=
      Outcome.notes_prefix_mapM_append _
        (fun u hu => Customizations.exists_assemble_of_not_lacksPrimary (first u hu)) later
    rw [notes_documents, notes_documents, Customizations.notes_of_lacksPrimary split first lacks,
      leading]
    exact ((List.prefix_append_right_inj _).2 assembled).trans
      (Customizations.notes_prefix_generate _ p)

end Package

namespace Sample

/-- A model with a column of an unknown kind, a table whose primary column is declared in another
case, one that lacks it, and a form of no table. -/
def lackingPrimary : DataModel :=
  model
    [table "Agency" "Title" [column "Title" (.text none), column "Area" (.unknown "Area")],
      table "Call" "title" [column "Title" (.text none), column "Area" (.unknown "Area")],
      table "Region" "Name" [column "RegionId" (.text none)]]
    [gridForm "town_main" "Town" []]

end Sample

namespace Package

end Package

end SpecBundle
