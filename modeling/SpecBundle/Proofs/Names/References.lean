import Mathlib.Data.List.Find
import SpecBundle.Proofs.Entity.Attributes
import SpecBundle.Proofs.Relationship.Derivations
import SpecBundle.SystemForm.Layout

/-!
# One name for each column

A column is referred to from views, forms, attributes and relationships, and each of them asks for
its name in another way: directly, through the names of its table, or backwards, from a name to the
column. The names of a table are a map that one pass over the columns fills (`Table.nameEntries`),
and a column that comes later replaces the entry of an earlier one of the same logical name. Since
the effective name depends on the logical name alone, nothing is lost thereby, and all ways lead to
one name (`Column.IsCalled`). The way back leads to the column where no other one has its name
(`Table.columns_have_one_name`).
-/

namespace SpecBundle

/-! ## The map of a table's names -/

namespace Table

/-- The entries of the map from logical to effective names, the newest first. -/
def nameEntries (t : Table) : List (String × String) :=
  t.columns.foldl (fun entries c => (c.logicalName, c.effectiveName t.logicalName) :: entries) []

/-- What is found among entries to which those of columns are added: that of the last column of the
name, and without such a column what was there before. -/
theorem lookup_foldl_entries (entity name : String) (columns : List Column)
    (entries : List (String × String)) :
    (columns.foldl (fun entries c => (c.logicalName, c.effectiveName entity) :: entries)
        entries).lookup name =
      if name ∈ columns.map (·.logicalName) then some (effectiveName name entity)
      else entries.lookup name := by
  induction columns generalizing entries with
  | nil => rfl
  | cons c columns ih =>
    rw [List.foldl_cons, ih, List.lookup_cons, List.map_cons]
    -- A later column of the name counts, and only without one does this column.
    by_cases later : name ∈ columns.map (·.logicalName)
    · rw [if_pos later, if_pos (List.mem_cons_of_mem c.logicalName later)]
    · rw [if_neg later]
      by_cases own : name = c.logicalName
      · rw [own, if_pos List.mem_cons_self, beq_self_eq_true]
        rfl
      · rw [if_neg (List.not_mem_cons_of_ne_of_not_mem own later), beq_false_of_ne own]

/-- The map has the names of the columns, and no other ones. -/
theorem lookup_nameEntries (t : Table) (name : String) :
    t.nameEntries.lookup name =
      if name ∈ t.names.logical then some (effectiveName name t.logicalName) else none := by
  rw [nameEntries, lookup_foldl_entries, names, List.lookup_nil]
  simp only [List.mem_eraseDups]

/-- A reference is resolved through the map, and lowercased where the map has no entry for it. -/
theorem resolve_eq_lookup (t : Table) (reference : String) :
    t.names.resolve reference =
      (t.nameEntries.lookup (SpecBundle.logicalName reference)).getD
        (SpecBundle.logicalName reference) := by
  rw [lookup_nameEntries, ColumnNames.resolve]
  split <;> rfl

end Table

/-! ## From a column to its name -/

/-- Whether a column is a lookup, be it generated or not. -/
def Column.isLookup (c : Column) : Bool :=
  match c.kind with
  | .lookup _ => true
  | _ => false

/-- A column of a table goes by the given name, whichever way it is asked for. -/
structure Column.IsCalled (c : Column) (t : Table) (name : String) : Prop where
  /-- By itself, from its table's logical name. -/
  itself : c.effectiveName t.logicalName = name
  /-- Through the names of its table. -/
  own : t.names.of c = name
  /-- By any reference to it. -/
  references : ∀ reference, SpecBundle.logicalName reference = c.logicalName →
    t.names.resolve reference = name
  /-- As an attribute, if it is generated. -/
  asAttribute : ∀ choices namePrefix isPrimary,
    (Attribute.ofColumn? choices namePrefix t.names isPrimary c).map (·.physicalName) =
      if c.isGenerated then some name else none
  /-- As the end of a relationship, if it is a generated lookup. -/
  asEnd : ∀ namePrefix,
    (Relationship.ofColumn? namePrefix t c).map (·.referencingAttribute) =
      if c.isGeneratedLookup then some name else none
  /-- As the end of the relationship of a whole build. -/
  asSettledEnd : ∀ namePrefix tables r, ((t, c), r) ∈ Relationship.derivations namePrefix tables →
    r.referencingAttribute = name

namespace Table

variable {t : Table} {c : Column}

/-- A reference to a column is resolved to its effective name. -/
theorem resolve_of_mem (hc : c ∈ t.columns) {reference : String}
    (same : SpecBundle.logicalName reference = c.logicalName) :
    t.names.resolve reference = c.effectiveName t.logicalName := by
  have alike : SpecBundle.logicalName reference = SpecBundle.logicalName c.schemaName := same
  rw [← names_of hc, ColumnNames.of, ColumnNames.resolve, ColumnNames.resolve, alike]

/-- A reference to no column is lowercased. -/
theorem resolve_of_forall_ne {reference : String}
    (none : ∀ c ∈ t.columns, c.logicalName ≠ SpecBundle.logicalName reference) :
    t.names.resolve reference = SpecBundle.logicalName reference := by
  have unknown : SpecBundle.logicalName reference ∉ t.names.logical := by
    simpa [names] using none
  rw [ColumnNames.resolve, if_neg unknown]

/-- Every column goes by its effective name. -/
theorem isCalled_effectiveName (hc : c ∈ t.columns) :
    c.IsCalled t (c.effectiveName t.logicalName) where
  itself := rfl
  own := names_of hc
  references _ same := resolve_of_mem hc same
  asAttribute choices namePrefix isPrimary := by
    have generated := Attribute.isSome_ofColumn? choices namePrefix t.names isPrimary c
    cases made : Attribute.ofColumn? choices namePrefix t.names isPrimary c with
    | none =>
      rw [made] at generated
      rw [← generated]
      rfl
    | some a =>
      rw [made] at generated
      rw [← generated, Option.map_some, Attribute.physicalName_of_ofColumn? made, names_of hc]
      rfl
  asEnd namePrefix := by
    have generated := Relationship.isSome_ofColumn? namePrefix t c
    cases made : Relationship.ofColumn? namePrefix t c with
    | none =>
      rw [made] at generated
      rw [← generated]
      rfl
    | some r =>
      rw [made] at generated
      obtain ⟨target, -, rfl⟩ := Option.map_eq_some_iff.1 made
      rw [← generated]
      rfl
  asSettledEnd namePrefix tables r derived := congrArg Prod.snd (Relationship.ends_of_mem derived)

/-! ## From a name to its column -/

/-- The search for the column of a name asks each column for its name through those of the table. -/
theorem columnFor?_names (t : Table) (name : String) :
    t.names.columnFor? t name = t.columns.find? fun c => t.names.of c == name :=
  List.find?_congr fun c hc => by rw [names_of hc]; rfl

/-- Where the columns are apart, the name of one leads back to it. -/
theorem columnFor?_effectiveName (distinct : (t.columns.map t.names.of).Nodup)
    (hc : c ∈ t.columns) : t.names.columnFor? t (c.effectiveName t.logicalName) = some c := by
  rw [columnFor?_names, ← names_of hc]
  refine find?_eq_some_of_unique hc (beq_self_eq_true _) fun other hother same => ?_
  exact List.inj_on_of_nodup_map distinct hother hc (eq_of_beq same)

/-- The control of a column is that of a lookup exactly if the column is one. -/
theorem controlClass_eq_lookupClass_iff {name : String}
    (found : t.names.columnFor? t name = some c) :
    controlClass t t.names name = lookupClass ↔ c.isLookup = true := by
  have ne : standardClass ≠ lookupClass := by decide
  unfold controlClass Column.isLookup
  rw [found]
  obtain ⟨_, _, _, _, _, _, kind⟩ := c
  cases kind <;> simp [ne]

/-- All columns go by their effective names, and the names of the table are those of the map that is
filled column by column: a reference to no column is lowercased. Where the effective names are
apart, the name that a reference is resolved to leads back to the column, and the control of a field
with such a reference is that of a lookup exactly if the column is one. -/
theorem columns_have_one_name (t : Table) :
    (∀ c ∈ t.columns, c.IsCalled t (c.effectiveName t.logicalName)) ∧
      (∀ reference, (∀ c ∈ t.columns, c.logicalName ≠ SpecBundle.logicalName reference) →
        t.names.resolve reference = SpecBundle.logicalName reference) ∧
      (∀ reference, t.names.resolve reference =
        (t.nameEntries.lookup (SpecBundle.logicalName reference)).getD
          (SpecBundle.logicalName reference)) ∧
      ((t.columns.map t.names.of).Nodup → ∀ c ∈ t.columns, ∀ reference,
        SpecBundle.logicalName reference = c.logicalName →
          t.names.columnFor? t (t.names.resolve reference) = some c ∧
            ∀ scope : TableScope, scope.table = t → scope.names = t.names →
              ∀ f : FormField, f.name = reference →
                ((f.bind scope).controlClass = lookupClass ↔ c.isLookup = true)) := by
  refine ⟨fun c hc => isCalled_effectiveName hc, fun reference none => resolve_of_forall_ne none,
    resolve_eq_lookup t, fun distinct c hc reference same => ?_⟩
  have found : t.names.columnFor? t (t.names.resolve reference) = some c := by
    rw [resolve_of_mem hc same]
    exact columnFor?_effectiveName distinct hc
  refine ⟨found, ?_⟩
  rintro scope rfl names f rfl
  rw [FormField.bind, names]
  exact controlClass_eq_lookupClass_iff found

/-- A lookup that is renamed goes by its new name and is found by any spelling of its old one, while
the spelling of a column that the table lacks stays but for the case. -/
theorem columns_have_one_name_callLookups :
    let call := Sample.callLookups.tables[1]
    let renamed := Sample.column "CallId" (.lookup "Agency")
    renamed ∈ call.columns ∧ renamed.IsCalled call "call_name" ∧
      (call.columns.map call.names.of).Nodup ∧
      SpecBundle.logicalName "CALLID" = renamed.logicalName ∧
      call.names.columnFor? call (call.names.resolve "CALLID") = some renamed ∧
      (∀ c ∈ call.columns, c.logicalName ≠ SpecBundle.logicalName "CreatedOn") ∧
      call.names.resolve "CreatedOn" = SpecBundle.logicalName "CreatedOn" := by
  intro call renamed
  have own : renamed ∈ call.columns := by decide
  have distinct : (call.columns.map call.names.of).Nodup := by decide
  have same : SpecBundle.logicalName "CALLID" = renamed.logicalName := by decide
  have lacking : ∀ c ∈ call.columns, c.logicalName ≠ SpecBundle.logicalName "CreatedOn" := by
    decide
  have named : renamed.effectiveName call.logicalName = "call_name" := by decide
  obtain ⟨called, others, -, back⟩ := columns_have_one_name call
  have everywhere : renamed.IsCalled call "call_name" := by
    rw [← named]
    exact called renamed own
  have found := (back distinct renamed own "CALLID" same).1
  exact ⟨own, everywhere, distinct, same, found, lacking, others "CreatedOn" lacking⟩

end Table

end SpecBundle
