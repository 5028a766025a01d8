import SpecBundle.Proofs.Document.Entities
import SpecBundle.Proofs.Samples

/-!
# The names of option sets

Every yes or no column and every choice column is written with an option set of its own, so that
two tables never share one. What a set is called is joined with underscores:
`{prefix}_{entity}_{column}` for a yes or no column and `{entity}_{column}` for a choice.
Underscores may also stand in the parts, and no set is called with regard to the others.
`OptionSetKey.name_eq_iff` says when two sets get one name: where the part before one column goes
on with an underscore and with the start of the other column (`OptionSetKey.Continues`), and where
a table is called like another one with the prefix (`OptionSetKey.Mistaken`). Where tables and the
columns of each table are told apart by their names, the names of all sets in a document are thus
distinct exactly if no two sets clash in this way (`Customizations.nodup_optionSetNames_iff`).
-/

namespace SpecBundle

open Xml (Element)

/-! ## Two names -/

/-- Texts that are joined by an underscore in two ways: either the parts are the same, or the first
part of one goes on with an underscore and with what the second part of the other one starts
with. -/
theorem append_underscore_eq_iff {s t s' t' : String} :
    s ++ "_" ++ t = s' ++ "_" ++ t' ↔
      (s = s' ∧ t = t') ∨ (∃ x, s' = s ++ "_" ++ x ∧ t = x ++ "_" ++ t') ∨
        ∃ x, s = s' ++ "_" ++ x ∧ t' = x ++ "_" ++ t := by
  have joined (a b : String) : (a ++ "_" ++ b).toList = a.toList ++ '_' :: b.toList := by
    simp
  have goesOn (a a' b b' : String) :
      (∃ xs, a'.toList = a.toList ++ '_' :: xs ∧ b.toList = xs ++ '_' :: b'.toList) ↔
        ∃ x, a' = a ++ "_" ++ x ∧ b = x ++ "_" ++ b' := by
    constructor
    · rintro ⟨xs, first, second⟩
      refine ⟨String.ofList xs, ?_, ?_⟩
      · rw [← String.toList_inj, joined, String.toList_ofList, first]
      · rw [← String.toList_inj, joined, String.toList_ofList, second]
    · rintro ⟨x, rfl, rfl⟩
      exact ⟨x.toList, joined a x, joined x b'⟩
  rw [← String.toList_inj, joined, joined, append_cons_eq_append_cons_iff, String.toList_inj,
    String.toList_inj, goesOn, goesOn]

/-- What an option set is written for, and of which kind it is. -/
structure OptionSetKey where
  /-- The kind of the set. -/
  kind : OptionSetKind
  /-- The logical name of the table. -/
  entity : String
  /-- The effective name of the column. -/
  column : String
  deriving DecidableEq, Repr

namespace OptionSetKey

variable (namePrefix : String)

/-- What the name of a set starts with, up to the underscore before the column. -/
def owner (k : OptionSetKey) : String :=
  match k.kind with
  | .bit => namePrefix ++ "_" ++ k.entity
  | .picklist => k.entity

/-- The name of a set. -/
def name (k : OptionSetKey) : String :=
  k.owner namePrefix ++ "_" ++ k.column

/-- What stands before the column of one set goes on, before that of the other one, with an
underscore and with what the column of the first starts with. -/
def Continues (k k' : OptionSetKey) : Prop :=
  ∃ x, k'.owner namePrefix = k.owner namePrefix ++ "_" ++ x ∧ k.column = x ++ "_" ++ k'.column

/-- A yes or no column and a choice column of one name, the latter in a table that is called like
that of the former with the prefix. -/
def Mistaken (k k' : OptionSetKey) : Prop :=
  k.kind = .bit ∧ k'.kind = .picklist ∧ k'.entity = namePrefix ++ "_" ++ k.entity ∧
    k.column = k'.column

/-- Two sets that get one name. -/
def Clashes (k k' : OptionSetKey) : Prop :=
  k.Mistaken namePrefix k' ∨ k.Continues namePrefix k'

variable {namePrefix} {k k' : OptionSetKey}

/-- Sets have the same owner and column if they are one, or if one is taken for the other. -/
theorem owner_eq_and_column_eq_iff :
    k.owner namePrefix = k'.owner namePrefix ∧ k.column = k'.column ↔
      k = k' ∨ k.Mistaken namePrefix k' ∨ k'.Mistaken namePrefix k := by
  obtain ⟨kind, entity, column⟩ := k
  obtain ⟨kind', entity', column'⟩ := k'
  cases kind <;> cases kind' <;>
    simp [owner, Mistaken, String.append_right_inj, eq_comm]

/-- Sets have one name if they are one or if they clash. -/
theorem name_eq_iff :
    k.name namePrefix = k'.name namePrefix ↔
      k = k' ∨ k.Clashes namePrefix k' ∨ k'.Clashes namePrefix k := by
  unfold name
  rw [append_underscore_eq_iff, owner_eq_and_column_eq_iff, or_assoc, or_or_or_comm]
  rfl

/-- No set clashes with itself. -/
theorem not_clashes_self (k : OptionSetKey) : ¬ k.Clashes namePrefix k := by
  rintro (⟨bit, picklist, -⟩ | ⟨x, longer, -⟩)
  · rw [bit] at picklist
    cases picklist
  · have length := congrArg String.length longer
    rw [String.length_append, String.length_append] at length
    have underscore : "_".length = 1 := rfl
    omega

/-- Different sets have names of their own exactly if no two of them clash. -/
theorem nodup_map_name_iff {keys : List OptionSetKey} (distinct : keys.Nodup) :
    (keys.map (·.name namePrefix)).Nodup ↔
      ∀ k ∈ keys, ∀ k' ∈ keys, ¬ k.Clashes namePrefix k' := by
  rw [List.nodup_map_iff_inj_on distinct]
  constructor
  · intro injective k hk k' hk' clash
    have same : k = k' := injective k hk k' hk' (name_eq_iff.2 (.inr (.inl clash)))
    rw [same] at clash
    exact k'.not_clashes_self clash
  · intro free k hk k' hk' same
    rcases name_eq_iff.1 same with equal | clash | clash
    · exact equal
    · exact absurd clash (free k hk k' hk')
    · exact absurd clash (free k' hk' k hk)

/-- One set continues another one if its name does so up to the column and the names are equal. -/
theorem continues_iff :
    k.Continues namePrefix k' ↔
      (k.owner namePrefix ++ "_").toList <+: (k'.owner namePrefix).toList ∧
        k.name namePrefix = k'.name namePrefix := by
  constructor
  · intro clash
    refine ⟨?_, name_eq_iff.2 (.inr (.inl (.inr clash)))⟩
    obtain ⟨x, longer, -⟩ := clash
    rw [longer]
    exact ⟨x.toList, String.toList_append.symm⟩
  · rintro ⟨⟨xs, longer⟩, same⟩
    have owner : k'.owner namePrefix = k.owner namePrefix ++ "_" ++ String.ofList xs := by
      rw [← String.toList_inj, ← longer]
      simp
    refine ⟨String.ofList xs, owner, ?_⟩
    unfold name at same
    rw [owner] at same
    simpa only [String.append_assoc, String.append_right_inj] using same

instance : Decidable (k.Continues namePrefix k') :=
  decidable_of_iff _ continues_iff.symm

instance : Decidable (k.Mistaken namePrefix k') :=
  inferInstanceAs (Decidable (_ ∧ _ ∧ _ ∧ _))

instance : Decidable (k.Clashes namePrefix k') :=
  inferInstanceAs (Decidable (_ ∨ _))

end OptionSetKey

/-! ## The option sets of tables -/

/-- The kind of a column's option set, if it has one. -/
def Column.optionSetKind? (c : Column) : Option OptionSetKind :=
  match c.kind with
  | .boolean _ => some .bit
  | .globalChoice _ => some .picklist
  | .choice _ => some .picklist
  | _ => none

/-- What the option set of a column is written for, if it has one. -/
def Column.optionSetKey? (names : ColumnNames) (c : Column) : Option OptionSetKey :=
  c.optionSetKind?.map fun kind => ⟨kind, names.entity, names.of c⟩

/-- What the option sets of a table are written for, in the order of its columns. -/
def Table.optionSetKeys (t : Table) : List OptionSetKey :=
  t.columns.filterMap (·.optionSetKey? t.names)

/-- What the option sets of all tables are written for. -/
def DataModel.optionSetKeys (m : DataModel) : List OptionSetKey :=
  m.tables.flatMap (·.optionSetKeys)

/-- A key has the names of its column and table. -/
theorem Column.names_of_optionSetKey? {names : ColumnNames} {c : Column} {k : OptionSetKey}
    (h : c.optionSetKey? names = some k) : k.column = names.of c ∧ k.entity = names.entity := by
  obtain ⟨kind, -, rfl⟩ := Option.map_eq_some_iff.1 h
  exact ⟨rfl, rfl⟩

/-- Where the names of its columns are distinct, the option sets of a table are told apart. -/
theorem Table.nodup_optionSetKeys {t : Table} (distinct : (t.columns.map t.names.of).Nodup) :
    t.optionSetKeys.Nodup := by
  have columns : t.optionSetKeys.map (·.column) =
      (t.columns.filter (·.optionSetKind?.isSome)).map t.names.of := by
    have keyed (c : Column) : (c.optionSetKey? t.names).isSome = c.optionSetKind?.isSome :=
      Option.isSome_map
    refine map_eq_map_of_forall₂ ((forall₂_filterMap_filter keyed t.columns).imp fun k c own => ?_)
    exact (Column.names_of_optionSetKey? own).1
  refine List.Nodup.of_map (·.column) ?_
  rw [columns]
  exact distinct.sublist (List.filter_sublist.map _)

/-- Where the names of tables and of each table's columns are distinct, all option sets are told
apart. -/
theorem DataModel.nodup_optionSetKeys {m : DataModel}
    (apart : (m.tables.map (·.logicalName)).Nodup)
    (distinct : ∀ t ∈ m.tables, (t.columns.map t.names.of).Nodup) : m.optionSetKeys.Nodup := by
  have entity : ∀ t ∈ m.tables, ∀ k ∈ t.optionSetKeys, k.entity = t.logicalName := by
    intro t _ k hk
    obtain ⟨c, -, own⟩ := List.mem_filterMap.1 hk
    exact (Column.names_of_optionSetKey? own).2
  exact (nodup_flatMap_iff_of_key entity apart).2 fun t ht =>
    Table.nodup_optionSetKeys (distinct t ht)

/-! ## The option sets of a document -/

/-- The option set of a column bears the name of its key. -/
theorem Attribute.name_optionSetOf? (choices : List GlobalChoice) (namePrefix : String)
    (names : ColumnNames) (c : Column) :
    (optionSetOf? choices namePrefix names.entity (names.of c) c).map (·.name) =
      (c.optionSetKey? names).map (·.name namePrefix) := by
  unfold optionSetOf? Column.optionSetKey? Column.optionSetKind?
  cases c.kind <;> rfl

/-- A column becomes an attribute with the option set of its key, if it has one, whether it is the
primary column or not. -/
theorem Attribute.flatMap_optionSet_ofColumn? (choices : List GlobalChoice) (namePrefix : String)
    (names : ColumnNames) (isPrimary : Bool) (c : Column) :
    (ofColumn? choices namePrefix names isPrimary c).toList.flatMap
        (fun a => (a.optionSet.map (·.name)).toList) =
      ((c.optionSetKey? names).map (·.name namePrefix)).toList := by
  have name := name_optionSetOf? choices namePrefix names c
  cases made : ofColumn? choices namePrefix names isPrimary c with
  | none =>
    -- No column without an attribute has a key.
    have generated := isSome_ofColumn? choices namePrefix names isPrimary c
    rw [made, Option.isSome_none] at generated
    unfold Column.isGenerated at generated
    unfold Column.optionSetKey? Column.optionSetKind?
    cases hk : c.kind <;> rw [hk] at generated <;> first | rfl | cases generated
  | some a =>
    obtain ⟨type, -, rfl⟩ := Option.map_eq_some_iff.1 made
    rw [← name, Option.toList_some, List.flatMap_singleton]

/-- The element of an attribute has the option set of the attribute, if it has one. -/
theorem Attribute.values_optionSet {a : Attribute}
    (plain : "optionset" ∉ a.typeProperties.map (·.1)) (version language : String) :
    (a.toXml version language).values ["optionset"] "Name" =
      (a.optionSet.map (·.name)).toList := by
  rw [Element.values, select_optionSet plain]
  cases a.optionSet <;> rfl

section

variable {choices : List GlobalChoice} {namePrefix : String} {forms : List Form} {t : Table}
  {e : Entity}

/-- The element of an entity has the option sets of its table. -/
theorem Entity.values_optionSets_perm (distinct : (t.columns.map t.names.of).Nodup)
    (made : t.entity choices namePrefix forms = .ok e) (scope : TableScope) (forms' : List Form)
    (queries : List SavedQuery) :
    ((e.toXml scope forms' queries).values (attributePath ++ ["optionset"]) "Name").Perm
      (t.optionSetKeys.map (·.name namePrefix)) := by
  have written : ∀ a ∈ e.attributes,
      (a.toXml scope.version scope.language).values ["optionset"] "Name" =
        (a.optionSet.map (·.name)).toList := by
    intro a ha
    obtain ⟨isPrimary, c, own⟩ := Table.exists_ofColumn?_of_mem_attributes made ha
    exact Attribute.values_optionSet (Attribute.not_mem_tags_of_ofColumn? own (by decide)) _ _
  have keys : t.optionSetKeys.map (·.name namePrefix) =
      t.columns.flatMap fun c => ((c.optionSetKey? t.names).map (·.name namePrefix)).toList := by
    rw [Table.optionSetKeys, List.map_filterMap, List.filterMap_eq_flatMap_toList]
  rw [Xml.values_append, select_attributes, List.flatMap_map, List.flatMap_congr written, keys]
  exact Table.flatMap_attributes_perm
    (Attribute.flatMap_optionSet_ofColumn? choices namePrefix t.names)
    (Table.nodup_logicalName distinct) made

end

namespace Customizations

variable {m : DataModel} {p : Project} {document : Element}

/-- The names of the option sets of a document, in document order. -/
def optionSetNames (document : Element) : List String :=
  document.values (["Entities", "Entity"] ++ (attributePath ++ ["optionset"])) "Name"

/-- The option sets of a document are those of the tables' columns. -/
theorem optionSetNames_perm (distinct : ∀ t ∈ m.tables, (t.columns.map t.names.of).Nodup)
    (made : result m p = .ok document) :
    (optionSetNames document).Perm
      (m.optionSetKeys.map (·.name p.publisher.namePrefix)) := by
  obtain ⟨es, entities, rfl⟩ := exists_entities_of_result made
  have each : List.Forall₂ (fun t (entity : Element) =>
      (entity.values (attributePath ++ ["optionset"]) "Name").Perm
        (t.optionSetKeys.map (·.name p.publisher.namePrefix)))
      m.tables ((root m p es).select ["Entities", "Entity"]) :=
    forall₂_select_entities (fun t ht e own =>
      Entity.values_optionSets_perm (distinct t ht) own _ _ _) entities
  rw [optionSetNames, Xml.values_append, DataModel.optionSetKeys, List.map_flatMap]
  exact flatMap_perm_of_forall₂ each.flip

/-- Where tables and the columns of each table are told apart by their names, the option sets of a
document are those of the yes or no columns and of the choice columns, and no two of them have one
name exactly if no two of them clash. -/
theorem nodup_optionSetNames_iff (apart : (m.tables.map (·.logicalName)).Nodup)
    (distinct : ∀ t ∈ m.tables, (t.columns.map t.names.of).Nodup)
    (made : result m p = .ok document) :
    (optionSetNames document).Perm
        (m.optionSetKeys.map (·.name p.publisher.namePrefix)) ∧
      ((optionSetNames document).Nodup ↔
        ∀ k ∈ m.optionSetKeys, ∀ k' ∈ m.optionSetKeys,
          ¬ k.Clashes p.publisher.namePrefix k') := by
  have perm := optionSetNames_perm distinct made
  refine ⟨perm, ?_⟩
  rw [perm.nodup_iff]
  exact OptionSetKey.nodup_map_name_iff (DataModel.nodup_optionSetKeys apart distinct)

end Customizations

namespace Sample

/-- A model with two tables that share a choice, a yes or no column in each, and a choice of a
column's own. The name of one table continues that of the other one. -/
def sharedChoice : DataModel :=
  { model
      [table "Call" "Title"
          [column "Title" (.text none), column "Is_Open" (.boolean false),
            column "Stage" (.globalChoice "stage")],
        table "Call_Unit" "Title"
          [column "Title" (.text none), column "Is_Open" (.boolean true),
            column "Stage" (.globalChoice "stage"), column "Kind" (.choice [⟨1, "Car"⟩])]]
      [] with
    choices := [⟨"stage", "Stage", none, [⟨1, "Open"⟩, ⟨2, "Closed"⟩]⟩] }

end Sample

namespace Customizations

/-- Two tables share a choice, and although the name of one continues that of the other one, all
option sets have names of their own. -/
theorem nodup_optionSetNames_sharedChoice :
    ∃ document, result Sample.sharedChoice Sample.project = .ok document ∧
      (Sample.sharedChoice.tables.map (·.logicalName)).Nodup ∧
      (∀ t ∈ Sample.sharedChoice.tables, (t.columns.map t.names.of).Nodup) ∧
      (optionSetNames document).Perm ["seo_call_is_open", "call_stage", "seo_call_unit_is_open",
        "call_unit_stage", "call_unit_kind"] ∧
      (optionSetNames document).Nodup := by
  have apart : (Sample.sharedChoice.tables.map (·.logicalName)).Nodup := by decide
  have distinct : ∀ t ∈ Sample.sharedChoice.tables, (t.columns.map t.names.of).Nodup := by decide
  obtain ⟨perm, nodup⟩ := nodup_optionSetNames_iff (p := Sample.project) apart distinct rfl
  exact ⟨_, rfl, apart, distinct, perm, nodup.2 (by decide)⟩

end Customizations

namespace Sample

/-- A model with two tables that share a choice. One table has a column that is called like what
the name of the other one adds and that table's column. -/
def callUnits : DataModel :=
  { model
      [table "Call" "Title"
          [column "Title" (.text none), column "Unit_Stage" (.globalChoice "stage")],
        table "Call_Unit" "Title"
          [column "Title" (.text none), column "Stage" (.globalChoice "stage")]]
      [] with
    choices := [⟨"stage", "Stage", none, [⟨1, "Open"⟩, ⟨2, "Closed"⟩]⟩] }

end Sample

namespace Customizations

/-- Two tables share a choice and their option sets have one name, although the tables and the
columns of each are told apart by their names. -/
theorem optionSetNames_collide_callUnits :
    ∃ document, result Sample.callUnits Sample.project = .ok document ∧
      (Sample.callUnits.tables.map (·.logicalName)).Nodup ∧
      (∀ t ∈ Sample.callUnits.tables, (t.columns.map t.names.of).Nodup) ∧
      optionSetNames document = ["call_unit_stage", "call_unit_stage"] ∧
      ¬ (optionSetNames document).Nodup := by
  have twice : ∀ names, names = ["call_unit_stage", "call_unit_stage"] →
      names = ["call_unit_stage", "call_unit_stage"] ∧ ¬ names.Nodup := by
    rintro names rfl
    decide
  exact ⟨_, rfl, by decide, by decide, twice _ (by decide)⟩

end Customizations

end SpecBundle
