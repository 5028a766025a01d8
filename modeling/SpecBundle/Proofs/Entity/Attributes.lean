import Mathlib.Data.List.Perm.Basic
import SpecBundle.Entity
import SpecBundle.Proofs.Lists
import SpecBundle.Proofs.Names.Effective
import SpecBundle.Proofs.Samples
import SpecBundle.Proofs.Xml.Path

/-!
# The attributes of an entity

An entity has the attributes of its table's generated columns, the primary column first
(`Table.map_physicalName_attributes`). Two results say what that makes of their names. The names
are distinct exactly if no generated column has the name that another one is given in place of the
primary key's (`Table.nodup_names_iff`). And an entity has one attribute that is shown as its
primary name, which is the first one and bears the name that the table's names give, exactly if the
primary column is one that is generated (`Table.primary_attribute`).
-/

namespace SpecBundle

open Xml (Element select_cons selectFrom selectFrom_leaves_of_not_mem)

/-! ## Columns that become attributes -/

/-- Whether a column is generated. Calculated columns, columns of an unknown kind and lookups to
built-in principals never are. -/
def Column.isGenerated (c : Column) : Bool :=
  match c.kind with
  | .calculated => false
  | .unknown _ => false
  | .lookup target => !isBuiltinPrincipal target
  | _ => true

namespace Attribute

/-- A generated column becomes an attribute, and no other does. -/
theorem isSome_ofColumn? (choices : List GlobalChoice) (namePrefix : String) (names : ColumnNames)
    (isPrimary : Bool) (c : Column) :
    (ofColumn? choices namePrefix names isPrimary c).isSome = c.isGenerated := by
  rw [ofColumn?, Option.isSome_map]
  unfold typeOf? Column.isGenerated
  cases c.kind with
  | lookup target => cases h : isBuiltinPrincipal target <;> simp [h]
  | _ => rfl

section

variable {choices : List GlobalChoice} {namePrefix : String} {names : ColumnNames}
  {isPrimary : Bool} {c : Column} {a : Attribute}

/-- An attribute has the effective name of its column. -/
theorem physicalName_of_ofColumn? (h : ofColumn? choices namePrefix names isPrimary c = some a) :
    a.physicalName = names.of c := by
  obtain ⟨type, -, rfl⟩ := Option.map_eq_some_iff.1 h
  rfl

/-- An attribute is a primary name if its column was taken for the primary one. -/
theorem isPrimaryName_of_ofColumn? (h : ofColumn? choices namePrefix names isPrimary c = some a) :
    a.isPrimaryName = isPrimary := by
  obtain ⟨type, -, rfl⟩ := Option.map_eq_some_iff.1 h
  rfl

/-- Where it is the columns of a kind that become attributes that are kept, these are named like
the columns. -/
theorem map_physicalName_filter {keep : Attribute → Bool} {becomes : Column → Bool}
    (h : ∀ c, ((ofColumn? choices namePrefix names isPrimary c).filter keep).isSome = becomes c)
    (columns : List Column) :
    ((columns.filterMap (ofColumn? choices namePrefix names isPrimary)).filter keep).map
        (·.physicalName) = (columns.filter becomes).map names.of := by
  rw [List.filter_filterMap]
  refine map_eq_map_of_forall₂ ((forall₂_filterMap_filter h columns).imp fun a c made => ?_)
  exact physicalName_of_ofColumn? (Option.filter_eq_some_iff.1 made).1

end

/-- The tags of the properties that go with a type. -/
def propertyTags : List String :=
  ["AutoNumberFormat", "Format", "MaxLength", "MinValue", "MaxValue", "AppDefaultValue",
    "Precision", "IsBaseCurrency", "CanChangeDateTimeBehavior", "Behavior", "LookupStyle"]

/-- The properties of a type have tags of their own. -/
theorem mem_propertyTags_of_typeOf? {kind : ColumnKind}
    {type : String × List (String × String)} (h : typeOf? kind = some type) :
    ∀ p ∈ type.2, p.1 ∈ propertyTags := by
  cases kind <;> simp only [typeOf?, reduceCtorEq, Option.some.injEq, Option.ite_none_left_eq_some]
    at h
  case lookup target =>
    obtain ⟨-, rfl⟩ := h
    simp [propertyTags]
  case wholeNumber default =>
    subst h
    cases default <;> simp [propertyTags]
  all_goals
    subst h
    simp [propertyTags, textProperties, decimalProperties, dateProperties]

/-- The attribute of a column has no property of a tag that no type has. -/
theorem not_mem_tags_of_ofColumn? {choices : List GlobalChoice} {namePrefix : String}
    {names : ColumnNames} {isPrimary : Bool} {c : Column} {a : Attribute} {tag : String}
    (h : ofColumn? choices namePrefix names isPrimary c = some a) (other : tag ∉ propertyTags) :
    tag ∉ a.typeProperties.map (·.1) := by
  rw [ofColumn?, Option.map_eq_some_iff] at h
  obtain ⟨type, known, rfl⟩ := h
  intro among
  obtain ⟨property, hp, rfl⟩ := List.mem_map.1 among
  exact other (mem_propertyTags_of_typeOf? known property hp)

/-- The way to the option set of an attribute leads there unless a property has its tag. -/
theorem select_optionSet {a : Attribute} (plain : "optionset" ∉ a.typeProperties.map (·.1))
    (path : List String) (version language : String) :
    (a.toXml version language).select ("optionset" :: path) =
      (a.optionSet.map (·.toXml version language)).toList.flatMap (·.select path) := by
  have common : selectFrom "optionset" path (Xml.leaves commonProperties) = [] :=
    selectFrom_leaves_of_not_mem _ (by decide)
  have properties : selectFrom "optionset" path (Xml.leaves a.typeProperties) = [] :=
    selectFrom_leaves_of_not_mem _ plain
  have targets : selectFrom "optionset" path
      (if a.typeName = "lookup" then [Element.empty "LookupTypes" []] else []) = [] := by
    split <;> rfl
  have description : selectFrom "optionset" path
      (a.description.map (Xml.descriptions · language)).toList = [] := by
    cases a.description <;> rfl
  have own : selectFrom "optionset" path
      (a.optionSet.map (·.toXml version language)).toList =
        (a.optionSet.map (·.toXml version language)).toList.flatMap (·.select path) := by
    cases a.optionSet <;> rfl
  simp [Attribute.toXml, select_cons, common, properties, targets, description, own]

/-- Whether an attribute is written with the flag of a primary name. -/
def showsPrimaryName (a : Attribute) : Bool :=
  "PrimaryName".toList.isPrefixOf a.displayMask.toList

/-- The flag is written for a primary name only. -/
theorem showsPrimaryName_eq (a : Attribute) : a.showsPrimaryName = a.isPrimaryName := by
  unfold showsPrimaryName displayMask
  cases a.isPrimaryName <;> decide

end Attribute

/-! ## The entity of a table -/

namespace Table

/-- The primary column is one of the table's columns. -/
theorem mem_columns_of_primary? {t : Table} {primary : Column} (h : t.primary? = some primary) :
    primary ∈ t.columns :=
  List.mem_of_find?_eq_some h

/-- The effective name of the primary column is the one that the table's names give. -/
theorem names_primary {t : Table} {primary : Column} (h : t.primary? = some primary) :
    t.names.primary = some (t.names.of primary) := by
  rw [names_of (mem_columns_of_primary? h), names, h, Option.map_some]

section

variable {t : Table} {choices : List GlobalChoice} {namePrefix : String} {forms : List Form}
  {e : Entity}

/-- An entity is made from the primary column and the others. -/
theorem entity_eq_ok (h : t.entity choices namePrefix forms = .ok e) :
    ∃ primary, t.primary? = some primary ∧
      e = { logicalName := t.logicalName
            primaryColumn := t.names.of primary
            attributes := (Attribute.ofColumn? choices namePrefix t.names true primary).toList ++
              t.otherColumns.filterMap (Attribute.ofColumn? choices namePrefix t.names false)
            isQuickCreateEnabled := forms.any (·.kind == .quickCreate) } := by
  unfold entity at h
  cases hp : t.primary? with
  | none => rw [hp] at h; cases h
  | some primary =>
    rw [hp] at h
    exact ⟨primary, rfl, (Except.ok.inj h).symm⟩

/-- An entity is called like its table. -/
theorem logicalName_of_entity (h : t.entity choices namePrefix forms = .ok e) :
    e.logicalName = t.logicalName := by
  obtain ⟨primary, -, rfl⟩ := entity_eq_ok h
  rfl

/-- Every attribute of an entity is that of a column. -/
theorem exists_ofColumn?_of_mem_attributes (h : t.entity choices namePrefix forms = .ok e)
    {a : Attribute} (ha : a ∈ e.attributes) :
    ∃ isPrimary c, Attribute.ofColumn? choices namePrefix t.names isPrimary c = some a := by
  obtain ⟨primary, -, rfl⟩ := entity_eq_ok h
  rcases List.mem_append.1 ha with first | other
  · exact ⟨true, primary, Option.mem_toList.1 first⟩
  · obtain ⟨c, -, hc⟩ := List.mem_filterMap.1 other
    exact ⟨false, c, hc⟩

/-- Where it is the columns of a kind that become attributes that are kept, these are named like
the columns, the primary one first. -/
theorem map_physicalName_filter_attributes {keep : Attribute → Bool} {becomes : Column → Bool}
    (h : ∀ isPrimary c, ((Attribute.ofColumn? choices namePrefix t.names isPrimary c).filter
      keep).isSome = becomes c)
    (made : t.entity choices namePrefix forms = .ok e) :
    ∃ primary, t.primary? = some primary ∧
      (e.attributes.filter keep).map (·.physicalName) =
        ((primary :: t.otherColumns).filter becomes).map t.names.of := by
  obtain ⟨primary, hp, rfl⟩ := entity_eq_ok made
  have first : (Attribute.ofColumn? choices namePrefix t.names true primary).toList =
      [primary].filterMap (Attribute.ofColumn? choices namePrefix t.names true) := by
    cases h : Attribute.ofColumn? choices namePrefix t.names true primary <;> simp [h]
  refine ⟨primary, hp, ?_⟩
  rw [first, List.filter_append, List.map_append, Attribute.map_physicalName_filter (h true),
    Attribute.map_physicalName_filter (h false), ← List.map_append, ← List.filter_append,
    List.singleton_append]

/-- The attributes are named like the generated columns, the primary one first. -/
theorem map_physicalName_attributes (h : t.entity choices namePrefix forms = .ok e) :
    ∃ primary, t.primary? = some primary ∧
      e.attributes.map (·.physicalName) =
        ((primary :: t.otherColumns).filter (·.isGenerated)).map t.names.of := by
  have generated (isPrimary : Bool) (c : Column) :
      ((Attribute.ofColumn? choices namePrefix t.names isPrimary c).filter fun _ => true).isSome =
        c.isGenerated := by
    rw [← Attribute.isSome_ofColumn? choices namePrefix t.names isPrimary c]
    cases Attribute.ofColumn? choices namePrefix t.names isPrimary c <;> rfl
  obtain ⟨primary, hp, named⟩ := map_physicalName_filter_attributes generated h
  rw [List.filter_true] at named
  exact ⟨primary, hp, named⟩

/-- The attributes give what the columns do, the primary one first, provided that it does not matter
for that which column is the primary one. -/
theorem flatMap_attributes {β : Type} {f : Attribute → List β} {g : Column → List β}
    (same : ∀ isPrimary c,
      (Attribute.ofColumn? choices namePrefix t.names isPrimary c).toList.flatMap f = g c)
    (made : t.entity choices namePrefix forms = .ok e) :
    ∃ primary, t.primary? = some primary ∧
      e.attributes.flatMap f = (primary :: t.otherColumns).flatMap g := by
  obtain ⟨primary, hp, rfl⟩ := entity_eq_ok made
  have others : (t.otherColumns.filterMap
      (Attribute.ofColumn? choices namePrefix t.names false)).flatMap f =
        t.otherColumns.flatMap g := by
    rw [List.filterMap_eq_flatMap_toList, List.flatMap_assoc]
    exact List.flatMap_congr fun c _ => same false c
  refine ⟨primary, hp, ?_⟩
  rw [List.flatMap_append, same true primary, others, ← List.flatMap_cons]

/-! ## When the names are distinct -/

/-- Distinct logical names leave one column for the primary one. -/
theorem filter_primary (distinct : (t.columns.map (·.logicalName)).Nodup) {primary : Column}
    (hp : t.primary? = some primary) :
    t.columns.filter (·.schemaName == t.primaryColumn) = [primary] := by
  have schema : (t.columns.map (·.schemaName)).Nodup := by
    refine List.Nodup.of_map SpecBundle.logicalName ?_
    rw [List.map_map]
    exact distinct
  have named : primary.schemaName = t.primaryColumn := by
    simpa using List.find?_some hp
  rw [← named]
  exact filter_eq_singleton schema (mem_columns_of_primary? hp)

/-- Where one column is the primary one, it and the others are all columns of the table. -/
theorem cons_otherColumns_perm {primary : Column}
    (only : t.columns.filter (·.schemaName == t.primaryColumn) = [primary]) :
    List.Perm (primary :: t.otherColumns) t.columns := by
  have split := List.filter_append_perm (·.schemaName == t.primaryColumn) t.columns
  rw [only] at split
  exact split

/-- Distinct logical names leave the primary column and the others as all columns of the table. -/
theorem primary_cons_otherColumns_perm (distinct : (t.columns.map (·.logicalName)).Nodup)
    {primary : Column} (hp : t.primary? = some primary) :
    List.Perm (primary :: t.otherColumns) t.columns :=
  cons_otherColumns_perm (filter_primary distinct hp)

/-- Columns that are told apart by their effective names are told apart by their logical names. -/
theorem nodup_logicalName (distinct : (t.columns.map t.names.of).Nodup) :
    (t.columns.map (·.logicalName)).Nodup := by
  have effective : t.columns.map t.names.of =
      (t.columns.map (·.logicalName)).map (effectiveName · t.logicalName) := by
    rw [List.map_map]
    exact List.map_congr_left fun c hc => names_of hc
  rw [effective] at distinct
  exact distinct.of_map _

/-- Where logical names are distinct, the attributes give what the columns of the table do, provided
that it does not matter for that which column is the primary one. -/
theorem flatMap_attributes_perm {β : Type} {f : Attribute → List β} {g : Column → List β}
    (same : ∀ isPrimary c,
      (Attribute.ofColumn? choices namePrefix t.names isPrimary c).toList.flatMap f = g c)
    (distinct : (t.columns.map (·.logicalName)).Nodup)
    (made : t.entity choices namePrefix forms = .ok e) :
    (e.attributes.flatMap f).Perm (t.columns.flatMap g) := by
  obtain ⟨primary, hp, parts⟩ := flatMap_attributes same made
  rw [parts]
  exact (primary_cons_otherColumns_perm distinct hp).flatMap_right g

/-- Where the logical names of a table are distinct, its effective names are distinct exactly if
no column has the name that another one is given in place of the primary key's; no effective name
is that of the primary key; and the attributes of its entity have distinct names exactly if no two
generated columns are such a pair. -/
theorem nodup_names_iff (t : Table) (distinct : (t.columns.map (·.logicalName)).Nodup) :
    ((t.columns.map t.names.of).Nodup ↔ ¬ SubstituteTaken t.logicalName t.columns) ∧
      (∀ c ∈ t.columns, t.names.of c ≠ t.names.primaryKey) ∧
      ∀ choices namePrefix forms e, t.entity choices namePrefix forms = .ok e →
        ((e.attributes.map (·.physicalName)).Nodup ↔
          ¬ SubstituteTaken t.logicalName (t.columns.filter (·.isGenerated))) := by
  -- Of columns of the table, the names are their effective names.
  have effective (columns : List Column) (h : columns ⊆ t.columns) :
      columns.map t.names.of = columns.map (·.effectiveName t.logicalName) :=
    List.map_congr_left fun c hc => names_of (h hc)
  refine ⟨?_, fun c hc => ?_, fun choices namePrefix forms e he => ?_⟩
  · rw [effective t.columns (List.Subset.refl _)]
    exact nodup_map_effectiveName_iff t.logicalName distinct
  · rw [names_of hc]
    exact effectiveName_ne_primaryKeyName c.logicalName t.logicalName
  · obtain ⟨primary, hp, physical⟩ := map_physicalName_attributes he
    have perm := ((primary_cons_otherColumns_perm distinct hp).filter (·.isGenerated)).map
      t.names.of
    rw [physical, perm.nodup_iff, effective _ (List.filter_subset_self _)]
    exact nodup_map_effectiveName_iff t.logicalName
      (distinct.sublist (List.filter_sublist.map _))

end

end Table

namespace Sample

/-- A table whose primary column is called like its primary key. -/
def keyNamed : Table :=
  table "Agency" "AgencyId" [column "AgencyId" (.text none), column "Region" (.text none)]

/-- A table with a column that is called like its primary key and one that is called like the
substitute for that. -/
def substituteNamed : Table :=
  table "Agency" "Region"
    [column "Region" (.text none), column "AgencyId" (.text none),
      column "Agency_Name" (.text none)]

end Sample

namespace Table

/-- A renamed column is apart from the others where its new name is free. -/
theorem nodup_names_keyNamed :
    (Sample.keyNamed.columns.map (·.logicalName)).Nodup ∧
      (Sample.keyNamed.columns.map Sample.keyNamed.names.of).Nodup ∧
      ∀ e, Sample.keyNamed.entity [] "seo" [] = .ok e →
        (e.attributes.map (·.physicalName)).Nodup :=
  have apart := nodup_names_iff Sample.keyNamed (by decide)
  ⟨by decide, apart.1.2 (by decide), fun e he => (apart.2.2 [] "seo" [] e he).2 (by decide)⟩

/-- A renamed column and one that has its new name all along become attributes of one name. -/
theorem names_collide_substituteNamed :
    (Sample.substituteNamed.columns.map (·.logicalName)).Nodup ∧
      ¬ (Sample.substituteNamed.columns.map Sample.substituteNamed.names.of).Nodup ∧
      ∃ e, Sample.substituteNamed.entity [] "seo" [] = .ok e ∧
        ¬ (e.attributes.map (·.physicalName)).Nodup :=
  ⟨by decide, by decide, _, rfl, by decide⟩

/-! ## The attribute shown as primary name -/

/-- The primary name of an entity is that of its table's names. If the primary column is generated,
one attribute is shown as the primary name, it is the first one, and it has that name; if it is
not, none is. -/
theorem primary_attribute {t : Table} {choices : List GlobalChoice} {namePrefix : String}
    {forms : List Form} {e : Entity} (h : t.entity choices namePrefix forms = .ok e) :
    t.names.primary = some e.primaryColumn ∧
      ∃ primary, t.primary? = some primary ∧
        (primary.isGenerated = true → ∃ a, e.attributes.head? = some a ∧
          e.attributes.filter (·.showsPrimaryName) = [a] ∧ a.physicalName = e.primaryColumn) ∧
        (primary.isGenerated = false → e.attributes.filter (·.showsPrimaryName) = []) := by
  obtain ⟨primary, hp, rfl⟩ := entity_eq_ok h
  -- No attribute of another column is shown as the primary name.
  have others : (t.otherColumns.filterMap
      (Attribute.ofColumn? choices namePrefix t.names false)).filter (·.showsPrimaryName) = [] := by
    refine List.filter_eq_nil_iff.2 fun a ha => ?_
    obtain ⟨c, -, hc⟩ := List.mem_filterMap.1 ha
    rw [Attribute.showsPrimaryName_eq, Attribute.isPrimaryName_of_ofColumn? hc]
    exact Bool.false_ne_true
  have generated := Attribute.isSome_ofColumn? choices namePrefix t.names true primary
  refine ⟨names_primary hp, primary, hp, fun hg => ?_, fun hg => ?_⟩
  · rw [hg, Option.isSome_iff_exists] at generated
    obtain ⟨a, ha⟩ := generated
    have shown : a.showsPrimaryName = true := by
      rw [Attribute.showsPrimaryName_eq, Attribute.isPrimaryName_of_ofColumn? ha]
    refine ⟨a, ?_, ?_, Attribute.physicalName_of_ofColumn? ha⟩
    · rw [ha, Option.toList_some, List.singleton_append, List.head?_cons]
    · rw [ha, Option.toList_some, List.singleton_append, List.filter_cons_of_pos shown, others]
  · rw [hg, Option.isSome_eq_false_iff, Option.isNone_iff_eq_none] at generated
    rw [generated, Option.toList_none, List.nil_append, others]

/-- A primary column that is renamed is shown under its new name. -/
theorem primary_attribute_keyNamed :
    ∃ e, Sample.keyNamed.entity [] "seo" [] = .ok e ∧
      Sample.keyNamed.names.primary = some e.primaryColumn ∧
      ∃ primary, Sample.keyNamed.primary? = some primary ∧
        (primary.isGenerated = true → ∃ a, e.attributes.head? = some a ∧
          e.attributes.filter (·.showsPrimaryName) = [a] ∧ a.physicalName = e.primaryColumn) ∧
        (primary.isGenerated = false → e.attributes.filter (·.showsPrimaryName) = []) :=
  ⟨_, rfl, primary_attribute rfl⟩

end Table

namespace Sample

/-- A table whose primary column is a lookup to a built-in principal. -/
def principalNamed : Table :=
  table "Agency" "OwnerId" [column "Region" (.text none), column "OwnerId" (.lookup "systemuser")]

end Sample

namespace Table

/-- A table has an entity without a primary name if its primary column is not generated. -/
theorem no_primary_attribute_principalNamed :
    ∃ e, Sample.principalNamed.entity [] "seo" [] = .ok e ∧ e.attributes ≠ [] ∧
      e.attributes.filter (·.showsPrimaryName) = [] :=
  ⟨_, rfl, by decide, by decide⟩

end Table

end SpecBundle
