import Mathlib.Data.List.Induction
import Mathlib.Data.List.Nodup
import Mathlib.Data.List.Perm.Basic
import SpecBundle.Proofs.Entity.Attributes
import SpecBundle.SavedQuery.Condition

/-!
# Labels of options

The filter of a view may name an option of a choice column by its label. Labels are looked up in an
index of all tables, and the options are written in the option set of the column's attribute: two
ways through the columns, each of which finds global choices and effective names by itself. Where
tables and columns are told apart by their names, the index has the options of a column and no
others (`ChoiceIndex.valueOf?_ofTables`), in whatever order the tables are added. So it knows
exactly what is written in the option set, and filters are compiled to values that are written there
(`ChoiceIndex.knows_written_options`).
-/

namespace SpecBundle

open Xml (Element select_cons selectFrom selectFrom_map_nil selectFrom_leaves_of_not_mem)

/-! ## The last option of a label -/

/-- The option is the last one of the given label. -/
def ChoiceOption.IsLast (o : ChoiceOption) (options : List ChoiceOption) (label : String) : Prop :=
  ∃ before after, options = before ++ o :: after ∧ o.label = label ∧ ∀ x ∈ after, x.label ≠ label

/-- The last option of a label is one of the options. -/
theorem ChoiceOption.IsLast.mem {o : ChoiceOption} {options : List ChoiceOption} {label : String}
    (h : o.IsLast options label) : o ∈ options := by
  obtain ⟨before, after, rfl, -, -⟩ := h
  exact List.mem_append_right before List.mem_cons_self

/-- The value of a label is that of the last option so labelled. -/
theorem valueOfLabel?_eq_some_iff {options : List ChoiceOption} {label : String} {value : Int} :
    valueOfLabel? options label = some value ↔
      ∃ o : ChoiceOption, o.IsLast options label ∧ o.value = value := by
  have last (o : ChoiceOption) :
      options.reverse.find? (·.label == label) = some o ↔ o.IsLast options label := by
    rw [List.find?_eq_some_iff_append]
    constructor
    · rintro ⟨own, as, bs, split, others⟩
      refine ⟨bs.reverse, as.reverse, ?_, eq_of_beq own, fun x hx => ?_⟩
      · rw [← List.reverse_reverse options, split]
        simp
      · simpa using others x (List.mem_reverse.1 hx)
    · rintro ⟨before, after, rfl, rfl, others⟩
      refine ⟨beq_self_eq_true _, after.reverse, before.reverse, by simp, fun x hx => ?_⟩
      simpa using others x (List.mem_reverse.1 hx)
  simp only [valueOfLabel?, Option.map_eq_some_iff, last]

/-- A label has no value where no option is so labelled. -/
theorem valueOfLabel?_eq_none_iff {options : List ChoiceOption} {label : String} :
    valueOfLabel? options label = none ↔ ∀ o ∈ options, o.label ≠ label := by
  simp [valueOfLabel?]

/-! ## The options that are written -/

/-- Whether a column is a choice, be it of its own options or of a global choice's. -/
def Column.isChoice (c : Column) : Bool :=
  match c.kind with
  | .globalChoice _ => true
  | .choice _ => true
  | _ => false

namespace Attribute

/-- Where the options of an attribute stand in its element. -/
def optionPath : List String :=
  ["optionset", "options", "option"]

/-- The values and labels of the options in the element of an attribute. -/
def writtenOptions (e : Element) : List (Option String × List String) :=
  (e.select optionPath).map fun option =>
    (option.attribute? "value", option.values ["labels", "label"] "description")

/-- The options in the element of a set. -/
theorem selectFrom_optionSet (s : OptionSet) (version language : String) :
    selectFrom "options" ["option"] (s.toXml version language).children =
      s.options.map (OptionSet.optionXml language) := by
  have header : selectFrom "options" ["option"] (s.header version) = [] := by
    unfold OptionSet.header
    cases s.kind <;> exact selectFrom_leaves_of_not_mem _ (by simp)
  have description : selectFrom "options" ["option"]
      (s.description.map (Xml.descriptions · language)).toList = [] := by
    cases s.description <;> rfl
  have inner := selectFrom_map_nil "option" (OptionSet.optionXml language) (fun _ => rfl) s.options
  simp [OptionSet.toXml, select_cons, header, description, inner]

/-- The options in the element of an attribute are those of its set. -/
theorem select_options {a : Attribute} {s : OptionSet} (plain : a.typeProperties = [])
    (has : a.optionSet = some s) (version language : String) :
    (a.toXml version language).select optionPath =
      s.options.map (OptionSet.optionXml language) := by
  have untagged : "optionset" ∉ a.typeProperties.map (·.1) := by
    rw [plain]
    exact List.not_mem_nil
  rw [optionPath, select_optionSet untagged, has, Option.map_some, Option.toList_some,
    List.flatMap_singleton, select_cons, selectFrom_optionSet]

/-- An attribute is written with the options of its set. -/
theorem writtenOptions_toXml {a : Attribute} {s : OptionSet} (plain : a.typeProperties = [])
    (has : a.optionSet = some s) (version language : String) :
    writtenOptions (a.toXml version language) =
      s.options.map fun o => (some (Decimal.ofInt o.value), [o.label]) := by
  rw [writtenOptions, select_options plain has, List.map_map]
  rfl

/-- A choice column becomes an attribute with the column's options, of which there are none if its
global choice is not defined. -/
theorem exists_optionSet (choices : List GlobalChoice) (namePrefix : String) (names : ColumnNames)
    (isPrimary : Bool) {c : Column} (h : c.isChoice = true) :
    ∃ a s, ofColumn? choices namePrefix names isPrimary c = some a ∧ a.typeProperties = [] ∧
      a.optionSet = some s ∧ s.options = (c.options? choices).getD [] := by
  obtain ⟨schemaName, displayName, description, required, audit, phi, kind⟩ := c
  cases kind with
  | globalChoice name =>
    refine ⟨_, _, rfl, rfl, rfl, ?_⟩
    simp [Column.options?]
  | choice options => exact ⟨_, _, rfl, rfl, rfl, rfl⟩
  | _ => cases h

end Attribute

/-! ## The options that are looked up -/

namespace Table

variable {t : Table} (choices : List GlobalChoice)

/-- The choice columns go by the effective names of the columns that have options. -/
theorem map_fst_choiceColumns :
    (t.choiceColumns choices).map (·.1) =
      (t.columns.filter fun c => (c.options? choices).isSome).map t.names.of := by
  have entry (c : Column) :
      ((c.options? choices).map fun options => (t.names.of c, options)).isSome =
        (c.options? choices).isSome :=
    Option.isSome_map
  refine map_eq_map_of_forall₂ ((forall₂_filterMap_filter entry t.columns).imp fun b c own => ?_)
  obtain ⟨options, -, rfl⟩ := Option.map_eq_some_iff.1 own
  rfl

/-- Where the effective names of a table are distinct, the name of a column leads to the column's
own options. -/
theorem lookup_choiceColumns (distinct : (t.columns.map t.names.of).Nodup) {c : Column}
    (hc : c ∈ t.columns) :
    (t.choiceColumns choices).reverse.lookup (t.names.of c) = c.options? choices := by
  have entry {name : String} {options : List ChoiceOption} :
      (name, options) ∈ t.choiceColumns choices ↔
        ∃ d ∈ t.columns, d.options? choices = some options ∧ t.names.of d = name := by
    simp [choiceColumns]
  cases own : c.options? choices with
  | some options =>
    refine lookup_reverse_of_mem ?_ (entry.2 ⟨c, hc, own, rfl⟩)
    rw [map_fst_choiceColumns]
    exact distinct.sublist (List.filter_sublist.map _)
  | none =>
    rw [List.lookup_eq_none_iff]
    rintro ⟨name, options⟩ among
    obtain ⟨d, hd, has, rfl⟩ := entry.1 (List.mem_reverse.1 among)
    refine bne_iff_ne.2 fun same => ?_
    have equal : c = d := List.inj_on_of_nodup_map distinct hc hd same
    rw [equal, has] at own
    cases own

end Table

namespace ChoiceIndex

variable {choices : List GlobalChoice}

/-- The index has no values for an entity that was not added. -/
theorem valueOf?_ofTables_of_not_mem {tables : List Table} {entity : String}
    (h : entity ∉ tables.map (·.logicalName)) (column label : String) :
    (ofTables choices tables).valueOf? entity column label = none := by
  induction tables using List.reverseRecOn with
  | nil => rfl
  | append_singleton tables t ih =>
    rw [List.map_append, List.mem_append, not_or] at h
    have other : entity ≠ t.logicalName := fun same => h.2 (List.mem_singleton.2 same)
    rw [ofTables, List.foldl_concat, valueOf?_add, if_neg fun own => other own.1]
    exact ih h.1

/-- The index has the choice columns of each table that was added, if their names are apart. -/
theorem valueOf?_ofTables_of_mem {tables : List Table}
    (apart : (tables.map (·.logicalName)).Nodup) {t : Table} (ht : t ∈ tables)
    (column label : String) :
    (ofTables choices tables).valueOf? t.logicalName column label =
      ((t.choiceColumns choices).reverse.lookup column).bind (valueOfLabel? · label) := by
  induction tables using List.reverseRecOn with
  | nil => cases ht
  | append_singleton tables u ih =>
    rw [List.map_append, List.map_singleton, List.nodup_append] at apart
    obtain ⟨before, -, behind⟩ := apart
    rw [ofTables, List.foldl_concat, valueOf?_add]
    rcases List.mem_append.1 ht with earlier | last
    · -- The table that is added behind has another name.
      have other : t.logicalName ≠ u.logicalName :=
        behind t.logicalName (List.mem_map_of_mem earlier) u.logicalName (List.mem_singleton_self _)
      rw [if_neg fun own => other own.1]
      exact ih before earlier
    · obtain rfl := List.mem_singleton.1 last
      by_cases some : t.choiceColumns choices = []
      · have unknown : t.logicalName ∉ tables.map (·.logicalName) := fun known =>
          behind t.logicalName known t.logicalName (List.mem_singleton_self _) rfl
        rw [if_neg fun own => own.2 some, some]
        exact valueOf?_ofTables_of_not_mem unknown column label
      · rw [if_pos ⟨rfl, some⟩]

/-- In whatever order tables are added, the index has the options of their columns. -/
theorem valueOf?_ofTables {tables order : List Table}
    (apart : (tables.map (·.logicalName)).Nodup) (added : order.Perm tables) {t : Table}
    (ht : t ∈ tables) (distinct : (t.columns.map t.names.of).Nodup) {c : Column}
    (hc : c ∈ t.columns) (label : String) :
    (ofTables choices order).valueOf? t.logicalName (t.names.of c) label =
      valueOfLabel? ((c.options? choices).getD []) label := by
  have still : (order.map (·.logicalName)).Nodup := (added.map _).nodup_iff.2 apart
  rw [valueOf?_ofTables_of_mem still (added.mem_iff.2 ht), Table.lookup_choiceColumns choices
    distinct hc]
  cases c.options? choices <;> rfl

end ChoiceIndex

/-! ## The operands that are compiled -/

/-- What is written for an operand on a column with the given options: a text becomes the value of
the last option that it labels, or stays if it labels none. -/
def Operand.WrittenFrom (options : List ChoiceOption) (operand : Operand) (written : String) :
    Prop :=
  ∀ label, operand = .text label →
    (∃ o ∈ options, o.IsLast options label ∧ written = Decimal.ofInt o.value) ∨
      (∀ o ∈ options, o.label ≠ label) ∧ written = label

/-- What is written for the operands of a condition on a column with the given options. -/
def Condition.WrittenFrom (options : List ChoiceOption) (c : Condition) : Payload → Prop
  | .none => True
  | .single written => ∃ operand, c.value = some operand ∧ operand.WrittenFrom options written
  | .list written => List.Forall₂ (Operand.WrittenFrom options) c.values written

/-- An index knows the options of a column of a table: it has the values of their labels and of no
others, and compiles conditions on the column to these. -/
structure ChoiceIndex.Knows (index : ChoiceIndex) (names : ColumnNames) (column : String)
    (options : List ChoiceOption) : Prop where
  /-- The value of a label is that of the last option so labelled. -/
  some_iff : ∀ label value, index.valueOf? names.entity column label = some value ↔
    ∃ o : ChoiceOption, o.IsLast options label ∧ o.value = value
  /-- Labels that no option has are unknown. -/
  none_iff : ∀ label, index.valueOf? names.entity column label = none ↔
    ∀ o ∈ options, o.label ≠ label
  /-- The texts of conditions on the column are compiled to the values of options or stay. -/
  conditions : ∀ c q, Condition.outcome index names c = .ok q → q.column = column →
    c.WrittenFrom options q.payload

section

variable {index : ChoiceIndex} {entity column : String} {options : List ChoiceOption}
  (known : ∀ label, index.valueOf? entity column label = valueOfLabel? options label)

include known

/-- An operand is written from the options that are looked up. -/
theorem Operand.writtenFrom_queryText (operand : Operand) :
    operand.WrittenFrom options (operand.queryText index entity column) := by
  rintro label rfl
  rw [queryText, known label]
  cases found : valueOfLabel? options label with
  | none => exact .inr ⟨valueOfLabel?_eq_none_iff.1 found, rfl⟩
  | some value =>
    obtain ⟨o, last, rfl⟩ := valueOfLabel?_eq_some_iff.1 found
    have among : o ∈ options := last.mem
    exact .inl ⟨o, among, last, rfl⟩

/-- A condition is compiled from the options that are looked up. -/
theorem Condition.writtenFrom_of_compile? {c : Condition} {compiled : String × Payload}
    (h : c.compile? index entity column = some compiled) :
    c.WrittenFrom options compiled.2 := by
  -- A date window is no text.
  have window {operand : Operand} (own : c.value = some operand) (noText : ∀ label,
      operand ≠ .text label) (offset : String) (isZero : Bool) :
      c.WrittenFrom options (relativeWindow c.operator offset isZero).2 := by
    have single : c.WrittenFrom options (.single offset) :=
      ⟨operand, own, fun label text => absurd text (noText label)⟩
    unfold relativeWindow
    split
    · split
      · trivial
      · exact single
    · exact single
  unfold compile? at h
  split at h
  · -- The operator is applied to nothing.
    cases h
    trivial
  · split at h
    · -- A relative date.
      rename_i date own
      cases h
      exact window own (by simp) _ _
    · split at h
      · -- The operator is applied to a list.
        cases h
        exact List.forall₂_map_right_iff.2
          (List.forall₂_same.2 fun operand _ => operand.writtenFrom_queryText known)
      · split at h
        · cases h
        · -- A number, which may count the days of a window.
          rename_i n own
          split at h
          · cases h
            exact window own (by simp) _ _
          · cases h
            exact ⟨_, own, by rintro label ⟨⟩⟩
        · rename_i operand _ own
          cases h
          exact ⟨operand, own, operand.writtenFrom_queryText known⟩

end

namespace ChoiceIndex

/-- An index that looks up given options knows them. -/
theorem Knows.of_valueOf? {index : ChoiceIndex} {names : ColumnNames} {column : String}
    {options : List ChoiceOption}
    (known : ∀ label, index.valueOf? names.entity column label = valueOfLabel? options label) :
    index.Knows names column options where
  some_iff label value := by rw [known label, valueOfLabel?_eq_some_iff]
  none_iff label := by rw [known label, valueOfLabel?_eq_none_iff]
  conditions c q made own := by
    unfold Condition.outcome at made
    cases resolved : names.resolveValid c.column with
    | error e =>
      rw [resolved] at made
      cases made
    | ok name =>
      cases compiles : c.compile? index names.entity name with
      | none =>
        simp only [resolved, compiles] at made
        cases made
      | some compiled =>
        simp only [resolved, compiles] at made
        cases made
        cases own
        exact Condition.writtenFrom_of_compile? known compiles

/-- In whatever order tables are added, the index knows the options that are written for their
choice columns, and no others. -/
theorem knows_written_options {choices : List GlobalChoice} {tables order : List Table}
    (apart : (tables.map (·.logicalName)).Nodup)
    (distinct : ∀ t ∈ tables, (t.columns.map t.names.of).Nodup) (added : order.Perm tables) :
    ∀ t ∈ tables, ∀ c ∈ t.columns, c.isChoice = true → ∀ namePrefix isPrimary version language,
      ∃ a s, Attribute.ofColumn? choices namePrefix t.names isPrimary c = some a ∧
        a.optionSet = some s ∧
        Attribute.writtenOptions (a.toXml version language) =
          s.options.map (fun o => (some (Decimal.ofInt o.value), [o.label])) ∧
        (ofTables choices order).Knows t.names (t.names.of c) s.options := by
  intro t ht c hc isChoice namePrefix isPrimary version language
  obtain ⟨a, s, made, plain, has, own⟩ :=
    Attribute.exists_optionSet choices namePrefix t.names isPrimary isChoice
  refine ⟨a, s, made, has, Attribute.writtenOptions_toXml plain has version language,
    .of_valueOf? fun label => ?_⟩
  rw [own]
  exact valueOf?_ofTables apart added ht (distinct t ht) hc label

end ChoiceIndex

namespace Sample

/-- Tables with a renamed choice of which two options share a label, a choice that is not defined
and one of which two are defined. -/
def stagedTables : List Table :=
  [table "Agency" "Region"
      [column "Region" (.text none),
        column "AgencyId" (.choice [⟨1, "Open"⟩, ⟨2, "Closed"⟩, ⟨3, "Open"⟩]),
        column "Stage" (.globalChoice "phase")],
    table "Call" "Title" [column "Title" (.text none), column "Stage" (.globalChoice "stage")]]

end Sample

namespace ChoiceIndex

/-- Tables are added from the last to the first. The first of them has a renamed choice of which
two options share a label and a choice that is not defined, and the last has one of which two are
defined. -/
theorem knows_written_options_stagedTables :
    (ofTables Sample.stageChoices Sample.stagedTables.reverse).valueOf? "agency" "agency_name"
        "Open" = some 3 ∧
      (ofTables Sample.stageChoices Sample.stagedTables.reverse).valueOf? "agency" "stage"
        "Open" = none ∧
      (ofTables Sample.stageChoices Sample.stagedTables.reverse).valueOf? "call" "stage"
        "Open" = some 5 ∧
      ∃ a s, Attribute.ofColumn? Sample.stageChoices "seo" Sample.stagedTables[0].names false
            Sample.stagedTables[0].columns[1] = some a ∧
          a.optionSet = some s ∧
          Attribute.writtenOptions (a.toXml "1.0.0.0" "1033") =
            s.options.map (fun o => (some (Decimal.ofInt o.value), [o.label])) ∧
          (ofTables Sample.stageChoices Sample.stagedTables.reverse).Knows
            Sample.stagedTables[0].names "agency_name" s.options := by
  refine ⟨by decide, by decide, by decide, ?_⟩
  have renamed : Sample.stagedTables[0].names.of Sample.stagedTables[0].columns[1] =
      "agency_name" := by
    decide
  rw [← renamed]
  exact knows_written_options (by decide) (by decide) (List.reverse_perm _)
    Sample.stagedTables[0] (List.getElem_mem _) Sample.stagedTables[0].columns[1]
    (List.getElem_mem _) rfl "seo" false "1.0.0.0" "1033"

end ChoiceIndex

end SpecBundle
