import SpecBundle.Proofs.SavedQuery.Compile

/-!
# Conditions have the values that their operators need

An operator is applied to nothing, to one value or to a list. `Condition.CompiledTo` says all that a
condition can be compiled to, and `Condition.compiledTo_compile?` that it is compiled to that. A
condition without a payload therefore has an operator that is applied to nothing, also where a date
window became that of today. A condition whose operator needs a value and has none is left out with
a record, but for one case: a list may be empty. An operator that is applied to a list is kept with
the empty one, and nothing is recorded. `Filter.values_carried_iff` says that a filter has all the
values that its operators need exactly if none of its conditions is of that kind.
-/

namespace SpecBundle

/-! ## Operands -/

namespace Condition

/-- What the operator of a condition is applied to: a relative date if there is one, the list if the
operator takes a list, and the value otherwise. -/
def operands (c : Condition) : List Operand :=
  match c.value with
  | some (.relative date) => [.relative date]
  | value => if c.operator ∈ listOperators then c.values else value.toList

/-- The operator needs a value, and there is none. -/
def LacksValue (c : Condition) : Prop :=
  c.operator ∉ valuelessOperators ∧ c.operands = []

/-- The operator is applied to a list, and the list is empty. -/
def HasEmptyList (c : Condition) : Prop :=
  c.operator ∈ listOperators ∧ c.operands = []

instance (c : Condition) : Decidable c.LacksValue :=
  inferInstanceAs (Decidable (_ ∧ _))

instance (c : Condition) : Decidable c.HasEmptyList :=
  inferInstanceAs (Decidable (_ ∧ _))

/-- An operator that is applied to a list needs it. -/
theorem HasEmptyList.lacksValue {c : Condition} (h : c.HasEmptyList) : c.LacksValue := by
  have needed : ∀ operator ∈ listOperators, operator ∉ valuelessOperators := by decide
  exact ⟨needed c.operator h.1, h.2⟩

/-! ## What a condition is compiled to -/

/-- A window is the present day, which needs no value, or it is given by its offset. -/
theorem relativeWindow_cases (operator offset : String) (isZero : Bool) :
    relativeWindow operator offset isZero = ("today", .none) ∨
      ∃ other, relativeWindow operator offset isZero = (other, .single offset) := by
  unfold relativeWindow
  split
  · split
    · exact .inl rfl
    · exact .inr ⟨_, rfl⟩
  · exact .inr ⟨_, rfl⟩

/-- What a condition on an attribute can be compiled to. -/
inductive CompiledTo (index : ChoiceIndex) (entity column : String) (c : Condition) :
    Option (String × Payload) → Prop where
  /-- An operator that is applied to nothing is kept. -/
  | bare (valueless : c.operator ∈ valuelessOperators) :
    CompiledTo index entity column c (some (c.operator, .none))
  /-- A number of days or a relative date becomes a window. -/
  | window (valued : c.operator ∉ valuelessOperators) (has : c.operands ≠ []) (offset : String)
      (isZero : Bool) : CompiledTo index entity column c
        (some (relativeWindow c.operator offset isZero))
  /-- A list is kept with its operator, be it empty or not. -/
  | list (listed : c.operator ∈ listOperators) (own : c.operands = c.values) :
    CompiledTo index entity column c
      (some (c.operator, .list (c.values.map (·.queryText index entity column))))
  /-- An operator without the value that it needs leaves nothing. -/
  | missing (lacks : c.LacksValue) (single : c.operator ∉ listOperators) :
    CompiledTo index entity column c none
  /-- One value is kept with its operator. -/
  | single (valued : c.operator ∉ valuelessOperators) (has : c.operands ≠ []) (value : String) :
    CompiledTo index entity column c (some (c.operator, .single value))

section

variable (index : ChoiceIndex) (entity column : String) (c : Condition)

/-- A condition is compiled to what it can be compiled to. -/
theorem compiledTo_compile? :
    c.CompiledTo index entity column (c.compile? index entity column) := by
  unfold compile?
  split
  · rename_i valueless
    exact .bare valueless
  · rename_i valued
    split
    · -- A relative date comes before everything else that the author wrote.
      rename_i date own
      have has : c.operands ≠ [] := by simp [operands, own]
      exact .window valued has _ _
    · rename_i notDate
      -- Without one, the operator says which of the two fields counts.
      have fields : c.operands =
          if c.operator ∈ listOperators then c.values else c.value.toList := by
        unfold operands
        split
        · rename_i date own
          exact absurd own (notDate date)
        · rfl
      split
      · rename_i listed
        exact .list listed (by rw [fields, if_pos listed])
      · rename_i single
        rw [if_neg single] at fields
        split
        · rename_i absent
          exact .missing ⟨valued, by rw [fields, absent, Option.toList_none]⟩ single
        · rename_i n own
          have has : c.operands ≠ [] := by simp [fields, own]
          split
          · exact .window valued has _ _
          · exact .single valued has _
        · rename_i operand _ own
          have has : c.operands ≠ [] := by simp [fields, own]
          exact .single valued has _

end

namespace CompiledTo

variable {index : ChoiceIndex} {entity column : String} {c : Condition}
  {out : Option (String × Payload)}

/-- Without a payload, the operator is applied to nothing. -/
theorem mem_valuelessOperators (h : c.CompiledTo index entity column out)
    {compiled : String × Payload} (made : out = some compiled) (bare : compiled.2 = .none) :
    compiled.1 ∈ valuelessOperators := by
  cases h with
  | bare valueless =>
    obtain rfl := Option.some.inj made
    exact valueless
  | window valued has offset isZero =>
    obtain rfl := Option.some.inj made
    rcases relativeWindow_cases c.operator offset isZero with today | ⟨other, given⟩
    · rw [today]
      decide
    · rw [given] at bare
      cases bare
  | list listed own =>
    obtain rfl := Option.some.inj made
    cases bare
  | missing lacks single => cases made
  | single valued has value =>
    obtain rfl := Option.some.inj made
    cases bare

/-- The empty list is kept exactly if it is what the operator is applied to. -/
theorem list_nil_iff (h : c.CompiledTo index entity column out) :
    (∃ operator, out = some (operator, .list [])) ↔ c.HasEmptyList := by
  constructor
  · rintro ⟨operator, made⟩
    cases h with
    | bare valueless => cases made
    | window valued has offset isZero =>
      rcases relativeWindow_cases c.operator offset isZero with today | ⟨other, given⟩
      · rw [today] at made
        cases made
      · rw [given] at made
        cases made
    | list listed own =>
      obtain ⟨-, empty⟩ := Prod.mk.inj (Option.some.inj made)
      exact ⟨listed, own.trans (List.map_eq_nil_iff.1 (Payload.list.inj empty))⟩
    | missing lacks single => cases made
    | single valued has value => cases made
  · intro empty
    -- All other forms have a value, need none or are not of an operator that is applied to a list.
    cases h with
    | bare valueless => exact absurd valueless empty.lacksValue.1
    | window valued has offset isZero => exact absurd empty.2 has
    | list listed own =>
      have none : c.values = [] := own.symm.trans empty.2
      exact ⟨c.operator, by rw [none, List.map_nil]⟩
    | missing lacks single => exact absurd empty.1 single
    | single valued has value => exact absurd empty.2 has

/-- Nothing is left exactly if the operator needs one value and has none. -/
theorem eq_none_iff (h : c.CompiledTo index entity column out) :
    out = none ↔ c.LacksValue ∧ ¬ c.HasEmptyList := by
  cases h with
  | bare valueless =>
    exact iff_of_false (Option.some_ne_none _) fun lacks => lacks.1.1 valueless
  | window valued has offset isZero =>
    exact iff_of_false (Option.some_ne_none _) fun lacks => has lacks.1.2
  | list listed own =>
    exact iff_of_false (Option.some_ne_none _) fun lacks => lacks.2 ⟨listed, lacks.1.2⟩
  | missing lacks single => exact iff_of_true rfl ⟨lacks, fun empty => single empty.1⟩
  | single valued has value =>
    exact iff_of_false (Option.some_ne_none _) fun lacks => has lacks.1.2

end CompiledTo

end Condition

/-! ## Filters -/

namespace Filter

/-- What the compiled form of a filter is to be: of the conditions on columns of the table, those
that do not lack a value, and a record of every other condition. -/
structure Partition (f : Filter) (index : ChoiceIndex) (names : ColumnNames)
    (compiled : List QueryCondition) (records : List Diagnostic) : Prop where
  /-- What is accepted and does not lack a value is kept, in order. -/
  conditions : List.Forall₂ (fun q c => q.column = names.resolve c.column ∧
      c.compile? index names.entity q.column = some (q.operator, q.payload))
    compiled (f.conditions.filter fun c => names.Accepts c.column ∧ ¬ c.LacksValue)
  /-- Everything else is recorded. -/
  records : records =
    (f.conditions.filter fun c => ¬ (names.Accepts c.column ∧ ¬ c.LacksValue)).map fun c =>
      .warn .filterSkipped (names.entity ++ "." ++ c.column) (c.refusal names)

/-- Each condition on a column of the table that is applied to a list lists something. -/
def ListsValues (f : Filter) (names : ColumnNames) : Prop :=
  ∀ c ∈ f.conditions, names.Accepts c.column → ¬ c.HasEmptyList

instance (f : Filter) (names : ColumnNames) : Decidable (f.ListsValues names) :=
  inferInstanceAs (Decidable (∀ c ∈ _, _ → _))

end Filter

/-! ## Conditions of a filter -/

section

variable {index : ChoiceIndex} {names : ColumnNames}

namespace Condition

variable {c : Condition}

/-- A condition can be compiled exactly if its reference is accepted and a value that its operator
lacks is a list. -/
theorem compiles_iff : c.Compiles index names ↔
    names.Accepts c.column ∧ (c.LacksValue → c.HasEmptyList) := by
  have missing := (c.compiledTo_compile? index names.entity (names.resolve c.column)).eq_none_iff
  rw [Compiles, Option.isSome_iff_ne_none, Ne, missing, not_and_not_right]

/-- What can be compiled is what is to be kept, unless the empty list is. -/
theorem compiles_iff_not_lacksValue_iff :
    (c.Compiles index names ↔ names.Accepts c.column ∧ ¬ c.LacksValue) ↔
      (names.Accepts c.column → ¬ c.HasEmptyList) := by
  have needed : c.HasEmptyList → c.LacksValue := HasEmptyList.lacksValue
  rw [compiles_iff]
  tauto

end Condition

namespace Filter

variable {f : Filter}

/-- What is in a compiled filter comes from a condition that can be compiled. -/
theorem exists_of_mem_compile {q : QueryCondition}
    (hq : q ∈ (f.compile index names).conditions) :
    ∃ c ∈ f.conditions, names.Accepts c.column ∧
      c.CompiledTo index names.entity q.column (some (q.operator, q.payload)) := by
  obtain ⟨c, hc, outcome⟩ := mem_kept_map.1 hq
  obtain ⟨compiles, -, made⟩ := (View.separates_conditions index names).of_ok outcome
  exact ⟨c, hc, compiles.1, made ▸ c.compiledTo_compile? index names.entity q.column⟩

/-- A condition on a column of the table is in the compiled filter as it is compiled. -/
theorem mem_compile_of_compile? {c : Condition} (hc : c ∈ f.conditions)
    (accepted : names.Accepts c.column) {operator : String} {payload : Payload}
    (made : c.compile? index names.entity (names.resolve c.column) = some (operator, payload)) :
    ⟨names.resolve c.column, operator, payload⟩ ∈ (f.compile index names).conditions := by
  have compiles : c.Compiles index names := ⟨accepted, Option.isSome_of_eq_some made⟩
  obtain ⟨q, outcome, column, own⟩ := (View.separates_conditions index names).ok c compiles
  rw [column, made] at own
  obtain ⟨rfl, rfl⟩ := Prod.mk.inj (Option.some.inj own)
  rw [← column]
  exact mem_kept_map.2 ⟨c, hc, outcome⟩

/-- No condition of a compiled filter is applied to the empty list exactly if all lists that are
tested against columns of the table list something. -/
theorem forall_ne_list_nil_iff :
    (∀ q ∈ (f.compile index names).conditions, q.payload ≠ .list []) ↔ f.ListsValues names := by
  constructor
  · intro full c hc accepted empty
    have form := c.compiledTo_compile? index names.entity (names.resolve c.column)
    obtain ⟨operator, made⟩ := form.list_nil_iff.2 empty
    exact full _ (mem_compile_of_compile? hc accepted made) rfl
  · intro lists q hq empty
    obtain ⟨c, hc, accepted, form⟩ := exists_of_mem_compile hq
    exact lists c hc accepted (form.list_nil_iff.1 ⟨q.operator, by rw [empty]⟩)

/-- A filter becomes what it is to become exactly if the right conditions can be compiled. -/
theorem partition_iff_forall :
    f.Partition index names (f.compile index names).conditions (f.notes index names) ↔
      ∀ c ∈ f.conditions, (c.Compiles index names ↔ names.Accepts c.column ∧ ¬ c.LacksValue) := by
  have conditions : List.Forall₂ _ (f.compile index names).conditions _ :=
    (View.separates_conditions index names).forall₂_kept f.conditions
  have records : f.notes index names = _ :=
    (View.separates_conditions index names).dropped_map f.conditions
  constructor
  · -- What is to be kept is kept in any case, so the counts tell whether anything else is.
    intro parts c hc
    have among : (f.conditions.filter fun c => names.Accepts c.column ∧ ¬ c.LacksValue).Sublist
        (f.conditions.filter fun c => c.Compiles index names) := by
      refine List.monotone_filter_right f.conditions fun c own => ?_
      obtain ⟨accepted, valued⟩ := of_decide_eq_true own
      exact decide_eq_true (Condition.compiles_iff.2 ⟨accepted, fun lacks => absurd lacks valued⟩)
    have same := among.eq_of_length (parts.conditions.length_eq.symm.trans conditions.length_eq)
    have mem : c ∈ (f.conditions.filter fun c => c.Compiles index names) ↔
        c ∈ f.conditions.filter fun c => names.Accepts c.column ∧ ¬ c.LacksValue := by rw [same]
    simpa only [List.mem_filter, hc, true_and, decide_eq_true_eq] using mem
  · intro same
    have kept : (f.conditions.filter fun c => c.Compiles index names) =
        f.conditions.filter fun c => names.Accepts c.column ∧ ¬ c.LacksValue :=
      List.filter_congr fun c hc => decide_eq_decide.2 (same c hc)
    have others : (f.conditions.filter fun c => ¬ c.Compiles index names) =
        f.conditions.filter fun c => ¬ (names.Accepts c.column ∧ ¬ c.LacksValue) :=
      List.filter_congr fun c hc => decide_eq_decide.2 (not_congr (same c hc))
    exact ⟨kept ▸ conditions, others ▸ records⟩

variable (f index names)

/-- In a compiled filter, what has no payload has an operator that is applied to nothing. No list is
empty exactly if all lists that are tested against columns of the table list something, and that is
also when every condition that lacks a value is left out with a record. -/
theorem values_carried_iff :
    (∀ q ∈ (f.compile index names).conditions,
        q.payload = .none → q.operator ∈ valuelessOperators) ∧
      ((∀ q ∈ (f.compile index names).conditions, q.payload ≠ .list []) ↔ f.ListsValues names) ∧
      (f.Partition index names (f.compile index names).conditions (f.notes index names) ↔
        f.ListsValues names) := by
  refine ⟨fun q hq bare => ?_, forall_ne_list_nil_iff, ?_⟩
  · obtain ⟨c, -, -, form⟩ := exists_of_mem_compile hq
    exact form.mem_valuelessOperators rfl bare
  · rw [partition_iff_forall]
    exact forall₂_congr fun c _ => Condition.compiles_iff_not_lacksValue_iff

end Filter

namespace Sample

/-- A table with a choice. -/
def stagedCall : Table :=
  table "Call" "Title"
    [column "Title" (.text none), column "Stage" (.choice [⟨1, "Open"⟩, ⟨2, "Closed"⟩])]

/-- A filter of a condition that lists nothing, one that lacks a value and one that has it. -/
def stageFilter : Filter where
  junction := .and
  conditions := [⟨"Stage", "in", none, []⟩, ⟨"Stage", "eq", none, []⟩,
    ⟨"Stage", "not-in", none, [.text "Open"]⟩]

end Sample

namespace Filter

/-- A condition that lists nothing is kept, and only the other that lacks a value is recorded. -/
theorem list_nil_kept_stageFilter :
    (∀ c ∈ Sample.stageFilter.conditions.take 2,
        Sample.stagedCall.names.Accepts c.column ∧ c.LacksValue) ∧
      (Sample.stageFilter.compile (.ofTables [] [Sample.stagedCall])
          Sample.stagedCall.names).conditions =
        [⟨"stage", "in", .list []⟩, ⟨"stage", "not-in", .list ["1"]⟩] ∧
      Sample.stageFilter.notes (.ofTables [] [Sample.stagedCall]) Sample.stagedCall.names =
        [.warn .filterSkipped "call.Stage" "operator eq requires a value"] := by
  decide

end Filter

end

end SpecBundle
