import SpecBundle.Proofs.Lists
import SpecBundle.Proofs.Samples
import SpecBundle.SavedQuery.Basic

/-!
# What a view keeps

A view refers to columns in three places: those that it shows, those that it sorts by and those
that its filter tests. Each entry is accepted or refused by itself. `View.Partition` says what a
view is to become: the accepted entries, in order, make the saved query, and every other one leaves
a record. `View.compile_partition` says that it becomes this, and that nothing changes and nothing
is recorded once the refused entries are taken out of the view.
-/

namespace SpecBundle

/-! ## Outcomes -/

section

variable {α β ε : Type}

/-- What is done to the entries of a list tells the accepted ones from the others: an accepted
entry yields something, and any other one leaves a record. -/
structure Separates (f : α → Except ε β) (accepted : α → Prop) (yields : β → α → Prop)
    (record : α → ε) : Prop where
  /-- Accepted entries yield something. -/
  ok : ∀ a, accepted a → ∃ b, f a = .ok b ∧ yields b a
  /-- Other entries leave a record. -/
  error : ∀ a, ¬ accepted a → f a = .error (record a)

/-- What is kept of a list is what its entries yield. -/
theorem mem_kept_map {f : α → Except ε β} {l : List α} {b : β} :
    b ∈ kept (l.map f) ↔ ∃ a ∈ l, f a = .ok b := by
  induction l with
  | nil => simp [kept]
  | cons a l ih => cases hf : f a <;> simp [hf, ih, eq_comm]

namespace Separates

variable {f : α → Except ε β} {accepted : α → Prop} {yields : β → α → Prop} {record : α → ε}
  [DecidablePred accepted] (h : Separates f accepted yields record) (l : List α)

include h

/-- What is kept corresponds, in order, to the accepted entries. -/
theorem forall₂_kept :
    List.Forall₂ yields (kept (l.map f)) (l.filter fun a => accepted a) := by
  induction l with
  | nil => exact .nil
  | cons a l ih =>
    by_cases ha : accepted a
    · obtain ⟨b, hb, own⟩ := h.ok a ha
      simpa [ha, hb] using ⟨own, ih⟩
    · simpa [ha, h.error a ha] using ih

/-- The records are those of the entries that are not accepted. -/
theorem dropped_map :
    dropped (l.map f) = (l.filter fun a => ¬ accepted a).map record := by
  induction l with
  | nil => rfl
  | cons a l ih =>
    by_cases ha : accepted a
    · obtain ⟨b, hb, -⟩ := h.ok a ha
      simpa [ha, hb] using ih
    · simpa [ha, h.error a ha] using ih

/-- Without the other entries the same is kept. -/
theorem kept_filter : kept ((l.filter fun a => accepted a).map f) = kept (l.map f) := by
  induction l with
  | nil => rfl
  | cons a l ih =>
    by_cases ha : accepted a
    · obtain ⟨b, hb, -⟩ := h.ok a ha
      simpa [ha, hb] using ih
    · simpa [ha, h.error a ha] using ih

/-- Without the other entries there is no record. -/
theorem dropped_filter : dropped ((l.filter fun a => accepted a).map f) = [] := by
  rw [h.dropped_map, List.filter_filter]
  simp

end Separates

/-- What yields something is accepted. -/
theorem Separates.of_ok {f : α → Except ε β} {accepted : α → Prop} {yields : β → α → Prop}
    {record : α → ε} (h : Separates f accepted yields record) {a : α} {b : β} (hb : f a = .ok b) :
    accepted a ∧ yields b a := by
  by_cases ha : accepted a
  · obtain ⟨b', hb', own⟩ := h.ok a ha
    obtain rfl : b = b' := Except.ok.inj (hb.symm.trans hb')
    exact ⟨ha, own⟩
  · cases hb.symm.trans (h.error a ha)

/-- Where it is known what accepted entries yield, it is what is kept. -/
theorem Separates.kept_map {f : α → Except ε β} {accepted : α → Prop} {image : α → β}
    {record : α → ε} [DecidablePred accepted]
    (h : Separates f accepted (fun b a => b = image a) record) (l : List α) :
    kept (l.map f) = (l.filter fun a => accepted a).map image := by
  have same := map_eq_map_of_forall₂ (f := id) (g := image) (h.forall₂_kept l)
  rwa [List.map_id] at same

end

/-- What is appended is there once, at its first place. -/
theorem appendNew_eraseDups (names : List String) (name : String) :
    appendNew names.eraseDups name = (names ++ [name]).eraseDups := by
  rw [List.eraseDups_append, appendNew]
  by_cases hn : name ∈ names <;> simp [hn, List.removeAll, List.eraseDups_cons]

/-- Names appended one by one are there once each, at their first places. -/
theorem foldl_appendNew (seen names : List String) :
    names.foldl appendNew seen.eraseDups = (seen ++ names).eraseDups := by
  induction names generalizing seen with
  | nil => rw [List.foldl_nil, List.append_nil]
  | cons name names ih =>
    rw [List.foldl_cons, appendNew_eraseDups, ih, List.append_assoc, List.singleton_append]

/-- Appending names one by one keeps the names apart. -/
theorem nodup_foldl_appendNew {seen : List String} (h : seen.Nodup) (names : List String) :
    (names.foldl appendNew seen).Nodup := by
  induction names generalizing seen with
  | nil => exact h
  | cons name names ih => exact ih (nodup_appendNew h name)

/-! ## References -/

namespace ColumnNames

/-- A view of a table may refer to a column so: the column is not of another table, and the table
has it. -/
def Accepts (names : ColumnNames) (reference : String) : Prop :=
  '.' ∉ reference.toList ∧ names.resolve reference ∈ names.valid

instance (names : ColumnNames) (reference : String) : Decidable (names.Accepts reference) :=
  inferInstanceAs (Decidable (_ ∧ _))

end ColumnNames

/-- Why a reference is refused that is not accepted. -/
def ReferenceError.of (reference : String) : ReferenceError :=
  if '.' ∈ reference.toList then .linkedEntity else .unknownColumn

/-- An accepted reference is resolved, and any other one is refused for its cause. -/
theorem ColumnNames.resolveValid_eq (names : ColumnNames) (reference : String) :
    names.resolveValid reference =
      if names.Accepts reference then .ok (names.resolve reference)
      else .error (ReferenceError.of reference) := by
  unfold resolveValid ReferenceError.of Accepts
  by_cases dotted : '.' ∈ reference.toList
  · simp [dotted]
  · by_cases known : names.resolve reference ∈ names.valid <;> simp [dotted, known]

/-! ## Views -/

namespace Condition

/-- A condition can be compiled: its reference is accepted, and its operator has what it needs. -/
def Compiles (index : ChoiceIndex) (names : ColumnNames) (c : Condition) : Prop :=
  names.Accepts c.column ∧
    (c.compile? index names.entity (names.resolve c.column)).isSome = true

instance (index : ChoiceIndex) (names : ColumnNames) (c : Condition) :
    Decidable (c.Compiles index names) :=
  inferInstanceAs (Decidable (_ ∧ _))

/-- Why a condition is refused that cannot be compiled. -/
def refusal (names : ColumnNames) (c : Condition) : String :=
  if names.Accepts c.column then "operator " ++ c.operator ++ " requires a value"
  else (ReferenceError.of c.column).message

end Condition

/-- The conditions of a compiled view. -/
def SavedQuery.conditions (q : SavedQuery) : List QueryCondition :=
  (q.filter.map (·.conditions)).getD []

namespace View

/-- The conditions of a view. -/
def conditions (v : View) : List Condition :=
  (v.filter.map (·.conditions)).getD []

/-- A view without what is left out of it. -/
def trimmed (v : View) (index : ChoiceIndex) (names : ColumnNames) : View :=
  { v with
    columns := v.columns.filter fun c => names.Accepts c.name
    sortOrder := v.sortOrder.filter fun key => names.Accepts key.column
    filter := v.filter.map fun f =>
      { f with conditions := f.conditions.filter fun c => c.Compiles index names } }

/-- Why a view leaves out a reference that is not accepted. -/
def refusal (v : View) (reference : String) : String :=
  (ReferenceError.of reference).message ++ " (view " ++ v.schemaName ++ ")"

/-- What a view is to become: the saved query of what is accepted of it, and a record of everything
else. -/
structure Partition (v : View) (index : ChoiceIndex) (names : ColumnNames) (q : SavedQuery)
    (records : List Diagnostic) : Prop where
  /-- The cells are the accepted columns with their widths. -/
  cells : q.cells = (v.columns.filter fun c => names.Accepts c.name).map fun c =>
    (names.resolve c.name, c.width)
  /-- The orders are the accepted sort keys with their directions. -/
  orders : q.orders = (v.sortOrder.filter fun key => names.Accepts key.column).map fun key =>
    (names.resolve key.column, key.direction == .descending)
  /-- There is a filter if the view has one, and its conditions are joined alike. -/
  junction : q.filter.map (·.junction) = v.filter.map (·.junction)
  /-- The conditions are those of the view that can be compiled. -/
  conditions : List.Forall₂ (fun compiled c => compiled.column = names.resolve c.column ∧
      c.compile? index names.entity compiled.column = some (compiled.operator, compiled.payload))
    q.conditions (v.conditions.filter fun c => c.Compiles index names)
  /-- Everything else is recorded: columns, then sort keys, then conditions. -/
  records : records =
    ((v.columns.filter fun c => ¬ names.Accepts c.name).map fun c =>
        .warn .viewColumnSkipped (names.entity ++ "." ++ c.name) (v.refusal c.name)) ++
      ((v.sortOrder.filter fun key => ¬ names.Accepts key.column).map fun key =>
        .warn .sortSkipped (names.entity ++ "." ++ key.column) (v.refusal key.column)) ++
      (v.conditions.filter fun c => ¬ c.Compiles index names).map fun c =>
        .warn .filterSkipped (names.entity ++ "." ++ c.column) (c.refusal names)
  /-- The primary key is fetched first. -/
  key : q.attributes.head? = some names.primaryKey
  /-- No attribute is fetched twice. -/
  apart : q.attributes.Nodup
  /-- The attributes of the cells are fetched in the order in which they first occur. -/
  attributes : q.attributes = (names.primaryKey :: q.cells.map (·.1)).eraseDups

variable (v : View) (index : ChoiceIndex) (names : ColumnNames)

/-- What a view makes of the references of entries, be they columns or sort keys. -/
theorem separates_references {α β : Type} (reference : α → String) (image : α → String → β)
    (code : DiagnosticCode) :
    Separates (fun a => ((names.resolveValid (reference a)).map (image a)).mapError
        (v.skipped names code (reference a)))
      (fun a => names.Accepts (reference a))
      (fun b a => b = image a (names.resolve (reference a)))
      (fun a => .warn code (names.entity ++ "." ++ reference a) (v.refusal (reference a))) where
  ok a ha := by
    refine ⟨image a (names.resolve (reference a)), ?_, rfl⟩
    rw [names.resolveValid_eq, if_pos ha]
    rfl
  error a ha := by
    rw [names.resolveValid_eq, if_neg ha]
    rfl

/-- What is made of the conditions of a filter. -/
theorem separates_conditions :
    Separates (fun c : Condition => c.outcome index names) (fun c => c.Compiles index names)
      (fun compiled c => compiled.column = names.resolve c.column ∧
        c.compile? index names.entity compiled.column =
          some (compiled.operator, compiled.payload))
      (fun c => .warn .filterSkipped (names.entity ++ "." ++ c.column) (c.refusal names)) where
  ok c hc := by
    obtain ⟨compiled, made⟩ := Option.isSome_iff_exists.1 hc.2
    refine ⟨⟨names.resolve c.column, compiled.1, compiled.2⟩, ?_, rfl, made⟩
    simp only [Condition.outcome, names.resolveValid_eq, if_pos hc.1, made]
  error c hc := by
    -- Where the reference is accepted, it is the operator that has no value.
    by_cases accepted : names.Accepts c.column
    · have none : c.compile? index names.entity (names.resolve c.column) = none :=
        Option.not_isSome_iff_eq_none.1 fun some => hc ⟨accepted, some⟩
      simp only [Condition.outcome, Condition.refusal, names.resolveValid_eq, if_pos accepted,
        none]
    · simp only [Condition.outcome, Condition.refusal, names.resolveValid_eq, if_neg accepted]

/-- What is made of the columns of a view. -/
theorem separates_columns :
    Separates (fun c : ViewColumn => ((names.resolveValid c.name).map (·, c.width)).mapError
        (v.skipped names .viewColumnSkipped c.name))
      (fun c => names.Accepts c.name) (fun cell c => cell = (names.resolve c.name, c.width))
      (fun c => .warn .viewColumnSkipped (names.entity ++ "." ++ c.name) (v.refusal c.name)) :=
  v.separates_references names ViewColumn.name (fun c name => (name, c.width)) .viewColumnSkipped

/-- What is made of the sort keys of a view. -/
theorem separates_sortKeys :
    Separates (fun key : SortKey =>
        ((names.resolveValid key.column).map (·, key.direction == .descending)).mapError
          (v.skipped names .sortSkipped key.column))
      (fun key => names.Accepts key.column)
      (fun order key => order = (names.resolve key.column, key.direction == .descending))
      (fun key => .warn .sortSkipped (names.entity ++ "." ++ key.column) (v.refusal key.column)) :=
  v.separates_references names SortKey.column
    (fun key name => (name, key.direction == .descending)) .sortSkipped

/-- The conditions that are kept are those that can be compiled. -/
theorem forall₂_conditions :
    List.Forall₂ (fun compiled c => compiled.column = names.resolve c.column ∧
        c.compile? index names.entity compiled.column =
          some (compiled.operator, compiled.payload))
      (v.compile index names).conditions
      (v.conditions.filter fun c => c.Compiles index names) := by
  cases hf : v.filter with
  | none => simp [SavedQuery.conditions, compile, conditions, hf]
  | some f =>
    simpa [SavedQuery.conditions, compile, conditions, hf, Filter.compile, Filter.outcomes] using
      (separates_conditions index names).forall₂_kept f.conditions

/-- The attributes that are fetched are the primary key and those of the cells, each once. -/
theorem attributes_compile :
    (v.compile index names).attributes =
      (names.primaryKey :: (v.compile index names).cells.map (·.1)).eraseDups :=
  foldl_appendNew [names.primaryKey] _

/-- A view becomes what it is to become. -/
theorem partition_compile :
    v.Partition index names (v.compile index names) (v.notes index names) where
  cells := (v.separates_columns names).kept_map v.columns
  orders := (v.separates_sortKeys names).kept_map v.sortOrder
  junction := by
    cases hf : v.filter <;> simp [compile, hf, Filter.compile]
  conditions := v.forall₂_conditions index names
  records := by
    have columns := (v.separates_columns names).dropped_map v.columns
    have sortKeys := (v.separates_sortKeys names).dropped_map v.sortOrder
    have conditions : (v.filter.map (·.notes index names)).getD [] =
        (v.conditions.filter fun c => ¬ c.Compiles index names).map fun c =>
          .warn .filterSkipped (names.entity ++ "." ++ c.column) (c.refusal names) := by
      cases hf : v.filter with
      | none => simp [View.conditions, hf]
      | some f =>
        simpa [View.conditions, hf, Filter.notes, Filter.outcomes] using
          (separates_conditions index names).dropped_map f.conditions
    rw [notes, conditions]
    exact congrArg₂ (· ++ · ++ _) columns sortKeys
  key := by
    rw [attributes_compile, List.eraseDups_cons, List.head?_cons]
  apart := nodup_foldl_appendNew (List.nodup_singleton _) _
  attributes := v.attributes_compile index names

/-- Without what it leaves out, a view becomes the same saved query. -/
theorem compile_trimmed :
    (v.trimmed index names).compile index names = v.compile index names := by
  -- The entries that stay meet the same checks: no check looks at the other entries of the view.
  have columns : kept ((v.trimmed index names).cellOutcomes names) =
      kept (v.cellOutcomes names) :=
    (v.separates_columns names).kept_filter v.columns
  have sortKeys : kept ((v.trimmed index names).orderOutcomes names) =
      kept (v.orderOutcomes names) :=
    (v.separates_sortKeys names).kept_filter v.sortOrder
  have filter : (v.trimmed index names).filter.map (·.compile index names) =
      v.filter.map (·.compile index names) := by
    have conditions (f : Filter) := (separates_conditions index names).kept_filter f.conditions
    cases hf : v.filter with
    | none => simp [trimmed, hf]
    | some f => simp [trimmed, hf, Filter.compile, Filter.outcomes, conditions]
  unfold compile fetched
  rw [columns, sortKeys, filter]
  rfl

/-- Without what it leaves out, a view leaves no record. -/
theorem notes_trimmed : (v.trimmed index names).notes index names = [] := by
  have columns : dropped ((v.trimmed index names).cellOutcomes names) = [] :=
    (v.separates_columns names).dropped_filter v.columns
  have sortKeys : dropped ((v.trimmed index names).orderOutcomes names) = [] :=
    (v.separates_sortKeys names).dropped_filter v.sortOrder
  have filter : ((v.trimmed index names).filter.map (·.notes index names)).getD [] = [] := by
    have conditions (f : Filter) := (separates_conditions index names).dropped_filter f.conditions
    cases hf : v.filter with
    | none => simp [trimmed, hf]
    | some f => simp [trimmed, hf, Filter.notes, Filter.outcomes, conditions]
  rw [notes, columns, sortKeys, filter]
  rfl

/-- Every view of a table becomes the saved query of what is accepted of it, and a record of
everything else. Without what is refused it becomes the same saved query, and nothing is
recorded. -/
theorem compile_partition (t : Table) :
    v.Partition index t.names (v.compile index t.names) (v.notes index t.names) ∧
      (v.trimmed index t.names).compile index t.names = v.compile index t.names ∧
      (v.trimmed index t.names).notes index t.names = [] :=
  ⟨v.partition_compile index t.names, v.compile_trimmed index t.names,
    v.notes_trimmed index t.names⟩

end View

namespace Sample

/-- A table with a column that is called like its primary key, which is not the primary one. -/
def regions : Table :=
  table "Agency" "Region" [column "AgencyId" (.text none), column "Region" (.text none)]

/-- A view with columns that its table has, under their names in any case, and others. -/
def mixedView : View where
  schemaName := "agency_view"
  displayName := "Agencies"
  entity := "Agency"
  description := none
  isDefault := false
  columns := [⟨"REGION", 100⟩, ⟨"owner.name", 80⟩, ⟨"AgencyId", 90⟩, ⟨"Region", 50⟩, ⟨"Town", 60⟩]
  sortOrder := [⟨"Town", .ascending⟩, ⟨"createdon", .descending⟩]
  filter := some ⟨.and, [⟨"Region", "eq", none, []⟩, ⟨"Region", "null", none, []⟩]⟩

end Sample

example :
    (Sample.mixedView.compile .empty Sample.regions.names).attributes =
        ["agencyid", "region", "agency_name"] ∧
      (Sample.mixedView.notes .empty Sample.regions.names).map (·.subject) =
        ["agency.owner.name", "agency.Town", "agency.Town", "agency.Region"] := by
  decide

end SpecBundle
