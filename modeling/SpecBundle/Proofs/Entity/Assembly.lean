import SpecBundle.Proofs.Entity.Attributes
import SpecBundle.Proofs.Relationship.Lookups

/-!
# What an entity keeps of its table

Assembling an entity brings the primary column to the front, passes over it where it stood, leaves
out the columns that are never generated and records some of the rest. `Table.primaryFirst` is the
order in which the columns are taken, and `Table.attributes_eq_filterMap` says that one function
makes all attributes from it, so that nothing but the column itself decides what becomes of it.
`Table.assembly_conserves` puts the attributes and the records side by side with the columns.
-/

namespace SpecBundle

/-! ## One column -/

namespace Column

/-- Whether the platform numbers the column. -/
def isAutoNumber (c : Column) : Bool :=
  match c.kind with
  | .autoNumber _ _ => true
  | _ => false

/-- Whether a column is recorded: it is of an unknown kind, or none of the choices has the name that
it gives. -/
def isReported (choices : List GlobalChoice) (c : Column) : Bool :=
  match c.kind with
  | .unknown _ => true
  | .globalChoice name => !choices.any (·.schemaName == name)
  | _ => false

/-- The record that a column of an entity leaves. -/
inductive Leaves (choices : List GlobalChoice) (entity : String) (c : Column) :
    Diagnostic → Prop where
  /-- Its kind is unknown. -/
  | unknownKind (word : String) (kind : c.kind = .unknown word) :
    c.Leaves choices entity (.warn .unknownColumnType (entity ++ "." ++ c.schemaName)
      ("unknown column type \"" ++ word ++ "\", attribute omitted"))
  /-- The choice that it names is not defined. -/
  | undefinedChoice (name : String) (kind : c.kind = .globalChoice name)
      (undefined : ∀ choice ∈ choices, choice.schemaName ≠ name) :
    c.Leaves choices entity (.warn .choiceNotFound (entity ++ "." ++ c.schemaName)
      ("global choice \"" ++ name ++ "\" is not defined"))

variable {choices : List GlobalChoice} {entity : String} {c : Column}

/-- A choice is found exactly if one has the name. -/
theorem isSome_choiceNamed? (choices : List GlobalChoice) (name : String) :
    (choiceNamed? choices name).isSome = choices.any (·.schemaName == name) := by
  rw [Bool.eq_iff_iff, choiceNamed?, List.find?_isSome, List.any_eq_true]
  simp only [List.mem_reverse]

/-- A column leaves a record exactly if it is one that is recorded. -/
theorem isSome_attributeNote? (choices : List GlobalChoice) (entity : String) (c : Column) :
    (c.attributeNote? choices entity).isSome = c.isReported choices := by
  unfold attributeNote? isReported
  cases c.kind with
  | globalChoice name =>
    have found := isSome_choiceNamed? choices name
    show (if (choiceNamed? choices name).isSome then none else some _ : Option Diagnostic).isSome =
      !choices.any (·.schemaName == name)
    rw [found]
    cases choices.any (·.schemaName == name) <;> rfl
  | _ => rfl

/-- What a column leaves says why. -/
theorem leaves_of_attributeNote? {d : Diagnostic} (h : c.attributeNote? choices entity = some d) :
    c.Leaves choices entity d := by
  unfold attributeNote? at h
  split at h
  · next name kind =>
    split at h
    · cases h
    · next missing =>
      rw [isSome_choiceNamed?] at missing
      have undefined : ∀ choice ∈ choices, choice.schemaName ≠ name := by
        intro choice hchoice same
        exact missing (List.any_eq_true.2 ⟨choice, hchoice, beq_iff_eq.2 same⟩)
      obtain rfl := Option.some.inj h
      exact .undefinedChoice name kind undefined
  · next word kind =>
    obtain rfl := Option.some.inj h
    exact .unknownKind word kind
  · cases h

end Column

namespace Attribute

/-- What an attribute keeps of the column of a table that it is made from. -/
structure KeepsFrom (a : Attribute) (t : Table) (c : Column) : Prop where
  /-- It bears the column's effective name. -/
  name : a.physicalName = c.effectiveName t.logicalName
  /-- It must be filled in exactly if the column says so or is the primary one, unless it is a
  primary column that the platform numbers. -/
  level : a.requiredLevel = .applicationRequired ↔
    (c.required = true ∨ c.schemaName = t.primaryColumn) ∧
      ¬ (c.schemaName = t.primaryColumn ∧ c.isAutoNumber = true)

/-- When a column must be filled in. -/
theorem levelOf_eq_applicationRequired_iff (c : Column) (isPrimary : Bool) :
    levelOf c isPrimary = .applicationRequired ↔
      (c.required = true ∨ isPrimary = true) ∧ ¬ (isPrimary = true ∧ c.isAutoNumber = true) := by
  cases isPrimary with
  | false =>
    -- Only for the primary column it matters whether the platform numbers it.
    have level : levelOf c false = if c.required then .applicationRequired else .none := by
      unfold levelOf
      rw [Bool.or_false]
      cases c.kind <;> rfl
    rw [level]
    cases c.required <;> simp
  | true =>
    have level : levelOf c true = if c.isAutoNumber then .none else .applicationRequired := by
      unfold levelOf Column.isAutoNumber
      rw [Bool.or_true]
      cases c.kind <;> rfl
    rw [level]
    cases c.isAutoNumber <;> simp

/-- An attribute keeps these things of its column, if it is made as that of the primary column
exactly where it is. -/
theorem keepsFrom_of_ofColumn? {choices : List GlobalChoice} {namePrefix : String} {t : Table}
    {c : Column} {a : Attribute} (hc : c ∈ t.columns)
    (made : ofColumn? choices namePrefix t.names (c.schemaName == t.primaryColumn) c = some a) :
    a.KeepsFrom t c := by
  have name : a.physicalName = c.effectiveName t.logicalName := by
    rw [physicalName_of_ofColumn? made, Table.names_of hc]
  obtain ⟨type, -, rfl⟩ := Option.map_eq_some_iff.1 made
  have level := levelOf_eq_applicationRequired_iff c (c.schemaName == t.primaryColumn)
  rw [beq_iff_eq] at level
  exact ⟨name, level⟩

end Attribute

/-! ## All columns -/

namespace Table

/-- The columns in the order of the attributes: those of the primary column's name, then the others,
both in declared order. -/
def primaryFirst (t : Table) : List Column :=
  t.columns.filter (·.schemaName == t.primaryColumn) ++
    t.columns.filter (·.schemaName != t.primaryColumn)

variable {t : Table}

/-- No column is lost or doubled when the primary one is brought to the front. -/
theorem primaryFirst_perm (t : Table) : t.primaryFirst.Perm t.columns :=
  List.filter_append_perm (fun c : Column => c.schemaName == t.primaryColumn) t.columns

/-- Where there is one primary column, it comes first and the others follow. -/
theorem primaryFirst_eq_cons (one : t.HasOnePrimary) :
    ∃ primary, t.primary? = some primary ∧ primary.schemaName = t.primaryColumn ∧
      t.primaryFirst = primary :: t.otherColumns := by
  have length : (t.columns.filter (·.schemaName == t.primaryColumn)).length = 1 := by
    rw [← List.countP_eq_length_filter]
    exact one
  obtain ⟨primary, only⟩ := List.length_eq_one_iff.1 length
  have found : t.primary? = some primary := by
    rw [primary?, ← List.head?_filter, only, List.head?_cons]
  have named : primary.schemaName = t.primaryColumn := by
    simpa using List.find?_some found
  refine ⟨primary, found, named, ?_⟩
  rw [primaryFirst, only, List.singleton_append]
  rfl

/-- All attributes are made from the columns by one function, to which only the column's name says
whether it is the primary one. -/
theorem attributes_eq_filterMap (one : t.HasOnePrimary) {choices : List GlobalChoice}
    {namePrefix : String} {forms : List Form} {e : Entity}
    (made : t.entity choices namePrefix forms = .ok e) :
    e.attributes = t.primaryFirst.filterMap fun c =>
      Attribute.ofColumn? choices namePrefix t.names (c.schemaName == t.primaryColumn) c := by
  obtain ⟨primary, found, named, order⟩ := primaryFirst_eq_cons one
  obtain ⟨primary', found', rfl⟩ := entity_eq_ok made
  obtain rfl : primary = primary' := Option.some.inj (found.symm.trans found')
  -- The others are just the columns that are not called like the primary one.
  have others : t.otherColumns.filterMap
        (Attribute.ofColumn? choices namePrefix t.names false) =
      t.otherColumns.filterMap fun c =>
        Attribute.ofColumn? choices namePrefix t.names (c.schemaName == t.primaryColumn) c := by
    refine List.filterMap_congr fun c hc => ?_
    have other : (c.schemaName == t.primaryColumn) = false := by
      simpa [otherColumns] using (List.mem_filter.1 hc).2
    rw [other]
  have first : (primary.schemaName == t.primaryColumn) = true := beq_iff_eq.2 named
  rw [order, List.filterMap_cons, first, ← others]
  cases Attribute.ofColumn? choices namePrefix t.names true primary <;> rfl

/-- The records are made in the order of the attributes. -/
theorem attributeNotes_eq_filterMap (one : t.HasOnePrimary) (choices : List GlobalChoice) :
    t.attributeNotes choices =
      t.primaryFirst.filterMap (·.attributeNote? choices t.logicalName) := by
  obtain ⟨primary, found, -, order⟩ := primaryFirst_eq_cons one
  rw [attributeNotes, found, order]

/-- Where one column has the name of the primary column, the entity is made, and its columns are
taken in an order that brings that column to the front and changes nothing else. The columns that
are generated become the attributes, one by one, and bear their effective names; one must be filled
in exactly if its column says so or is the primary one and not numbered by the platform. The columns
of an unknown kind and those of a choice that is not defined are recorded, one by one, and nothing
else is. -/
theorem assembly_conserves (t : Table) (one : t.HasOnePrimary) (choices : List GlobalChoice)
    (namePrefix : String) (forms : List Form) :
    ∃ e, t.entity choices namePrefix forms = .ok e ∧
      t.primaryFirst.Perm t.columns ∧
      (∃ primary, t.primary? = some primary ∧ t.primaryFirst = primary ::
        t.columns.filter (·.schemaName != t.primaryColumn)) ∧
      List.Forall₂ (fun a c => a.KeepsFrom t c) e.attributes
        (t.primaryFirst.filter (·.isGenerated)) ∧
      List.Forall₂ (fun d c => c.Leaves choices t.logicalName d) (t.attributeNotes choices)
        (t.primaryFirst.filter (·.isReported choices)) := by
  obtain ⟨e, made⟩ := exists_entity one choices namePrefix forms
  obtain ⟨primary, found, -, order⟩ := primaryFirst_eq_cons one
  have attributes := forall₂_filterMap_filter (fun c =>
    Attribute.isSome_ofColumn? choices namePrefix t.names (c.schemaName == t.primaryColumn) c)
    t.primaryFirst
  have records := forall₂_filterMap_filter
    (Column.isSome_attributeNote? choices t.logicalName) t.primaryFirst
  have own : ∀ c ∈ t.primaryFirst.filter (·.isGenerated), c ∈ t.columns := fun c hc =>
    (primaryFirst_perm t).mem_iff.1 (List.mem_of_mem_filter hc)
  refine ⟨e, made, primaryFirst_perm t, ⟨primary, found, order⟩, ?_, ?_⟩
  · rw [attributes_eq_filterMap one made]
    have both := (List.forall₂_and_left _ _).2 ⟨own, attributes.flip⟩
    exact both.flip.imp fun a c made => Attribute.keepsFrom_of_ofColumn? made.1 made.2
  · rw [attributeNotes_eq_filterMap one]
    exact records.imp fun d c left => Column.leaves_of_attributeNote? left

end Table

namespace Sample

/-- A table whose primary column is numbered and stands among others: one that is called like the
primary key, and one of each kind that is left out or recorded. -/
def numbered : Table :=
  table "Call" "Number"
    [column "Score" .calculated, column "Stage" (.globalChoice "phase"),
      column "Number" (.autoNumber none (some "C-1")), column "Area" (.unknown "Area"),
      { column "CallId" (.text none) with required := true }, column "Owner" (.lookup "SystemUser")]

end Sample

namespace Table

/-- Of a table with columns of all sorts around its primary one, three become attributes and two are
recorded. -/
theorem assembly_conserves_numbered :
    Sample.numbered.HasOnePrimary ∧
      ∃ e, Sample.numbered.entity Sample.stageChoices "seo" [] = .ok e ∧
        List.Forall₂ (fun a c => a.KeepsFrom Sample.numbered c) e.attributes
          [Sample.column "Number" (.autoNumber none (some "C-1")),
            Sample.column "Stage" (.globalChoice "phase"),
            { Sample.column "CallId" (.text none) with required := true }] ∧
        List.Forall₂ (fun d c => c.Leaves Sample.stageChoices "call" d)
          (Sample.numbered.attributeNotes Sample.stageChoices)
          [Sample.column "Stage" (.globalChoice "phase"),
            Sample.column "Area" (.unknown "Area")] := by
  have one : Sample.numbered.HasOnePrimary := by decide
  obtain ⟨e, made, -, -, attributes, records⟩ :=
    assembly_conserves Sample.numbered one Sample.stageChoices "seo" []
  exact ⟨one, e, made, attributes, records⟩

example : Sample.numbered.primaryFirst.map (·.effectiveName "call") =
    ["number", "score", "stage", "area", "call_name", "owner"] := by
  decide

end Table

end SpecBundle
