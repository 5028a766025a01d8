import SpecBundle.Document.Customizations
import SpecBundle.Proofs.Relationship.Settle
import SpecBundle.Proofs.SavedQuery.Compile

/-!
# Which stage records what

Every stage of a generation has codes of its own for what it records, so the records of a code are
those of the stage that has it: `withCode` finds them in their order among all records.
-/

namespace SpecBundle

/-! ## Codes -/

/-- All of the records have one of the given codes. -/
def CodesIn (codes : List DiagnosticCode) (ds : List Diagnostic) : Prop :=
  ∀ d ∈ ds, d.code ∈ codes

/-- The records of a code are found part by part. -/
theorem withCode_append (code : DiagnosticCode) (ds ds' : List Diagnostic) :
    withCode code (ds ++ ds') = withCode code ds ++ withCode code ds' :=
  List.filter_append ds ds'

section

variable {codes : List DiagnosticCode} {code : DiagnosticCode} {ds : List Diagnostic}

/-- Among records of other codes there is none of the code. -/
theorem CodesIn.withCode_eq_nil (h : CodesIn codes ds) (other : code ∉ codes) :
    withCode code ds = [] := by
  refine List.filter_eq_nil_iff.2 fun d hd same => other ?_
  rw [← eq_of_beq same]
  exact h d hd

/-- Records of one code are all of the records of that code. -/
theorem CodesIn.withCode_eq_self (h : CodesIn [code] ds) : withCode code ds = ds :=
  List.filter_eq_self.2 fun d hd => beq_iff_eq.2 (List.mem_singleton.1 (h d hd))

/-- Records of some codes are records of more codes. -/
theorem CodesIn.mono {codes' : List DiagnosticCode} (h : CodesIn codes ds)
    (more : codes ⊆ codes') : CodesIn codes' ds :=
  fun d hd => more (h d hd)

/-- Records of two parts have the codes of the parts. -/
theorem CodesIn.append {ds' : List Diagnostic} (h : CodesIn codes ds) (h' : CodesIn codes ds') :
    CodesIn codes (ds ++ ds') :=
  List.forall_mem_append.2 ⟨h, h'⟩

variable {α : Type} {l : List α}

/-- Records that are mapped to have the codes that each of them has. -/
theorem CodesIn.map {f : α → Diagnostic} (h : ∀ a, (f a).code ∈ codes) :
    CodesIn codes (l.map f) := by
  intro d hd
  obtain ⟨a, -, rfl⟩ := List.mem_map.1 hd
  exact h a

/-- Records that entries may leave have the codes that each of them has. -/
theorem CodesIn.filterMap {f : α → Option Diagnostic} (h : ∀ a d, f a = some d → d.code ∈ codes) :
    CodesIn codes (l.filterMap f) := by
  intro d hd
  obtain ⟨a, -, made⟩ := List.mem_filterMap.1 hd
  exact h a d made

/-- Records of several parts have the codes of the parts. -/
theorem CodesIn.flatMap {f : α → List Diagnostic} (h : ∀ a, CodesIn codes (f a)) :
    CodesIn codes (l.flatMap f) := by
  intro d hd
  obtain ⟨a, -, made⟩ := List.mem_flatMap.1 hd
  exact h a d made

end

/-! ## The stages -/

/-- A renamed column is recorded as such. -/
theorem Table.codesIn_renamings (t : Table) : CodesIn [.columnRenamed] t.renamings := by
  refine .filterMap fun c d made => ?_
  obtain ⟨renamed, -, rfl⟩ := Option.map_eq_some_iff.1 made
  exact List.mem_singleton_self _

/-- A renamed relationship is recorded as such. -/
theorem Relationship.codesIn_renamings (namePrefix : String) (tables : List Table) :
    CodesIn [.relationshipRenamed] (renamings namePrefix tables) := by
  have settled (taken : List String) (candidates : List (Relationship × String)) :
      CodesIn [.relationshipRenamed] ((settle taken candidates).filterMap (·.2)) := by
    induction candidates generalizing taken with
    | nil => exact List.forall_mem_nil _
    | cons candidate rest ih =>
      obtain ⟨out, first, eq⟩ := settle_cons taken candidate.1 candidate.2 rest
      rw [eq]
      cases first with
      | kept _ => exact ih _
      | renamed _ _ _ _ _ _ => exact List.forall_mem_cons.2 ⟨List.mem_singleton_self _, ih _⟩
  exact settled [] _

/-- A view without a table is recorded as such. -/
theorem DataModel.codesIn_orphanViewNotes (m : DataModel) :
    CodesIn [.entityNotFound] m.orphanViewNotes :=
  .map fun _ => List.mem_singleton_self _

/-- A form without a table is recorded as such. -/
theorem DataModel.codesIn_orphanFormNotes (m : DataModel) :
    CodesIn [.entityNotFound] m.orphanFormNotes :=
  .map fun _ => List.mem_singleton_self _

/-- For attributes, global choices that are not defined and unknown kinds are recorded. -/
theorem Table.codesIn_attributeNotes (t : Table) (choices : List GlobalChoice) :
    CodesIn [.choiceNotFound, .unknownColumnType] (t.attributeNotes choices) := by
  unfold attributeNotes
  split
  · exact List.forall_mem_nil _
  · refine .filterMap fun c d made => ?_
    unfold Column.attributeNote? at made
    split at made
    · split at made <;> cases made
      exact List.mem_cons_self
    · cases made
      exact List.mem_cons_of_mem _ (List.mem_singleton_self _)
    · cases made

/-- The codes of what is recorded for views: columns, sort keys and conditions that are left out. -/
def viewCodes : List DiagnosticCode :=
  [.viewColumnSkipped, .sortSkipped, .filterSkipped]

/-- The records of a view are those of what it leaves out. -/
theorem View.codesIn_notes (v : View) (index : ChoiceIndex) (names : ColumnNames) :
    CodesIn viewCodes (v.notes index names) := by
  rw [(v.partition_compile index names).records]
  refine .append (.append (.map fun c => ?_) (.map fun key => ?_)) (.map fun c => ?_)
  all_goals simp [viewCodes, Diagnostic.warn]

section

variable (scope : TableScope)

/-- What fields leave are records of unknown fields. -/
theorem FormField.codesIn_notes (fields : List FormField) :
    CodesIn [.formFieldUnknown] (fields.filterMap (·.note? scope)) := by
  refine .filterMap fun f d made => ?_
  unfold note? at made
  split at made <;> cases made
  exact List.mem_singleton_self _

/-- What subgrids leave are records of relationships, which they settle or leave as declared. -/
theorem Subgrid.codesIn_notes (grids : List Subgrid) :
    CodesIn [.relationshipResolved, .relationshipUnresolved]
      (grids.filterMap fun g => g.note? scope.table (g.bindingIn scope)) := by
  refine .filterMap fun g d made => ?_
  unfold note? at made
  split at made
  · split at made <;> cases made
    exact List.mem_cons_self
  · cases made
    exact List.mem_cons_of_mem _ (List.mem_singleton_self _)
  · cases made
    exact List.mem_cons_of_mem _ (List.mem_singleton_self _)

/-- The codes of what is recorded for forms: those of their fields and subgrids. -/
def formCodes : List DiagnosticCode :=
  [.formFieldUnknown] ++ [.relationshipResolved, .relationshipUnresolved]

/-- The records of a section are those of its fields and subgrids. -/
theorem FormSection.codesIn_notes (s : FormSection) : CodesIn formCodes (s.notes scope) :=
  ((FormField.codesIn_notes scope s.fields).mono (List.subset_append_left _ _)).append
    ((Subgrid.codesIn_notes scope s.subgrids).mono (List.subset_append_right _ _))

/-- The records of forms are those of their sections and headers. -/
theorem codesIn_formNotes (forms : List Form) : CodesIn formCodes (formNotes forms scope) := by
  refine .flatMap fun f => ?_
  have header : CodesIn formCodes (f.header.filterMap (·.note? scope)) :=
    (FormField.codesIn_notes scope f.header).mono (List.subset_append_left _ _)
  unfold Form.notes
  split
  · exact (CodesIn.flatMap fun t => .flatMap fun s => s.codesIn_notes scope).append header
  · exact .flatMap fun s => s.codesIn_notes scope

end

namespace Customizations

variable (m : DataModel) (p : Project)

/-- The records of a table are those of its views and forms. -/
theorem codesIn_tableNotes (refs : References) (t : Table) :
    CodesIn (viewCodes ++ formCodes) (tableNotes m p refs t) := by
  have views : CodesIn viewCodes ((m.viewsOf t).flatMap (·.notes refs.index t.names)) :=
    .flatMap fun v => v.codesIn_notes refs.index t.names
  have forms : CodesIn formCodes (formNotes (m.formsOf t) (m.scope p refs t)) :=
    codesIn_formNotes (m.scope p refs t) (m.formsOf t)
  exact (views.mono (List.subset_append_left _ _)).append
    (forms.mono (List.subset_append_right _ _))

/-- The codes of what is recorded while the tables are gone through. -/
def tableCodes : List DiagnosticCode :=
  [.choiceNotFound, .unknownColumnType] ++ (viewCodes ++ formCodes)

/-- After the leading records come those of the tables' attributes, views and forms. -/
theorem exists_notes_eq_leadingNotes_append :
    ∃ later, notes m p = leadingNotes m p ++ later ∧ CodesIn tableCodes later := by
  refine ⟨_, Outcome.notes_record_bind _ _, ?_⟩
  have assembled (t : Table) : CodesIn tableCodes (assemble m p t).notes :=
    (t.codesIn_attributeNotes m.choices).mono (List.subset_append_left _ _)
  have written (te : Table × Entity) : CodesIn tableCodes (write m p (m.references p) te).notes :=
    (codesIn_tableNotes m p _ te.1).mono (List.subset_append_right _ _)
  -- Both passes are followed step by step, whether or not the first one comes to its end.
  refine Outcome.forall_mem_notes_bind _ (Outcome.forall_mem_notes_mapM _ assembled _) fun es => ?_
  rw [bind_pure_comp, Outcome.notes_map]
  exact Outcome.forall_mem_notes_mapM _ written es

/-- Among all records, those of the views and forms without a table are made together. -/
theorem withCode_entityNotFound_notes :
    withCode .entityNotFound (notes m p) = m.orphanViewNotes ++ m.orphanFormNotes := by
  have columns : withCode .entityNotFound (m.tables.flatMap (·.renamings)) = [] :=
    CodesIn.withCode_eq_nil (.flatMap (·.codesIn_renamings)) (by decide)
  have relationships :
      withCode .entityNotFound (Relationship.renamings p.publisher.namePrefix m.tables) = [] :=
    (Relationship.codesIn_renamings _ _).withCode_eq_nil (by decide)
  obtain ⟨later, all, codes⟩ := exists_notes_eq_leadingNotes_append m p
  have tables : withCode .entityNotFound later = [] := codes.withCode_eq_nil (by decide)
  rw [all, leadingNotes]
  simp only [withCode_append, columns, relationships, tables, List.nil_append, List.append_nil,
    m.codesIn_orphanViewNotes.withCode_eq_self, m.codesIn_orphanFormNotes.withCode_eq_self]

end Customizations

end SpecBundle
