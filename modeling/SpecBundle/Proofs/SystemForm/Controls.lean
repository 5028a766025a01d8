import SpecBundle.Proofs.Document.Records
import SpecBundle.Proofs.SystemForm.Shown
import SpecBundle.Proofs.Xml.Collect

/-!
# The controls of a form

A form is written as a tree of tabs, columns, sections, rows and cells, at whose leaves its fields
and subgrids stand as controls. `Xml.Element.controls` gathers the controls below an element in
document order, whatever lies between. For each part of a form there is one equation that says which
controls its element holds, and `Form.layout_conserved` puts them together: nothing that a form
shows is lost, doubled or moved, every field and subgrid of a section has a row to itself, and the
fields that the table does not have are recorded in the order in which they stand.
-/

namespace SpecBundle

open Xml (Element collect_parent collect_empty collect_text select_cons selectFrom_map_nil)

/-! ## Controls in an element -/

/-- A control as it is written. -/
structure Control where
  /-- Its identifier. -/
  id : Option String
  /-- The column that it is bound to. -/
  column : Option String
  /-- Its mark as a subgrid, which a field does not have. -/
  gridMark : Option String
  deriving DecidableEq, Repr

namespace Xml.Element

/-- The control that an element is, or nothing. -/
def asControl (e : Element) : List Control :=
  if e.tag = "control" then
    [⟨e.attribute? "id", e.attribute? "datafieldname", e.attribute? "indicationOfSubgrid"⟩]
  else []

/-- The controls among an element and the elements in it, in document order. -/
def controls (e : Element) : List Control :=
  e.collect asControl

/-- An element of another tag has the controls of the elements in it. -/
@[simp] theorem controls_parent {tag : String} (other : tag ≠ "control")
    (attributes : List Attribute) (children : List Element) :
    (Element.parent tag attributes children).controls = children.flatMap (·.controls) := by
  have own : (Element.parent tag attributes children).asControl = [] := if_neg other
  rw [controls, collect_parent, own, List.nil_append]
  rfl

/-- An empty element of another tag has none. -/
@[simp] theorem controls_empty {tag : String} (other : tag ≠ "control")
    (attributes : List Attribute) :
    (Element.empty tag attributes).controls = [] := by
  rw [controls, collect_empty]
  exact if_neg other

/-- A text of another tag has none. -/
@[simp] theorem controls_text {tag : String} (other : tag ≠ "control") (attributes : List Attribute)
    (content : String) : (Element.text tag attributes content).controls = [] := by
  rw [controls, collect_text]
  exact if_neg other

/-- A container without attributes has the controls of the elements in it. -/
@[simp] theorem controls_group {tag : String} (other : tag ≠ "control") (children : List Element) :
    (group tag children).controls = children.flatMap (·.controls) :=
  controls_parent other [] children

/-- A leaf of another tag has none. -/
@[simp] theorem controls_leaf {tag : String} (other : tag ≠ "control") (content : String) :
    (leaf tag content).controls = [] :=
  controls_text other [] content

/-- Texts in a language have none. -/
@[simp] theorem controls_localized {container item : String} (outer : container ≠ "control")
    (inner : item ≠ "control") (description language : String) :
    (localized container item description language).controls = [] := by
  rw [localized, controls_group outer, List.flatMap_singleton, controls_empty inner]

/-- Labels have none. -/
@[simp] theorem controls_labels (description language : String) :
    (labels description language).controls = [] :=
  controls_localized (by decide) (by decide) description language

end Xml.Element

/-! ## What a form shows -/

/-- The control of a field. -/
def FormField.control (f : FormField) (scope : TableScope) : Control where
  id := some (scope.names.resolve f.name)
  column := some (scope.names.resolve f.name)
  gridMark := none

/-- The control of a subgrid. -/
def Subgrid.control (g : Subgrid) : Control where
  id := some g.name
  column := none
  gridMark := some "true"

/-- The controls of a section: those of its fields, then those of its subgrids. -/
def FormSection.controls (s : FormSection) (scope : TableScope) : List Control :=
  s.fields.map (·.control scope) ++ s.subgrids.map (·.control)

namespace Form

/-- The fields in the header of a form, which only a main form shows. -/
def shownHeader (f : Form) : List FormField :=
  match f.kind with
  | .main => f.header
  | .quickCreate => []

/-- The fields that a form shows: those of its sections, then those of its header. -/
def shownFields (f : Form) : List FormField :=
  f.shownSections.flatMap (·.fields) ++ f.shownHeader

end Form

/-! ## Rows -/

section

variable (scope : TableScope) (form : String)

/-- The cell of a field holds its control. -/
theorem FormField.controls_cellXml (f : FormField) (language : String) (seed : Seed)
    (more : List Xml.Attribute) (plain : more.lookup "indicationOfSubgrid" = none) :
    ((f.bind scope).cellXml language seed more).controls = [f.control scope] := by
  have control : (Element.empty "control"
      (("id", (f.bind scope).column) :: ("classid", (f.bind scope).controlClass) ::
        ("datafieldname", (f.bind scope).column) :: more)).controls = [f.control scope] := by
    rw [Element.controls, collect_empty]
    simp [Element.asControl, FormField.bind, FormField.control, List.lookup_cons, plain]
  simp [BoundField.cellXml, control]

/-- The row of a field in a section holds its control. -/
theorem FormField.controls_rowXml (f : FormField) :
    (f.rowXml scope form).controls = [f.control scope] := by
  have cell := f.controls_cellXml scope scope.language (Seed.cell scope.names.entity form f.name)
    [("disabled", if f.isReadOnly then "true" else "false")] rfl
  simp [rowXml, cell]

/-- The row of a field in the header holds its control. -/
theorem FormField.controls_headerRowXml (f : FormField) :
    (f.headerRowXml scope form).controls = [f.control scope] := by
  have cell := f.controls_cellXml scope scope.language
    (Seed.headerCell scope.names.entity form f.name) [] rfl
  simp [headerRowXml, cell]

/-- The row of a subgrid holds its control. -/
theorem Subgrid.controls_rowXml (g : Subgrid) : (g.rowXml scope form).controls = [g.control] := by
  -- The parameters of the grid stand inside its control, and none of them is one.
  have control (parameters : Element) (none : parameters.controls = []) :
      (Element.parent "control" [("indicationOfSubgrid", "true"), ("id", g.name),
        ("classid", subgridClass)] [parameters]).controls = [g.control] := by
    rw [Element.controls, collect_parent, List.flatMap_singleton]
    rw [Element.controls] at none
    rw [none]
    rfl
  have parameters (leaves : List Element) (none : ∀ e ∈ leaves, e.controls = []) :
      (Xml.group "parameters" leaves).controls = [] := by
    rw [Element.controls_group (by decide), List.flatMap_eq_nil_iff]
    exact none
  rw [rowXml, Element.controls_group (by decide), List.flatMap_singleton,
    Element.controls_parent (by decide), List.flatMap_cons, Element.controls_labels,
    List.nil_append, List.flatMap_singleton]
  exact control _ (parameters _ (by simp))

/-! ## Sections, tabs and forms -/

/-- The element of a section holds the controls of the section. -/
theorem FormSection.controls_toXml (s : FormSection) :
    (s.toXml scope form).controls = s.controls scope := by
  have fields : (s.fields.map (·.rowXml scope form)).flatMap (·.controls) =
      s.fields.map (·.control scope) := by
    rw [List.flatMap_map, List.map_eq_flatMap]
    exact List.flatMap_congr fun f _ => f.controls_rowXml scope form
  have grids : (s.subgrids.map (·.rowXml scope form)).flatMap (·.controls) =
      s.subgrids.map (·.control) := by
    rw [List.flatMap_map, List.map_eq_flatMap]
    exact List.flatMap_congr fun g _ => g.controls_rowXml scope form
  simp only [toXml, ne_eq, String.reduceEq, not_false_eq_true, Element.controls_parent,
    Element.controls_group, Element.controls_labels, List.flatMap_cons, List.flatMap_nil,
    List.flatMap_append, List.nil_append, List.append_nil, fields, grids]
  rfl

/-- The element of a section has one row for each of the section's controls, in order. -/
theorem FormSection.rows_toXml (s : FormSection) :
    ((s.toXml scope form).select ["rows", "row"]).map (·.controls) =
      (s.controls scope).map fun control => [control] := by
  have fields := selectFrom_map_nil "row" (fun f : FormField => f.rowXml scope form)
    (fun _ => rfl) s.fields
  have grids := selectFrom_map_nil "row" (fun g : Subgrid => g.rowXml scope form)
    (fun _ => rfl) s.subgrids
  -- The rows are those of the fields and then those of the subgrids, and each holds one control.
  have rows : (s.toXml scope form).select ["rows", "row"] =
      s.fields.map (·.rowXml scope form) ++ s.subgrids.map (·.rowXml scope form) := by
    simp [FormSection.toXml, select_cons, fields, grids]
  have ofFields : (s.fields.map (·.rowXml scope form)).map (·.controls) =
      (s.fields.map (·.control scope)).map fun control => [control] := by
    rw [List.map_map, List.map_map]
    exact List.map_congr_left fun f _ => f.controls_rowXml scope form
  have ofGrids : (s.subgrids.map (·.rowXml scope form)).map (·.controls) =
      (s.subgrids.map (·.control)).map fun control => [control] := by
    rw [List.map_map, List.map_map]
    exact List.map_congr_left fun g _ => g.controls_rowXml scope form
  rw [rows, FormSection.controls, List.map_append, List.map_append, ofFields, ofGrids]

/-- The column of a tab holds the controls of its sections. -/
theorem controls_columnsXml (sections : List FormSection) :
    (columnsXml sections scope form).controls = sections.flatMap (·.controls scope) := by
  have each : (sections.map (·.toXml scope form)).flatMap (·.controls) =
      sections.flatMap (·.controls scope) := by
    rw [List.flatMap_map]
    exact List.flatMap_congr fun s _ => s.controls_toXml scope form
  simp only [columnsXml, ne_eq, String.reduceEq, not_false_eq_true, Element.controls_group,
    Element.controls_parent, List.flatMap_cons, List.flatMap_nil, List.append_nil, each]

/-- The element of a tab holds the controls of its sections. -/
theorem FormTab.controls_toXml (t : FormTab) :
    (t.toXml scope form).controls = t.sections.flatMap (·.controls scope) := by
  simp [toXml, controls_columnsXml]

namespace Form

/-- The header holds the controls of its fields. -/
theorem controls_headerXml (f : Form) :
    (f.headerXml scope).flatMap (·.controls) = f.header.map (·.control scope) := by
  have rows : (f.header.map (·.headerRowXml scope f.schemaName)).flatMap (·.controls) =
      f.header.map (·.control scope) := by
    rw [List.flatMap_map, List.map_eq_flatMap]
    exact List.flatMap_congr fun field _ => field.controls_headerRowXml scope f.schemaName
  rw [headerXml, flatMap_block _ fun none => by simp [none]]
  simp only [ne_eq, String.reduceEq, not_false_eq_true, Element.controls_group,
    Element.controls_parent, List.flatMap_cons, List.flatMap_nil, List.append_nil, rows]

/-- The footer holds no controls: its cells are empty. -/
theorem controls_footerXml (f : Form) : (f.footerXml scope).controls = [] := by
  simp [footerXml]

/-- The body of a form holds the controls of the sections that the form shows, then those of its
header. -/
theorem controls_body (f : Form) :
    (f.body scope).controls =
      f.shownSections.flatMap (·.controls scope) ++ f.shownHeader.map (·.control scope) := by
  cases hk : f.kind with
  | main =>
    have tabs : (f.tabs.map (·.toXml scope f.schemaName)).flatMap (·.controls) =
        (f.tabs.flatMap (·.sections)).flatMap (·.controls scope) := by
      rw [List.flatMap_map, List.flatMap_assoc]
      exact List.flatMap_congr fun t _ => t.controls_toXml scope f.schemaName
    simp only [body, shownSections, shownHeader, hk]
    rw [mainBody, Element.controls_parent (by decide), List.cons_append, List.flatMap_cons,
      Element.controls_group (by decide), tabs, List.flatMap_append, controls_headerXml,
      List.flatMap_singleton, controls_footerXml, List.append_nil]
  | quickCreate =>
    simp [body, shownSections, shownHeader, hk, quickCreateBody, controls_columnsXml]

/-- The element of a form holds the controls of its body. -/
theorem controls_toXml (f : Form) : (f.toXml scope).controls = (f.body scope).controls := by
  have names : (Xml.localizedNames f.displayName scope.language).controls = [] :=
    Element.controls_localized (by decide) (by decide) _ _
  have description : ((f.description.filter (· != "")).map
      (Xml.descriptions · scope.language)).toList.flatMap (·.controls) = [] := by
    refine List.flatMap_eq_nil_iff.2 fun e he => ?_
    obtain ⟨text, -, rfl⟩ := Option.map_eq_some_iff.1 (Option.mem_toList.1 he)
    exact Element.controls_localized (by decide) (by decide) text scope.language
  simp [toXml, names, description]

end Form

/-! ## Records -/

/-- The record of a field that the table does not have. -/
def FormField.unknownNote (f : FormField) : Diagnostic :=
  .warn .formFieldUnknown (scope.names.entity ++ "." ++ f.name)
    "field is not a column of the table"

/-- Whether a field names no column that is valid for the table. -/
def FormField.isUnknown (f : FormField) : Bool :=
  scope.names.resolve f.name ∉ scope.names.valid

/-- Fields leave one record each for those of them that the table does not have. -/
theorem FormField.filterMap_note? (fields : List FormField) :
    fields.filterMap (·.note? scope) =
      (fields.filter (·.isUnknown scope)).map (·.unknownNote scope) := by
  rw [← List.filterMap_eq_map, List.filterMap_filter]
  refine List.filterMap_congr fun f _ => ?_
  unfold note? isUnknown unknownNote
  by_cases known : scope.names.resolve f.name ∈ scope.names.valid <;> simp [known]

/-- The records of unknown fields of a section are those of its fields; what its subgrids leave are
records of other codes. -/
theorem FormSection.withCode_notes (s : FormSection) :
    withCode .formFieldUnknown (s.notes scope) = s.fields.filterMap (·.note? scope) := by
  have fields := FormField.codesIn_notes scope s.fields
  have grids := Subgrid.codesIn_notes scope s.subgrids
  rw [notes, withCode_append, fields.withCode_eq_self, grids.withCode_eq_nil (by decide),
    List.append_nil]

namespace Form

/-- A form records what its shown sections and its shown header do. -/
theorem notes_eq (f : Form) :
    f.notes scope =
      f.shownSections.flatMap (·.notes scope) ++ f.shownHeader.filterMap (·.note? scope) := by
  cases hk : f.kind with
  | main => simp only [notes, shownSections, shownHeader, hk, List.flatMap_assoc]
  | quickCreate =>
    simp only [notes, shownSections, shownHeader, hk, List.filterMap_nil, List.append_nil]

/-- Among the records of a form, those of unknown fields are in the order of its fields. -/
theorem withCode_notes (f : Form) :
    withCode .formFieldUnknown (f.notes scope) = f.shownFields.filterMap (·.note? scope) := by
  have sections : withCode .formFieldUnknown (f.shownSections.flatMap (·.notes scope)) =
      (f.shownSections.flatMap (·.fields)).filterMap (·.note? scope) := by
    rw [withCode, List.filter_flatMap, List.filterMap_flatMap]
    exact List.flatMap_congr fun s _ => s.withCode_notes scope
  have header := FormField.codesIn_notes scope f.shownHeader
  rw [notes_eq, withCode_append, sections, header.withCode_eq_self, shownFields,
    List.filterMap_append]

/-- In document order, the element of a form holds one control for each field and then one for each
subgrid of every section that the form shows, and after them one for each field of a main form's
header; the control of a field is named like the column that the field is resolved to and bound to
it. Each section is written with a row of its own for each of its fields and subgrids. And exactly
the fields that are not resolved to a valid column are recorded as unknown, one record for each, in
the same order. -/
theorem layout_conserved (f : Form) :
    (f.toXml scope).controls =
        f.shownSections.flatMap (·.controls scope) ++ f.shownHeader.map (·.control scope) ∧
      ((f.toXml scope).select sectionPath).map
          (fun written => (written.select ["rows", "row"]).map (·.controls)) =
        f.shownSections.map (fun s => (s.controls scope).map fun control => [control]) ∧
      withCode .formFieldUnknown (f.notes scope) =
        (f.shownFields.filter (·.isUnknown scope)).map (·.unknownNote scope) := by
  refine ⟨?_, ?_, ?_⟩
  · rw [controls_toXml, controls_body]
  · rw [select_sections, List.map_map]
    exact List.map_congr_left fun s _ => s.rows_toXml scope f.schemaName
  · rw [withCode_notes, FormField.filterMap_note?]

end Form

end

end SpecBundle
