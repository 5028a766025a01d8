import SpecBundle.Proofs.Identifiers.Element
import SpecBundle.Document.Customizations

/-!
# The seeds of generated objects

`DataModel.seeds` lists what the identifiers of all objects of a build are derived from: for each
table its forms, main forms first, and then its views, and for each form the form, its tabs,
sections and cells, its header and its footer, all in document order.
-/

namespace SpecBundle

open Xml (objectIdentifiers objectIdentifiers_of_not_mem objectTags identifierTags)

/-! ## Forms -/

/-- The seeds of a section and its cells. -/
def FormSection.seeds (s : FormSection) (entity form : String) : List Seed :=
  Seed.sectionOf entity form s.name ::
    (s.fields.map (Seed.cell entity form ·.name) ++
      s.subgrids.map (Seed.subgrid entity form ·.name))

/-- The seeds of a tab and its sections. -/
def FormTab.seeds (t : FormTab) (entity form : String) : List Seed :=
  Seed.tab entity form t.name :: t.sections.flatMap (·.seeds entity form)

namespace Form

/-- The seeds of a form's header, if it has one. -/
def headerSeeds (f : Form) (entity : String) : List Seed :=
  if f.header.isEmpty then []
  else Seed.header entity f.schemaName ::
    f.header.map (Seed.headerCell entity f.schemaName ·.name)

/-- The seeds of a form's footer. -/
def footerSeeds (f : Form) (entity : String) : List Seed :=
  Seed.footer entity f.schemaName :: [0, 1, 2].map (Seed.footerCell entity f.schemaName)

/-- The seeds of a form's body, whose parts depend on the kind of the form. -/
def bodySeeds (f : Form) (entity : String) : List Seed :=
  match f.kind with
  | .main =>
    f.tabs.flatMap (·.seeds entity f.schemaName) ++ f.headerSeeds entity ++ f.footerSeeds entity
  | .quickCreate =>
    Seed.tab entity f.schemaName "quicktab" :: f.sections.flatMap (·.seeds entity f.schemaName)

/-- The seeds of a form and all that is in it. -/
def seeds (f : Form) (entity : String) : List Seed :=
  Seed.form entity f.schemaName :: f.bodySeeds entity

end Form

section

variable (scope : TableScope) (form : String)

/-- The row of a field in a section bears the identifier of its cell. -/
theorem FormField.identifiers_rowXml (f : FormField) :
    (f.rowXml scope form).identifiers = [(Seed.cell scope.names.entity form f.name).braced] := by
  simp [rowXml, BoundField.cellXml, objectIdentifiers, objectTags]

/-- The row of a field in the header bears the identifier of its cell. -/
theorem FormField.identifiers_headerRowXml (f : FormField) :
    (f.headerRowXml scope form).identifiers =
      [(Seed.headerCell scope.names.entity form f.name).braced] := by
  simp [headerRowXml, BoundField.cellXml, objectIdentifiers, objectTags]

/-- The row of a subgrid bears the identifier of its cell. -/
theorem Subgrid.identifiers_rowXml (g : Subgrid) :
    (g.rowXml scope form).identifiers = [(Seed.subgrid scope.names.entity form g.name).braced] := by
  simp [rowXml, objectIdentifiers, objectTags, identifierTags]

/-- A section bears the identifiers of its seeds. -/
theorem FormSection.identifiers_toXml (s : FormSection) :
    (s.toXml scope form).identifiers = (s.seeds scope.names.entity form).map Seed.braced := by
  have own : objectIdentifiers "section"
      [("showlabel", "true"), ("showbar", "false"), ("IsUserDefined", "0"),
        ("id", (Seed.sectionOf scope.names.entity form s.name).braced), ("columns", "1")] =
      [(Seed.sectionOf scope.names.entity form s.name).braced] := by
    simp [objectIdentifiers, objectTags, List.lookup_cons]
  rw [toXml, Xml.identifiers_parent, own]
  simp only [List.flatMap_cons, List.flatMap_nil, List.append_nil, List.nil_append,
    Xml.identifiers_labels, Xml.identifiers_group, List.flatMap_append, List.flatMap_map,
    FormField.identifiers_rowXml, Subgrid.identifiers_rowXml, ← List.map_eq_flatMap]
  simp only [seeds, List.map_cons, List.map_append, List.map_map, List.singleton_append]
  rfl

/-- The sections of a tab bear the identifiers of their seeds. -/
theorem identifiers_columnsXml (sections : List FormSection) :
    (columnsXml sections scope form).identifiers =
      (sections.flatMap (·.seeds scope.names.entity form)).map Seed.braced := by
  have own : objectIdentifiers "column" [("width", "100%")] = [] :=
    objectIdentifiers_of_not_mem (by decide) _
  simp only [columnsXml, Xml.identifiers_group, Xml.identifiers_parent, own, List.flatMap_cons,
    List.flatMap_nil, List.append_nil, List.nil_append, List.flatMap_map,
    FormSection.identifiers_toXml, List.map_flatMap]

/-- A tab bears the identifiers of its seeds. -/
theorem FormTab.identifiers_toXml (t : FormTab) :
    (t.toXml scope form).identifiers = (t.seeds scope.names.entity form).map Seed.braced := by
  have own : objectIdentifiers "tab"
      [("verticallayout", "true"), ("id", (Seed.tab scope.names.entity form t.name).braced),
        ("IsUserDefined", "1"), ("showlabel", "true"), ("expanded", "true")] =
      [(Seed.tab scope.names.entity form t.name).braced] := by
    simp [objectIdentifiers, objectTags, List.lookup_cons]
  simp only [toXml, Xml.identifiers_parent, own, List.flatMap_cons, List.flatMap_nil,
    List.append_nil, List.nil_append, Xml.identifiers_labels, identifiers_columnsXml, seeds,
    List.map_cons, List.singleton_append]

end

namespace Form

variable (f : Form) (scope : TableScope)

/-- The header of a form bears the identifiers of its seeds. -/
theorem identifiers_headerXml :
    (f.headerXml scope).flatMap (·.identifiers) =
      (f.headerSeeds scope.names.entity).map Seed.braced := by
  have own : objectIdentifiers "header"
      [("id", (Seed.header scope.names.entity f.schemaName).braced),
        ("celllabelposition", "Top"), ("columns", "1"), ("labelwidth", "115")] =
      [(Seed.header scope.names.entity f.schemaName).braced] := by
    simp [objectIdentifiers, objectTags]
  unfold headerXml headerSeeds
  split
  · rfl
  · simp only [List.flatMap_cons, List.flatMap_nil, List.append_nil, Xml.identifiers_parent, own,
      Xml.identifiers_group, List.flatMap_map, FormField.identifiers_headerRowXml,
      ← List.map_eq_flatMap, List.map_cons, List.map_map, List.singleton_append]
    rfl

/-- The footer of a form bears the identifiers of its seeds. -/
theorem identifiers_footerXml :
    (f.footerXml scope).identifiers = (f.footerSeeds scope.names.entity).map Seed.braced := by
  simp [footerXml, footerSeeds, objectIdentifiers, objectTags]

/-- The body of a form bears the identifiers of its seeds. -/
theorem identifiers_body :
    (f.body scope).identifiers = (f.bodySeeds scope.names.entity).map Seed.braced := by
  cases hk : f.kind with
  | main =>
    have own : objectIdentifiers "form" [("headerdensity", "HighWithControls")] = [] :=
      objectIdentifiers_of_not_mem (by decide) _
    simp only [Form.body, bodySeeds, hk, mainBody, Xml.identifiers_parent, own, List.nil_append,
      List.flatMap_cons, List.flatMap_append, List.flatMap_nil, List.append_nil, List.cons_append,
      Xml.identifiers_group, List.flatMap_map, FormTab.identifiers_toXml, identifiers_headerXml,
      identifiers_footerXml, List.map_append, List.map_flatMap, List.append_assoc]
  | quickCreate =>
    have own : objectIdentifiers "tab"
        [("verticallayout", "true"),
          ("id", (Seed.tab scope.names.entity f.schemaName "quicktab").braced),
          ("IsUserDefined", "1")] =
        [(Seed.tab scope.names.entity f.schemaName "quicktab").braced] := by
      simp [objectIdentifiers, objectTags, List.lookup_cons]
    simp only [Form.body, bodySeeds, hk, quickCreateBody, Xml.identifiers_group,
      Xml.identifiers_parent, own, List.flatMap_cons, List.flatMap_nil, List.append_nil,
      List.nil_append, Xml.identifiers_labels, identifiers_columnsXml, List.map_cons,
      List.singleton_append]

/-- A form bears the identifiers of its seeds. -/
theorem identifiers_toXml :
    (f.toXml scope).identifiers = (f.seeds scope.names.entity).map Seed.braced := by
  simp [toXml, identifiers_body, identifierTags, seeds]

end Form

end SpecBundle
