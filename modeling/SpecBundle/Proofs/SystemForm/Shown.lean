import SpecBundle.Document.Customizations
import SpecBundle.Proofs.Xml.Path

/-!
# What is shown of a form

A main form shows the sections of its tabs and a quick create form those that stand by themselves.
`Form.select_sections` says that these are the sections of the form's element, in this order, and
`Form.mem_notes_of_section` that what a shown section records is recorded for the form.
-/

namespace SpecBundle

open Xml (Element select_cons selectFrom selectFrom_map selectFrom_map_nil selectFrom_of_ne)

namespace Form

/-- The sections that a form shows, which depend on its kind. -/
def shownSections (f : Form) : List FormSection :=
  match f.kind with
  | .main => f.tabs.flatMap (·.sections)
  | .quickCreate => f.sections

/-- The subgrids that a form shows. -/
def shownSubgrids (f : Form) : List Subgrid :=
  f.shownSections.flatMap (·.subgrids)

/-! ## The sections of an element -/

/-- Where the sections of a tab stand in its element. -/
def tabSectionPath : List String :=
  ["columns", "column", "sections", "section"]

/-- Where the sections of a form stand in the element of its body. -/
def bodySectionPath : List String :=
  "tabs" :: "tab" :: tabSectionPath

/-- Where the sections of a form stand in its element. -/
def sectionPath : List String :=
  "form" :: bodySectionPath

variable (scope : TableScope)

/-- A tab has the sections that are written in its column. -/
theorem select_tab (attributes : List Xml.Attribute) (label : String) (sections : List FormSection)
    (form : String) :
    (Element.parent "tab" attributes
        [Xml.labels label scope.language, columnsXml sections scope form]).select tabSectionPath =
      sections.map (·.toXml scope form) := by
  have inner := selectFrom_map_nil "section" (fun s : FormSection => s.toXml scope form)
    (fun _ => rfl) sections
  simp [tabSectionPath, columnsXml, select_cons, inner]

/-- The body of a form has the sections that the form shows. -/
theorem select_body (f : Form) :
    (f.body scope).select bodySectionPath = f.shownSections.map (·.toXml scope f.schemaName) := by
  cases hk : f.kind with
  | main =>
    have tabs : selectFrom "tab" tabSectionPath (f.tabs.map (·.toXml scope f.schemaName)) =
        f.tabs.flatMap fun t => t.sections.map (·.toXml scope f.schemaName) := by
      rw [selectFrom_map "tab" tabSectionPath _ fun _ => rfl]
      exact List.flatMap_congr fun t _ => select_tab scope _ t.label t.sections f.schemaName
    -- The header and the footer stand beside the tabs.
    have header : selectFrom "tabs" ("tab" :: tabSectionPath) (f.headerXml scope) = [] := by
      unfold headerXml
      split <;> rfl
    have footer : (f.footerXml scope).tag = "footer" := rfl
    simp [body, shownSections, hk, mainBody, bodySectionPath, select_cons, tabs, header, footer,
      List.map_flatMap]
  | quickCreate =>
    simp [body, shownSections, hk, quickCreateBody, bodySectionPath, select_cons, select_tab]

/-- The element of a form has the sections that the form shows. -/
theorem select_sections (f : Form) :
    (f.toXml scope).select sectionPath = f.shownSections.map (·.toXml scope f.schemaName) := by
  have own : (f.body scope).tag = "form" := by
    unfold body
    split <;> rfl
  have description : selectFrom "form" bodySectionPath
      ((f.description.filter (· != "")).map (Xml.descriptions · scope.language)).toList = [] := by
    refine selectFrom_of_ne _ _ fun e he => ?_
    obtain ⟨text, -, rfl⟩ := Option.map_eq_some_iff.1 (Option.mem_toList.1 he)
    rw [Xml.tag_descriptions]
    decide
  simp [toXml, sectionPath, select_cons, own, select_body, description]

/-! ## Records -/

/-- What a shown section records is recorded for the form. -/
theorem mem_notes_of_section {f : Form} {s : FormSection} (hs : s ∈ f.shownSections)
    {d : Diagnostic} (hd : d ∈ s.notes scope) : d ∈ f.notes scope := by
  cases hk : f.kind with
  | main =>
    simp only [shownSections, hk] at hs
    obtain ⟨t, ht, hst⟩ := List.mem_flatMap.1 hs
    have inTabs : d ∈ f.tabs.flatMap fun t => t.sections.flatMap (·.notes scope) :=
      List.mem_flatMap.2 ⟨t, ht, List.mem_flatMap.2 ⟨s, hst, hd⟩⟩
    simp only [notes, hk]
    exact List.mem_append_left _ inTabs
  | quickCreate =>
    simp only [shownSections, hk] at hs
    simp only [notes, hk]
    exact List.mem_flatMap.2 ⟨s, hs, hd⟩

end Form

namespace DataModel

/-- The forms of a table in the order in which they are written. -/
def writtenForms (m : DataModel) (t : Table) : List Form :=
  formsOfKind (m.formsOf t) .main ++ formsOfKind (m.formsOf t) .quickCreate

/-- The forms of a table are written once each. -/
theorem writtenForms_perm (m : DataModel) (t : Table) :
    (m.writtenForms t).Perm (m.formsOf t) := by
  have quick : (m.formsOf t).filter (·.kind == .quickCreate) =
      (m.formsOf t).filter fun f => !(f.kind == .main) := by
    refine List.filter_congr fun f _ => ?_
    cases f.kind <;> rfl
  rw [writtenForms, formsOfKind, formsOfKind, quick]
  exact List.filter_append_perm (·.kind == .main) (m.formsOf t)

end DataModel

end SpecBundle
