import SpecBundle.Proofs.Identifiers.Document
import SpecBundle.Proofs.Samples

/-!
# Identifiers come from names

A package that is imported again replaces what bears the same identifier, so an edit of a label or
of an order must not give anything a new one. Two models name the same (`DataModel.SameNames`) when
their tables, views and forms, and in the forms the tabs, sections, fields and subgrids, bear the
same names, whatever else they say and in whatever order they stand at each level. The documents
of such models bear the same identifiers (`Customizations.identifiers_perm`).
-/

namespace SpecBundle

/-! ## Naming the same -/

/-- Sections of one name whose fields and subgrids bear the same names. -/
structure FormSection.SameNames (s s' : FormSection) : Prop where
  /-- The name. -/
  name : s.name = s'.name
  /-- The fields, by their names. -/
  fields : Reordered (fun f f' => f.name = f'.name) s.fields s'.fields
  /-- The subgrids, by their names. -/
  subgrids : Reordered (fun g g' => g.name = g'.name) s.subgrids s'.subgrids

/-- Tabs of one name whose sections name the same. -/
structure FormTab.SameNames (t t' : FormTab) : Prop where
  /-- The name. -/
  name : t.name = t'.name
  /-- The sections with their fields and subgrids. -/
  sections : Reordered FormSection.SameNames t.sections t'.sections

/-- Forms of one name, table and kind, all of whose parts name the same. -/
structure Form.SameNames (f f' : Form) : Prop where
  /-- The name. -/
  schemaName : f.schemaName = f'.schemaName
  /-- The table. -/
  entity : f.entity = f'.entity
  /-- The kind. -/
  kind : f.kind = f'.kind
  /-- The fields in the header, by their names. -/
  header : Reordered (fun c c' => c.name = c'.name) f.header f'.header
  /-- The tabs with their sections. -/
  tabs : Reordered FormTab.SameNames f.tabs f'.tabs
  /-- The sections of a quick create form. -/
  sections : Reordered FormSection.SameNames f.sections f'.sections

/-- Models whose tables, views and forms name the same. Their labels, descriptions and widths are
not compared, nor is the order in which anything stands. -/
structure DataModel.SameNames (m m' : DataModel) : Prop where
  /-- The tables, by their names. -/
  tables : Reordered (fun t t' => t.schemaName = t'.schemaName) m.tables m'.tables
  /-- The views, by their names and tables. -/
  views : Reordered (fun v v' => v.schemaName = v'.schemaName ∧ v.entity = v'.entity)
    m.views m'.views
  /-- The forms with all their parts. -/
  forms : Reordered Form.SameNames m.forms m'.forms

/-! ## Equal seeds -/

section Forms

variable {entity form : String}

/-- Sections that name the same have the same seeds. -/
theorem FormSection.SameNames.seeds_perm {s s' : FormSection} (h : s.SameNames s') :
    (s.seeds entity form).Perm (s'.seeds entity form) := by
  unfold FormSection.seeds
  rw [h.name]
  refine ((h.fields.map_perm fun f f' same => ?_).append
    (h.subgrids.map_perm fun g g' same => ?_)).cons _
  · rw [same]
  · rw [same]

/-- Tabs that name the same have the same seeds. -/
theorem FormTab.SameNames.seeds_perm {t t' : FormTab} (h : t.SameNames t') :
    (t.seeds entity form).Perm (t'.seeds entity form) := by
  unfold FormTab.seeds
  rw [h.name]
  exact (h.sections.flatMap_perm fun s s' same => same.seeds_perm).cons _

namespace Form.SameNames

variable {f f' : Form} (h : f.SameNames f')

include h

/-- The headers of forms that name the same have the same seeds. -/
theorem headerSeeds_perm : (f.headerSeeds entity).Perm (f'.headerSeeds entity) := by
  unfold headerSeeds
  rw [h.header.isEmpty_eq, h.schemaName]
  split
  · exact .nil
  · exact (h.header.map_perm fun c c' same => by rw [same]).cons _

/-- The bodies of forms that name the same have the same seeds. -/
theorem bodySeeds_perm : (f.bodySeeds entity).Perm (f'.bodySeeds entity) := by
  have tabs : (f.tabs.flatMap (·.seeds entity f'.schemaName)).Perm
      (f'.tabs.flatMap (·.seeds entity f'.schemaName)) :=
    h.tabs.flatMap_perm fun t t' same => same.seeds_perm
  have sections : (f.sections.flatMap (·.seeds entity f'.schemaName)).Perm
      (f'.sections.flatMap (·.seeds entity f'.schemaName)) :=
    h.sections.flatMap_perm fun s s' same => same.seeds_perm
  have footer : f.footerSeeds entity = f'.footerSeeds entity := by
    unfold footerSeeds
    rw [h.schemaName]
  unfold bodySeeds
  rw [h.kind, h.schemaName, footer]
  cases f'.kind with
  | main => exact (tabs.append h.headerSeeds_perm).append_right _
  | quickCreate => exact sections.cons _

/-- Forms that name the same have the same seeds. -/
theorem seeds_perm : (f.seeds entity).Perm (f'.seeds entity) := by
  unfold seeds
  rw [h.schemaName]
  exact h.bodySeeds_perm.cons _

end Form.SameNames

end Forms

namespace DataModel.SameNames

variable {m m' : DataModel} (h : m.SameNames m')

include h

/-- A table's views and forms in models that name the same have the same seeds. -/
theorem seedsOf_perm {t t' : Table} (same : t.schemaName = t'.schemaName) :
    (m.seedsOf t).Perm (m'.seedsOf t') := by
  have logicalName : t.logicalName = t'.logicalName := by
    unfold Table.logicalName
    rw [same]
  have forms : Reordered Form.SameNames (m.formsOf t) (m'.formsOf t') :=
    h.forms.filter fun f f' sameForm => by rw [sameForm.entity, same]
  have views : Reordered (fun v v' => v.schemaName = v'.schemaName ∧ v.entity = v'.entity)
      (m.viewsOf t) (m'.viewsOf t') :=
    h.views.filter fun v v' sameView => by rw [sameView.2, same]
  have formSeeds : ((m.formsOf t).flatMap (·.seeds t'.logicalName)).Perm
      ((m'.formsOf t').flatMap (·.seeds t'.logicalName)) :=
    forms.flatMap_perm fun f f' sameForm => sameForm.seeds_perm
  -- Main forms are written before the others, whatever the order of the forms.
  have written := (m.writtenForms_perm t).flatMap_right (·.seeds t'.logicalName)
  have written' := (m'.writtenForms_perm t').flatMap_right (·.seeds t'.logicalName)
  have viewSeeds : ((m.viewsOf t).map (Seed.view t'.logicalName ·.schemaName)).Perm
      ((m'.viewsOf t').map (Seed.view t'.logicalName ·.schemaName)) :=
    views.map_perm fun v v' sameView => by rw [sameView.1]
  unfold DataModel.seedsOf
  rw [logicalName]
  exact ((written.trans formSeeds).trans written'.symm).append viewSeeds

/-- Models that name the same have the same seeds. -/
theorem seeds_perm : m.seeds.Perm m'.seeds :=
  h.tables.flatMap_perm fun _ _ same => h.seedsOf_perm same

end DataModel.SameNames

/-! ## Equal identifiers -/

namespace Customizations

/-- The documents of models that name the same bear the same identifiers, each as often, whatever
project they are made for. -/
theorem identifiers_perm {m m' : DataModel} {p p' : Project} {document document' : Xml.Element}
    (same : m.SameNames m') (made : result m p = .ok document)
    (made' : result m' p' = .ok document') :
    document.identifiers.Perm document'.identifiers := by
  rw [identifiers_result made, identifiers_result made']
  exact same.seeds_perm.map Seed.braced

end Customizations

namespace Sample

/-- A section of two fields and two grids, each list in the order that `order` brings it into, with
one label for everything. -/
def arrangedSection (order : {α : Type} → List α → List α) (label name : String) :
    FormSection where
  name := name
  label := label
  fields := order [⟨"Region", some label, false⟩, ⟨"Town", none, true⟩]
  subgrids := order [{ subgrid "calls" "Call" "agency_calls" with label := label },
    { subgrid "open" "Call" "agency_calls" with label := label }]

/-- A model with two tables, views and forms, and on the forms with two of each part. Every list is
in the order that `order` brings it into, and everything that is shown is the given label. -/
def arranged (order : {α : Type} → List α → List α) (label : String) : DataModel where
  tables := order
    [{ table "Agency" "Region" [column "Region" (.text none), column "Town" (.text none)] with
        displayName := label, pluralName := label, description := label },
      table "Call" "Title" [column "Title" (.text none), column "Unit" (.lookup "Agency")]]
  choices := []
  environmentVariables := []
  views := order
    [{ plainView "agencies" "Agency" with
        displayName := label, columns := [⟨"Region", label.length⟩] },
      plainView "towns" "agency"]
  forms := order
    [{ schemaName := "agency_main"
       displayName := label
       entity := "Agency"
       description := some label
       kind := .main
       header := order [⟨"Region", some label, false⟩, ⟨"Town", none, false⟩]
       tabs := order [⟨"general", label, order [arrangedSection order label "overview",
         arrangedSection order label "more"]⟩, ⟨"details", label, []⟩]
       sections := [] },
      { schemaName := "agency_quick"
        displayName := label
        entity := "AGENCY"
        description := none
        kind := .quickCreate
        header := []
        tabs := []
        sections := order [arrangedSection order label "first",
          arrangedSection order label "second"] }]

end Sample

namespace Customizations

/-- Everything is relabelled and every list is turned round. -/
theorem identifiers_perm_arranged :
    ∃ document document',
      (Sample.arranged (fun l => l) "Agency").SameNames
        (Sample.arranged (fun l => l.reverse) "Bureau") ∧
      result (Sample.arranged (fun l => l) "Agency") Sample.project = .ok document ∧
      result (Sample.arranged (fun l => l.reverse) "Bureau") Sample.project = .ok document' ∧
      document.identifiers.Perm document'.identifiers := by
  have sections : ∀ name, (Sample.arrangedSection (fun l => l) "Agency" name).SameNames
      (Sample.arrangedSection (fun l => l.reverse) "Bureau" name) := fun name =>
    ⟨rfl, .swap rfl rfl, .swap rfl rfl⟩
  have general : FormTab.SameNames
      ⟨"general", "Agency", [Sample.arrangedSection (fun l => l) "Agency" "overview",
        Sample.arrangedSection (fun l => l) "Agency" "more"]⟩
      ⟨"general", "Bureau", [Sample.arrangedSection (fun l => l.reverse) "Bureau" "more",
        Sample.arrangedSection (fun l => l.reverse) "Bureau" "overview"]⟩ :=
    ⟨rfl, .swap (sections "overview") (sections "more")⟩
  have details : FormTab.SameNames ⟨"details", "Agency", []⟩ ⟨"details", "Bureau", []⟩ :=
    ⟨rfl, .nil⟩
  have same : (Sample.arranged (fun l => l) "Agency").SameNames
      (Sample.arranged (fun l => l.reverse) "Bureau") := by
    refine ⟨.swap rfl rfl, .swap ⟨rfl, rfl⟩ ⟨rfl, rfl⟩, .swap ?_ ?_⟩
    · exact ⟨rfl, rfl, rfl, .swap rfl rfl, .swap general details, .nil⟩
    · exact ⟨rfl, rfl, rfl, .nil, .nil, .swap (sections "first") (sections "second")⟩
  exact ⟨_, _, same, rfl, rfl, identifiers_perm same rfl rfl⟩

end Customizations

end SpecBundle
