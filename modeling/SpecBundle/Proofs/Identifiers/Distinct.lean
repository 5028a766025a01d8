import SpecBundle.Proofs.Identifiers.Named
import SpecBundle.Proofs.Samples
import Mathlib.Data.List.Perm.Basic

/-!
# Which seeds of a build are distinct

A seed names the table, the form and the part of the form, but neither the tab nor the section
that the part stands in. Seeds of different kinds, tables or forms are therefore always distinct,
and those of tabs and headers are where their names are. Two sections of one form, however, share
a seed if they share their name, a field or a subgrid (`FormSection.Apart`), in whichever tabs they
stand. `DataModel.nodup_text_seeds_iff` says that this is the only way.
-/

namespace SpecBundle

/-! ## What a form is made of -/

/-- Two sections share neither their name nor a field nor a subgrid. -/
def FormSection.Apart (s s' : FormSection) : Prop :=
  s.name ≠ s'.name ∧ (∀ name ∈ s.fieldNames, name ∉ s'.fieldNames) ∧
    ∀ name ∈ s.subgridNames, name ∉ s'.subgridNames

instance : DecidableRel FormSection.Apart := fun s s' =>
  inferInstanceAs (Decidable (s.name ≠ s'.name ∧ (∀ name ∈ s.fieldNames, name ∉ s'.fieldNames) ∧
    ∀ name ∈ s.subgridNames, name ∉ s'.subgridNames))

namespace Form

/-- The seeds of a form without those of its sections. -/
def frameSeeds (f : Form) (entity : String) : List Seed :=
  Seed.form entity f.schemaName ::
    match f.kind with
    | .main =>
      f.tabs.map (Seed.tab entity f.schemaName ·.name) ++
        (f.headerSeeds entity ++ f.footerSeeds entity)
    | .quickCreate => [Seed.tab entity f.schemaName "quicktab"]

/-- The seeds of a form are those of its frame and those of its sections. -/
theorem seeds_perm (f : Form) (entity : String) :
    (f.seeds entity).Perm
      (f.frameSeeds entity ++ f.shownSections.flatMap (·.seeds entity f.schemaName)) := by
  refine List.Perm.cons _ ?_
  cases hk : f.kind with
  | main =>
    -- Each tab adds its own seed and those of its sections.
    have tabs : (f.tabs.flatMap (·.seeds entity f.schemaName)).Perm
        (f.tabs.map (Seed.tab entity f.schemaName ·.name) ++
          f.shownSections.flatMap (·.seeds entity f.schemaName)) := by
      rw [shownSections, hk, List.flatMap_assoc]
      exact (List.map_append_flatMap_perm f.tabs _ _).symm
    -- Then the header and the footer, which follow all sections, are moved before them.
    calc f.bodySeeds entity
      _ = f.tabs.flatMap (·.seeds entity f.schemaName) ++
          (f.headerSeeds entity ++ f.footerSeeds entity) := by
        simp only [bodySeeds, hk, List.append_assoc]
      List.Perm _ (f.tabs.map (Seed.tab entity f.schemaName ·.name) ++
          f.shownSections.flatMap (·.seeds entity f.schemaName) ++
          (f.headerSeeds entity ++ f.footerSeeds entity)) := tabs.append_right _
      List.Perm _ (f.tabs.map (Seed.tab entity f.schemaName ·.name) ++
          (f.headerSeeds entity ++ f.footerSeeds entity) ++
          f.shownSections.flatMap (·.seeds entity f.schemaName)) := by
        rw [List.append_assoc, List.append_assoc _ (_ ++ _)]
        exact List.perm_append_comm.append_left _
  | quickCreate => simp [bodySeeds, hk, shownSections]

end Form

/-! ## Kinds -/

/-- The kinds of seeds in a section. -/
def sectionKinds : List String := ["section", "cell", "subgrid"]

/-- The kinds of seeds in the frame of a form. -/
def frameKinds : List String := ["form", "tab", "header", "headercell", "footer", "footercell"]

/-- Seeds of kinds of two lists that share none are distinct. -/
theorem disjoint_of_kinds {xs ys : List Seed} (kinds : List String)
    (hx : ∀ seed ∈ xs, seed.kind ∈ kinds) (hy : ∀ seed ∈ ys, seed.kind ∉ kinds) :
    List.Disjoint xs ys :=
  fun _ first second => hy _ second (hx _ first)

variable {entity form : String} {seed : Seed}

/-- A seed in a section names its table and its form. -/
theorem FormSection.of_mem_seeds {s : FormSection} (h : seed ∈ s.seeds entity form) :
    seed.kind ∈ sectionKinds ∧ ∃ name, seed.parts = [entity, form, name] := by
  simp only [seeds, List.mem_cons, List.mem_append, List.mem_map] at h
  rcases h with rfl | ⟨field, -, rfl⟩ | ⟨grid, -, rfl⟩
  all_goals exact ⟨by simp [sectionKinds, Seed.sectionOf, Seed.cell, Seed.subgrid], _, rfl⟩

namespace Form

variable {f : Form}

/-- A seed in the frame of a form names the table and the form. -/
theorem of_mem_frameSeeds (h : seed ∈ f.frameSeeds entity) :
    seed.kind ∈ frameKinds ∧ ∃ rest, seed.parts = entity :: f.schemaName :: rest := by
  rcases List.mem_cons.1 h with rfl | inner
  · exact ⟨by simp [frameKinds, Seed.form], _, rfl⟩
  cases hk : f.kind with
  | main =>
    simp only [hk, headerSeeds, footerSeeds, List.mem_append, List.mem_map, List.mem_cons,
      List.mem_ite_nil_left] at inner
    rcases inner with ⟨t, -, rfl⟩ | ⟨-, rfl | ⟨field, -, rfl⟩⟩ | rfl | ⟨index, -, rfl⟩
    all_goals
      refine ⟨?_, _, rfl⟩
      simp [frameKinds, Seed.tab, Seed.header, Seed.headerCell, Seed.footer, Seed.footerCell]
  | quickCreate =>
    rw [hk] at inner
    obtain rfl := List.mem_singleton.1 inner
    exact ⟨by simp [frameKinds, Seed.tab], _, rfl⟩

/-- A seed of a form is of one of the kinds of forms and names the table and the form. -/
theorem of_mem_seeds (h : seed ∈ f.seeds entity) :
    seed.kind ∈ frameKinds ++ sectionKinds ∧
      ∃ rest, seed.parts = entity :: f.schemaName :: rest := by
  rcases List.mem_append.1 ((f.seeds_perm entity).mem_iff.1 h) with frame | inner
  · obtain ⟨kind, rest⟩ := of_mem_frameSeeds frame
    exact ⟨List.mem_append_left _ kind, rest⟩
  · obtain ⟨s, -, mem⟩ := List.mem_flatMap.1 inner
    obtain ⟨kind, name, parts⟩ := FormSection.of_mem_seeds mem
    exact ⟨List.mem_append_right _ kind, [name], parts⟩

end Form

/-! ## The seeds of a form -/

/-- Parts of one kind of one object have distinct seeds exactly if they have distinct names. -/
theorem Seed.nodup_map_part_iff (kind entity form : String) (names : List String) :
    (names.map fun name => Seed.mk kind [entity, form, name]).Nodup ↔ names.Nodup := by
  refine List.nodup_map_iff ?_
  intro name name' h
  simpa using h

/-- The seeds of sections, grouped by their kinds. -/
theorem flatMap_seeds_perm (sections : List FormSection) :
    (sections.flatMap (·.seeds entity form)).Perm
      (sections.map (Seed.sectionOf entity form ·.name) ++
        ((sections.flatMap (·.fieldNames)).map (Seed.cell entity form) ++
          (sections.flatMap (·.subgridNames)).map (Seed.subgrid entity form))) := by
  have cells : (sections.flatMap (·.fieldNames)).map (Seed.cell entity form) =
      sections.flatMap fun s => s.fields.map (Seed.cell entity form ·.name) := by
    simp only [List.map_flatMap, FormSection.fieldNames, List.map_map]
    rfl
  have grids : (sections.flatMap (·.subgridNames)).map (Seed.subgrid entity form) =
      sections.flatMap fun s => s.subgrids.map (Seed.subgrid entity form ·.name) := by
    simp only [List.map_flatMap, FormSection.subgridNames, List.map_map]
    rfl
  rw [cells, grids]
  -- Section by section there is first the section's own seed and then those of its cells.
  calc (sections.flatMap (·.seeds entity form)).Perm
        (sections.map (Seed.sectionOf entity form ·.name) ++ sections.flatMap fun s =>
          s.fields.map (Seed.cell entity form ·.name) ++
            s.subgrids.map (Seed.subgrid entity form ·.name)) :=
      (List.map_append_flatMap_perm sections _ _).symm
    List.Perm _ _ := (List.flatMap_append_perm sections _ _).symm.append_left _

/-- The seeds of sections are distinct exactly if the sections share nothing. -/
theorem nodup_flatMap_seeds_iff {sections : List FormSection}
    (fields : ∀ s ∈ sections, s.fieldNames.Nodup)
    (subgrids : ∀ s ∈ sections, s.subgridNames.Nodup) :
    (sections.flatMap (·.seeds entity form)).Nodup ↔ sections.Pairwise FormSection.Apart := by
  -- Each of the three groups is distinct exactly if the names are that it is made from.
  have names : (sections.map (Seed.sectionOf entity form ·.name)).Nodup ↔
      sections.Pairwise fun s s' => s.name ≠ s'.name := by
    have apart := Seed.nodup_map_part_iff "section" entity form (sections.map (·.name))
    rw [List.map_map] at apart
    exact apart.trans List.pairwise_map
  have cells : ((sections.flatMap (·.fieldNames)).map (Seed.cell entity form)).Nodup ↔
      sections.Pairwise fun s s' => List.Disjoint s.fieldNames s'.fieldNames := by
    refine (Seed.nodup_map_part_iff "cell" entity form _).trans ?_
    exact List.nodup_flatMap.trans (and_iff_right fields)
  have grids : ((sections.flatMap (·.subgridNames)).map (Seed.subgrid entity form)).Nodup ↔
      sections.Pairwise fun s s' => List.Disjoint s.subgridNames s'.subgridNames := by
    refine (Seed.nodup_map_part_iff "subgrid" entity form _).trans ?_
    exact List.nodup_flatMap.trans (and_iff_right subgrids)
  -- The groups are of different kinds.
  have parts : List.Disjoint ((sections.flatMap (·.fieldNames)).map (Seed.cell entity form))
      ((sections.flatMap (·.subgridNames)).map (Seed.subgrid entity form)) := by
    rw [List.disjoint_iff_ne]
    simp only [List.forall_mem_map]
    intro field _ grid _
    simp [Seed.cell, Seed.subgrid]
  have own : List.Disjoint (sections.map (Seed.sectionOf entity form ·.name))
      ((sections.flatMap (·.fieldNames)).map (Seed.cell entity form) ++
        (sections.flatMap (·.subgridNames)).map (Seed.subgrid entity form)) := by
    rw [List.disjoint_iff_ne]
    simp only [List.forall_mem_map, List.forall_mem_append]
    intro s _
    constructor <;> intro name _ <;> simp [Seed.sectionOf, Seed.cell, Seed.subgrid]
  rw [(flatMap_seeds_perm sections).nodup_iff, List.nodup_append', List.nodup_append', names,
    cells, grids, and_iff_left parts, and_iff_left own, ← List.pairwise_and_iff,
    ← List.pairwise_and_iff]
  rfl

namespace Form

variable {f : Form}

/-- The seeds of a header are distinct if its fields are. -/
theorem nodup_headerSeeds (h : (f.header.map (·.name)).Nodup) : (f.headerSeeds entity).Nodup := by
  unfold headerSeeds
  split
  · exact List.nodup_nil
  · rw [List.nodup_cons]
    constructor
    · simp [Seed.header, Seed.headerCell]
    · have cells := (Seed.nodup_map_part_iff "headercell" entity f.schemaName _).2 h
      rwa [List.map_map] at cells

/-- The seeds of a footer are distinct. -/
theorem nodup_footerSeeds : (f.footerSeeds entity).Nodup := by
  have apart : ([0, 1, 2].map Decimal.ofNat).Nodup := by decide
  rw [footerSeeds, List.nodup_cons]
  constructor
  · simp [Seed.footer, Seed.footerCell]
  · have cells := (Seed.nodup_map_part_iff "footercell" entity f.schemaName _).2 apart
    rwa [List.map_map] at cells

/-- The kinds of seeds in a header. -/
theorem kind_of_mem_headerSeeds (h : seed ∈ f.headerSeeds entity) :
    seed.kind ∈ ["header", "headercell"] := by
  unfold headerSeeds at h
  split at h
  · exact absurd h List.not_mem_nil
  · simp only [List.mem_cons, List.mem_map] at h
    rcases h with rfl | ⟨field, -, rfl⟩ <;> simp [Seed.header, Seed.headerCell]

/-- The kinds of seeds in a footer. -/
theorem kind_of_mem_footerSeeds (h : seed ∈ f.footerSeeds entity) :
    seed.kind ∈ ["footer", "footercell"] := by
  simp only [footerSeeds, List.mem_cons, List.mem_map] at h
  rcases h with rfl | ⟨index, -, rfl⟩ <;> simp [Seed.footer, Seed.footerCell]

/-- The seeds in the frame of a form are distinct if its tabs and the fields of its header are. -/
theorem nodup_frameSeeds (h : f.NamedApart) : (f.frameSeeds entity).Nodup := by
  unfold frameSeeds
  rw [List.nodup_cons]
  cases f.kind with
  | main =>
    have tabs : (f.tabs.map (Seed.tab entity f.schemaName ·.name)).Nodup := by
      have named := (Seed.nodup_map_part_iff "tab" entity f.schemaName _).2 h.tabs
      rwa [List.map_map] at named
    have ends : List.Disjoint (f.headerSeeds entity) (f.footerSeeds entity) := by
      refine disjoint_of_kinds _ (fun _ => kind_of_mem_headerSeeds) fun seed hs => ?_
      have kinds : ∀ kind ∈ ["footer", "footercell"], kind ∉ ["header", "headercell"] := by decide
      exact kinds _ (kind_of_mem_footerSeeds hs)
    -- The header and the footer have neither the form's seed nor that of a tab.
    have endKinds : ∀ seed ∈ f.headerSeeds entity ++ f.footerSeeds entity,
        seed.kind ∉ ["form", "tab"] := by
      intro seed hs
      have kinds : ∀ kind ∈ ["header", "headercell"] ++ ["footer", "footercell"],
          kind ∉ ["form", "tab"] := by decide
      refine kinds _ (List.mem_append.2 ?_)
      exact (List.mem_append.1 hs).imp kind_of_mem_headerSeeds kind_of_mem_footerSeeds
    have body : List.Disjoint (f.tabs.map (Seed.tab entity f.schemaName ·.name))
        (f.headerSeeds entity ++ f.footerSeeds entity) := by
      refine disjoint_of_kinds ["form", "tab"] ?_ endKinds
      simp only [List.forall_mem_map]
      intro t _
      simp [Seed.tab]
    constructor
    · intro mem
      rcases List.mem_append.1 mem with tab | last
      · obtain ⟨t, -, same⟩ := List.mem_map.1 tab
        simp [Seed.tab, Seed.form] at same
      · exact endKinds _ last (by simp [Seed.form])
    · rw [List.nodup_append', List.nodup_append']
      exact ⟨tabs, ⟨nodup_headerSeeds h.header, nodup_footerSeeds, ends⟩, body⟩
  | quickCreate => simp [Seed.form, Seed.tab]

/-- The seeds of a form are distinct exactly if no two of its sections share anything. -/
theorem nodup_seeds_iff (h : f.NamedApart) :
    (f.seeds entity).Nodup ↔ f.shownSections.Pairwise FormSection.Apart := by
  have shown : ∀ s ∈ f.shownSections, s ∈ f.tabs.flatMap (·.sections) ++ f.sections := by
    intro s hs
    unfold shownSections at hs
    split at hs
    · exact List.mem_append_left _ hs
    · exact List.mem_append_right _ hs
  -- The frame and the sections have no kind in common, so each can be looked at by itself.
  have apart : List.Disjoint (f.frameSeeds entity)
      (f.shownSections.flatMap (·.seeds entity f.schemaName)) := by
    refine disjoint_of_kinds frameKinds (fun seed hs => (of_mem_frameSeeds hs).1) ?_
    intro seed hs inFrame
    obtain ⟨s, -, mem⟩ := List.mem_flatMap.1 hs
    have kinds : ∀ kind ∈ sectionKinds, kind ∉ frameKinds := by decide
    exact kinds _ (FormSection.of_mem_seeds mem).1 inFrame
  rw [(f.seeds_perm entity).nodup_iff, List.nodup_append', and_iff_left apart,
    and_iff_right (nodup_frameSeeds h)]
  exact nodup_flatMap_seeds_iff (fun s hs => h.fields s (shown s hs))
    (fun s hs => h.subgrids s (shown s hs))

end Form

/-! ## The seeds of a build -/

namespace DataModel

variable {m : DataModel} {t : Table}

/-- The seeds of a table are distinct exactly if those of each of its forms are. -/
theorem nodup_seedsOf_iff (forms : ((m.formsOf t).map (·.schemaName)).Nodup)
    (views : ((m.viewsOf t).map (·.schemaName)).Nodup) :
    (m.seedsOf t).Nodup ↔ ∀ f ∈ m.formsOf t, (f.seeds t.logicalName).Nodup := by
  -- No form has a seed of the kind of views.
  have apart : List.Disjoint ((m.writtenForms t).flatMap (·.seeds t.logicalName))
      ((m.viewsOf t).map (Seed.view t.logicalName ·.schemaName)) := by
    refine disjoint_of_kinds (frameKinds ++ sectionKinds) ?_ ?_
    · intro seed hs
      obtain ⟨f, -, mem⟩ := List.mem_flatMap.1 hs
      exact (Form.of_mem_seeds mem).1
    · simp only [List.forall_mem_map]
      intro v _
      simp [Seed.view, frameKinds, sectionKinds]
  have queries : ((m.viewsOf t).map (Seed.view t.logicalName ·.schemaName)).Nodup := by
    have injective : Function.Injective (Seed.view t.logicalName) := by
      intro name name' h
      simpa [Seed.view] using h
    have named := views.map injective
    rwa [List.map_map] at named
  have written : ((m.writtenForms t).map fun f => some f.schemaName).Nodup := by
    have perm := (m.writtenForms_perm t).map (·.schemaName)
    have named := (perm.nodup_iff.2 forms).map fun _ _ => Option.some.inj
    rwa [List.map_map] at named
  -- The second part of a seed tells the form.
  have keyed : ∀ f ∈ m.writtenForms t, ∀ seed ∈ f.seeds t.logicalName,
      seed.parts[1]? = some f.schemaName := by
    intro f _ seed hs
    obtain ⟨-, rest, parts⟩ := Form.of_mem_seeds hs
    rw [parts]
    rfl
  rw [seedsOf, List.nodup_append', and_iff_left apart, and_iff_left queries,
    nodup_flatMap_iff_of_key keyed written]
  simp only [mem_writtenForms]

/-- A seed of a table names the table. -/
theorem head?_parts_of_mem_seedsOf {seed : Seed} (h : seed ∈ m.seedsOf t) :
    seed.parts.head? = some t.logicalName := by
  rcases List.mem_append.1 h with form | view
  · obtain ⟨f, -, mem⟩ := List.mem_flatMap.1 form
    obtain ⟨-, rest, parts⟩ := Form.of_mem_seeds mem
    rw [parts]
    rfl
  · obtain ⟨v, -, rfl⟩ := List.mem_map.1 view
    rfl

/-- Where all names are apart, the texts from which identifiers are derived are distinct exactly if
no two sections of one form share anything. -/
theorem nodup_text_seeds_iff (h : m.NamedApart) :
    (m.seeds.map Seed.text).Nodup ↔
      ∀ t ∈ m.tables, ∀ f ∈ m.formsOf t, f.shownSections.Pairwise FormSection.Apart := by
  -- Without colons in the names, texts tell the seeds apart.
  have texts : (m.seeds.map Seed.text).Nodup ↔ m.seeds.Nodup := by
    refine ⟨List.Nodup.of_map _, List.Nodup.map_on fun s hs s' hs' same => ?_⟩
    exact Seed.eq_of_text_eq (colonFree_of_mem_seeds h.colonFree hs)
      (colonFree_of_mem_seeds h.colonFree hs') same
  -- The first part of a seed tells the table, and the second one the form.
  have named : (m.tables.map fun t => some t.logicalName).Nodup := by
    have apart := h.tables.map fun _ _ => Option.some.inj
    rwa [List.map_map] at apart
  rw [texts, seeds, nodup_flatMap_iff_of_key (fun t _ _ hs => head?_parts_of_mem_seedsOf hs) named]
  refine forall₂_congr fun t ht => ?_
  rw [nodup_seedsOf_iff (h.forms t ht) (h.views t ht)]
  refine forall₂_congr fun f hf => ?_
  exact Form.nodup_seeds_iff (h.parts f (List.mem_of_mem_filter hf))

/-- Every document bears the identifiers made from the texts of the seeds, in document order. Where
all names are apart, these texts are distinct exactly if no two sections of one form share their
name, a field or a subgrid. -/
theorem identifiers_apart_iff (h : m.NamedApart) :
    (∀ p root, Customizations.result m p = .ok root →
      root.identifiers = (m.seeds.map Seed.text).map fun text => (StableId.ofText text).braced) ∧
    ((m.seeds.map Seed.text).Nodup ↔
      ∀ t ∈ m.tables, ∀ f ∈ m.formsOf t, f.shownSections.Pairwise FormSection.Apart) := by
  refine ⟨fun p root made => ?_, nodup_text_seeds_iff h⟩
  rw [Customizations.identifiers_result made, List.map_map]
  rfl

end DataModel

namespace Sample

/-- A model of one table and one main form with a section in each of its two tabs. -/
def twoTabs (first second : FormSection) : DataModel where
  tables := [table "Agency" "Region" [column "Region" (.text none), column "Town" (.text none)]]
  choices := []
  environmentVariables := []
  views := []
  forms := [{ schemaName := "agency_main"
              displayName := "Agency"
              entity := "Agency"
              description := none
              kind := .main
              header := []
              tabs := [⟨"general", "General", [first]⟩, ⟨"details", "Details", [second]⟩]
              sections := [] }]

/-- A model whose tabs have a section each, of different names. -/
def sectionsApart : DataModel :=
  twoTabs (formSection "overview" ["Region"]) (formSection "address" ["Town"])

/-- A model whose tabs have a section each, of one name. -/
def sectionsAlike : DataModel :=
  twoTabs (formSection "overview" ["Region"]) (formSection "overview" ["Town"])

end Sample

namespace DataModel

/-- A model whose sections share nothing has a text of its own for each object. -/
theorem identifiers_apart_sectionsApart :
    Sample.sectionsApart.NamedApart ∧ (Sample.sectionsApart.seeds.map Seed.text).Nodup := by
  have named : Sample.sectionsApart.NamedApart := by decide
  exact ⟨named, (identifiers_apart_iff named).2.2 (by decide)⟩

/-- Sections of one name in two tabs have one text, although all names are apart. -/
theorem identifiers_shared_sectionsAlike :
    Sample.sectionsAlike.NamedApart ∧ ¬ (Sample.sectionsAlike.seeds.map Seed.text).Nodup := by
  decide

end DataModel

end SpecBundle
