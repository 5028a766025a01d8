import SpecBundle.Proofs.Identifiers.Document
import SpecBundle.Proofs.Identifiers.SeedText
import SpecBundle.Proofs.Text.Lowercase
import Mathlib.Tactic.MkIffOfInductiveProp

/-!
# Names of the objects of a build

`DataModel.NamedApart` is what the author of a specification has to see to: what stands side by
side in one table, form, tab or section has names of its own, and no name has a colon. Lowercasing
brings no colon in, so all seeds of such a build are without colons
(`DataModel.colonFree_of_mem_seeds`).
-/

namespace SpecBundle

/-! ## Names -/

namespace FormSection

/-- The names of the fields of a section. -/
def fieldNames (s : FormSection) : List String :=
  s.fields.map (·.name)

/-- The names of the subgrids of a section. -/
def subgridNames (s : FormSection) : List String :=
  s.subgrids.map (·.name)

/-- The names in a section. -/
def names (s : FormSection) : List String :=
  s.name :: (s.fieldNames ++ s.subgridNames)

end FormSection

/-- The names in a tab. -/
def FormTab.names (t : FormTab) : List String :=
  t.name :: t.sections.flatMap (·.names)

namespace Form

/-- The names in a form. -/
def names (f : Form) : List String :=
  f.schemaName :: (f.header.map (·.name) ++ f.tabs.flatMap (·.names) ++
    f.sections.flatMap (·.names))

/-- The parts of a form are named apart where they stand side by side. -/
@[mk_iff]
structure NamedApart (f : Form) : Prop where
  /-- The tabs. -/
  tabs : (f.tabs.map (·.name)).Nodup
  /-- The fields of the header. -/
  header : (f.header.map (·.name)).Nodup
  /-- The sections of a tab. -/
  sections : ∀ t ∈ f.tabs, (t.sections.map (·.name)).Nodup
  /-- The sections of a quick create form. -/
  quickSections : (f.sections.map (·.name)).Nodup
  /-- The fields of a section. -/
  fields : ∀ s ∈ f.tabs.flatMap (·.sections) ++ f.sections, s.fieldNames.Nodup
  /-- The subgrids of a section. -/
  subgrids : ∀ s ∈ f.tabs.flatMap (·.sections) ++ f.sections, s.subgridNames.Nodup

instance (f : Form) : Decidable f.NamedApart :=
  decidable_of_iff' _ (namedApart_iff f)

end Form

namespace DataModel

/-- The names of tables, forms and views and of the parts of forms. -/
def names (m : DataModel) : List String :=
  m.tables.map (·.schemaName) ++ m.forms.flatMap (·.names) ++ m.views.map (·.schemaName)

/-- What is in one place is named apart, and no name has a colon. -/
@[mk_iff]
structure NamedApart (m : DataModel) : Prop where
  /-- The tables. -/
  tables : (m.tables.map (·.logicalName)).Nodup
  /-- The forms of a table. -/
  forms : ∀ t ∈ m.tables, ((m.formsOf t).map (·.schemaName)).Nodup
  /-- The views of a table. -/
  views : ∀ t ∈ m.tables, ((m.viewsOf t).map (·.schemaName)).Nodup
  /-- The parts of a form. -/
  parts : ∀ f ∈ m.forms, f.NamedApart
  /-- Colons only join names. -/
  colonFree : ∀ name ∈ m.names, ':' ∉ name.toList

instance (m : DataModel) : Decidable m.NamedApart :=
  decidable_of_iff' _ (namedApart_iff m)

end DataModel

/-! ## Seeds without colons -/

namespace Seed

variable {kind entity form name : String}

/-- The seed of an object of a table. -/
theorem colonFree_of_object (hk : ':' ∉ kind.toList) (he : ':' ∉ entity.toList)
    (hf : ':' ∉ form.toList) : ColonFree ⟨kind, [entity, form]⟩ := by
  simp [ColonFree, hk, he, hf]

/-- The seed of a part of an object of a table. -/
theorem colonFree_of_part (hk : ':' ∉ kind.toList) (he : ':' ∉ entity.toList)
    (hf : ':' ∉ form.toList) (hn : ':' ∉ name.toList) :
    ColonFree ⟨kind, [entity, form, name]⟩ := by
  simp [ColonFree, hk, he, hf, hn]

end Seed

variable {entity form : String} {seed : Seed}

/-- The seeds of a section without colons are without colons. -/
theorem FormSection.colonFree_of_mem_seeds {s : FormSection} (he : ':' ∉ entity.toList)
    (hf : ':' ∉ form.toList) (hs : ∀ name ∈ s.names, ':' ∉ name.toList)
    (h : seed ∈ s.seeds entity form) : seed.ColonFree := by
  simp only [names, fieldNames, subgridNames, List.forall_mem_cons, List.forall_mem_append,
    List.forall_mem_map] at hs
  simp only [seeds, List.mem_cons, List.mem_append, List.mem_map] at h
  rcases h with rfl | ⟨field, mem, rfl⟩ | ⟨grid, mem, rfl⟩
  · exact Seed.colonFree_of_part (by decide) he hf hs.1
  · exact Seed.colonFree_of_part (by decide) he hf (hs.2.1 field mem)
  · exact Seed.colonFree_of_part (by decide) he hf (hs.2.2 grid mem)

/-- The seeds of a tab without colons are without colons. -/
theorem FormTab.colonFree_of_mem_seeds {t : FormTab} (he : ':' ∉ entity.toList)
    (hf : ':' ∉ form.toList) (ht : ∀ name ∈ t.names, ':' ∉ name.toList)
    (h : seed ∈ t.seeds entity form) : seed.ColonFree := by
  rw [names, List.forall_mem_cons] at ht
  rcases List.mem_cons.1 h with rfl | inner
  · exact Seed.colonFree_of_part (by decide) he hf ht.1
  · obtain ⟨s, hs, mem⟩ := List.mem_flatMap.1 inner
    exact FormSection.colonFree_of_mem_seeds he hf
      (fun name hn => ht.2 name (List.mem_flatMap.2 ⟨s, hs, hn⟩)) mem

namespace Form

variable {f : Form}

/-- The seeds of a header without colons are without colons. -/
theorem colonFree_of_mem_headerSeeds (he : ':' ∉ entity.toList)
    (hf : ∀ name ∈ f.names, ':' ∉ name.toList) (h : seed ∈ f.headerSeeds entity) :
    seed.ColonFree := by
  simp only [names, List.forall_mem_cons, List.forall_mem_append, List.forall_mem_map] at hf
  unfold headerSeeds at h
  split at h
  · exact absurd h List.not_mem_nil
  · simp only [List.mem_cons, List.mem_map] at h
    rcases h with rfl | ⟨field, mem, rfl⟩
    · exact Seed.colonFree_of_object (by decide) he hf.1
    · exact Seed.colonFree_of_part (by decide) he hf.1 (hf.2.1.1 field mem)

/-- The seeds of a footer are without colons. -/
theorem colonFree_of_mem_footerSeeds (he : ':' ∉ entity.toList)
    (hf : ':' ∉ f.schemaName.toList) (h : seed ∈ f.footerSeeds entity) : seed.ColonFree := by
  simp only [footerSeeds, List.map_cons, List.map_nil, List.mem_cons, List.not_mem_nil,
    or_false] at h
  rcases h with rfl | rfl | rfl | rfl
  · exact Seed.colonFree_of_object (by decide) he hf
  all_goals exact Seed.colonFree_of_part (by decide) he hf (by decide)

/-- The seeds of a form without colons are without colons. -/
theorem colonFree_of_mem_seeds (he : ':' ∉ entity.toList)
    (hf : ∀ name ∈ f.names, ':' ∉ name.toList) (h : seed ∈ f.seeds entity) : seed.ColonFree := by
  -- The names in a section or a tab are names in the form.
  have own : ':' ∉ f.schemaName.toList := hf _ List.mem_cons_self
  have inner : ∀ s ∈ f.sections, ∀ name ∈ s.names, ':' ∉ name.toList := by
    intro s hs name hn
    exact hf name (List.mem_cons_of_mem _ (List.mem_append_right _
      (List.mem_flatMap.2 ⟨s, hs, hn⟩)))
  have tabs : ∀ t ∈ f.tabs, ∀ name ∈ t.names, ':' ∉ name.toList := by
    intro t ht name hn
    exact hf name (List.mem_cons_of_mem _ (List.mem_append_left _ (List.mem_append_right _
      (List.mem_flatMap.2 ⟨t, ht, hn⟩))))
  rcases List.mem_cons.1 h with rfl | body
  · exact Seed.colonFree_of_object (by decide) he own
  cases hk : f.kind with
  | main =>
    simp only [bodySeeds, hk, List.mem_append, List.mem_flatMap] at body
    rcases body with (⟨t, ht, mem⟩ | header) | footer
    · exact FormTab.colonFree_of_mem_seeds he own (tabs t ht) mem
    · exact colonFree_of_mem_headerSeeds he hf header
    · exact colonFree_of_mem_footerSeeds he own footer
  | quickCreate =>
    simp only [bodySeeds, hk, List.mem_cons, List.mem_flatMap] at body
    rcases body with rfl | ⟨s, hs, mem⟩
    · exact Seed.colonFree_of_part (by decide) he own (by decide)
    · exact FormSection.colonFree_of_mem_seeds he own (inner s hs) mem

end Form

namespace DataModel

variable {m : DataModel} {t : Table}

/-- The forms of a table are written in two groups. -/
theorem mem_writtenForms {f : Form} : f ∈ m.writtenForms t ↔ f ∈ m.formsOf t := by
  cases hk : f.kind <;> simp [writtenForms, formsOfKind, hk]

/-- The seeds of a build whose names are without colons are without colons. -/
theorem colonFree_of_mem_seeds (hm : ∀ name ∈ m.names, ':' ∉ name.toList)
    (h : seed ∈ m.seeds) : seed.ColonFree := by
  simp only [names, List.forall_mem_append, List.forall_mem_map] at hm
  obtain ⟨⟨tables, forms⟩, views⟩ := hm
  obtain ⟨t, ht, mem⟩ := List.mem_flatMap.1 h
  -- Only this name is not one of the author's, but the lowercase form of one.
  have own : ':' ∉ t.logicalName.toList := fun colon =>
    tables t ht (Text.mem_of_mem_lowercase (by decide) (by decide) colon)
  rcases List.mem_append.1 mem with form | view
  · obtain ⟨f, hf, mem⟩ := List.mem_flatMap.1 form
    have listed : f ∈ m.forms := List.mem_of_mem_filter (mem_writtenForms.1 hf)
    exact Form.colonFree_of_mem_seeds own
      (fun name hn => forms name (List.mem_flatMap.2 ⟨f, listed, hn⟩)) mem
  · obtain ⟨v, hv, rfl⟩ := List.mem_map.1 view
    exact Seed.colonFree_of_object (by decide) own (views v (List.mem_of_mem_filter hv))

end DataModel

end SpecBundle
