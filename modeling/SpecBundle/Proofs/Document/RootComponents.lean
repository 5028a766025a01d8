import SpecBundle.Document.Package
import SpecBundle.Proofs.Document.Entities
import SpecBundle.Proofs.Samples

/-!
# What a manifest lists

An import takes the components that the manifest of a package lists from the customizations, and
refuses a package in which the two differ. Yet they are written apart: the manifest goes through the
tables and environment variables of the model, and the customizations through the entities that were
made of the tables, and each looks by itself whether environment variables are generated. They agree
(`Package.listedComponents_eq`): entry by entry, the manifest lists the entities of the
customizations and then their definitions of environment variables.
-/

namespace SpecBundle

open Xml (Element select_cons selectFrom selectFrom_map_nil selectFrom_of_ne)

/-! ## The manifest -/

namespace Manifest

/-- Where the root components stand in a manifest. -/
def componentPath : List String :=
  ["SolutionManifest", "RootComponents", "RootComponent"]

/-- The types and names of the root components that a manifest lists, in document order. -/
def listedComponents (manifest : Element) : List (Option String × Option String) :=
  (manifest.select componentPath).map fun c => (c.attribute? "type", c.attribute? "schemaName")

variable (m : DataModel) (p : Project)

/-- A manifest lists the root components of the model. -/
theorem listedComponents_root :
    listedComponents (root m p) =
      (rootComponents m p).map fun c => (some c.type.code, some c.schemaName) := by
  have publisher : (publisherXml p.publisher p.language).tag = "Publisher" := rfl
  have inner := selectFrom_map_nil "RootComponent" componentXml (fun _ => rfl) (rootComponents m p)
  have selected : (root m p).select componentPath = (rootComponents m p).map componentXml := by
    simp [root, componentPath, select_cons, publisher, inner]
  rw [listedComponents, selected, List.map_map]
  rfl

end Manifest

/-! ## The customizations -/

namespace Customizations

/-- Where the definitions of environment variables stand in a document. -/
def definitionPath : List String :=
  ["environmentvariabledefinitions", "environmentvariabledefinition"]

/-- The names of the entities of a document, in document order. -/
def entityNames (document : Element) : List (Option String) :=
  (document.select ["Entities", "Entity"]).map fun entity => (entity.texts ["Name"]).head?

/-- The names of the environment variables that a document defines, in document order. -/
def definitionNames (document : Element) : List (Option String) :=
  (document.select definitionPath).map (·.attribute? "schemaName")

variable {m : DataModel} {p : Project} {es : List (Table × Entity)}

/-- The entities of a document are called like the tables. -/
theorem entityNames_root (made : entities m p m.tables = .ok es) :
    entityNames (root m p es) = m.tables.map fun t => some t.logicalName := by
  refine map_select_entities (fun t e entity => ?_) made
  rw [texts_name_entityXml entity, List.head?_cons]

/-- The definitions of a document are those of the environment variables, if they are generated. -/
theorem select_definitions (es : List (Table × Entity)) :
    (root m p es).select definitionPath =
      if p.emitEnvironmentVariables then
        m.environmentVariables.map (·.toXml p.version p.language)
      else [] := by
  have inner := selectFrom_map_nil "environmentvariabledefinition"
    (fun v : EnvironmentVariable => v.toXml p.version p.language) (fun _ => rfl)
    m.environmentVariables
  rw [root, frame, definitionPath, select_cons]
  cases p.emitEnvironmentVariables <;>
    simp [tag_blockXml, EnvironmentVariable.blocksXml, select_cons, inner]

/-- The definitions of a document are called like the environment variables, and there are none if
they are not generated. -/
theorem definitionNames_root (es : List (Table × Entity)) :
    definitionNames (root m p es) =
      if p.emitEnvironmentVariables then
        m.environmentVariables.map fun v => some v.schemaName
      else [] := by
  rw [definitionNames, select_definitions]
  split
  · rw [List.map_map]
    rfl
  · rfl

end Customizations

/-! ## The package -/

namespace Package

variable {m : DataModel} {p : Project}

/-- The documents of a package are made from the customizations. -/
theorem exists_members_of_documents {documents : List (String × String)}
    (h : (Package.documents m p).result = .ok documents) :
    ∃ customizations, Customizations.result m p = .ok customizations ∧
      documents = members m p customizations := by
  rw [result_documents] at h
  cases made : Customizations.result m p with
  | error e =>
    rw [made] at h
    cases h
  | ok customizations =>
    rw [made] at h
    cases h
    exact ⟨customizations, rfl, rfl⟩

/-- Of the documents of a package, the manifest lists the entities of the customizations and then
the definitions of environment variables, each by its name and in the order of the customizations.
Where environment variables are not generated there are none of the latter in either document. -/
theorem listedComponents_eq {documents : List (String × String)}
    (h : (Package.documents m p).result = .ok documents) :
    ∃ customizations, Customizations.result m p = .ok customizations ∧
      documents = [("[Content_Types].xml", contentTypes),
        ("solution.xml", Xml.document (Manifest.root m p)),
        ("customizations.xml", Xml.document customizations)] ∧
      Manifest.listedComponents (Manifest.root m p) =
        (Customizations.entityNames customizations).map (some "1", ·) ++
          (Customizations.definitionNames customizations).map (some "380", ·) ∧
      (p.emitEnvironmentVariables = false →
        Customizations.definitionNames customizations = []) := by
  obtain ⟨customizations, generated, rfl⟩ := exists_members_of_documents h
  obtain ⟨es, made, rfl⟩ := Customizations.exists_entities_of_result generated
  refine ⟨_, generated, rfl, ?_, fun off => ?_⟩
  · rw [Manifest.listedComponents_root, Customizations.entityNames_root made,
      Customizations.definitionNames_root, Manifest.rootComponents, List.map_append, List.map_map,
      List.map_map]
    -- Both documents look at the one switch of the project.
    cases p.emitEnvironmentVariables with
    | false => rfl
    | true =>
      simp only [if_true, List.map_map]
      rfl
  · rw [Customizations.definitionNames_root, off, if_neg Bool.false_ne_true]

end Package

namespace Sample

/-- A text that is set for each environment. -/
def environmentVariable (schemaName : String) : EnvironmentVariable where
  schemaName := schemaName
  displayName := schemaName
  description := ""
  type := .string
  defaultValue := none

/-- A model of two tables and two environment variables, one of which is called like a table. -/
def settings : DataModel :=
  { model
      [table "Call" "Title" [column "Title" (.text none)],
        table "Agency" "Title" [column "Title" (.text none)]]
      [] with
    environmentVariables := [environmentVariable "seo_Endpoint", environmentVariable "agency"] }

/-- A project that generates environment variables. -/
def emitting : Project :=
  { project with emitEnvironmentVariables := true }

end Sample

namespace Package

/-- A package with two entities and two definitions, one of which is called like an entity. -/
theorem listedComponents_eq_settings :
    ∃ documents customizations,
      (Package.documents Sample.settings Sample.emitting).result = .ok documents ∧
      Customizations.result Sample.settings Sample.emitting = .ok customizations ∧
      Manifest.listedComponents (Manifest.root Sample.settings Sample.emitting) =
        [(some "1", some "call"), (some "1", some "agency"), (some "380", some "seo_Endpoint"),
          (some "380", some "agency")] ∧
      Manifest.listedComponents (Manifest.root Sample.settings Sample.emitting) =
        (Customizations.entityNames customizations).map (some "1", ·) ++
          (Customizations.definitionNames customizations).map (some "380", ·) := by
  obtain ⟨customizations, generated, -, agree, -⟩ :=
    listedComponents_eq (m := Sample.settings) (p := Sample.emitting) rfl
  exact ⟨_, customizations, rfl, generated, by decide, agree⟩

end Package

end SpecBundle
