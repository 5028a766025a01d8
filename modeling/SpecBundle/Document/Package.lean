import SpecBundle.Document.Manifest

/-!
# The documents of a package

A package holds three documents in a fixed order. All of them are made before anything is
written, so a specification that cannot be generated leaves nothing behind.
-/

namespace SpecBundle.Package

/-- The document that tells the types of the others. -/
def contentTypes : String :=
  Xml.document (.parent "Types"
    [("xmlns", "http://schemas.openxmlformats.org/package/2006/content-types")]
    [.empty "Default" [("Extension", "xml"), ("ContentType", "application/octet-stream")]])

/-- The documents by their names, given the root of the customizations. -/
def members (m : DataModel) (p : Project) (customizations : Xml.Element) :
    List (String × String) :=
  [("[Content_Types].xml", contentTypes),
    ("solution.xml", Xml.document (Manifest.root m p)),
    ("customizations.xml", Xml.document customizations)]

/-- The documents of a package and the records of their generation. -/
def documents (m : DataModel) (p : Project) : Outcome (List (String × String)) := do
  let customizations ← Customizations.generate m p
  return members m p customizations

variable (m : DataModel) (p : Project)

/-- There are documents exactly if there are customizations. -/
theorem result_documents :
    (documents m p).result = (Customizations.result m p).map (members m p) := by
  rw [documents, bind_pure_comp, Outcome.result_map, Customizations.result]

/-- The records are those of the customizations. -/
theorem notes_documents : (documents m p).notes = Customizations.notes m p := by
  rw [documents, bind_pure_comp, Outcome.notes_map, Customizations.notes]

end SpecBundle.Package
