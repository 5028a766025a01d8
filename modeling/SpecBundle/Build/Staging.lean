import SpecBundle.Archive.Zip
import SpecBundle.Document.Package
import SpecBundle.FileTree.Action

/-!
# Writing a package

The documents of a package are first written to a directory beside the archive, which is made anew
and removed in the end. Where writing fails, what has been written so far stays.
-/

namespace SpecBundle

/-- The directory beside an archive in which its documents are staged. -/
def stagingDir (archive : String) : String :=
  Path.beside archive "_staging"

/-- The directory beside an archive for the results of a checker. -/
def checkDir (archive : String) : String :=
  Path.beside archive "_check"

/-- A change of a file tree that may end a build. -/
abbrev PackageAction (α : Type) := ExceptT BuildError (StateM FileTree) α

/-- A change whose failure is that of writing to a path. -/
def writing (path : String) (action : FileAction α) : PackageAction α := do
  match ← (action.run : StateM FileTree _) with
  | .ok a => return a
  | .error cause => throw (.unwritable path cause)

/-- Writes documents into a directory. -/
def writeDocuments (directory : String) : List (String × String) → PackageAction Unit
  | [] => return
  | (name, text) :: rest => do
    let path := Path.join directory name
    writing path (FileAction.write path text.toUTF8)
    writeDocuments directory rest

/-- Stages the documents of an archive. -/
def stage (archive : String) (documents : List (String × String)) : PackageAction Unit := do
  match Path.parent? archive with
  | none => pure ()
  | some parent => writing archive (FileAction.makeDirectories parent)
  let staging := stagingDir archive
  writing staging (FileAction.clear staging)
  writing staging (FileAction.makeDirectories staging)
  writeDocuments staging documents

/-- Writes an archive of staged documents and removes the stage. -/
def archiveStaged (archive : String) (documents : List (String × String)) :
    PackageAction Unit := do
  let members := documents.map fun document => ⟨document.1, document.2.toUTF8⟩
  writing archive (FileAction.write archive (Zip.encode members))
  let staging := stagingDir archive
  writing staging (FileAction.removeDirectory staging)

end SpecBundle
