import SpecBundle.FileTree.Basic

/-!
# Changing file trees

An action changes a tree step by step, and what it has done until it fails stays done.
-/

namespace SpecBundle

/-- A change of a file tree that may fail. -/
abbrev FileAction (α : Type) := ExceptT IoError (StateM FileTree) α

namespace FileAction

/-- A change that happens as a whole or not at all. -/
def change (step : FileTree → Except IoError FileTree) : FileAction Unit := do
  match step (← get) with
  | .ok t => set t
  | .error cause => throw cause

/-- Makes a directory, unless it is there. -/
def ensureDirectory (path : String) : FileAction Unit := do
  let t ← get
  match t.makeDirectory path with
  | .ok made => set made
  | .error cause => if t.isDirectory path then return else throw cause

/-- Makes the directory of the first of several paths, each of which lies in the next. Those that
it lies in are made where they are missing. -/
def makeLineage : List String → FileAction Unit
  | [] => throw .notFound
  | path :: above => do
    if path == "" then return
    match (← get).makeDirectory path with
    | .error .notFound =>
      makeLineage above
      ensureDirectory path
    | _ => ensureDirectory path

/-- Makes a directory and whatever it lies in. -/
def makeDirectories (path : String) : FileAction Unit :=
  makeLineage (Path.lineage path)

/-- Writes a file. -/
def write (path : String) (content : ByteArray) : FileAction Unit :=
  change (·.write path content)

/-- Removes a directory and everything in it. Where the path ends in `..` the directory itself
stays, for the path leads through one that is gone by then; and one whose path ends in `.` cannot
be removed once it is empty. -/
def removeDirectory (path : String) : FileAction Unit := do
  let t ← get
  match t.find path, t.locate path with
  | .error cause, _ => throw cause
  | _, .error cause => throw cause
  | .ok (.file _), _ => throw .notADirectory
  | .ok .directory, .ok place =>
    let emptied := t.without (FileTree.liesIn place)
    match (Path.pieces path.toList).reverse.find? (· != []) with
    | some ['.'] =>
      set emptied
      throw .invalidArgument
    | some ['.', '.'] => set emptied
    | _ => set (emptied.without (· == place))

/-- Removes a directory if anything stands at its path. -/
def clear (path : String) : FileAction Unit := do
  if (← get).contains path then removeDirectory path

end FileAction

end SpecBundle
