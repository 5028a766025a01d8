import SpecBundle.CommandLine.Run

/-!
# The program

The files that a build can touch are read into a tree, the command line runs on the tree, and what
it changed is written back. Programs are not started from here, so a checker counts as one that
does not exist.
-/

namespace SpecBundle.Program

/-! ## Reading the disk -/

/-- A path on the disk. -/
def onDisk (path : String) :=
  IO.currentDir >>= fun here => pure (here / path)

/-- What stands at a path, without what lies in it, or nothing. -/
def look (path : String) : IO (Option Entry) := do
  let place ← onDisk path
  if ← place.isDir then return some .directory
  else if ← place.pathExists then return some (.file (← IO.FS.readBinFile place))
  else return none

/-- A tree with what stands at a path. The directories that the path goes through are known. -/
def learn (t : FileTree) (path : String) : IO FileTree := do
  match t.locate path, ← look path with
  | .ok place, some entry => return if (t.get? place).isSome then t else t.put place entry
  | _, _ => return t

/-- A tree with what stands at a path and at all that it lies in. -/
def learnWay (t : FileTree) (path : String) : IO FileTree :=
  (Path.lineage path).reverse.foldlM (fun t p => if p == "" then return t else learn t p) t

/-- A tree with all that lies in a directory. -/
partial def learnContents (t : FileTree) (path : String) : IO FileTree := do
  if !t.isDirectory path then return t
  let inside ← (← onDisk path).readDir
  inside.foldlM (fun t item => do
    let below := Path.join path item.fileName
    learnContents (← learn t below) below) t

/-- A tree with a path and all that lies in it. -/
def learnAll (t : FileTree) (path : String) : IO FileTree := do
  learnContents (← learnWay t path) path

/-- The files that a build can touch. -/
def snapshot (options : BuildOptions) : IO FileTree := do
  let origin := (← IO.currentDir).toString
  let t ← learnWay FileTree.empty origin
  let t := { t with origin := (t.locate origin).toOption.getD [] }
  let t ← learnAll t options.specs
  match Project.read t options.manifest with
  | .error _ => return t
  | .ok project =>
    let archive := options.archive project
    [project.viewsDir, project.formsDir, stagingDir archive, checkDir archive].foldlM learnAll
      (← learnWay t archive)

/-! ## Writing the disk -/

/-- The path of a place. -/
def pathOf (place : Place) : String :=
  "/" ++ "/".intercalate place

/-- Removes what a run removed. -/
def removeGone (earlier later : FileTree) : IO Unit := do
  for (place, entry) in earlier.entries do
    if (later.get? place).isNone then
      match entry with
      | .directory =>
        if ← (← onDisk (pathOf place)).isDir then IO.FS.removeDirAll (pathOf place)
      | .file _ =>
        if ← (← onDisk (pathOf place)).pathExists then IO.FS.removeFile (pathOf place)

/-- Whether a tree has something at a place. -/
def has (t : FileTree) (place : Place) : Entry → Bool
  | .directory => (t.get? place).any (·.isDirectory)
  | .file content =>
    match t.get? place with
    | some (.file there) => there.toList == content.toList
    | _ => false

/-- Writes what a run wrote. -/
def writeNew (earlier later : FileTree) : IO Unit := do
  let changed := later.entries.filter fun e => !has earlier e.1 e.2
  for (place, entry) in changed do
    match entry with
    | .directory => IO.FS.createDirAll (pathOf place)
    | .file content =>
      IO.FS.createDirAll (pathOf place.dropLast)
      IO.FS.writeBinFile (pathOf place) content

/-- Where no program exists. -/
def noPrograms : Launcher := fun _ _ _ _ => .notStarted .notFound

/-- The files that a request needs. -/
def filesFor : CommandLine.Request → IO FileTree
  | .build options _ => snapshot options
  | _ => return FileTree.empty

end SpecBundle.Program

open SpecBundle Program in
/-- Runs the program. -/
def main (arguments : List String) : IO UInt32 := do
  let files ← filesFor (CommandLine.Request.ofArguments arguments)
  let run := CommandLine.run noPrograms arguments files
  removeGone files run.files
  writeNew files run.files
  for line in run.output do IO.println line
  if let some text := run.error then IO.eprintln text
  return UInt32.ofNat run.status
