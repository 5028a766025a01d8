import SpecBundle.FileTree.Basic
import SpecBundle.Json.Parser
import SpecBundle.Spec.Decode
import SpecBundle.Spec.Project
import SpecBundle.Text.Utf8

/-!
# The tree of specifications

A project file names the project and the directories of its views and forms. Tables, choices and
environment variables lie at fixed places beside it. Files are read in the order of their names,
so the result does not depend on the order in which a directory lists them, and the first file
that cannot be read or understood ends the reading.
-/

namespace SpecBundle

open Json

/-- Reads a publisher. -/
def Publisher.ofJson? : Decoder Publisher := fun v => do
  let r ← v.record? [
    ("uniqueName", .required), ("friendlyName", .required), ("description", .defaulted),
    ("prefix", .required), ("optionValuePrefix", .defaulted)]
  return {
    uniqueName := ← r.required? "uniqueName" text?
    friendlyName := ← r.required? "friendlyName" text?
    description := ← r.getD? "description" text? ""
    namePrefix := ← r.required? "prefix" text?
    optionValuePrefix := ← r.getD? "optionValuePrefix" (unsigned? 32) 10000 }

/-- A directory inside another as a project file names it, where a backslash counts as a slash. -/
def directoryIn (root name : String) : String :=
  Path.join root (String.ofList (name.toList.map fun c => if c = '\\' then '/' else c))

/-- Reads a project whose file lies in the given directory. -/
def Project.ofJson? (root : String) : Decoder Project := fun v => do
  let r ← v.record? [
    ("uniqueName", .required), ("friendlyName", .optional), ("description", .defaulted),
    ("version", .defaulted), ("languageCode", .defaulted), ("publisher", .required),
    ("viewsDir", .defaulted), ("formsDir", .defaulted), ("emitEnvironmentVariables", .defaulted)]
  let name ← r.required? "uniqueName" text?
  return {
    name
    friendlyName := (← r.optional? "friendlyName" text?).getD name
    description := ← r.getD? "description" text? ""
    version := ← r.getD? "version" text? "1.0.0.0"
    languageCode := ← r.getD? "languageCode" (unsigned? 32) 1033
    publisher := ← r.required? "publisher" Publisher.ofJson?
    root
    viewsDir := directoryIn root (← r.getD? "viewsDir" text? "views")
    formsDir := directoryIn root (← r.getD? "formsDir" text? "forms")
    emitEnvironmentVariables := ← r.getD? "emitEnvironmentVariables" bool? false }

/-- Reads the global choices of a choices file, in the order of their names. -/
def choicesFile? : Decoder (List GlobalChoice) := fun v => do
  let r ← v.record? [("choices", .defaulted)]
  let entries ← r.getD? "choices" (entries? GlobalChoice.bodyOfJson?) []
  return entries.map fun entry => entry.2 entry.1

/-- Reads the variables of a file of environment variables. -/
def variablesFile? : Decoder (List EnvironmentVariable) := fun v => do
  let r ← v.record? [("variables", .defaulted)]
  r.getD? "variables" (list? EnvironmentVariable.ofJson?) []

/-- Reads the views of a file. A view that names no table belongs to that of the file. -/
def viewsFile? : Decoder (List View) := fun v => do
  let r ← v.record? [("entity", .defaulted), ("views", .defaulted)]
  let entity ← r.getD? "entity" text? ""
  let views ← r.getD? "views" (list? View.ofJson?) []
  return views.map fun view => if view.entity == "" then { view with entity } else view

/-- Reads the forms of a file. -/
def formsFile? : Decoder (List Form) := fun v => do
  let r ← v.record? [("forms", .defaulted)]
  r.getD? "forms" (list? Form.ofJson?) []

namespace SpecTree

/-- What a file holds. Its bytes are UTF-8, and a byte order mark at their start is no part of
the text. -/
def readFile (t : FileTree) (decode : Decoder α) (path : String) : Except BuildError α := do
  match t.read path with
  | .error cause => throw (.unreadableSpec path cause)
  | .ok bytes =>
    match Utf8.strict? bytes.toList with
    | none => throw (.unreadableSpec path .invalidData)
    | some text =>
      match (Value.parse? text).bind fun value => decode ⟨value, 0⟩ with
      | none => throw (.malformedSpec path)
      | some a => return a

/-- What a file holds, or nothing if there is no file. -/
def readIfPresent (t : FileTree) (decode : Decoder (List α)) (path : String) :
    Except BuildError (List α) :=
  if t.contains path then readFile t decode path else return []

/-- The specification files directly in a directory, in the order of their names. -/
def filesIn (t : FileTree) (directory : String) : List String :=
  ((t.names directory).map (Path.join directory)).filter fun path =>
    t.isFile path && Path.extension? path == some "json"

/-- What the files of a directory hold, file by file. -/
def readAll (t : FileTree) (decode : Decoder α) (directory : String) :
    Except BuildError (List α) :=
  (filesIn t directory).mapM (readFile t decode)

/-- The file of the global choices. -/
def choicesPath (root : String) : String :=
  Path.join (Path.join (Path.join root "datamodel") "choices") "global-choices.json"

/-- The directory of the tables. -/
def tablesDir (root : String) : String :=
  Path.join (Path.join root "datamodel") "tables"

/-- The file of the environment variables. -/
def variablesPath (root : String) : String :=
  Path.join (Path.join root "solution") "environment-variables.json"

end SpecTree

/-- The project that a project file describes. Its specifications lie where the file lies. -/
def Project.read (t : FileTree) (path : String) : Except BuildError Project :=
  SpecTree.readFile t (Project.ofJson? ((Path.parent? path).getD ".")) path

/-- The specifications of a project. There must be a table at least. -/
def DataModel.read (t : FileTree) (p : Project) : Except BuildError DataModel := do
  let choices ← SpecTree.readIfPresent t choicesFile? (SpecTree.choicesPath p.root)
  let tables ← SpecTree.readAll t Table.ofJson? (SpecTree.tablesDir p.root)
  if tables.isEmpty then
    throw (.invalidSpec ("no table specs found under " ++ SpecTree.tablesDir p.root))
  let environmentVariables ←
    SpecTree.readIfPresent t variablesFile? (SpecTree.variablesPath p.root)
  let views ← SpecTree.readAll t viewsFile? p.viewsDir
  let forms ← SpecTree.readAll t formsFile? p.formsDir
  return { tables, choices, environmentVariables, views := views.flatten, forms := forms.flatten }

end SpecBundle
