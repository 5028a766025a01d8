import SpecBundle.Error
import SpecBundle.Path

/-!
# File trees

A file tree says what stands at which place. A place is the list of names that lead there from the
root, so a path leads to one place at most: `locate` follows a path, and everything that is asked
of the tree goes through it. Links, permissions and names that are no text are left out, so whatever
stands in a tree can be read, listed and removed.
-/

namespace SpecBundle

/-- The names that lead from the root to a file or directory. -/
abbrev Place := List String

/-- What stands at a place. -/
inductive Entry where
  /-- A file of the given bytes. -/
  | file (content : ByteArray)
  /-- A directory. -/
  | directory

/-- Whether it is a directory. -/
def Entry.isDirectory : Entry → Bool
  | .file _ => false
  | .directory => true

/-- Files and directories. -/
structure FileTree where
  /-- What stands where, in any order. The root is not among them: it is always a directory. -/
  entries : List (Place × Entry)
  /-- The place where a relative path starts. -/
  origin : Place
  /-- Only one thing stands at a place. -/
  distinct : (entries.map (·.1)).Nodup

namespace FileTree

/-- The most bytes that a name can have. -/
def maximumName : Nat := 255

/-- The number of bytes that a path must not reach. -/
def pathLimit : Nat := 4096

/-- A tree without anything but its root. -/
def empty : FileTree :=
  ⟨[], [], List.nodup_nil⟩

/-- What stands at a place. -/
def get? (t : FileTree) (place : Place) : Option Entry :=
  if place = [] then some .directory else t.entries.lookup place

/-- The root is a directory. -/
@[simp] theorem get?_root (t : FileTree) : t.get? [] = some .directory := rfl

/-! ## Following paths -/

/-- Follows pieces of a path from a place. Every piece needs a directory to start in, even `.`;
only what the last name leads to may be missing. -/
def walk (t : FileTree) : Place → List (List Char) → Except IoError Place
  | place, [] => .ok place
  | place, piece :: rest =>
    if piece = [] then walk t place rest
    else
      match t.get? place with
      | none => .error .notFound
      | some (.file _) => .error .notADirectory
      | some .directory =>
        let name := String.ofList piece
        if piece = ['.'] then walk t place rest
        else if piece = ['.', '.'] then walk t place.dropLast rest
        else if maximumName < name.utf8ByteSize then .error .nameTooLong
        else walk t (place ++ [name]) rest

/-- The place that a path leads to, where nothing need stand. -/
def locate (t : FileTree) (path : String) : Except IoError Place :=
  if path.toList.contains '\x00' then .error .invalidName
  else if path == "" then .error .notFound
  else if pathLimit ≤ path.utf8ByteSize then .error .nameTooLong
  else t.walk (if Path.isAbsolute path then [] else t.origin) (Path.pieces path.toList)

/-- Whether a path ends in a slash, as only that of a directory may. -/
def endsInSlash (path : String) : Bool :=
  path.toList.getLast? == some '/'

/-- What stands where a path leads to. -/
def find (t : FileTree) (path : String) : Except IoError Entry := do
  match t.get? (← t.locate path) with
  | none => throw .notFound
  | some .directory => return .directory
  | some (.file content) =>
    if endsInSlash path then throw .notADirectory else return .file content

/-- Whether anything stands where a path leads to. -/
def contains (t : FileTree) (path : String) : Bool :=
  (t.find path).toBool

/-- Whether a path leads to a directory. -/
def isDirectory (t : FileTree) (path : String) : Bool :=
  match t.find path with
  | .ok .directory => true
  | _ => false

/-- Whether a path leads to a file. -/
def isFile (t : FileTree) (path : String) : Bool :=
  match t.find path with
  | .ok (.file _) => true
  | _ => false

/-- The bytes of the file that a path leads to. -/
def read (t : FileTree) (path : String) : Except IoError ByteArray := do
  match ← t.find path with
  | .file content => return content
  | .directory => throw .isADirectory

/-- The name of a place that lies directly inside another. -/
def nameIn? (place inner : Place) : Option String :=
  if inner.dropLast = place then inner.getLast? else none

/-- The names in the directory that a path leads to, in their order; none if there is no such
directory. -/
def names (t : FileTree) (path : String) : List String :=
  match t.find path, t.locate path with
  | .ok .directory, .ok place =>
    (t.entries.filterMap fun e => nameIn? place e.1).mergeSort (· ≤ ·)
  | _, _ => []

/-! ## Changes -/

/-- Taking entries away leaves one thing at a place. -/
theorem nodup_filter {entries : List (Place × Entry)} (p : Place × Entry → Bool)
    (h : (entries.map (·.1)).Nodup) : ((entries.filter p).map (·.1)).Nodup :=
  h.sublist (List.filter_sublist.map _)

/-- The tree with a given thing at a place, whatever stood there before. -/
def put (t : FileTree) (place : Place) (e : Entry) : FileTree where
  entries := (place, e) :: t.entries.filter (fun e => e.1 != place)
  origin := t.origin
  distinct := by
    rw [List.map_cons, List.nodup_cons]
    exact ⟨by simp, nodup_filter _ t.distinct⟩

/-- The tree without the entries whose places satisfy a condition. -/
def without (t : FileTree) (drop : Place → Bool) : FileTree where
  entries := t.entries.filter fun e => !drop e.1
  origin := t.origin
  distinct := nodup_filter _ t.distinct

/-- Nothing is found at a place whose entries are taken away, and all else is found as before. -/
theorem lookup_filter (entries : List (Place × Entry)) (drop : Place → Bool) (place : Place) :
    (entries.filter (fun e => !drop e.1)).lookup place =
      if drop place then none else entries.lookup place := by
  induction entries with
  | nil => simp
  | cons e rest ih =>
    obtain ⟨p, thing⟩ := e
    by_cases hp : place = p
    · subst hp
      cases hd : drop place <;> simp [hd, ih]
    · cases hd : drop p <;> simp [List.lookup_cons, hd, ih, beq_false_of_ne hp]

/-- What is left out is gone, and everything else stays. -/
theorem get?_without (t : FileTree) (drop : Place → Bool) (place : Place) (h : place ≠ []) :
    (t.without drop).get? place = if drop place then none else t.get? place := by
  simp [get?, without, h, lookup_filter]

/-- Whether a place lies inside another, at any depth. -/
def liesIn (place inner : Place) : Bool :=
  place.isPrefixOf inner && inner != place

/-- A path without the slashes at its end, unless it has nothing else. -/
def withoutSlashes (path : String) : String :=
  match path.toList.reverse.dropWhile (· == '/') with
  | [] => path
  | rest => String.ofList rest.reverse

/-- The tree with a new directory where a path leads to. -/
def makeDirectory (t : FileTree) (path : String) : Except IoError FileTree := do
  let place ← t.locate (withoutSlashes path)
  match t.get? place with
  | some _ => throw .alreadyExists
  | none => return t.put place .directory

/-- The tree with a file of the given bytes where a path leads to. A file that stands there is
replaced. -/
def write (t : FileTree) (path : String) (content : ByteArray) : Except IoError FileTree := do
  let place ← t.locate path
  if endsInSlash path then throw .isADirectory
  match t.get? place with
  | some .directory => throw .isADirectory
  | _ => return t.put place (.file content)

end FileTree

end SpecBundle
