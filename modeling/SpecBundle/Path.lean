/-!
# Paths

A path is a text whose pieces are separated by slashes. Empty pieces and pieces `.` mean nothing,
except that a path may start with either: a slash at the start makes it absolute. These are the
operations on the text itself; what a path leads to is the matter of a file tree.
-/

namespace SpecBundle.Path

/-! ## Pieces -/

/-- The pieces of a text between slashes. -/
def pieces : List Char → List (List Char)
  | [] => [[]]
  | '/' :: rest => [] :: pieces rest
  | c :: rest =>
    match pieces rest with
    | [] => [[c]]
    | piece :: more => (c :: piece) :: more

/-- The text of pieces with slashes between them. -/
def unpieces : List (List Char) → List Char
  | [] => []
  | [piece] => piece
  | piece :: more => piece ++ '/' :: unpieces more

/-- A text has at least one piece. -/
theorem pieces_ne_nil (cs : List Char) : pieces cs ≠ [] := by
  fun_cases pieces cs <;> simp

/-- The pieces of a text with slashes between them are the text. -/
theorem unpieces_pieces (cs : List Char) : unpieces (pieces cs) = cs := by
  fun_induction pieces cs with
  | case1 => rfl
  | case2 rest ih =>
    obtain ⟨piece, more, h⟩ := List.exists_cons_of_ne_nil (pieces_ne_nil rest)
    rw [h] at ih ⊢
    simp [unpieces, ih]
  | case3 c rest _ h => exact absurd h (pieces_ne_nil rest)
  | case4 c rest _ piece more h ih =>
    rw [h] at ih
    cases more with
    | nil => simpa [unpieces] using ih
    | cons second more => simpa [unpieces] using ih

/-- Whether a path starts at the root. -/
def isAbsolute (path : String) : Bool :=
  path.toList.head? == some '/'

/-! ## Names and what they lie in -/

/-- A path without the meaningless pieces at its end, latest piece first. The piece `.` counts
where it starts the path. -/
def trimmed (path : String) : List (List Char) :=
  trim (pieces path.toList).reverse
where
  /-- Drops pieces that mean nothing, but for the first of the path. -/
  trim : List (List Char) → List (List Char)
    | [] => []
    | [first] => [first]
    | last :: rest => if last = [] ∨ last = ['.'] then trim rest else last :: rest

/-- The last piece of a path that means something, unless the path is empty or the root. -/
def last? (path : String) : Option (List Char) :=
  match trimmed path with
  | [] => none
  | [] :: _ => none
  | last :: _ => some last

/-- The name at the end of a path, unless the path ends in `.` or `..`. -/
def fileName? (path : String) : Option String :=
  (last? path).bind fun name =>
    if name = ['.'] ∨ name = ['.', '.'] then none else some (String.ofList name)

/-- What a path lies in: the path without its last piece. The root and the empty path lie in
nothing. -/
def parent? (path : String) : Option String :=
  match trimmed path with
  | [] => none
  | [] :: _ => none
  | [_] => some ""
  | _ :: rest =>
    let rest := trimmed.trim rest
    some (String.ofList (if rest = [[]] then ['/'] else unpieces rest.reverse))

/-- A path and those that it lies in, one after another. -/
def lineage (path : String) : List String :=
  go (path.length + 1) path
where
  /-- At most so many of them. -/
  go : Nat → String → List String
    | 0, _ => []
    | n + 1, path => path :: ((parent? path).map (go n)).getD []

/-- A name split at its last dot, unless that is its first character or there is none. -/
def splitName (name : String) : List Char × Option (List Char) :=
  let backwards := name.toList.reverse
  match backwards.dropWhile (· != '.') with
  | '.' :: c :: stem => ((c :: stem).reverse, some (backwards.takeWhile (· != '.')).reverse)
  | _ => (name.toList, none)

/-- The name at the end of a path without its extension. -/
def stem? (path : String) : Option String :=
  (fileName? path).map fun name => String.ofList (splitName name).1

/-- What follows the last dot of the name at the end of a path. -/
def extension? (path : String) : Option String :=
  (fileName? path).bind fun name => (splitName name).2.map String.ofList

/-- A path inside another; an absolute path stays as it is. -/
def join (base path : String) : String :=
  if isAbsolute path then path
  else if base == "" || base.toList.getLast? == some '/' then base ++ path
  else base ++ "/" ++ path

/-- A directory beside an archive that is named for the archive. -/
def beside (archive suffix : String) : String :=
  join ((parent? archive).getD ".") ((stem? archive).getD "solution" ++ suffix)

/-! ## Components and order -/

/-- A component of a path. -/
inductive Component where
  /-- The root, at the start of an absolute path. -/
  | root
  /-- The directory itself, at the start of a relative path. -/
  | current
  /-- The directory above. -/
  | up
  /-- A name. -/
  | name (name : List Char)
  deriving DecidableEq, Repr

/-- The component of a piece that does not start a path, if it means something. -/
def componentOf? (piece : List Char) : Option Component :=
  if piece = [] ∨ piece = ['.'] then none
  else if piece = ['.', '.'] then some .up
  else some (.name piece)

/-- The components of a path. -/
def components (path : String) : List Component :=
  match pieces path.toList with
  | [] => []
  | first :: rest =>
    (if first = [] then (if isAbsolute path then [.root] else [])
      else if first = ['.'] then [.current]
      else (componentOf? first).toList) ++ rest.filterMap componentOf?

/-- The order of paths: that of their components, where a root comes first, then `.`, then `..`,
and names by their characters. -/
def rank : Component → Nat × List Char
  | .root => (0, [])
  | .current => (1, [])
  | .up => (2, [])
  | .name n => (3, n)

/-- Whether a path comes before another or is equal to it. -/
def comesBefore (p q : String) : Bool :=
  go (components p) (components q)
where
  /-- Compares component by component. -/
  go : List Component → List Component → Bool
    | [], _ => true
    | _ :: _, [] => false
    | a :: as, b :: bs =>
      let (m, n) := (rank a, rank b)
      if a = b then go as bs else m.1 < n.1 || (m.1 == n.1 && m.2 < n.2)

end SpecBundle.Path
