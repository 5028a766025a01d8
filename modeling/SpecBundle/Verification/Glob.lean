import SpecBundle.Decimal.Integer
import SpecBundle.FileTree.Basic

/-!
# Patterns for paths

A pattern is a path in which `*` stands for any characters, `?` for one, `[…]` for one of a set
and `[!…]` for one outside it; a whole component `**` stands for directories at any depth. A
component without any of these need only lead somewhere, and `.` and `..` may be such a component.
Every directory of a file tree can be listed, so looking for what a pattern matches never fails.
-/

namespace SpecBundle.Glob

/-! ## Tokens -/

/-- What a part of a component stands for. -/
inductive Token where
  /-- The character itself. -/
  | literal (c : Char)
  /-- Any character. -/
  | any
  /-- Any characters. -/
  | sequence
  /-- Directories at any depth. -/
  | anyDepth
  /-- A character in one of the ranges. -/
  | within (ranges : List (Char × Char))
  /-- A character in none of the ranges. -/
  | outside (ranges : List (Char × Char))
  deriving DecidableEq, Repr

/-- What is wrong with a pattern. -/
inductive Fault where
  /-- Three stars in a row. -/
  | wildcards
  /-- Two stars in a row that are not a whole component. -/
  | depth
  /-- A bracket that is not closed. -/
  | range
  deriving DecidableEq, Repr

/-- A fault and where it is. -/
structure PatternError where
  /-- The number of characters before it. -/
  position : Nat
  /-- What it is. -/
  fault : Fault
  deriving DecidableEq, Repr

/-- The error in words. -/
def PatternError.message (e : PatternError) : String :=
  "Pattern syntax error near position " ++ Decimal.ofNat e.position ++ ": " ++
    match e.fault with
    | .wildcards => "wildcards are either regular \x60*\x60 or recursive \x60**\x60"
    | .depth => "recursive wildcards must form a single path component"
    | .range => "invalid range pattern"

/-- The ranges between brackets: `a-z` is a range and any other character stands for itself. -/
def ranges : List Char → List (Char × Char)
  | a :: '-' :: b :: rest => (a, b) :: ranges rest
  | a :: rest => (a, a) :: ranges rest
  | [] => []

/-- What stands between brackets, of which the first character may be a closing bracket, and what
follows them. -/
def bracketed? : List Char → Option (List Char × List Char)
  | [] => none
  | c :: rest =>
    match rest.dropWhile (· != ']') with
    | [] => none
    | _ :: after => some (c :: rest.takeWhile (· != ']'), after)

/-- A set in brackets, after the opening one, and what follows it. -/
def set? : List Char → Option (Token × List Char)
  | '!' :: rest => (bracketed? rest).map fun (inner, after) => (.outside (ranges inner), after)
  | rest => (bracketed? rest).map fun (inner, after) => (.within (ranges inner), after)

/-- The first token of a pattern and what follows it. The number of characters before the pattern
and whether it starts a component are given. -/
def token? (position : Nat) (atStart : Bool) :
    List Char → Except PatternError (Option (Token × List Char))
  | [] => .ok none
  | '?' :: rest => .ok (some (.any, rest))
  | '*' :: '*' :: '*' :: _ => .error ⟨position + 2, .wildcards⟩
  | '*' :: '*' :: rest =>
    if !atStart then .error ⟨position - 1, .depth⟩
    else
      match rest with
      | [] => .ok (some (.anyDepth, []))
      | '/' :: rest => .ok (some (.anyDepth, rest))
      | _ => .error ⟨position + 2, .depth⟩
  | '*' :: rest => .ok (some (.sequence, rest))
  | '[' :: rest =>
    match set? rest with
    | none => .error ⟨position, .range⟩
    | some (set, after) => .ok (some (set, after))
  | c :: rest => .ok (some (.literal c, rest))

/-- The tokens of a pattern of at most so many characters. The number of characters before it and
whether it starts a component are given. -/
def tokens (fuel position : Nat) (atStart : Bool) (cs : List Char) :
    Except PatternError (List Token) :=
  match fuel with
  | 0 => .ok []
  | fuel + 1 => do
    match ← token? position atStart cs with
    | none => return []
    | some (token, rest) =>
      let more ← tokens fuel (position + (cs.length - rest.length))
        (token == .anyDepth || token == .literal '/') rest
      return token :: more

/-- The tokens of a pattern. -/
def compile (pattern : List Char) : Except PatternError (List Token) :=
  tokens pattern.length 0 true pattern

/-! ## Matching names -/

/-- Whether a token stands for a character. -/
def Token.accepts : Token → Char → Bool
  | .literal c, d => c == d
  | .within ranges, d => ranges.any fun r => r.1 ≤ d && d ≤ r.2
  | .outside ranges, d => !ranges.any fun r => r.1 ≤ d && d ≤ r.2
  | _, _ => true

/-- The ends of a list, longest first. -/
def ends : List α → List (List α)
  | [] => [[]]
  | a :: rest => (a :: rest) :: ends rest

/-- A list is the first of its ends. -/
theorem ends_eq_cons (cs : List α) : ∃ rest, ends cs = cs :: rest := by
  cases cs <;> exact ⟨_, rfl⟩

/-- Whether tokens stand for a text: a sequence stands for whatever leaves an end that the rest
stands for. -/
def denotes : List Token → List Char → Bool
  | [], cs => cs.isEmpty
  | .sequence :: more, cs => (ends cs).any (denotes more)
  | .anyDepth :: more, cs => (ends cs).any (denotes more)
  | token :: more, c :: cs => token.accepts c && denotes more cs
  | _ :: _, [] => false

/-- From each position on, whether anything is true. -/
def anyFrom : List Bool → List Bool
  | [] => []
  | b :: rest =>
    let later := anyFrom rest
    (b || later.headD false) :: later

/-- For each end of a text, whether tokens stand for it. Each token is looked at once for each
end, however many sequences there are. -/
def fits : List Token → List Char → List Bool
  | [], cs => (ends cs).map (·.isEmpty)
  | .sequence :: more, cs => anyFrom (fits more cs)
  | .anyDepth :: more, cs => anyFrom (fits more cs)
  | token :: more, cs =>
    cs.zipWith (fun c fit => token.accepts c && fit) (fits more cs).tail ++ [false]

/-- Whether tokens stand for a text. -/
def matchText (tokens : List Token) (cs : List Char) : Bool :=
  (fits tokens cs).headD false

theorem headD_anyFrom (bs : List Bool) : (anyFrom bs).headD false = bs.any id := by
  induction bs with
  | nil => rfl
  | cons b rest ih => simp only [anyFrom, List.headD_cons, ih, List.any_cons, id]

/-- What holds from an end on holds of one of that end's own ends. -/
theorem anyFrom_map_ends (f : List α → Bool) (cs : List α) :
    anyFrom ((ends cs).map f) = (ends cs).map fun e => (ends e).any f := by
  induction cs with
  | nil => simp [ends, anyFrom]
  | cons c cs ih =>
    simp only [ends, List.map_cons, anyFrom, ih, List.any_cons, List.cons.injEq, and_true]
    rw [← ih, headD_anyFrom, List.any_map]
    rfl

/-- A token takes the first character of an end and leaves the next end to the rest. -/
theorem zipWith_tail_ends (f : List Char → Bool) (token : Token) (cs : List Char) :
    cs.zipWith (fun c fit => token.accepts c && fit) ((ends cs).map f).tail ++ [false] =
      (ends cs).map fun
        | [] => false
        | c :: rest => token.accepts c && f rest := by
  induction cs with
  | nil => rfl
  | cons c cs ih =>
    obtain ⟨rest, h⟩ := ends_eq_cons cs
    simp only [ends, List.map_cons, List.tail_cons] at ih ⊢
    rw [← ih, h]
    rfl

/-- The answers for all ends are those for each end by itself. -/
theorem fits_eq_map_denotes (tokens : List Token) (cs : List Char) :
    fits tokens cs = (ends cs).map (denotes tokens) := by
  induction tokens with
  | nil => rfl
  | cons token more ih =>
    cases token <;> simp only [fits, ih, anyFrom_map_ends, zipWith_tail_ends] <;>
      refine List.map_congr_left fun e _ => ?_ <;> cases e <;> rfl

/-- Matching finds exactly what the tokens stand for. -/
theorem matchText_eq_denotes (tokens : List Token) (cs : List Char) :
    matchText tokens cs = denotes tokens cs := by
  obtain ⟨rest, h⟩ := ends_eq_cons cs
  rw [matchText, fits_eq_map_denotes, h, List.map_cons, List.headD_cons]

/-- The text of tokens that all stand for themselves. -/
def plain? : List Token → Option (List Char)
  | [] => some []
  | .literal c :: more => (plain? more).map (c :: ·)
  | _ :: _ => none

/-! ## Finding paths -/

/-- Whether a path is the directory in which it starts. -/
def isCurrent (path : String) : Bool :=
  Path.components path == [.current]

/-- The path of something in a directory. -/
def inside (directory name : String) : String :=
  if isCurrent directory then name else Path.join directory name

/-- The directories inside a directory, at any depth. -/
def directoriesBelow (t : FileTree) (directory : String) : List String :=
  match t.find directory, t.locate directory with
  | .ok .directory, .ok place =>
    (t.entries.filter fun e => FileTree.liesIn place e.1 && e.2.isDirectory).map fun e =>
      (e.1.drop place.length).foldl inside directory
  | _, _ => []

/-- The paths in a directory whose names the tokens stand for. -/
def entriesLike (t : FileTree) (tokens : List Token) (directory : String) : List String :=
  ((t.names directory).filter fun name => matchText tokens name.toList).map (inside directory)

/-- The components `.` and `..` that tokens stand for; only tokens that start with a point do. -/
def specials (tokens : List Token) : List String :=
  if tokens.head? == some (.literal '.') then
    [".", ".."].filter fun name => matchText tokens name.toList
  else []

/-- The paths that one component leads to from a path. -/
def step (t : FileTree) (tokens : List Token) (path : String) : List String :=
  match plain? tokens with
  | some text =>
    let name := String.ofList text
    let next := inside path name
    if name == "." || name == ".." then (if t.isDirectory path then [next] else [])
    else if t.contains next then [next] else []
  | none =>
    if t.isDirectory path then
      entriesLike t tokens path ++ (specials tokens).map (Path.join path)
    else []

/-- The paths that components lead to from a path. What follows `**` is sought by name in the
directory itself and in all directories inside it. -/
def expand (t : FileTree) : List (List Token) → String → List String
  | [], path => [path]
  | tokens :: more, path =>
    if tokens == [.anyDepth] then deep t more path
    else (step t tokens path).flatMap (expand t more)
where
  /-- What components lead to from a directory at any depth. -/
  deep (t : FileTree) : List (List Token) → String → List String
    | [], path => directoriesBelow t path
    | tokens :: more, path =>
      if tokens == [.anyDepth] then deep t more path
      else
        (path :: directoriesBelow t path).flatMap fun directory =>
          (entriesLike t tokens directory).flatMap (expand t more)

/-- The pieces of a pattern, without an empty one at its end. -/
def componentsOf (pattern : List Char) : List (List Char) :=
  match (Path.pieces pattern).reverse with
  | [] :: rest => rest.reverse
  | pieces => pieces.reverse

/-- The paths that a pattern stands for. The pattern must be sound as a whole and component by
component. -/
def paths (t : FileTree) (pattern : String) : Except PatternError (List String) := do
  let cs := pattern.toList
  let _ ← compile cs
  let absolute := Path.isAbsolute pattern
  let components ← (componentsOf (if absolute then cs.drop 1 else cs)).mapM compile
  return expand t components (if absolute then "/" else ".")

end SpecBundle.Glob
