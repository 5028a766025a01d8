import SpecBundle.FileTree.Basic
import SpecBundle.Proofs.Path.Names

/-!
# Following paths piece by piece

A path is followed from where it starts, one piece after the other. So what a path inside a
directory leads to is one step away from the place of the directory (`FileTree.locate_join`).
-/

namespace SpecBundle.FileTree

variable {t : FileTree} {place other : Place}

/-- A piece is followed before the others. -/
theorem walk_cons (t : FileTree) (place : Place) (piece : List Char) (rest : List (List Char)) :
    t.walk place (piece :: rest) = (t.walk place [piece]).bind fun next => t.walk next rest := by
  simp only [walk]
  split
  · rfl
  · split
    · rfl
    · rfl
    · split
      · rfl
      · split
        · rfl
        · split <;> rfl

/-- Pieces are followed one after the other. -/
theorem walk_append (t : FileTree) (place : Place) (as bs : List (List Char)) :
    t.walk place (as ++ bs) = (t.walk place as).bind fun next => t.walk next bs := by
  induction as generalizing place with
  | nil => rfl
  | cons piece as ih =>
    rw [List.cons_append, walk_cons t place piece as, walk_cons]
    cases t.walk place [piece] with
    | error cause => rfl
    | ok next => exact ih next

/-- Only a directory can be left. -/
theorem get?_of_walk_cons {piece : List Char} {rest : List (List Char)} (some : piece ≠ [])
    (h : t.walk place (piece :: rest) = .ok other) : t.get? place = .some .directory := by
  unfold walk at h
  rw [if_neg some] at h
  split at h
  · cases h
  · cases h
  · assumption

/-- Pieces that mean nothing lead nowhere else. -/
theorem walk_eq_self {pieces : List (List Char)} (h : ∀ piece ∈ pieces, piece = [] ∨ piece = ['.'])
    (followed : t.walk place pieces = .ok other) : other = place := by
  induction pieces with
  | nil => exact (Except.ok.inj followed).symm
  | cons piece rest ih =>
    have none : ∀ piece ∈ rest, piece = [] ∨ piece = ['.'] := fun p hp =>
      h p (List.mem_cons_of_mem piece hp)
    rcases h piece List.mem_cons_self with rfl | rfl
    · rw [walk, if_pos rfl] at followed
      exact ih none followed
    · have here := get?_of_walk_cons (List.cons_ne_nil _ _) followed
      rw [walk, if_neg (List.cons_ne_nil _ _), here] at followed
      exact ih none followed

/-- An empty piece at the end of a path does not matter. -/
theorem walk_directoryPieces (t : FileTree) (place : Place) (path : String) :
    t.walk place (Path.directoryPieces path) = t.walk place (Path.pieces path.toList) := by
  rw [Path.pieces_eq_directoryPieces, walk_append]
  split <;> cases t.walk place (Path.directoryPieces path) <;> rfl

/-- The place where a path starts. -/
def start (t : FileTree) (path : String) : Place :=
  if Path.isAbsolute path then [] else t.origin

/-- A path can be followed: it is a text that the system takes as a path. -/
structure IsFollowable (path : String) : Prop where
  /-- No character ends it early. -/
  nulFree : '\x00' ∉ path.toList
  /-- It is not empty. -/
  nonempty : path ≠ ""
  /-- It is not too long. -/
  short : path.utf8ByteSize < pathLimit

/-- A path that can be followed leads where its pieces do. -/
theorem IsFollowable.locate_eq {path : String} (h : IsFollowable path) :
    t.locate path = t.walk (t.start path) (Path.directoryPieces path) := by
  have long : ¬ pathLimit ≤ path.utf8ByteSize := Nat.not_le_of_lt h.short
  rw [walk_directoryPieces, locate, if_neg (mt List.contains_iff_mem.1 h.nulFree),
    if_neg (mt beq_iff_eq.1 h.nonempty), if_neg long]
  rfl

/-- A path that leads to a place can be followed. -/
theorem isFollowable_of_locate {path : String} (h : t.locate path = .ok place) :
    IsFollowable path := by
  unfold locate at h
  split at h
  · cases h
  · next nulFree =>
    split at h
    · cases h
    · next nonempty =>
      split at h
      · cases h
      · next short =>
        exact ⟨mt List.contains_iff_mem.2 nulFree, mt beq_iff_eq.2 nonempty, Nat.lt_of_not_le short⟩

/-- A path inside a directory starts where that of the directory does. -/
theorem start_join {directory name : String} (some : directory ≠ "") (h : '/' ∉ name.toList) :
    t.start (Path.join directory name) = t.start directory := by
  rw [start, start, Path.isAbsolute_join some h]

/-- What a path inside a directory leads to is one step away from the place of the directory. -/
theorem locate_join {directory name : String} (located : t.locate directory = .ok place)
    (h : '/' ∉ name.toList) (followable : IsFollowable (Path.join directory name)) :
    t.locate (Path.join directory name) = t.walk place [name.toList] := by
  have own := isFollowable_of_locate located
  rw [own.locate_eq] at located
  rw [followable.locate_eq, walk_directoryPieces, start_join own.nonempty h, Path.pieces_join h,
    walk_append, located]
  rfl

end SpecBundle.FileTree
