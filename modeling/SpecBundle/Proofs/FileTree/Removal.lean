import SpecBundle.FileTree.Action
import SpecBundle.Proofs.FileTree.Following
import SpecBundle.Proofs.Path.Components

/-!
# What a removal leaves

A path that leads somewhere leads where its components do (`eq_placeOf`): the tree decides whether
it can be followed, but not where to. So a place stays as it is when a directory is removed unless
the components of the directory lead to the place or to something that it lies in
(`get?_removeDirectory`, `get?_clear`).
-/

namespace SpecBundle.FileTree

open SpecBundle.Path (Component componentOf? firstComponent? componentsOf)

/-- The place that a component leads to. -/
def follow (place : Place) : Component → Place
  | .root => []
  | .current => place
  | .up => place.dropLast
  | .name name => place ++ [String.ofList name]

/-- Only a name leads further down. -/
theorem length_follow_le {component : Component} (h : ∀ name, component ≠ .name name)
    (place : Place) : (follow place component).length ≤ place.length := by
  cases component with
  | root => exact Nat.zero_le _
  | current => exact Nat.le_refl _
  | up => exact (List.dropLast_prefix place).length_le
  | name name => exact absurd rfl (h name)

/-- A name leads to a place that is not above those which other components lead to. -/
theorem not_prefix_follow {name : List Char} {last : Component} (h : last ≠ .name name)
    (place : Place) : ¬ follow place (.name name) <+: follow place last := by
  intro starts
  have longer (n : List Char) : (follow place (.name n)).length = place.length + 1 :=
    List.length_append
  by_cases named : ∃ other, last = .name other
  · -- Places of one length are one if the one starts with the other.
    obtain ⟨other, rfl⟩ := named
    have same := starts.eq_of_length ((longer name).trans (longer other).symm)
    have names : String.ofList name = String.ofList other := (List.append_singleton_inj.1 same).2
    exact h (congrArg Component.name (String.ofList_inj.1 names).symm)
  · have short := length_follow_le (not_exists.1 named) place
    have long := starts.length_le
    rw [longer name] at long
    omega

/-- The place that a path leads to if it can be followed from a place. -/
def placeOf (origin : Place) (path : String) : Place :=
  (Path.components path).foldl follow origin

/-- Pieces that can be followed lead where their components do. -/
theorem eq_foldl_follow {t : FileTree} {place other : Place} {pieces : List (List Char)}
    (h : t.walk place pieces = .ok other) :
    other = (pieces.filterMap componentOf?).foldl follow place := by
  -- The cases are those of the walk: a piece is empty, starts at no directory, is `.` or `..`, is
  -- too long or leads on.
  fun_induction walk t place pieces with
  | case1 place => exact (Except.ok.inj h).symm
  | case2 place rest ih => exact ih h
  | case3 => cases h
  | case4 => cases h
  | case5 place rest some here ih => exact ih h
  | case6 place rest some here current ih => exact ih h
  | case7 => cases h
  | case8 place piece rest some here name current up short ih =>
    have own : componentOf? piece = .some (.name piece) := by
      rw [componentOf?, if_neg (not_or.2 ⟨some, current⟩), if_neg up]
    rw [List.filterMap_cons, own]
    exact ih h

/-- A path that leads somewhere leads where its components do. -/
theorem eq_placeOf {t : FileTree} {path : String} {place : Place} (h : t.locate path = .ok place) :
    place = placeOf t.origin path := by
  have own := isFollowable_of_locate h
  obtain ⟨first, rest, split⟩ := Path.exists_directoryPieces_eq own.nonempty
  rw [own.locate_eq, split] at h
  rw [eq_foldl_follow h, placeOf, Path.components_eq_componentsOf, split, componentsOf,
    firstComponent?, start, List.foldl_append]
  -- Only the first piece can mean something else than it does further behind.
  by_cases root : first = []
  · rw [if_pos ((Path.isAbsolute_iff own.nonempty split).2 root), if_pos root, root]
    rfl
  · rw [if_neg (mt (Path.isAbsolute_iff own.nonempty split).1 root), if_neg root,
      List.filterMap_cons]
    by_cases current : first = ['.']
    · rw [if_pos current, current]
      rfl
    · rw [if_neg current]
      cases componentOf? first <;> rfl

end SpecBundle.FileTree

namespace SpecBundle.FileAction

variable {t : FileTree} {path : String} {place : Place}

/-- An action that looks at the tree first is run on that tree. -/
theorem run_get_bind {α : Type} (action : FileTree → FileAction α) (t : FileTree) :
    (get >>= action).run t = (action t).run t := rfl

/-- What a removal can do: nothing, or to take what lies in the directory, with the directory itself
or without it. -/
theorem files_removeDirectory (t : FileTree) (path : String) :
    ((removeDirectory path).run t).2 = t ∨
      ∃ inner, t.locate path = .ok inner ∧
        (((removeDirectory path).run t).2 = t.without (FileTree.liesIn inner) ∨
          ((removeDirectory path).run t).2 =
            (t.without (FileTree.liesIn inner)).without (· == inner)) := by
  rw [removeDirectory, run_get_bind]
  split
  · exact .inl rfl
  · exact .inl rfl
  · exact .inl rfl
  · next place found located =>
    refine .inr ⟨place, located, ?_⟩
    dsimp only
    -- The directory itself stays where its path ends in `.` or `..`.
    split
    · exact .inl rfl
    · exact .inl rfl
    · exact .inr rfl

/-- Removing a directory changes only what stands at its place or lies in it. -/
theorem get?_removeDirectory (h : ¬ FileTree.placeOf t.origin path <+: place) :
    ((removeDirectory path).run t).2.get? place = t.get? place := by
  by_cases root : place = []
  · rw [root, FileTree.get?_root, FileTree.get?_root]
  obtain same | ⟨inner, located, changed⟩ := files_removeDirectory t path
  · rw [same]
  rw [← FileTree.eq_placeOf located] at h
  have outside : FileTree.liesIn inner place = false := by
    rw [FileTree.liesIn, Bool.and_eq_false_imp]
    exact fun lies => absurd (List.isPrefixOf_iff_prefix.1 lies) h
  have other : (place == inner) = false :=
    beq_eq_false_iff_ne.2 fun same => h (same ▸ List.prefix_refl _)
  obtain emptied | gone := changed
  · rw [emptied, FileTree.get?_without t _ place root, outside]
    rfl
  · rw [gone, FileTree.get?_without _ _ place root, other, FileTree.get?_without t _ place root,
      outside]
    rfl

/-- Clearing a directory away changes only what stands at its place or lies in it. -/
theorem get?_clear (h : ¬ FileTree.placeOf t.origin path <+: place) :
    ((clear path).run t).2.get? place = t.get? place := by
  rw [clear, run_get_bind]
  split
  · exact get?_removeDirectory h
  · rfl

end SpecBundle.FileAction
