import SpecBundle.Proofs.Path.Names

/-!
# Components of a path

The components of a path are read off the pieces that lead to it (`components_eq_componentsOf`). So
a name in a directory adds one component to those of the directory (`components_join`), and what a
path lies in has all of its components but the last (`exists_components_eq_concat`); only the empty
path and the root lie in nothing (`components_of_parent?_eq_none`).
-/

namespace SpecBundle.Path

/-! ## Components by pieces -/

/-- The component of the piece that starts a path, if it means something. -/
def firstComponent? (piece : List Char) : Option Component :=
  if piece = [] then some .root else if piece = ['.'] then some .current else componentOf? piece

/-- The components of pieces that start a path and lead to something. -/
def componentsOf : List (List Char) → List Component
  | [] => []
  | first :: rest => (firstComponent? first).toList ++ rest.filterMap componentOf?

/-- Pieces behind others add their own components. -/
theorem componentsOf_append {pieces : List (List Char)} (some : pieces ≠ [])
    (more : List (List Char)) :
    componentsOf (pieces ++ more) = componentsOf pieces ++ more.filterMap componentOf? := by
  obtain ⟨first, rest, rfl⟩ := List.exists_cons_of_ne_nil some
  rw [List.cons_append, componentsOf, componentsOf, List.filterMap_append, List.append_assoc]

/-- A piece that means nothing has no component. -/
theorem componentOf?_eq_none {piece : List Char} (h : piece = [] ∨ piece = ['.']) :
    componentOf? piece = none :=
  if_pos h

/-- The components of a path are those of the pieces that lead to it. -/
theorem components_eq_componentsOf (path : String) :
    components path = componentsOf (directoryPieces path) := by
  by_cases none : path = ""
  · rw [none]
    rfl
  · obtain ⟨first, rest, split⟩ := exists_directoryPieces_eq none
    have own := pieces_eq_directoryPieces path
    rw [split, List.cons_append] at own
    -- What stands behind a slash at the end means nothing.
    have behind : (if isOpen path then [[]] else []).filterMap componentOf? = [] := by
      split <;> rfl
    rw [components, own, split]
    show _ ++ (rest ++ _).filterMap componentOf? = componentsOf (first :: rest)
    rw [List.filterMap_append, behind, List.append_nil, componentsOf, firstComponent?]
    by_cases root : first = []
    · rw [if_pos root, if_pos root, if_pos ((isAbsolute_iff none split).2 root)]
      rfl
    · rw [if_neg root, if_neg root]
      split <;> rfl

/-- An empty piece at the end of a path that is not empty has no component. -/
theorem components_eq_componentsOf_pieces {path : String} (some : path ≠ "") :
    components path = componentsOf (pieces path.toList) := by
  obtain ⟨first, rest, split⟩ := exists_directoryPieces_eq some
  have nonempty : directoryPieces path ≠ [] := by
    rw [split]
    exact List.cons_ne_nil first rest
  rw [pieces_eq_directoryPieces, componentsOf_append nonempty, components_eq_componentsOf]
  split <;> simp [componentOf?]

/-- A name has itself as its component. -/
theorem IsName.componentOf?_eq {name : String} (h : IsName name) :
    componentOf? name.toList = some (.name name.toList) := by
  rw [componentOf?, if_neg (not_or.2 ⟨h.nonempty, h.ne_current⟩), if_neg h.ne_up]

/-- A name in a directory adds one component to those of the directory. -/
theorem components_join {name : String} (h : IsName name) (directory : String) :
    components (join directory name) = components directory ++ [.name name.toList] := by
  rw [components_eq_componentsOf, directoryPieces_join h.nonempty h.slashFree,
    components_eq_componentsOf]
  by_cases none : directoryPieces directory = []
  · rw [none, List.nil_append]
    show (firstComponent? name.toList).toList ++ [] = [Component.name name.toList]
    rw [firstComponent?, if_neg h.nonempty, if_neg h.ne_current, h.componentOf?_eq]
    rfl
  · rw [componentsOf_append none, List.filterMap_cons, h.componentOf?_eq]
    rfl

/-! ## What a path lies in -/

/-- Pieces without slashes are the pieces of their text. -/
theorem pieces_unpieces {ps : List (List Char)} (some : ps ≠ []) (h : ∀ p ∈ ps, '/' ∉ p) :
    pieces (unpieces ps) = ps := by
  induction ps with
  | nil => exact absurd rfl some
  | cons piece more ih =>
    have own := pieces_of_slashFree (h piece List.mem_cons_self)
    cases more with
    | nil => exact own
    | cons next rest =>
      have later := ih (List.cons_ne_nil next rest) fun p hp => h p (List.mem_cons_of_mem piece hp)
      rw [unpieces, pieces_append_slash, own, later]
      · rfl
      · exact List.cons_ne_nil next rest

section

open trimmed (trim)

/-- A piece that does not end a trimmed path alone means something. -/
theorem meaningful_of_trim {pieces more : List (List Char)} {last : List Char}
    (h : trim pieces = last :: more) (some : more ≠ []) : ¬ (last = [] ∨ last = ['.']) := by
  fun_induction trim pieces with
  | case1 => cases h
  | case2 first => exact absurd (List.cons.inj h).2.symm some
  | case3 last rest first none ih => exact ih h
  | case4 last' rest first counts =>
    rw [← (List.cons.inj h).1]
    exact counts

/-- Trimming takes pieces from the end only. -/
theorem trim_suffix (pieces : List (List Char)) : trim pieces <:+ pieces := by
  fun_induction trim pieces with
  | case1 => exact List.suffix_refl _
  | case2 => exact List.suffix_refl _
  | case3 last rest first none ih => exact ih.trans (List.suffix_cons last rest)
  | case4 => exact List.suffix_refl _

/-- Something is left of pieces that are trimmed. -/
theorem trim_ne_nil {pieces : List (List Char)} (some : pieces ≠ []) : trim pieces ≠ [] := by
  fun_induction trim pieces with
  | case1 => exact some
  | case2 first => exact List.cons_ne_nil first []
  | case3 last rest first none ih =>
    exact ih first
  | case4 last rest => exact List.cons_ne_nil last rest

/-- The pieces that are trimmed off mean nothing. -/
theorem componentsOf_trim (pieces : List (List Char)) :
    componentsOf (trim pieces).reverse = componentsOf pieces.reverse := by
  -- The piece that is dropped is not the first one, where it would count.
  fun_induction trim pieces with
  | case1 => rfl
  | case2 => rfl
  | case3 last rest first none ih =>
    have nonempty : rest.reverse ≠ [] := fun empty => first (List.reverse_eq_nil_iff.1 empty)
    rw [ih, List.reverse_cons, componentsOf_append nonempty, List.filterMap_cons,
      componentOf?_eq_none none]
    exact (List.append_nil _).symm
  | case4 => rfl

/-- The components of a path that is not empty are those of its trimmed pieces. -/
theorem components_eq_componentsOf_trimmed {path : String} (some : path ≠ "") :
    components path = componentsOf (trimmed path).reverse := by
  rw [trimmed, componentsOf_trim, List.reverse_reverse, components_eq_componentsOf_pieces some]

/-- A trimmed piece has no slash. -/
theorem slashFree_of_mem_trimmed {path : String} {piece : List Char} (h : piece ∈ trimmed path) :
    '/' ∉ piece := fun slash =>
  (mem_of_mem_pieces (List.mem_reverse.1 ((trim_suffix _).subset h)) slash).2 rfl

/-- The name at the end of a path has no slash. -/
theorem slashFree_of_fileName? {path name : String} (h : fileName? path = some name) :
    '/' ∉ name.toList := by
  obtain ⟨piece, last, named⟩ := Option.bind_eq_some_iff.1 h
  have own : piece ∈ trimmed path := by
    unfold last? at last
    split at last
    · cases last
    · cases last
    · next split =>
      rw [split, Option.some.inj last]
      exact List.mem_cons_self
  split at named
  · cases named
  · rw [← Option.some.inj named, String.toList_ofList]
    exact slashFree_of_mem_trimmed own

/-- The components of a path that is put together from pieces, latest first, are theirs. -/
theorem components_ofList_unpieces {ps : List (List Char)} (some : ps ≠ [])
    (h : ∀ p ∈ ps, '/' ∉ p) :
    components (String.ofList (if ps = [[]] then ['/'] else unpieces ps.reverse)) =
      componentsOf ps.reverse := by
  split
  · next root =>
    rw [root]
    decide
  · next other =>
    have own : pieces (unpieces ps.reverse) = ps.reverse :=
      pieces_unpieces (mt List.reverse_eq_nil_iff.1 some) fun p hp => h p (List.mem_reverse.1 hp)
    have nonempty : String.ofList (unpieces ps.reverse) ≠ "" := by
      intro empty
      apply other
      have none : unpieces ps.reverse = [] := by
        rw [← String.toList_ofList (l := unpieces ps.reverse), empty]
        rfl
      rw [← List.reverse_reverse ps, ← own, none]
      rfl
    rw [components_eq_componentsOf_pieces nonempty, String.toList_ofList, own]

/-- Only the empty path and the root lie in nothing. -/
theorem components_of_parent?_eq_none {path : String} (h : parent? path = none) :
    components path = [] ∨ components path = [.root] := by
  by_cases empty : path = ""
  · rw [empty]
    exact .inl rfl
  · rw [components_eq_componentsOf_trimmed empty]
    unfold parent? at h
    split at h
    · next none => rw [none]; exact .inl rfl
    · next more root =>
      rw [root]
      -- An empty piece is only left where it is the first one.
      cases more with
      | nil => exact .inr rfl
      | cons next rest =>
        exact absurd (.inl rfl) (meaningful_of_trim root (List.cons_ne_nil next rest))
    · cases h
    · cases h

/-- A piece with something in it has a component where it starts a path, and that is a name unless
the piece is `.` or `..`. -/
theorem exists_firstComponent?_eq {piece : List Char} (some : piece ≠ []) :
    ∃ last, firstComponent? piece = .some last ∧ ∀ name : String, last = .name name.toList ↔
      (if piece = ['.'] ∨ piece = ['.', '.'] then none else .some (String.ofList piece)) =
        .some name := by
  rw [firstComponent?, if_neg some]
  by_cases current : piece = ['.']
  · exact ⟨.current, if_pos current, fun name => by simp [current]⟩
  · rw [if_neg current, componentOf?, if_neg (not_or.2 ⟨some, current⟩)]
    by_cases up : piece = ['.', '.']
    · exact ⟨.up, if_pos up, fun name => by simp [up]⟩
    · refine ⟨.name piece, if_neg up, fun name => ?_⟩
      rw [if_neg (not_or.2 ⟨current, up⟩), Component.name.injEq, Option.some.injEq]
      exact ⟨fun same => same ▸ String.ofList_toList, fun same => same ▸ String.toList_ofList.symm⟩

/-- A piece that means something has the same component wherever it stands. -/
theorem componentOf?_eq_firstComponent? {piece : List Char} (h : ¬ (piece = [] ∨ piece = ['.'])) :
    componentOf? piece = firstComponent? piece := by
  rw [firstComponent?, if_neg (not_or.1 h).1, if_neg (not_or.1 h).2]

/-- A path ends in the name that is its last trimmed piece. -/
theorem fileName?_eq_of_trimmed {path : String} {piece : List Char} {more : List (List Char)}
    (split : trimmed path = piece :: more) (some : piece ≠ []) :
    fileName? path =
      if piece = ['.'] ∨ piece = ['.', '.'] then none else .some (String.ofList piece) := by
  rw [fileName?, last?, split]
  split
  · next eq => cases eq
  · next eq => exact absurd (List.cons.inj eq).1 some
  · next eq =>
    rw [← (List.cons.inj eq).1]
    rfl

/-- What a path lies in has all of its components but the last, which is a name if the path ends in
that name. -/
theorem exists_components_eq_concat {path directory : String} (h : parent? path = some directory) :
    ∃ last, components path = components directory ++ [last] ∧
      ∀ name : String, last = .name name.toList ↔ fileName? path = some name := by
  by_cases empty : path = ""
  · rw [empty] at h
    cases h
  · rw [components_eq_componentsOf_trimmed empty]
    unfold parent? at h
    split at h
    · cases h
    · cases h
    -- A piece that stands alone starts the path, and any other one has the same component as there.
    · next piece some split =>
      obtain ⟨last, component, named⟩ := exists_firstComponent?_eq some
      refine ⟨last, ?_, fileName?_eq_of_trimmed split some ▸ named⟩
      rw [split, ← Option.some.inj h]
      show (firstComponent? piece).toList ++ [] = _
      rw [component]
      rfl
    · next piece rest some more split =>
      obtain ⟨last, component, named⟩ := exists_firstComponent?_eq some
      refine ⟨last, ?_, fileName?_eq_of_trimmed split some ▸ named⟩
      have slashFree : ∀ p ∈ trim rest, '/' ∉ p := fun p hp =>
        slashFree_of_mem_trimmed (split ▸ List.mem_cons_of_mem piece ((trim_suffix rest).subset hp))
      rw [← Option.some.inj h, components_ofList_unpieces (trim_ne_nil more) slashFree,
        componentsOf_trim, split, List.reverse_cons,
        componentsOf_append (mt List.reverse_eq_nil_iff.1 more), List.filterMap_cons,
        componentOf?_eq_firstComponent? (meaningful_of_trim split more), component]
      rfl

end

end SpecBundle.Path
