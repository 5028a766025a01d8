import SpecBundle.Proofs.FileTree.Following
import SpecBundle.Proofs.FileTree.Listing
import SpecBundle.Proofs.Lists
import SpecBundle.Verification.Glob

/-!
# Patterns that end in the names that are sought

A pattern for things in a directory is the path of the directory and, behind it, a pattern for
names. The path is read as a pattern, too: it leads to any number of directories (`Glob.ledTo`), and
names are sought in all of them (`Glob.paths_join`). A path that has no special characters leads to
its own directory only (`Glob.ledTo_of_isPlain`).
-/

namespace SpecBundle.Glob

open FileTree (IsFollowable)

/-! ## Plain text -/

/-- A character stands for itself in a pattern. -/
def IsLiteral (c : Char) : Prop :=
  c ≠ '*' ∧ c ≠ '?' ∧ c ≠ '['

/-- A character that stands for itself is a token. -/
theorem token?_cons {c : Char} (h : IsLiteral c) (position : Nat) (atStart : Bool)
    (rest : List Char) : token? position atStart (c :: rest) = .ok (some (.literal c, rest)) := by
  obtain ⟨star, question, bracket⟩ := h
  unfold token?
  split <;> simp_all

/-- Characters that stand for themselves are tokens, whatever follows. -/
theorem tokens_append {cs : List Char} (h : ∀ c ∈ cs, IsLiteral c) (fuel : Nat) (rest : List Char)
    (position : Nat) (atStart : Bool) :
    ∃ position' atStart', tokens (cs.length + fuel) position atStart (cs ++ rest) =
      (tokens fuel position' atStart' rest).map (cs.map .literal ++ ·) := by
  -- Each character takes one unit of the fuel, and where the reader stands does not matter to it.
  induction cs generalizing position atStart with
  | nil =>
    refine ⟨position, atStart, ?_⟩
    rw [List.length_nil, Nat.zero_add, List.nil_append]
    cases tokens fuel position atStart rest <;> rfl
  | cons c cs ih =>
    obtain ⟨own, others⟩ := List.forall_mem_cons.1 h
    obtain ⟨position', atStart', more⟩ := ih others
      (position + ((c :: (cs ++ rest)).length - (cs ++ rest).length))
      (Token.literal c == .anyDepth || Token.literal c == .literal '/')
    refine ⟨position', atStart', ?_⟩
    rw [List.length_cons, Nat.add_right_comm, List.cons_append, tokens, token?_cons own]
    show (tokens (cs.length + fuel) _ _ (cs ++ rest)).bind _ = _
    rw [more]
    cases tokens fuel position' atStart' rest <;> rfl

/-- A text without special characters is a pattern for itself. -/
theorem compile_of_isLiteral {cs : List Char} (h : ∀ c ∈ cs, IsLiteral c) :
    compile cs = .ok (cs.map .literal) := by
  obtain ⟨position, atStart, eq⟩ := tokens_append h 0 [] 0 true
  rw [List.append_nil, Nat.add_zero] at eq
  rw [compile, eq]
  show Except.ok (cs.map Token.literal ++ []) = _
  rw [List.append_nil]

/-- A star between texts without special characters is a pattern for any characters. -/
theorem compile_append_star {before after : List Char} (hb : ∀ c ∈ before, IsLiteral c)
    (ha : ∀ c ∈ after, IsLiteral c) (some : after ≠ []) :
    compile (before ++ '*' :: after) =
      .ok (before.map .literal ++ .sequence :: after.map .literal) := by
  obtain ⟨position, atStart, eq⟩ := tokens_append hb (after.length + 1) ('*' :: after) 0 true
  have star : token? position atStart ('*' :: after) = .ok (.some (.sequence, after)) := by
    obtain ⟨c, cs, rfl⟩ := List.exists_cons_of_ne_nil some
    -- What follows is no second star, which would make it a component for any depth.
    have other : c ≠ '*' := (ha c List.mem_cons_self).1
    clear eq
    unfold token?
    split <;> grind
  have rest : tokens (after.length + 1) position atStart ('*' :: after) =
      .ok (.sequence :: after.map .literal) := by
    obtain ⟨position', atStart', more⟩ := tokens_append ha 0 []
      (position + (('*' :: after).length - after.length))
      (Token.sequence == .anyDepth || Token.sequence == .literal '/')
    rw [List.append_nil, Nat.add_zero] at more
    rw [tokens, star]
    show (tokens after.length _ _ after).bind _ = _
    rw [more]
    show Except.ok (Token.sequence :: (after.map .literal ++ [])) = _
    rw [List.append_nil]
  rw [compile, List.length_append, List.length_cons, eq, rest]
  rfl

/-- The text of characters that stand for themselves. -/
theorem plain?_map_literal (cs : List Char) : plain? (cs.map .literal) = some cs := by
  induction cs with
  | nil => rfl
  | cons c cs ih =>
    rw [List.map_cons, plain?, ih]
    rfl

/-- Characters that stand for themselves do not stand for directories at any depth. -/
theorem map_literal_beq_anyDepth (cs : List Char) :
    (cs.map Token.literal == [.anyDepth]) = false := by
  rw [beq_eq_false_iff_ne]
  intro deep
  obtain ⟨c, -, eq⟩ := List.map_eq_singleton_iff.1 deep
  cases eq

/-! ## Names with an ending -/

/-- Characters stand for themselves. -/
theorem denotes_map_literal {cs text : List Char} :
    denotes (cs.map .literal) text = true ↔ text = cs := by
  induction cs generalizing text with
  | nil => exact List.isEmpty_iff
  | cons c cs ih =>
    cases text with
    | nil => exact iff_of_false Bool.false_ne_true fun h => nomatch h
    | cons d text =>
      show (c == d && denotes (cs.map .literal) text) = true ↔ _
      rw [Bool.and_eq_true, beq_iff_eq, ih, List.cons.injEq, eq_comm (a := c)]

/-- The ends of a list are what it may end in. -/
theorem mem_ends_iff {α : Type} {as bs : List α} : as ∈ ends bs ↔ as <:+ bs := by
  induction bs with
  | nil => simp [ends]
  | cons b bs ih => rw [ends, List.mem_cons, ih, List.suffix_cons_iff]

/-- A sequence and a text stand for what ends in the text. -/
theorem matchText_sequence (text cs : List Char) :
    matchText (.sequence :: text.map .literal) cs = text.isSuffixOf cs := by
  rw [Bool.eq_iff_iff, matchText_eq_denotes, List.isSuffixOf_iff_suffix]
  show (ends cs).any (denotes (text.map .literal)) = true ↔ _
  rw [List.any_eq_true]
  constructor
  · rintro ⟨e, he, same⟩
    exact denotes_map_literal.1 same ▸ mem_ends_iff.1 he
  · exact fun h => ⟨text, mem_ends_iff.2 h, denotes_map_literal.2 rfl⟩

/-! ## Where a pattern leads -/

/-- The directories that the components of a pattern lead to, where something is sought by name. -/
def leads (t : FileTree) : List (List Token) → String → List String
  | [], path => [path]
  | tokens :: more, path =>
    if tokens == [.anyDepth] then deep t more path
    else (step t tokens path).flatMap (leads t more)
where
  /-- The directories at any depth that the components lead to. -/
  deep (t : FileTree) : List (List Token) → String → List String
    | [], path => path :: directoriesBelow t path
    | tokens :: more, path =>
      if tokens == [.anyDepth] then deep t more path
      else
        (path :: directoriesBelow t path).flatMap fun directory =>
          (entriesLike t tokens directory).flatMap (leads t more)

section

variable {tokens : List Token} (notDeep : (tokens == [.anyDepth]) = false)
  (sought : plain? tokens = none) (ordinary : specials tokens = [])

include sought ordinary

/-- Names are sought in a directory. -/
theorem step_eq_entriesLike (t : FileTree) (path : String) :
    step t tokens path = entriesLike t tokens path := by
  unfold step
  rw [sought, ordinary]
  dsimp only
  split
  · rw [List.map_nil, List.append_nil]
  · next file =>
    rw [entriesLike, FileTree.names_eq_nil (Bool.eq_false_iff.2 file)]
    rfl

include notDeep

/-- What a pattern stands for is sought in the directories that its other components lead to. -/
theorem expand_append (t : FileTree) (components : List (List Token)) (path : String) :
    expand t (components ++ [tokens]) path =
        (leads t components path).flatMap (entriesLike t tokens) ∧
      expand.deep t (components ++ [tokens]) path =
        (leads.deep t components path).flatMap (entriesLike t tokens) := by
  have whole (paths : List String) : paths.flatMap (expand t []) = paths := by
    show paths.flatMap (fun path => [path]) = paths
    rw [List.flatMap_singleton']
  -- Both equations go into the induction, because `**` makes one search into the other.
  induction components generalizing path with
  | nil =>
    constructor
    · rw [List.nil_append, expand, notDeep, if_neg Bool.false_ne_true, whole,
        step_eq_entriesLike sought ordinary, leads, List.flatMap_singleton]
    · rw [List.nil_append, expand.deep, notDeep, if_neg Bool.false_ne_true, leads.deep]
      simp only [whole]
  | cons first more ih =>
    rw [List.cons_append, expand, expand.deep, leads, leads.deep]
    split
    · exact ⟨(ih path).2, (ih path).2⟩
    · have later : expand t (more ++ [tokens]) = fun path =>
          (leads t more path).flatMap (entriesLike t tokens) := funext fun path => (ih path).1
      simp only [later, List.flatMap_assoc, and_self]

end

/-! ## Patterns behind the path of a directory -/

/-- The pieces that a search for something in a directory goes through. -/
def searchPieces (directory : String) : List (List Char) :=
  if Path.isAbsolute directory then (Path.directoryPieces directory).drop 1
  else Path.directoryPieces directory

/-- Where the search starts. -/
def searchStart (directory : String) : String :=
  if Path.isAbsolute directory then "/" else "."

/-- The directories that the path of a directory leads to when it is read as a pattern. -/
def ledTo (t : FileTree) (directory : String) : Except PatternError (List String) := do
  let components ← (searchPieces directory).mapM compile
  return leads t components (searchStart directory)

/-- The components of a pattern behind the path of a directory. -/
theorem componentsOf_join {directory name : String} (some : directory ≠ "")
    (nonempty : name.toList ≠ []) (h : '/' ∉ name.toList) :
    componentsOf (if Path.isAbsolute directory then (Path.join directory name).toList.drop 1
      else (Path.join directory name).toList) = searchPieces directory ++ [name.toList] := by
  have last {cs : List Char} {before : List (List Char)}
      (split : Path.pieces cs = before ++ [name.toList]) :
      componentsOf cs = before ++ [name.toList] := by
    unfold componentsOf
    rw [split, List.reverse_append, List.reverse_singleton, List.singleton_append]
    split
    · next eq => exact absurd (List.cons.inj eq).1 nonempty
    · rw [List.reverse_cons, List.reverse_reverse]
  unfold searchPieces
  split
  · next absolute =>
    have all := Path.pieces_join h directory
    rw [Path.pieces_of_isAbsolute ((Path.isAbsolute_join some h).trans absolute)] at all
    -- The empty piece before the first slash is one of those that lead to the directory.
    cases own : Path.directoryPieces directory with
    | nil =>
      rw [own, List.nil_append] at all
      exact absurd (List.cons.inj all).1.symm nonempty
    | cons first rest =>
      rw [own, List.cons_append] at all
      exact last (List.cons.inj all).2
  · exact last (Path.pieces_join h directory)

/-- A pattern for names behind the path of a directory stands for what it stands for in all
directories that the path leads to. -/
theorem paths_join {directory name : String} {tokens : List Token} (some : directory ≠ "")
    (nonempty : name.toList ≠ []) (h : '/' ∉ name.toList)
    (compiled : compile name.toList = .ok tokens) (notDeep : (tokens == [.anyDepth]) = false)
    (sought : plain? tokens = none) (ordinary : specials tokens = []) (t : FileTree) :
    paths t (Path.join directory name) = do
      let _ ← compile (Path.join directory name).toList
      let directories ← ledTo t directory
      return directories.flatMap (entriesLike t tokens) := by
  simp only [paths, ledTo, Path.isAbsolute_join some h, componentsOf_join some nonempty h,
    List.mapM_append, List.mapM_cons, List.mapM_nil, compiled]
  cases compile (Path.join directory name).toList with
  | error e => rfl
  | ok whole =>
    cases (searchPieces directory).mapM compile with
    | error e => rfl
    | ok components =>
      exact congrArg Except.ok (expand_append notDeep sought ordinary t components _).1

/-! ## The path of something in a directory -/

/-- No piece is the directory itself. -/
theorem componentOf?_ne_current (piece : List Char) : Path.componentOf? piece ≠ some .current := by
  unfold Path.componentOf?
  split
  · nofun
  · split <;> nofun

/-- A piece means nothing if it is empty or the directory itself. -/
theorem componentOf?_eq_none_iff {piece : List Char} :
    Path.componentOf? piece = none ↔ piece = [] ∨ piece = ['.'] := by
  unfold Path.componentOf?
  split
  · next h => exact iff_of_true rfl h
  · next h => split <;> exact iff_of_false nofun h

/-- Only a path that starts with `.` has the directory in which it starts as a component. -/
theorem eq_dot_of_current_mem {path : String} {first : List Char} {rest : List (List Char)}
    (pieces : Path.pieces path.toList = first :: rest)
    (current : Path.Component.current ∈ Path.components path) : first = ['.'] := by
  rw [Path.components, pieces] at current
  dsimp only at current
  rcases List.mem_append.1 current with own | later
  · split at own
    · split at own <;> simp at own
    · split at own
      · assumption
      · exact absurd (Option.mem_toList.1 own) (componentOf?_ne_current first)
  · obtain ⟨piece, -, eq⟩ := List.mem_filterMap.1 later
    exact absurd eq (componentOf?_ne_current piece)

/-- A path is the directory in which it starts if it starts with `.` and goes nowhere else. -/
theorem directoryPieces_of_isCurrent {path : String} (h : isCurrent path = true) :
    ∃ rest, Path.directoryPieces path = ['.'] :: rest ∧
      ∀ piece ∈ rest, piece = [] ∨ piece = ['.'] := by
  have components := beq_iff_eq.1 h
  obtain ⟨first, rest, pieces⟩ := List.exists_cons_of_ne_nil (Path.pieces_ne_nil path.toList)
  have dot : first = ['.'] := by
    refine eq_dot_of_current_mem pieces ?_
    rw [components]
    exact List.mem_singleton_self _
  subst dot
  rw [Path.components, pieces] at components
  have meaningless : ∀ piece ∈ rest, piece = [] ∨ piece = ['.'] := fun piece hp =>
    componentOf?_eq_none_iff.1 (List.filterMap_eq_nil_iff.1 (List.cons.inj components).2 piece hp)
  have own := Path.pieces_eq_directoryPieces path
  rw [pieces] at own
  cases split : Path.directoryPieces path with
  | nil =>
    rw [split] at own
    split at own <;> cases own
  | cons piece more =>
    rw [split, List.cons_append] at own
    obtain ⟨rfl, rfl⟩ := List.cons.inj own
    exact ⟨more, rfl, fun piece hp => meaningless piece (List.mem_append_left _ hp)⟩

/-- A path that goes nowhere leads to where a relative path starts. -/
theorem eq_origin_of_isCurrent {t : FileTree} {place : Place} {path : String}
    (h : isCurrent path = true) (located : t.locate path = .ok place) : place = t.origin := by
  obtain ⟨rest, pieces, meaningless⟩ := directoryPieces_of_isCurrent h
  have followable := FileTree.isFollowable_of_locate located
  have relative : ¬ Path.isAbsolute path = true := fun absolute =>
    List.cons_ne_nil _ _ ((Path.isAbsolute_iff followable.nonempty pieces).1 absolute)
  rw [followable.locate_eq, FileTree.start, if_neg relative, pieces] at located
  exact FileTree.walk_eq_self (List.forall_mem_cons.2 ⟨.inr rfl, meaningless⟩) located

/-- What stands in a directory is one step away from the place of the directory. -/
theorem locate_inside {t : FileTree} {place : Place} {directory name : String}
    (located : t.locate directory = .ok place) (h : '/' ∉ name.toList)
    (followable : IsFollowable (inside directory name)) :
    t.locate (inside directory name) = t.walk place [name.toList] := by
  unfold inside at followable ⊢
  split
  · next current =>
    rw [if_pos current] at followable
    rw [followable.locate_eq, FileTree.walk_directoryPieces, FileTree.start,
      Path.isAbsolute_of_slashFree h, Path.pieces_of_slashFree h,
      eq_origin_of_isCurrent current located]
    rfl
  · next other =>
    rw [if_neg other] at followable
    exact FileTree.locate_join located h followable

/-! ## Paths without special characters -/

/-- A path stands for itself as a pattern: no character in it stands for another one, and no two
slashes stand side by side. -/
structure IsPlain (directory : String) : Prop where
  /-- All characters stand for themselves. -/
  literal : ∀ c ∈ directory.toList, IsLiteral c
  /-- All pieces lead somewhere. -/
  single : ¬ ['/', '/'] <:+: directory.toList

/-- The text that names in a directory are put behind has no special characters either. -/
theorem IsPlain.isLiteral_opened {directory : String} (plain : IsPlain directory) :
    ∀ c ∈ Path.opened directory, IsLiteral c := by
  intro c hc
  rcases List.mem_append.1 hc with own | slash
  · exact plain.literal c own
  · split at slash
    · cases slash
    · rw [List.mem_singleton.1 slash]
      unfold IsLiteral
      decide

section Search

variable {t : FileTree} {directory : String}

/-- A path can be followed if it is part of that of a directory which can be followed. -/
theorem isFollowable_of_infix (h : IsFollowable directory) {path : String} (nonempty : path ≠ "")
    (within : path.toList ++ ['/'] <:+: Path.opened directory) : IsFollowable path := by
  obtain ⟨before, after, split⟩ := within
  refine ⟨fun nul => ?_, nonempty, ?_⟩
  · have there : '\x00' ∈ Path.opened directory := by
      rw [← split]
      exact List.mem_append_left _ (List.mem_append_right _ (List.mem_append_left _ nul))
    rcases List.mem_append.1 there with own | slash
    · exact h.nulFree own
    · split at slash <;> simp at slash
  · -- The slash behind the path makes up for the one that a directory may be opened with.
    have size : (String.ofList (Path.opened directory)).utf8ByteSize ≤
        directory.utf8ByteSize + 1 := by
      unfold Path.opened
      rw [String.ofList_append, String.utf8ByteSize_append, String.ofList_toList]
      split
      · exact Nat.le_succ _
      · exact Nat.le_refl _
    rw [← split, String.ofList_append, String.ofList_append, String.ofList_append,
      String.utf8ByteSize_append, String.utf8ByteSize_append, String.utf8ByteSize_append,
      String.ofList_toList] at size
    have slash : (String.ofList ['/']).utf8ByteSize = 1 := rfl
    have short := h.short
    omega

/-- Where a search stands that still has to go through pieces on its way to a directory: where a
relative path starts, or at a path that goes somewhere and is part of that of the directory. -/
def Stands (path : String) (left : List (List Char)) (directory : String) : Prop :=
  path = "." ∧ Path.closedPieces left <:+ Path.opened directory ∨
    (∃ first rest, Path.directoryPieces path = first :: rest ∧ first ≠ ['.']) ∧
      Path.opened path ++ Path.closedPieces left <:+ Path.opened directory

/-- A name in the directory where a search stands is found by the path of the directory and the
name, and the search goes on from there. -/
theorem Stands.next {path name : String} {left : List (List Char)}
    (followable : IsFollowable directory) (some : name.toList ≠ []) (h : '/' ∉ name.toList)
    (stands : Stands path (name.toList :: left) directory) :
    Stands (inside path name) left directory ∧ IsFollowable (inside path name) := by
  -- A path that ends in the name can be followed because it is part of that of the directory.
  have follows {base : String}
      (goes : Path.opened base ++ Path.closedPieces (name.toList :: left) <:+
        Path.opened directory) :
      Path.opened (Path.join base name) ++ Path.closedPieces left <:+ Path.opened directory ∧
        IsFollowable (Path.join base name) := by
    have opened := Path.opened_join some h base
    rw [Path.closedPieces, List.flatMap_cons, ← List.append_assoc, ← List.append_assoc,
      ← Path.toList_join h, ← opened] at goes
    refine ⟨goes, isFollowable_of_infix followable (fun none => ?_) ?_⟩
    · have chars := Path.toList_join h base
      rw [none] at chars
      exact some (List.append_eq_nil_iff.1 chars.symm).2
    · rw [← opened]
      exact (List.infix_append' [] _ (Path.closedPieces left)).trans goes.isInfix
  rcases stands with ⟨rfl, goes⟩ | ⟨⟨first, rest, pieces, ne⟩, goes⟩
  · -- The path of something where a relative path starts is its name alone.
    have alone : inside "." name = Path.join "" name := by
      have current : isCurrent "." = true := by decide
      rw [inside, if_pos current]
      exact String.toList_inj.1 (Path.toList_join h "").symm
    have goes' : Path.opened "" ++ Path.closedPieces (name.toList :: left) <:+
        Path.opened directory := goes
    rw [alone]
    refine ⟨?_, (follows goes').2⟩
    by_cases dot : name.toList = ['.']
    · refine .inl ⟨String.toList_inj.1 ((Path.toList_join h "").trans dot), ?_⟩
      exact (List.suffix_append (name.toList ++ ['/']) _).trans goes
    · refine .inr ⟨⟨name.toList, [], ?_, dot⟩, (follows goes').1⟩
      exact Path.directoryPieces_join some h ""
  · have other : isCurrent path = false := by
      refine Bool.eq_false_iff.2 fun current => ?_
      obtain ⟨_, dot, -⟩ := directoryPieces_of_isCurrent current
      rw [pieces] at dot
      exact ne (List.cons.inj dot).1
    rw [inside, other, if_neg Bool.false_ne_true]
    refine ⟨.inr ⟨⟨first, rest ++ [name.toList], ?_, ne⟩, (follows goes).1⟩, (follows goes).2⟩
    rw [Path.directoryPieces_join some h, pieces, List.cons_append]

/-- A name leads from a directory to what bears it. -/
theorem step_map_literal {path name : String} (isDirectory : t.isDirectory path = true)
    (there : t.contains (inside path name) = true) :
    step t (name.toList.map .literal) path = [inside path name] := by
  unfold step
  rw [plain?_map_literal]
  dsimp only
  rw [String.ofList_toList, isDirectory, there]
  split <;> rfl

/-- Pieces without special characters lead to one directory. -/
theorem leads_of_stands {place goal : Place} {path : String} {left : List (List Char)}
    (followable : IsFollowable directory) (names : ∀ piece ∈ left, piece ≠ [] ∧ '/' ∉ piece)
    (stands : Stands path left directory) (located : t.locate path = .ok place)
    (walked : t.walk place left = .ok goal) (there : t.get? goal = some .directory) :
    ∃ found, leads t (left.map (·.map .literal)) path = [found] ∧ t.locate found = .ok goal := by
  -- The induction is on the pieces that are left, from wherever the search stands by then.
  induction left generalizing path place with
  | nil =>
    cases walked
    exact ⟨path, rfl, located⟩
  | cons piece left ih =>
    obtain ⟨⟨some, slashFree⟩, others⟩ := List.forall_mem_cons.1 names
    have here := FileTree.get?_of_walk_cons some walked
    obtain ⟨name, rfl⟩ : ∃ name : String, piece = name.toList :=
      ⟨String.ofList piece, String.toList_ofList.symm⟩
    rw [FileTree.walk_cons] at walked
    obtain ⟨next, one, walked⟩ := bind_eq_ok_iff.1 walked
    obtain ⟨onward, follows⟩ := stands.next followable some slashFree
    have located' := (locate_inside located slashFree follows).trans one
    -- Whatever is left to go through needs a directory to start in.
    have stays : t.get? next = .some .directory := by
      cases left with
      | nil =>
        cases walked
        exact there
      | cons piece' left' =>
        exact FileTree.get?_of_walk_cons (others piece' List.mem_cons_self).1 walked
    have step := step_map_literal (FileTree.isDirectory_iff.2 ⟨place, located, here⟩)
      (FileTree.contains_of_isDirectory (FileTree.isDirectory_iff.2 ⟨next, located', stays⟩))
    obtain ⟨found, led, own⟩ := ih others onward located' walked
    refine ⟨found, ?_, own⟩
    rw [List.map_cons, leads, map_literal_beq_anyDepth, if_neg Bool.false_ne_true, step,
      List.flatMap_singleton, led]

/-- The characters of the pieces that are searched are those of the path, but for slashes. -/
theorem mem_of_mem_searchPieces {piece : List Char} (h : piece ∈ searchPieces directory) {c : Char}
    (hc : c ∈ piece) : c ∈ directory.toList ∧ c ≠ '/' := by
  have own : piece ∈ Path.directoryPieces directory := by
    unfold searchPieces at h
    split at h
    · exact List.mem_of_mem_drop h
    · exact h
  refine Path.mem_of_mem_pieces ?_ hc
  rw [Path.pieces_eq_directoryPieces]
  exact List.mem_append_left _ own

/-- The pieces of a path without special characters are patterns for themselves. -/
theorem IsPlain.mapM_compile (plain : IsPlain directory) :
    (searchPieces directory).mapM compile =
      .ok ((searchPieces directory).map (·.map .literal)) := by
  rw [mapM_eq_ok_iff, List.forall₂_map_right_iff, List.forall₂_same]
  exact fun piece h => compile_of_isLiteral fun c hc =>
    plain.literal c (mem_of_mem_searchPieces h hc).1

/-- A search starts in the root, and the empty piece before the first slash is left out, or it
starts where a relative path does. -/
theorem searchPieces_cases (nonempty : directory ≠ "") :
    Path.isAbsolute directory = true ∧ searchStart directory = "/" ∧
        Path.directoryPieces directory = [] :: searchPieces directory ∨
      Path.isAbsolute directory = false ∧ searchStart directory = "." ∧
        Path.directoryPieces directory = searchPieces directory ∧
        ∃ first rest, searchPieces directory = first :: rest ∧ first ≠ [] := by
  obtain ⟨first, rest, pieces⟩ := Path.exists_directoryPieces_eq nonempty
  have absolute := Path.isAbsolute_iff nonempty pieces
  by_cases empty : first = []
  · subst empty
    rw [searchPieces, searchStart, if_pos (absolute.2 rfl), if_pos (absolute.2 rfl), pieces]
    exact .inl ⟨absolute.2 rfl, rfl, rfl⟩
  · have relative := mt absolute.1 empty
    rw [searchPieces, searchStart, if_neg relative, if_neg relative, pieces]
    exact .inr ⟨Bool.eq_false_iff.2 relative, rfl, rfl, first, rest, rfl, empty⟩

/-- No piece is empty that a path leads through where no slashes stand side by side. -/
theorem IsPlain.ne_nil_of_mem (plain : IsPlain directory) (nonempty : directory ≠ "")
    {piece : List Char} (h : piece ∈ searchPieces directory) : piece ≠ [] := by
  rcases searchPieces_cases nonempty with ⟨-, -, pieces⟩ | ⟨-, -, pieces, first, rest, split, some⟩
  · exact Path.ne_nil_of_mem_tail plain.single (by rw [pieces]; exact h)
  · rw [split] at h pieces
    rcases List.mem_cons.1 h with rfl | later
    · exact some
    · exact Path.ne_nil_of_mem_tail plain.single (by rw [pieces]; exact later)

/-- A search has all pieces of the path before it when it starts. -/
theorem stands_searchStart (nonempty : directory ≠ "") :
    Stands (searchStart directory) (searchPieces directory) directory := by
  have whole := Path.opened_eq_closedPieces directory
  rcases searchPieces_cases nonempty with ⟨-, start, pieces⟩ | ⟨-, start, pieces, -⟩
  · rw [pieces] at whole
    rw [start]
    exact .inr ⟨⟨[], [], by decide, by decide⟩, whole ▸ List.suffix_rfl⟩
  · rw [pieces] at whole
    exact .inl ⟨start, whole ▸ List.suffix_rfl⟩

/-- A directory is found from where a search for things in it starts. -/
theorem exists_locate_searchStart {goal : Place} (located : t.locate directory = .ok goal) :
    ∃ start, t.locate (searchStart directory) = .ok start ∧
      t.walk start (searchPieces directory) = .ok goal := by
  have followable := FileTree.isFollowable_of_locate located
  rw [followable.locate_eq, FileTree.start] at located
  rcases searchPieces_cases followable.nonempty with
    ⟨absolute, start, pieces⟩ | ⟨relative, start, pieces, first, rest, split, some⟩
  · have root : IsFollowable "/" := ⟨by decide, by decide, by decide⟩
    rw [absolute, if_pos rfl, pieces, FileTree.walk, if_pos rfl] at located
    exact ⟨[], by rw [start, root.locate_eq]; rfl, located⟩
  · have current : IsFollowable "." := ⟨by decide, by decide, by decide⟩
    rw [relative, if_neg Bool.false_ne_true, pieces] at located
    refine ⟨t.origin, ?_, located⟩
    have here := FileTree.get?_of_walk_cons some (split ▸ located)
    rw [start, current.locate_eq]
    show t.walk t.origin [['.']] = _
    rw [FileTree.walk, if_neg (List.cons_ne_nil _ _), here]
    rfl

/-- A path without special characters leads to its own directory. -/
theorem ledTo_of_isPlain {goal : Place} (plain : IsPlain directory)
    (located : t.locate directory = .ok goal) (there : t.get? goal = some .directory) :
    ∃ found, ledTo t directory = .ok [found] ∧ t.locate found = .ok goal := by
  have followable := FileTree.isFollowable_of_locate located
  obtain ⟨start, starts, walked⟩ := exists_locate_searchStart located
  obtain ⟨found, led, own⟩ := leads_of_stands followable
    (fun piece h => ⟨plain.ne_nil_of_mem followable.nonempty h,
      fun slash => (mem_of_mem_searchPieces h slash).2 rfl⟩)
    (stands_searchStart followable.nonempty) starts walked there
  refine ⟨found, ?_, own⟩
  rw [ledTo, plain.mapM_compile, ← led]
  rfl

end Search

/-- The pieces that lead to something in a directory. -/
theorem directoryPieces_inside {directory name : String} (some : name.toList ≠ [])
    (h : '/' ∉ name.toList) :
    Path.directoryPieces (inside directory name) =
      (if isCurrent directory then [] else Path.directoryPieces directory) ++ [name.toList] := by
  unfold inside
  split
  · have alone : name = Path.join "" name := String.toList_inj.1 (Path.toList_join h "").symm
    rw [alone, Path.directoryPieces_join some h, ← alone]
    rfl
  · exact Path.directoryPieces_join some h directory

/-- Two paths of something in a directory are the same only if the names are and the directories
lead to the same place. -/
theorem inside_inj {t : FileTree} {directory directory' name name' : String}
    (hd : t.isDirectory directory = true) (hd' : t.isDirectory directory' = true)
    (some : name.toList ≠ []) (some' : name'.toList ≠ []) (h : '/' ∉ name.toList)
    (h' : '/' ∉ name'.toList) (same : inside directory name = inside directory' name') :
    name = name' ∧ t.locate directory = t.locate directory' := by
  obtain ⟨place, located, -⟩ := FileTree.isDirectory_iff.1 hd
  obtain ⟨place', located', -⟩ := FileTree.isDirectory_iff.1 hd'
  have own := FileTree.isFollowable_of_locate located
  have own' := FileTree.isFollowable_of_locate located'
  have pieces := congrArg Path.directoryPieces same
  rw [directoryPieces_inside some h, directoryPieces_inside some' h'] at pieces
  -- The last piece is the name, and those before it lead to the directory.
  obtain ⟨before, last⟩ := List.append_inj' pieces rfl
  refine ⟨String.toList_inj.1 (List.cons.inj last).1, ?_⟩
  obtain ⟨first, rest, split⟩ := Path.exists_directoryPieces_eq own.nonempty
  obtain ⟨first', rest', split'⟩ := Path.exists_directoryPieces_eq own'.nonempty
  split at before
  · next current =>
    split at before
    · next current' =>
      rw [located, located', eq_origin_of_isCurrent current located,
        eq_origin_of_isCurrent current' located']
    · rw [split'] at before
      cases before
  · split at before
    · rw [split] at before
      cases before
    · rw [own.locate_eq, own'.locate_eq, before]
      rw [split, split'] at before
      obtain ⟨rfl, rfl⟩ := List.cons.inj before
      have absolute : Path.isAbsolute directory = Path.isAbsolute directory' :=
        Bool.eq_iff_iff.2 ((Path.isAbsolute_iff own.nonempty split).trans
          (Path.isAbsolute_iff own'.nonempty split').symm)
      rw [FileTree.start, FileTree.start, absolute]

end SpecBundle.Glob
