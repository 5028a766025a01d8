import Mathlib.Data.List.Basic
import Mathlib.Tactic.ByContra
import SpecBundle.Path

/-!
# Names at the end of a path

A path inside a directory ends in the name that is put there (`fileName?_join`), and it has an
extension exactly if the name is something, a dot and the extension (`extension?_join_eq_iff`). The
pieces of such a path are those that lead to the directory, and then the name (`pieces_join`).
-/

namespace SpecBundle.Path

/-- A text can be the name of a file: it is one piece of a path, and that piece leads to something
inside the directory. -/
structure IsName (name : String) : Prop where
  /-- It is not empty. -/
  nonempty : name.toList ≠ []
  /-- It is not the name of the directory itself. -/
  ne_current : name.toList ≠ ['.']
  /-- It is not the name of the directory above. -/
  ne_up : name.toList ≠ ['.', '.']
  /-- It has one piece. -/
  slashFree : '/' ∉ name.toList

/-! ## Pieces -/

/-- A character that is no slash belongs to the first piece. -/
theorem pieces_cons {c : Char} (h : c ≠ '/') {cs piece : List Char} {more : List (List Char)}
    (first : pieces cs = piece :: more) : pieces (c :: cs) = (c :: piece) :: more := by
  rw [pieces.eq_def]
  split
  · next eq => cases eq
  · next eq => exact absurd (List.cons.inj eq).1 h
  · next eq =>
    obtain ⟨rfl, rfl⟩ := List.cons.inj eq
    rw [first]

/-- A text without slashes is one piece. -/
theorem pieces_of_slashFree {cs : List Char} (h : '/' ∉ cs) : pieces cs = [cs] := by
  induction cs with
  | nil => rfl
  | cons c cs ih =>
    obtain ⟨other, rest⟩ := List.ne_and_not_mem_of_not_mem_cons h
    exact pieces_cons other.symm (ih rest)

/-- The characters of a piece are those of the text, but for slashes. -/
theorem mem_of_mem_pieces {cs piece : List Char} (h : piece ∈ pieces cs) {c : Char}
    (hc : c ∈ piece) : c ∈ cs ∧ c ≠ '/' := by
  induction cs generalizing piece with
  | nil =>
    rw [List.mem_singleton.1 h] at hc
    cases hc
  | cons d cs ih =>
    by_cases slash : d = '/'
    · subst slash
      rcases List.mem_cons.1 (show piece ∈ [] :: pieces cs from h) with rfl | later
      · cases hc
      · exact ⟨List.mem_cons_of_mem _ (ih later hc).1, (ih later hc).2⟩
    · obtain ⟨first, more, split⟩ := List.exists_cons_of_ne_nil (pieces_ne_nil cs)
      rw [pieces_cons slash split] at h
      rw [split] at ih
      rcases List.mem_cons.1 h with rfl | later
      · rcases List.mem_cons.1 hc with rfl | own
        · exact ⟨List.mem_cons_self, slash⟩
        · have rest := ih List.mem_cons_self own
          exact ⟨List.mem_cons_of_mem d rest.1, rest.2⟩
      · have own := ih (List.mem_cons_of_mem first later) hc
        exact ⟨List.mem_cons_of_mem d own.1, own.2⟩

/-- A slash ends a piece. -/
theorem pieces_append_slash (as bs : List Char) :
    pieces (as ++ '/' :: bs) = pieces as ++ pieces bs := by
  induction as with
  | nil => rfl
  | cons a as ih =>
    by_cases slash : a = '/'
    · subst slash
      show [] :: pieces (as ++ '/' :: bs) = ([] :: pieces as) ++ pieces bs
      rw [ih, List.cons_append]
    · obtain ⟨piece, more, first⟩ := List.exists_cons_of_ne_nil (pieces_ne_nil as)
      have longer : pieces (as ++ '/' :: bs) = piece :: (more ++ pieces bs) := by
        rw [ih, first, List.cons_append]
      rw [List.cons_append, pieces_cons slash longer, pieces_cons slash first, List.cons_append]

/-- A name can be put right behind a path: the path ends in a slash or is empty. -/
def isOpen (path : String) : Bool :=
  path == "" || path.toList.getLast? == some '/'

/-- The text that a name in a directory is put behind. -/
def opened (directory : String) : List Char :=
  directory.toList ++ if isOpen directory then [] else ['/']

/-- The pieces that lead to a directory: those of its path, without what stands behind a slash at
the end. -/
def directoryPieces (directory : String) : List (List Char) :=
  if isOpen directory then (pieces directory.toList).dropLast else pieces directory.toList

/-- Behind a slash at the end of a path stands an empty piece. -/
theorem pieces_eq_directoryPieces (path : String) :
    pieces path.toList = directoryPieces path ++ if isOpen path then [[]] else [] := by
  unfold directoryPieces
  split
  · next isOpen =>
    rcases Bool.or_eq_true_iff.1 isOpen with none | slash
    · rw [beq_iff_eq.1 none]
      rfl
    · obtain ⟨before, split⟩ := List.getLast?_eq_some_iff.1 (beq_iff_eq.1 slash)
      rw [split, pieces_append_slash]
      show pieces before ++ [[]] = (pieces before ++ [[]]).dropLast ++ [[]]
      rw [List.dropLast_concat]
  · rw [List.append_nil]

/-- The pieces of something in a directory are those that lead to the directory and its own. -/
theorem pieces_opened_append (directory : String) (cs : List Char) :
    pieces (opened directory ++ cs) = directoryPieces directory ++ pieces cs := by
  -- Where the path ends in a slash, the pieces come in the place of the empty one behind it.
  have own := pieces_eq_directoryPieces directory
  unfold opened
  split
  · next isOpen =>
    rw [if_pos isOpen] at own
    rcases Bool.or_eq_true_iff.1 isOpen with none | slash
    · rw [beq_iff_eq.1 none]
      rfl
    · obtain ⟨before, split⟩ := List.getLast?_eq_some_iff.1 (beq_iff_eq.1 slash)
      have same : pieces before ++ [[]] = directoryPieces directory ++ [[]] := by
        rw [← own, split, pieces_append_slash]
        rfl
      rw [List.append_nil, split, List.append_assoc, List.singleton_append, pieces_append_slash,
        List.append_cancel_right same]
  · next closed =>
    rw [if_neg closed, List.append_nil] at own
    rw [List.append_assoc, List.singleton_append, pieces_append_slash, own]

/-- A name does not start at the root. -/
theorem isAbsolute_of_slashFree {name : String} (h : '/' ∉ name.toList) :
    isAbsolute name = false := by
  rw [isAbsolute, beq_eq_false_iff_ne]
  exact fun first => h (List.mem_of_head? first)

/-- A path inside a directory is a name behind the text of the directory. -/
theorem toList_join {name : String} (h : '/' ∉ name.toList) (directory : String) :
    (join directory name).toList = opened directory ++ name.toList := by
  unfold join opened
  rw [isAbsolute_of_slashFree h, if_neg Bool.false_ne_true]
  show (if isOpen directory then _ else _ : String).toList = _
  split <;> simp

/-- A path inside a directory starts at the root if that of the directory does. -/
theorem isAbsolute_join {directory name : String} (some : directory ≠ "") (h : '/' ∉ name.toList) :
    isAbsolute (join directory name) = isAbsolute directory := by
  obtain ⟨c, cs, split⟩ := List.exists_cons_of_ne_nil fun none => some (String.toList_inj.1 none)
  rw [isAbsolute, isAbsolute, toList_join h, opened, split]
  rfl

/-- The pieces of a path inside a directory. -/
theorem pieces_join {name : String} (h : '/' ∉ name.toList) (directory : String) :
    pieces (join directory name).toList = directoryPieces directory ++ [name.toList] := by
  rw [toList_join h, pieces_opened_append, pieces_of_slashFree h]

/-- A path inside a directory has the name that is put there as its last piece, and that leads to
it when it is a directory. -/
theorem directoryPieces_join {name : String} (some : name.toList ≠ []) (h : '/' ∉ name.toList)
    (directory : String) :
    directoryPieces (join directory name) = directoryPieces directory ++ [name.toList] := by
  have closed : isOpen (join directory name) = false := by
    rw [isOpen, Bool.or_eq_false_iff, beq_eq_false_iff_ne, beq_eq_false_iff_ne, toList_join h]
    refine ⟨fun none => ?_, fun slash => ?_⟩
    · have chars := toList_join h directory
      rw [none] at chars
      exact some (List.append_eq_nil_iff.1 chars.symm).2
    · rw [List.getLast?_append_of_ne_nil _ some] at slash
      exact h (List.mem_of_getLast? slash)
  rw [directoryPieces, closed, if_neg Bool.false_ne_true, pieces_join h]

/-! ## The text of a directory -/

/-- The text of pieces with a slash behind each of them. -/
def closedPieces (pieces : List (List Char)) : List Char :=
  pieces.flatMap (· ++ ['/'])

theorem unpieces_concat_nil (pieces : List (List Char)) :
    unpieces (pieces ++ [[]]) = closedPieces pieces := by
  induction pieces with
  | nil => rfl
  | cons piece more ih =>
    obtain ⟨next, rest, split⟩ := List.exists_cons_of_ne_nil (List.concat_ne_nil [] more)
    rw [List.cons_append, split, unpieces, ← split, ih, closedPieces, closedPieces,
      List.flatMap_cons, List.append_assoc]
    · rfl
    · exact List.cons_ne_nil _ _

/-- What a name in a directory is put behind are the pieces that lead to the directory, each with a
slash. -/
theorem opened_eq_closedPieces (directory : String) :
    opened directory = closedPieces (directoryPieces directory) := by
  rw [← unpieces_concat_nil, ← unpieces_pieces (opened directory)]
  have whole := pieces_opened_append directory []
  rw [List.append_nil] at whole
  rw [whole]
  rfl

/-- A name in a directory is put behind by its path and a slash. -/
theorem opened_join {name : String} (some : name.toList ≠ []) (h : '/' ∉ name.toList)
    (base : String) : opened (join base name) = (join base name).toList ++ ['/'] := by
  rw [opened_eq_closedPieces, directoryPieces_join some h, toList_join h,
    opened_eq_closedPieces base, closedPieces, closedPieces, List.flatMap_append,
    List.flatMap_singleton, List.append_assoc]

/-- Pieces with a slash behind each of them end in a slash. -/
theorem exists_closedPieces_eq {pieces : List (List Char)} (some : pieces ≠ []) :
    ∃ before, closedPieces pieces = before ++ ['/'] := by
  obtain ⟨before, last, rfl⟩ := List.eq_nil_or_concat' pieces |>.resolve_left some
  refine ⟨closedPieces before ++ last, ?_⟩
  rw [closedPieces, List.flatMap_append, List.flatMap_singleton, ← List.append_assoc]
  rfl

/-- A path that is not empty has a piece. -/
theorem exists_directoryPieces_eq {directory : String} (some : directory ≠ "") :
    ∃ first rest, directoryPieces directory = first :: rest := by
  refine List.exists_cons_of_ne_nil fun none => some (String.toList_inj.1 ?_)
  have whole := opened_eq_closedPieces directory
  rw [none] at whole
  exact (List.append_eq_nil_iff.1 whole).1

/-- A path starts at the root exactly if its first piece is empty. -/
theorem isAbsolute_iff {directory : String} {first : List Char} {rest : List (List Char)}
    (some : directory ≠ "") (split : directoryPieces directory = first :: rest) :
    isAbsolute directory = true ↔ first = [] := by
  obtain ⟨c, cs, chars⟩ := List.exists_cons_of_ne_nil fun none => some (String.toList_inj.1 none)
  have own := pieces_eq_directoryPieces directory
  rw [split, chars, List.cons_append] at own
  rw [isAbsolute, chars, List.head?_cons, beq_iff_eq, Option.some.injEq]
  constructor
  · rintro rfl
    exact (List.cons.inj own).1.symm
  · rintro rfl
    by_contra other
    obtain ⟨piece, more, pieces⟩ := List.exists_cons_of_ne_nil (pieces_ne_nil cs)
    rw [pieces_cons other pieces] at own
    cases (List.cons.inj own).1

/-- An absolute path starts with an empty piece, and the others are those of the text behind the
slash. -/
theorem pieces_of_isAbsolute {path : String} (h : isAbsolute path = true) :
    pieces path.toList = [] :: pieces (path.toList.drop 1) := by
  obtain ⟨cs, split⟩ := List.head?_eq_some_iff.1 (beq_iff_eq.1 h)
  rw [split]
  rfl

/-- Only the first piece that leads to a directory can be empty unless two slashes stand side by
side. -/
theorem ne_nil_of_mem_tail {directory : String} (h : ¬ ['/', '/'] <:+: directory.toList)
    {piece : List Char} (later : piece ∈ (directoryPieces directory).tail) : piece ≠ [] := by
  rintro rfl
  apply h
  obtain ⟨between, after, split⟩ := List.append_of_mem later
  have nonempty : directoryPieces directory ≠ [] := by
    intro none
    rw [none] at later
    cases later
  obtain ⟨first, rest, pieces⟩ := List.exists_cons_of_ne_nil nonempty
  rw [pieces, List.tail_cons] at split
  have whole := opened_eq_closedPieces directory
  obtain ⟨before, ends⟩ := exists_closedPieces_eq (List.cons_ne_nil first between)
  -- The empty piece stands between the slash before it and its own.
  have slashes : opened directory = before ++ '/' :: '/' :: closedPieces after := by
    rw [whole, pieces, split]
    show closedPieces ((first :: between) ++ [] :: after) = _
    rw [closedPieces, List.flatMap_append, ← closedPieces, ends, List.append_assoc]
    rfl
  unfold opened at slashes
  split at slashes
  · rw [List.append_nil] at slashes
    exact ⟨before, closedPieces after, by rw [slashes]; simp⟩
  · next closed =>
    rcases List.eq_nil_or_concat' (closedPieces after) with none | ⟨last, slash, some⟩
    · have ends : directory.toList ++ ['/'] = (before ++ ['/']) ++ ['/'] := by
        rw [slashes, none, List.append_assoc]
        rfl
      have isOpen : isOpen directory = true := by
        rw [Path.isOpen, (List.append_inj' ends rfl).1, List.getLast?_concat]
        exact Bool.or_true _
      exact absurd isOpen closed
    · have ends : directory.toList ++ ['/'] = (before ++ '/' :: '/' :: last) ++ [slash] := by
        rw [slashes, some, List.append_assoc]
        rfl
      exact ⟨before, last, by rw [(List.append_inj' ends rfl).1]; simp⟩

/-- A path inside a directory ends in the name that is put there. -/
theorem fileName?_join {name : String} (h : IsName name) (directory : String) :
    fileName? (join directory name) = some name := by
  -- The name means something, so it is not trimmed off the end.
  have last : last? (join directory name) = some name.toList := by
    have trimmed : trimmed (join directory name) =
        name.toList :: (directoryPieces directory).reverse := by
      rw [trimmed, pieces_join h.slashFree, List.reverse_append, List.reverse_singleton,
        List.singleton_append]
      cases (directoryPieces directory).reverse with
      | nil => rfl
      | cons piece more =>
        have counts : ¬ (name.toList = [] ∨ name.toList = ['.']) :=
          not_or.2 ⟨h.nonempty, h.ne_current⟩
        rw [trimmed.trim, if_neg counts]
        rintro first
        cases first
    rw [last?, trimmed]
    split
    · next eq => cases eq
    · next eq => exact absurd (List.cons.inj eq).1 h.nonempty
    · next eq => rw [(List.cons.inj eq).1]
  rw [fileName?, last, Option.bind_some, if_neg (not_or.2 ⟨h.ne_current, h.ne_up⟩),
    String.ofList_toList]

/-! ## Extensions -/

/-- A name has an extension if it is something, a dot, and that extension, which has no dot. -/
theorem splitName_snd_eq_some_iff {name : String} {extension : List Char} (h : '.' ∉ extension) :
    (splitName name).2 = some extension ↔
      ∃ stem, stem ≠ [] ∧ name.toList = stem ++ '.' :: extension := by
  -- The name is read backwards, up to its last dot.
  have whole := List.takeWhile_append_dropWhile (p := (· != '.')) (l := name.toList.reverse)
  constructor
  · intro found
    simp only [splitName] at found
    split at found
    · next c stem behind =>
      refine ⟨(c :: stem).reverse, by simp, ?_⟩
      have taken : (name.toList.reverse.takeWhile (· != '.')) = extension.reverse := by
        rw [← Option.some.inj found, List.reverse_reverse]
      rw [taken, behind] at whole
      rw [← List.reverse_reverse name.toList, ← whole]
      simp
    · cases found
  · rintro ⟨stem, nonempty, split⟩
    obtain ⟨before, c, rfl⟩ := List.eq_nil_or_concat stem |>.resolve_left nonempty
    have dotless : ∀ d ∈ extension.reverse, (d != '.') = true := fun d hd =>
      bne_iff_ne.2 fun dot => h (dot ▸ List.mem_reverse.1 hd)
    have backwards : name.toList.reverse = extension.reverse ++ '.' :: c :: before.reverse := by
      rw [split]
      simp
    simp only [splitName]
    rw [backwards, List.dropWhile_append_of_pos dotless, List.takeWhile_append_of_pos dotless]
    simp

/-- A name is what is left of it without its extension, and then a dot and the extension if it has
one. -/
theorem splitName_append (name : String) :
    (splitName name).1 ++ (splitName name).2.elim [] ('.' :: ·) = name.toList := by
  simp only [splitName]
  split
  · next c stem behind =>
    have whole := List.takeWhile_append_dropWhile (p := (· != '.')) (l := name.toList.reverse)
    rw [behind] at whole
    have forwards := congrArg List.reverse whole
    rw [List.reverse_reverse, List.reverse_append, List.reverse_cons, List.append_assoc] at forwards
    exact forwards
  · exact List.append_nil _

/-- The extension of a path inside a directory is that of the name that is put there. -/
theorem extension?_join_eq_iff {name extension : String} (h : IsName name)
    (dotless : '.' ∉ extension.toList) (directory : String) :
    extension? (join directory name) = some extension ↔
      ∃ stem, stem ≠ "" ∧ name = stem ++ "." ++ extension := by
  have found : extension? (join directory name) = some extension ↔
      (splitName name).2 = some extension.toList := by
    rw [extension?, fileName?_join h, Option.bind_some, Option.map_eq_some_iff]
    constructor
    · rintro ⟨cs, hcs, rfl⟩
      rw [String.toList_ofList]
      exact hcs
    · exact fun hcs => ⟨_, hcs, String.ofList_toList⟩
  rw [found, splitName_snd_eq_some_iff dotless]
  constructor
  · rintro ⟨stem, nonempty, split⟩
    refine ⟨String.ofList stem, fun none => nonempty ?_, String.toList_inj.1 ?_⟩
    · rw [← String.toList_ofList (l := stem), none]
      rfl
    · rw [split]
      simp
  · rintro ⟨stem, nonempty, rfl⟩
    refine ⟨stem.toList, fun none => nonempty (String.toList_inj.1 none), ?_⟩
    simp

end SpecBundle.Path
