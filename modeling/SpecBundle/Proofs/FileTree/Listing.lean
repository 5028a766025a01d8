import Mathlib.Data.List.Sort
import Mathlib.Data.String.Basic
import SpecBundle.FileTree.Basic
import SpecBundle.Proofs.Lists

/-!
# What a directory lists

The names in a directory are listed in their order, each of them once, because only one thing stands
at a place. So they depend on what stands where and not on the order in which the tree has its
entries (`FileTree.SameFiles.names_eq`).
-/

namespace SpecBundle.FileTree

/-- A place lies directly inside another if one name leads from there to it. -/
theorem nameIn?_eq_some_iff {place inner : Place} {name : String} :
    nameIn? place inner = some name ↔ inner = place ++ [name] := by
  constructor
  · intro h
    unfold nameIn? at h
    split at h
    · next outer =>
      rw [← outer]
      exact (List.dropLast_append_getLast? name h).symm
    · cases h
  · rintro rfl
    rw [nameIn?, List.dropLast_concat, if_pos rfl, List.getLast?_concat]

/-- The names that lead from a place, in the order of the entries. -/
def namesAt (t : FileTree) (place : Place) : List String :=
  t.entries.filterMap fun e => nameIn? place e.1

/-- A name leads from a place to something. -/
theorem mem_namesAt_iff {t : FileTree} {place : Place} {name : String} :
    name ∈ t.namesAt place ↔ ∃ e, (place ++ [name], e) ∈ t.entries := by
  rw [namesAt, List.mem_filterMap]
  constructor
  · rintro ⟨⟨inner, e⟩, h, leads⟩
    rw [nameIn?_eq_some_iff] at leads
    exact ⟨e, leads ▸ h⟩
  · rintro ⟨e, h⟩
    exact ⟨_, h, nameIn?_eq_some_iff.2 rfl⟩

/-- No name leads from a place to two things. -/
theorem nodup_namesAt (t : FileTree) (place : Place) : (t.namesAt place).Nodup := by
  have from_places : t.namesAt place = (t.entries.map (·.1)).filterMap (nameIn? place) := by
    rw [List.filterMap_map]
    rfl
  rw [from_places]
  refine t.distinct.filterMap fun inner other name h h' => ?_
  rw [Option.mem_def, nameIn?_eq_some_iff] at h h'
  rw [h, h']

/-- The names in a directory are those that lead from its place, sorted. -/
theorem names_eq {t : FileTree} {path : String} {place : Place}
    (located : t.locate path = .ok place) (found : t.find path = .ok .directory) :
    t.names path = (t.namesAt place).mergeSort (· ≤ ·) := by
  unfold names
  rw [located, found]
  rfl

/-- Only a directory has names in it. -/
theorem names_eq_nil {t : FileTree} {path : String} (h : t.isDirectory path = false) :
    t.names path = [] := by
  unfold names
  split
  · next found _ =>
    rw [isDirectory, found] at h
    cases h
  · rfl

/-- A directory is found at a place. -/
theorem find_eq_directory {t : FileTree} {path : String} (h : t.isDirectory path = true) :
    t.find path = .ok .directory := by
  unfold isDirectory at h
  split at h
  · assumption
  · cases h

/-- A path leads to a directory if one stands at the place that it leads to. -/
theorem isDirectory_iff {t : FileTree} {path : String} :
    t.isDirectory path = true ↔
      ∃ place, t.locate path = .ok place ∧ t.get? place = some .directory := by
  cases located : t.locate path with
  | error cause => simp [isDirectory, find, located, bind, Except.bind]
  | ok place =>
    -- A file is no directory, whether or not it is found: a path with a slash at the end does not
    -- lead to one.
    rcases there : t.get? place with _ | content | _
    · simp [isDirectory, find, located, there, bind, Except.bind, throw, throwThe,
        MonadExceptOf.throw]
    · by_cases slash : endsInSlash path <;>
        simp [isDirectory, find, located, there, slash, bind, Except.bind, throw, throwThe,
          MonadExceptOf.throw, pure, Except.pure]
    · simp [isDirectory, find, located, there, bind, Except.bind, pure, Except.pure]

/-- There is something where a directory is. -/
theorem contains_of_isDirectory {t : FileTree} {path : String} (h : t.isDirectory path = true) :
    t.contains path = true := by
  rw [contains, find_eq_directory h]
  rfl

/-- Names are sorted, and none is there twice. -/
theorem pairwise_names_lt (t : FileTree) (path : String) :
    (t.names path).Pairwise (· < ·) := by
  cases directory : t.isDirectory path with
  | false => exact names_eq_nil directory ▸ List.Pairwise.nil
  | true =>
    obtain ⟨place, located, -⟩ := isDirectory_iff.1 directory
    rw [names_eq located (find_eq_directory directory)]
    have sorted : ((t.namesAt place).mergeSort (· ≤ ·)).Pairwise fun m n => decide (m ≤ n) = true :=
      List.pairwise_mergeSort (fun a b c hab hbc => by
        rw [decide_eq_true_eq] at hab hbc ⊢
        exact hab.trans hbc) (fun a b => by
        rw [Bool.or_eq_true, decide_eq_true_eq, decide_eq_true_eq]
        exact le_total a b) _
    have distinct : ((t.namesAt place).mergeSort (· ≤ ·)).Nodup :=
      (List.mergeSort_perm _ _).nodup_iff.2 (t.nodup_namesAt place)
    exact (sorted.and distinct).imp fun ⟨le, ne⟩ => lt_of_le_of_ne (of_decide_eq_true le) ne

/-- The names in a directory are those of the things that stand directly inside it. -/
theorem mem_names_iff {t : FileTree} {path name : String} :
    name ∈ t.names path ↔
      ∃ place, t.locate path = .ok place ∧ t.get? place = some .directory ∧
        ∃ e, (place ++ [name], e) ∈ t.entries := by
  constructor
  · intro h
    cases directory : t.isDirectory path with
    | false =>
      rw [names_eq_nil directory] at h
      cases h
    | true =>
      obtain ⟨place, located, stands⟩ := isDirectory_iff.1 directory
      rw [names_eq located (find_eq_directory directory), List.mem_mergeSort] at h
      exact ⟨place, located, stands, mem_namesAt_iff.1 h⟩
  · rintro ⟨place, located, stands, h⟩
    have directory : t.isDirectory path = true := isDirectory_iff.2 ⟨place, located, stands⟩
    rw [names_eq located (find_eq_directory directory), List.mem_mergeSort]
    exact mem_namesAt_iff.2 h

section

variable {t : FileTree} {path other : String} (same : t.locate other = t.locate path)
  (directory : t.isDirectory path = true)

include same directory

/-- A path that leads where a directory is leads to a directory. -/
theorem isDirectory_of_locate_eq : t.isDirectory other = true := by
  obtain ⟨place, located, there⟩ := isDirectory_iff.1 directory
  exact isDirectory_iff.2 ⟨place, same.trans located, there⟩

/-- A directory has the same names by whatever path. -/
theorem names_of_locate_eq : t.names other = t.names path := by
  obtain ⟨place, located, -⟩ := isDirectory_iff.1 directory
  rw [names_eq located (find_eq_directory directory), names_eq (same.trans located)
    (find_eq_directory (isDirectory_of_locate_eq same directory))]

end

/-! ## The order of entries -/

/-- Two trees have the same files and directories, in any order, and a relative path starts at the
same place. -/
def SameFiles (t t' : FileTree) : Prop :=
  t.entries.Perm t'.entries ∧ t.origin = t'.origin

namespace SameFiles

variable {t t' : FileTree} (h : SameFiles t t')

include h

/-- The same things stand at all places. -/
theorem get?_eq (place : Place) : t.get? place = t'.get? place := by
  unfold get?
  split
  · rfl
  · exact lookup_eq_of_perm t.distinct h.1 place

/-- A path is followed to the same place. -/
theorem walk_eq (place : Place) (pieces : List (List Char)) :
    t.walk place pieces = t'.walk place pieces := by
  induction pieces generalizing place with
  | nil => rfl
  | cons piece rest ih =>
    unfold walk
    rw [← h.get?_eq]
    simp only [ih]

/-- A path leads to the same place. -/
theorem locate_eq (path : String) : t.locate path = t'.locate path := by
  unfold locate
  rw [h.2, h.walk_eq]

/-- A path leads to the same thing. -/
theorem find_eq (path : String) : t.find path = t'.find path := by
  unfold find
  rw [h.locate_eq]
  simp only [h.get?_eq]

/-- Whether anything stands where a path leads to is the same. -/
theorem contains_eq (path : String) : t.contains path = t'.contains path := by
  rw [contains, contains, h.find_eq]

/-- Whether a path leads to a file is the same. -/
theorem isFile_eq (path : String) : t.isFile path = t'.isFile path := by
  rw [isFile, isFile, h.find_eq]

/-- The same bytes are read. -/
theorem read_eq (path : String) : t.read path = t'.read path := by
  rw [read, read, h.find_eq]

/-- A directory lists the same names in the same order. -/
theorem names_eq (path : String) : t.names path = t'.names path := by
  have same (name : String) : name ∈ t.names path ↔ name ∈ t'.names path := by
    rw [mem_names_iff, mem_names_iff, h.locate_eq]
    simp only [h.get?_eq, h.1.mem_iff]
  -- Lists in strict order that have the same members are equal.
  have perm : (t.names path).Perm (t'.names path) :=
    (List.perm_ext_iff_of_nodup ((pairwise_names_lt t path).imp ne_of_lt)
      ((pairwise_names_lt t' path).imp ne_of_lt)).2 same
  exact perm.eq_of_pairwise' (pairwise_names_lt t path) (pairwise_names_lt t' path)

end SameFiles

end SpecBundle.FileTree
