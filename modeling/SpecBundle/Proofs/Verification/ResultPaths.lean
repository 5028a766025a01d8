import Mathlib.Data.List.Perm.Basic
import SpecBundle.Proofs.Path.Order
import SpecBundle.Proofs.Verification.Evidence
import SpecBundle.Proofs.Verification.Patterns

/-!
# Whose result files are found

The result files of a checker should be those in its own directory. They are sought by patterns that
start with the path of the directory, so what is found are the result files in all directories that
the path leads to as a pattern (`Checker.resultPaths_perm`). Those of the own directory are found,
and nothing else, exactly if there is no other among the directories that hold any; so it is if the
path has no special characters (`Checker.findsOwn_iff`).
-/

namespace SpecBundle

namespace Checker

/-! ## What is sought -/

/-- How the names of result files end. -/
def resultEndings : List String := [".sarif", ".json"]

/-- A name ends like that of a result file. -/
def isResultName (name : String) : Bool :=
  resultEndings.any fun ending => ending.toList.isSuffixOf name.toList

/-- The names of the result files in a directory. -/
def resultNames (t : FileTree) (directory : String) : List String :=
  (t.names directory).filter isResultName

/-- The paths of the result files in a directory. -/
def resultsIn (t : FileTree) (directory : String) : List String :=
  (resultNames t directory).map (Glob.inside directory)

/-- Of all endings each name has one at most. -/
theorem not_both_endings (name : String) :
    ¬ (".sarif".toList <:+ name.toList ∧ ".json".toList <:+ name.toList) := by
  rintro ⟨⟨before, sarif⟩, before', json⟩
  have last := congrArg List.getLast? (sarif.trans json.symm)
  rw [List.getLast?_append_of_ne_nil _ (by decide), List.getLast?_append_of_ne_nil _ (by decide)]
    at last
  exact absurd last (by decide)

/-- What the patterns stand for in a directory, one after the other, are its result files. -/
theorem perm_resultsIn (t : FileTree) (directory : String) :
    (Glob.entriesLike t (.sequence :: ".sarif".toList.map .literal) directory ++
      Glob.entriesLike t (.sequence :: ".json".toList.map .literal) directory).Perm
        (resultsIn t directory) := by
  unfold Glob.entriesLike resultsIn
  simp only [Glob.matchText_sequence]
  rw [← List.map_append]
  refine List.Perm.map _ ((filter_append_filter_perm _ fun name both => ?_).trans ?_)
  · exact not_both_endings name (both.imp List.isSuffixOf_iff_suffix.1 List.isSuffixOf_iff_suffix.1)
  · refine List.Perm.of_eq (List.filter_congr fun name _ => ?_)
    rw [isResultName, resultEndings, List.any_cons, List.any_cons, List.any_nil, Bool.or_false]

/-- An ending is a text in which all characters stand for themselves, and no slash is among them. -/
theorem isLiteral_of_mem_ending {ending : String} (h : ending ∈ resultEndings) :
    ending.toList ≠ [] ∧ ∀ c ∈ ending.toList, Glob.IsLiteral c ∧ c ≠ '/' := by
  have all : ∀ ending ∈ resultEndings, ending.toList ≠ [] ∧
      (ending.toList.all fun c => c != '*' && c != '?' && c != '[' && c != '/') = true := by
    decide
  obtain ⟨nonempty, literal⟩ := all ending h
  refine ⟨nonempty, fun c hc => ?_⟩
  have own := List.all_eq_true.1 literal c hc
  simp only [Bool.and_eq_true, bne_iff_ne] at own
  exact ⟨⟨own.1.1.1, own.1.1.2, own.1.2⟩, own.2⟩

/-- A pattern for names with an ending is a star before the ending, and it has no slash. -/
theorem toList_star_append {ending : String} (h : ending ∈ resultEndings) :
    ("*" ++ ending).toList = '*' :: ending.toList ∧ '/' ∉ ("*" ++ ending).toList := by
  have chars : ("*" ++ ending).toList = '*' :: ending.toList := by
    rw [String.toList_append]
    rfl
  refine ⟨chars, ?_⟩
  rw [chars]
  exact List.not_mem_cons_of_ne_of_not_mem (by decide) fun slash =>
    ((isLiteral_of_mem_ending h).2 _ slash).2 rfl

/-- A pattern for names with an ending behind the path of a directory stands for the names with that
ending in all directories that the path leads to. -/
theorem paths_join_ending {directory ending : String} (some : directory ≠ "")
    (h : ending ∈ resultEndings) (t : FileTree) :
    Glob.paths t (Path.join directory ("*" ++ ending)) = do
      let _ ← Glob.compile (Path.join directory ("*" ++ ending)).toList
      let directories ← Glob.ledTo t directory
      return directories.flatMap
        (Glob.entriesLike t (.sequence :: ending.toList.map .literal)) := by
  obtain ⟨nonempty, literal⟩ := isLiteral_of_mem_ending h
  obtain ⟨chars, slashFree⟩ := toList_star_append h
  have compiled : Glob.compile ("*" ++ ending).toList =
      .ok (.sequence :: ending.toList.map .literal) := by
    rw [chars]
    exact Glob.compile_append_star (fun c hc => absurd hc List.not_mem_nil)
      (fun c hc => (literal c hc).1) nonempty
  refine Glob.paths_join some (by rw [chars]; exact List.cons_ne_nil _ _) slashFree compiled ?_ rfl
    rfl t
  rw [beq_eq_false_iff_ne]
  nofun

/-! ## What is found -/

section

variable {c : Checker} {t : FileTree}

/-- The paths of result files are what the patterns stand for, in order. -/
theorem resultPaths_eq_ok {paths : List String} (h : c.resultPaths t = .ok paths) :
    paths.Pairwise (fun p q => Path.comesBefore p q = true) ∧
      ∃ found, resultPatterns.mapM (fun pattern =>
          Glob.paths t (Path.join c.outputDir pattern)) = .ok found ∧
        paths.Perm found.flatten := by
  unfold resultPaths at h
  cases hf : resultPatterns.mapM (fun pattern =>
      Glob.paths t (Path.join c.outputDir pattern)) with
  | error e =>
    rw [hf] at h
    cases h
  | ok found =>
    rw [hf] at h
    cases Except.ok.inj h
    exact ⟨Path.pairwise_mergeSort_comesBefore _, found, rfl, List.mergeSort_perm _ _⟩

/-- What is found are the result files in all directories that the path of the checker's directory
leads to, in the order of their paths. -/
theorem resultPaths_perm {paths : List String} (some : c.outputDir ≠ "")
    (h : c.resultPaths t = .ok paths) :
    paths.Pairwise (fun p q => Path.comesBefore p q = true) ∧
      ∃ directories, Glob.ledTo t c.outputDir = .ok directories ∧
        paths.Perm (directories.flatMap (resultsIn t)) := by
  obtain ⟨sorted, found, each, perm⟩ := resultPaths_eq_ok h
  refine ⟨sorted, ?_⟩
  have led {ending : String} (h : ending ∈ resultEndings) {paths : List String}
      (own : Glob.paths t (Path.join c.outputDir ("*" ++ ending)) = .ok paths) :
      ∃ directories, Glob.ledTo t c.outputDir = .ok directories ∧ paths = directories.flatMap
        (Glob.entriesLike t (.sequence :: ending.toList.map .literal)) := by
    rw [paths_join_ending some h] at own
    obtain ⟨_, -, own⟩ := bind_eq_ok_iff.1 own
    obtain ⟨directories, led, own⟩ := bind_eq_ok_iff.1 own
    exact ⟨directories, led, (Except.ok.inj own).symm⟩
  rcases forall₂_of_mapM_ok each with _ | ⟨sarif, _ | ⟨json, _ | _⟩⟩
  obtain ⟨directories, ledTo, rfl⟩ := led (List.mem_cons_self : ".sarif" ∈ resultEndings) sarif
  obtain ⟨directories', ledTo', rfl⟩ :=
    led (List.mem_cons_of_mem _ List.mem_cons_self : ".json" ∈ resultEndings) json
  rw [ledTo] at ledTo'
  cases ledTo'
  -- Both endings are sought in the same directories, so what is found can be put together directory
  -- by directory.
  refine ⟨directories, ledTo, perm.trans ?_⟩
  rw [List.flatten_cons, List.flatten_singleton]
  refine (List.flatMap_append_perm directories _ _).trans ?_
  exact List.Perm.flatMap_left directories fun directory _ => perm_resultsIn t directory

/-- Where the patterns are sound, the search goes through all directories that the path of the
checker's directory leads to. -/
theorem resultPaths_of_ledTo {directories : List String} (some : c.outputDir ≠ "")
    (sound : ∀ ending ∈ resultEndings,
      (Glob.compile (Path.join c.outputDir ("*" ++ ending)).toList).isOk = true)
    (led : Glob.ledTo t c.outputDir = .ok directories) :
    c.resultPaths t = .ok ((resultEndings.flatMap fun ending => directories.flatMap
      (Glob.entriesLike t (.sequence :: ending.toList.map .literal))).mergeSort
        Path.comesBefore) := by
  have patterns : resultPatterns = resultEndings.map ("*" ++ ·) := by decide
  have each : resultPatterns.mapM (fun pattern => Glob.paths t (Path.join c.outputDir pattern)) =
      .ok (resultEndings.map fun ending => directories.flatMap
        (Glob.entriesLike t (.sequence :: ending.toList.map .literal))) := by
    rw [mapM_eq_ok_iff, patterns, List.forall₂_map_left_iff, List.forall₂_map_right_iff,
      List.forall₂_same]
    intro ending h
    have compiled := sound ending h
    rw [paths_join_ending some h, led]
    cases result : Glob.compile (Path.join c.outputDir ("*" ++ ending)).toList with
    | error e =>
      rw [result] at compiled
      cases compiled
    | ok tokens => rfl
  rw [resultPaths, each]
  rfl

variable (c t) in
/-- The result files in the checker's own directory are found, by their paths in order, and nothing
else is. The directory may be spelled in another way. -/
def FindsOwn : Prop :=
  ∃ paths directory, c.resultPaths t = .ok paths ∧ t.locate directory = t.locate c.outputDir ∧
    paths.Pairwise (fun p q => Path.comesBefore p q = true) ∧
    paths.Perm ((resultNames t c.outputDir).map (Glob.inside directory))

/-- There are result files in a directory. -/
def holdsResults (t : FileTree) (directory : String) : Bool :=
  !(resultNames t directory).isEmpty

/-- A directory without result files contributes none. -/
theorem not_holdsResults_iff {directory : String} :
    ¬ holdsResults t directory = true ↔ resultsIn t directory = [] := by
  rw [resultsIn, List.map_eq_nil_iff, holdsResults, Bool.not_eq_true', Bool.not_eq_false,
    List.isEmpty_iff]

/-- Only directories with result files contribute to what is found. -/
theorem flatMap_resultsIn_filter (directories : List String) :
    (directories.filter (holdsResults t)).flatMap (resultsIn t) =
      directories.flatMap (resultsIn t) := by
  induction directories with
  | nil => rfl
  | cons directory others ih =>
    rw [List.flatMap_cons, ← ih, List.filter_cons]
    split
    · rw [List.flatMap_cons]
    · next none => rw [not_holdsResults_iff.1 none, List.nil_append]

/-- Nothing is found exactly if no directory holds result files. -/
theorem filter_holdsResults_eq_nil_iff {directories : List String} :
    directories.filter (holdsResults t) = [] ↔ directories.flatMap (resultsIn t) = [] := by
  rw [List.filter_eq_nil_iff, List.flatMap_eq_nil_iff]
  exact forall₂_congr fun directory _ => not_holdsResults_iff

/-- If no more is found than the result files of one directory that is searched, no other directory
that is searched holds any. -/
theorem filter_holdsResults_eq_singleton {directories : List String} {directory : String}
    (searched : directory ∈ directories) (holds : holdsResults t directory = true)
    (length : (directories.flatMap (resultsIn t)).length = (resultsIn t directory).length) :
    directories.filter (holdsResults t) = [directory] := by
  obtain ⟨before, after, rfl⟩ := List.append_of_mem searched
  rw [List.flatMap_append, List.flatMap_cons, List.length_append, List.length_append] at length
  have none : before.flatMap (resultsIn t) = [] ∧ after.flatMap (resultsIn t) = [] :=
    ⟨List.length_eq_zero_iff.1 (by omega), List.length_eq_zero_iff.1 (by omega)⟩
  rw [List.filter_append, List.filter_cons, if_pos holds,
    filter_holdsResults_eq_nil_iff.2 none.1, filter_holdsResults_eq_nil_iff.2 none.2,
    List.nil_append]

/-- A result file has a name without slashes and stands in a directory. -/
theorem facts_of_mem_resultNames (slashFree : ∀ e ∈ t.entries, ∀ name ∈ e.1, '/' ∉ name.toList)
    {directory name : String} (h : name ∈ resultNames t directory) :
    t.isDirectory directory = true ∧ name.toList ≠ [] ∧ '/' ∉ name.toList := by
  obtain ⟨listed, result⟩ := List.mem_filter.1 h
  obtain ⟨place, located, there, e, he⟩ := FileTree.mem_names_iff.1 listed
  refine ⟨FileTree.isDirectory_iff.2 ⟨place, located, there⟩, fun none => ?_,
    slashFree _ he name (List.mem_append_right _ List.mem_cons_self)⟩
  obtain ⟨ending, hending, ends⟩ := List.any_eq_true.1 result
  rw [none, List.isSuffixOf_iff_suffix] at ends
  exact (isLiteral_of_mem_ending hending).1 (List.suffix_nil.1 ends)

section Own

variable (own : t.isDirectory c.outputDir = true)

include own

/-- The own directory has the same result files by whatever path. -/
theorem resultNames_of_locate_eq {directory : String}
    (same : t.locate directory = t.locate c.outputDir) :
    resultNames t directory = resultNames t c.outputDir := by
  rw [resultNames, resultNames, FileTree.names_of_locate_eq same own]

/-- A path that a directory has is not empty. -/
theorem outputDir_ne_empty : c.outputDir ≠ "" := by
  obtain ⟨place, located, -⟩ := FileTree.isDirectory_iff.1 own
  exact (FileTree.isFollowable_of_locate located).nonempty

/-- If no other directory that is searched holds result files, what is found are those of the own
directory. -/
theorem findsOwn_of_only {paths directories : List String} (found : c.resultPaths t = .ok paths)
    (led : Glob.ledTo t c.outputDir = .ok directories)
    (only : (directories.filter (holdsResults t)).map t.locate =
      ([c.outputDir].filter (holdsResults t)).map t.locate) : c.FindsOwn t := by
  obtain ⟨sorted, _, led', perm⟩ := resultPaths_perm (outputDir_ne_empty own) found
  rw [led] at led'
  cases led'
  rw [← flatMap_resultsIn_filter] at perm
  rw [List.filter_cons, List.filter_nil] at only
  split at only
  · obtain ⟨directory, alone, same⟩ := List.map_eq_singleton_iff.1 only
    rw [alone, List.flatMap_singleton, resultsIn, resultNames_of_locate_eq own same] at perm
    exact ⟨paths, directory, found, same, sorted, perm⟩
  · next none =>
    rw [List.map_eq_nil_iff.1 only] at perm
    have empty : resultNames t c.outputDir = [] :=
      List.map_eq_nil_iff.1 (not_holdsResults_iff.1 none)
    refine ⟨paths, c.outputDir, found, rfl, sorted, ?_⟩
    rw [empty]
    exact perm

/-- If what is found are the result files of the own directory, no other directory that is searched
holds any. -/
theorem only_of_findsOwn (slashFree : ∀ e ∈ t.entries, ∀ name ∈ e.1, '/' ∉ name.toList)
    (h : c.FindsOwn t) :
    ∃ directories, Glob.ledTo t c.outputDir = .ok directories ∧
      (directories.filter (holdsResults t)).map t.locate =
        ([c.outputDir].filter (holdsResults t)).map t.locate := by
  obtain ⟨paths, spelled, found, same, -, perm⟩ := h
  obtain ⟨-, directories, led, perm'⟩ := resultPaths_perm (outputDir_ne_empty own) found
  refine ⟨directories, led, ?_⟩
  have results := perm'.symm.trans perm
  rw [List.filter_cons, List.filter_nil]
  split
  · next some =>
    obtain ⟨name, hname⟩ : ∃ name, name ∈ resultNames t c.outputDir :=
      List.exists_mem_of_ne_nil _ fun none => by simp [holdsResults, none] at some
    -- A result file of the own directory is found in one of the directories that are searched, and
    -- that directory is the own one.
    obtain ⟨directory, hdirectory, there⟩ := List.mem_flatMap.1
      (results.mem_iff.2 (List.mem_map_of_mem hname))
    obtain ⟨name', hname', path⟩ := List.mem_map.1 there
    obtain ⟨-, nonempty, clean⟩ := facts_of_mem_resultNames slashFree hname
    obtain ⟨directory', nonempty', clean'⟩ := facts_of_mem_resultNames slashFree hname'
    have spelled' := FileTree.isDirectory_of_locate_eq same own
    have reached : t.locate directory = t.locate c.outputDir :=
      (Glob.inside_inj directory' spelled' nonempty' nonempty clean' clean path).2.trans same
    have holds : holdsResults t directory = true := by
      rw [holdsResults, resultNames_of_locate_eq own reached]
      exact some
    have alone := filter_holdsResults_eq_singleton hdirectory holds <| by
      rw [results.length_eq, resultsIn, List.length_map, List.length_map,
        resultNames_of_locate_eq own reached]
    rw [alone, List.map_singleton, List.map_singleton, reached]
  · next none =>
    have empty : resultNames t c.outputDir = [] :=
      List.map_eq_nil_iff.1 (not_holdsResults_iff.1 none)
    rw [empty] at results
    rw [filter_holdsResults_eq_nil_iff.2 results.eq_nil]

/-- A path without special characters leads to the own directory and no other. -/
theorem findsOwn_of_isPlain (plain : Glob.IsPlain c.outputDir) : c.FindsOwn t := by
  obtain ⟨place, located, there⟩ := FileTree.isDirectory_iff.1 own
  obtain ⟨directory, led, same⟩ := Glob.ledTo_of_isPlain plain located there
  have reached : t.locate directory = t.locate c.outputDir := same.trans located.symm
  -- The search goes through because the star is the only special character of a pattern.
  have sound : ∀ ending ∈ resultEndings,
      (Glob.compile (Path.join c.outputDir ("*" ++ ending)).toList).isOk = true := by
    intro ending h
    obtain ⟨chars, slashFree⟩ := toList_star_append h
    obtain ⟨nonempty, literal⟩ := isLiteral_of_mem_ending h
    rw [Path.toList_join slashFree, chars, Glob.compile_append_star plain.isLiteral_opened
      (fun c hc => (literal c hc).1) nonempty]
    rfl
  have paths := resultPaths_of_ledTo (outputDir_ne_empty own) sound led
  refine findsOwn_of_only own paths led ?_
  have holds : holdsResults t directory = holdsResults t c.outputDir := by
    rw [holdsResults, holdsResults, resultNames_of_locate_eq own reached]
  rw [List.filter_cons, List.filter_cons, holds]
  split
  · exact congrArg (fun place => [place]) reached
  · rfl

end Own

/-- What is found are the result files in all directories that the path of the checker's directory
leads to as a pattern. They are those of the own directory, and nothing else is found, exactly if
the search goes through and the directories with result files to which the path leads are the own
one alone, if it has any. That is so for every path without special characters and doubled
slashes. -/
theorem findsOwn_iff (c : Checker) (t : FileTree) (own : t.isDirectory c.outputDir = true)
    (slashFree : ∀ e ∈ t.entries, ∀ name ∈ e.1, '/' ∉ name.toList) :
    (∀ paths, c.resultPaths t = .ok paths →
      paths.Pairwise (fun p q => Path.comesBefore p q = true) ∧
        ∃ directories, Glob.ledTo t c.outputDir = .ok directories ∧
          paths.Perm (directories.flatMap (resultsIn t))) ∧
    (c.FindsOwn t ↔ (∃ paths, c.resultPaths t = .ok paths) ∧
      ∃ directories, Glob.ledTo t c.outputDir = .ok directories ∧
        (directories.filter (holdsResults t)).map t.locate =
          ([c.outputDir].filter (holdsResults t)).map t.locate) ∧
    (Glob.IsPlain c.outputDir → c.FindsOwn t) := by
  refine ⟨fun paths found => resultPaths_perm (outputDir_ne_empty own) found, ?_,
    findsOwn_of_isPlain own⟩
  constructor
  · intro finds
    refine ⟨?_, only_of_findsOwn own slashFree finds⟩
    obtain ⟨paths, -, found, -⟩ := finds
    exact ⟨paths, found⟩
  · rintro ⟨⟨paths, found⟩, directories, led, only⟩
    exact findsOwn_of_only own found led only

end

end Checker

namespace Sample

/-- Programs that fail and leave three result files and a log. The first result file has a remark,
the second one cannot be read, and in the third there are two runs, the first of which has a remark
and an error. -/
def reporting : Launcher := fun _ _ _ t =>
  .finished 1 ([("log.txt", ""),
    ("c.sarif", r#"[[[[["a","note",null],["b","Error",null]]],[[["c",null,null]]]]]"#),
    ("b.sarif", "nope"),
    ("a.json", r#"[[[[["d","note",null]]]]]"#)].foldl
      (fun t file => t.put ["check", file.1] (.file file.2.toUTF8)) t)

/-- The files after a program has left these in the directory of a checker. -/
def reported : FileTree :=
  match reporting "" [] 0 (FileTree.empty.put ["check"] .directory) with
  | .finished _ t => t
  | _ => .empty

end Sample

namespace Checker

/-- The names in the directory of the checker. -/
theorem names_reported :
    Sample.reported.names "/check" = ["a.json", "b.sarif", "c.sarif", "log.txt"] := by
  have located : Sample.reported.locate "/check" = .ok ["check"] := by decide +kernel
  have there := FileTree.find_eq_directory (FileTree.isDirectory_iff.2 ⟨["check"], located, rfl⟩)
  have names : Sample.reported.namesAt ["check"] =
      ["a.json", "b.sarif", "c.sarif", "log.txt"] := by decide +kernel
  rw [FileTree.names_eq located there, names]
  exact List.mergeSort_of_pairwise (by decide +kernel)

/-- The result files are found in the order of their paths, whatever their endings. -/
theorem resultPaths_reported :
    Sample.checker.resultPaths Sample.reported =
      .ok ["/check/a.json", "/check/b.sarif", "/check/c.sarif"] := by
  have led : Glob.ledTo Sample.reported Sample.checker.outputDir = .ok ["/check"] := by
    decide +kernel
  have sound : ∀ ending ∈ resultEndings, (Glob.compile
      (Path.join Sample.checker.outputDir ("*" ++ ending)).toList).isOk = true := by
    decide +kernel
  have found : (resultEndings.flatMap fun ending => ["/check"].flatMap
      (Glob.entriesLike Sample.reported (.sequence :: ending.toList.map .literal))) =
        ["/check/b.sarif", "/check/c.sarif", "/check/a.json"] := by
    simp only [List.flatMap_singleton, Glob.entriesLike, names_reported]
    decide +kernel
  -- The patterns are gone through one after the other, so the last one found comes first.
  have apart : ∀ p ∈ ["/check/b.sarif", "/check/c.sarif", "/check/a.json"],
      ∀ q ∈ ["/check/a.json", "/check/b.sarif", "/check/c.sarif"],
        Path.comesBefore p q = true → Path.comesBefore q p = true → p = q := by
    decide +kernel
  rw [resultPaths_of_ledTo (by decide) sound led, found]
  refine congrArg Except.ok (List.Perm.eq_of_pairwise
    (fun p q hp hq => apart p (List.mem_mergeSort.1 hp) q hq)
    (Path.pairwise_mergeSort_comesBefore _) (by decide +kernel)
    ((List.mergeSort_perm _ _).trans (by decide)))

/-- The result files that a checker has left in its own directory are found, and its log is not. -/
theorem findsOwn_reported :
    Sample.reported.isDirectory Sample.checker.outputDir = true ∧
      (∀ e ∈ Sample.reported.entries, ∀ name ∈ e.1, '/' ∉ name.toList) ∧
      resultNames Sample.reported Sample.checker.outputDir = ["a.json", "b.sarif", "c.sarif"] ∧
      Glob.IsPlain Sample.checker.outputDir ∧ Sample.checker.FindsOwn Sample.reported := by
  have own : Sample.reported.isDirectory Sample.checker.outputDir = true := by decide +kernel
  have slashFree : ∀ e ∈ Sample.reported.entries, ∀ name ∈ e.1, '/' ∉ name.toList := by
    decide +kernel
  have names : resultNames Sample.reported Sample.checker.outputDir =
      ["a.json", "b.sarif", "c.sarif"] := by
    rw [resultNames, show Sample.checker.outputDir = "/check" from rfl, names_reported]
    decide +kernel
  have plain : Glob.IsPlain Sample.checker.outputDir := by
    refine ⟨fun c hc => ?_, by decide +kernel⟩
    have all : (Sample.checker.outputDir.toList.all
        fun c => c != '*' && c != '?' && c != '[') = true := by decide +kernel
    have own := List.all_eq_true.1 all c hc
    simp only [Bool.and_eq_true, bne_iff_ne] at own
    exact ⟨own.1.1, own.1.2, own.2⟩
  exact ⟨own, slashFree, names, plain,
    (findsOwn_iff Sample.checker Sample.reported own slashFree).2.2 plain⟩

end Checker

namespace Sample

/-- A checker whose directory has brackets in its path. -/
def bracketing : Checker :=
  { checker with outputDir := "/out[1]" }

/-- The checker's directory and another one, with a result file in each. -/
def bracketed : FileTree :=
  [(["out[1]"], Entry.directory), (["out[1]", "a.sarif"], .file "{}".toUTF8),
    (["out1"], .directory), (["out1", "b.sarif"], .file "{}".toUTF8)].foldl
    (fun t e => t.put e.1 e.2) .empty

end Sample

namespace Checker

/-- A checker has left one result file. Another file is found in its place, because the path of the
directory stands for another one as a pattern. -/
theorem not_findsOwn_bracketed :
    Sample.bracketed.isDirectory Sample.bracketing.outputDir = true ∧
      resultNames Sample.bracketed Sample.bracketing.outputDir = ["a.sarif"] ∧
      Sample.bracketing.resultPaths Sample.bracketed = .ok ["/out1/b.sarif"] ∧
      ¬ Sample.bracketing.FindsOwn Sample.bracketed := by
  have names : resultNames Sample.bracketed Sample.bracketing.outputDir = ["a.sarif"] := by
    decide +kernel
  -- The brackets stand for one character out of those in them, so the path leads to `/out1`.
  have led : Glob.ledTo Sample.bracketed Sample.bracketing.outputDir = .ok ["/out1"] := by
    have root : Sample.bracketed.names "/" = ["out1", "out[1]"] := by
      have located : Sample.bracketed.locate "/" = .ok [] := by decide +kernel
      have there := FileTree.find_eq_directory (FileTree.isDirectory_iff.2 ⟨[], located, rfl⟩)
      have names : Sample.bracketed.namesAt [] = ["out1", "out[1]"] := by decide +kernel
      rw [FileTree.names_eq located there, names]
      exact List.mergeSort_of_pairwise (by decide +kernel)
    have compiled : (Glob.searchPieces Sample.bracketing.outputDir).mapM Glob.compile =
        .ok [[.literal 'o', .literal 'u', .literal 't', .within [('1', '1')]]] := by
      decide +kernel
    rw [Glob.ledTo, compiled]
    show Except.ok ((Glob.step Sample.bracketed _ "/").flatMap fun directory => [directory]) = _
    rw [Glob.step_eq_entriesLike rfl rfl, Glob.entriesLike, root]
    decide +kernel
  have sound : ∀ ending ∈ resultEndings, (Glob.compile
      (Path.join Sample.bracketing.outputDir ("*" ++ ending)).toList).isOk = true := by
    decide +kernel
  have others : Sample.bracketing.resultPaths Sample.bracketed = .ok ["/out1/b.sarif"] := by
    rw [resultPaths_of_ledTo (by decide) sound led]
    decide +kernel
  refine ⟨by decide +kernel, names, others, ?_⟩
  rintro ⟨paths, directory, found, -, -, perm⟩
  rw [others] at found
  cases found
  rw [names, List.map_singleton, List.perm_singleton] at perm
  -- Whatever the directory, the path of its result file ends in another name.
  have last := congrArg Path.directoryPieces (List.cons.inj perm).1
  rw [Glob.directoryPieces_inside (by decide) (by decide)] at last
  have name := congrArg List.getLast? last
  rw [List.getLast?_concat] at name
  exact absurd name (by decide +kernel)

end Checker

end SpecBundle
