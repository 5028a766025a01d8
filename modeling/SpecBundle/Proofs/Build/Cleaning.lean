import SpecBundle.Build.Staging
import SpecBundle.Proofs.FileTree.Removal

/-!
# Directories beside an archive

The directories for staged documents and for the results of a checker are removed with all that is
in them. They lie in what the archive lies in, and where the name of the archive has its extension,
or nothing, theirs have marks (`IsMark.fileName?_ne`). So neither is the archive or has the archive
in it (`archive_outlives_cleaning`), whatever the archive's path looks like: it may end in a name
with or without dots, in `.` or `..`, be a name alone, the root or nothing.
-/

namespace SpecBundle.Path

/-- What an archive is named for, with a suffix. -/
def markedName (archive suffix : String) : String :=
  (stem? archive).getD "solution" ++ suffix

/-- A suffix that tells a name from all that have the same stem: it is within one piece and does not
start as an extension does. -/
structure IsMark (suffix : String) : Prop where
  /-- It has one piece. -/
  slashFree : '/' ∉ suffix.toList
  /-- It starts with something else than a dot. -/
  exists_start : ∃ c, suffix.toList.head? = some c ∧ c ≠ '.'

/-- What an archive is named for has no slash. -/
theorem slashFree_stem (archive : String) : '/' ∉ ((stem? archive).getD "solution").toList := by
  cases named : fileName? archive with
  | none =>
    rw [stem?, named]
    decide
  | some name =>
    rw [stem?, named, Option.map_some, Option.getD_some, String.toList_ofList]
    intro slash
    apply slashFree_of_fileName? named
    rw [← splitName_append name]
    exact List.mem_append_left _ slash

section

variable {suffix : String} (h : IsMark suffix)

include h

/-- A stem with a mark behind it is a name. -/
theorem IsMark.isName (archive : String) : IsName (markedName archive suffix) := by
  obtain ⟨c, starts, other⟩ := h.exists_start
  have mem : c ∈ (markedName archive suffix).toList := by
    rw [markedName, String.toList_append]
    exact List.mem_append_right _ (List.mem_of_head? starts)
  refine ⟨fun none => ?_, fun current => ?_, fun up => ?_, fun slash => ?_⟩
  · rw [none] at mem
    cases mem
  · rw [current] at mem
    exact other (List.mem_singleton.1 mem)
  · rw [up] at mem
    rcases List.mem_cons.1 mem with dot | dot
    · exact other dot
    · exact other (List.mem_singleton.1 dot)
  · rw [markedName, String.toList_append] at slash
    exact (List.mem_append.1 slash).elim (slashFree_stem archive) h.slashFree

/-- An archive does not have the name of a directory beside it: what it has behind its stem is
nothing or starts with a dot. -/
theorem IsMark.fileName?_ne (archive : String) :
    fileName? archive ≠ some (markedName archive suffix) := by
  intro own
  obtain ⟨c, starts, other⟩ := h.exists_start
  generalize named : markedName archive suffix = name at own
  rw [markedName, stem?, own] at named
  -- If the name were the stem with the mark, the mark would be what the name has behind its stem.
  have behind : suffix.toList = (splitName name).2.elim [] ('.' :: ·) := by
    have same := (congrArg String.toList named).trans (splitName_append name).symm
    rw [String.toList_append, Option.map_some, Option.getD_some, String.toList_ofList] at same
    exact List.append_cancel_left same
  rw [behind] at starts
  cases extension : (splitName name).2 with
  | none =>
    rw [extension] at starts
    cases starts
  | some behindDot =>
    rw [extension] at starts
    exact other (Option.some.inj starts).symm

/-- The components of a directory beside an archive are those of what the archive lies in and a name
of its own. -/
theorem components_beside (archive : String) :
    components (beside archive suffix) =
      components ((parent? archive).getD ".") ++ [.name (markedName archive suffix).toList] :=
  components_join (h.isName archive) _

/-- What an archive lies in leads to a directory beside it by one name, and to the archive by
something else, or the archive lies in nothing. -/
theorem exists_components_beside (archive : String) :
    (∃ above last, components archive = above ++ [last] ∧ components (beside archive suffix) =
        above ++ [.name (markedName archive suffix).toList] ∧
        last ≠ .name (markedName archive suffix).toList) ∨
      (components archive = [] ∨ components archive = [.root]) ∧
        components (beside archive suffix) =
          [.current, .name (markedName archive suffix).toList] := by
  rw [components_beside h]
  cases parent : parent? archive with
  | none => exact .inr ⟨components_of_parent?_eq_none parent, rfl⟩
  | some directory =>
    obtain ⟨last, own, named⟩ := exists_components_eq_concat parent
    refine .inl ⟨components directory, last, own, rfl, fun same => ?_⟩
    exact h.fileName?_ne archive ((named _).1 same)

/-- A directory beside an archive is neither the archive nor something that the archive lies in. -/
theorem not_components_beside_prefix (archive : String) :
    ¬ components (beside archive suffix) <+: components archive := by
  intro starts
  obtain ⟨above, last, own, beside, other⟩ | ⟨own, beside⟩ := exists_components_beside h archive
  · rw [own, beside] at starts
    have same := starts.eq_of_length (by simp)
    exact other (List.append_singleton_inj.1 same).2.symm
  · rw [beside] at starts
    rcases own with own | own <;> rw [own] at starts
    · exact absurd starts.length_le (by simp)
    · exact absurd starts.length_le (by simp)

end

/-- Directories beside an archive are told apart by their suffixes. -/
theorem components_beside_inj {archive suffix other : String} (h : IsMark suffix)
    (h' : IsMark other) :
    components (beside archive suffix) = components (beside archive other) ↔ suffix = other := by
  refine ⟨fun same => ?_, fun same => same ▸ rfl⟩
  rw [components_beside h, components_beside h'] at same
  have names := Component.name.inj (List.append_singleton_inj.1 same).2
  rw [markedName, markedName, String.toList_append, String.toList_append] at names
  exact String.toList_inj.1 (List.append_cancel_left names)

end SpecBundle.Path

namespace SpecBundle.FileTree

open SpecBundle.Path

/-- A directory beside an archive is at no place that the archive is at or lies in. -/
theorem not_placeOf_beside_prefix {suffix : String} (h : IsMark suffix) (archive : String)
    (origin : Place) : ¬ placeOf origin (beside archive suffix) <+: placeOf origin archive := by
  obtain ⟨above, last, own, beside, other⟩ | ⟨own, beside⟩ := exists_components_beside h archive
  · rw [placeOf, placeOf, own, beside, List.foldl_concat, List.foldl_concat]
    exact not_prefix_follow other _
  · -- The archive is where relative paths start or the root, and the directory is named from the
    -- former.
    rcases own with own | own <;> rw [placeOf, placeOf, own, beside]
    · have other : Component.current ≠ .name (markedName archive suffix).toList :=
        Component.noConfusion
      exact not_prefix_follow other origin
    · have other : Component.root ≠ .name (markedName archive suffix).toList :=
        Component.noConfusion
      exact not_prefix_follow other origin

end SpecBundle.FileTree

namespace SpecBundle

/-- The directory for staged documents has a mark. -/
theorem isMark_staging : Path.IsMark "_staging" :=
  ⟨by decide, '_', by decide, by decide⟩

/-- The directory for the results of a checker has a mark. -/
theorem isMark_check : Path.IsMark "_check" :=
  ⟨by decide, '_', by decide, by decide⟩

/-- Cleaning spares the archive. The directories for staged documents and for the results of a
checker are two, and neither is the archive or has it in it, by components. Whatever stands where
the archive's path leads to stays as it is when one of them is cleared away or removed, also when
other things have changed since the path was followed. -/
theorem archive_outlives_cleaning (archive : String) :
    Path.components (stagingDir archive) ≠ Path.components (checkDir archive) ∧
      ∀ directory ∈ [stagingDir archive, checkDir archive],
        ¬ Path.components directory <+: Path.components archive ∧
        ∀ (t t' : FileTree) (place : Place), t.locate archive = .ok place → t'.origin = t.origin →
          ((FileAction.clear directory).run t').2.get? place = t'.get? place ∧
          ((FileAction.removeDirectory directory).run t').2.get? place = t'.get? place := by
  refine ⟨fun same => absurd ((Path.components_beside_inj isMark_staging isMark_check).1 same)
    (by decide), fun directory own => ?_⟩
  have beside : ∃ suffix, Path.IsMark suffix ∧ directory = Path.beside archive suffix := by
    rcases List.mem_cons.1 own with rfl | own
    · exact ⟨_, isMark_staging, rfl⟩
    · exact ⟨_, isMark_check, List.mem_singleton.1 own⟩
  obtain ⟨suffix, mark, rfl⟩ := beside
  refine ⟨Path.not_components_beside_prefix mark archive, fun t t' place located origin => ?_⟩
  have apart : ¬ FileTree.placeOf t'.origin (Path.beside archive suffix) <+: place := by
    rw [origin, FileTree.eq_placeOf located]
    exact FileTree.not_placeOf_beside_prefix mark archive t.origin
  exact ⟨FileAction.get?_clear apart, FileAction.get?_removeDirectory apart⟩

/-- An archive beside a directory that looks like its stage. -/
def staged : FileTree where
  entries := [(["out"], .directory), (["out", "demo.zip"], .file ByteArray.empty),
    (["out", "demo_staging"], .directory),
    (["out", "demo_staging", "solution.xml"], .file ByteArray.empty)]
  origin := []
  distinct := by decide

/-- The path of an archive may go through the directory that is removed: the archive stays, though
that path does not lead to it any more. -/
theorem archive_outlives_cleaning_through_stage :
    staged.locate "out/demo_staging/../demo.zip" = .ok ["out", "demo.zip"] ∧
      ((FileAction.clear (stagingDir "out/demo_staging/../demo.zip")).run staged).2.get?
        ["out", "demo_staging"] = none ∧
      ((FileAction.clear (stagingDir "out/demo_staging/../demo.zip")).run staged).2.get?
        ["out", "demo.zip"] = some (.file ByteArray.empty) :=
  ⟨rfl, rfl, (((archive_outlives_cleaning "out/demo_staging/../demo.zip").2 _
    List.mem_cons_self).2 staged staged _ rfl rfl).1⟩

end SpecBundle
