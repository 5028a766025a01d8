import SpecBundle.Build.Basic

/-!
# What a verification rests on

A package is fit for import if its report says that the checker passed it, and a report should say
so only on evidence: the checker ran, and at least one of the files that it left could be read. A
directory without result files is no evidence, and the report is then that there is no result. Files
that cannot be read are none either, but each of them only becomes a warning: where no file can be
read, the list of findings is as empty as that of a package in which nothing was found
(`Checker.report_of_unreadable`). A pass is thus evidence exactly where this is not the case
(`Checker.ready_on_evidence_iff`).
-/

namespace SpecBundle

/-! ## Result files -/

namespace ResultFile

/-- Whether the findings in a file could be read. -/
def isReadable (f : ResultFile) : Bool :=
  f.findings.isOk

/-- A file that cannot be read contributes nothing. -/
theorem contribution_of_unreadable {f : ResultFile} (h : f.isReadable = false) :
    f.contribution = [] := by
  unfold isReadable at h
  unfold contribution
  cases hf : f.findings with
  | error fault => rfl
  | ok findings =>
    rw [hf] at h
    cases h

/-- There is a warning about a file exactly if it cannot be read. -/
theorem isSome_note? (f : ResultFile) : f.note?.isSome = !f.isReadable := by
  unfold note? isReadable
  cases f.findings <;> rfl

end ResultFile

namespace Checker

/-- Files that cannot be read give no finding, and one warning each. -/
theorem collect_of_unreadable {files : List ResultFile}
    (h : ∀ f ∈ files, f.isReadable = false) :
    (collect files).1 = [] ∧ (collect files).2.length = files.length := by
  have findings : files.flatMap (·.contribution) = [] :=
    List.flatMap_eq_nil_iff.2 fun f hf => ResultFile.contribution_of_unreadable (h f hf)
  have noted : ∀ f ∈ files, f.note?.isSome = true := fun f hf => by
    rw [ResultFile.isSome_note?, h f hf, Bool.not_false]
  exact ⟨findings, List.filterMap_length_eq_length.2 noted⟩

/-! ## The course of a verification -/

section Course

variable (c : Checker) (launch : Launcher) (archive : String) (t : FileTree)

/-- A checker that is run on an archive leaves these result files: its directory could be made, it
was started, it ended in time, and these are the files that were there then. -/
def Leaves (files : List ResultFile) : Prop :=
  ∃ prepared status left, c.prepare.run t = (.ok (), prepared) ∧
    c.run launch archive prepared = .finished status left ∧ c.resultFiles left = .ok files

/-- A checker gives evidence when it leaves a result file that can be read. -/
def GivesEvidence : Prop :=
  ∃ files, c.Leaves launch archive t files ∧ ∃ f ∈ files, f.isReadable = true

/-- A checker leaves result files and none of them can be read. -/
def LeavesUnreadable : Prop :=
  ∃ files, c.Leaves launch archive t files ∧ ∀ f ∈ files, f.isReadable = false

variable {c launch archive t}

/-- A checker leaves one list of result files at most. -/
theorem Leaves.unique {files others : List ResultFile} (h : c.Leaves launch archive t files)
    (h' : c.Leaves launch archive t others) : files = others := by
  obtain ⟨prepared, status, left, hp, hr, hf⟩ := h
  obtain ⟨prepared', status', left', hp', hr', hf'⟩ := h'
  rw [hp] at hp'
  cases hp'
  rw [hr] at hr'
  cases hr'
  rw [hf] at hf'
  exact Except.ok.inj hf'

/-- A directory without result files is an error. -/
theorem Leaves.ne_nil {files : List ResultFile} (h : c.Leaves launch archive t files) :
    files ≠ [] := by
  obtain ⟨prepared, status, left, -, -, hf⟩ := h
  rintro rfl
  unfold resultFiles at hf
  split at hf
  · cases hf
  · cases hf
  · next paths hne found =>
    cases List.map_eq_nil_iff.1 (Except.ok.inj hf)
    exact hne rfl

/-- Either one of the files that a checker leaves can be read or none can. -/
theorem Leaves.evidence_or_unreadable {files : List ResultFile}
    (h : c.Leaves launch archive t files) :
    c.GivesEvidence launch archive t ∨ c.LeavesUnreadable launch archive t := by
  by_cases readable : ∃ f ∈ files, f.isReadable = true
  · exact .inl ⟨files, h, readable⟩
  · exact .inr ⟨files, h, fun f hf => Bool.eq_false_iff.2 fun hr => readable ⟨f, hf, hr⟩⟩

/-- Files none of which can be read are no evidence. -/
theorem LeavesUnreadable.not_givesEvidence (h : c.LeavesUnreadable launch archive t) :
    ¬ c.GivesEvidence launch archive t := by
  obtain ⟨files, left, unreadable⟩ := h
  rintro ⟨others, left', f, hf, readable⟩
  rw [left'.unique left] at hf
  rw [unreadable f hf] at readable
  cases readable

/-- A verification takes the findings and warnings of the result files that were left. -/
theorem verify_of_leaves {files : List ResultFile} (h : c.Leaves launch archive t files) :
    (c.verify launch archive t).result = .ok (collect files).1 ∧
      (c.verify launch archive t).notes = (collect files).2 := by
  obtain ⟨prepared, status, left, hp, hr, hf⟩ := h
  unfold verify
  rw [hp]
  simp only [hr, hf, and_self]

/-- A verification that has findings has result files. -/
theorem exists_leaves_of_ok {findings : List Finding}
    (h : (c.verify launch archive t).result = .ok findings) :
    ∃ files, c.Leaves launch archive t files := by
  unfold verify at h
  rcases hp : c.prepare.run t with ⟨_ | _, prepared⟩
  · rw [hp] at h
    cases h
  · rw [hp] at h
    cases hr : c.run launch archive prepared with
    | notStarted cause => simp only [hr, reduceCtorEq] at h
    | timedOut => simp only [hr, reduceCtorEq] at h
    | finished status left =>
      cases hf : c.resultFiles left with
      | error error => simp only [hr, hf, reduceCtorEq] at h
      | ok files => exact ⟨files, prepared, status, left, hp, hr, hf⟩

end Course

/-! ## Reports -/

section Reports

variable {c : Checker} {launch : Launcher} {archive : String} {t : FileTree}

/-- The report on result files has their findings. -/
theorem report_of_leaves {files : List ResultFile} (h : c.Leaves launch archive t files) :
    (c.verify launch archive t).report = .ofResult (.ok (collect files).1) := by
  rw [Verification.report, Verification.outcome, (verify_of_leaves h).1]
  rfl

/-- The report is that there is no result exactly if no result files were left. -/
theorem unavailable_iff :
    (∃ reason, (c.verify launch archive t).report.status = .unavailable reason) ↔
      ¬ ∃ files, c.Leaves launch archive t files := by
  constructor
  · rintro ⟨reason, h⟩ ⟨files, left⟩
    rw [report_of_leaves left, VerificationReport.ofResult] at h
    split at h <;> cases h
  · intro none
    cases hr : (c.verify launch archive t).result with
    | ok findings => exact absurd (exists_leaves_of_ok hr) none
    | error error =>
      refine ⟨error.message, ?_⟩
      rw [Verification.report, Verification.outcome, hr]
      rfl

/-- The checker passes a package exactly if it left result files and nothing of high severity stands
in those that can be read. -/
theorem passed_iff :
    (c.verify launch archive t).report.status = .passed ↔
      ∃ files, c.Leaves launch archive t files ∧
        ∀ f ∈ files, ∀ finding ∈ f.contribution, finding.severity.isHigh = false := by
  constructor
  · intro h
    have some : ∃ files, c.Leaves launch archive t files := by
      refine Classical.byContradiction fun none => ?_
      obtain ⟨reason, unavailable⟩ := unavailable_iff.2 none
      rw [h] at unavailable
      cases unavailable
    obtain ⟨files, left⟩ := some
    refine ⟨files, left, fun f hf finding hfinding => ?_⟩
    rw [report_of_leaves left, VerificationReport.ofResult] at h
    split at h
    · cases h
    · next low =>
      rw [List.any_eq_true, not_exists] at low
      exact Bool.eq_false_iff.2 fun high =>
        low finding ⟨List.mem_flatMap.2 ⟨f, hf, hfinding⟩, high⟩
  · rintro ⟨files, left, low⟩
    rw [report_of_leaves left, VerificationReport.ofResult, if_neg]
    rw [List.any_eq_true]
    rintro ⟨finding, hfinding, high⟩
    obtain ⟨f, hf, hc⟩ := List.mem_flatMap.1 hfinding
    rw [low f hf finding hc] at high
    cases high

/-- Where none of the result files can be read, the checker passes the package all the same, and
there is one warning for each of the files. -/
theorem report_of_unreadable {files : List ResultFile} (h : c.Leaves launch archive t files)
    (unreadable : ∀ f ∈ files, f.isReadable = false) :
    (c.verify launch archive t).report = ⟨[], .passed⟩ ∧
      (c.verify launch archive t).notes.length = files.length := by
  obtain ⟨none, noted⟩ := collect_of_unreadable unreadable
  constructor
  · rw [report_of_leaves h, none]
    rfl
  · rw [(verify_of_leaves h).2, noted]

/-- A package none of whose result files can be read is passed, and there are warnings. -/
theorem LeavesUnreadable.passed (h : c.LeavesUnreadable launch archive t) :
    (c.verify launch archive t).report.status = .passed ∧
      (c.verify launch archive t).notes ≠ [] := by
  obtain ⟨files, left, unreadable⟩ := h
  obtain ⟨report, noted⟩ := report_of_unreadable left unreadable
  refine ⟨congrArg _ report, fun none => left.ne_nil ?_⟩
  rw [none, List.length_nil] at noted
  exact List.length_eq_zero_iff.1 noted.symm

end Reports

/-- A package that is ready for import has been passed on evidence, and where there is none the
report is that there is no result: both hold of a run exactly if it is not one in which the checker
leaves result files and none of them can be read. In such a run the package is ready for import, and
there are warnings about the files. -/
theorem ready_on_evidence_iff (c : Checker) (launch : Launcher) (archive : String) (t : FileTree)
    (documents : List (String × String)) :
    let verification := c.verify launch archive t
    let outcome : BuildOutcome := ⟨archive, documents, some verification.report⟩
    ((outcome.isReadyForImport = true → c.GivesEvidence launch archive t) ↔
        ¬ c.LeavesUnreadable launch archive t) ∧
      ((¬ c.GivesEvidence launch archive t →
          ∃ reason, verification.report.status = .unavailable reason) ↔
        ¬ c.LeavesUnreadable launch archive t) ∧
      (c.LeavesUnreadable launch archive t →
        outcome.isReadyForImport = true ∧ verification.notes ≠ []) := by
  intro verification outcome
  have ready : outcome.isReadyForImport = true ↔ verification.report.status = .passed :=
    beq_iff_eq
  refine ⟨⟨fun h unreadable => ?_, fun h isReady => ?_⟩,
    ⟨fun h unreadable => ?_, fun h none => ?_⟩, fun unreadable => ?_⟩
  · exact unreadable.not_givesEvidence (h (ready.2 unreadable.passed.1))
  · obtain ⟨files, left, -⟩ := passed_iff.1 (ready.1 isReady)
    exact left.evidence_or_unreadable.resolve_right h
  · obtain ⟨reason, unavailable⟩ := h unreadable.not_givesEvidence
    rw [unreadable.passed.1] at unavailable
    cases unavailable
  · refine unavailable_iff.2 ?_
    rintro ⟨files, left⟩
    exact left.evidence_or_unreadable.elim none h
  · exact ⟨ready.2 unreadable.passed.1, unreadable.passed.2⟩

end Checker

namespace Sample

/-- A checker. -/
def checker : Checker :=
  ⟨"pac", "USGovernment", "/check", Checker.defaultTimeout⟩

/-- A checker's only result file, in which there is no result. -/
def garbled (t : FileTree) : FileTree :=
  t.put ["check", "a.sarif"] (.file "nope".toUTF8)

/-- Programs that end well and leave a file without a result. -/
def garbling : Launcher :=
  fun _ _ _ t => .finished 0 (garbled t)

end Sample

namespace Checker

/-- A checker ends well and leaves one file, which is no result. The package is ready for import
although nothing could be read. -/
theorem ready_without_evidence_garbling :
    Sample.checker.LeavesUnreadable Sample.garbling "/demo.zip" .empty ∧
      ¬ Sample.checker.GivesEvidence Sample.garbling "/demo.zip" .empty ∧
      (Sample.checker.verify Sample.garbling "/demo.zip" .empty).report.status = .passed ∧
      (⟨"/demo.zip", [], some
        (Sample.checker.verify Sample.garbling "/demo.zip" .empty).report⟩ :
          BuildOutcome).isReadyForImport = true := by
  -- What stands in the tree when the checker has ended.
  let left := Sample.garbled (FileTree.empty.put ["check"] .directory)
  have paths : Sample.checker.resultPaths left = .ok ["/check/a.sarif"] := by
    have found : (Sample.checker.resultPaths left).toOption = some ["/check/a.sarif"] := by
      decide +kernel
    cases h : Sample.checker.resultPaths left with
    | error e =>
      rw [h] at found
      cases found
    | ok paths =>
      rw [h] at found
      exact congrArg _ (Option.some.inj found)
  have files : Sample.checker.Leaves Sample.garbling "/demo.zip" .empty
      [ResultFile.read left "/check/a.sarif"] :=
    ⟨_, 0, left, rfl, rfl, by rw [resultFiles, paths]; rfl⟩
  have unreadable : ∀ f ∈ [ResultFile.read left "/check/a.sarif"], f.isReadable = false := by
    decide +kernel
  have all : Sample.checker.LeavesUnreadable Sample.garbling "/demo.zip" .empty :=
    ⟨_, files, unreadable⟩
  have report := (report_of_unreadable files unreadable).1
  exact ⟨all, all.not_givesEvidence, by rw [report], by rw [report]; rfl⟩

end Checker

end SpecBundle
