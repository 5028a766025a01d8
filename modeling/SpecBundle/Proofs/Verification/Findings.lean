import SpecBundle.Proofs.Json.Related
import SpecBundle.Proofs.Lists
import SpecBundle.Proofs.Verification.ResultPaths

/-!
# The findings in result files

A result file is read straight into findings: runs are not kept apart, and of a level only the
severity is kept. `Sarif.runs` keeps what is written, and `Sarif.findings_eq_map_runs` says that the
findings are what is written, run by run and result by result. So nothing that a checker reports is
lost: all files that can be read contribute what is written in them, in the order of their paths,
and each of the others leaves one warning (`Checker.findings_and_warnings_of_files`).
-/

namespace SpecBundle

/-! ## Levels -/

/-- A level is of high severity exactly if it is `error` or `warning` in any case of letters. -/
theorem FindingSeverity.isHigh_ofLevel_iff (level : Option String) :
    (ofLevel level).isHigh = true ↔ ∃ word, level = some word ∧
      (Text.equalsIgnoringCase "error" word = true ∨
        Text.equalsIgnoringCase "warning" word = true) := by
  cases level with
  | none => exact iff_of_false Bool.false_ne_true fun h => nomatch h.choose_spec.1
  | some l =>
    have severity : (ofLevel (some l)).isHigh =
        (Text.equalsIgnoringCase "error" l || Text.equalsIgnoringCase "warning" l) := by
      have words : ofLevel (some l) =
          (all.find? fun s => Text.equalsIgnoringCase s.word l).getD .none := rfl
      rw [words]
      simp only [all, List.find?_cons, word, List.find?_nil]
      cases Text.equalsIgnoringCase "error" l <;> cases Text.equalsIgnoringCase "warning" l <;>
        cases Text.equalsIgnoringCase "note" l <;> cases Text.equalsIgnoringCase "none" l <;> rfl
    rw [severity, Bool.or_eq_true]
    exact ⟨fun h => ⟨l, rfl, h⟩, fun ⟨_, same, h⟩ => Option.some.inj same ▸ h⟩

/-! ## What is written in a result file -/

namespace Json.Reader.Related

variable {α β : Type}

/-- Arrays are read into values that are functions of each other if their items are. -/
theorem list_map {f : α → β} {r : Reader α} {s : Reader β}
    (h : Related (fun a b => f a = b) r s) :
    Related (fun as bs => as.map f = bs) (Reader.list r) (Reader.list s) := by
  intro c
  have both := h.list c
  generalize Reader.list r c = x at both ⊢
  generalize Reader.list s c = y at both ⊢
  cases both with
  | ok d related => exact .ok d (List.forall₂_eq_eq_eq ▸ List.forall₂_map_left_iff.2 related)
  | error fault => exact .error fault

end Json.Reader.Related

namespace Sarif

open Json (Fault Field Reader)
open Json.Reader (list record string)

/-- A result as it is written. -/
structure Result where
  /-- The rule that is broken. -/
  ruleId : Option String
  /-- The level. -/
  level : Option String
  /-- The text of the message. -/
  message : Option String
  /-- The artifact of the first location. -/
  location : Option String
  deriving DecidableEq, Repr

/-- The finding that a result reports. -/
def Result.finding (r : Result) : Finding where
  severity := .ofLevel r.level
  ruleId := r.ruleId.getD ""
  message := r.message.getD ""
  location := r.location

/-- Reads a result and keeps it as it is written. -/
def writtenResult : Reader Result :=
  record "SarifResult" [
    .optional "ruleId" string fun ruleId r => { r with ruleId := ruleId },
    .optional "level" string fun level r => { r with level := level },
    .optional "message" Sarif.message fun text r => { r with message := text.join },
    .defaulted "locations" (list Sarif.location) fun places r =>
      { r with location := places.head?.join }] ⟨none, none, none, none⟩

/-- Reads the results of a run and keeps them as they are written. -/
def writtenRun : Reader (List Result) :=
  record "SarifRun" [.defaulted "results" (list writtenResult) fun results _ => results] []

/-- Reads runs and keeps them apart. -/
def writtenLog : Reader (List (List Result)) :=
  record "SarifLog" [.defaulted "runs" (list writtenRun) fun runs _ => runs] []

/-- The runs of a result file with their results, or why it cannot be read. -/
def runs (text : String) : Except Fault (List (List Result)) :=
  writtenLog.run text

/-- The findings of runs: those of their results, run by run. -/
def findingsOf (runs : List (List Result)) : List Finding :=
  runs.flatMap (·.map (·.finding))

/-- A finding is read where a result is, and is the one that the result reports. -/
theorem related_result : Reader.Related (fun r f => r.finding = f) writtenResult result := by
  refine .record _ (.cons (.optional string fun ruleId r f h => ?_)
    (.cons (.optional string fun level r f h => ?_)
      (.cons (.optional Sarif.message fun text r f h => ?_)
        (.cons (.defaulted (.refl (list Sarif.location)) ?_) .nil)))) rfl
  · rw [← h]
    rfl
  · rw [← h]
    rfl
  · rw [← h]
    rfl
  · rintro places _ rfl r f h
    rw [← h]
    rfl

/-- The findings of a run are read where its results are. -/
theorem related_run :
    Reader.Related (fun results findings => results.map (·.finding) = findings) writtenRun run :=
  .record _ (.cons (.defaulted related_result.list_map fun _ _ same _ _ _ => same) .nil) rfl

/-- The findings of all runs are read where the runs are. -/
theorem related_log :
    Reader.Related (fun runs findings => findingsOf runs = findings) writtenLog log := by
  refine .record _ (.cons (.defaulted related_run.list_map ?_) .nil) rfl
  rintro runs _ rfl _ _ _
  exact List.flatMap_def

/-- The findings of a result file are those of its runs, in the order in which they are written,
and it can be read into findings exactly if it can be read at all. -/
theorem findings_eq_map_runs (text : String) : findings text = (runs text).map findingsOf :=
  related_log.run text

/-- The runs that are written in the result file at a path, or why it cannot be read. -/
def runsIn (t : FileTree) (path : String) : Except ResultFault (List (List Result)) :=
  match t.read path with
  | .error cause => .error (.unreadable cause)
  | .ok bytes => (runs (Utf8.lossy bytes.toList)).mapError .malformed

/-- Whether the level of a result is `error` or `warning`, in any case of letters. -/
def Result.IsIssue (r : Result) : Prop :=
  ∃ word, r.level = some word ∧
    (Text.equalsIgnoringCase "error" word = true ∨ Text.equalsIgnoringCase "warning" word = true)

/-- A result reports a finding of high severity exactly if its level says so. -/
theorem Result.isHigh_finding_iff (r : Result) : r.finding.severity.isHigh = true ↔ r.IsIssue :=
  FindingSeverity.isHigh_ofLevel_iff r.level

end Sarif

namespace ResultFile

/-- A result file has the findings of the runs that are written in it. -/
theorem findings_read (t : FileTree) (path : String) :
    (read t path).findings = (Sarif.runsIn t path).map Sarif.findingsOf := by
  unfold read Sarif.runsIn
  cases t.read path with
  | error cause => rfl
  | ok bytes =>
    simp only [Sarif.findings_eq_map_runs]
    cases Sarif.runs (Utf8.lossy bytes.toList) <;> rfl

/-- A result file contributes the findings of the runs that are written in it. -/
theorem contribution_read (t : FileTree) (path : String) :
    (read t path).contribution = ((Sarif.runsIn t path).map Sarif.findingsOf).toOption.getD [] := by
  unfold contribution
  rw [findings_read]
  cases Sarif.runsIn t path <;> rfl

/-- What a result file contributes is reported by the results that are written in it. -/
theorem mem_contribution_read_iff {t : FileTree} {path : String} {f : Finding} :
    f ∈ (read t path).contribution ↔
      ∃ runs, Sarif.runsIn t path = .ok runs ∧ ∃ run ∈ runs, ∃ r ∈ run, r.finding = f := by
  rw [contribution_read]
  cases Sarif.runsIn t path with
  | error fault => exact iff_of_false List.not_mem_nil fun h => nomatch h.choose_spec.1
  | ok runs =>
    refine Iff.trans ?_ ⟨fun h => ⟨runs, rfl, h⟩, fun ⟨_, same, h⟩ => Except.ok.inj same ▸ h⟩
    exact List.mem_flatMap.trans (exists_congr fun run => and_congr_right fun _ => List.mem_map)

/-- A result file can be read exactly if the runs in it can. -/
theorem isReadable_read (t : FileTree) (path : String) :
    (read t path).isReadable = (Sarif.runsIn t path).isOk := by
  unfold isReadable
  rw [findings_read]
  cases Sarif.runsIn t path <;> rfl

/-- The warning about a file says which file cannot be read, and why. -/
theorem note?_read_eq_some {t : FileTree} {path : String} {note : Diagnostic}
    (h : (read t path).note? = some note) :
    ∃ fault, Sarif.runsIn t path = .error fault ∧
      note = .warn .verificationUnavailable path
        ("unreadable result file: " ++ fault.message) := by
  unfold note? at h
  rw [findings_read] at h
  cases hr : Sarif.runsIn t path with
  | error fault =>
    rw [hr] at h
    exact ⟨fault, rfl, (Option.some.inj h).symm⟩
  | ok runs =>
    rw [hr] at h
    cases h

end ResultFile

/-! ## What a checker leaves -/

namespace Checker

section Course

variable (c : Checker) (launch : Launcher) (archive : String) (t : FileTree)

/-- A checker that is run on an archive ends with these files, and there are result files at these
paths among them. -/
def EndsWith (left : FileTree) (paths : List String) : Prop :=
  ∃ prepared status, c.prepare.run t = (.ok (), prepared) ∧
    c.run launch archive prepared = .finished status left ∧
    c.resultPaths left = .ok paths ∧ paths ≠ []

variable {c launch archive t} {left : FileTree} {paths : List String}

/-- A checker leaves what stands at the paths of the result files. -/
theorem EndsWith.leaves (h : c.EndsWith launch archive t left paths) :
    c.Leaves launch archive t (paths.map (ResultFile.read left)) := by
  obtain ⟨prepared, status, hp, hr, found, some⟩ := h
  refine ⟨prepared, status, left, hp, hr, ?_⟩
  cases paths with
  | nil => exact absurd rfl some
  | cons path paths =>
    unfold resultFiles
    rw [found]

/-- The report is that there are issues exactly if something of high severity stands in one of the
result files that can be read. -/
theorem issuesFound_iff (h : c.EndsWith launch archive t left paths) :
    (c.verify launch archive t).report.status = .issuesFound ↔
      ∃ path ∈ paths, ∃ runs, Sarif.runsIn left path = .ok runs ∧
        ∃ run ∈ runs, ∃ r ∈ run, r.IsIssue := by
  have high : (c.verify launch archive t).report.status = .issuesFound ↔
      ∃ path ∈ paths, ∃ f ∈ (ResultFile.read left path).contribution,
        f.severity.isHigh = true := by
    -- All findings are looked through at once, so files without any cannot hide those of others.
    rw [report_of_leaves h.leaves, collect, List.flatMap_map, VerificationReport.ofResult]
    simp only [← List.any_eq_true, ← List.any_flatMap]
    cases (paths.flatMap fun path => (ResultFile.read left path).contribution).any
      (·.severity.isHigh) <;> simp
  rw [high]
  constructor
  · rintro ⟨path, hpath, f, hf, issue⟩
    obtain ⟨runs, hruns, run, hrun, r, hr, rfl⟩ := ResultFile.mem_contribution_read_iff.1 hf
    exact ⟨path, hpath, runs, hruns, run, hrun, r, hr, r.isHigh_finding_iff.1 issue⟩
  · rintro ⟨path, hpath, runs, hruns, run, hrun, r, hr, issue⟩
    exact ⟨path, hpath, r.finding,
      ResultFile.mem_contribution_read_iff.2 ⟨runs, hruns, run, hrun, r, hr, rfl⟩,
      r.isHigh_finding_iff.2 issue⟩

/-- No finding is lost: the files at the paths of a checker's result files contribute, in the order
of their paths, the findings of all results of all runs that are written in them; each file that
cannot be read contributes nothing and leaves exactly one warning; and there are issues exactly if
the level of a result in a file that can be read says so, whatever stands in the other files. -/
theorem findings_and_warnings_of_files (h : c.EndsWith launch archive t left paths) :
    let v := c.verify launch archive t
    (paths.Pairwise (fun p q => Path.comesBefore p q = true) ∧
      ∃ found, resultPatterns.mapM (fun pattern =>
          Glob.paths left (Path.join c.outputDir pattern)) = .ok found ∧
        paths.Perm found.flatten) ∧
    v.result = .ok (paths.flatMap fun path =>
      ((Sarif.runsIn left path).map Sarif.findingsOf).toOption.getD []) ∧
    List.Forall₂ (fun note path => ∃ fault, Sarif.runsIn left path = .error fault ∧
        note = .warn .verificationUnavailable path ("unreadable result file: " ++ fault.message))
      v.notes (paths.filter fun path => !(Sarif.runsIn left path).isOk) ∧
    (v.report.status = .issuesFound ↔
      ∃ path ∈ paths, ∃ runs, Sarif.runsIn left path = .ok runs ∧
        ∃ run ∈ runs, ∃ r ∈ run, r.IsIssue) := by
  intro v
  obtain ⟨result, notes⟩ := verify_of_leaves h.leaves
  refine ⟨resultPaths_eq_ok h.choose_spec.choose_spec.2.2.1, ?_, ?_, issuesFound_iff h⟩
  · rw [result, collect, List.flatMap_map]
    exact congrArg _ (List.flatMap_congr fun path _ => ResultFile.contribution_read left path)
  · rw [notes, collect, List.filterMap_map]
    have noted : ∀ path, (ResultFile.read left path).note?.isSome =
        !(Sarif.runsIn left path).isOk := fun path => by
      rw [ResultFile.isSome_note?, ResultFile.isReadable_read]
    exact (forall₂_filterMap_filter noted paths).imp fun note path h =>
      ResultFile.note?_read_eq_some h

end Course

/-- A checker fails and leaves three result files. The second of them cannot be read, and the error
in the third is found nevertheless, behind what the first one has. -/
theorem findings_and_warnings_of_files_reporting :
    let v := Sample.checker.verify Sample.reporting "/demo.zip" .empty
    Sample.checker.EndsWith Sample.reporting "/demo.zip" .empty Sample.reported
        ["/check/a.json", "/check/b.sarif", "/check/c.sarif"] ∧
      v.result = .ok [⟨.note, "d", "", none⟩, ⟨.note, "a", "", none⟩, ⟨.error, "b", "", none⟩,
        ⟨.none, "c", "", none⟩] ∧
      v.notes.map (·.subject) = ["/check/b.sarif"] ∧ v.report.status = .issuesFound := by
  intro v
  have ends : Sample.checker.EndsWith Sample.reporting "/demo.zip" .empty Sample.reported
      ["/check/a.json", "/check/b.sarif", "/check/c.sarif"] :=
    ⟨_, 1, rfl, rfl, resultPaths_reported, List.cons_ne_nil _ _⟩
  have third : Sarif.runsIn Sample.reported "/check/c.sarif" =
      .ok [[⟨some "a", some "note", none, none⟩, ⟨some "b", some "Error", none, none⟩],
        [⟨some "c", none, none, none⟩]] := by decide +kernel
  have unreadable : ["/check/a.json", "/check/b.sarif", "/check/c.sarif"].filter
      (fun path => !(Sarif.runsIn Sample.reported path).isOk) = ["/check/b.sarif"] := by
    decide +kernel
  obtain ⟨-, result, notes, issues⟩ := findings_and_warnings_of_files ends
  refine ⟨ends, ?_, ?_, issues.2 ⟨_, .tail _ (.tail _ (.head _)), _, third, _, .head _, _,
    .tail _ (.head _), "Error", rfl, ?_⟩⟩
  · rw [result]
    decide +kernel
  · rw [unreadable] at notes
    have subjects : v.notes.map (·.subject) = ["/check/b.sarif"].map id :=
      map_eq_map_of_forall₂ (notes.imp fun _ _ own => own.choose_spec.2 ▸ rfl)
    exact subjects
  · decide +kernel

end Checker

end SpecBundle
