import Mathlib.Data.List.Forall2
import SpecBundle.CommandLine.Run

/-!
# Verdicts

Whether a finding is of high severity is asked in several places: for the record of the finding, for
the outcome of the report, for the number that is logged, for the readiness of the package and for
the status of the program. `VerificationReport.accounts_ofResult` says that a report and its records
agree about whatever a checker gives, and `concludes_buildStatus` that so do the status
of the program and the readiness of the package after a build.
-/

namespace SpecBundle

/-! ## Reports and records -/

/-- A record is that of a finding: it is a warning exactly if the finding is of high severity. -/
structure Finding.IsNotedBy (f : Finding) (d : Diagnostic) : Prop where
  /-- It is a record of a finding. -/
  code : d.code = .verificationFinding
  /-- It is about the place of the finding, or else about the rule. -/
  subject : d.subject = f.location.getD f.ruleId
  /-- It is as serious as the finding. -/
  isWarning_iff : d.isWarning = true ↔ f.severity.isHigh = true

/-- A finding is noted by its record. -/
theorem Finding.isNotedBy_note (f : Finding) : f.IsNotedBy f.note := by
  unfold note
  cases high : f.severity.isHigh with
  | true => exact ⟨rfl, rfl, iff_of_true rfl high⟩
  | false =>
    refine ⟨rfl, rfl, iff_of_false Bool.false_ne_true ?_⟩
    rw [high]
    exact Bool.false_ne_true

namespace VerificationReport

/-- Something of high severity is counted exactly if there is such a finding. -/
theorem highSeverityCount_pos_iff (r : VerificationReport) :
    0 < r.highSeverityCount ↔ r.findings.any (·.severity.isHigh) = true := by
  rw [highSeverityCount, List.countP_pos_iff, List.any_eq_true]

/-- Nothing of high severity is counted exactly if there is no such finding. -/
theorem highSeverityCount_eq_zero_iff (r : VerificationReport) :
    r.highSeverityCount = 0 ↔ r.findings.any (·.severity.isHigh) = false := by
  rw [← Bool.not_eq_true, ← highSeverityCount_pos_iff, Nat.pos_iff_ne_zero, not_ne_iff]

/-- What a report and records say of an archive is what a checker gave, findings or a reason why
there are none. -/
structure Accounts (archive : String) (given : Except String (List Finding))
    (report : VerificationReport) (notes : List Diagnostic) : Prop where
  /-- The findings are kept as they are, and each of them has one record. -/
  of_findings : ∀ findings, given = .ok findings →
    report.findings = findings ∧ List.Forall₂ Finding.IsNotedBy findings notes
  /-- Of a reason there are no findings, and one record. -/
  of_reason : ∀ reason, given = .error reason →
    report.findings = [] ∧ notes = [.warn .verificationUnavailable archive reason]
  /-- There are issues exactly if something of high severity is counted. -/
  issuesFound_iff : report.status = .issuesFound ↔ 0 < report.highSeverityCount
  /-- There is no result exactly for the reason that was given. -/
  unavailable_iff : ∀ reason, report.status = .unavailable reason ↔ given = .error reason
  /-- The package is passed exactly if there are findings and nothing of high severity is counted
  among them. -/
  passed_iff : report.status = .passed ↔
    (∃ findings, given = .ok findings) ∧ report.highSeverityCount = 0

/-- The report on a failure says the same as the record of it. -/
theorem accounts_error (archive reason : String) :
    Accounts archive (.error reason) (ofResult (.error reason))
      (notes archive (.error reason)) where
  of_findings _ h := nomatch h
  of_reason other h := by
    cases h
    exact ⟨rfl, rfl⟩
  issuesFound_iff := iff_of_false (fun h => nomatch h) (Nat.lt_irrefl 0)
  unavailable_iff other := by
    rw [ofResult, VerificationStatus.unavailable.injEq, Except.error.injEq]
  passed_iff := iff_of_false (fun h => nomatch h) fun h => nomatch h.1

/-- The report on findings says the same as the records of them. -/
theorem accounts_ok (archive : String) (findings : List Finding) :
    Accounts archive (.ok findings) (ofResult (.ok findings)) (notes archive (.ok findings)) := by
  have noted : List.Forall₂ Finding.IsNotedBy findings (findings.map (·.note)) := by
    rw [List.forall₂_map_right_iff, List.forall₂_same]
    exact fun f _ => f.isNotedBy_note
  have positive := highSeverityCount_pos_iff (ofResult (.ok findings))
  have zero := highSeverityCount_eq_zero_iff (ofResult (.ok findings))
  -- The outcome is decided by the very question that the count answers.
  cases high : findings.any (·.severity.isHigh) with
  | true =>
    have made : ofResult (.ok findings) = ⟨findings, .issuesFound⟩ := by
      rw [ofResult, high]
      rfl
    rw [made] at positive zero ⊢
    exact {
      of_findings := fun _ h => by cases h; exact ⟨rfl, noted⟩
      of_reason := fun _ h => nomatch h
      issuesFound_iff := iff_of_true rfl (positive.2 high)
      unavailable_iff := fun _ => iff_of_false (fun h => nomatch h) fun h => nomatch h
      passed_iff := iff_of_false (fun h => nomatch h)
        fun h => Bool.noConfusion ((zero.1 h.2).symm.trans high) }
  | false =>
    have made : ofResult (.ok findings) = ⟨findings, .passed⟩ := by
      rw [ofResult, high]
      rfl
    rw [made] at positive zero ⊢
    exact {
      of_findings := fun _ h => by cases h; exact ⟨rfl, noted⟩
      of_reason := fun _ h => nomatch h
      issuesFound_iff := iff_of_false (fun h => nomatch h)
        fun h => Bool.noConfusion ((positive.1 h).symm.trans high)
      unavailable_iff := fun _ => iff_of_false (fun h => nomatch h) fun h => nomatch h
      passed_iff := iff_of_true rfl ⟨⟨findings, rfl⟩, zero.2 high⟩ }

/-- The report on whatever a checker gave says the same as the records of it. -/
theorem accounts_ofResult (archive : String) (given : Except String (List Finding)) :
    Accounts archive given (ofResult given) (notes archive given) :=
  match given with
  | .error reason => accounts_error archive reason
  | .ok findings => accounts_ok archive findings

end VerificationReport

/-! ## Builds -/

namespace BuildM

variable {α β : Type}

/-- A build that goes through has gone through its first part. -/
theorem exists_of_bind_ok {part : BuildM α} {next : α → BuildM β} {s t : BuildState} {b : β}
    (h : (part >>= next).run s = (.ok b, t)) :
    ∃ a u, part.run s = (.ok a, u) ∧ (next a).run u = (.ok b, t) := by
  rw [ExceptT.run_bind] at h
  rcases hp : part.run s with ⟨_ | a, u⟩
  · simp only [bind, StateT.bind, hp] at h
    cases h
  · simp only [bind, StateT.bind, hp] at h
    exact ⟨a, u, rfl, h⟩

end BuildM

/-- How the verification of an archive went among the given files, unless it was skipped. -/
def BuildOptions.verification? (o : BuildOptions) (launch : Launcher) (archive : String)
    (written : FileTree) : Option Verification :=
  if o.skipCheck then none else some ((o.checkerFor archive).verify launch archive written)

section Build

variable {launch : Launcher} {o : BuildOptions}

/-- The verification of an archive gives its report, and all its records are appended. -/
theorem verifyUnlessSkipped_run (launch : Launcher) (o : BuildOptions) (archive : String)
    (s : BuildState) :
    ∃ t, (verifyUnlessSkipped launch o archive).run s =
        (.ok ((o.verification? launch archive s.files).map (·.report)), t) ∧
      t.notes = s.notes ++
        ((o.verification? launch archive s.files).map (·.allNotes archive)).getD [] := by
  unfold verifyUnlessSkipped BuildOptions.verification?
  cases o.skipCheck with
  | true => exact ⟨_, rfl, (List.append_nil _).symm⟩
  | false => exact ⟨_, rfl, rfl⟩

/-- A build that goes through ends with the verification of what it has written. -/
theorem exists_written_of_build {files : FileTree} {outcome : BuildOutcome} {state : BuildState}
    (h : build launch o files = (.ok outcome, state)) :
    ∃ before : BuildState,
      outcome.verification =
        (o.verification? launch outcome.archive before.files).map (·.report) ∧
      state.notes = before.notes ++
        ((o.verification? launch outcome.archive before.files).map
          (·.allNotes outcome.archive)).getD [] := by
  unfold build buildSteps at h
  -- Each part of a build that goes through has gone through.
  obtain ⟨_, _, -, h⟩ := BuildM.exists_of_bind_ok h
  obtain ⟨project, _, -, h⟩ := BuildM.exists_of_bind_ok h
  obtain ⟨model, _, -, h⟩ := BuildM.exists_of_bind_ok h
  obtain ⟨_, _, -, h⟩ := BuildM.exists_of_bind_ok h
  obtain ⟨documents, _, -, h⟩ := BuildM.exists_of_bind_ok h
  obtain ⟨_, _, -, h⟩ := BuildM.exists_of_bind_ok h
  obtain ⟨_, _, -, h⟩ := BuildM.exists_of_bind_ok h
  obtain ⟨_, _, -, h⟩ := BuildM.exists_of_bind_ok h
  obtain ⟨_, before, -, h⟩ := BuildM.exists_of_bind_ok h
  obtain ⟨verification, after, verified, h⟩ := BuildM.exists_of_bind_ok h
  obtain ⟨t, ran, noted⟩ := verifyUnlessSkipped_run launch o (o.archive project) before
  rw [ran] at verified
  cases verified
  cases h
  exact ⟨before, rfl, noted⟩

/-- What a status and an outcome say of a verification that may have been skipped. -/
structure Concludes (ran : Option Verification) (outcome : BuildOutcome) (status : Nat) : Prop where
  /-- The program fails exactly if something of high severity was found. -/
  fails_iff : status ≠ 0 ↔ ∃ v, ran = some v ∧ 0 < v.report.highSeverityCount
  /-- It fails in one way only. -/
  status_le : status ≤ 1
  /-- The package is ready exactly if the checker gave findings and nothing of high severity. -/
  ready_iff : outcome.isReadyForImport = true ↔
    ∃ v findings, ran = some v ∧ v.result = .ok findings ∧ v.report.highSeverityCount = 0
  /-- No package is ready whose build fails. -/
  not_both : ¬ (status ≠ 0 ∧ outcome.isReadyForImport = true)

/-- A verification gave findings exactly if its checker did. -/
theorem Verification.exists_outcome_ok_iff (v : Verification) :
    (∃ findings, v.outcome = .ok findings) ↔ ∃ findings, v.result = .ok findings := by
  unfold outcome
  cases v.result with
  | error e => exact iff_of_false (fun h => nomatch h) fun h => nomatch h
  | ok findings => exact iff_of_true ⟨findings, rfl⟩ ⟨findings, rfl⟩

/-- The status after a build and the readiness of its package follow from its verification. -/
theorem concludes_buildStatus (ran : Option Verification) {outcome : BuildOutcome}
    (h : outcome.verification = ran.map (·.report)) :
    Concludes ran outcome (CommandLine.buildStatus (.ok outcome)) := by
  have status : CommandLine.buildStatus (.ok outcome) =
      if outcome.hasHighSeverityFindings then 1 else 0 := rfl
  have failing : CommandLine.buildStatus (.ok outcome) ≠ 0 ↔
      outcome.hasHighSeverityFindings = true := by
    rw [status]
    cases outcome.hasHighSeverityFindings <;> decide
  have bound : CommandLine.buildStatus (.ok outcome) ≤ 1 := by
    rw [status]
    cases outcome.hasHighSeverityFindings <;> decide
  have findings : outcome.hasHighSeverityFindings = true ↔
      ∃ v, ran = some v ∧ v.report.status = .issuesFound := by
    unfold BuildOutcome.hasHighSeverityFindings
    rw [h]
    cases ran <;> simp
  have ready : outcome.isReadyForImport = true ↔
      ∃ v, ran = some v ∧ v.report.status = .passed := by
    unfold BuildOutcome.isReadyForImport
    rw [h]
    cases ran <;> simp
  have accounts (v : Verification) :=
    VerificationReport.accounts_ofResult outcome.archive v.outcome
  refine ⟨?_, bound, ?_, fun ⟨fails, isReady⟩ => ?_⟩
  · rw [failing, findings]
    exact exists_congr fun v => and_congr_right fun _ => (accounts v).issuesFound_iff
  · rw [ready]
    refine exists_congr fun v => ?_
    rw [exists_and_left, exists_and_right, ← v.exists_outcome_ok_iff]
    exact and_congr_right fun _ => (accounts v).passed_iff
  · obtain ⟨v, ranOne, found⟩ := findings.1 (failing.1 fails)
    obtain ⟨w, ranOther, passed⟩ := ready.1 isReady
    cases ranOne.symm.trans ranOther
    cases found.symm.trans passed

end Build

namespace Sample

/-- The project file of a project with the prefix `seo`. -/
def projectFile : String :=
  r#"["Demo",null,"","1.0",1033,["Pub","Pub","","seo"]]"#

/-- The file of a table with one column. -/
def tableFile : String :=
  "[\"Call\",\"Call\",\"Calls\",\"\",\"Title\",\"User\",false," ++
    "[\x7b\"schemaName\":\"Title\",\"displayName\":\"Title\",\"type\":\"Memo\"\x7d]]"

/-- A tree of specifications with one table. -/
def oneTable : FileTree :=
  (((FileTree.empty.put ["solution.json"] (.file projectFile.toUTF8)).put
    ["datamodel"] .directory).put ["datamodel", "tables"] .directory).put
    ["datamodel", "tables", "call.json"] (.file tableFile.toUTF8)

/-- Programs that end badly and leave a result of the level of warnings. -/
def warning : Launcher := fun _ _ _ t =>
  .finished 1 (t.put ["Demo_check", "a.sarif"]
    (.file r#"[[[[[null,"Warning",null]]]]]"#.toUTF8))

/-- A build of the specifications at the root. -/
def rootBuild : BuildOptions where
  specs := "/"
  output := none
  skipCheck := false
  geo := "USGovernment"
  checker := "pac"

end Sample

end SpecBundle
