import SpecBundle.FileTree.Action
import SpecBundle.Log
import SpecBundle.Text.Utf8
import SpecBundle.Verification.Glob
import SpecBundle.Verification.Sarif

/-!
# The checker

A checker is a program that is given an archive and a directory, and leaves result files in the
directory. Whatever it prints and however it exits, only the result files count: all that can be
read contribute their findings, in the order of their paths, and each of the others contributes
one warning. What the program prints is left out of the log.
-/

namespace SpecBundle

/-- A checker and how it is run. -/
structure Checker where
  /-- The program. -/
  program : String
  /-- The region that it is told. -/
  geo : String
  /-- The directory for its result files. -/
  outputDir : String
  /-- The number of seconds that it may run. -/
  timeout : Nat
  deriving DecidableEq, Repr

/-- What becomes of a program that is run. -/
inductive ProgramRun where
  /-- It cannot be started. -/
  | notStarted (cause : IoError)
  /-- It is stopped when its time is over. -/
  | timedOut
  /-- It ends with a status and leaves these files. -/
  | finished (status : Nat) (files : FileTree)

/-- How programs are run: what becomes of a program that is given arguments and may run so many
seconds. -/
abbrev Launcher := (program : String) → (arguments : List String) → (timeout : Nat) → FileTree →
  ProgramRun

/-! ## Errors -/

/-- Why a checker gives no result. -/
inductive CheckerError where
  /-- The program cannot be started. -/
  | notStarted (program : String) (cause : IoError)
  /-- The program took longer than so many seconds. -/
  | timedOut (seconds : Nat)
  /-- The directory holds no result files. -/
  | noResults (directory : String)
  /-- The directory cannot be searched. -/
  | badPattern (error : Glob.PatternError)
  /-- The directory cannot be prepared. -/
  | noDirectory (cause : IoError)
  deriving DecidableEq, Repr

/-- The error in words. -/
def CheckerError.message : CheckerError → String
  | .notStarted program cause =>
    "Solution checker error: failed to start " ++ program ++ ": " ++ cause.message
  | .timedOut seconds =>
    "Solution checker error: timed out after " ++ Decimal.ofNat seconds ++ "s"
  | .noResults directory => "Solution checker error: no result files in " ++ directory
  | .badPattern error => "Solution checker error: " ++ error.message
  | .noDirectory cause => cause.message

/-- Why a result file gives no findings. -/
inductive ResultFault where
  /-- The file cannot be read. -/
  | unreadable (cause : IoError)
  /-- The file does not hold results. -/
  | malformed (fault : Json.Fault)
  deriving DecidableEq, Repr

/-- The fault in words. -/
def ResultFault.message : ResultFault → String
  | .unreadable cause => cause.message
  | .malformed fault => fault.message

/-! ## Result files -/

/-- A result file and what it holds. -/
structure ResultFile where
  /-- The path. -/
  path : String
  /-- The findings in it, or why there are none. -/
  findings : Except ResultFault (List Finding)

namespace ResultFile

/-- The result file at a path. Bytes that are no UTF-8 do not keep it from being read. -/
def read (t : FileTree) (path : String) : ResultFile where
  path := path
  findings :=
    match t.read path with
    | .error cause => .error (.unreadable cause)
    | .ok bytes => (Sarif.findings (Utf8.lossy bytes.toList)).mapError .malformed

/-- The findings that a file contributes. -/
def contribution (f : ResultFile) : List Finding :=
  match f.findings with
  | .ok findings => findings
  | .error _ => []

/-- The warning about a file that gives no findings. -/
def note? (f : ResultFile) : Option Diagnostic :=
  match f.findings with
  | .ok _ => none
  | .error fault =>
    some (.warn .verificationUnavailable f.path ("unreadable result file: " ++ fault.message))

end ResultFile

/-! ## Running a checker -/

/-- The course of a verification. -/
structure Verification where
  /-- The files afterwards. -/
  files : FileTree
  /-- What is logged, in order. -/
  log : List LogEntry
  /-- The warnings about result files. -/
  notes : List Diagnostic
  /-- The findings, or why there are none. -/
  result : Except CheckerError (List Finding)

namespace Checker

/-- The time that a checker gets unless told otherwise. -/
def defaultTimeout : Nat := 300

/-- The arguments of the program. -/
def arguments (c : Checker) (archive : String) : List String :=
  ["solution", "check", "--path", archive, "--geo", c.geo, "--outputDirectory", c.outputDir]

/-- What becomes of the checker when it is run. A program cannot be given a text that holds a NUL,
and is not even looked for then. -/
def run (c : Checker) (launch : Launcher) (archive : String) (t : FileTree) : ProgramRun :=
  if (c.program :: c.arguments archive).any (·.toList.contains '\x00') then
    .notStarted .unexpectedNul
  else launch c.program (c.arguments archive) c.timeout t

/-- Makes the directory for the result files, without anything that was there before. -/
def prepare (c : Checker) : FileAction Unit := do
  FileAction.clear c.outputDir
  FileAction.makeDirectories c.outputDir

/-- The patterns of the names of result files. -/
def resultPatterns : List String := ["*.sarif", "*.json"]

/-- The paths of the result files, in order. The path of the directory is part of a pattern, so
brackets and the like in it count as such. -/
def resultPaths (c : Checker) (t : FileTree) : Except Glob.PatternError (List String) := do
  let found ← resultPatterns.mapM fun pattern => Glob.paths t (Path.join c.outputDir pattern)
  return found.flatten.mergeSort Path.comesBefore

/-- The result files that a checker left. -/
def resultFiles (c : Checker) (t : FileTree) : Except CheckerError (List ResultFile) :=
  match c.resultPaths t with
  | .error error => .error (.badPattern error)
  | .ok [] => .error (.noResults c.outputDir)
  | .ok paths => .ok (paths.map (ResultFile.read t))

/-- The findings and warnings of result files. -/
def collect (files : List ResultFile) : List Finding × List Diagnostic :=
  (files.flatMap (·.contribution), files.filterMap (·.note?))

/-- What is logged when a program has ended: its status unless that is zero. -/
def statusLog (status : Nat) : List LogEntry :=
  if status = 0 then []
  else [⟨.debug, "Checker exited with exit status: " ++ Decimal.ofNat status⟩]

/-- Lets a checker verify an archive. -/
def verify (c : Checker) (launch : Launcher) (archive : String) (t : FileTree) : Verification :=
  match c.prepare.run t with
  | (.error cause, t) => ⟨t, [], [], .error (.noDirectory cause)⟩
  | (.ok (), t) =>
    let started : LogEntry := ⟨.info, "Running solution checker (geo " ++ c.geo ++ ")"⟩
    match c.run launch archive t with
    | .notStarted cause => ⟨t, [started], [], .error (.notStarted c.program cause)⟩
    | .timedOut => ⟨t, [started], [], .error (.timedOut c.timeout)⟩
    | .finished status t =>
      let log := started :: statusLog status
      match c.resultFiles t with
      | .error error => ⟨t, log, [], .error error⟩
      | .ok files => ⟨t, log, (collect files).2, .ok (collect files).1⟩

end Checker

namespace Verification

/-- The findings, or the reason why there are none. -/
def outcome (v : Verification) : Except String (List Finding) :=
  v.result.mapError CheckerError.message

/-- The report. -/
def report (v : Verification) : VerificationReport :=
  .ofResult v.outcome

/-- All records: the warnings about result files, then what the checker gave. -/
def allNotes (v : Verification) (archive : String) : List Diagnostic :=
  v.notes ++ VerificationReport.notes archive v.outcome

end Verification

end SpecBundle
