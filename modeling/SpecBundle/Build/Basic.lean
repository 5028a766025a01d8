import SpecBundle.Build.Staging
import SpecBundle.Spec.SpecTree
import SpecBundle.Verification.Checker

/-!
# Builds

A build reads a tree of specifications, writes the package and lets a checker verify it unless
that is skipped. `build` is the whole course as a function of the files at its start.
-/

namespace SpecBundle

/-- What a build is asked to do. -/
structure BuildOptions where
  /-- The directory of the project file. -/
  specs : String
  /-- The archive, if it is not to be named for the project. -/
  output : Option String
  /-- Whether nothing is verified. -/
  skipCheck : Bool
  /-- The region that the checker is told. -/
  geo : String
  /-- The program of the checker. -/
  checker : String
  deriving DecidableEq, Repr

/-- What a build that succeeds gives. -/
structure BuildOutcome where
  /-- The archive. -/
  archive : String
  /-- The documents in the archive, by their names and in order. -/
  documents : List (String × String)
  /-- What the checker says, unless it was skipped. -/
  verification : Option VerificationReport

namespace BuildOutcome

/-- Whether the checker ran and found nothing of high severity. -/
def isReadyForImport (o : BuildOutcome) : Bool :=
  o.verification.any fun report => report.status == .passed

/-- Whether the checker ran and found something of high severity. -/
def hasHighSeverityFindings (o : BuildOutcome) : Bool :=
  o.verification.any fun report => report.status == .issuesFound

end BuildOutcome

/-! ## Parts of a build -/

/-- The state of a build. -/
structure BuildState where
  /-- The files. -/
  files : FileTree
  /-- What has been logged, in order. -/
  log : List LogEntry
  /-- The records, in order. -/
  notes : List Diagnostic

/-- A part of a build. -/
abbrev BuildM (α : Type) := ExceptT BuildError (StateM BuildState) α

namespace BuildM

/-- Logs a line. -/
def log (level : LogLevel) (text : String) : BuildM Unit :=
  modify fun s => { s with log := s.log ++ [⟨level, text⟩] }

/-- Makes records. -/
def record (notes : List Diagnostic) : BuildM Unit :=
  modify fun s => { s with notes := s.notes ++ notes }

/-- Does something to the files. -/
def onFiles (action : PackageAction α) : BuildM α := do
  let s ← get
  let (result, files) := action.run s.files
  set { s with files := files }
  liftExcept result
where
  /-- Ends the build if there is an error. -/
  liftExcept : Except BuildError α → BuildM α
    | .ok a => return a
    | .error e => throw e

/-- Takes what a stage gives and its records. -/
def ofOutcome (outcome : Outcome α) : BuildM α := do
  record outcome.notes
  onFiles.liftExcept outcome.result

/-- Asks the files something. -/
def ofFiles (question : FileTree → Except BuildError α) : BuildM α := do
  onFiles.liftExcept (question (← get).files)

/-- Lets a checker verify an archive. -/
def verify (launch : Launcher) (checker : Checker) (archive : String) :
    BuildM VerificationReport := do
  let s ← get
  let verification := checker.verify launch archive s.files
  set { s with files := verification.files, log := s.log ++ verification.log }
  record (verification.allNotes archive)
  return verification.report

end BuildM

/-! ## The course of a build -/

/-- What has been read, in words. -/
def DataModel.summary (m : DataModel) : String :=
  "Read " ++ Decimal.ofNat m.tables.length ++ " tables, " ++
    Decimal.ofNat m.columnCount ++ " columns, " ++
    Decimal.ofNat m.views.length ++ " views, " ++
    Decimal.ofNat m.forms.length ++ " forms (" ++
    Decimal.ofNat m.quickCreateFormCount ++ " quick create)"

namespace BuildOptions

/-- The project file. -/
def manifest (o : BuildOptions) : String :=
  Path.join o.specs "solution.json"

/-- The archive of a project. -/
def archive (o : BuildOptions) (p : Project) : String :=
  o.output.getD (Path.join p.root (p.name ++ ".zip"))

/-- The checker for an archive. -/
def checkerFor (o : BuildOptions) (archive : String) : Checker :=
  ⟨o.checker, o.geo, checkDir archive, Checker.defaultTimeout⟩

end BuildOptions

/-- Lets the checker verify the archive, unless it is skipped. -/
def verifyUnlessSkipped (launch : Launcher) (o : BuildOptions) (archive : String) :
    BuildM (Option VerificationReport) := do
  if o.skipCheck then
    BuildM.log .info "Skipping solution checker"
    return none
  else
    return some (← BuildM.verify launch (o.checkerFor archive) archive)

/-- The steps of a build. Every document is made before anything is written. -/
def buildSteps (launch : Launcher) (o : BuildOptions) : BuildM BuildOutcome := do
  BuildM.log .info ("Building solution: " ++ o.manifest)
  let project ← BuildM.ofFiles (Project.read · o.manifest)
  let model ← BuildM.ofFiles (DataModel.read · project)
  BuildM.log .info model.summary
  let archive := o.archive project
  let documents ← BuildM.ofOutcome (Package.documents model project)
  BuildM.onFiles (stage archive documents)
  BuildM.log .debug ("Staged package documents in " ++ stagingDir archive)
  BuildM.onFiles (archiveStaged archive documents)
  BuildM.log .info ("Created solution package: " ++ archive)
  let verification ← verifyUnlessSkipped launch o archive
  return { archive, documents, verification }

/-- A whole build: its result or error, with the files, log and records at its end. -/
def build (launch : Launcher) (o : BuildOptions) (files : FileTree) :
    Except BuildError BuildOutcome × BuildState :=
  (buildSteps launch o).run ⟨files, [], []⟩

end SpecBundle
