import SpecBundle.CommandLine.Request

/-!
# Running the command line

The program writes its log to the standard output, and to the standard error only why it fails.
Its status is 0 if all went well, 1 if a build failed or the checker found something of high
severity, and 2 if the arguments make no sense. A package that could not be checked is no failure.
-/

namespace SpecBundle.CommandLine

/-- What a run of the program leaves. -/
structure Run where
  /-- The status. -/
  status : Nat
  /-- The texts written to the standard output, one after another. -/
  output : List String
  /-- The text written to the standard error, if there is any. -/
  error : Option String
  /-- The files. -/
  files : FileTree

/-- The text of a request for the version. -/
def versionText : String := "rust-solutionpackage 0.1.0"

/-- The text of a request for help. -/
def helpText : List String := [
  "Compile data-model specs into an importable solution package",
  "",
  "Usage: rust-solutionpackage <COMMAND>",
  "",
  "Commands:",
  "  build  Build a spec tree into a solution .zip",
  "  help   Print this message or the help of the given subcommand(s)",
  "",
  "Options:",
  "  -h, --help     Print help",
  "  -V, --version  Print version"]

/-- The text of a request for help on builds. -/
def buildHelpText : List String := [
  "Build a spec tree into a solution .zip",
  "",
  "Usage: rust-solutionpackage build [OPTIONS] --specs <SPECS>",
  "",
  "Options:",
  "  -s, --specs <SPECS>      Spec root containing solution.json",
  "  -o, --output <OUTPUT>    Output path for the .zip (defaults to <specs>/<uniqueName>.zip)",
  "      --skip-check         Skip the external solution checker",
  "      --geo <GEO>          Region passed to the solution checker [default: USGovernment]",
  "      --checker <CHECKER>  Solution checker executable [default: pac]",
  "  -v, --verbose            Enable verbose output",
  "  -h, --help               Print help"]

/-- The text of a request for help on help. -/
def helpHelpText : List String := [
  "Print this message or the help of the given subcommand(s)",
  "",
  "Usage: rust-solutionpackage help [COMMAND]...",
  "",
  "Arguments:",
  "  [COMMAND]...  Print help for the subcommand(s)"]

/-- The last line of a build that succeeds. -/
def verdict (o : BuildOutcome) : LogEntry :=
  match o.verification with
  | none => ⟨.info, "Package built; solution checker skipped"⟩
  | some report =>
    match report.status with
    | .passed => ⟨.info, "Solution checker passed; ready for import"⟩
    | .issuesFound =>
      ⟨.warn, "Solution checker reported " ++ Decimal.ofNat report.highSeverityCount ++
        " high-severity finding(s)"⟩
    | .unavailable reason =>
      ⟨.warn, "Solution checker unavailable (" ++ reason ++ "); not ready for import"⟩

/-- The status of the program after a build. -/
def buildStatus : Except BuildError BuildOutcome → Nat
  | .error _ => 1
  | .ok outcome => if outcome.hasHighSeverityFindings then 1 else 0

/-- Why the program fails, in words: the error and what caused it. -/
def errorText (e : BuildError) : String :=
  "Error: " ++ e.message ++
    match e.cause? with
    | none => ""
    | some cause => "\n\nCaused by:\n    " ++ cause.message

/-- What is logged after a build. -/
def conclusion : Except BuildError BuildOutcome → List LogEntry
  | .error _ => []
  | .ok outcome => [verdict outcome]

/-- The entries that are written: all of them, or those that are not only for debugging. -/
def shown (verbose : Bool) (log : List LogEntry) : List LogEntry :=
  log.filter fun entry => verbose || entry.level != .debug

/-- Runs a build. -/
def runBuild (launch : Launcher) (options : BuildOptions) (verbose : Bool) (files : FileTree) :
    Run :=
  let (result, state) := build launch options files
  let log := state.log ++ state.notes.map LogEntry.ofDiagnostic ++ conclusion result
  { status := buildStatus result
    output := (shown verbose log).map (·.line)
    error :=
      match result with
      | .error e => some (errorText e)
      | .ok _ => none
    files := state.files }

/-- Runs the program with the given arguments. -/
def run (launch : Launcher) (arguments : List String) (files : FileTree) : Run :=
  match Request.ofArguments arguments with
  | .version => ⟨0, [versionText], none, files⟩
  | .help => ⟨0, helpText, none, files⟩
  | .buildHelp => ⟨0, buildHelpText, none, files⟩
  | .helpHelp => ⟨0, helpHelpText, none, files⟩
  | .build options verbose => runBuild launch options verbose files
  | .refused => ⟨2, [], some "error: the arguments make no sense; try --help", files⟩

end SpecBundle.CommandLine
