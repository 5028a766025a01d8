import SpecBundle.Build.Basic

/-!
# Reading the command line

Arguments are read from left to right, and the first that asks for help or makes no sense settles
what is done. An option is given once at most. Its value stands behind it, as the next argument or
in the same one, and the next argument is no value if it looks like an option.
-/

namespace SpecBundle.CommandLine

/-- What the command line asks for. -/
inductive Request where
  /-- The version. -/
  | version
  /-- Help on the commands. -/
  | help
  /-- Help on builds. -/
  | buildHelp
  /-- Help on help. -/
  | helpHelp
  /-- A build. -/
  | build (options : BuildOptions) (verbose : Bool)
  /-- Nothing that makes sense. -/
  | refused
  deriving DecidableEq, Repr

/-- An option that has a value. -/
inductive ValueOption where
  /-- The directory of the project file. -/
  | specs
  /-- The archive. -/
  | output
  /-- The region. -/
  | geo
  /-- The program of the checker. -/
  | checker
  deriving DecidableEq, Repr

/-! ## The options of a build -/

/-- What has been given so far. -/
structure Given where
  /-- The values of options. -/
  values : List (ValueOption × String)
  /-- Whether the checker is skipped. -/
  skipCheck : Bool
  /-- Whether everything is logged. -/
  verbose : Bool

namespace Given

/-- Nothing. -/
def nothing : Given :=
  ⟨[], false, false⟩

/-- Adds the value of an option. A path must not be empty, and no option is given twice. -/
def add? (g : Given) (o : ValueOption) (value : String) : Option Given :=
  if (g.values.lookup o).isSome then none
  else if value == "" && o != .geo then none
  else some { g with values := (o, value) :: g.values }

/-- Adds that the checker is skipped. -/
def addSkipCheck? (g : Given) : Option Given :=
  if g.skipCheck then none else some { g with skipCheck := true }

/-- Adds that everything is logged. -/
def addVerbose? (g : Given) : Option Given :=
  if g.verbose then none else some { g with verbose := true }

/-- The request. It must say where the specifications are. -/
def request (g : Given) : Request :=
  match g.values.lookup .specs with
  | none => .refused
  | some specs =>
    .build {
        specs
        output := g.values.lookup .output
        skipCheck := g.skipCheck
        geo := (g.values.lookup .geo).getD "USGovernment"
        checker := (g.values.lookup .checker).getD "pac" }
      g.verbose

end Given

/-- What one argument says. -/
inductive Reading where
  /-- All of it is understood. -/
  | complete (g : Given)
  /-- The next argument is the value of an option. -/
  | awaiting (o : ValueOption) (g : Given)
  /-- Help is asked for. -/
  | help
  /-- It makes no sense. -/
  | refused

/-- What follows from adding something. -/
def Reading.ofAdded : Option Given → Reading
  | some g => .complete g
  | none => .refused

/-- The option of a letter. -/
def shortOption? : Char → Option ValueOption
  | 's' => some .specs
  | 'o' => some .output
  | _ => none

/-- The option of a word. -/
def longOption? : String → Option ValueOption
  | "specs" => some .specs
  | "output" => some .output
  | "geo" => some .geo
  | "checker" => some .checker
  | _ => none

/-- Reads letters after a dash. What follows the letter of an option that has a value is the
value, perhaps after an equals sign. -/
def readLetters (g : Given) : List Char → Reading
  | [] => .complete g
  | 'h' :: _ => .help
  | 'v' :: rest =>
    match g.addVerbose? with
    | none => .refused
    | some g => readLetters g rest
  | c :: rest =>
    match shortOption? c, rest with
    | none, _ => .refused
    | some o, [] => .awaiting o g
    | some o, '=' :: value => .ofAdded (g.add? o (String.ofList value))
    | some o, value => .ofAdded (g.add? o (String.ofList value))

/-- Reads a word after two dashes, and the value after an equals sign if there is one. -/
def readWord (g : Given) (word : String) (value : Option String) : Reading :=
  match longOption? word, value with
  | some o, none => .awaiting o g
  | some o, some value => .ofAdded (g.add? o value)
  | none, some _ => .refused
  | none, none =>
    if word == "help" then .help
    else if word == "skip-check" then .ofAdded g.addSkipCheck?
    else if word == "verbose" then .ofAdded g.addVerbose?
    else .refused

/-- A text split at its first equals sign. -/
def splitValue (cs : List Char) : String × Option String :=
  (String.ofList (cs.takeWhile (· != '=')),
    match cs.dropWhile (· != '=') with
    | [] => none
    | _ :: value => some (String.ofList value))

/-- Reads an argument. -/
def readArgument (g : Given) (argument : String) : Reading :=
  match argument.toList with
  | '-' :: '-' :: cs =>
    let (word, value) := splitValue cs
    readWord g word value
  | '-' :: c :: cs => readLetters g (c :: cs)
  | _ => .refused

/-- Whether an argument looks like an option: it starts with a dash and goes on. -/
def looksLikeOption (argument : String) : Bool :=
  match argument.toList with
  | '-' :: _ :: _ => true
  | _ => false

/-- Reads the arguments of a build. Two dashes say that no option follows; nothing else may
follow either. -/
def readBuild (g : Given) : List String → Request
  | [] => g.request
  | "--" :: rest => if rest.isEmpty then g.request else .refused
  | argument :: rest =>
    match readArgument g argument, rest with
    | .refused, _ => .refused
    | .help, _ => .buildHelp
    | .complete g, rest => readBuild g rest
    | .awaiting _ _, [] => .refused
    | .awaiting o g, value :: rest =>
      if looksLikeOption value then .refused
      else
        match g.add? o value with
        | none => .refused
        | some g => readBuild g rest

/-- What the given arguments ask for. -/
def Request.ofArguments : List String → Request
  | "build" :: rest => readBuild .nothing rest
  | "help" :: rest =>
    if rest.isEmpty then .help
    else if rest == ["build"] then .buildHelp
    else if rest == ["help"] then .helpHelp
    else .refused
  | argument :: _ =>
    match argument.toList with
    | '-' :: 'h' :: _ => .help
    | '-' :: 'V' :: _ => .version
    | _ =>
      if argument == "--help" then .help
      else if argument == "--version" then .version
      else .refused
  | [] => .refused

end SpecBundle.CommandLine
