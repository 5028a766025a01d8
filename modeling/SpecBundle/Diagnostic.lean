/-!
# Diagnostics

Whatever a build leaves out, renames or settles by a rule is recorded and never printed on the
way: the stages return their records in order beside their results. `Diagnostic.line` is the one
place where a record becomes text.
-/

namespace SpecBundle

/-- How serious a record is. No record stops a build. -/
inductive Severity where
  /-- Something was settled. -/
  | info
  /-- Something was left out or may not work. -/
  | warning
  deriving DecidableEq, Repr

/-- The kind of decision that a record reports. -/
inductive DiagnosticCode where
  /-- A column had the name of the generated primary key and was renamed. -/
  | columnRenamed
  /-- A column of an unknown type was left out. -/
  | unknownColumnType
  /-- A column names a global choice that is not defined. -/
  | choiceNotFound
  /-- A view column was left out. -/
  | viewColumnSkipped
  /-- A sort key of a view was left out. -/
  | sortSkipped
  /-- A condition of a filter was left out. -/
  | filterSkipped
  /-- A subgrid uses another relationship than the one it declares. -/
  | relationshipResolved
  /-- A subgrid keeps the relationship it declares, which may not exist. -/
  | relationshipUnresolved
  /-- A relationship's name was taken and got a suffix. -/
  | relationshipRenamed
  /-- A view or form names a table that does not exist. -/
  | entityNotFound
  /-- A form names a column that its table does not have. -/
  | formFieldUnknown
  /-- The checker reported something. -/
  | verificationFinding
  /-- The checker gave no result. -/
  | verificationUnavailable
  deriving DecidableEq, Repr

/-- The word that starts a printed record. -/
def DiagnosticCode.label : DiagnosticCode → String
  | .columnRenamed => "RENAME"
  | .unknownColumnType => "SKIP TYPE"
  | .choiceNotFound => "MISSING CHOICE"
  | .viewColumnSkipped => "SKIP COLUMN"
  | .sortSkipped => "SKIP SORT"
  | .filterSkipped => "SKIP FILTER"
  | .relationshipResolved => "RESOLVE REL"
  | .relationshipUnresolved => "UNRESOLVED REL"
  | .relationshipRenamed => "RENAME REL"
  | .entityNotFound => "MISSING ENTITY"
  | .formFieldUnknown => "UNKNOWN FIELD"
  | .verificationFinding => "CHECK"
  | .verificationUnavailable => "CHECK UNAVAILABLE"

/-- One record. -/
structure Diagnostic where
  /-- How serious it is. -/
  severity : Severity
  /-- What kind of decision it reports. -/
  code : DiagnosticCode
  /-- What the decision was about, such as `agency.agencyid`. -/
  subject : String
  /-- The decision in words. -/
  message : String
  deriving DecidableEq, Repr

namespace Diagnostic

/-- A record of something that was settled. -/
def info (code : DiagnosticCode) (subject message : String) : Diagnostic :=
  ⟨.info, code, subject, message⟩

/-- A record of something that was left out or may not work. -/
def warn (code : DiagnosticCode) (subject message : String) : Diagnostic :=
  ⟨.warning, code, subject, message⟩

/-- The record as one line of text. -/
def line (d : Diagnostic) : String :=
  d.code.label ++ ": " ++ d.subject ++ " (" ++ d.message ++ ")"

/-- Whether the record is a warning. -/
def isWarning (d : Diagnostic) : Bool :=
  d.severity == .warning

end Diagnostic

/-- The most serious severity among the records, if there are any. -/
def worstSeverity (ds : List Diagnostic) : Option Severity :=
  if ds.isEmpty then none else if ds.any (·.isWarning) then some .warning else some .info

/-- The records of one code, in order. -/
def withCode (code : DiagnosticCode) (ds : List Diagnostic) : List Diagnostic :=
  ds.filter (·.code == code)

end SpecBundle
