import SpecBundle.Diagnostic
import SpecBundle.Text.Lowercase

/-!
# Verification reports

A package may be handed to a checker, which reports findings or fails. A failure never stops a
build; the report then says why there is no result. A package is fit for import only if the
checker ran and found nothing of the two highest severities.
-/

namespace SpecBundle

/-- The severity of a finding, highest first. -/
inductive FindingSeverity where
  /-- The package is wrong. -/
  | error
  /-- The package may be wrong. -/
  | warning
  /-- A remark. -/
  | note
  /-- Anything else. -/
  | none
  deriving DecidableEq, Repr

namespace FindingSeverity

/-- The severities, highest first. -/
def all : List FindingSeverity := [.error, .warning, .note, .none]

/-- The word for a severity. -/
def word : FindingSeverity → String
  | .error => "error"
  | .warning => "warning"
  | .note => "note"
  | .none => "none"

/-- The severity of a level in any case of letters; a missing or unknown level is the lowest. -/
def ofLevel (level : Option String) : FindingSeverity :=
  ((level.bind fun l => all.find? fun s => Text.equalsIgnoringCase s.word l)).getD .none

/-- Whether it is one of the two highest. -/
def isHigh : FindingSeverity → Bool
  | .error => true
  | .warning => true
  | .note => false
  | .none => false

end FindingSeverity

/-- What a checker found. -/
structure Finding where
  /-- How severe it is. -/
  severity : FindingSeverity
  /-- The rule that is broken. -/
  ruleId : String
  /-- The finding in words. -/
  message : String
  /-- Where it was found, if that is known. -/
  location : Option String
  deriving DecidableEq, Repr

/-- The record of a finding. -/
def Finding.note (f : Finding) : Diagnostic :=
  let subject := f.location.getD f.ruleId
  let message := "[" ++ f.severity.word ++ "] " ++ f.ruleId ++ ": " ++ f.message
  if f.severity.isHigh then .warn .verificationFinding subject message
  else .info .verificationFinding subject message

/-- The highest severity among the findings, if there are any. -/
def worstFinding (findings : List Finding) : Option FindingSeverity :=
  FindingSeverity.all.find? fun s => findings.any (·.severity == s)

/-- The outcome of a verification. -/
inductive VerificationStatus where
  /-- Nothing of high severity was found. -/
  | passed
  /-- Something of high severity was found. -/
  | issuesFound
  /-- There is no result, for the given reason. -/
  | unavailable (reason : String)
  deriving DecidableEq, Repr

/-- The report of a verification. -/
structure VerificationReport where
  /-- The findings, in the checker's order. -/
  findings : List Finding
  /-- The outcome. -/
  status : VerificationStatus
  deriving DecidableEq, Repr

namespace VerificationReport

/-- The number of findings of high severity. -/
def highSeverityCount (r : VerificationReport) : Nat :=
  r.findings.countP (·.severity.isHigh)

/-- The report on what a checker gave: its findings, or the reason why there are none. -/
def ofResult : Except String (List Finding) → VerificationReport
  | .ok findings => ⟨findings, if findings.any (·.severity.isHigh) then .issuesFound else .passed⟩
  | .error reason => ⟨[], .unavailable reason⟩

/-- The records of what a checker gave for an archive. -/
def notes (archive : String) : Except String (List Finding) → List Diagnostic
  | .ok findings => findings.map (·.note)
  | .error reason => [.warn .verificationUnavailable archive reason]

end VerificationReport

/-- The reason that a chain of causes gives, outermost first. -/
def joinCauses (causes : List String) : String :=
  ": ".intercalate causes

end SpecBundle
