import SpecBundle.Diagnostic
import SpecBundle.Text.Hex

/-!
# The log

A build says what it does in lines of a level and a text. Characters by which a text could steer
a terminal are written as escapes, so a name from a specification cannot do that. The time of a
line is left out.
-/

namespace SpecBundle

/-- The level of a log line. -/
inductive LogLevel where
  /-- Of interest when something is sought. -/
  | debug
  /-- The course of a build. -/
  | info
  /-- Something to look at. -/
  | warn
  deriving DecidableEq, Repr

/-- The level in five places. -/
def LogLevel.text : LogLevel → String
  | .debug => "DEBUG"
  | .info => " INFO"
  | .warn => " WARN"

/-- A line of the log. -/
structure LogEntry where
  /-- The level. -/
  level : LogLevel
  /-- What is said. -/
  text : String
  deriving DecidableEq, Repr

/-- Whether a character below 128 can start or end a control sequence: bell, backspace, form feed,
escape and delete. -/
def steersTerminal (c : Char) : Bool :=
  c.val = 0x07 || c.val = 0x08 || c.val = 0x0C || c.val = 0x1B || c.val = 0x7F

/-- A character as the log writes it. -/
def logged (c : Char) : List Char :=
  if steersTerminal c then '\\' :: 'x' :: Hex.byte c.toNat
  else if 0x80 ≤ c.val && c.val ≤ 0x9F then
    '\\' :: 'u' :: '\x7b' :: Hex.byte c.toNat ++ ['\x7d']
  else [c]

namespace LogEntry

/-- The entry as it is written. -/
def line (e : LogEntry) : String :=
  e.level.text ++ " " ++ String.ofList (e.text.toList.flatMap logged)

/-- The entry of a record, which is set in by two. -/
def ofDiagnostic (d : Diagnostic) : LogEntry :=
  ⟨if d.isWarning then .warn else .info, "  " ++ d.line⟩

end LogEntry

end SpecBundle
