import SpecBundle.Json.Reader.Record
import SpecBundle.Verification.Report

/-!
# Results in the static analysis format

A result file holds runs, and a run holds results. Of a result only the rule, the level, the
message and the first location count.
-/

namespace SpecBundle.Sarif

open Json (Fault Reader)
open Json.Reader (list record string)

/-- Reads the text of a message. -/
def message : Reader (Option String) :=
  record "SarifMessage" [.optional "text" string fun text _ => text] none

/-- Reads where an artifact is. -/
def artifactLocation : Reader (Option String) :=
  record "SarifArtifactLocation" [.optional "uri" string fun uri _ => uri] none

/-- Reads where in a package a place is. -/
def physicalLocation : Reader (Option String) :=
  record "SarifPhysicalLocation"
    [.optional "artifactLocation" artifactLocation fun place _ => place.join] none

/-- Reads a location. -/
def location : Reader (Option String) :=
  record "SarifLocation"
    [.optional "physicalLocation" physicalLocation fun place _ => place.join] none

/-- A result that says nothing. -/
def silent : Finding where
  severity := .ofLevel none
  ruleId := ""
  message := ""
  location := none

/-- Reads a result. -/
def result : Reader Finding :=
  record "SarifResult" [
    .optional "ruleId" string fun ruleId f => { f with ruleId := ruleId.getD "" },
    .optional "level" string fun level f => { f with severity := .ofLevel level },
    .optional "message" message fun text f => { f with message := text.join.getD "" },
    .defaulted "locations" (list location) fun places f =>
      { f with location := places.head?.join }] silent

/-- Reads the results of a run. -/
def run : Reader (List Finding) :=
  record "SarifRun" [.defaulted "results" (list result) fun results _ => results] []

/-- Reads the results of all runs. -/
def log : Reader (List Finding) :=
  record "SarifLog" [.defaulted "runs" (list run) fun runs _ => runs.flatten] []

/-- The findings of a result file, or why it cannot be read. -/
def findings (text : String) : Except Fault (List Finding) :=
  log.run text

end SpecBundle.Sarif
