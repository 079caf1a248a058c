import Scaffold.Json.Basic
import Scaffold.Text.Basic

/-!
# Reports of checks

Checks add findings to a report; errors make it invalid and warnings do not.
-/

namespace Scaffold

/-- How a finding counts. -/
inductive Level where
  | error
  | warning
  deriving DecidableEq, Repr

/-- The level in lower case. -/
def Level.name : Level → String
  | error => "error"
  | warning => "warning"

/-- The level in capitals. -/
def Level.label : Level → String
  | error => "ERROR"
  | warning => "WARNING"

/-- One thing that a check found. -/
structure Finding where
  level : Level
  code : String
  message : String
  /-- What the finding is about. -/
  context : Json := .obj []

/-- The finding on one line. -/
def Finding.render (finding : Finding) : String :=
  s!"[{finding.level.label}] {finding.code}: {finding.message}"

/-- The findings of checks, in order. -/
structure Report where
  findings : List Finding := []

namespace Report

/-- Adds a finding. -/
def add (report : Report) (finding : Finding) : Report :=
  ⟨report.findings ++ [finding]⟩

/-- Adds the findings of another report. -/
def append (report other : Report) : Report :=
  ⟨report.findings ++ other.findings⟩

/-- The errors. -/
def errors (report : Report) : List Finding :=
  report.findings.filter fun finding => finding.level == .error

/-- The warnings. -/
def warnings (report : Report) : List Finding :=
  report.findings.filter fun finding => finding.level == .warning

/-- There are no errors. -/
def isValid (report : Report) : Bool :=
  !report.findings.any fun finding => finding.level == .error

/-- How many errors and warnings there are. -/
def summary (report : Report) : String :=
  s!"Validation: {report.errors.length} error(s), {report.warnings.length} warning(s)."

/-- The messages of all errors on one line. -/
def errorText (report : Report) : String :=
  "; ".intercalate (report.errors.map Finding.message)

/-- A one-line description. -/
def describe (report : Report) : String :=
  s!"<ValidationResult {report.summary}>"

end Report

end Scaffold
