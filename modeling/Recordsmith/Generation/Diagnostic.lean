import Recordsmith.Record.Candidate

/-!
Diagnostics: what is said to the user about a candidate. A skipped candidate gives a warning, a
failed one an error that points at the field at fault, if there is one with a location.
-/

namespace Recordsmith

/-- How serious a diagnostic is. -/
inductive Severity where
  | warning
  | error
  deriving DecidableEq, Repr

/-- The name of a severity. -/
def Severity.label : Severity → String
  | .warning => "warning"
  | .error => "error"

/-- A message about a candidate. -/
structure Diagnostic where
  severity : Severity
  message : String
  location : Option SourceLocation
  field : Option String
  deriving DecidableEq, Repr

namespace Diagnostic

/-- The warning for a candidate that fails a precondition. -/
def skipped (candidate : Candidate) (precondition : Precondition) : Diagnostic :=
  ⟨.warning, precondition.warning candidate.simpleName, candidate.location, none⟩

/-- The error for a candidate whose generation failed. -/
def failed (candidate : Candidate) (field : Option String) (message : String) : Diagnostic :=
  ⟨.error, message, (field.bind candidate.fieldLocation?).or candidate.location, field⟩

end Diagnostic

end Recordsmith
