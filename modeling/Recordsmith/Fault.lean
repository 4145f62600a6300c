/-!
What can go wrong. A fault names its cause; a report is a fault with the faults it was raised
on top of, and notes that are not part of its description.
-/

namespace Recordsmith

/-- What a rejected identifier was for. -/
inductive NameRole where
  | typeOrField
  | visibility
  | runtimePath
  | named (role : String)
  deriving DecidableEq, Repr

/-- The words for a role. -/
def NameRole.text : NameRole → String
  | .typeOrField => "type or field"
  | .visibility => "visibility"
  | .runtimePath => "runtime crate path"
  | .named role => role

/-- How a described record contradicts itself. -/
inductive Violation where
  | absentFieldList (record : String)
  | nameMismatch (qualifiedName scopedName : String)
  | repeatedField (field record : String)
  | stated (details : String)
  deriving DecidableEq, Repr

/-- The words for a violation. -/
def Violation.text : Violation → String
  | .absentFieldList record => "record `" ++ record ++ "` has no primary field list"
  | .nameMismatch qualifiedName scopedName =>
      "`" ++ qualifiedName ++ "` does not end with `" ++ scopedName ++ "`"
  | .repeatedField field record => "field `" ++ field ++ "` is declared twice in `" ++ record ++ "`"
  | .stated details => details

/-- What was being done to a file. -/
inductive FileAction where
  | createDirectory
  | write
  | named (action : String)
  deriving DecidableEq, Repr

/-- The words for a file action. -/
def FileAction.text : FileAction → String
  | .createDirectory => "create directory"
  | .write => "write"
  | .named action => action

/-- A fault, by its cause. -/
inductive Fault where
  | malformedType (text : String) (offset : Nat)
  | invalidField (record field : String)
  | invalidIdentifier (role : NameRole) (name : String)
  | invariantViolated (violation : Violation)
  | fileOperation (action : FileAction) (path cause : String)
  deriving DecidableEq, Repr

namespace Fault

/-- The words for a fault. -/
def message : Fault → String
  | .malformedType text offset =>
      "Malformed type expression '" ++ text ++ "' at offset " ++ toString offset
  | .invalidField record field => "Invalid field `" ++ field ++ "` of record `" ++ record ++ "`"
  | .invalidIdentifier role name => "Invalid " ++ role.text ++ " identifier: `" ++ name ++ "`"
  | .invariantViolated violation => "Invariant violated: " ++ violation.text
  | .fileOperation action path cause =>
      "File operation failed: Failed to " ++ action.text ++ " " ++ path ++ ": " ++ cause

/-- The field that a fault points at. -/
def field? : Fault → Option String
  | .invalidField _ field => some field
  | _ => none

end Fault

/-- A fault with the faults below it, the nearest first, and notes on where it came from. -/
structure Report where
  fault : Fault
  causes : List Fault
  notes : List String
  deriving DecidableEq, Repr

namespace Report

/-- A report of a single fault. -/
def ofFault (fault : Fault) : Report := ⟨fault, [], []⟩

/-- The report with one more note. -/
def withNote (report : Report) (note : String) : Report :=
  { report with notes := report.notes ++ [note] }

/-- The report as the cause of another fault. -/
def under (report : Report) (fault : Fault) : Report :=
  { report with fault, causes := report.fault :: report.causes }

/-- All faults of the report, outermost first. -/
def faults (report : Report) : List Fault := report.fault :: report.causes

/-- The words for all faults, outermost first; notes are left out. -/
def describe (report : Report) : String :=
  String.intercalate ": " (report.faults.map Fault.message)

end Report

/-- A result or a report. -/
abbrev Outcome (Value : Type) := Except Report Value

/-- A failed result is put under a fault. -/
def Outcome.under {Value : Type} (outcome : Outcome Value) (fault : Fault) : Outcome Value :=
  match outcome with
  | .ok value => .ok value
  | .error report => .error (report.under fault)

end Recordsmith
