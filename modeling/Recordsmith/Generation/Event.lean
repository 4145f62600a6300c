import Recordsmith.Companion.Declarations
import Recordsmith.Record.Candidate

/-!
Events: what a run of generation tells about itself, in the order in which it happened. Every
event has a level, a message and details with names of their own.
-/

namespace Recordsmith

/-- How many candidates of a batch ended in which way. -/
structure Summary where
  generated : Nat
  skipped : Nat
  failed : Nat
  deriving DecidableEq, Repr

/-- An empty batch. -/
def Summary.empty : Summary := ⟨0, 0, 0⟩

/-- The counts of two batches together. -/
def Summary.add (left right : Summary) : Summary :=
  ⟨left.generated + right.generated, left.skipped + right.skipped, left.failed + right.failed⟩

/-- Something that happened. -/
inductive Event where
  /-- A candidate was described as a record. -/
  | recordDescribed (record package scope : String) (fieldCount : Nat)
  /-- A declaration of a record was made. -/
  | declarationMade (record : String) (kind : DeclarationKind)
  /-- An artifact is about to be given to the sink. -/
  | artifactReady (record target : String)
  /-- A file was written. -/
  | fileWritten (path : String)
  /-- A candidate failed a precondition. -/
  | candidateSkipped (record : String) (precondition : Precondition) (warning : String)
  /-- A candidate of a batch failed. -/
  | candidateFailed (record description : String)
  /-- A batch is finished. -/
  | batchFinished (summary : Summary)
  deriving DecidableEq, Repr

/-- How important an event is. -/
inductive EventLevel where
  | debug
  | warning
  | error
  deriving DecidableEq, Repr

/-- The name of a level. -/
def EventLevel.label : EventLevel → String
  | .debug => "DEBUG"
  | .warning => "WARN"
  | .error => "ERROR"

/-- A detail of an event. -/
inductive EventDetail where
  | text (value : String)
  | count (value : Nat)
  deriving DecidableEq, Repr

namespace Event

/-- The level of an event. -/
def level : Event → EventLevel
  | .candidateSkipped .. => .warning
  | .candidateFailed .. => .error
  | _ => .debug

/-- The message of an event. -/
def message : Event → String
  | .recordDescribed .. => "Built record descriptor"
  | .declarationMade .. => "Synthesized declaration"
  | .artifactReady .. => "Emitting artifact"
  | .fileWritten _ => "Wrote generated source"
  | .candidateSkipped _ _ warning => warning
  | .candidateFailed _ description => description
  | .batchFinished _ => "Processed candidates"

/-- The details of an event. -/
def details : Event → List (String × EventDetail)
  | .recordDescribed record package scope fieldCount =>
      [("record", .text record), ("package", .text package), ("scope", .text scope),
        ("field_count", .count fieldCount)]
  | .declarationMade record kind => [("record", .text record), ("kind", .text kind.label)]
  | .artifactReady record target => [("record", .text record), ("target", .text target)]
  | .fileWritten path => [("path", .text path)]
  | .candidateSkipped record precondition _ =>
      [("record", .text record), ("reason", .text precondition.label)]
  | .candidateFailed record _ => [("record", .text record)]
  | .batchFinished summary =>
      [("generated", .count summary.generated), ("skipped", .count summary.skipped),
        ("failed", .count summary.failed)]

end Event

end Recordsmith
