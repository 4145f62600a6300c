import Recordsmith.Proofs.Generation.Batches
import Recordsmith.Proofs.Record.Describing

/-!
The log of a batch. Every candidate tells its own part of it, in full for what was generated and up
to the step that failed otherwise, and the summary comes last. So the warnings and errors of the log
are those of the collection, and every artifact there has its line.
-/

namespace Recordsmith

/-- A line of a log: what is seen of an event. -/
structure LogLine where
  level : EventLevel
  message : String
  details : List (String × EventDetail)

/-- The line of an event. -/
def Event.line (event : Event) : LogLine := ⟨event.level, event.message, event.details⟩

namespace LogLine

/-- Tells of a record with its number of fields. -/
def ofRecord (record : RecordDescriptor) (fieldCount : Nat) : LogLine :=
  ⟨.debug, "Built record descriptor",
    [("record", .text record.name), ("package", .text record.package),
      ("scope", .text record.scope), ("field_count", .count fieldCount)]⟩

/-- Tells that an artifact goes to the sink. -/
def ofArtifact (artifact : Artifact) : LogLine :=
  ⟨.debug, "Emitting artifact",
    [("record", .text artifact.recordName), ("target", .text artifact.targetFile)]⟩

/-- Tells how a batch went. -/
def ofSummary (summary : Summary) : LogLine :=
  ⟨.debug, "Processed candidates",
    [("generated", .count summary.generated), ("skipped", .count summary.skipped),
      ("failed", .count summary.failed)]⟩

/-- The severity and the text of a line that is a warning or an error. -/
def diagnosis? (line : LogLine) : Option (Severity × String) :=
  match line.level with
  | .debug => none
  | .warning => some (.warning, line.message)
  | .error => some (.error, line.message)

/-- Whether a line tells of an artifact on its way to the sink. -/
def isEmission (line : LogLine) : Bool :=
  line.level = .debug && line.message == "Emitting artifact"

end LogLine

namespace Generation

/-- The warnings and errors among the lines are the diagnostics of the collection, and the lines
about artifacts are about its artifacts. -/
structure Mirrors (lines : List LogLine) (collection : Collection) : Prop where
  diagnoses : lines.filterMap LogLine.diagnosis? =
    collection.diagnostics.map fun diagnostic => (diagnostic.severity, diagnostic.message)
  emissions : lines.filter LogLine.isEmission = collection.artifacts.map LogLine.ofArtifact

theorem Mirrors.append {first second : List LogLine} {before after : Collection}
    (mirrorsFirst : Mirrors first before) (mirrorsSecond : Mirrors second after) :
    Mirrors (first ++ second) (before.append after) where
  diagnoses := by
    rw [List.filterMap_append, mirrorsFirst.diagnoses, mirrorsSecond.diagnoses, ← List.map_append]
    rfl
  emissions := by
    rw [List.filter_append, mirrorsFirst.emissions, mirrorsSecond.emissions, ← List.map_append]
    rfl

end Generation

end Recordsmith
