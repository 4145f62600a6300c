import Recordsmith.Generation.Sink
import Recordsmith.Record.Describe

/-!
Working on candidates. One candidate is checked, described, given its companions, and handed to
a sink; each step runs only when those before it succeeded, and a failed precondition ends the
work with a warning. In a batch a failure becomes a diagnostic, and the next candidate is worked
on as if nothing had happened.
-/

namespace Recordsmith

/-- What became of a candidate that did not fail. -/
inductive Verdict where
  | generated (partialName : String)
  | skipped (precondition : Precondition)
  deriving DecidableEq, Repr

/-- The work on one candidate. -/
structure Processed (Store : Type) where
  store : Store
  outcome : Outcome Verdict
  events : List Event

/-- The work on several candidates. -/
structure Batch (Store : Type) where
  store : Store
  summary : Summary
  events : List Event

namespace Generation

/-- The event for a described record. -/
def describedEvent (record : RecordDescriptor) : Event :=
  .recordDescribed record.name record.package record.scope record.fields.length

/-- The events for an artifact up to handing it over. -/
def artifactEvents (artifact : Artifact) : List Event :=
  artifact.declarations.map (fun declaration =>
    .declarationMade artifact.recordName declaration.kind) ++
    [.artifactReady artifact.recordName artifact.targetFile]

variable {Store : Type} [Sink Store]

/-- Leaves a candidate out, with a warning. -/
def skip (candidate : Candidate) (precondition : Precondition) (store : Store) :
    Processed Store :=
  let diagnostic := Diagnostic.skipped candidate precondition
  ⟨Sink.report diagnostic store, .ok (.skipped precondition),
    [.candidateSkipped candidate.qualifiedName precondition diagnostic.message]⟩

/-- Hands an artifact to the sink. -/
def handOver (artifact : Artifact) (store : Store) : Processed Store :=
  let emission := Sink.emit artifact store
  ⟨emission.store, emission.outcome.map fun _ => .generated artifact.partialName,
    artifactEvents artifact ++ emission.events⟩

/-- Works on one candidate. -/
def process (settings : Settings) (candidate : Candidate) (store : Store) : Processed Store :=
  match candidate.unmet? with
  | some precondition => skip candidate precondition store
  | none =>
      match candidate.describe with
      | .error report => ⟨store, .error report, []⟩
      | .ok record =>
          match record.synthesize settings with
          | .error report => ⟨store, .error report, [describedEvent record]⟩
          | .ok artifact =>
              let processed := handOver artifact store
              { processed with events := describedEvent record :: processed.events }

/-- Works on one candidate of a batch: a failure is reported to the sink. -/
def attempt (settings : Settings) (candidate : Candidate) (store : Store) : Batch Store :=
  let processed := process settings candidate store
  match processed.outcome with
  | .ok (.generated _) => ⟨processed.store, ⟨1, 0, 0⟩, processed.events⟩
  | .ok (.skipped _) => ⟨processed.store, ⟨0, 1, 0⟩, processed.events⟩
  | .error report =>
      ⟨Sink.report (Diagnostic.failed candidate report.fault.field? report.describe)
          processed.store,
        ⟨0, 0, 1⟩,
        processed.events ++ [.candidateFailed candidate.qualifiedName report.describe]⟩

/-- Works on candidates one after another. -/
def attemptEach (settings : Settings) : List Candidate → Store → Batch Store
  | [], store => ⟨store, Summary.empty, []⟩
  | candidate :: rest, store =>
      let first := attempt settings candidate store
      let others := attemptEach settings rest first.store
      ⟨others.store, first.summary.add others.summary, first.events ++ others.events⟩

/-- Works on a batch, and tells at its end how it went. -/
def processAll (settings : Settings) (candidates : List Candidate) (store : Store) :
    Batch Store :=
  let batch := attemptEach settings candidates store
  { batch with events := batch.events ++ [.batchFinished batch.summary] }

end Generation

end Recordsmith
