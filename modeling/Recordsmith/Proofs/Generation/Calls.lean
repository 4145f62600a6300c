import Recordsmith.Generation.Batch
import Recordsmith.Proofs.Outcome

/-!
What a sink is asked to do. Work on a candidate reaches a sink only through its two calls, so a
sink that keeps a list of them shows what the work does to any sink.
-/

namespace Recordsmith

/-- Something that a sink was given. -/
inductive SinkCall where
  | emitted (artifact : Artifact)
  | reported (diagnostic : Diagnostic)

/-- A sink with everything that it was given, in order. -/
structure Watched (Store : Type) where
  store : Store
  calls : List SinkCall

instance {Store : Type} [Sink Store] : Sink (Watched Store) where
  emit artifact watched :=
    let emission := Sink.emit artifact watched.store
    ⟨⟨emission.store, watched.calls ++ [.emitted artifact]⟩, emission.outcome, emission.events⟩
  report diagnostic watched :=
    ⟨Sink.report diagnostic watched.store, watched.calls ++ [.reported diagnostic]⟩

/-- The artifact for a candidate that meets the preconditions. -/
def Candidate.artifact (candidate : Candidate) (settings : Settings) : Outcome Artifact := do
  let record ← candidate.describe
  record.synthesize settings

namespace Generation

section

variable {Store : Type} [Sink Store] (settings : Settings) (candidate : Candidate) (store : Store)

theorem process_skipped (precondition : Precondition)
    (unmet : candidate.unmet? = some precondition) :
    process settings candidate store = skip candidate precondition store := by
  rw [process, unmet]

/-- Failing before there is an artifact leaves the sink alone. -/
theorem process_failed (report : Report) (met : candidate.unmet? = none)
    (failed : candidate.artifact settings = .error report) :
    (process settings candidate store).store = store ∧
      (process settings candidate store).outcome = .error report := by
  rw [process, met]
  cases described : candidate.describe with
  | error reason =>
      rw [Candidate.artifact, described] at failed
      cases failed
      exact ⟨rfl, rfl⟩
  | ok record =>
      rw [Candidate.artifact, described] at failed
      have stopped : record.synthesize settings = .error report := failed
      dsimp only
      rw [stopped]
      exact ⟨rfl, rfl⟩

theorem process_handed (artifact : Artifact) (met : candidate.unmet? = none)
    (made : candidate.artifact settings = .ok artifact) :
    (process settings candidate store).store = (Sink.emit artifact store).store ∧
      (process settings candidate store).outcome =
        (Sink.emit artifact store).outcome.map fun _ => .generated artifact.partialName := by
  rw [process, met]
  cases described : candidate.describe with
  | error reason =>
      rw [Candidate.artifact, described] at made
      cases made
  | ok record =>
      rw [Candidate.artifact, described] at made
      have synthesized : record.synthesize settings = .ok artifact := made
      dsimp only
      rw [synthesized]
      exact ⟨rfl, rfl⟩

/-- What has to have happened for a candidate to count as generated. -/
theorem process_generated (partialName : String)
    (generated : (process settings candidate store).outcome = .ok (.generated partialName)) :
    ∃ record artifact, candidate.describe = .ok record ∧
      record.synthesize settings = .ok artifact ∧ (Sink.emit artifact store).outcome = .ok () ∧
      (process settings candidate store).store = (Sink.emit artifact store).store := by
  cases unmet : candidate.unmet? with
  | some precondition =>
      rw [process_skipped _ _ _ _ unmet] at generated
      cases generated
  | none =>
      cases made : candidate.artifact settings with
      | error report =>
          rw [(process_failed _ _ _ _ unmet made).2] at generated
          cases generated
      | ok artifact =>
          obtain ⟨given, handed⟩ := process_handed _ _ store _ unmet made
          obtain ⟨record, described, synthesized⟩ := bind_ok made
          refine ⟨record, artifact, described, synthesized, ?_, given⟩
          rw [handed] at generated
          cases taken : (Sink.emit artifact store).outcome with
          | error report =>
              rw [taken] at generated
              cases generated
          | ok done => rfl

end

/-- What work on a candidate gives to a sink: a warning when a precondition fails, otherwise the
artifact if there is one. -/
def calls (settings : Settings) (candidate : Candidate) : List SinkCall :=
  match candidate.unmet? with
  | some precondition => [.reported (Diagnostic.skipped candidate precondition)]
  | none =>
      match candidate.artifact settings with
      | .ok artifact => [.emitted artifact]
      | .error _ => []

variable {Store : Type} [Sink Store]

/-- Watching a sink changes nothing but the list of its calls. -/
theorem process_watched (settings : Settings) (candidate : Candidate) (watched : Watched Store) :
    (process settings candidate watched).store =
        ⟨(process settings candidate watched.store).store,
          watched.calls ++ calls settings candidate⟩ ∧
      (process settings candidate watched).outcome =
        (process settings candidate watched.store).outcome := by
  cases unmet : candidate.unmet? with
  | some precondition =>
      rw [process_skipped _ _ _ _ unmet, process_skipped _ _ _ _ unmet, calls, unmet]
      exact ⟨rfl, rfl⟩
  | none =>
      cases made : candidate.artifact settings with
      | error report =>
          obtain ⟨kept, failed⟩ := process_failed settings candidate watched report unmet made
          obtain ⟨keptBelow, failedBelow⟩ :=
            process_failed settings candidate watched.store report unmet made
          rw [kept, failed, keptBelow, failedBelow, calls, unmet]
          simp [made]
      | ok artifact =>
          obtain ⟨given, handed⟩ := process_handed settings candidate watched artifact unmet made
          obtain ⟨givenBelow, handedBelow⟩ :=
            process_handed settings candidate watched.store artifact unmet made
          rw [given, handed, givenBelow, handedBelow, calls, unmet]
          simp only [made]
          exact ⟨rfl, rfl⟩

/-- A sink is given an artifact when there is one for the candidate and no precondition fails. -/
theorem emitted_iff (settings : Settings) (candidate : Candidate) (store : Store)
    (artifact : Artifact) :
    .emitted artifact ∈ (process settings candidate (⟨store, []⟩ : Watched Store)).store.calls ↔
      candidate.unmet? = none ∧ candidate.artifact settings = .ok artifact := by
  rw [(process_watched settings candidate ⟨store, []⟩).1, List.nil_append, calls]
  cases candidate.unmet? with
  | some precondition => simp
  | none => cases candidate.artifact settings <;> simp [eq_comm]

end Generation

end Recordsmith
