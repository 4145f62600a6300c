import Recordsmith.Proofs.Generation.Calls

/-!
Batches in a collection. What a candidate adds does not depend on what is there already nor on the
other candidates, so a batch adds what its candidates add one by one, and the summary counts it.
-/

namespace Recordsmith

namespace Collection

/-- A collection with what came later. -/
def append (collection later : Collection) : Collection :=
  ⟨collection.artifacts ++ later.artifacts, collection.diagnostics ++ later.diagnostics⟩

theorem append_empty (collection : Collection) : collection.append empty = collection := by
  simp [append, empty]

theorem empty_append (collection : Collection) : empty.append collection = collection := rfl

theorem append_assoc (first second third : Collection) :
    (first.append second).append third = first.append (second.append third) := by
  simp [append]

/-- How many diagnostics of a severity there are. -/
def count (collection : Collection) (severity : Severity) : Nat :=
  collection.diagnostics.countP (·.severity = severity)

/-- The summary that the contents of a collection ask for. -/
def summary (collection : Collection) : Summary :=
  ⟨collection.artifacts.length, collection.count .warning, collection.count .error⟩

end Collection

namespace Summary

theorem empty_add (summary : Summary) : empty.add summary = summary := by
  simp [add, empty]

theorem add_assoc (first second third : Summary) :
    (first.add second).add third = first.add (second.add third) := by
  simp [add, Nat.add_assoc]

/-- All candidates counted. -/
def total (summary : Summary) : Nat := summary.generated + summary.skipped + summary.failed

end Summary

namespace Generation

/-- On any sink, a batch of two parts is the one part after the other. -/
theorem attempt_each_append {Store : Type} [Sink Store] (settings : Settings)
    (first second : List Candidate) (store : Store) :
    (attemptEach settings (first ++ second) store).store =
        (attemptEach settings second (attemptEach settings first store).store).store ∧
      (attemptEach settings (first ++ second) store).summary =
        (attemptEach settings first store).summary.add
          (attemptEach settings second (attemptEach settings first store).store).summary := by
  induction first generalizing store with
  | nil => exact ⟨rfl, (Summary.empty_add _).symm⟩
  | cons candidate rest induction =>
      obtain ⟨stored, counted⟩ := induction (attempt settings candidate store).store
      constructor
      · exact stored
      · rw [List.cons_append, attemptEach, attemptEach, counted, Summary.add_assoc]

/-! ## Whole batches -/

/-- What a candidate leaves in an empty collection when it is the only one of its batch. -/
def alone (settings : Settings) (candidate : Candidate) : Collection :=
  (processAll settings [candidate] Collection.empty).store

end Generation

end Recordsmith
