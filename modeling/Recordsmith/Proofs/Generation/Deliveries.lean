import Recordsmith.Proofs.Generation.Calls

/-!
Runs of steps on one sink. A step works on a single candidate or on a batch, and what a whole run
does comes down to the two calls of a sink: what both calls keep, a run keeps, and where a sink is
a view of another one call by call, it is so after every run. A sink that keeps what it took shows
in that way which artifacts any sink took in a run.
-/

namespace Recordsmith

/-- A step of work on a sink, with the settings in force. -/
inductive Step where
  | single (settings : Settings) (candidate : Candidate)
  | batch (settings : Settings) (candidates : List Candidate)

/-- A sink with the artifacts that it took, in order. -/
structure Stocked (Store : Type) where
  store : Store
  taken : List Artifact

instance {Store : Type} [Sink Store] : Sink (Stocked Store) where
  emit artifact stocked :=
    let emission := Sink.emit artifact stocked.store
    let added := match emission.outcome with
      | .ok _ => [artifact]
      | .error _ => []
    ⟨⟨emission.store, stocked.taken ++ added⟩, emission.outcome, emission.events⟩
  report diagnostic stocked := ⟨Sink.report diagnostic stocked.store, stocked.taken⟩

namespace Stocked

variable {Store : Type} [Sink Store] {artifact : Artifact} {stocked : Stocked Store}

theorem emit_accepted (accepted : (Sink.emit artifact stocked.store).outcome = .ok ()) :
    (Sink.emit artifact stocked).store =
      ⟨(Sink.emit artifact stocked.store).store, stocked.taken ++ [artifact]⟩ := by
  simp only [Sink.emit] at accepted ⊢
  rw [accepted]

theorem emit_refused {report : Report}
    (refused : (Sink.emit artifact stocked.store).outcome = .error report) :
    (Sink.emit artifact stocked).store =
      ⟨(Sink.emit artifact stocked.store).store, stocked.taken⟩ := by
  simp only [Sink.emit] at refused ⊢
  rw [refused]
  simp

end Stocked

namespace Generation

section

variable {Store : Type} [Sink Store]

/-- A sink after a step. -/
def step (store : Store) : Step → Store
  | .single settings candidate => (process settings candidate store).store
  | .batch settings candidates => (processAll settings candidates store).store

/-- A sink after steps, one after another. -/
def run (steps : List Step) (store : Store) : Store := steps.foldl step store

/-- The artifacts that a sink takes in a run. -/
def taken (steps : List Step) (store : Store) : List Artifact :=
  (run steps (⟨store, []⟩ : Stocked Store)).taken

end

/-! ## What every call keeps -/

section

variable {Store : Type} [Sink Store]

/-- A property of a sink that no call on it loses. -/
structure IsKept (Holds : Store → Prop) : Prop where
  emit : ∀ artifact store, Holds store → Holds (Sink.emit artifact store).store
  report : ∀ diagnostic store, Holds store → Holds (Sink.report diagnostic store)

variable {Holds : Store → Prop} (kept : IsKept Holds)

include kept

theorem process_kept (settings : Settings) (candidate : Candidate) (store : Store)
    (holds : Holds store) : Holds (process settings candidate store).store := by
  cases unmet : candidate.unmet? with
  | some precondition =>
      rw [process_skipped _ _ _ _ unmet]
      exact kept.report _ _ holds
  | none =>
      cases made : candidate.artifact settings with
      | error report =>
          rw [(process_failed _ _ _ _ unmet made).1]
          exact holds
      | ok artifact =>
          rw [(process_handed _ _ _ _ unmet made).1]
          exact kept.emit _ _ holds

theorem attempt_kept (settings : Settings) (candidate : Candidate) (store : Store)
    (holds : Holds store) : Holds (attempt settings candidate store).store := by
  have worked := process_kept kept settings candidate store holds
  unfold attempt
  dsimp only
  split
  · exact worked
  · exact worked
  · exact kept.report _ _ worked

theorem attempt_each_kept (settings : Settings) (candidates : List Candidate) (store : Store)
    (holds : Holds store) : Holds (attemptEach settings candidates store).store := by
  induction candidates generalizing store with
  | nil => exact holds
  | cons candidate rest induction =>
      exact induction _ (attempt_kept kept settings candidate store holds)

theorem step_kept (store : Store) (done : Step) (holds : Holds store) :
    Holds (step store done) := by
  cases done with
  | single settings candidate => exact process_kept kept settings candidate store holds
  | batch settings candidates => exact attempt_each_kept kept settings candidates store holds

/-- What both calls of a sink keep, every run keeps. -/
theorem run_kept (steps : List Step) (store : Store) (holds : Holds store) :
    Holds (run steps store) := by
  induction steps generalizing store with
  | nil => exact holds
  | cons first rest induction => exact induction _ (step_kept kept store first holds)

end

/-! ## Views of a sink -/

section

variable {Store Seen : Type} [Sink Store] [Sink Seen]

/-- A sink seen as another one, with which it agrees on every call. -/
structure IsView (view : Store → Seen) : Prop where
  emit : ∀ artifact store,
    view (Sink.emit artifact store).store = (Sink.emit artifact (view store)).store
  outcome : ∀ artifact store,
    (Sink.emit artifact store).outcome = (Sink.emit artifact (view store)).outcome
  report : ∀ diagnostic store,
    view (Sink.report diagnostic store) = Sink.report diagnostic (view store)

variable {view : Store → Seen} (isView : IsView view)

include isView

theorem process_view (settings : Settings) (candidate : Candidate) (store : Store) :
    view (process settings candidate store).store =
        (process settings candidate (view store)).store ∧
      (process settings candidate store).outcome =
        (process settings candidate (view store)).outcome := by
  cases unmet : candidate.unmet? with
  | some precondition =>
      rw [process_skipped _ _ _ _ unmet, process_skipped _ _ _ _ unmet]
      exact ⟨isView.report _ _, rfl⟩
  | none =>
      cases made : candidate.artifact settings with
      | error report =>
          obtain ⟨stored, failed⟩ := process_failed _ _ store _ unmet made
          obtain ⟨storedSeen, failedSeen⟩ := process_failed _ _ (view store) _ unmet made
          rw [stored, storedSeen, failed, failedSeen]
          exact ⟨rfl, rfl⟩
      | ok artifact =>
          obtain ⟨stored, handed⟩ := process_handed _ _ store _ unmet made
          obtain ⟨storedSeen, handedSeen⟩ := process_handed _ _ (view store) _ unmet made
          rw [stored, storedSeen, handed, handedSeen, isView.outcome]
          exact ⟨isView.emit _ _, rfl⟩

theorem attempt_view (settings : Settings) (candidate : Candidate) (store : Store) :
    view (attempt settings candidate store).store =
      (attempt settings candidate (view store)).store := by
  obtain ⟨stored, decided⟩ := process_view isView settings candidate store
  rw [attempt, attempt, ← decided, ← stored]
  split
  · rfl
  · rfl
  · exact isView.report _ _

theorem attempt_each_view (settings : Settings) (candidates : List Candidate) (store : Store) :
    view (attemptEach settings candidates store).store =
      (attemptEach settings candidates (view store)).store := by
  induction candidates generalizing store with
  | nil => rfl
  | cons candidate rest induction =>
      rw [attemptEach, attemptEach, induction, attempt_view isView]

theorem step_view (store : Store) (done : Step) :
    view (step store done) = step (view store) done := by
  cases done with
  | single settings candidate => exact (process_view isView settings candidate store).1
  | batch settings candidates => exact attempt_each_view isView settings candidates store

/-- A sink that is a view of another one is so after every run. -/
theorem run_view (steps : List Step) (store : Store) :
    view (run steps store) = run steps (view store) := by
  induction steps generalizing store with
  | nil => rfl
  | cons first rest induction =>
      rw [run, run, List.foldl_cons, List.foldl_cons, ← step_view isView]
      exact induction _

end

theorem stocked_view {Store : Type} [Sink Store] :
    IsView (Stocked.store : Stocked Store → Store) :=
  ⟨fun _ _ => rfl, fun _ _ => rfl, fun _ _ => rfl⟩

end Generation

end Recordsmith
