import Mathlib.Data.List.DropRight
import Recordsmith.Proofs.Schema.Partials
import Recordsmith.Schema.Builder
import Recordsmith.Schema.Samples

/-!
Runs of a builder. Every field goes its own way: the last step that names it decides, and where
that step leaves it without a value, the first partial merged afterwards that has one does.
-/

namespace Recordsmith

universe u v

variable {Kind : Type u} {Value : Kind → Type v} {schema : Schema Kind}

/-! ## What a step does to a field -/

namespace BuilderStep

/-- What a step leaves in the field that it names. Merging names no field. -/
def assigned? (place : schema.Place) :
    BuilderStep Value schema → Option ((schema.slot place).Stored Value)
  | .set other value =>
      if same : other = place then some (same ▸ (schema.slot other).lift value) else none
  | .unset other => if other = place then some none else none
  | .merge _ => none

/-- The value that a step has for a field if it is not set. -/
def offered? (place : schema.Place) : BuilderStep Value schema → (schema.slot place).Stored Value
  | .merge other => other place
  | _ => none

/-- Whether a step has anything to do with a field. -/
def concerns (place : schema.Place) (step : BuilderStep Value schema) : Bool :=
  (step.assigned? place).isSome || (step.offered? place).isSome

end BuilderStep

namespace Builder

/-- What steps make of a field that holds `start`: the last step that names the field decides, and
if it leaves no value, the first value merged afterwards does. -/
def outcome (place : schema.Place) (start : (schema.slot place).Stored Value)
    (steps : List (BuilderStep Value schema)) : (schema.slot place).Stored Value :=
  let decided := (steps.reverse.findSome? fun step => step.assigned? place).getD start
  let afterwards := steps.rtakeWhile fun step => (step.assigned? place).isNone
  decided.or (afterwards.findSome? fun step => step.offered? place)

theorem step_content (builder : Builder Value schema) (step : BuilderStep Value schema)
    (place : schema.Place) :
    (builder.step step).content place =
      (step.assigned? place).getD ((builder.content place).or (step.offered? place)) := by
  cases step with
  | set other value =>
      by_cases same : other = place
      · subst same
        simp [step, set, BuilderStep.assigned?, Schema.accessor, Lens.atPlace]
      · simp [step, set, BuilderStep.assigned?, BuilderStep.offered?, Schema.accessor,
          Lens.atPlace, same, replace_other _ _ _ same]
  | unset other =>
      by_cases same : other = place
      · subst same
        simp [step, unset, BuilderStep.assigned?, Schema.accessor, Lens.atPlace]
      · simp [step, unset, BuilderStep.assigned?, BuilderStep.offered?, Schema.accessor,
          Lens.atPlace, same, replace_other _ _ _ same]
  | merge other => rfl

theorem outcome_append (place : schema.Place) (start : (schema.slot place).Stored Value)
    (steps : List (BuilderStep Value schema)) (last : BuilderStep Value schema) :
    outcome place start (steps ++ [last]) =
      (last.assigned? place).getD ((outcome place start steps).or (last.offered? place)) := by
  unfold outcome
  cases assigned : last.assigned? place with
  | some stored => simp [assigned]
  | none =>
      -- A step that names another field is the last of those since the deciding one.
      have goesOn : (steps ++ [last]).rtakeWhile (fun step => (step.assigned? place).isNone) =
          steps.rtakeWhile (fun step => (step.assigned? place).isNone) ++ [last] :=
        List.rtakeWhile_concat_pos _ _ last (by rw [assigned]; rfl)
      dsimp only
      rw [goesOn, List.findSome?_append, List.findSome?_singleton, List.reverse_append,
        List.reverse_singleton, List.singleton_append, List.findSome?_cons, assigned]
      exact Option.or_assoc.symm

theorem run_append (builder : Builder Value schema) (steps : List (BuilderStep Value schema))
    (last : BuilderStep Value schema) :
    builder.run (steps ++ [last]) = (builder.run steps).step last := by
  rw [run, List.foldl_append]
  rfl

/-- A run leaves in every field what the steps make of it. -/
theorem run_content (builder : Builder Value schema) (steps : List (BuilderStep Value schema))
    (place : schema.Place) :
    (builder.run steps).content place = outcome place (builder.content place) steps := by
  induction steps using List.reverseRecOn with
  | nil => simp [run, outcome]
  | append_singleton steps last induction =>
      rw [run_append, step_content, outcome_append, induction]

/-! ## Steps of different fields -/

theorem outcome_concerned (place : schema.Place) (start : (schema.slot place).Stored Value)
    (steps : List (BuilderStep Value schema)) :
    outcome place start (steps.filter (·.concerns place)) = outcome place start steps := by
  induction steps using List.reverseRecOn with
  | nil => rfl
  | append_singleton steps last induction =>
      rw [List.filter_append, outcome_append, ← induction]
      cases concerned : last.concerns place with
      | true => rw [List.filter_cons_of_pos concerned, List.filter_nil, outcome_append]
      | false =>
          rw [List.filter_cons_of_neg (by simp [concerned]), List.filter_nil, List.append_nil]
          simp only [BuilderStep.concerns, Bool.or_eq_false_iff, Option.isSome_eq_false_iff,
            Option.isNone_iff_eq_none] at concerned
          rw [concerned.1, concerned.2, Option.getD_none]
          exact Option.or_none.symm

/-- Runs with the same steps for each field end alike, however the steps of different fields are
mixed. -/
theorem same_steps_same_run (builder : Builder Value schema)
    (first second : List (BuilderStep Value schema))
    (same : ∀ place, first.filter (·.concerns place) = second.filter (·.concerns place)) :
    builder.run first = builder.run second := by
  have contents : (builder.run first).content = (builder.run second).content := by
    funext place
    rw [run_content, run_content, ← outcome_concerned place _ first, same place,
      outcome_concerned]
  exact congrArg Builder.mk contents

theorem swap_steps (builder : Builder Value schema) (before after : List (BuilderStep Value schema))
    (first second : BuilderStep Value schema)
    (apart : ∀ place, first.concerns place = false ∨ second.concerns place = false) :
    builder.run (before ++ first :: second :: after) =
      builder.run (before ++ second :: first :: after) := by
  apply same_steps_same_run
  intro place
  rcases apart place with unconcerned | unconcerned <;>
    simp only [List.filter_append, List.filter_cons, unconcerned, Bool.false_eq_true, if_false]

theorem set_missing (builder : Builder Value schema) (place : schema.Place)
    (nullable : (schema.slot place).isNullable = true) :
    builder.set place ((schema.slot place).missing nullable) = builder.unset place := by
  unfold set unset
  simp only [Schema.accessor, Slot.lift_missing]

/-! ## Whole runs -/

/-- A run from any partial is decided field by field. Steps of different fields may change places,
setting a nullable field to its missing value clears it, and a record is built, from exactly the
values decided, if there is one for every field. -/
theorem runs_are_decided_by_field (builder : Builder Value schema)
    (steps : List (BuilderStep Value schema)) :
    (∀ place, (builder.run steps).content place =
      outcome place (builder.content place) steps) ∧
    (∀ others : List (BuilderStep Value schema),
      (∀ place, steps.filter (·.concerns place) = others.filter (·.concerns place)) →
        builder.run steps = builder.run others) ∧
    (∀ (before after : List (BuilderStep Value schema)) (first second : BuilderStep Value schema),
      (∀ place, first.concerns place = false ∨ second.concerns place = false) →
        builder.run (before ++ first :: second :: after) =
          builder.run (before ++ second :: first :: after)) ∧
    (∀ place nullable,
      builder.set place ((schema.slot place).missing nullable) = builder.unset place) ∧
    (∀ (place : schema.Place) (held : (schema.slot place).Held Value)
      (value : Value (schema.slot place).kind),
        (schema.slot place).lift held = some value ↔ held = (schema.slot place).settle value) ∧
    (∀ record, (builder.run steps).build = some record ↔
      ∀ place, ∃ value, outcome place (builder.content place) steps = some value ∧
        record place = (schema.slot place).settle value) ∧
    ((builder.run steps).build.isSome = true ↔
      ∀ place, (outcome place (builder.content place) steps).isSome = true) ∧
    ((builder.run steps).isComplete = true ↔
      ∀ place, (outcome place (builder.content place) steps).isSome = true) := by
  have contents : (builder.run steps).content =
      fun place => outcome place (builder.content place) steps :=
    funext (run_content builder steps)
  have complete : (builder.run steps).isComplete = true ↔
      ∀ place, (outcome place (builder.content place) steps).isSome = true := by
    rw [isComplete, contents, Schema.Partial.is_complete_iff]
  refine ⟨run_content builder steps, same_steps_same_run builder steps, swap_steps builder,
    set_missing builder, fun place => (schema.slot place).lift_iff, ?_, ?_, complete⟩
  · intro record
    rw [build, contents, Schema.Partial.build_iff]
  · rw [build, Schema.Partial.build_is_some]
    exact complete

/-- A text and a missing number are set in either order; the missing number leaves the record
incomplete. -/
theorem sample_settings_change_places :
    let text : Samples.test1.Place := ⟨0, by decide⟩
    let real : Samples.test1.Place := ⟨2, by decide⟩
    let setText : BuilderStep ValueKind.Value Samples.test1 := .set text "kept"
    let setReal : BuilderStep ValueKind.Value Samples.test1 := .set real none
    let builder : Builder ValueKind.Value Samples.test1 := empty
    builder.run [setText, setReal] = builder.run [setReal, setText] ∧
      builder.set real none = builder.unset real ∧
      (builder.run [setText, setReal]).isComplete = false := by
  intro text real setText setReal builder
  have decided := runs_are_decided_by_field builder [setText, setReal]
  have apart : ∀ place, setText.concerns place = false ∨ setReal.concerns place = false := by
    decide
  refine ⟨decided.2.2.1 [] [] _ _ apart, decided.2.2.2.1 real rfl, ?_⟩
  rw [Bool.eq_false_iff]
  intro complete
  have present := decided.2.2.2.2.2.2.2.mp complete real
  cases present

end Builder

end Recordsmith
