import Mathlib.Data.List.Forall2
import Recordsmith.Companion.Plan

/-!
Taking successful results apart: what has to have succeeded before a chain of checks did.
-/

namespace Recordsmith

theorem succeeds_ok {Error Value : Type} {result : Except Error Value}
    (succeeds : result.toOption.isSome = true) : ∃ value, result = .ok value := by
  cases result with
  | error reason => cases succeeds
  | ok value => exact ⟨value, rfl⟩

theorem bind_ok {Error Value Result : Type} {first : Except Error Value}
    {next : Value → Except Error Result} {result : Result}
    (succeeded : (first >>= next) = .ok result) :
    ∃ value, first = .ok value ∧ next value = .ok result := by
  cases first with
  | error reason => cases succeeded
  | ok value => exact ⟨value, rfl, succeeded⟩

/-- A chain fails with its first step or behind it. -/
theorem bind_error {Error Value Result : Type} {first : Except Error Value}
    {next : Value → Except Error Result} {error : Error}
    (failed : (first >>= next) = .error error) :
    first = .error error ∨ ∃ value, first = .ok value ∧ next value = .error error := by
  cases first with
  | error reason =>
      cases failed
      exact .inl rfl
  | ok value => exact .inr ⟨value, rfl, failed⟩

theorem bind_ok_iff {Error Value Result : Type} {first : Except Error Value}
    {next : Value → Except Error Result} {result : Result} :
    (first >>= next) = .ok result ↔ ∃ value, first = .ok value ∧ next value = .ok result := by
  refine ⟨bind_ok, ?_⟩
  rintro ⟨value, rfl, succeeded⟩
  exact succeeded

theorem bind_error_iff {Error Value Result : Type} {first : Except Error Value}
    {next : Value → Except Error Result} {error : Error} :
    (first >>= next) = .error error ↔
      first = .error error ∨ ∃ value, first = .ok value ∧ next value = .error error := by
  refine ⟨bind_error, ?_⟩
  rintro (rfl | ⟨value, rfl, failed⟩)
  · rfl
  · exact failed

theorem under_ok_iff {Result : Type} {outcome : Outcome Result} {fault : Fault} {result : Result} :
    outcome.under fault = .ok result ↔ outcome = .ok result := by
  cases outcome with
  | error report => exact ⟨nofun, nofun⟩
  | ok value => exact Iff.rfl

theorem under_error_iff {Result : Type} {outcome : Outcome Result} {fault : Fault}
    {report : Report} :
    outcome.under fault = .error report ↔
      ∃ cause, outcome = .error cause ∧ report = cause.under fault := by
  cases outcome with
  | error cause => simp [Outcome.under, eq_comm]
  | ok value => simp [Outcome.under]

/-- A check goes through on a list when it does so on every element. -/
theorem collect_ok_iff {Element Result : Type} {check : Element → Outcome Result}
    {elements : List Element} {results : List Result} :
    Outcome.collect check elements = .ok results ↔
      List.Forall₂ (fun element result => check element = .ok result) elements results := by
  induction elements generalizing results with
  | nil =>
      rw [Outcome.collect, List.forall₂_nil_left_iff, Except.ok.injEq, eq_comm]
  | cons first rest induction =>
      rw [Outcome.collect, bind_ok_iff, List.forall₂_cons_left_iff]
      constructor
      · rintro ⟨value, checked, succeeded⟩
        obtain ⟨values, others, whole⟩ := bind_ok succeeded
        cases whole
        exact ⟨value, values, checked, induction.mp others, rfl⟩
      · rintro ⟨value, values, checked, others, rfl⟩
        exact ⟨value, checked, bind_ok_iff.mpr ⟨values, induction.mpr others, rfl⟩⟩

end Recordsmith
