import Recordsmith.Schema.Accessor

/-!
Partials field by field: what replacing a value does at each place, when every field is set, and
which record is built then.
-/

namespace Recordsmith

universe u v

section

variable {Index : Type u} [DecidableEq Index] {Value : Index → Type v}

@[simp]
theorem replace_same (values : (index : Index) → Value index) (place : Index)
    (value : Value place) : replaceAt values place value place = value := by
  simp [replaceAt]

theorem replace_other (values : (index : Index) → Value index) (place other : Index)
    (different : place ≠ other) (value : Value place) :
    replaceAt values place value other = values other := by
  simp [replaceAt, different]

end

namespace Slot

variable {Kind : Type u} {Value : Kind → Type v}

/-- The missing value of a nullable field. -/
def missing : (slot : Slot Kind) → slot.isNullable = true → slot.Held Value
  | ⟨_, _, true⟩, _ => none

@[simp]
theorem lift_missing (slot : Slot Kind) (nullable : slot.isNullable = true) :
    slot.lift (slot.missing nullable : slot.Held Value) = none := by
  obtain ⟨name, kind, isNullable⟩ := slot
  cases nullable
  rfl

/-- A held value is lifted to a set one exactly if it is that value as a record holds it. -/
theorem lift_iff (slot : Slot Kind) (held : slot.Held Value) (value : Value slot.kind) :
    slot.lift held = some value ↔ held = slot.settle value := by
  obtain ⟨name, kind, isNullable⟩ := slot
  cases isNullable with
  | true => exact Iff.rfl
  | false => exact Option.some_inj

end Slot

namespace Schema.Partial

variable {Kind : Type u} {Value : Kind → Type v} {schema : Schema Kind}

theorem is_complete_iff (content : schema.Partial Value) :
    content.isComplete = true ↔ ∀ place, (content place).isSome = true := by
  simp [isComplete, places]

/-- A record is built exactly from the values that are set, one for every field. -/
theorem build_iff (content : schema.Partial Value) (record : schema.Record Value) :
    content.build = some record ↔ ∀ place, ∃ value, content place = some value ∧
      record place = (schema.slot place).settle value := by
  unfold build
  constructor
  · intro built place
    split at built
    · rename_i complete
      cases built
      exact ⟨(content place).get (complete place), (Option.some_get _).symm, rfl⟩
    · cases built
  · intro values
    have complete : ∀ place, (content place).isSome = true := by
      intro place
      obtain ⟨value, set, _⟩ := values place
      rw [set]
      rfl
    rw [dif_pos complete]
    congr 1
    funext place
    obtain ⟨value, set, held⟩ := values place
    rw [held]
    congr 1
    exact Option.get_of_eq_some _ set

theorem build_is_some (content : schema.Partial Value) :
    content.build.isSome = content.isComplete := by
  rw [Bool.eq_iff_iff, is_complete_iff]
  unfold build
  split
  · rename_i complete
    exact iff_of_true rfl complete
  · rename_i incomplete
    exact iff_of_false Bool.false_ne_true incomplete

end Schema.Partial

end Recordsmith
