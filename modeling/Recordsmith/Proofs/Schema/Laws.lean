import Recordsmith.Proofs.Schema.Partials
import Recordsmith.Schema.Builder

/-!
Laws of partials. Combining is associative and keeps what is set first, with the empty partial as
its unit, and reading a field turns it into the choice between two optional values. Building undoes
turning a record into a partial, for the records that lack no value.
-/

namespace Recordsmith

universe u v

variable {Kind : Type u} {Value : Kind → Type v} {schema : Schema Kind}

theorem first_of_assoc {Content : Type v} (first second third : Option Content) :
    firstOf (firstOf first second) third = firstOf first (firstOf second third) :=
  Option.or_assoc

theorem first_of_again {Content : Type v} (first second : Option Content) :
    firstOf (firstOf first second) first = firstOf first second := by
  cases first with
  | some content => rfl
  | none => cases second <;> rfl

/-! ## Combining -/

namespace Schema.Partial

/-- Reading a field after combining chooses between what the two partials have there. -/
theorem read_combined (first second : schema.Partial Value) (place : schema.Place) :
    (schema.accessor Value place).onPartial.get (first.combine second) =
      firstOf ((schema.accessor Value place).onPartial.get first)
        ((schema.accessor Value place).onPartial.get second) :=
  rfl

theorem combine_assoc (first second third : schema.Partial Value) :
    (first.combine second).combine third = first.combine (second.combine third) :=
  funext fun place => first_of_assoc (first place) (second place) (third place)

theorem empty_combine (content : schema.Partial Value) : empty.combine content = content :=
  funext fun place => Option.none_or (o := content place)

theorem combine_empty (content : schema.Partial Value) : content.combine empty = content :=
  funext fun place => Option.or_none (o := content place)

/-- What was combined already adds nothing. -/
theorem combine_again (first second : schema.Partial Value) :
    (first.combine second).combine first = first.combine second :=
  funext fun place => first_of_again (first place) (second place)

/-- Nothing is taken from a second partial when the first one is complete. -/
theorem combine_complete (first second : schema.Partial Value)
    (complete : first.isComplete = true) : first.combine second = first := by
  funext place
  obtain ⟨value, set⟩ := Option.isSome_iff_exists.mp ((is_complete_iff first).mp complete place)
  rw [combine, set]
  rfl

end Schema.Partial

/-! ## Building -/

namespace Slot

/-- Whether a record lacks the value of a field. -/
def IsMissing (slot : Slot Kind) (held : slot.Held Value) : Prop :=
  ∃ nullable, held = slot.missing nullable

/-- What a record holds is not set in the partial exactly if it is missing. -/
theorem lift_unset_iff (slot : Slot Kind) (held : slot.Held Value) :
    slot.lift held = none ↔ slot.IsMissing held := by
  obtain ⟨name, kind, isNullable⟩ := slot
  cases isNullable with
  | true =>
      constructor
      · intro unset
        exact ⟨rfl, unset⟩
      · rintro ⟨_, missing⟩
        exact missing
  | false =>
      constructor
      · intro unset
        cases unset
      · rintro ⟨nullable, _⟩
        cases nullable

end Slot

namespace Schema.Record

/-- Whether a record lacks the value of some field. -/
def LacksValue (record : schema.Record Value) : Prop :=
  ∃ place, (schema.slot place).IsMissing (record place)

theorem as_partial_complete_iff (record : schema.Record Value) :
    record.asPartial.isComplete = true ↔ ¬record.LacksValue := by
  rw [Schema.Partial.is_complete_iff, LacksValue, not_exists]
  apply forall_congr'
  intro place
  rw [← Slot.lift_unset_iff, Option.isSome_iff_ne_none]
  rfl

end Schema.Record

namespace Schema.Partial

/-- A partial builds a record exactly if it is complete and the record turns back into it. -/
theorem build_iff_turned_back (content : schema.Partial Value) (record : schema.Record Value) :
    content.build = some record ↔ content.isComplete = true ∧ record.asPartial = content := by
  rw [build_iff, is_complete_iff]
  constructor
  · intro values
    constructor
    · intro place
      obtain ⟨value, set, _⟩ := values place
      rw [set]
      rfl
    · funext place
      obtain ⟨value, set, held⟩ := values place
      rw [set]
      exact ((schema.slot place).lift_iff (record place) value).mpr held
  · rintro ⟨complete, rfl⟩ place
    obtain ⟨value, set⟩ := Option.isSome_iff_exists.mp (complete place)
    exact ⟨value, set, ((schema.slot place).lift_iff (record place) value).mp set⟩

/-- Complete partials that build the same record are the same. -/
theorem build_injective (first second : schema.Partial Value) (complete : first.isComplete = true)
    (same : first.build = second.build) : first = second := by
  rw [← build_is_some] at complete
  obtain ⟨record, built⟩ := Option.isSome_iff_exists.mp complete
  have builtToo := same.symm.trans built
  rw [build_iff_turned_back] at built builtToo
  exact built.2.symm.trans builtToo.2

end Schema.Partial

namespace Schema.Record

/-- A record that lacks no value is built from its own partial. -/
theorem rebuilt (record : schema.Record Value) (present : ¬record.LacksValue) :
    record.asPartial.build = some record :=
  (Schema.Partial.build_iff_turned_back record.asPartial record).mpr
    ⟨(as_partial_complete_iff record).mpr present, rfl⟩

/-- Nothing is built from the partial of a record that lacks a value. -/
theorem not_rebuilt (record : schema.Record Value) (lacks : record.LacksValue) :
    record.asPartial.build = none := by
  rw [← Option.isSome_eq_false_iff.trans Option.isNone_iff_eq_none,
    Schema.Partial.build_is_some, Bool.eq_false_iff]
  intro complete
  exact (as_partial_complete_iff record).mp complete lacks

end Schema.Record

end Recordsmith
