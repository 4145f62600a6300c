import Recordsmith.Proofs.Schema.Laws

/-!
Many partials in one. Gathering is a fold over the monoid of partials, so a list may be gathered in
pieces, and partials without any value do not count. At each field the first partial that has a
value there decides.
-/

namespace Recordsmith.Schema.Partial

universe u v

variable {Kind : Type u} {Value : Kind → Type v} {schema : Schema Kind}

/-- Whether no field has a value. -/
def isUnset (content : schema.Partial Value) : Bool :=
  schema.places.all fun place => (content place).isNone

theorem is_unset_iff (content : schema.Partial Value) : content.isUnset = true ↔ content = empty := by
  rw [funext_iff]
  simp [isUnset, places, empty]

/-- The first of the partials with a value at a place has this one there. -/
def IsFirstValue (contents : List (schema.Partial Value)) (place : schema.Place)
    (value : Value (schema.slot place).kind) : Prop :=
  ∃ before content after, contents = before ++ content :: after ∧ content place = some value ∧
    ∀ earlier ∈ before, earlier place = none

theorem fold_combine (start : schema.Partial Value) (contents : List (schema.Partial Value)) :
    contents.foldl combine start = start.combine (gather contents) := by
  unfold gather
  induction contents generalizing start with
  | nil => exact start.combine_empty.symm
  | cons content rest induction =>
      rw [List.foldl_cons, List.foldl_cons, induction, induction (empty.combine content),
        empty_combine, combine_assoc]

theorem gather_cons (content : schema.Partial Value) (rest : List (schema.Partial Value)) :
    gather (content :: rest) = content.combine (gather rest) := by
  rw [gather, List.foldl_cons, fold_combine, empty_combine]

/-- Partials may be gathered in two pieces. -/
theorem gather_append (first second : List (schema.Partial Value)) :
    gather (first ++ second) = (gather first).combine (gather second) := by
  rw [gather, List.foldl_append, fold_combine]
  rfl

/-- Gathering finds the first value of every field. -/
theorem gather_place (contents : List (schema.Partial Value)) (place : schema.Place) :
    gather contents place = contents.findSome? fun content => content place := by
  induction contents with
  | nil => rfl
  | cons content rest induction =>
      rw [gather_cons, combine, induction, List.findSome?_cons, firstOf]
      cases content place <;> rfl

theorem gathered_iff (contents : List (schema.Partial Value)) (place : schema.Place)
    (value : Value (schema.slot place).kind) :
    gather contents place = some value ↔ IsFirstValue contents place value := by
  rw [gather_place, List.findSome?_eq_some_iff]
  rfl

theorem gathered_set_iff (contents : List (schema.Partial Value)) (place : schema.Place) :
    (gather contents place).isSome = true ↔
      ∃ content ∈ contents, (content place).isSome = true := by
  rw [gather_place, List.findSome?_isSome_iff]

/-- Partials without any value do not count. -/
theorem gather_set_only (contents : List (schema.Partial Value)) :
    gather (contents.filter fun content => !content.isUnset) = gather contents := by
  induction contents with
  | nil => rfl
  | cons content rest induction =>
      cases unset : content.isUnset with
      | true =>
          rw [List.filter_cons_of_neg (by simp [unset]), induction, gather_cons,
            (is_unset_iff content).mp unset, empty_combine]
      | false =>
          rw [List.filter_cons_of_pos (by simp [unset]), gather_cons, gather_cons, induction]

/-! ## Records of many partials -/

/-- Every field of the record of many partials is what the first of them with a value there has. -/
theorem combine_all_iff (contents : List (schema.Partial Value)) (record : schema.Record Value) :
    combineAll contents = some record ↔ ∀ place, ∃ value, IsFirstValue contents place value ∧
      record place = (schema.slot place).settle value := by
  simp only [combineAll, build_iff, gathered_iff]

theorem combine_all_some_iff (contents : List (schema.Partial Value)) :
    (combineAll contents).isSome = true ↔
      ∀ place, ∃ content ∈ contents, (content place).isSome = true := by
  rw [combineAll, build_is_some, is_complete_iff]
  exact forall_congr' (gathered_set_iff contents)

/-- No partials make a record only if it has no field. -/
theorem combine_none_some_iff :
    (combineAll ([] : List (schema.Partial Value))).isSome = true ↔ schema.slots = [] := by
  rw [combine_all_some_iff]
  constructor
  · intro set
    rcases Nat.eq_zero_or_pos schema.slots.length with none | filled
    · exact List.length_eq_zero_iff.mp none
    · obtain ⟨content, member, _⟩ := set ⟨0, filled⟩
      cases member
  · intro none place
    exact absurd place.isLt (by simp [none])

theorem combine_all_set_only (first second : List (schema.Partial Value))
    (same : (first.filter fun content => !content.isUnset) =
      second.filter fun content => !content.isUnset) :
    combineAll first = combineAll second := by
  rw [combineAll, ← gather_set_only, same, gather_set_only, combineAll]

theorem combine_all_append (first second : List (schema.Partial Value)) :
    combineAll (first ++ second) = combineTwo (gather first) (gather second) := by
  rw [combineAll, gather_append, combineTwo, empty_combine]

end Recordsmith.Schema.Partial
