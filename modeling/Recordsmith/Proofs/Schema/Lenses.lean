import Recordsmith.Proofs.Schema.Laws

/-!
Lenses on the places of records and partials. A lens reads back what it has put in, putting in what
is there changes nothing, and lenses on different places do not meddle with each other. Lifting a
value goes along with turning a record into a partial, and so with building.
-/

namespace Recordsmith

universe u v w

namespace Lens

variable {Whole : Type w} {First Second : Type v}

/-- What is read after replacing a part, and what is left when the part is replaced again. -/
structure IsLawful (lens : Lens Whole First) : Prop where
  get_set : ∀ whole part, lens.get (lens.set whole part) = part
  set_get : ∀ whole, lens.set whole (lens.get whole) = whole
  set_set : ∀ whole part other, lens.set (lens.set whole part) other = lens.set whole other

/-- Replacing the part of one lens leaves the part of the other alone, and the order in which both
are replaced does not matter. -/
structure AreApart (first : Lens Whole First) (second : Lens Whole Second) : Prop where
  get_set : ∀ whole part, second.get (first.set whole part) = second.get whole
  set_comm : ∀ whole part other,
    second.set (first.set whole part) other = first.set (second.set whole other) part

section

variable {Index : Type u} [DecidableEq Index] {Value : Index → Type v}

theorem at_place_lawful (place : Index) :
    (atPlace place : Lens ((index : Index) → Value index) _).IsLawful where
  get_set values value := replace_same values place value
  set_get values := by
    funext index
    by_cases same : place = index
    · subst same
      exact replace_same values place _
    · exact replace_other values place index same _
  set_set values value other := by
    funext index
    by_cases same : place = index
    · subst same
      exact (replace_same _ place other).trans (replace_same values place other).symm
    · simp only [atPlace, replace_other _ place index same]

theorem at_places_apart {place other : Index} (different : place ≠ other) :
    (atPlace place : Lens ((index : Index) → Value index) _).AreApart (atPlace other) where
  get_set values value := replace_other values place other different value
  set_comm values value otherValue := by
    funext index
    by_cases same : other = index
    · subst same
      simp only [atPlace, replace_same, replace_other _ place other different]
    · by_cases samePlace : place = index
      · subst samePlace
        simp only [atPlace, replace_same, replace_other _ other place same]
      · simp only [atPlace, replace_other _ other index same, replace_other _ place index samePlace]

end

end Lens

namespace Schema

variable {Kind : Type u} {Value : Kind → Type v} {schema : Schema Kind}

/-- Turning a record into a partial lifts the value that is put in. -/
theorem Record.as_partial_set (record : schema.Record Value) (place : schema.Place)
    (held : (schema.slot place).Held Value) :
    Record.asPartial ((Lens.atPlace place).set record held) =
      (Lens.atPlace place).set record.asPartial ((schema.slot place).lift held) := by
  funext index
  by_cases same : place = index
  · subst same
    simp only [Record.asPartial, Lens.atPlace, replace_same]
  · simp only [Record.asPartial, Lens.atPlace, replace_other _ place index same]

/-- A record that lacks no value lacks one afterwards only if a missing one is put in. -/
theorem Record.set_lacks_iff {record : schema.Record Value} (present : ¬ record.LacksValue)
    (place : schema.Place) (held : (schema.slot place).Held Value) :
    Record.LacksValue ((Lens.atPlace place).set record held) ↔
      (schema.slot place).IsMissing held := by
  constructor
  · rintro ⟨index, missing⟩
    by_cases same : place = index
    · subst same
      simpa only [Lens.atPlace, replace_same] using missing
    · simp only [Lens.atPlace, replace_other _ place index same] at missing
      exact absurd ⟨index, missing⟩ present
  · intro missing
    exact ⟨place, by simpa only [Lens.atPlace, replace_same] using missing⟩

/-- A value put into a partial that is built is put into the record. -/
theorem Partial.build_set {content : schema.Partial Value} {record : schema.Record Value}
    (built : content.build = some record) (place : schema.Place)
    (held : (schema.slot place).Held Value) :
    (¬ (schema.slot place).IsMissing held →
      Partial.build ((Lens.atPlace place).set content ((schema.slot place).lift held)) =
        some ((Lens.atPlace place).set record held)) ∧
    ((schema.slot place).IsMissing held →
      Partial.build ((Lens.atPlace place).set content ((schema.slot place).lift held)) = none) := by
  obtain ⟨complete, turned⟩ := (Partial.build_iff_turned_back content record).mp built
  rw [← turned] at complete ⊢
  have present := (Record.as_partial_complete_iff record).mp complete
  rw [← Record.as_partial_set, ← Record.set_lacks_iff present place held]
  exact ⟨Record.rebuilt _, Record.not_rebuilt _⟩

end Schema

end Recordsmith
