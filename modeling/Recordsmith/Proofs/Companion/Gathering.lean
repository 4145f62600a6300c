import Recordsmith.Proofs.Companion.Laws
import Recordsmith.Proofs.Schema.Gathering

/-!
Records of many partials, by the companions of a record. The partials are merged one after another
into the default one and the result is built, and each field comes from the first partial that has
a value for it.
-/

namespace Recordsmith

open Code

universe u v

variable {Content : Type}

namespace Artifact

/-- Merges values one after another into the default one. -/
def gathered (artifact : Artifact) (record : RecordDescriptor) (values : List (Value Content)) :
    Option (Value Content) := do
  let nothing ← artifact.default?
  values.foldlM (fun merged value => artifact.merge record merged value) nothing

/-- Builds a record of all values. -/
def builtOfAll (artifact : Artifact) (record : RecordDescriptor) (values : List (Value Content)) :
    Option (Value Content) := do
  let merged ← artifact.gathered record values
  artifact.built record merged

/-- Builds a record of two values. -/
def builtOfTwo (artifact : Artifact) (record : RecordDescriptor) (first second : Value Content) :
    Option (Value Content) := do
  let nothing ← artifact.default?
  let withFirst ← artifact.merge record nothing first
  let withBoth ← artifact.merge record withFirst second
  artifact.built record withBoth

/-- Two values are merged as a list of two is. -/
theorem built_of_two (artifact : Artifact) (record : RecordDescriptor)
    (first second : Value Content) :
    artifact.builtOfTwo record first second = artifact.builtOfAll record [first, second] := by
  rw [builtOfTwo, builtOfAll, gathered]
  cases artifact.default? with
  | none => rfl
  | some nothing =>
      change (artifact.merge record nothing first >>= fun withFirst =>
        artifact.merge record withFirst second >>= artifact.built record) = _
      cases merged : artifact.merge record nothing first with
      | none => simp [merged]
      | some withFirst => simp [merged]

namespace CarriesOut

variable {artifact : Artifact} {record : RecordDescriptor}
  (carriesOut : artifact.CarriesOut record Content)

include carriesOut

theorem fold_partials (start : record.schema.Partial fun _ => Value Content)
    (contents : List (record.schema.Partial fun _ => Value Content)) :
    (contents.map (artifact.ofPartial record)).foldlM
        (fun merged value => artifact.merge record merged value) (artifact.ofPartial record start) =
      some (artifact.ofPartial record (contents.foldl Schema.Partial.combine start)) := by
  induction contents generalizing start with
  | nil => rfl
  | cons content rest induction =>
      rw [List.map_cons, List.foldlM_cons, carriesOut.merge_partials]
      exact induction (start.combine content)

theorem gathered_partials (contents : List (record.schema.Partial fun _ => Value Content)) :
    artifact.gathered record (contents.map (artifact.ofPartial record)) =
      some (artifact.ofPartial record (.gather contents)) := by
  rw [gathered, carriesOut.default]
  exact carriesOut.fold_partials .empty contents

theorem built_of_all (contents : List (record.schema.Partial fun _ => Value Content)) :
    artifact.builtOfAll record (contents.map (artifact.ofPartial record)) =
      some (.ofOption ((Schema.Partial.combineAll contents).map record.ofRecord)) := by
  rw [builtOfAll, carriesOut.gathered_partials]
  exact carriesOut.build (.gather contents)

end CarriesOut

end Artifact

/-- The record of many partials of any schema has in every field what the first of them with a value
there has, and there is one if every field is set in some of them. Partials without any value do not
count, and the partials may be gathered in two pieces. So it is for the companions of a record, which
merge the partials into the default one and build the result. -/
theorem first_values_are_built :
    (∀ {Kind : Type u} {Value : Kind → Type v} {schema : Schema Kind}
        (contents : List (schema.Partial Value)),
      (∀ record, Schema.Partial.combineAll contents = some record ↔
        ∀ place, ∃ value, Schema.Partial.IsFirstValue contents place value ∧
          record place = (schema.slot place).settle value) ∧
      ((Schema.Partial.combineAll contents).isSome = true ↔
        ∀ place, ∃ content ∈ contents, (content place).isSome = true) ∧
      ((Schema.Partial.combineAll ([] : List (schema.Partial Value))).isSome = true ↔
        schema.slots = []) ∧
      (∀ first second : schema.Partial Value,
        first.combineTwo second = Schema.Partial.combineAll [first, second]) ∧
      (∀ others : List (schema.Partial Value),
        (others.filter fun content => !content.isUnset) =
            (contents.filter fun content => !content.isUnset) →
          Schema.Partial.combineAll others = Schema.Partial.combineAll contents) ∧
      ∀ others, Schema.Partial.combineAll (contents ++ others) =
        (Schema.Partial.gather contents).combineTwo (.gather others)) ∧
    ∀ (record : RecordDescriptor) (settings : Settings) (artifact : Artifact),
      record.synthesize settings = .ok artifact →
      (record.fields.map FieldDescriptor.identifier).Nodup →
      ∀ (Content : Type) (contents : List (record.schema.Partial fun _ => Value Content)),
        let gathered (contents : List (record.schema.Partial fun _ => Value Content)) :=
          artifact.gathered record (contents.map (artifact.ofPartial record))
        let built (contents : List (record.schema.Partial fun _ => Value Content)) :=
          artifact.builtOfAll record (contents.map (artifact.ofPartial record))
        (∃ optional, built contents = some (.ofOption optional)) ∧
        (∀ held, built contents = some (.present (record.ofRecord held)) ↔
          ∀ place, ∃ value, Schema.Partial.IsFirstValue contents place value ∧
            held place = (record.schema.slot place).settle value) ∧
        ((∃ made, built contents = some (.present made)) ↔
          ∀ place, ∃ content ∈ contents, (content place).isSome = true) ∧
        ((∃ made, built [] = some (.present made)) ↔ record.fields = []) ∧
        (∀ first second : Value Content,
          artifact.builtOfTwo record first second = artifact.builtOfAll record [first, second]) ∧
        (∀ others : List (record.schema.Partial fun _ => Value Content),
          (others.filter fun content => !content.isUnset) =
              (contents.filter fun content => !content.isUnset) →
            built others = built contents) ∧
        ∀ others, built (contents ++ others) = (do
          let first ← gathered contents
          let second ← gathered others
          artifact.builtOfTwo record first second) := by
  constructor
  · intro Kind Value schema contents
    exact ⟨Schema.Partial.combine_all_iff contents, Schema.Partial.combine_all_some_iff contents,
      Schema.Partial.combine_none_some_iff, fun _ _ => rfl,
      fun others => Schema.Partial.combine_all_set_only others contents,
      Schema.Partial.combine_all_append contents⟩
  intro record settings artifact synthesized distinct Content contents gathered built
  have carriesOut := companions_carry_out synthesized distinct Content
  have whole : ∀ contents,
      built contents = some (.ofOption ((Schema.Partial.combineAll contents).map record.ofRecord)) :=
    carriesOut.built_of_all
  have present : ∀ contents, (∃ made, built contents = some (.present made)) ↔
      (Schema.Partial.combineAll contents).isSome = true := by
    intro contents
    rw [whole]
    cases Schema.Partial.combineAll contents with
    | none => simp [Value.ofOption]
    | some held => simp [Value.ofOption]
  refine ⟨⟨_, whole contents⟩, ?_, ?_, ?_, artifact.built_of_two record, ?_, ?_⟩
  · intro held
    have ofGathered : built contents =
        artifact.built record (artifact.ofPartial record (.gather contents)) :=
      (whole contents).trans (carriesOut.build (.gather contents)).symm
    rw [ofGathered, carriesOut.built_iff]
    exact Schema.Partial.combine_all_iff contents held
  · rw [present, Schema.Partial.combine_all_some_iff]
  · rw [present, Schema.Partial.combine_none_some_iff]
    exact List.map_eq_nil_iff
  · intro others same
    rw [whole, whole, Schema.Partial.combine_all_set_only others contents same]
  · intro others
    have ofContents : gathered contents = _ := carriesOut.gathered_partials contents
    have ofOthers : gathered others = _ := carriesOut.gathered_partials others
    rw [whole, ofContents, ofOthers, Schema.Partial.combine_all_append]
    exact ((artifact.built_of_two record _ _).trans
      (carriesOut.built_of_all [.gather contents, .gather others])).symm

/-- Of three partials the first one with a value decides for each argument, and an unset one in front
of them changes nothing. -/
theorem scattered_arguments_are_built :
    let first : scopedRecord.schema.Partial fun _ => Value String :=
      fun place => if place.val = 1 then some (.content "early") else none
    let second : scopedRecord.schema.Partial fun _ => Value String :=
      fun _ => some (.content "late")
    ∃ artifact, scopedRecord.synthesize .standard = .ok artifact ∧
      (scopedRecord.fields.map FieldDescriptor.identifier).Nodup ∧
      artifact.builtOfAll scopedRecord
          ([.empty, first, second, first].map (artifact.ofPartial scopedRecord)) =
        some (.present (.structure [⟨"scope1"⟩, ⟨"MyData"⟩]
          [(⟨"arg1"⟩, .content "late"), (⟨"arg2"⟩, .present (.content "early"))])) := by
  intro first second
  obtain ⟨artifact, synthesized⟩ := scoped_record_succeeds
  refine ⟨artifact, synthesized, scoped_record_distinct, ?_⟩
  have laws := first_values_are_built.{0, 0}.2 scopedRecord .standard artifact synthesized
    scoped_record_distinct String [first, second, first]
  have unset := laws.2.2.2.2.2.1 [.empty, first, second, first] (by rfl)
  let held : scopedRecord.schema.Record fun _ => Value String := fun place =>
    (scopedRecord.schema.slot place).settle (.content (if place.val = 0 then "late" else "early"))
  refine unset.trans ((laws.2.1 held).mpr ?_)
  rintro ⟨_ | _ | place, bound⟩
  · exact ⟨_, ⟨[first], second, [first], rfl, rfl, by simp [first]⟩, rfl⟩
  · exact ⟨_, ⟨[], first, [second, first], rfl, rfl, by simp⟩, rfl⟩
  · exact absurd bound (Nat.not_lt.mpr (Nat.le_add_left 2 place))

end Recordsmith
