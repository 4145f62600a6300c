import Recordsmith.Proofs.Companion.Schemas

/-!
Laws of generated companions. What a schema promises for its partials holds for the code that is
generated for a record, because the values of that code stand for the records and partials of the
record's schema one for one.
-/

namespace Recordsmith

open Code

universe u v

variable {Content : Type}

namespace Artifact

/-- Merges two values with the companion that combines partials. -/
def merge (artifact : Artifact) (record : RecordDescriptor) (first second : Value Content) :
    Option (Value Content) :=
  artifact.call record .combine "combine" [first, second]

/-- What the companion that builds records makes of a value. -/
def built (artifact : Artifact) (record : RecordDescriptor) (value : Value Content) :
    Option (Value Content) :=
  artifact.call record .build "build" [value]

/-- What the companion says that checks whether a partial is complete. -/
def checked (artifact : Artifact) (record : RecordDescriptor) (value : Value Content) :
    Option (Value Content) :=
  artifact.call record .build "is_complete" [value]

/-- What the companion makes of a record that turns it into a partial. -/
def turnedBack (artifact : Artifact) (record : RecordDescriptor) (value : Value Content) :
    Option (Value Content) :=
  artifact.call record .context "as_partial" [value]

/-- What the reading function of a lens gives for a value. -/
def readBy (artifact : Artifact) (record : RecordDescriptor) (get value : Value Content) :
    Option (Value Content) :=
  get.call (artifact.structures record) [value]

namespace CarriesOut

variable {artifact : Artifact} {record : RecordDescriptor}
  (carriesOut : artifact.CarriesOut record Content)

include carriesOut

theorem merge_partials (first second : record.schema.Partial fun _ => Value Content) :
    artifact.merge record (artifact.ofPartial record first) (artifact.ofPartial record second) =
      some (artifact.ofPartial record (first.combine second)) :=
  carriesOut.combine first second

theorem checked_iff (content : record.schema.Partial fun _ => Value Content) :
    artifact.checked record (artifact.ofPartial record content) = some (.truth true) ↔
      content.isComplete = true := by
  rw [checked, carriesOut.isComplete, Option.some_inj, Value.truth.injEq]

theorem built_iff (content : record.schema.Partial fun _ => Value Content)
    (held : record.schema.Record fun _ => Value Content) :
    artifact.built record (artifact.ofPartial record content) =
        some (.present (record.ofRecord held)) ↔ content.build = some held := by
  rw [built, carriesOut.build, Option.some_inj]
  cases content.build with
  | none =>
      constructor
      · intro same
        cases same
      · intro same
        cases same
  | some other =>
      change Value.present (record.ofRecord other) = _ ↔ _
      rw [Value.present.injEq, Option.some_inj]
      exact record.of_record_injective.eq_iff

theorem turned_back_iff (held : record.schema.Record fun _ => Value Content)
    (content : record.schema.Partial fun _ => Value Content) :
    artifact.turnedBack record (record.ofRecord held) = some (artifact.ofPartial record content) ↔
      held.asPartial = content := by
  rw [turnedBack, carriesOut.asPartial, Option.some_inj]
  exact (artifact.of_partial_injective record).eq_iff

/-- A merged partial is read, at every field, as the first value that one of the two has there. -/
theorem read_merged (place : record.schema.Place) :
    ∃ onRecord get set lift : Value Content,
      artifact.call record .fields (record.fieldAt place).identifier.text [] =
          some (.accessor (.text (record.fieldAt place).name) onRecord (.lens get set) lift) ∧
        (∀ content, artifact.readBy record get (artifact.ofPartial record content) =
          some (.ofOption (content place))) ∧
        ∀ first second,
          (artifact.merge record (artifact.ofPartial record first)
            (artifact.ofPartial record second) >>= artifact.readBy record get) =
          (do
            let ofFirst ← artifact.readBy record get (artifact.ofPartial record first)
            let ofSecond ← artifact.readBy record get (artifact.ofPartial record second)
            (ofFirst.orElse ofSecond).toOption) := by
  obtain ⟨onRecord, onPartial, lift, made, _, ⟨get, set, rfl, reads, _⟩, _⟩ :=
    carriesOut.accessor place
  have named : (record.schema.slot place).name = (record.fieldAt place).name :=
    congrArg Slot.name (record.slot_at place)
  have read : ∀ content, artifact.readBy record get (artifact.ofPartial record content) =
      some (.ofOption (content place)) := reads
  refine ⟨onRecord, get, set, lift, ?_, read, ?_⟩
  · rw [made, ← named]
    rfl
  · intro first second
    rw [carriesOut.merge_partials, read first, read second]
    change artifact.readBy record get _ =
      ((Value.ofOption (first place)).orElse (.ofOption (second place))).toOption
    rw [or_else_options, read]
    rfl

end CarriesOut

end Artifact

/-- The partials of any schema form a monoid in which what is set first stays, and so do the values
that the companions of a record merge. Merging always gives a partial, nothing is added to a
complete one, and every field is read from a merged one by the choice between two optional
values. -/
theorem partials_form_a_monoid :
    (∀ {Kind : Type u} {Value : Kind → Type v} {schema : Schema Kind}
        (first second third : schema.Partial Value),
      (first.combine second).combine third = first.combine (second.combine third) ∧
      Schema.Partial.empty.combine first = first ∧ first.combine .empty = first ∧
      (first.combine second).combine first = first.combine second ∧
      (first.isComplete = true → first.combine second = first) ∧
      ∀ place, (schema.accessor Value place).onPartial.get (first.combine second) =
        firstOf ((schema.accessor Value place).onPartial.get first)
          ((schema.accessor Value place).onPartial.get second)) ∧
    ∀ (record : RecordDescriptor) (settings : Settings) (artifact : Artifact),
      record.synthesize settings = .ok artifact →
      (record.fields.map FieldDescriptor.identifier).Nodup →
      ∀ (Content : Type),
        let value : (record.schema.Partial fun _ => Value Content) → Value Content :=
          artifact.ofPartial record
        let merge : Value Content → Value Content → Option (Value Content) := artifact.merge record
        (∃ nothing, artifact.default? = some nothing ∧ ∀ content,
          merge nothing (value content) = some (value content) ∧
          merge (value content) nothing = some (value content)) ∧
        (∀ first second third,
          merge (value first) (value second) = some (value (first.combine second)) ∧
          (merge (value first) (value second) >>= fun merged => merge merged (value third)) =
            (merge (value second) (value third) >>= fun merged => merge (value first) merged) ∧
          (merge (value first) (value second) >>= fun merged => merge merged (value first)) =
            merge (value first) (value second) ∧
          (artifact.checked record (value first) = some (.truth true) →
            merge (value first) (value second) = some (value first))) ∧
        ∀ place, ∃ onRecord get set lift : Value Content,
          artifact.call record .fields (record.fieldAt place).identifier.text [] =
              some (.accessor (.text (record.fieldAt place).name) onRecord (.lens get set) lift) ∧
            (∀ content, artifact.readBy record get (value content) =
              some (.ofOption (content place))) ∧
            ∀ first second,
              (merge (value first) (value second) >>= artifact.readBy record get) =
              (do
                let ofFirst ← artifact.readBy record get (value first)
                let ofSecond ← artifact.readBy record get (value second)
                (ofFirst.orElse ofSecond).toOption) := by
  constructor
  · intro Kind Value schema first second third
    exact ⟨first.combine_assoc second third, first.empty_combine, first.combine_empty,
      first.combine_again second, first.combine_complete second, first.read_combined second⟩
  intro record settings artifact synthesized distinct Content value merge
  have carriesOut := companions_carry_out synthesized distinct Content
  have merged : ∀ first second,
      merge (value first) (value second) = some (value (first.combine second)) :=
    carriesOut.merge_partials
  refine ⟨⟨value .empty, carriesOut.default, ?_⟩, ?_, carriesOut.read_merged⟩
  · intro content
    constructor
    · rw [merged, Schema.Partial.empty_combine]
    · rw [merged, Schema.Partial.combine_empty]
  · intro first second third
    refine ⟨merged first second, ?_, ?_, ?_⟩
    · rw [merged, merged]
      change merge _ _ = merge _ _
      rw [merged, merged, Schema.Partial.combine_assoc]
    · rw [merged]
      change merge _ _ = _
      rw [merged, Schema.Partial.combine_again]
    · intro complete
      rw [merged, Schema.Partial.combine_complete _ _ ((carriesOut.checked_iff first).mp complete)]

theorem scoped_record_succeeds : ∃ artifact, scopedRecord.synthesize .standard = .ok artifact :=
  succeeds_ok rfl

theorem scoped_record_distinct : (scopedRecord.fields.map FieldDescriptor.identifier).Nodup := by
  decide

/-- A partial with one field set is merged with one that has both fields, and then with itself. -/
theorem first_argument_stays :
    let first : scopedRecord.schema.Partial fun _ => Value String :=
      fun place => if place.val = 0 then some (.content "first") else none
    let second : scopedRecord.schema.Partial fun _ => Value String :=
      fun _ => some (.content "second")
    ∃ artifact, scopedRecord.synthesize .standard = .ok artifact ∧
      (scopedRecord.fields.map FieldDescriptor.identifier).Nodup ∧
      (artifact.merge scopedRecord (artifact.ofPartial scopedRecord first)
          (artifact.ofPartial scopedRecord second) >>= fun merged =>
        artifact.merge scopedRecord merged (artifact.ofPartial scopedRecord first)) =
        some (.structure artifact.partialPath [(⟨"arg1"⟩, .present (.content "first")),
          (⟨"arg2"⟩, .present (.content "second"))]) := by
  intro first second
  obtain ⟨artifact, synthesized⟩ := scoped_record_succeeds
  refine ⟨artifact, synthesized, scoped_record_distinct, ?_⟩
  have laws := (partials_form_a_monoid.{0, 0}.2 scopedRecord .standard artifact synthesized
    scoped_record_distinct String).2.1 first second first
  rw [laws.2.2.1, laws.1]
  rfl

/-- A partial of any schema builds a record exactly if it is complete and is what the record turns
back into, and so it is for the companions of a record. So a record is built from its own partial,
or by a builder that begins with it, unless it lacks a value, and complete partials that build the
same record are the same. -/
theorem build_undoes_turning_back :
    (∀ {Kind : Type u} {Value : Kind → Type v} {schema : Schema Kind}
        (content : schema.Partial Value) (record : schema.Record Value),
      (content.build = some record ↔ content.isComplete = true ∧ record.asPartial = content) ∧
      (content.isComplete = true ↔ content.build.isSome = true) ∧
      (∀ other : schema.Partial Value, content.isComplete = true → other.isComplete = true →
        content.build = other.build → content = other) ∧
      (¬record.LacksValue →
        record.asPartial.build = some record ∧ (Builder.ofRecord record).build = some record) ∧
      (record.LacksValue →
        record.asPartial.build = none ∧ (Builder.ofRecord record).build = none)) ∧
    ∀ (record : RecordDescriptor) (settings : Settings) (artifact : Artifact),
      record.synthesize settings = .ok artifact →
      (record.fields.map FieldDescriptor.identifier).Nodup →
      ∀ (Content : Type) (content : record.schema.Partial fun _ => Value Content)
        (held : record.schema.Record fun _ => Value Content),
        let value := artifact.ofPartial record content
        let turnedBack := artifact.turnedBack record (record.ofRecord held)
        (artifact.built record value = some (.present (record.ofRecord held)) ↔
          artifact.checked record value = some (.truth true) ∧ turnedBack = some value) ∧
        (artifact.checked record value = some (.truth true) ↔
          ∃ built, artifact.built record value = some (.present built)) ∧
        (∀ other : record.schema.Partial fun _ => Value Content,
          artifact.checked record value = some (.truth true) →
          artifact.checked record (artifact.ofPartial record other) = some (.truth true) →
          artifact.built record value = artifact.built record (artifact.ofPartial record other) →
            value = artifact.ofPartial record other) ∧
        (¬held.LacksValue →
          turnedBack >>= artifact.built record = some (.present (record.ofRecord held))) ∧
        (held.LacksValue → turnedBack >>= artifact.built record = some .absent) := by
  constructor
  · intro Kind Value schema content record
    refine ⟨content.build_iff_turned_back record, ?_, ?_, ?_, ?_⟩
    · rw [Schema.Partial.build_is_some]
    · intro other complete _ same
      exact content.build_injective other complete same
    · intro present
      exact ⟨record.rebuilt present, record.rebuilt present⟩
    · intro lacks
      exact ⟨record.not_rebuilt lacks, record.not_rebuilt lacks⟩
  intro record settings artifact synthesized distinct Content content held value turnedBack
  have carriesOut := companions_carry_out synthesized distinct Content
  have turned : turnedBack = some (artifact.ofPartial record held.asPartial) :=
    carriesOut.asPartial held
  have built : ∀ content, artifact.built record (artifact.ofPartial record content) =
      some (.ofOption (content.build.map record.ofRecord)) := carriesOut.build
  refine ⟨?_, ?_, ?_, ?_, ?_⟩
  · rw [carriesOut.built_iff, carriesOut.checked_iff, carriesOut.turned_back_iff]
    exact content.build_iff_turned_back held
  · rw [carriesOut.checked_iff, ← Schema.Partial.build_is_some, built]
    cases content.build with
    | none =>
        constructor
        · intro impossible
          cases impossible
        · rintro ⟨_, impossible⟩
          cases impossible
    | some other => exact iff_of_true rfl ⟨record.ofRecord other, rfl⟩
  · intro other complete _ same
    rw [carriesOut.checked_iff] at complete
    rw [built, built, Option.some_inj, of_option_injective.eq_iff,
      (Option.map_injective record.of_record_injective).eq_iff] at same
    exact congrArg (artifact.ofPartial record) (content.build_injective other complete same)
  · intro present
    rw [turned]
    change artifact.built record _ = _
    rw [built, held.rebuilt present]
    rfl
  · intro lacks
    rw [turned]
    change artifact.built record _ = _
    rw [built, held.not_rebuilt lacks]
    rfl

/-- A record without its second argument is not built from its partial; with it, it is. -/
theorem second_argument_is_needed :
    let record (second : Option (Value String)) :
        scopedRecord.schema.Record fun _ => Value String
      | ⟨0, _⟩ => Value.content "first"
      | ⟨1, _⟩ => second
    let turnedBack (artifact : Artifact) (second : Option (Value String)) : Option (Value String) :=
      artifact.turnedBack scopedRecord (scopedRecord.ofRecord (record second))
    ∃ artifact, scopedRecord.synthesize .standard = .ok artifact ∧
      (scopedRecord.fields.map FieldDescriptor.identifier).Nodup ∧
      turnedBack artifact none >>= artifact.built scopedRecord = some .absent ∧
      turnedBack artifact (some (.content "second")) >>= artifact.built scopedRecord =
        some (.present (.structure [⟨"scope1"⟩, ⟨"MyData"⟩]
          [(⟨"arg1"⟩, .content "first"), (⟨"arg2"⟩, .present (.content "second"))])) := by
  intro record turnedBack
  obtain ⟨artifact, synthesized⟩ := scoped_record_succeeds
  have laws := build_undoes_turning_back.{0, 0}.2 scopedRecord .standard artifact synthesized
    scoped_record_distinct String .empty
  refine ⟨artifact, synthesized, scoped_record_distinct, ?_, ?_⟩
  · exact (laws (record none)).2.2.2.2 ⟨⟨1, by decide⟩, rfl, rfl⟩
  · have present : ¬(record (some (.content "second"))).LacksValue := by
      rintro ⟨⟨place, bound⟩, nullable, missing⟩
      match place, bound with
      | 0, _ => cases nullable
      | 1, _ => cases missing
    exact (laws (record (some (.content "second")))).2.2.2.1 present

end Recordsmith
