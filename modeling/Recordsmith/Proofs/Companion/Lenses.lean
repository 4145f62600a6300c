import Recordsmith.Proofs.Companion.Laws
import Recordsmith.Proofs.Schema.Lenses

/-!
The lenses of generated accessors. They carry out the lenses of the record's schema, so the laws
of those are theirs: on the record, on the partial, and between the two.
-/

namespace Recordsmith

open Code

universe u v

variable {Content : Type}

/-! ## Using lenses -/

namespace Code.Value

variable (structures : StructureTable)

/-- What a lens reads. -/
def read : Value Content → Value Content → Option (Value Content)
  | .lens get _, source => get.call structures [source]
  | _, _ => none

/-- What a lens makes of a value when it puts a part in. -/
def write : Value Content → Value Content → Value Content → Option (Value Content)
  | .lens _ set, source, focus => set.call structures [source, focus]
  | _, _, _ => none

/-- What a lens makes of a value when it replaces its part by what a function makes of it. -/
def modify (lens source : Value Content) (change : Value Content → Value Content) :
    Option (Value Content) := do
  let focus ← lens.read structures source
  lens.write structures source (change focus)

/-- A lens obeys the laws on the values that stand for wholes and for parts. -/
structure IsLawfulOn {Whole Part : Type} (whole : Whole → Value Content)
    (part : Part → Value Content) (lens : Value Content) : Prop where
  readWritten : ∀ source focus,
    (do let written ← lens.write structures (whole source) (part focus)
        lens.read structures written) = some (part focus)
  writtenRead : ∀ source,
    (do let focus ← lens.read structures (whole source)
        lens.write structures (whole source) focus) = some (whole source)
  writtenAgain : ∀ source focus other,
    (do let written ← lens.write structures (whole source) (part focus)
        lens.write structures written (part other)) =
      lens.write structures (whole source) (part other)
  modified : ∀ source (change : Part → Part) (function : Value Content → Value Content),
    (∀ focus, function (part focus) = part (change focus)) →
      ∃ focus, lens.read structures (whole source) = some (part focus) ∧
        lens.modify structures (whole source) function =
          lens.write structures (whole source) (part (change focus))

/-- Two lenses leave the parts of each other alone. -/
structure AreApartOn {Whole First Second : Type} (whole : Whole → Value Content)
    (firstPart : First → Value Content) (secondPart : Second → Value Content)
    (first second : Value Content) : Prop where
  readKept : ∀ source focus,
    (do let written ← first.write structures (whole source) (firstPart focus)
        second.read structures written) = second.read structures (whole source)
  commute : ∀ source focus other,
    (do let written ← first.write structures (whole source) (firstPart focus)
        second.write structures written (secondPart other)) =
      (do let written ← second.write structures (whole source) (secondPart other)
          first.write structures written (firstPart focus))

end Code.Value

namespace Lens.IsCarriedOutBy

variable {structures : StructureTable} {Whole First Second : Type} {whole : Whole → Value Content}
  {firstPart : First → Value Content} {secondPart : Second → Value Content}
  {first : Lens Whole First} {second : Lens Whole Second} {value other : Value Content}

theorem read (carriedOut : first.IsCarriedOutBy structures whole firstPart value)
    (source : Whole) :
    value.read structures (whole source) = some (firstPart (first.get source)) := by
  obtain ⟨get, set, rfl, reads, _⟩ := carriedOut
  exact reads source

theorem write (carriedOut : first.IsCarriedOutBy structures whole firstPart value)
    (source : Whole) (focus : First) :
    value.write structures (whole source) (firstPart focus) =
      some (whole (first.set source focus)) := by
  obtain ⟨get, set, rfl, _, writes⟩ := carriedOut
  exact writes source focus

theorem lawful (carriedOut : first.IsCarriedOutBy structures whole firstPart value)
    (laws : first.IsLawful) : value.IsLawfulOn structures whole firstPart := by
  refine
    { readWritten := ?_, writtenRead := ?_, writtenAgain := ?_, modified := ?_ }
  · intro source focus
    simp [carriedOut.write, carriedOut.read, laws.get_set]
  · intro source
    simp [carriedOut.read, carriedOut.write, laws.set_get]
  · intro source focus other
    simp [carriedOut.write, laws.set_set]
  · intro source change function agrees
    refine ⟨first.get source, carriedOut.read source, ?_⟩
    simp [Value.modify, carriedOut.read, agrees]

theorem apart (carriedOut : first.IsCarriedOutBy structures whole firstPart value)
    (otherCarriedOut : second.IsCarriedOutBy structures whole secondPart other)
    (laws : first.AreApart second) :
    value.AreApartOn structures whole firstPart secondPart other := by
  constructor
  · intro source focus
    simp [carriedOut.write, otherCarriedOut.read, laws.get_set]
  · intro source focus otherFocus
    simp [carriedOut.write, otherCarriedOut.write, laws.set_comm]

end Lens.IsCarriedOutBy

/-! ## The accessors of a record -/

namespace Artifact

/-- The accessor of a field and what it promises: both of its lenses obey the laws, and lifting goes
along with turning a record into a partial and with building. -/
structure HasLawfulAccessor (artifact : Artifact) (record : RecordDescriptor)
    (place : record.schema.Place) (onRecord onPartial lift : Value Content) : Prop where
  made : artifact.call record .fields (record.fieldAt place).identifier.text [] =
    some (.accessor (.text (record.fieldAt place).name) onRecord onPartial lift)
  recordLens : onRecord.IsLawfulOn (artifact.structures record) record.ofRecord
    (record.schema.slot place).heldValue
  partialLens : onPartial.IsLawfulOn (artifact.structures record) (artifact.ofPartial record)
    Value.ofOption
  lifts : ∀ focus, lift.call (artifact.structures record)
    [(record.schema.slot place).heldValue focus] =
      some (.ofOption ((record.schema.slot place).lift focus))
  readTurnedBack : ∀ held,
    (do let content ← artifact.turnedBack record (record.ofRecord held)
        onPartial.read (artifact.structures record) content) =
      (do let focus ← onRecord.read (artifact.structures record) (record.ofRecord held)
          lift.call (artifact.structures record) [focus])
  writtenTurnedBack : ∀ held focus,
    (do let written ← onRecord.write (artifact.structures record) (record.ofRecord held)
          ((record.schema.slot place).heldValue focus)
        artifact.turnedBack record written) =
      (do let content ← artifact.turnedBack record (record.ofRecord held)
          let stored ← lift.call (artifact.structures record)
            [(record.schema.slot place).heldValue focus]
          onPartial.write (artifact.structures record) content stored)
  writtenBuilt : ∀ content held focus,
    artifact.built record (artifact.ofPartial record content) =
        some (.present (record.ofRecord held)) →
      let rebuilt := do
        let stored ← lift.call (artifact.structures record)
          [(record.schema.slot place).heldValue focus]
        let written ← onPartial.write (artifact.structures record)
          (artifact.ofPartial record content) stored
        artifact.built record written
      (¬ (record.schema.slot place).IsMissing focus →
        rebuilt = (onRecord.write (artifact.structures record) (record.ofRecord held)
          ((record.schema.slot place).heldValue focus)).map .present) ∧
      ((record.schema.slot place).IsMissing focus → rebuilt = some .absent)

variable {artifact : Artifact} {record : RecordDescriptor}

theorem CarriesOut.lawful_accessor (carriesOut : artifact.CarriesOut record Content)
    (place : record.schema.Place) {onRecord onPartial lift : Value Content}
    (made : artifact.call record .fields (record.fieldAt place).identifier.text [] =
      some (.accessor (.text (record.fieldAt place).name) onRecord onPartial lift))
    (ofRecord : (Lens.atPlace place : Lens (record.schema.Record fun _ => Value Content)
      _).IsCarriedOutBy (artifact.structures record) record.ofRecord
        (record.schema.slot place).heldValue onRecord)
    (ofPartial : (Lens.atPlace place : Lens (record.schema.Partial fun _ => Value Content)
      _).IsCarriedOutBy (artifact.structures record) (artifact.ofPartial record)
        Value.ofOption onPartial)
    (lifts : ∀ focus, lift.call (artifact.structures record)
      [(record.schema.slot place).heldValue focus] =
        some (.ofOption ((record.schema.slot place).lift focus))) :
    artifact.HasLawfulAccessor record place onRecord onPartial lift := by
  have turnedBack : ∀ held, artifact.turnedBack record (record.ofRecord held) =
      some (artifact.ofPartial record held.asPartial) := carriesOut.asPartial
  refine
    { made, lifts, recordLens := ofRecord.lawful (Lens.at_place_lawful place),
      partialLens := ofPartial.lawful (Lens.at_place_lawful place),
      readTurnedBack := ?_, writtenTurnedBack := ?_, writtenBuilt := ?_ }
  · intro held
    simp only [turnedBack, ofPartial.read, ofRecord.read, lifts, Option.bind_eq_bind,
      Option.bind_some]
    rfl
  · intro held focus
    simp only [turnedBack, ofPartial.write, ofRecord.write, lifts, Option.bind_eq_bind,
      Option.bind_some]
    rw [held.as_partial_set place focus]
  · intro content held focus isBuilt rebuilt
    have written : rebuilt = artifact.built record (artifact.ofPartial record
        ((Lens.atPlace place).set content ((record.schema.slot place).lift focus))) := by
      simp only [rebuilt, lifts, ofPartial.write, Option.bind_eq_bind, Option.bind_some]
    obtain ⟨present, missing⟩ :=
      Schema.Partial.build_set ((carriesOut.built_iff content held).mp isBuilt) place focus
    rw [written, built, carriesOut.build, ofRecord.write]
    constructor
    · intro isPresent
      rw [present isPresent]
      rfl
    · intro isMissing
      rw [missing isMissing]
      rfl

end Artifact

/-- The accessors of any schema are lenses that obey the laws, on the record and on the partial, and
those of different fields leave each other alone. Lifting goes along with turning a record into a
partial, and with building unless a missing value is put in. So it is for the accessors that are
generated for a record. -/
theorem accessors_are_lawful_lenses :
    (∀ {Kind : Type u} {Value : Kind → Type v} {schema : Schema Kind} (place : schema.Place),
      let accessor := schema.accessor Value place
      accessor.onRecord.IsLawful ∧ accessor.onPartial.IsLawful ∧
      (∀ other, place ≠ other →
        accessor.onRecord.AreApart (schema.accessor Value other).onRecord ∧
        accessor.onPartial.AreApart (schema.accessor Value other).onPartial) ∧
      (∀ record change, accessor.onRecord.modify record change =
        accessor.onRecord.set record (change (accessor.onRecord.get record))) ∧
      (∀ content change, accessor.onPartial.modify content change =
        accessor.onPartial.set content (change (accessor.onPartial.get content))) ∧
      (∀ record : schema.Record Value, accessor.onPartial.get record.asPartial =
        accessor.lift (accessor.onRecord.get record)) ∧
      (∀ record held, Schema.Record.asPartial (accessor.onRecord.set record held) =
        accessor.onPartial.set (Schema.Record.asPartial record) (accessor.lift held)) ∧
      ∀ (content : schema.Partial Value) (record : schema.Record Value),
        content.build = some record → ∀ held,
          let written := accessor.onPartial.set content (accessor.lift held)
          (¬ (schema.slot place).IsMissing held →
            Schema.Partial.build written = some (accessor.onRecord.set record held)) ∧
          ((schema.slot place).IsMissing held → Schema.Partial.build written = none)) ∧
    ∀ (record : RecordDescriptor) (settings : Settings) (artifact : Artifact),
      record.synthesize settings = .ok artifact →
      (record.fields.map FieldDescriptor.identifier).Nodup →
      ∀ Content : Type, ∃ onRecord onPartial lift : record.schema.Place → Value Content,
        ∀ place,
          artifact.HasLawfulAccessor record place (onRecord place) (onPartial place)
            (lift place) ∧
          ∀ other, place ≠ other →
            (onRecord place).AreApartOn (artifact.structures record) record.ofRecord
              (record.schema.slot place).heldValue (record.schema.slot other).heldValue
              (onRecord other) ∧
            (onPartial place).AreApartOn (artifact.structures record)
              (artifact.ofPartial record) Value.ofOption Value.ofOption (onPartial other) := by
  constructor
  · intro Kind Value schema place accessor
    exact ⟨Lens.at_place_lawful place, Lens.at_place_lawful place,
      fun other different => ⟨Lens.at_places_apart different, Lens.at_places_apart different⟩,
      fun _ _ => rfl, fun _ _ => rfl, fun _ => rfl, fun record => record.as_partial_set place,
      fun _ _ built => Schema.Partial.build_set built place⟩
  intro record settings artifact synthesized distinct Content
  have carriesOut := companions_carry_out synthesized distinct Content
  choose onRecord onPartial lift made ofRecord ofPartial lifts using carriesOut.accessor
  refine ⟨onRecord, onPartial, lift, fun place => ⟨?_, fun other different => ?_⟩⟩
  · apply carriesOut.lawful_accessor place _ (ofRecord place) (ofPartial place) (lifts place)
    have named : (record.schema.slot place).name = (record.fieldAt place).name :=
      congrArg Slot.name (record.slot_at place)
    rw [made place, ← named]
    rfl
  · exact ⟨(ofRecord place).apart (ofRecord other) (Lens.at_places_apart different),
      (ofPartial place).apart (ofPartial other) (Lens.at_places_apart different)⟩

/-- A value put in for the second argument is read back, the first argument keeps what it had, and
with a missing value nothing is built any more. -/
theorem second_argument_is_replaced :
    let first : scopedRecord.schema.Place := ⟨0, by decide⟩
    let second : scopedRecord.schema.Place := ⟨1, by decide⟩
    let content : scopedRecord.schema.Partial fun _ => Value String := fun _ =>
      some (.content "before")
    ∃ artifact, scopedRecord.synthesize .standard = .ok artifact ∧
      (scopedRecord.fields.map FieldDescriptor.identifier).Nodup ∧ first ≠ second ∧
      ∃ onPartial lift : scopedRecord.schema.Place → Value String,
        let structures := artifact.structures scopedRecord
        let whole := artifact.ofPartial scopedRecord content
        (do let written ← (onPartial second).write structures whole (.present (.content "after"))
            (onPartial second).read structures written) = some (.present (.content "after")) ∧
        (do let written ← (onPartial second).write structures whole (.present (.content "after"))
            (onPartial first).read structures written) =
          (onPartial first).read structures whole ∧
        (do let stored ← (lift second).call structures [.absent]
            let written ← (onPartial second).write structures whole stored
            artifact.built scopedRecord written) = some .absent := by
  intro first second content
  obtain ⟨artifact, synthesized⟩ := scoped_record_succeeds
  obtain ⟨onRecord, onPartial, lift, laws⟩ := accessors_are_lawful_lenses.{0, 0}.2 scopedRecord
    .standard artifact synthesized scoped_record_distinct String
  obtain ⟨lawful, apart⟩ := laws second
  have different : first ≠ second := by decide
  let held : scopedRecord.schema.Record fun _ => Value String := fun place =>
    (scopedRecord.schema.slot place).settle (.content "before")
  have built : artifact.built scopedRecord (artifact.ofPartial scopedRecord content) =
      some (.present (scopedRecord.ofRecord held)) :=
    ((companions_carry_out synthesized scoped_record_distinct String).built_iff content held).mpr
      ((content.build_iff held).mpr fun place => ⟨_, rfl, rfl⟩)
  exact ⟨artifact, synthesized, scoped_record_distinct, different, onPartial, lift,
    lawful.partialLens.readWritten content (some (.content "after")),
    (apart first different.symm).2.readKept content (some (.content "after")),
    (lawful.writtenBuilt content held none built).2 ⟨rfl, rfl⟩⟩

end Recordsmith
