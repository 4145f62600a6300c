import Recordsmith.Proofs.Companion.Meaning
import Recordsmith.Proofs.Schema.Laws

/-!
Generated companions as operations on a schema. The fields of a described record are the slots of
a schema, and the values that its companions work on stand for the records and the partials of
that schema. Every companion carries out the operation of the schema that it is named after, so
the laws of those operations are laws of the generated code.
-/

namespace Recordsmith

open Code

variable {Content : Type}

/-! ## The schema of a described record -/

/-- A field as a slot, which is of the field's own kind. -/
def FieldDescriptor.slot (field : FieldDescriptor) : Slot FieldDescriptor :=
  ⟨field.name, field, field.isNullable⟩

namespace RecordDescriptor

/-- The schema that the fields of a record make up. -/
def schema (record : RecordDescriptor) : Schema FieldDescriptor :=
  ⟨Text.dottedSegments record.scope, record.name, record.fields.map FieldDescriptor.slot⟩

/-- The field at a place. -/
def fieldAt (record : RecordDescriptor) (place : record.schema.Place) : FieldDescriptor :=
  (record.schema.slot place).kind

theorem slot_at (record : RecordDescriptor) (place : record.schema.Place) :
    record.schema.slot place = (record.fieldAt place).slot := by
  have member : record.schema.slot place ∈ record.fields.map FieldDescriptor.slot :=
    List.get_mem _ _
  obtain ⟨field, _, isSlot⟩ := List.mem_map.mp member
  rw [fieldAt, ← isSlot]
  rfl

theorem fields_by_place (record : RecordDescriptor) :
    record.schema.places.map record.fieldAt = record.fields := by
  have slots : record.schema.places.map record.schema.slot = record.schema.slots :=
    List.map_get_finRange record.schema.slots
  have kinds : record.schema.slots.map Slot.kind = record.fields := by
    simp [schema, Function.comp_def, FieldDescriptor.slot]
  rw [← kinds, ← slots, List.map_map]
  rfl

theorem field_at_mem (record : RecordDescriptor) (place : record.schema.Place) :
    record.fieldAt place ∈ record.fields := by
  rw [← record.fields_by_place]
  exact List.mem_map_of_mem (List.mem_finRange place)

theorem exists_place (record : RecordDescriptor) (field : FieldDescriptor)
    (member : field ∈ record.fields) : ∃ place, record.fieldAt place = field := by
  rw [← record.fields_by_place, List.mem_map] at member
  obtain ⟨place, _, atPlace⟩ := member
  exact ⟨place, atPlace⟩

theorem field_at_injective (record : RecordDescriptor)
    (distinct : (record.fields.map FieldDescriptor.identifier).Nodup) :
    Function.Injective record.fieldAt := by
  have nodup : (record.schema.places.map record.fieldAt).Nodup := by
    rw [record.fields_by_place]
    exact distinct.of_map _
  intro first second same
  exact List.inj_on_of_nodup_map nodup (List.mem_finRange first) (List.mem_finRange second) same

end RecordDescriptor

/-! ## Records and partials as values -/

/-- What a record holds for a field, as generated code has it. -/
def Slot.heldValue : (slot : Slot FieldDescriptor) → slot.Held (fun _ => Value Content) →
    Value Content
  | ⟨_, _, true⟩ => Value.ofOption
  | ⟨_, _, false⟩ => fun value => value

/-- A record of the schema as a value of generated code. -/
def RecordDescriptor.ofRecord (record : RecordDescriptor)
    (held : record.schema.Record fun _ => Value Content) : Value Content :=
  .structure record.path (record.schema.places.map fun place =>
    ((record.fieldAt place).identifier, (record.schema.slot place).heldValue (held place)))

/-- A partial of the schema as a value of generated code. -/
def Artifact.ofPartial (artifact : Artifact) (record : RecordDescriptor)
    (content : record.schema.Partial fun _ => Value Content) : Value Content :=
  .structure artifact.partialPath (record.schema.places.map fun place =>
    ((record.fieldAt place).identifier, .ofOption (content place)))

theorem of_option_injective : Function.Injective (Value.ofOption : Option (Value Content) → Value Content) := by
  intro first second same
  cases first <;> cases second <;> cases same <;> rfl

namespace Slot

theorem held_value_injective (slot : Slot FieldDescriptor) :
    Function.Injective (slot.heldValue : (slot.Held fun _ => Value Content) → Value Content) := by
  obtain ⟨name, kind, isNullable⟩ := slot
  cases isNullable with
  | true => exact of_option_injective
  | false => exact fun _ _ same => same

/-- What a partial holds for a field of the record is what the record holds, lifted. -/
theorem stored_value (slot : Slot FieldDescriptor)
    (sameNullable : slot.isNullable = slot.kind.isNullable)
    (held : slot.Held fun _ => Value Content) :
    slot.kind.storedAs (slot.heldValue held) = Value.ofOption (slot.lift held) := by
  obtain ⟨name, kind, isNullable⟩ := slot
  cases isNullable with
  | true => rw [FieldDescriptor.storedAs, if_pos sameNullable.symm]; rfl
  | false => rw [FieldDescriptor.storedAs, if_neg (by simp [← sameNullable])]; rfl

/-- A value taken out of a partial is held as a record holds a value that is set. -/
theorem settled_value (slot : Slot FieldDescriptor)
    (sameNullable : slot.isNullable = slot.kind.isNullable) (value : Value Content) :
    slot.kind.heldAs value =
      slot.heldValue (slot.settle value : slot.Held fun _ => Value Content) := by
  obtain ⟨name, kind, isNullable⟩ := slot
  cases isNullable with
  | true => rw [FieldDescriptor.heldAs, if_pos sameNullable.symm]; rfl
  | false => rw [FieldDescriptor.heldAs, if_neg (by simp [← sameNullable])]; rfl

end Slot

theorem slot_nullable (record : RecordDescriptor) (place : record.schema.Place) :
    (record.schema.slot place).isNullable = (record.schema.slot place).kind.isNullable := by
  rw [record.slot_at]
  rfl

namespace RecordDescriptor

theorem of_record_injective (record : RecordDescriptor) :
    Function.Injective (record.ofRecord : (record.schema.Record fun _ => Value Content) →
      Value Content) := by
  intro first second same
  injection same with _ members
  funext place
  have pair := List.map_inj_left.mp members place (List.mem_finRange place)
  exact (record.schema.slot place).held_value_injective (Prod.mk.inj pair).2

variable (record : RecordDescriptor)

/-- What is held at the places can be given by the fields there. -/
theorem exists_by_field {Held : Type} [Nonempty Held]
    (distinct : (record.fields.map FieldDescriptor.identifier).Nodup)
    (held : record.schema.Place → Held) :
    ∃ byField : FieldDescriptor → Held, ∀ place, byField (record.fieldAt place) = held place :=
  ⟨Function.extend record.fieldAt held fun _ => Classical.arbitrary Held,
    (record.field_at_injective distinct).extend_apply _ _⟩

theorem members_by_place (byField : FieldDescriptor → Value Content)
    (held : record.schema.Place → Value Content)
    (agrees : ∀ place, byField (record.fieldAt place) = held place) :
    (record.fields.map fun field => (field.identifier, byField field)) =
      record.schema.places.map fun place => ((record.fieldAt place).identifier, held place) := by
  rw [← record.fields_by_place, List.map_map]
  exact List.map_congr_left fun place _ => by rw [Function.comp_apply, agrees place]

/-- A record is given by what its fields hold. -/
theorem value_by_place (byField : FieldDescriptor → Value Content)
    (held : record.schema.Record fun _ => Value Content)
    (agrees : ∀ place,
      byField (record.fieldAt place) = (record.schema.slot place).heldValue (held place)) :
    record.value byField = record.ofRecord held := by
  rw [value, record.members_by_place byField _ agrees]
  rfl

/-- A partial is given by what its fields store. -/
theorem partial_by_place (artifact : Artifact) (byField : FieldDescriptor → Option (Value Content))
    (content : record.schema.Partial fun _ => Value Content)
    (agrees : ∀ place, byField (record.fieldAt place) = content place) :
    artifact.partialValue record byField = artifact.ofPartial record content := by
  rw [Artifact.partialValue, Artifact.partialHolding, record.members_by_place _
    (fun place => Value.ofOption (content place)) fun place => by rw [agrees place]]
  rfl

end RecordDescriptor

theorem Artifact.of_partial_injective (artifact : Artifact) (record : RecordDescriptor) :
    Function.Injective (artifact.ofPartial record : (record.schema.Partial fun _ => Value Content) →
      Value Content) := by
  intro first second same
  injection same with _ members
  funext place
  have pair := List.map_inj_left.mp members place (List.mem_finRange place)
  exact of_option_injective (Prod.mk.inj pair).2

/-! ## Lenses -/

/-- A lens of generated code reads and replaces as a lens of the schema does. -/
def Lens.IsCarriedOutBy {Whole Part : Type} (lens : Lens Whole Part) (structures : StructureTable)
    (whole : Whole → Value Content) (part : Part → Value Content) (value : Value Content) : Prop :=
  ∃ get set, value = .lens get set ∧
    (∀ source, get.call structures [whole source] = some (part (lens.get source))) ∧
    ∀ source focus, set.call structures [whole source, part focus] =
      some (whole (lens.set source focus))

/-- A lens about the field at a place carries out the lens on that place. -/
theorem lens_at_place (record : RecordDescriptor)
    (distinct : (record.fields.map FieldDescriptor.identifier).Nodup) {Held : Type} [Nonempty Held]
    {Stored : record.schema.Place → Type} (encode : (place : record.schema.Place) → Stored place →
      Held)
    (structures : StructureTable) (byField : (FieldDescriptor → Held) → Value Content)
    (byPlace : ((place : record.schema.Place) → Stored place) → Value Content)
    (agree : ∀ fields places,
      (∀ place, fields (record.fieldAt place) = encode place (places place)) →
        byField fields = byPlace places)
    (part : Held → Value Content) (place : record.schema.Place) (value : Value Content)
    (focused : (record.fieldAt place).IsFocusOf structures byField part value) :
    (Lens.atPlace place : Lens ((place : record.schema.Place) → Stored place) _).IsCarriedOutBy
      structures byPlace
      (fun stored => part (encode place stored)) value := by
  obtain ⟨get, set, isLens, reads, replaces⟩ := focused
  refine ⟨get, set, isLens, ?_, ?_⟩
  · intro source
    obtain ⟨fields, agrees⟩ := record.exists_by_field distinct fun place =>
      encode place (source place)
    rw [← agree fields source agrees, reads, agrees]
    rfl
  · intro source focus
    obtain ⟨fields, agrees⟩ := record.exists_by_field distinct fun place =>
      encode place (source place)
    rw [← agree fields source agrees, replaces]
    congr 1
    apply agree
    intro other
    by_cases same : place = other
    · subst same
      rw [Function.update_self]
      exact congrArg (encode place) (replace_same source place focus).symm
    · rw [Function.update_of_ne fun sameField =>
        same (record.field_at_injective distinct sameField).symm, agrees]
      exact congrArg (encode other) (replace_other source place other same focus).symm

/-! ## The companions -/

/-- The companions of a record carry out the operations of its schema. -/
structure Artifact.CarriesOut (artifact : Artifact) (record : RecordDescriptor) (Content : Type) :
    Prop where
  default : artifact.default? =
    some (artifact.ofPartial record (.empty : record.schema.Partial fun _ => Value Content))
  combine : ∀ first second : record.schema.Partial fun _ => Value Content,
    artifact.call record .combine "combine"
        [artifact.ofPartial record first, artifact.ofPartial record second] =
      some (artifact.ofPartial record (first.combine second))
  isComplete : ∀ content : record.schema.Partial fun _ => Value Content,
    artifact.call record .build "is_complete" [artifact.ofPartial record content] =
      some (.truth content.isComplete)
  build : ∀ content : record.schema.Partial fun _ => Value Content,
    artifact.call record .build "build" [artifact.ofPartial record content] =
      some (.ofOption (content.build.map record.ofRecord))
  asPartial : ∀ held : record.schema.Record fun _ => Value Content,
    artifact.call record .context "as_partial" [record.ofRecord held] =
      some (artifact.ofPartial record held.asPartial)
  accessor : ∀ place : record.schema.Place,
    let accessor := record.schema.accessor (fun _ => Value Content) place
    ∃ onRecord onPartial lift : Value Content,
      artifact.call record .fields (record.fieldAt place).identifier.text [] =
          some (.accessor (.text accessor.name) onRecord onPartial lift) ∧
        accessor.onRecord.IsCarriedOutBy (artifact.structures record) record.ofRecord
          (record.schema.slot place).heldValue onRecord ∧
        accessor.onPartial.IsCarriedOutBy (artifact.structures record)
          (artifact.ofPartial record) Value.ofOption onPartial ∧
        ∀ held, lift.call (artifact.structures record)
            [(record.schema.slot place).heldValue held] =
          some (.ofOption (accessor.lift held))

/-- The record that is built has, by its fields, what the partial has settled. -/
theorem build_by_place {artifact : Artifact} {record : RecordDescriptor} {plan : Plan}
    (follows : artifact.Follows record plan)
    (distinct : (record.fields.map FieldDescriptor.identifier).Nodup)
    (content : record.schema.Partial fun _ => Value Content) :
    artifact.call record .build "build" [artifact.ofPartial record content] =
      some (.ofOption (content.build.map record.ofRecord)) := by
  obtain ⟨stored, storedAt⟩ := record.exists_by_field distinct content
  rw [← record.partial_by_place artifact stored content storedAt]
  cases built : content.build with
  | none =>
      have incomplete : content.isComplete = false := by
        rw [← Schema.Partial.build_is_some, built]
        rfl
      have someUnset : ∃ place, content place = none := by
        by_contra allSet
        rw [Bool.eq_false_iff, Ne, Schema.Partial.is_complete_iff] at incomplete
        exact incomplete fun place =>
          Option.isSome_iff_ne_none.mpr fun unset => allSet ⟨place, unset⟩
      obtain ⟨place, unset⟩ := someUnset
      exact follows.build_unset distinct stored
        ⟨record.fieldAt place, record.field_at_mem place, (storedAt place).trans unset⟩
  | some held =>
      choose settled isSet isHeld using (Schema.Partial.build_iff content held).mp built
      obtain ⟨values, valuesAt⟩ := @RecordDescriptor.exists_by_field record _ ⟨Value.absent⟩ distinct
        settled
      have set : ∀ field ∈ record.fields, stored field = some (values field) := by
        intro field member
        obtain ⟨place, rfl⟩ := record.exists_place field member
        rw [storedAt, valuesAt, isSet]
      rw [follows.build_meaning distinct stored values set]
      congr 2
      apply record.value_by_place
      intro place
      rw [valuesAt, isHeld]
      exact (record.schema.slot place).settled_value (slot_nullable record place) (settled place)

theorem all_fields_set (record : RecordDescriptor)
    (content : record.schema.Partial fun _ => Value Content)
    (stored : FieldDescriptor → Option (Value Content))
    (storedAt : ∀ place, stored (record.fieldAt place) = content place) :
    (record.fields.all fun field => (stored field).isSome) = content.isComplete := by
  rw [← record.fields_by_place, List.all_map, Schema.Partial.isComplete]
  congr 1
  funext place
  rw [Function.comp_apply, storedAt]

/-- The companions that are generated for a record whose fields have different names carry out the
operations of its schema. -/
theorem companions_carry_out {record : RecordDescriptor} {settings : Settings}
    {artifact : Artifact} (synthesized : record.synthesize settings = .ok artifact)
    (distinct : (record.fields.map FieldDescriptor.identifier).Nodup) (Content : Type) :
    artifact.CarriesOut record Content := by
  obtain ⟨plan, planned, follows⟩ := synthesize_plan synthesized
  refine
    { default := ?_, combine := ?_, isComplete := ?_, build := build_by_place follows distinct,
      asPartial := ?_, accessor := ?_ }
  · rw [follows.default_meaning (plan_optional planned)]
    exact congrArg some (record.partial_by_place artifact _ _ fun _ => rfl)
  · intro first second
    obtain ⟨ofFirst, firstAt⟩ := record.exists_by_field distinct first
    obtain ⟨ofSecond, secondAt⟩ := record.exists_by_field distinct second
    rw [← record.partial_by_place artifact ofFirst first firstAt,
      ← record.partial_by_place artifact ofSecond second secondAt,
      follows.combine_meaning distinct ofFirst ofSecond]
    congr 1
    apply record.partial_by_place
    intro place
    rw [firstAt, secondAt]
    rfl
  · intro content
    obtain ⟨stored, storedAt⟩ := record.exists_by_field distinct content
    rw [← record.partial_by_place artifact stored content storedAt,
      follows.is_complete_meaning distinct stored, all_fields_set record content stored storedAt]
  · intro held
    obtain ⟨byField, heldAt⟩ := @RecordDescriptor.exists_by_field record _ ⟨Value.absent⟩ distinct
      fun place => (record.schema.slot place).heldValue (held place)
    rw [← record.value_by_place byField held heldAt, follows.as_partial_meaning distinct byField]
    congr 1
    rw [Artifact.partialHolding, record.members_by_place _
      (fun place => Value.ofOption (held.asPartial place)) ?_]
    · rfl
    · intro place
      rw [heldAt]
      exact (record.schema.slot place).stored_value (slot_nullable record place) (held place)
  · intro place
    obtain ⟨onRecord, onPartial, lift, made, aboutRecord, aboutPartial, lifts⟩ :=
      @Artifact.Follows.accessor_meaning Content _ _ _ follows distinct (record.fieldAt place)
        (record.field_at_mem place)
    refine ⟨onRecord, onPartial, lift, ?_, ?_, ?_, ?_⟩
    · have named : (record.schema.slot place).name = (record.fieldAt place).name :=
        congrArg Slot.name (record.slot_at place)
      rw [made, ← named]
      rfl
    · exact @lens_at_place _ record distinct _ ⟨Value.absent⟩ _
        (fun place => (record.schema.slot place).heldValue) _ _ record.ofRecord
        (fun fields places => record.value_by_place fields places) id place onRecord aboutRecord
    · exact lens_at_place record distinct (fun _ stored => stored) _ _ (artifact.ofPartial record)
        (fun fields places => record.partial_by_place artifact fields places) Value.ofOption place
        onPartial aboutPartial
    · intro held
      rw [lifts]
      exact congrArg some ((record.schema.slot place).stored_value (slot_nullable record place)
        held)

end Recordsmith
