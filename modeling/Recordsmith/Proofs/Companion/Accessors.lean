import Mathlib.Logic.Function.Basic
import Recordsmith.Proofs.Companion.Values

/-!
The accessors of a record's fields. Both lenses of an accessor are written by one template, so
one theorem covers them: a lens reads the value of its own field, and replacing that value leaves
every other field as it was.
-/

namespace Recordsmith

open Code

variable {Content : Type}

/-- A lens is about one field of a structure. `whole` is the structure by what its fields hold,
and `part` how a field holds its value. -/
def FieldDescriptor.IsFocusOf {Held : Type} (field : FieldDescriptor) (structures : StructureTable)
    (whole : (FieldDescriptor → Held) → Value Content) (part : Held → Value Content)
    (lens : Value Content) : Prop :=
  ∃ get set, lens = .lens get set ∧
    (∀ held, get.call structures [whole held] = some (part (held field))) ∧
    ∀ held focus, set.call structures [whole held, part focus] =
      some (whole (Function.update held field focus))

theorem same_field (fields : List FieldDescriptor)
    (distinct : (fields.map FieldDescriptor.identifier).Nodup) (first second : FieldDescriptor)
    (firstMember : first ∈ fields) (secondMember : second ∈ fields)
    (same : first.identifier = second.identifier) : first = second :=
  List.inj_on_of_nodup_map distinct firstMember secondMember same

theorem find_accessor (plan : Plan) (fields : List FieldDescriptor) (planned : List PlannedField)
    (taken : List.Forall₂ FieldDescriptor.PlannedAs fields planned)
    (distinct : (fields.map FieldDescriptor.identifier).Nodup) (field : FieldDescriptor)
    (member : field ∈ fields) :
    ∃ found, field.PlannedAs found ∧
      (planned.map plan.accessor).find? (fun function => function.name == field.identifier.text) =
        some (plan.accessor found) := by
  induction taken with
  | nil => cases member
  | @cons first found _ _ alike _ induction =>
      rw [List.map_cons, List.nodup_cons] at distinct
      rw [List.map_cons, List.find?_cons]
      rcases List.mem_cons.mp member with rfl | later
      · refine ⟨found, alike, ?_⟩
        have named : (plan.accessor found).name = field.identifier.text := by
          rw [Plan.accessor, alike.1]
        rw [named, beq_self_eq_true]
      · have different : (plan.accessor found).name ≠ field.identifier.text := by
          intro same
          rw [Plan.accessor, alike.1] at same
          have sameIdentifier : first.identifier = field.identifier :=
            Identifier.text_injective same
          exact distinct.1 (sameIdentifier ▸ List.mem_map_of_mem later)
        rw [beq_false_of_ne different]
        exact induction distinct.2 later

namespace Artifact.Follows

variable {artifact : Artifact} {record : RecordDescriptor} {plan : Plan}
  (follows : artifact.Follows record plan)
  (distinct : (record.fields.map FieldDescriptor.identifier).Nodup)

include follows distinct

theorem evaluate_refocused {Held : Type} (part : Held → Value Content) (type : CodeType)
    (path : List Identifier) (scope : Scope Content)
    (named : scope.structurePath? type = some path)
    (declared : scope.structures.lookup path =
      some (record.fields.map FieldDescriptor.identifier))
    (field : FieldDescriptor) (member : field ∈ record.fields) (held : FieldDescriptor → Held)
    (focus : Held)
    (source : scope.bindings.lookup "source" = some (.structure path
      (record.fields.map fun field => (field.identifier, part (held field)))))
    (focusBound : scope.bindings.lookup "focus" = some (part focus)) :
    evaluate scope (plan.refocused type field.identifier) =
      .ok (.structure path (record.fields.map fun other =>
        (other.identifier, part (Function.update held field focus other)))) := by
  rw [Plan.refocused, follows.written_for_fields _
    (fun other => if other.identifier = field.identifier then .variable "focus"
      else .member (.variable "source") other.identifier)
    (fun other planned taken => by rw [taken.1])]
  apply evaluate_construct FieldDescriptor.identifier
    (fun other => part (Function.update held field focus other)) scope record.fields _ type path
    false named declared distinct
  intro other otherMember
  by_cases focused : other.identifier = field.identifier
  · have same := same_field record.fields distinct other field otherMember member focused
    rw [if_pos focused, same, Function.update_self, evaluate, Scope.variableValue, focusBound]
  · have different : other ≠ field := by
      intro same
      exact focused (by rw [same])
    rw [if_neg focused, Function.update_of_ne different]
    exact evaluate_member FieldDescriptor.identifier (fun field => part (held field)) scope
      "source" path record.fields distinct source other otherMember

/-- The lens that is written for a field is about that field. -/
theorem lens_meaning {Held : Type} (part : Held → Value Content) (type fieldType : CodeType)
    (path : List Identifier) (scope : Scope Content)
    (named : ∀ bindings,
      Scope.structurePath? (⟨scope.structures, scope.self, bindings⟩ : Scope Content) type =
        some path)
    (declared : scope.structures.lookup path =
      some (record.fields.map FieldDescriptor.identifier))
    (field : FieldDescriptor) (member : field ∈ record.fields) :
    ∃ lens, evaluate scope (plan.lens type fieldType field.identifier) = .ok lens ∧
      field.IsFocusOf scope.structures
        (fun held => .structure path
          (record.fields.map fun field => (field.identifier, part (held field))))
        part lens := by
  refine ⟨_, rfl, _, _, rfl, ?_, ?_⟩
  · intro held
    let inside : Scope Content := ⟨scope.structures, scope.self,
      ("source", .structure path
        (record.fields.map fun field => (field.identifier, part (held field)))) ::
        scope.bindings⟩
    have read := evaluate_member FieldDescriptor.identifier (fun field => part (held field)) inside
      "source" path record.fields distinct rfl field member
    change finish true (evaluate inside (Plan.copied "source" field.identifier)) = _
    rw [evaluate_copied inside "source" field.identifier _ read]
    rfl
  · intro held focus
    let inside : Scope Content := ⟨scope.structures, scope.self,
      ("source", .structure path
        (record.fields.map fun field => (field.identifier, part (held field)))) ::
        ("focus", part focus) :: scope.bindings⟩
    change finish true (evaluate inside (plan.refocused type field.identifier)) = _
    rw [follows.evaluate_refocused distinct part type path inside (named _) declared field member
      held focus rfl rfl]
    rfl

/-- The accessor of a field is about that field, on the record and on its partial. -/
theorem accessor_meaning (field : FieldDescriptor) (member : field ∈ record.fields) :
    ∃ onRecord onPartial lift : Value Content,
      artifact.call record .fields field.identifier.text [] =
          some (.accessor (.text field.name) onRecord onPartial lift) ∧
        field.IsFocusOf (artifact.structures record) record.value id onRecord ∧
        field.IsFocusOf (artifact.structures record) (artifact.partialValue record)
          Value.ofOption onPartial ∧
        ∀ value, lift.call (artifact.structures record) [value] = some (field.storedAs value) := by
  let scope : Scope Content := ⟨artifact.structures record, plan.recordPath, []⟩
  obtain ⟨planned, taken, found⟩ := find_accessor plan record.fields plan.fields follows.fields
    distinct field member
  obtain ⟨onRecord, evaluatedRecord, aboutRecord⟩ := follows.lens_meaning distinct id
    plan.recordType planned.valueType record.path scope
    (fun _ => by rw [Plan.recordType, Scope.structurePath?, follows.path])
    follows.record_declared field member
  obtain ⟨onPartial, evaluatedPartial, aboutPartial⟩ := follows.lens_meaning distinct Value.ofOption
    plan.partialTypeName planned.partialType artifact.partialPath scope
    (fun _ => by rw [follows.partial_path]; rfl) follows.partial_declared field member
  let lift : Value Content := .function plan.recordPath [] ["focus"]
    (if planned.isNullable then .variable "focus" else Plan.wrapped (.variable "focus"))
  have evaluatedLift : evaluate scope (Plan.lift planned) = .ok lift := rfl
  refine ⟨onRecord, onPartial, lift, ?_, aboutRecord, aboutPartial, ?_⟩
  · have body : evaluate scope (plan.accessor planned).body =
        .ok (.accessor (.text field.name) onRecord onPartial lift) := by
      rw [Plan.accessor, taken.1, taken.2.2]
      simp only [evaluate, evaluateAll, evaluatedRecord, evaluatedPartial, evaluatedLift]
      rfl
    have functions : plan.fieldsItem.functions = plan.fields.map plan.accessor := by
      rw [Plan.fieldsItem, Item.functions, List.filterMap_map, ← List.filterMap_eq_map]
      rfl
    rw [follows.call_item, Item.call]
    change ((plan.fieldsItem.functions.find? fun function =>
      function.name == field.identifier.text) >>= fun function =>
        function.call (artifact.structures record) plan.recordPath []) = _
    rw [functions, found]
    change finish false (evaluate scope (plan.accessor planned).body) = _
    rw [body]
    rfl
  · intro value
    let inside : Scope Content := ⟨artifact.structures record, plan.recordPath, [("focus", value)]⟩
    change finish true (evaluate inside
      (if planned.isNullable then .variable "focus" else Plan.wrapped (.variable "focus"))) = _
    rw [taken.2.1, FieldDescriptor.storedAs]
    split
    · rfl
    · rw [evaluate_wrapped inside (.variable "focus") value rfl]
      rfl

end Artifact.Follows

end Recordsmith
