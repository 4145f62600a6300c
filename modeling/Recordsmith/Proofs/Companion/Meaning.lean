import Recordsmith.Proofs.Companion.Accessors

/-!
What the companions of a record do. Each declaration is run field by field: the value that every
initializer gives follows from the values that the record or the partial holds, and the structure
has them all because it gives every field once.
-/

namespace Recordsmith

open Code

variable {Content : Type}

namespace Code

theorem or_else_options (first second : Option (Value Content)) :
    (Value.ofOption first).orElse (.ofOption second) = .ok (.ofOption (first.or second)) := by
  cases first <;> cases second <;> rfl

theorem option_is_present (optional : Option (Value Content)) :
    (Value.ofOption optional).isPresent = .ok optional.isSome := by
  cases optional <;> rfl

theorem evaluate_is_present (scope : Scope Content) (expression : Expression)
    (optional : Option (Value Content))
    (evaluated : evaluate scope expression = .ok (.ofOption optional)) :
    evaluate scope (.isPresent expression) = .ok (.truth optional.isSome) := by
  rw [evaluate, evaluated]
  change (Value.ofOption optional).isPresent >>= _ = _
  rw [option_is_present]
  rfl

theorem evaluate_both (scope : Scope Content) (left right : Expression) (first second : Bool)
    (evaluatedLeft : evaluate scope left = .ok (.truth first))
    (evaluatedRight : evaluate scope right = .ok (.truth second)) :
    evaluate scope (.both left right) = .ok (.truth (first && second)) := by
  rw [evaluate, evaluatedLeft, evaluatedRight]
  cases first <;> rfl

end Code

/-- How the initializer of a field is written that builds it from the partial. -/
def FieldDescriptor.builtValue (field : FieldDescriptor) : Expression :=
  let value := Expression.require (Plan.copied "self" field.identifier)
  if field.isNullable then Plan.wrapped value else value

theorem evaluate_built (artifact : Artifact) (record : RecordDescriptor)
    (distinct : (record.fields.map FieldDescriptor.identifier).Nodup) (scope : Scope Content)
    (stored : FieldDescriptor → Option (Value Content))
    (bound : scope.bindings.lookup "self" = some (artifact.partialValue record stored))
    (field : FieldDescriptor) (member : field ∈ record.fields) :
    evaluate scope field.builtValue =
      (Value.ofOption (stored field)).require.map field.heldAs := by
  have read := evaluate_member FieldDescriptor.identifier
    (fun field => Value.ofOption (stored field)) scope "self" artifact.partialPath record.fields
    distinct bound field member
  have required : evaluate scope (.require (Plan.copied "self" field.identifier)) =
      (Value.ofOption (stored field)).require := by
    rw [evaluate, evaluate_copied scope "self" field.identifier _ read]
    rfl
  unfold FieldDescriptor.builtValue FieldDescriptor.heldAs
  cases isSet : stored field with
  | none =>
      rw [isSet] at required
      split
      · rw [Plan.wrapped, evaluate, evaluateAll, required]
        rfl
      · rw [required]
        rfl
  | some value =>
      rw [isSet] at required
      split
      · exact evaluate_wrapped scope _ _ required
      · exact required

theorem evaluate_checks (scope : Scope Content) (fields : List FieldDescriptor)
    (planned : List PlannedField) (taken : List.Forall₂ FieldDescriptor.PlannedAs fields planned)
    (stored : FieldDescriptor → Option (Value Content))
    (checked : ∀ field ∈ fields,
      evaluate scope (.isPresent (.member (.variable "self") field.identifier)) =
        .ok (.truth (stored field).isSome))
    (checks : Expression) (soFar : Bool) (evaluated : evaluate scope checks = .ok (.truth soFar)) :
    evaluate scope (planned.foldl (fun checks field =>
      .both checks (.isPresent (.member (.variable "self") field.identifier))) checks) =
      .ok (.truth (soFar && fields.all fun field => (stored field).isSome)) := by
  induction taken generalizing checks soFar with
  | nil => rw [List.foldl_nil, List.all_nil, Bool.and_true, evaluated]
  | @cons field _ _ _ first _ induction =>
      have next := evaluate_both scope checks _ soFar _ evaluated (checked field (by simp))
      rw [← first.1] at next
      rw [List.foldl_cons, induction (fun field member => checked field (by simp [member])) _ _ next,
        List.all_cons, Bool.and_assoc]

theorem evaluate_completeness (scope : Scope Content) (fields : List FieldDescriptor)
    (planned : List PlannedField) (taken : List.Forall₂ FieldDescriptor.PlannedAs fields planned)
    (stored : FieldDescriptor → Option (Value Content))
    (checked : ∀ field ∈ fields,
      evaluate scope (.isPresent (.member (.variable "self") field.identifier)) =
        .ok (.truth (stored field).isSome)) :
    evaluate scope (Plan.completeness planned) =
      .ok (.truth (fields.all fun field => (stored field).isSome)) := by
  cases taken with
  | nil => rfl
  | @cons field _ _ _ first rest =>
      have begun := checked field (by simp)
      rw [← first.1] at begun
      rw [Plan.completeness, List.all_cons]
      exact evaluate_checks scope _ _ rest stored
        (fun field member => checked field (by simp [member])) _ _ begun

namespace Artifact.Follows

variable {artifact : Artifact} {record : RecordDescriptor} {plan : Plan}
  (follows : artifact.Follows record plan)
  (distinct : (record.fields.map FieldDescriptor.identifier).Nodup)

include follows

/-- By default nothing is set in a partial, if all its fields are optional. -/
theorem default_meaning
    (optional : ∀ planned ∈ plan.fields, ∃ inner, planned.partialType = .optional inner) :
    artifact.default? = some (artifact.partialValue record fun _ => (none : Option (Value Content)))
    := by
  have members : (plan.fields.map fun planned => (planned.identifier, Value.absent)) =
      record.fields.map fun field => (field.identifier, (.absent : Value Content)) :=
    map_planned follows.fields fun field planned taken => by rw [taken.1]
  have fields := @default_members Content (plan.fields.map fun field : PlannedField =>
      ⟨" Value of `" ++ plan.recordName ++ "::" ++ field.name ++ "`, if set.", field.visibility,
        field.identifier, field.partialType⟩) (by
    intro item member
    obtain ⟨planned, isPlanned, rfl⟩ := List.mem_map.mp member
    exact optional planned isPlanned)
  rw [List.map_map, Function.comp_def, members] at fields
  rw [Artifact.default?, follows.declaration_of_kind]
  change plan.partialItem.default? = _
  rw [Plan.partialItem, Item.default?, if_pos (by decide), fields]
  rw [Artifact.partialValue, Artifact.partialHolding, follows.partial_path]
  rfl

include distinct

/-- Combining takes every field from the first partial that has it. -/
theorem combine_meaning (first second : FieldDescriptor → Option (Value Content)) :
    artifact.call record .combine "combine"
        [artifact.partialValue record first, artifact.partialValue record second] =
      some (artifact.partialValue record fun field => (first field).or (second field)) := by
  let scope : Scope Content := ⟨artifact.structures record, artifact.partialPath,
    [("self", artifact.partialValue record first),
      (plan.otherName, artifact.partialValue record second)]⟩
  have otherBound : scope.bindings.lookup plan.otherName =
      some (artifact.partialValue record second) := by
    have different : plan.otherName ≠ "self" := by
      unfold Plan.otherName
      split <;> decide
    simp only [scope, List.lookup_cons, beq_false_of_ne different, beq_self_eq_true]
  have members := follows.written_for_fields
    (fun planned => .orElse (.member (.variable "self") planned.identifier)
      (.member (.variable plan.otherName) planned.identifier))
    (fun field => .orElse (.member (.variable "self") field.identifier)
      (.member (.variable plan.otherName) field.identifier))
    (fun field planned taken => by rw [taken.1])
  have body := follows.construct_partial distinct scope rfl .itself rfl
    (fun field => .orElse (.member (.variable "self") field.identifier)
      (.member (.variable plan.otherName) field.identifier))
    (fun field => .ofOption ((first field).or (second field))) true (by
      intro field member
      have ofSelf := evaluate_member FieldDescriptor.identifier
        (fun field => Value.ofOption (first field)) scope "self" artifact.partialPath record.fields
        distinct rfl field member
      have ofOther := evaluate_member FieldDescriptor.identifier
        (fun field => Value.ofOption (second field)) scope plan.otherName artifact.partialPath
        record.fields distinct otherBound field member
      rw [evaluate, ofSelf, ofOther]
      exact or_else_options (first field) (second field))
  rw [follows.call_item]
  change finish false (evaluate ⟨artifact.structures record, [plan.partialName],
    [("self", artifact.partialValue record first),
      (plan.otherName, artifact.partialValue record second)]⟩
    (.construct .itself (plan.fields.map fun planned => .mk planned.identifier
      (.orElse (.member (.variable "self") planned.identifier)
        (.member (.variable plan.otherName) planned.identifier))) true)) = _
  rw [members, ← follows.partial_path, body]
  rfl

omit distinct in
theorem built_members :
    (plan.fields.map fun planned => .mk planned.identifier (Plan.builtValue planned)) =
      record.fields.map fun field => Initializer.mk field.identifier field.builtValue := by
  apply follows.written_for_fields
  intro field planned taken
  rw [Plan.builtValue, FieldDescriptor.builtValue, taken.1, taken.2.1]

omit distinct in
theorem call_build (stored : FieldDescriptor → Option (Value Content)) :
    artifact.call record .build "build" [artifact.partialValue record stored] =
      finish true (evaluate ⟨artifact.structures record, [plan.partialName],
        [("self", artifact.partialValue record stored)]⟩
        (Plan.wrapped (.construct plan.recordType (record.fields.map fun field =>
          .mk field.identifier field.builtValue) true))) := by
  rw [follows.call_item, ← follows.built_members]
  rfl

/-- A partial with every field is built into the record of their values. -/
theorem build_meaning (stored : FieldDescriptor → Option (Value Content))
    (values : FieldDescriptor → Value Content)
    (set : ∀ field ∈ record.fields, stored field = some (values field)) :
    artifact.call record .build "build" [artifact.partialValue record stored] =
      some (.present (record.value fun field => field.heldAs (values field))) := by
  have body := follows.construct_record distinct
    ⟨artifact.structures record, [plan.partialName],
      [("self", artifact.partialValue record stored)]⟩
    rfl FieldDescriptor.builtValue (fun field => field.heldAs (values field)) true (by
      intro field member
      rw [evaluate_built artifact record distinct _ stored rfl field member, set field member]
      rfl)
  rw [follows.call_build, evaluate_wrapped _ _ _ body]
  rfl

/-- A partial without some field is not built. -/
theorem build_unset (stored : FieldDescriptor → Option (Value Content))
    (unset : ∃ field ∈ record.fields, stored field = none) :
    artifact.call record .build "build" [artifact.partialValue record stored] =
      some .absent := by
  have members := evaluate_members_early FieldDescriptor.identifier
    ⟨artifact.structures record, [plan.partialName],
      [("self", artifact.partialValue record stored)]⟩
    record.fields FieldDescriptor.builtValue
    (by
      intro field member
      rw [evaluate_built artifact record distinct _ stored rfl field member]
      cases stored field with
      | none => exact .inl rfl
      | some value => exact .inr ⟨field.heldAs value, rfl⟩)
    (by
      obtain ⟨field, member, isUnset⟩ := unset
      refine ⟨field, member, ?_⟩
      rw [evaluate_built artifact record distinct _ stored rfl field member, isUnset]
      rfl)
  rw [follows.call_build, Plan.wrapped, evaluate, evaluateAll, evaluate, members]
  rfl

/-- A partial is complete when it has every field. -/
theorem is_complete_meaning (stored : FieldDescriptor → Option (Value Content)) :
    artifact.call record .build "is_complete" [artifact.partialValue record stored] =
      some (.truth (record.fields.all fun field => (stored field).isSome)) := by
  have answer := evaluate_completeness
    ⟨artifact.structures record, [plan.partialName],
      [("self", artifact.partialValue record stored)]⟩
    record.fields plan.fields follows.fields stored (by
      intro field member
      have read := evaluate_member FieldDescriptor.identifier
        (fun field => Value.ofOption (stored field))
        ⟨artifact.structures record, [plan.partialName],
          [("self", artifact.partialValue record stored)]⟩
        "self" artifact.partialPath record.fields distinct rfl field member
      exact evaluate_is_present _ _ (stored field) read)
  rw [follows.call_item]
  change finish false (evaluate ⟨artifact.structures record, [plan.partialName],
    [("self", artifact.partialValue record stored)]⟩ (Plan.completeness plan.fields)) = _
  rw [answer]
  rfl

/-- A record turned into a partial has every field set that is there in the record. -/
theorem as_partial_meaning (held : FieldDescriptor → Value Content) :
    artifact.call record .context "as_partial" [record.value held] =
      some (artifact.partialHolding record fun field => field.storedAs (held field)) := by
  have members : (plan.fields.map fun planned =>
      .mk planned.identifier (Plan.partialValue planned)) =
      record.fields.map fun field => Initializer.mk field.identifier
        (if field.isNullable then Plan.copied "self" field.identifier
          else Plan.wrapped (Plan.copied "self" field.identifier)) := by
    apply follows.written_for_fields
    intro field planned taken
    rw [Plan.partialValue, taken.1, taken.2.1]
  have body := follows.construct_partial distinct
    ⟨artifact.structures record, plan.recordPath, [("self", record.value held)]⟩ rfl
    plan.partialTypeName (by rw [follows.partial_path]; rfl)
    (fun field => if field.isNullable then Plan.copied "self" field.identifier
      else Plan.wrapped (Plan.copied "self" field.identifier))
    (fun field => field.storedAs (held field)) true (by
      intro field member
      have read := evaluate_member FieldDescriptor.identifier held
        ⟨artifact.structures record, plan.recordPath, [("self", record.value held)]⟩
        "self" record.path record.fields distinct rfl field member
      have copied := evaluate_copied _ _ _ _ read
      unfold FieldDescriptor.storedAs
      split
      · exact copied
      · exact evaluate_wrapped _ _ _ copied)
  rw [follows.call_item]
  change finish false (evaluate ⟨artifact.structures record, plan.recordPath,
    [("self", record.value held)]⟩ (.construct plan.partialTypeName
      (plan.fields.map fun planned => .mk planned.identifier (Plan.partialValue planned)) true)) = _
  rw [members, body]
  rfl

end Artifact.Follows

/-- Generated companions treat every field as its template says, whatever fields the record has.
Combining keeps the first value of a field, building succeeds exactly when every field is set, a
record as a partial has its own values set, and each accessor is about its own field only. -/
theorem companions_act_on_every_field (record : RecordDescriptor) (settings : Settings)
    (artifact : Artifact) (synthesized : record.synthesize settings = .ok artifact)
    (distinct : (record.fields.map FieldDescriptor.identifier).Nodup) (Content : Type) :
    (∀ first second : FieldDescriptor → Option (Value Content),
      artifact.call record .combine "combine"
          [artifact.partialValue record first, artifact.partialValue record second] =
        some (artifact.partialValue record fun field => (first field).or (second field))) ∧
    (∀ (stored : FieldDescriptor → Option (Value Content))
        (values : FieldDescriptor → Value Content),
      (∀ field ∈ record.fields, stored field = some (values field)) →
        artifact.call record .build "build" [artifact.partialValue record stored] =
          some (.present (record.value fun field => field.heldAs (values field)))) ∧
    (∀ stored : FieldDescriptor → Option (Value Content),
      (∃ field ∈ record.fields, stored field = none) →
        artifact.call record .build "build" [artifact.partialValue record stored] =
          some .absent) ∧
    (∀ stored : FieldDescriptor → Option (Value Content), ∃ complete : Bool,
      artifact.call record .build "is_complete" [artifact.partialValue record stored] =
          some (.truth complete) ∧
        (complete = true ↔ ∃ built,
          artifact.call record .build "build" [artifact.partialValue record stored] =
            some (.present built))) ∧
    (∀ held : FieldDescriptor → Value Content,
      artifact.call record .context "as_partial" [record.value held] =
        some (artifact.partialHolding record fun field => field.storedAs (held field))) ∧
    (∀ field ∈ record.fields, ∃ onRecord onPartial lift : Value Content,
      artifact.call record .fields field.identifier.text [] =
          some (.accessor (.text field.name) onRecord onPartial lift) ∧
        field.IsFocusOf (artifact.structures record) record.value id onRecord ∧
        field.IsFocusOf (artifact.structures record) (artifact.partialValue record)
          Value.ofOption onPartial ∧
        ∀ value, lift.call (artifact.structures record) [value] =
          some (field.storedAs value)) := by
  obtain ⟨plan, follows⟩ := synthesize_ok synthesized
  refine ⟨follows.combine_meaning distinct, follows.build_meaning distinct,
    follows.build_unset distinct, ?_, follows.as_partial_meaning distinct,
    follows.accessor_meaning distinct⟩
  intro stored
  refine ⟨_, follows.is_complete_meaning distinct stored, ?_⟩
  rw [List.all_eq_true]
  constructor
  · intro complete
    have set : ∀ field ∈ record.fields,
        stored field = some ((stored field).getD .absent) := by
      intro field member
      obtain ⟨value, isSet⟩ := Option.isSome_iff_exists.mp (complete field member)
      rw [isSet, Option.getD_some]
    exact ⟨_, follows.build_meaning distinct stored _ set⟩
  · rintro ⟨built, isBuilt⟩ field member
    cases isSet : stored field with
    | none =>
        rw [follows.build_unset distinct stored ⟨field, member, isSet⟩] at isBuilt
        cases isBuilt
    | some value => rfl

/-- A record in a scope, with a field that it may lack. -/
def scopedRecord : RecordDescriptor :=
  ⟨"", "scope1", "MyData", "pub", [⟨"arg1", .simple "i32", false, none⟩,
    ⟨"arg2", ⟨"f64", [], true⟩, false, none⟩]⟩

theorem companions_of_scoped_record :
    ∃ artifact, scopedRecord.synthesize .standard = .ok artifact ∧
      (scopedRecord.fields.map FieldDescriptor.identifier).Nodup ∧
      artifact.call scopedRecord .build "build"
          [artifact.partialValue scopedRecord fun field =>
            some (.content field.name)] =
        some (.present (.structure [⟨"scope1"⟩, ⟨"MyData"⟩]
          [(⟨"arg1"⟩, .content "arg1"), (⟨"arg2"⟩, .present (.content "arg2"))])) := by
  have succeeds : (scopedRecord.synthesize .standard).toOption.isSome = true := rfl
  have distinct : (scopedRecord.fields.map FieldDescriptor.identifier).Nodup := by decide
  cases synthesized : scopedRecord.synthesize .standard with
  | error report =>
      rw [synthesized] at succeeds
      cases succeeds
  | ok artifact =>
      refine ⟨artifact, rfl, distinct, ?_⟩
      exact (companions_act_on_every_field scopedRecord .standard artifact synthesized distinct
        String).2.1 (fun field => some (.content field.name)) (fun field => .content field.name)
        (fun _ _ => rfl)

end Recordsmith
