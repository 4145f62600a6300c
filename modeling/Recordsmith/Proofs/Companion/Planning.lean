import Recordsmith.Companion.Artifact
import Recordsmith.Proofs.Outcome

/-!
What a plan takes over from its record. The path of the record and the fields in their order are
those of the record, each name read as an identifier; nothing is added and nothing is lost.
-/

namespace Recordsmith

open Code

theorem Identifier.text_injective : Function.Injective Identifier.text := by
  rintro ⟨first⟩ ⟨second⟩ rfl
  rfl

/-- The identifier that a name reads as. A name that reads as none stands for itself. -/
def Identifier.ofName (name : String) : Identifier := (Identifier.read? name).getD ⟨name⟩

namespace FieldDescriptor

/-- The identifier of a field. -/
def identifier (field : FieldDescriptor) : Identifier := Identifier.ofName field.name

/-- Whether a record may lack the value of a field. -/
def isNullable (field : FieldDescriptor) : Bool := !field.isVariadic && field.type.nullable

/-- A planned field has the identifier, the nullability and the name of the field. -/
def PlannedAs (field : FieldDescriptor) (planned : PlannedField) : Prop :=
  planned.identifier = field.identifier ∧ planned.isNullable = field.isNullable ∧
    planned.name = field.name

end FieldDescriptor

/-- The identifiers that lead to a record. -/
def RecordDescriptor.path (record : RecordDescriptor) : List Identifier :=
  record.pathSegments.map Identifier.ofName

theorem require_ok_iff {name : String} {identifier : Identifier} :
    Identifier.require name = .ok identifier ↔ Identifier.read? name = some identifier := by
  unfold Identifier.require
  cases Identifier.read? name <;> simp

theorem require_ok {name : String} {identifier : Identifier}
    (required : Identifier.require name = .ok identifier) :
    Identifier.ofName name = identifier := by
  rw [Identifier.ofName, require_ok_iff.mp required, Option.getD_some]

/-- What a field of a plan is worked out from. -/
structure FieldDescriptor.Plans (field : FieldDescriptor) (recordVisibility : String)
    (planned : PlannedField) : Prop where
  identifier : Identifier.require field.name = .ok planned.identifier
  visibility : Source.Visibility.require (field.visibility.getD recordVisibility) =
    .ok planned.visibility
  types : field.planTypes = .ok (planned.valueType, planned.partialType)
  isNullable : planned.isNullable = field.isNullable
  name : planned.name = field.name

theorem plan_field_ok_iff {field : FieldDescriptor} {visibility : String}
    {planned : PlannedField} :
    field.plan visibility = .ok planned ↔ field.Plans visibility planned := by
  unfold FieldDescriptor.plan
  simp only [bind_ok_iff]
  constructor
  · rintro ⟨identifier, required, seen, requiredSeen, types, plannedTypes, whole⟩
    cases whole
    exact ⟨required, requiredSeen, plannedTypes, rfl, rfl⟩
  · rintro ⟨required, requiredSeen, plannedTypes, isNullable, name⟩
    refine ⟨_, required, _, requiredSeen, _, plannedTypes, ?_⟩
    rw [FieldDescriptor.isNullable] at isNullable
    rw [← isNullable, ← name]
    rfl

/-- What a plan is worked out from. -/
structure RecordDescriptor.Plans (record : RecordDescriptor) (settings : Settings) (plan : Plan) :
    Prop where
  recordPath : List.Forall₂ (fun name identifier => Identifier.require name = .ok identifier)
    record.pathSegments plan.recordPath
  recordName : plan.recordName = record.scopedName
  partialName : Identifier.require (partialStart ++ record.name) = .ok plan.partialName
  runtime : plan.runtime = settings.runtimePath
  visibility : Source.Visibility.require record.visibility = .ok plan.visibility
  fields : List.Forall₂ (fun field planned => field.plan record.visibility = .ok planned)
    record.fields plan.fields

theorem plan_ok_iff {record : RecordDescriptor} {settings : Settings} {plan : Plan} :
    record.plan settings = .ok plan ↔ record.Plans settings plan := by
  unfold RecordDescriptor.plan
  simp only [bind_ok_iff, collect_ok_iff, under_ok_iff]
  constructor
  · rintro ⟨path, required, partialName, requiredPartial, seen, requiredSeen, fields, planned, whole⟩
    cases whole
    exact ⟨required, rfl, requiredPartial, rfl, requiredSeen, planned⟩
  · rintro ⟨required, recordName, requiredPartial, runtime, requiredSeen, planned⟩
    refine ⟨_, required, _, requiredPartial, _, requiredSeen, _, planned, ?_⟩
    rw [← recordName, ← runtime]
    rfl

theorem plan_field_ok {field : FieldDescriptor} {visibility : String} {planned : PlannedField}
    (succeeded : field.plan visibility = .ok planned) : field.PlannedAs planned := by
  have plans := plan_field_ok_iff.mp succeeded
  exact ⟨(require_ok plans.identifier).symm, plans.isNullable, plans.name⟩

/-- Every field of a partial is optional. -/
theorem plan_field_optional {field : FieldDescriptor} {visibility : String}
    {planned : PlannedField} (succeeded : field.plan visibility = .ok planned) :
    ∃ inner, planned.partialType = .optional inner := by
  have plannedTypes := (plan_field_ok_iff.mp succeeded).types
  unfold FieldDescriptor.planTypes at plannedTypes
  split at plannedTypes
  · obtain ⟨element, _, plannedTypes⟩ := bind_ok plannedTypes
    exact ⟨_, (Prod.mk.inj (Except.ok.inj plannedTypes)).2.symm⟩
  · obtain ⟨value, _, plannedTypes⟩ := bind_ok plannedTypes
    obtain ⟨inner, _, plannedTypes⟩ := bind_ok plannedTypes
    exact ⟨_, (Prod.mk.inj (Except.ok.inj plannedTypes)).2.symm⟩

section

variable {record : RecordDescriptor} {settings : Settings} {plan : Plan}
  (succeeded : record.plan settings = .ok plan)

include succeeded

/-- Every planned field is optional on the partial. -/
theorem plan_optional :
    ∀ planned ∈ plan.fields, ∃ inner, planned.partialType = .optional inner := by
  have optional : List.Forall₂ (fun planned (field : FieldDescriptor) =>
      (∃ inner, planned.partialType = .optional inner) ∧
        field.plan record.visibility = .ok planned) plan.fields record.fields :=
    (plan_ok_iff.mp succeeded).fields.flip.imp
      fun _ _ planned => ⟨plan_field_optional planned, planned⟩
  exact ((List.forall₂_and_left _ _).mp optional).1

/-- A plan has the path of the record and its fields, in their order. -/
theorem plan_ok : plan.recordPath = record.path ∧
    List.Forall₂ FieldDescriptor.PlannedAs record.fields plan.fields := by
  have plans := plan_ok_iff.mp succeeded
  refine ⟨?_, plans.fields.imp fun _ _ => plan_field_ok⟩
  have read : List.Forall₂ Eq record.path plan.recordPath := by
    unfold RecordDescriptor.path
    rw [List.forall₂_map_left_iff]
    exact plans.recordPath.imp fun name identifier required => require_ok required
  rw [List.forall₂_eq_eq_eq] at read
  exact read.symm

/-- The names of planned fields read as identifiers. -/
theorem plan_reads : ∀ field ∈ record.fields,
    Identifier.read? field.name = some field.identifier := by
  have reads : List.Forall₂ (fun field planned =>
      Identifier.read? field.name = some field.identifier ∧ field.PlannedAs planned)
      record.fields plan.fields := by
    refine (plan_ok_iff.mp succeeded).fields.imp fun field planned succeeded => ?_
    have required := (plan_field_ok_iff.mp succeeded).identifier
    refine ⟨?_, plan_field_ok succeeded⟩
    rw [FieldDescriptor.identifier, require_ok required, require_ok_iff.mp required]
  exact ((List.forall₂_and_left _ _).mp reads).1

end

/-- What is worked out alike for a planned field and for the field is worked out alike for all. -/
theorem map_planned {Result : Type} {fields : List FieldDescriptor} {planned : List PlannedField}
    (taken : List.Forall₂ FieldDescriptor.PlannedAs fields planned)
    {ofPlanned : PlannedField → Result} {ofField : FieldDescriptor → Result}
    (alike : ∀ field planned, field.PlannedAs planned → ofPlanned planned = ofField field) :
    planned.map ofPlanned = fields.map ofField := by
  induction taken with
  | nil => rfl
  | cons first _ induction => rw [List.map_cons, List.map_cons, alike _ _ first, induction]

/-- An artifact holds the declarations of a plan, and the plan is about the record. -/
structure Artifact.Follows (artifact : Artifact) (record : RecordDescriptor) (plan : Plan) : Prop
    where
  path : plan.recordPath = record.path
  fields : List.Forall₂ FieldDescriptor.PlannedAs record.fields plan.fields
  partialName : artifact.partialName = plan.partialName.text
  declarations : artifact.declarations =
    DeclarationKind.all.map fun kind => ⟨kind, plan.item kind⟩

/-- An artifact is made from a plan, and holds its declarations. -/
theorem synthesize_plan {record : RecordDescriptor} {settings : Settings} {artifact : Artifact}
    (succeeded : record.synthesize settings = .ok artifact) :
    ∃ plan, record.plan settings = .ok plan ∧ artifact.Follows record plan := by
  obtain ⟨plan, planned, succeeded⟩ := bind_ok succeeded
  cases succeeded
  obtain ⟨path, fields⟩ := plan_ok planned
  exact ⟨plan, planned, path, fields, rfl, rfl⟩

theorem synthesize_ok {record : RecordDescriptor} {settings : Settings} {artifact : Artifact}
    (succeeded : record.synthesize settings = .ok artifact) :
    ∃ plan, artifact.Follows record plan := by
  obtain ⟨plan, _, follows⟩ := synthesize_plan succeeded
  exact ⟨plan, follows⟩

theorem synthesize_reads {record : RecordDescriptor} {settings : Settings} {artifact : Artifact}
    (succeeded : record.synthesize settings = .ok artifact) :
    ∀ field ∈ record.fields, Identifier.read? field.name = some field.identifier := by
  obtain ⟨plan, planned, _⟩ := bind_ok succeeded
  exact plan_reads planned

end Recordsmith
