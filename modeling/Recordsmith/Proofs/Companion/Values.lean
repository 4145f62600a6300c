import Recordsmith.Proofs.Code.Members
import Recordsmith.Proofs.Companion.Planning

/-!
The values that generated companions work on, and calling them. A value of a record holds one
value for each field; a value of its partial holds an optional one. Both structures are in reach
of every declaration of the artifact.
-/

namespace Recordsmith

open Code

variable {Content : Type}

/-- The value of a record that holds the given values. -/
def RecordDescriptor.value (record : RecordDescriptor) (held : FieldDescriptor → Value Content) :
    Value Content :=
  .structure record.path (record.fields.map fun field => (field.identifier, held field))

/-- A value as a field of the record holds it when it is there. -/
def FieldDescriptor.heldAs (field : FieldDescriptor) (value : Value Content) : Value Content :=
  if field.isNullable then .present value else value

/-- What a field of the partial holds for a value of the record's field. -/
def FieldDescriptor.storedAs (field : FieldDescriptor) (value : Value Content) : Value Content :=
  if field.isNullable then value else .present value

namespace Code

theorem evaluate_copied (scope : Scope Content) (object : String) (field : Identifier)
    (value : Value Content)
    (evaluated : evaluate scope (.member (.variable object) field) = .ok value) :
    evaluate scope (Plan.copied object field) = .ok value := by
  rw [Plan.copied, evaluate, evaluateAll, evaluate, evaluated]
  rfl

theorem evaluate_wrapped (scope : Scope Content) (expression : Expression) (value : Value Content)
    (evaluated : evaluate scope expression = .ok value) :
    evaluate scope (Plan.wrapped expression) = .ok (.present value) := by
  rw [Plan.wrapped, evaluate, evaluateAll, evaluated]
  rfl

end Code

namespace Artifact

/-- The path of the partial. -/
def partialPath (artifact : Artifact) : List Identifier := [⟨artifact.partialName⟩]

/-- The value of a record's partial whose fields hold the given values. -/
def partialHolding (artifact : Artifact) (record : RecordDescriptor)
    (held : FieldDescriptor → Value Content) : Value Content :=
  .structure artifact.partialPath (record.fields.map fun field => (field.identifier, held field))

/-- The value of a record's partial in which the given values are set. -/
def partialValue (artifact : Artifact) (record : RecordDescriptor)
    (stored : FieldDescriptor → Option (Value Content)) : Value Content :=
  artifact.partialHolding record fun field => .ofOption (stored field)

/-- The structures that the declarations are about: the record and those that are declared. -/
def structures (artifact : Artifact) (record : RecordDescriptor) : StructureTable :=
  (record.path, record.fields.map FieldDescriptor.identifier) ::
    artifact.declarations.filterMap fun declaration => declaration.item.structure?

/-- Calls a function that the declaration of a kind holds. -/
def call (artifact : Artifact) (record : RecordDescriptor) (kind : DeclarationKind)
    (name : String) (arguments : List (Value Content)) : Option (Value Content) := do
  let declaration ← artifact.declaration? kind
  declaration.item.call (artifact.structures record) name arguments

/-- The default value of the partial. -/
def default? (artifact : Artifact) : Option (Value Content) := do
  let declaration ← artifact.declaration? .partialType
  declaration.item.default?

namespace Follows

variable {artifact : Artifact} {record : RecordDescriptor} {plan : Plan}
  (follows : artifact.Follows record plan)

include follows

theorem partial_path : artifact.partialPath = [plan.partialName] := by
  rw [partialPath, follows.partialName]

theorem names : plan.fields.map PlannedField.identifier =
    record.fields.map FieldDescriptor.identifier :=
  map_planned follows.fields fun _ _ alike => alike.1

theorem structures_of_plan : artifact.structures record =
    [(record.path, record.fields.map FieldDescriptor.identifier),
      (artifact.partialPath, record.fields.map FieldDescriptor.identifier)] := by
  rw [structures, follows.declarations, follows.partial_path, ← follows.names]
  simp [DeclarationKind.all, Plan.item, Item.structure?, Plan.partialItem, Plan.combineItem,
    Plan.buildItem, Plan.contextItem, Plan.fieldsItem, Function.comp_def]

theorem record_declared : (artifact.structures record).lookup record.path =
    some (record.fields.map FieldDescriptor.identifier) := by
  rw [follows.structures_of_plan, List.lookup_cons_self]

theorem partial_declared : (artifact.structures record).lookup artifact.partialPath =
    some (record.fields.map FieldDescriptor.identifier) := by
  rw [follows.structures_of_plan, List.lookup_cons]
  -- A partial of the record's own path would have the record's own members.
  by_cases same : artifact.partialPath = record.path
  · rw [same, beq_self_eq_true]
  · rw [beq_false_of_ne same, List.lookup_cons_self]

theorem declaration_of_kind (kind : DeclarationKind) :
    artifact.declaration? kind = some ⟨kind, plan.item kind⟩ := by
  rw [declaration?, follows.declarations]
  cases kind <;> rfl

theorem call_item (kind : DeclarationKind) (name : String) (arguments : List (Value Content)) :
    artifact.call record kind name arguments =
      (plan.item kind).call (artifact.structures record) name arguments := by
  rw [call, follows.declaration_of_kind]
  rfl

/-- Members that are written for the planned fields are written for the fields of the record. -/
theorem written_for_fields (ofPlanned : PlannedField → Expression)
    (ofField : FieldDescriptor → Expression)
    (alike : ∀ field planned, field.PlannedAs planned → ofPlanned planned = ofField field) :
    (plan.fields.map fun planned => .mk planned.identifier (ofPlanned planned)) =
      record.fields.map fun field => Initializer.mk field.identifier (ofField field) := by
  apply map_planned follows.fields
  intro field planned taken
  rw [alike field planned taken, taken.1]

variable (distinct : (record.fields.map FieldDescriptor.identifier).Nodup)

include distinct

theorem construct_record (scope : Scope Content)
    (inReach : scope.structures = artifact.structures record)
    (expression : FieldDescriptor → Expression) (value : FieldDescriptor → Value Content)
    (trailing : Bool)
    (evaluated : ∀ field ∈ record.fields, evaluate scope (expression field) = .ok (value field)) :
    evaluate scope (.construct plan.recordType
      (record.fields.map fun field => .mk field.identifier (expression field)) trailing) =
      .ok (record.value value) := by
  have named : scope.structurePath? plan.recordType = some record.path := by
    rw [Plan.recordType, Scope.structurePath?, follows.path]
  exact evaluate_construct FieldDescriptor.identifier value scope record.fields expression _ _
    trailing named (by rw [inReach, follows.record_declared]) distinct evaluated

theorem construct_partial (scope : Scope Content)
    (inReach : scope.structures = artifact.structures record) (type : CodeType)
    (named : scope.structurePath? type = some artifact.partialPath)
    (expression : FieldDescriptor → Expression) (value : FieldDescriptor → Value Content)
    (trailing : Bool)
    (evaluated : ∀ field ∈ record.fields, evaluate scope (expression field) = .ok (value field)) :
    evaluate scope (.construct type
      (record.fields.map fun field => .mk field.identifier (expression field)) trailing) =
      .ok (artifact.partialHolding record value) :=
  evaluate_construct FieldDescriptor.identifier value scope record.fields expression _ _
    trailing named (by rw [inReach, follows.partial_declared]) distinct evaluated

end Follows

end Artifact

end Recordsmith
