import Recordsmith.Companion.Declarations
import Recordsmith.Proofs.Code.Typing

/-!
The types of what a plan generates. The two types of a planned field differ by being optional, and each
of the five declarations makes up for that difference where it hands a value from one structure to the
other. They are well typed as long as the names of the fields mean different things.
-/

namespace Recordsmith

open Code

/-- The field is optional on the partial, and on the record when it is nullable. -/
def PlannedField.IsOptionalOf (planned : PlannedField) (inner : CodeType) : Prop :=
  planned.partialType = .optional inner ∧
    planned.valueType = if planned.isNullable then .optional inner else inner

namespace Plan

variable (plan : Plan)

/-- The members of the record, or those of the partial, by the type that a field has there. -/
def members (part : PlannedField → CodeType) : MemberTypes :=
  plan.fields.map fun field => (field.identifier, part field)

/-- The structures that the declarations are about. -/
def structures : List (List Identifier × MemberTypes) :=
  [(plan.recordPath, plan.members PlannedField.valueType),
    ([plan.partialName], plan.members PlannedField.partialType)]

/-- The structure has a member for every field, of the type given. -/
structure Declares (type : CodeType) (part : PlannedField → CodeType) : Prop where
  about : ∀ self, type.about self = type
  target : type.target = type
  path : ∃ path, type.path? = some path ∧ (path, plan.members part) ∈ plan.structures

theorem declares_record : plan.Declares plan.recordType PlannedField.valueType :=
  ⟨fun _ => rfl, rfl, plan.recordPath, rfl, List.mem_cons_self⟩

theorem declares_partial : plan.Declares plan.partialTypeName PlannedField.partialType :=
  ⟨fun _ => rfl, rfl, [plan.partialName], rfl, List.mem_cons_of_mem _ List.mem_cons_self⟩

variable {plan} {scope : TypeScope} {type : CodeType} {part : PlannedField → CodeType}

theorem Declares.inScope (declares : plan.Declares type part)
    (inReach : scope.structures = plan.structures) :
    scope.Declares type (plan.members part) := by
  obtain ⟨path, named, isDeclared⟩ := declares.path
  exact ⟨path, by rw [declares.about, named], inReach ▸ isDeclared⟩

section

variable {field : PlannedField} (isField : field ∈ plan.fields)
  (inReach : scope.structures = plan.structures) {object : String}

include isField inReach

theorem member_typed (declares : plan.Declares type part) {holder : CodeType}
    (bound : scope.bindings.lookup object = some holder) (holds : holder.target = type) :
    HasType scope (.member (.variable object) field.identifier) (.value (part field)) := by
  have held : scope.Declares holder.target (plan.members part) := holds ▸ declares.inScope inReach
  exact .member (.variable bound) held (List.mem_map_of_mem isField) rfl

theorem copied_typed (declares : plan.Declares type part) {holder : CodeType}
    (bound : scope.bindings.lookup object = some holder) (holds : holder.target = type) :
    HasType scope (copied object field.identifier) (.value (part field)) :=
  .duplicate (.borrow (member_typed isField inReach declares bound holds))

end

section

variable (distinct : (plan.fields.map (·.identifier.meaning)).Nodup)

include distinct

/-- One expression for each field makes a value of the structure. -/
theorem construct_typed (declares : plan.Declares type part)
    (inReach : scope.structures = plan.structures) {expression : PlannedField → Expression}
    (held : ∀ field ∈ plan.fields, HasType scope (expression field) (.value (part field)))
    (trailing : Bool) :
    HasType scope (.construct type
      (plan.fields.map fun field => .mk field.identifier (expression field)) trailing)
      (.value type) := by
  have built := construct_of_fields PlannedField.identifier part distinct
    (declares.inScope inReach) held trailing
  rw [declares.about] at built
  exact built

theorem same_planned_field {first second : PlannedField} (isFirst : first ∈ plan.fields)
    (isSecond : second ∈ plan.fields) (same : first.identifier = second.identifier) :
    first = second :=
  List.inj_on_of_nodup_map distinct isFirst isSecond (congrArg Identifier.meaning same)

/-- A setter takes the value that is handed in for the focused field, and the others as they are. -/
theorem refocused_typed (declares : plan.Declares type part)
    (inReach : scope.structures = plan.structures) {focused : PlannedField}
    (isField : focused ∈ plan.fields)
    (source : scope.bindings.lookup "source" = some type)
    (focus : scope.bindings.lookup "focus" = some (part focused)) :
    HasType scope (plan.refocused type focused.identifier) (.value type) := by
  refine construct_typed distinct declares inReach (fun field member => ?_) false
  split_ifs with same
  · rw [same_planned_field distinct member isField same]
    exact .variable focus
  · exact member_typed member inReach declares source declares.target

theorem lens_typed (declares : plan.Declares type part)
    (inReach : scope.structures = plan.structures) {field : PlannedField}
    (isField : field ∈ plan.fields) :
    HasType scope (plan.lens type (part field) field.identifier)
      (.lens plan.runtime type (part field)) := by
  have insideReach (parameters : List (String × CodeType)) :
      (scope.inside parameters).structures = plan.structures := inReach
  have getter : HasType scope (.function [("source", .borrowed type)]
      (copied "source" field.identifier)) (.function [.borrowed type] (part field)) :=
    .function (copied_typed isField (insideReach _) declares rfl rfl)
  have setter : HasType scope (.function [("source", type), ("focus", part field)]
      (plan.refocused type field.identifier)) (.function [type, part field] type) :=
    .function (refocused_typed distinct declares (insideReach _) isField rfl rfl)
  exact .newLens getter setter

end

theorem lift_typed {field : PlannedField} {inner : CodeType} (optional : field.IsOptionalOf inner) :
    HasType scope (lift field) (.function [field.valueType] field.partialType) := by
  obtain ⟨partialType, valueType⟩ := optional
  refine .function ?_
  have focus : HasType (scope.inside [("focus", field.valueType)]) (.variable "focus")
      (.value field.valueType) := .variable rfl
  cases nullable : field.isNullable with
  | true =>
      rw [nullable, if_pos rfl] at valueType
      rw [if_pos rfl, partialType, ← valueType]
      exact focus
  | false =>
      rw [nullable, if_neg Bool.false_ne_true] at valueType
      rw [if_neg Bool.false_ne_true, partialType, ← valueType]
      exact .wrap focus

/-! ## The functions -/

theorem fields_functions : plan.fieldsItem.functions = plan.fields.map plan.accessor := by
  simp [fieldsItem, Item.functions]

section

variable {field : PlannedField} {inner : CodeType} (optional : field.IsOptionalOf inner)

include optional

theorem merged_typed (isField : field ∈ plan.fields) (inReach : scope.structures = plan.structures)
    {first second : String}
    (boundFirst : scope.bindings.lookup first = some plan.partialTypeName)
    (boundSecond : scope.bindings.lookup second = some plan.partialTypeName) :
    HasType scope (.orElse (.member (.variable first) field.identifier)
      (.member (.variable second) field.identifier)) (.value field.partialType) := by
  have heldFirst := member_typed isField inReach plan.declares_partial boundFirst rfl
  have heldSecond := member_typed isField inReach plan.declares_partial boundSecond rfl
  rw [optional.1] at heldFirst heldSecond ⊢
  exact .orElse heldFirst heldSecond

/-- What is taken out of an optional member is made optional again for a record that may lack it. -/
theorem built_typed (isField : field ∈ plan.fields) (inReach : scope.structures = plan.structures)
    (self : scope.bindings.lookup "self" = some (.borrowed plan.partialTypeName))
    {result : CodeType} (output : scope.output = some (.optional result)) :
    HasType scope (builtValue field) (.value field.valueType) := by
  obtain ⟨partialType, valueType⟩ := optional
  have copy : HasType scope (copied "self" field.identifier) (.value field.partialType) :=
    copied_typed isField inReach plan.declares_partial self rfl
  rw [partialType] at copy
  have taken : HasType scope (.require (copied "self" field.identifier)) (.value inner) :=
    .require copy output
  rw [builtValue, valueType]
  split_ifs
  · exact .wrap taken
  · exact taken

theorem partial_typed (isField : field ∈ plan.fields)
    (inReach : scope.structures = plan.structures)
    (self : scope.bindings.lookup "self" = some (.borrowed plan.recordType)) :
    HasType scope (partialValue field) (.value field.partialType) := by
  obtain ⟨partialType, valueType⟩ := optional
  have copy : HasType scope (copied "self" field.identifier) (.value field.valueType) :=
    copied_typed isField inReach plan.declares_record self rfl
  rw [valueType] at copy
  rw [partialValue, partialType]
  split_ifs at copy ⊢
  · exact copy
  · exact .wrap copy

end

variable (optional : ∀ field ∈ plan.fields, ∃ inner, field.IsOptionalOf inner)

include optional

theorem present_typed {field : PlannedField} (isField : field ∈ plan.fields)
    (inReach : scope.structures = plan.structures)
    (self : scope.bindings.lookup "self" = some (.borrowed plan.partialTypeName)) :
    HasType scope (.isPresent (.member (.variable "self") field.identifier)) (.value .boolean) := by
  obtain ⟨inner, partialType, _⟩ := optional field isField
  have held := member_typed isField inReach plan.declares_partial self rfl
  rw [partialType] at held
  exact .isPresent held

theorem completeness_typed (inReach : scope.structures = plan.structures)
    (self : scope.bindings.lookup "self" = some (.borrowed plan.partialTypeName)) :
    HasType scope (completeness plan.fields) (.value .boolean) := by
  have present : ∀ field ∈ plan.fields, HasType scope
      (.isPresent (.member (.variable "self") field.identifier)) (.value .boolean) :=
    fun field member => present_typed optional member inReach self
  -- The checks behind the first are put on what was checked so far, whatever that is.
  have folded : ∀ (rest : List PlannedField) (checks : Expression),
      (∀ field ∈ rest, field ∈ plan.fields) → HasType scope checks (.value .boolean) →
        HasType scope (rest.foldl (fun checks field =>
          .both checks (.isPresent (.member (.variable "self") field.identifier))) checks)
          (.value .boolean) := by
    intro rest
    induction rest with
    | nil => exact fun checks _ checked => checked
    | cons first rest induction =>
        intro checks members checked
        obtain ⟨member, members⟩ := List.forall_mem_cons.mp members
        exact induction _ members (.both checked (present first member))
  cases fields : plan.fields with
  | nil => exact .truth
  | cons first rest =>
      rw [fields] at present folded
      exact folded rest _ (fun field member => List.mem_cons_of_mem _ member)
        (present first List.mem_cons_self)

variable (distinct : (plan.fields.map (·.identifier.meaning)).Nodup)

include distinct

theorem combine_typed : plan.combineItem.IsWellTyped plan.structures := by
  refine ⟨List.nodup_singleton _, List.forall_mem_singleton.mpr ?_⟩
  -- Both partials have the type that the implementation is for, under whichever names.
  have first : List.lookup "self" [("self", plan.partialTypeName),
      (plan.otherName, plan.partialTypeName)] = some plan.partialTypeName := rfl
  have second : List.lookup plan.otherName [("self", plan.partialTypeName),
      (plan.otherName, plan.partialTypeName)] = some plan.partialTypeName := by
    rw [List.lookup_cons, List.lookup_cons_self]
    split <;> rfl
  refine construct_of_fields PlannedField.identifier PlannedField.partialType distinct
    ⟨[plan.partialName], rfl, List.mem_cons_of_mem _ List.mem_cons_self⟩
    (fun field member => ?_) true
  obtain ⟨inner, isOptional⟩ := optional field member
  exact merged_typed isOptional member rfl first second

theorem build_typed : plan.buildItem.IsWellTyped plan.structures := by
  have apart : (["build", "is_complete"].map fun name => Identifier.meaning ⟨name⟩).Nodup := by
    decide
  refine ⟨apart, List.forall_mem_cons.mpr ⟨?_, List.forall_mem_singleton.mpr ?_⟩⟩
  · refine .wrap (construct_typed distinct plan.declares_record rfl (fun field member => ?_) true)
    obtain ⟨inner, isOptional⟩ := optional field member
    exact built_typed isOptional member rfl rfl rfl
  · exact completeness_typed optional rfl rfl

theorem context_typed : plan.contextItem.IsWellTyped plan.structures := by
  refine ⟨List.nodup_singleton _, List.forall_mem_singleton.mpr ?_⟩
  refine construct_typed distinct plan.declares_partial rfl (fun field member => ?_) true
  obtain ⟨inner, isOptional⟩ := optional field member
  exact partial_typed isOptional member rfl rfl

theorem accessor_typed {field : PlannedField} (isField : field ∈ plan.fields) :
    (plan.accessor field).IsWellTyped plan.structures plan.recordType := by
  obtain ⟨inner, isOptional⟩ := optional field isField
  exact .newAccessor .text (lens_typed distinct plan.declares_record rfl isField)
    (lens_typed distinct plan.declares_partial rfl isField) (lift_typed isOptional)

theorem fields_typed : plan.fieldsItem.IsWellTyped plan.structures := by
  refine ⟨?_, ?_⟩
  · rw [fields_functions, List.map_map]
    exact distinct
  · intro function member
    rw [fields_functions] at member
    obtain ⟨field, isField, rfl⟩ := List.mem_map.mp member
    exact accessor_typed optional distinct isField

/-- Every declaration is well typed. -/
theorem item_typed (kind : DeclarationKind) : (plan.item kind).IsWellTyped plan.structures := by
  cases kind with
  | partialType =>
      change ((plan.fields.map _).map _).Nodup
      rw [List.map_map]
      exact distinct
  | combine => exact combine_typed optional distinct
  | build => exact build_typed optional distinct
  | context => exact context_typed optional distinct
  | fields => exact fields_typed optional distinct

end Plan

end Recordsmith
