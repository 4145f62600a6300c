import Recordsmith.Proofs.Companion.Typing
import Recordsmith.Proofs.Derive.Plans
import Recordsmith.Proofs.Generation.FieldNames

/-!
What the five declarations of a record agree on. Each treats the fields of the record once, in their
order and under the same identifiers, and the types and the visibility of a field are the same wherever
they are mentioned. The declarations are well typed, unless two fields read as one name: a record may
have such fields, since their texts differ, and then none of the declarations is.
-/

namespace Recordsmith

open Code

/-! ## Views of the declarations -/

namespace Code

mutual

/-- The members that an expression reads, from left to right. -/
def Expression.reads : Expression → List Identifier
  | .variable _ => []
  | .member object field => object.reads ++ [field]
  | .borrow object => object.reads
  | .require object => object.reads
  | .orElse first second => first.reads ++ second.reads
  | .isPresent object => object.reads
  | .both left right => left.reads ++ right.reads
  | .truth => []
  | .text _ => []
  | .call _ arguments _ => readsOfAll arguments
  | .construct _ given _ => readsOfGiven given
  | .function _ body => body.reads

/-- The members that expressions read, from left to right. -/
def readsOfAll : List Expression → List Identifier
  | [] => []
  | expression :: rest => expression.reads ++ readsOfAll rest

/-- The members that are read for the members of a structure, from left to right. -/
def readsOfGiven : List Initializer → List Identifier
  | [] => []
  | .mk _ value :: rest => value.reads ++ readsOfGiven rest

end

/-- The members that are given by an expression which builds a structure, perhaps as an optional value;
each with the members that are read for it. -/
def Expression.given : Expression → List (Identifier × List Identifier)
  | .construct _ given _ => given.map fun member => (member.name, member.value.reads)
  | .call .wrap [.construct _ given _] _ => given.map fun member => (member.name, member.value.reads)
  | _ => []

/-- The two lenses of an accessor: the members that the first part reads, and those that the second part
gives. -/
def Expression.lenses : Expression → List (List Identifier × List (Identifier × List Identifier))
  | .call (.newAccessor _) [_, .call (.newLens _) [recordGet, .function _ recordSet] _,
      .call (.newLens _) [partialGet, .function _ partialSet] _, _] _ =>
    [(recordGet.reads, recordSet.given), (partialGet.reads, partialSet.given)]
  | _ => []

/-- No member is given twice by a well typed expression. -/
theorem HasType.given_apart {scope : TypeScope} {expression : Expression} {type : ExpressionType}
    (typed : HasType scope expression type) :
    (expression.given.map (·.1.meaning)).Nodup := by
  unfold Expression.given
  split
  · cases typed with
    | construct declares once every fit =>
        rw [List.map_map]
        exact once
  · cases typed with
    | wrap held =>
        cases held with
        | construct declares once every fit =>
            rw [List.map_map]
            exact once
  · exact List.nodup_nil

/-- The members of a structure with their visibilities and types. -/
def Item.members : Item → List (Identifier × Source.Visibility × CodeType)
  | .structure _ _ _ _ fields => fields.map fun field => (field.name, field.visibility, field.type)
  | .implementation .. => []

/-- The functions of an implementation with their visibilities and what they give. -/
def Item.signatures (item : Item) : List (String × Source.Visibility × CodeType) :=
  item.functions.map fun function => (function.name, function.visibility, function.output)

end Code

namespace Artifact

/-- The body of a function that the declaration of a kind holds. -/
def body? (artifact : Artifact) (kind : DeclarationKind) (name : String) : Option Expression := do
  let declaration ← artifact.declaration? kind
  let function ← declaration.item.functions.find? fun function => function.name == name
  return function.body

/-- The declarations treat the fields alike, in their order and under their identifiers. -/
structure Agrees (artifact : Artifact) (recordPath : List Identifier)
    (runtime : Source.WrittenPath) (fields : List PlannedField) : Prop where
  members : (artifact.declaration? .partialType).map (·.item.members) =
    some (fields.map fun field => (field.identifier, field.visibility, field.partialType))
  combine : (artifact.body? .combine "combine").map Expression.given =
    some (fields.map fun field => (field.identifier, [field.identifier, field.identifier]))
  build : (artifact.body? .build "build").map Expression.given =
    some (fields.map fun field => (field.identifier, [field.identifier]))
  isComplete : (artifact.body? .build "is_complete").map Expression.reads =
    some (fields.map PlannedField.identifier)
  asPartial : (artifact.body? .context "as_partial").map Expression.given =
    some (fields.map fun field => (field.identifier, [field.identifier]))
  accessors : (artifact.declaration? .fields).map (·.item.signatures) =
    some (fields.map fun field => (field.identifier.text, field.visibility,
      .accessor runtime [.located recordPath, field.valueType, .named ⟨artifact.partialName⟩ [],
        field.partialType]))
  /-- A lens reads its own field, and gives every field: the others as they are, its own anew. -/
  lenses : (artifact.declaration? .fields).map (·.item.functions.map (·.body.lenses)) =
    some (fields.map fun field => List.replicate 2 ([field.identifier], fields.map fun other =>
      (other.identifier, if other.identifier = field.identifier then [] else [other.identifier])))

/-- The structures in reach of the declarations: the record, of a path and with members, and those that
are declared. -/
def inReach (artifact : Artifact) (recordPath : List Identifier) (members : MemberTypes) :
    List (List Identifier × MemberTypes) :=
  (recordPath, members) :: artifact.declarations.filterMap (·.item.declared?)

end Artifact

/-! ## Plans -/

namespace Plan

theorem copied_reads (object : String) (field : Identifier) :
    (copied object field).reads = [field] := by
  simp [copied, Expression.reads, readsOfAll]

theorem built_reads (field : PlannedField) : (builtValue field).reads = [field.identifier] := by
  unfold builtValue
  dsimp only
  split_ifs <;> simp [wrapped, Expression.reads, readsOfAll, copied_reads]

theorem partial_reads (field : PlannedField) :
    (partialValue field).reads = [field.identifier] := by
  unfold partialValue
  dsimp only
  split_ifs <;> simp [wrapped, Expression.reads, readsOfAll, copied_reads]

section

variable (plan : Plan)

theorem combine_given : (Expression.construct .itself (plan.fields.map fun field =>
      .mk field.identifier (.orElse (.member (.variable "self") field.identifier)
        (.member (.variable plan.otherName) field.identifier))) true).given =
    plan.fields.map fun field => (field.identifier, [field.identifier, field.identifier]) := by
  rw [Expression.given, List.map_map]
  rfl

theorem build_given : (wrapped (.construct plan.recordType (plan.fields.map fun field =>
      .mk field.identifier (builtValue field)) true)).given =
    plan.fields.map fun field => (field.identifier, [field.identifier]) := by
  rw [wrapped, Expression.given, List.map_map]
  exact List.map_congr_left fun field _ => congrArg _ (built_reads field)

theorem context_given : (Expression.construct plan.partialTypeName (plan.fields.map fun field =>
      .mk field.identifier (partialValue field)) true).given =
    plan.fields.map fun field => (field.identifier, [field.identifier]) := by
  rw [Expression.given, List.map_map]
  exact List.map_congr_left fun field _ => congrArg _ (partial_reads field)

theorem refocused_given (type : CodeType) (focused : Identifier) :
    (plan.refocused type focused).given = plan.fields.map fun other =>
      (other.identifier, if other.identifier = focused then [] else [other.identifier]) := by
  rw [refocused, Expression.given, List.map_map]
  refine List.map_congr_left fun other _ => Prod.ext rfl ?_
  change Expression.reads (if other.identifier = focused then _ else _) = _
  split_ifs <;> simp [Expression.reads]

theorem accessor_lenses (field : PlannedField) : (plan.accessor field).body.lenses =
    List.replicate 2 ([field.identifier], plan.fields.map fun other =>
      (other.identifier,
        if other.identifier = field.identifier then [] else [other.identifier])) := by
  simp only [accessor, lens, Expression.lenses, Expression.reads, copied_reads, refocused_given,
    List.replicate]

end

theorem completeness_reads (fields : List PlannedField) :
    (completeness fields).reads = fields.map PlannedField.identifier := by
  -- What is checked so far stands in front of what is checked next.
  have folded : ∀ (rest : List PlannedField) (checks : Expression),
      (rest.foldl (fun checks field =>
        .both checks (.isPresent (.member (.variable "self") field.identifier))) checks).reads =
        checks.reads ++ rest.map PlannedField.identifier := by
    intro rest
    induction rest with
    | nil => simp
    | cons first rest induction =>
        intro checks
        rw [List.foldl_cons, induction]
        simp [Expression.reads]
  cases fields with
  | nil => rfl
  | cons first rest =>
      rw [completeness, folded]
      simp [Expression.reads]

/-- Every declaration names each field once, if it is well typed. -/
theorem item_apart (plan : Plan) (kind : DeclarationKind)
    {structures : List (List Identifier × MemberTypes)}
    (typed : (plan.item kind).IsWellTyped structures) :
    (plan.fields.map (·.identifier.meaning)).Nodup := by
  have ofGiven {scope : TypeScope} {expression : Expression} {type : ExpressionType}
      {reads : PlannedField → List Identifier} (held : HasType scope expression type)
      (given : expression.given = plan.fields.map fun field => (field.identifier, reads field)) :
      (plan.fields.map (·.identifier.meaning)).Nodup := by
    have apart := held.given_apart
    rw [given, List.map_map] at apart
    exact apart
  cases kind with
  | partialType =>
      change ((plan.fields.map _).map _).Nodup at typed
      rw [List.map_map] at typed
      exact typed
  | combine => exact ofGiven (typed.2 _ List.mem_cons_self) plan.combine_given
  | build => exact ofGiven (typed.2 _ List.mem_cons_self) plan.build_given
  | context => exact ofGiven (typed.2 _ List.mem_cons_self) plan.context_given
  | fields =>
      have names := typed.1
      rw [item, fields_functions, List.map_map] at names
      exact names

end Plan

namespace Artifact.Follows

variable {artifact : Artifact} {record : RecordDescriptor} {plan : Plan}
  (follows : artifact.Follows record plan)

include follows

theorem agrees : artifact.Agrees record.path plan.runtime plan.fields := by
  have partialName : (⟨artifact.partialName⟩ : Identifier) = plan.partialName := by
    rw [follows.partialName]
  constructor
  · rw [follows.declaration_of_kind]
    simp [Plan.item, Plan.partialItem, Item.members, Function.comp_def]
  · rw [body?, follows.declaration_of_kind]
    exact congrArg some plan.combine_given
  · rw [body?, follows.declaration_of_kind]
    exact congrArg some plan.build_given
  · rw [body?, follows.declaration_of_kind]
    exact congrArg some (Plan.completeness_reads plan.fields)
  · rw [body?, follows.declaration_of_kind]
    exact congrArg some plan.context_given
  · rw [follows.declaration_of_kind, partialName, ← follows.path]
    simp [Plan.item, Plan.fieldsItem, Item.signatures, Item.functions, Plan.accessor,
      Plan.recordType, Plan.partialTypeName, Function.comp_def]
  · rw [follows.declaration_of_kind]
    change some ((plan.fieldsItem.functions).map (·.body.lenses)) = _
    rw [Plan.fields_functions, List.map_map]
    exact congrArg some (List.map_congr_left fun field _ => plan.accessor_lenses field)

theorem structures_in_reach : artifact.inReach record.path
    (plan.fields.map fun field => (field.identifier, field.valueType)) = plan.structures := by
  rw [inReach, follows.declarations, ← follows.path]
  simp [DeclarationKind.all, Plan.item, Plan.partialItem, Plan.combineItem, Plan.buildItem,
    Plan.contextItem, Plan.fieldsItem, Item.declared?, Plan.structures, Plan.members,
    Function.comp_def]

theorem member_meanings : artifact.memberNames.map Identifier.meaning =
    plan.fields.map (·.identifier.meaning) := by
  rw [follows.member_names, ← follows.names, List.map_map]
  rfl

theorem meanings : plan.fields.map (·.identifier.meaning) =
    record.fields.map (·.identifier.meaning) := by
  rw [← follows.member_meanings, follows.member_names, List.map_map]
  rfl

end Artifact.Follows

/-! ## Fields -/

/-- How the declarations see a field of a record. A variadic field is a sequence of its type; on the
partial a field is optional, once. -/
structure FieldDescriptor.SeenAs (field : FieldDescriptor) (recordVisibility : String)
    (seen : PlannedField) : Prop where
  name : seen.name = field.name
  identifier : Identifier.read? field.name = some seen.identifier
  visibility : Source.Visibility.read? (field.visibility.getD recordVisibility) =
    some seen.visibility
  isNullable : seen.isNullable = (field.type.nullable && !field.isVariadic)
  valueType : if field.isVariadic then
      ∃ element, field.type.lower = .ok element ∧ seen.valueType = .sequence element
    else field.type.lower = .ok seen.valueType
  partialType : seen.partialType =
    if seen.isNullable then seen.valueType else .optional seen.valueType

/-- A field is seen in one way. -/
theorem FieldDescriptor.SeenAs.unique {field : FieldDescriptor} {recordVisibility : String}
    {first second : PlannedField} (isFirst : field.SeenAs recordVisibility first)
    (isSecond : field.SeenAs recordVisibility second) : first = second := by
  have identifier := Option.some.inj (isFirst.identifier.symm.trans isSecond.identifier)
  have visibility := Option.some.inj (isFirst.visibility.symm.trans isSecond.visibility)
  have isNullable := isFirst.isNullable.trans isSecond.isNullable.symm
  have name := isFirst.name.trans isSecond.name.symm
  have valueType : first.valueType = second.valueType := by
    have ofFirst := isFirst.valueType
    have ofSecond := isSecond.valueType
    split_ifs at ofFirst ofSecond
    · obtain ⟨element, lowered, value⟩ := ofFirst
      obtain ⟨other, loweredOther, otherValue⟩ := ofSecond
      rw [lowered] at loweredOther
      rw [value, otherValue, Except.ok.inj loweredOther]
    · exact Except.ok.inj (ofFirst.symm.trans ofSecond)
  have partialType : first.partialType = second.partialType := by
    rw [isFirst.partialType, isSecond.partialType, isNullable, valueType]
  cases first
  cases second
  cases identifier
  cases visibility
  cases isNullable
  cases name
  cases valueType
  cases partialType
  rfl

theorem required_visibility_read {text : String} {visibility : Source.Visibility}
    (required : Source.Visibility.require text = .ok visibility) :
    Source.Visibility.read? text = some visibility := by
  unfold Source.Visibility.require at required
  split at required
  next found read =>
    rw [read]
    exact congrArg some (Except.ok.inj required)
  next => cases required

section

variable {field : FieldDescriptor} {recordVisibility : String} {planned : PlannedField}
  (plans : field.Plans recordVisibility planned)

include plans

theorem FieldDescriptor.Plans.isNullable_eq :
    planned.isNullable = (field.type.nullable && !field.isVariadic) := by
  rw [plans.isNullable, FieldDescriptor.isNullable, Bool.and_comm]

theorem FieldDescriptor.Plans.held : (if field.isVariadic then
      ∃ element, field.type.lower = .ok element ∧ planned.valueType = .sequence element
    else field.type.lower = .ok planned.valueType) ∧ ∃ inner, planned.IsOptionalOf inner := by
  have types := plans.types
  have nullable := plans.isNullable_eq
  unfold planTypes at types
  cases variadic : field.isVariadic with
  | true =>
      rw [variadic, if_pos rfl] at types
      obtain ⟨element, lowered, whole⟩ := bind_ok types
      obtain ⟨value, stored⟩ := Prod.mk.inj (Except.ok.inj whole)
      rw [variadic, Bool.not_true, Bool.and_false] at nullable
      exact ⟨⟨element, lowered, value.symm⟩, _, stored.symm, by rw [nullable, ← value]; rfl⟩
  | false =>
      rw [variadic, if_neg Bool.false_ne_true] at types
      obtain ⟨code, lowered, types⟩ := bind_ok types
      obtain ⟨inner, loweredInner, whole⟩ := bind_ok types
      obtain ⟨value, stored⟩ := Prod.mk.inj (Except.ok.inj whole)
      obtain ⟨found, loweredFound, wrapped⟩ := TypeExpr.lower_inner lowered
      rw [loweredInner] at loweredFound
      cases loweredFound
      rw [variadic, Bool.not_false, Bool.and_true] at nullable
      exact ⟨value ▸ lowered, inner, stored.symm, by rw [nullable, ← value, wrapped]; rfl⟩

theorem FieldDescriptor.Plans.seen : field.SeenAs recordVisibility planned := by
  obtain ⟨held, inner, stored, value⟩ := plans.held
  refine ⟨plans.name, require_ok_iff.mp plans.identifier,
    required_visibility_read plans.visibility, plans.isNullable_eq, held, ?_⟩
  rw [stored, value]
  split_ifs <;> rfl

end

/-! ## Records -/

/-- The declarations of a record agree on its fields, on their types and on their visibilities; and they
are well typed exactly when no two fields mean the same name. -/
theorem declarations_agree (record : RecordDescriptor) (settings : Settings) (artifact : Artifact)
    (synthesized : record.synthesize settings = .ok artifact) :
    ∃ fields : List PlannedField,
      List.Forall₂ (fun field seen => field.SeenAs record.visibility seen) record.fields fields ∧
      artifact.Agrees record.path settings.runtimePath fields ∧
      artifact.declarations.map (·.kind) = DeclarationKind.all ∧
      ∀ declaration ∈ artifact.declarations,
        declaration.item.IsWellTyped (artifact.inReach record.path
            (fields.map fun field => (field.identifier, field.valueType))) ↔
          (record.fields.map (·.identifier.meaning)).Nodup := by
  obtain ⟨plan, planned, follows⟩ := synthesize_plan synthesized
  have plans := plan_ok_iff.mp planned
  have fieldPlans : List.Forall₂ (fun field planned =>
      FieldDescriptor.Plans field record.visibility planned) record.fields plan.fields :=
    plans.fields.imp fun _ _ => plan_field_ok_iff.mp
  have optional : List.Forall₂ (fun planned (field : FieldDescriptor) =>
      (∃ inner, planned.IsOptionalOf inner) ∧ field.Plans record.visibility planned)
      plan.fields record.fields := fieldPlans.flip.imp fun _ _ plans => ⟨plans.held.2, plans⟩
  obtain ⟨optional, _⟩ := (List.forall₂_and_left _ _).mp optional
  refine ⟨plan.fields, fieldPlans.imp fun _ _ plans => plans.seen, plans.runtime ▸ follows.agrees,
    ?_, fun declaration member => ?_⟩
  · rw [follows.declarations]
    rfl
  · rw [follows.structures_in_reach, ← follows.meanings]
    rw [follows.declarations] at member
    obtain ⟨kind, _, rfl⟩ := List.mem_map.mp member
    exact ⟨plan.item_apart kind, fun distinct => Plan.item_typed optional distinct kind⟩

/-- A variadic field of nullable elements is a sequence of them that may be missing on the partial; a
nullable field has one type, and is as private as it says. -/
theorem sequence_beside_nullable_is_well_typed :
    let record : RecordDescriptor := ⟨"", "scope1", "MyData", "pub",
      [⟨"tags", ⟨"String", [], true⟩, true, none⟩, ⟨"note", ⟨"f64", [], true⟩, false, some ""⟩]⟩
    let tags : CodeType := .sequence (.optional (.named ⟨"String"⟩ []))
    let note : CodeType := .optional (.named ⟨"f64"⟩ [])
    ∃ artifact fields, record.synthesize .standard = .ok artifact ∧
      artifact.Agrees [⟨"scope1"⟩, ⟨"MyData"⟩] Settings.standard.runtimePath fields ∧
      fields.map (fun field => (field.visibility, field.valueType, field.partialType)) =
        [(.everywhere, tags, .optional tags), (.inherited, note, note)] ∧
      ∀ declaration ∈ artifact.declarations, declaration.item.IsWellTyped
        (artifact.inReach [⟨"scope1"⟩, ⟨"MyData"⟩] [(⟨"tags"⟩, tags), (⟨"note"⟩, note)]) := by
  intro record tags note
  obtain ⟨artifact, synthesized⟩ := succeeds_ok
    (by decide +kernel : (record.synthesize .standard).toOption.isSome = true)
  obtain ⟨fields, seen, agrees, _, typed⟩ :=
    declarations_agree record .standard artifact synthesized
  have distinct : (record.fields.map (·.identifier.meaning)).Nodup := by decide
  have path : record.path = [⟨"scope1"⟩, ⟨"MyData"⟩] := by decide
  rw [path] at agrees typed
  have everywhere : Source.Visibility.read? "pub" = some .everywhere := rfl
  have inherited : Source.Visibility.read? "" = some .inherited := rfl
  have isSeen : List.Forall₂ (fun field seen => field.SeenAs record.visibility seen) record.fields
      [⟨⟨"tags"⟩, tags, .optional tags, false, "tags", .everywhere⟩,
        ⟨⟨"note"⟩, note, note, true, "note", .inherited⟩] :=
    .cons ⟨rfl, rfl, everywhere, rfl, ⟨_, rfl, rfl⟩, rfl⟩
      (.cons ⟨rfl, rfl, inherited, rfl, rfl, rfl⟩ .nil)
  have unique : Relator.RightUnique fun (field : FieldDescriptor) seen =>
      field.SeenAs record.visibility seen := fun _ _ _ => FieldDescriptor.SeenAs.unique
  cases List.right_unique_forall₂' unique seen isSeen
  exact ⟨artifact, _, synthesized, agrees, rfl,
    fun declaration member => (typed declaration member).mpr distinct⟩

/-- A blank in front of a name makes it another text and the same member. The structure that declares
the member twice is not well typed, and no value of it or of the record is. -/
theorem blank_before_name_is_ill_typed :
    let candidate := Candidate.record "MyData" [.ofText "arg1" "String", .ofText " arg1" "i32"]
    ∃ record artifact, candidate.describe = .ok record ∧
      (record.fields.map (·.name)).Nodup ∧ record.synthesize .standard = .ok artifact ∧
      ∀ declaration ∈ artifact.declarations, ∀ structures,
        ¬ declaration.item.IsWellTyped structures := by
  intro candidate
  have named : (candidate.artifact .standard).toOption.map Artifact.memberNames =
      some [⟨"arg1"⟩, ⟨"arg1"⟩] := by decide +kernel
  cases made : candidate.artifact .standard with
  | error report =>
      rw [made] at named
      cases named
  | ok artifact =>
      rw [made] at named
      have repeated : artifact.memberNames = [⟨"arg1"⟩, ⟨"arg1"⟩] := Option.some.inj named
      obtain ⟨record, described, synthesized⟩ := bind_ok made
      obtain ⟨plan, follows⟩ := synthesize_ok synthesized
      refine ⟨record, artifact, described, ?_, synthesized, ?_⟩
      · obtain ⟨declared, _, fields, present, _, areDescribed, distinct, rfl⟩ :=
          Candidate.describe_ok_iff.mp described
        rw [described_names areDescribed]
        exact distinct
      · intro declaration member structures typed
        rw [follows.declarations] at member
        obtain ⟨kind, _, rfl⟩ := List.mem_map.mp member
        have apart := plan.item_apart kind typed
        rw [← follows.member_meanings, repeated] at apart
        revert apart
        decide

end Recordsmith
