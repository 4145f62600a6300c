import Recordsmith.Code.Item
import Recordsmith.Companion.Plan

/-!
The five declarations of a record. The partial has every field of the record as an optional one.
Combining two partials takes each field from the first that has it. Building a record succeeds
when every field is there. The record can be turned back into a partial. For every field there
is an accessor with a lens on the record and a lens on the partial.
-/

namespace Recordsmith

open Code

/-- What a declaration provides. -/
inductive DeclarationKind where
  | partialType
  | combine
  | build
  | context
  | fields
  deriving DecidableEq, Repr

/-- The name of a kind. -/
def DeclarationKind.label : DeclarationKind → String
  | .partialType => "partial_type"
  | .combine => "combine"
  | .build => "build"
  | .context => "context"
  | .fields => "fields"

/-- The kinds in the order of their declarations. -/
def DeclarationKind.all : List DeclarationKind :=
  [.partialType, .combine, .build, .context, .fields]

namespace Plan

/-- The type of the record. -/
def recordType (plan : Plan) : CodeType := .located plan.recordPath

/-- The type of the partial. -/
def partialTypeName (plan : Plan) : CodeType := .named plan.partialName []

/-- A value that is there. -/
def wrapped (value : Expression) : Expression := .call .wrap [value] false

/-- A copy of a member. -/
def copied (object : String) (field : Identifier) : Expression :=
  .call .duplicate [.borrow (.member (.variable object) field)] false

/-- The traits derived for a partial. -/
def derivedTraits : List (List String) :=
  [["core", "clone", "Clone"], ["core", "fmt", "Debug"], ["core", "default", "Default"],
    ["core", "cmp", "PartialEq"]]

/-- The partial: the record with every field optional. -/
def partialItem (plan : Plan) : Item :=
  .structure (" Partial representation of `" ++ plan.recordName ++ "`, with every field optional.")
    derivedTraits plan.visibility plan.partialName
    (plan.fields.map fun field =>
      ⟨" Value of `" ++ plan.recordName ++ "::" ++ field.name ++ "`, if set.", field.visibility,
        field.identifier, field.partialType⟩)

/-- The name of the second partial in a combination; it is marked as unused when there is no
field to read. -/
def otherName (plan : Plan) : String := if plan.fields.isEmpty then "_other" else "other"

/-- Combining two partials, field by field. -/
def combineItem (plan : Plan) : Item :=
  .implementation (some (plan.runtime.child "Semigroup")) plan.partialTypeName
    [.function ⟨none, .inherited, "combine", [.ownedSelf, .named plan.otherName .itself], .itself,
      .construct .itself (plan.fields.map fun field =>
        .mk field.identifier (.orElse (.member (.variable "self") field.identifier)
          (.member (.variable plan.otherName) field.identifier))) true⟩]

/-- The value of a field of the record, taken out of the partial. -/
def builtValue (field : PlannedField) : Expression :=
  let value := Expression.require (copied "self" field.identifier)
  if field.isNullable then wrapped value else value

/-- Whether every field is there. -/
def completeness : List PlannedField → Expression
  | [] => .truth
  | first :: rest =>
      rest.foldl (fun checks field =>
        .both checks (.isPresent (.member (.variable "self") field.identifier)))
        (.isPresent (.member (.variable "self") first.identifier))

/-- Building the record from a partial. -/
def buildItem (plan : Plan) : Item :=
  .implementation (some (plan.runtime.child "Partial")) plan.partialTypeName
    [.typeAlias "Target" plan.recordType,
      .function ⟨none, .inherited, "build", [.borrowedSelf], .optional plan.recordType,
        wrapped (.construct plan.recordType (plan.fields.map fun field =>
          .mk field.identifier (builtValue field)) true)⟩,
      .function ⟨none, .inherited, "is_complete", [.borrowedSelf], .boolean,
        completeness plan.fields⟩]

/-- The value of a field of the partial, taken from the record. -/
def partialValue (field : PlannedField) : Expression :=
  let value := copied "self" field.identifier
  if field.isNullable then value else wrapped value

/-- Turning the record into a partial. -/
def contextItem (plan : Plan) : Item :=
  .implementation (some (plan.runtime.child "Buildable")) plan.recordType
    [.typeAlias "Partial" plan.partialTypeName,
      .function ⟨none, .inherited, "as_partial", [.borrowedSelf], plan.partialTypeName,
        .construct plan.partialTypeName (plan.fields.map fun field =>
          .mk field.identifier (partialValue field)) true⟩]

/-- A value with the focused field replaced and every other field kept. -/
def refocused (plan : Plan) (type : CodeType) (focused : Identifier) : Expression :=
  .construct type (plan.fields.map fun field =>
    .mk field.identifier
      (if field.identifier = focused then .variable "focus"
        else .member (.variable "source") field.identifier)) false

/-- A lens on one field of a type. -/
def lens (plan : Plan) (type fieldType : CodeType) (field : Identifier) : Expression :=
  .call (.newLens plan.runtime)
    [.function [("source", .borrowed type)] (copied "source" field),
      .function [("source", type), ("focus", fieldType)] (plan.refocused type field)] true

/-- A value of the record as the partial holds it. -/
def lift (field : PlannedField) : Expression :=
  .function [("focus", field.valueType)]
    (if field.isNullable then .variable "focus" else wrapped (.variable "focus"))

/-- The accessor of a field. -/
def accessor (plan : Plan) (field : PlannedField) : Function :=
  ⟨some (" Accessor for `" ++ plan.recordName ++ "::" ++ field.name ++
      "` on the record and its partial."),
    field.visibility, field.identifier.text, [],
    .accessor plan.runtime [plan.recordType, field.valueType, plan.partialTypeName,
      field.partialType],
    .call (.newAccessor plan.runtime)
      [.text field.name, plan.lens plan.recordType field.valueType field.identifier,
        plan.lens plan.partialTypeName field.partialType field.identifier, lift field] true⟩

/-- The accessors of all fields. -/
def fieldsItem (plan : Plan) : Item :=
  .implementation none plan.recordType (plan.fields.map fun field => .function (plan.accessor field))

/-- The declaration of a kind. -/
def item (plan : Plan) : DeclarationKind → Item
  | .partialType => plan.partialItem
  | .combine => plan.combineItem
  | .build => plan.buildItem
  | .context => plan.contextItem
  | .fields => plan.fieldsItem

end Plan

end Recordsmith
