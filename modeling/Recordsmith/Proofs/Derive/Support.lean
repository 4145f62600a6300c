import Recordsmith.Code.Type
import Recordsmith.Derive.FieldType
import Recordsmith.Proofs.Token.Rendering

/-!
Which field types are supported, and what they become. A supported type is a single plain name,
perhaps with types in angle brackets that are supported as well; an optional type may not stand
directly inside another. Parentheses and groups do not count.
-/

namespace Recordsmith.Source

/-! ## Types as Rust has them -/

/-- A bound has the name of a trait, or it is kept as it is from a token of code on. -/
def Bound.IsWellFormed : Bound → Prop
  | .trait _ _ _ _ segments =>
      ∃ name arguments rest, segments = .mk name arguments :: rest ∧ IsName name
  | .verbatim tokens => ∃ first rest, tokens = first :: rest ∧ first.BeginsCode
  | _ => True

/-- A bound that is no type by itself. -/
def Bound.IsNoType : Bound → Prop
  | .lifetime _ => True
  | .trait isParenthesized binder _ _ _ => isParenthesized = true ∨ binder.isAbsent = false
  | _ => False

/-- The bounds of a trait object without `dyn`, which are more than a single path. -/
def AreBareBounds (bounds : List Bound) (trailing : Bool) : Prop :=
  2 ≤ bounds.length ∨ (bounds ≠ [] ∧ trailing = true) ∨ ∃ bound, bounds = [bound] ∧ bound.IsNoType

/-- Bounds behind a word. -/
def AreBounds (bounds : List Bound) : Prop :=
  ∃ first rest, bounds = first :: rest ∧ first.IsWellFormed

mutual

/-- A type that Rust source may have. Its names are names, and it is not written like a type of
another form. -/
def WrittenType.IsWellFormed : WrittenType → Prop
  | .parenthesized inner => inner.IsWellFormed
  | .grouped inner => inner.IsWellFormed
  | .path _ segments => segments ≠ [] ∧ SegmentsWellFormed segments
  | .traitObject true bounds _ => AreBounds bounds
  | .traitObject false bounds trailing => AreBareBounds bounds trailing
  | .someTrait bounds _ => AreBounds bounds
  | .verbatim tokens => ∃ token ∈ tokens, token.IsForeign
  | _ => True

/-- The names of a path are names, and the types among their arguments are well-formed. -/
def SegmentsWellFormed : List PathSegment → Prop
  | [] => True
  | .mk name arguments :: rest =>
      IsName name ∧ arguments.IsWellFormed ∧ SegmentsWellFormed rest

/-- The types among arguments are well-formed. -/
def PathArguments.IsWellFormed : PathArguments → Prop
  | .angled _ arguments _ => ArgumentsWellFormed arguments
  | _ => True

/-- The types among arguments in angle brackets are well-formed. -/
def ArgumentsWellFormed : List GenericArgument → Prop
  | [] => True
  | .type type :: rest => type.IsWellFormed ∧ ArgumentsWellFormed rest
  | _ :: rest => ArgumentsWellFormed rest

end

/-! ## Supported types -/

/-- An optional type: the name of one with a single type in angle brackets. -/
def WrittenType.isOptional : WrittenType → Bool
  | .parenthesized inner => inner.isOptional
  | .grouped inner => inner.isOptional
  | .path false [.mk name (.angled _ [.type _] _)] => name == optionalName
  | _ => false

/-- Arguments that are a single optional type. -/
def PathArguments.isSingleOptional : PathArguments → Bool
  | .angled _ [.type inner] _ => inner.isOptional
  | _ => false

mutual

/-- A supported type. -/
def WrittenType.Supported : WrittenType → Prop
  | .parenthesized inner => inner.Supported
  | .grouped inner => inner.Supported
  | .path leading [.mk name arguments] =>
      leading = false ∧ IsPlainName name ∧ arguments.Supported ∧
        ¬ (name = optionalName ∧ arguments.isSingleOptional = true)
  | _ => False

/-- No arguments, or at least one type in angle brackets, and all of them supported types. -/
def PathArguments.Supported : PathArguments → Prop
  | .absent => True
  | .angled _ arguments _ => arguments ≠ [] ∧ AllSupported arguments
  | .called .. => False

/-- Arguments that are all supported types. -/
def AllSupported : List GenericArgument → Prop
  | [] => True
  | .type type :: rest => type.Supported ∧ AllSupported rest
  | _ :: _ => False

end

/-! ## What a type becomes -/

mutual

/-- A type without parentheses, groups, turbofishes and trailing commas, in which every optional
type is written with its full path. -/
def WrittenType.plain : WrittenType → WrittenType
  | .parenthesized inner => inner.plain
  | .grouped inner => inner.plain
  | .path leading segments =>
      match if leading then none else optionalPlain segments with
      | some inner => Code.applied (.plain true ["core", "option", "Option"]) [inner]
      | none => .path leading (segmentsPlain segments)
  | other => other

/-- The type inside an optional one, if the names of a path say exactly that. -/
def optionalPlain : List PathSegment → Option WrittenType
  | [.mk name arguments] => if name = optionalName then singlePlain arguments else none
  | _ => none

/-- A single argument that is a type. -/
def singlePlain : PathArguments → Option WrittenType
  | .angled _ [.type inner] _ => some inner.plain
  | _ => none

/-- The names of a path with plain arguments. -/
def segmentsPlain : List PathSegment → List PathSegment
  | [] => []
  | .mk name arguments :: rest => .mk name (argumentsPlain arguments) :: segmentsPlain rest

/-- Plain arguments. -/
def argumentsPlain : PathArguments → PathArguments
  | .angled _ arguments _ => .angled false (typesPlain arguments) false
  | other => other

/-- Arguments with the types among them made plain. -/
def typesPlain : List GenericArgument → List GenericArgument
  | [] => []
  | .type type :: rest => .type type.plain :: typesPlain rest
  | other :: rest => other :: typesPlain rest

end

/-! ## The type expression that a type is written as -/

/-- A name with arguments as a type expression. The question mark of an optional type stands for
its name, and there is only one of it. -/
def namedExpression (name : String) (arguments : List TypeExpr) : Option TypeExpr :=
  match name == optionalName, arguments with
  | true, [inner] => if inner.nullable then none else some (inner.withNullable true)
  | _, _ =>
      if name.toList.all Text.isWordCharacter then some ⟨name, arguments, false⟩ else none

mutual

/-- The type expression that a type is written as. Its names may still be reserved. -/
def WrittenType.expression : WrittenType → Option TypeExpr
  | .parenthesized inner => inner.expression
  | .grouped inner => inner.expression
  | .path false [.mk name arguments] =>
      match argumentsExpressions arguments with
      | some expressions => namedExpression name expressions
      | none => none
  | .inferred => some (.simple "_")
  | _ => none

/-- The type expressions of arguments. Brackets hold at least one. -/
def argumentsExpressions : PathArguments → Option (List TypeExpr)
  | .absent => some []
  | .angled _ arguments _ =>
      match typesExpressions arguments with
      | some (first :: rest) => some (first :: rest)
      | _ => none
  | .called .. => none

/-- The type expressions of arguments that are types. -/
def typesExpressions : List GenericArgument → Option (List TypeExpr)
  | [] => some []
  | .type type :: rest =>
      match type.expression, typesExpressions rest with
      | some first, some others => some (first :: others)
      | _, _ => none
  | _ :: _ => none

end

end Recordsmith.Source
