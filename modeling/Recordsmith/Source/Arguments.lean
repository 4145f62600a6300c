import Recordsmith.Source.Attribute

/-!
Reading the arguments of names, and paths whose names have them. In an expression arguments need
two colons in front of them; in a type they may have them.
-/

namespace Recordsmith.Source

open Reader
open Recordsmith.Lexer

/-- Reads names of a path for as long as two colons come first. Colons in front of parentheses
belong to the inputs of a function trait. -/
def moreSegments (segment : Reader PathSegment) : Nat → Reader (List PathSegment)
  | 0 => return []
  | fuel + 1 => do
      let tokens ← ahead
      if beginsWithOperator "::" tokens &&
          !beginsWithGroup .parenthesis (afterTree (afterTree tokens)) then
        skip 2
        let first ← segment
        return first :: (← moreSegments segment fuel)
      return []

/-- Reads names of a path with two colons between them, whatever follows the colons. -/
def allSegments (segment : Reader PathSegment) : Nat → Reader (List PathSegment)
  | 0 => return []
  | fuel + 1 => do
      let first ← segment
      if ← operator? "::" then
        return first :: (← allSegments segment fuel)
      return [first]

/-- Reads items with plus signs between them up to the place where `ends` holds. Says whether a
plus sign follows the last one. -/
def plusUntil {Value : Type} (ends : List Lexeme → Bool) (item : Reader Value) :
    Nat → Reader (List Value × Bool)
  | 0 => return ([], false)
  | fuel + 1 => do
      if ends (← ahead) then return ([], false)
      let first ← item
      if ← operator? "+" then
        let (others, trailing) ← plusUntil ends item fuel
        return (first :: others, others.isEmpty || trailing)
      return ([first], false)

section

variable (parts : Grammar)

/-- Reads a constant argument: a literal, a name, or a block. -/
def constantArgument : Reader Tree := do
  let tokens ← ahead
  if beginsWithLiteral tokens then literal
  else if beginsWithIdentifier tokens then
    return (WrittenPath.plain false [← identifier]).tree
  else if beginsWithGroup .brace tokens then
    return .node .block [Tree.nothing, Tree.nothing, ← statementBody parts]
  else refuseUnless []

/-- Whether a constant argument begins here, and not a type. -/
def beginsConstant (tokens : List Lexeme) : Bool :=
  beginsWithLiteral tokens || beginsWithGroup .brace tokens

/-- Reads an argument. A name may be followed by the type, the value or the bounds that it
has. -/
def genericArgument : Reader GenericArgument := do
  let tokens ← ahead
  if beginsWithLifetime tokens && !beginsWithOperator "+" (afterTree tokens) then
    return .lifetime (← lifetime)
  if beginsConstant tokens then return .constant (← constantArgument parts)
  let type ← parts.type true
  match type with
  | .path false [.mk _ (.called ..)] => return .type type
  | .path false [.mk name generics] => do
      if ← operator? "=" then
        if beginsConstant (← ahead) then
          return .constantBinding name generics (← constantArgument parts)
        return .binding name generics (← parts.type true)
      if ← operator? ":" then
        let (bounds, trailing) ← plusUntil (beginsWithOperatorOf [",", ">"])
          (parts.bound false true) (← listFuel)
        return .constraint name generics bounds trailing
      return .type type
  | _ => return .type type

/-- Reads arguments in angle brackets. -/
def angledArguments (turbofish : Bool) : Reader PathArguments := do
  let (arguments, trailing) ← angled (genericArgument parts)
  return .angled turbofish arguments trailing

/-- Reads the inputs and the output of a function trait. -/
def calledArguments : Reader PathArguments := do
  groupThen .parenthesis (commaSeparated (parts.type true)) fun (inputs, trailing) => do
    let output ← if ← operator? "->" then some <$> parts.type false else pure none
    return .called inputs trailing output

/-- Reads one name of a path with its arguments. -/
def segment (isExpression : Bool) : Reader PathSegment := do
  if beginsWithOneOf ["super", "self", "crate", "try"] (← ahead) then
    return .plain (← anyName)
  let name ← if ← peekName "Self" then anyName else identifier
  let tokens ← ahead
  if !isExpression && beginsWithOperator "<" tokens && !beginsWithOperator "<=" tokens then
    return .mk name (← angledArguments parts false)
  if beginsWithOperator "::" tokens && beginsWithOperator "<" (afterTree (afterTree tokens)) then
    skip 2
    return .mk name (← angledArguments parts true)
  return .plain name

/-- Reads a path with arguments. -/
def argumentPath (isExpression : Bool) : Reader WrittenPath := do
  let leading ← operator? "::"
  let first ← segment parts isExpression
  let others ← moreSegments (segment parts isExpression) (← listFuel)
  return ⟨leading, first :: others⟩

/-- Reads a path, or a path inside a type or one of its traits. -/
def qualifiedPath (isExpression : Bool) : Reader WrittenType := do
  if ← operator? "<" then
    let subject ← parts.type true
    let ⟨leading, trait⟩ ← if ← word? "as" then argumentPath parts false
      else pure ⟨false, []⟩
    operator ">"
    operator "::"
    return .projection subject leading trait
      (← allSegments (segment parts isExpression) (← listFuel))
  return (← argumentPath parts isExpression).type

end

/-- The names of a path stand without arguments. -/
def areModuleNames (segments : List PathSegment) : Bool :=
  segments.all (·.arguments.isAbsent)

/-- The arguments of the last name of a path. -/
def lastArguments (segments : List PathSegment) : PathArguments :=
  (segments.getLast?.map PathSegment.arguments).getD .absent

/-- A path whose last name has other arguments. -/
def withLastArguments (arguments : PathArguments) : List PathSegment → List PathSegment
  | [] => []
  | [.mk name _] => [.mk name arguments]
  | first :: rest => first :: withLastArguments arguments rest

/-- Whether the inputs of a function trait follow; two colons may come first. -/
def beginsInputs (tokens : List Lexeme) : Bool :=
  beginsWithGroup .parenthesis tokens ||
    (beginsWithOperator "::" tokens &&
      beginsWithGroup .parenthesis (afterTree (afterTree tokens)))

end Recordsmith.Source
