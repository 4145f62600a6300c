import Recordsmith.Source.Path

/-!
Attributes: a path, and after it nothing, a group of tokens, or an equals sign and a value. The
inside of a group is not interpreted here. Attributes stand in front of what they belong to, or
with an exclamation mark at the beginning of its braces.
-/

namespace Recordsmith.Source

open Reader
open Recordsmith.Lexer

/-- What follows the path of an attribute. -/
inductive AttributeBody where
  | absent
  /-- A group, with the place of its end. -/
  | group (delimiter : Delimiter) (tokens : List Lexeme) (groupEnd : Nat)
  /-- A value, with the place of the equals sign in front of it. -/
  | value (signPlace : Nat) (value : Tree)

/-- An attribute; `place` is where its path begins. -/
structure Attribute where
  path : WrittenPath
  place : Nat
  body : AttributeBody

namespace Attribute

/-- An attribute as a piece of code. -/
def tree (isInner : Bool) (note : Attribute) : Tree :=
  let rest := match note.body with
    | .absent => [Tree.nothing, Tree.nothing]
    | .group delimiter tokens _ => [Tree.nothing, .group delimiter [.leaf (plainTokens tokens)]]
    | .value _ value => [Tree.operator "=", value]
  .node .note [Tree.operator "#", Tree.operatorIf isInner "!",
    .group .bracket (note.path.tree :: rest)]

/-- Reads a group of any kind, with the places of its tokens. -/
def placedGroup : Reader AttributeBody := do
  let remaining ← get
  match remaining.tokens with
  | ⟨.opening delimiter, _⟩ :: rest =>
      match splitGroup 0 rest with
      | some (inner, ending, after) => do
          set { remaining with tokens := after }
          return .group delimiter inner ending.place
      | none => refuse "expected delimiter"
  | _ => refuse "expected delimiter"

/-- Reads the path of an attribute, which may be the word `unsafe`. -/
def head : Reader WrittenPath := do
  if ← word? "unsafe" then return WrittenPath.plain false ["unsafe"]
  modulePath

section

variable (parts : Grammar)

/-- Reads what stands between the brackets of an attribute. -/
def inside : Reader Attribute := do
  let start ← Reader.place
  let path ← head
  if beginsWithAnyGroup (← ahead) then return ⟨path, start, ← placedGroup⟩
  let signPlace ← Reader.place
  if ← operator? "=" then
    let tokens ← ahead
    if beginsWithOperator "#" tokens && beginsWithGroup .bracket (afterTree tokens) then
      refuse "unexpected attribute inside of attribute"
    return ⟨path, start, .value signPlace (← parts.expression true)⟩
  return ⟨path, start, .absent⟩

/-- Reads attributes, for as long as there are any; each begins with `mark`. -/
def several (mark : List String) : Nat → Reader (List Attribute)
  | 0 => return []
  | fuel + 1 => do
      let tokens ← ahead
      if beginsWithOperator "#" tokens &&
          (mark.isEmpty || beginsWithOperatorOf mark (afterTree tokens)) then
        skip (1 + mark.length)
        let first ← group .bracket (inside parts)
        return first :: (← several mark fuel)
      return []

/-- Reads the attributes in front of a piece. -/
def reader : Reader (List Attribute) := do
  several parts [] (← listFuel)

end

end Attribute

section

variable (parts : Grammar)

/-- Reads the attributes in front of a piece, as pieces of code. -/
def outerAttributes : Reader (List Tree) := do
  return (← Attribute.reader parts).map (Attribute.tree false)

/-- Reads the attributes at the beginning of the braces of a piece. -/
def innerAttributes : Reader (List Tree) := do
  return (← Attribute.several parts ["!"] (← listFuel)).map (Attribute.tree true)

/-- Reads braces with attributes of the piece itself in front of what is in them. -/
def braced (inner : Reader (List Tree)) : Reader Tree := do
  let inside ← group .brace do
    return (← innerAttributes parts) ++ (← inner)
  return .node .body [.group .brace inside]

/-- Reads braces with statements, and without attributes of the piece itself. -/
def block : Reader Tree := do
  return .node .body [.group .brace (← group .brace parts.statements)]

/-- Reads braces with statements; attributes of the piece itself may come first. -/
def statementBody : Reader Tree := braced parts parts.statements

end

end Recordsmith.Source
