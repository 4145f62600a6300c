import Recordsmith.Source.Expression
import Recordsmith.Source.TypeTokens

/-!
Reading statements. Between two of them there has to be a semicolon, unless the first one ends with
its body or is an item. Attributes in front of an expression belong to its leftmost operand.
-/

namespace Recordsmith.Source

open Reader
open Recordsmith.Lexer

/-- Whether an item begins here, and not an expression. -/
def beginsItem (tokens : List Lexeme) : Bool :=
  let next := afterTree tokens
  let third := afterTree next
  let beginsFunction (tokens : List Lexeme) : Bool :=
    beginsWithOneOf ["unsafe", "extern", "fn"] tokens
  match tokens with
  | ⟨.name name, _⟩ :: _ =>
      if ["pub", "extern", "use", "fn", "mod", "type", "struct", "enum", "trait", "impl",
          "macro"].contains name then true
      else if name == "crate" then !beginsWithOperator "::" next
      else if name == "static" then beginsWithName "mut" next || beginsWithIdentifier next
      else if name == "const" then
        !(beginsWithGroup .brace next || beginsWithOneOf ["static", "move"] next ||
          (beginsWithName "async" next && !beginsFunction third) || beginsWithOperator "|" next)
      else if name == "unsafe" then !beginsWithGroup .brace next
      else if name == "async" then beginsFunction next
      else if name == "union" then beginsWithIdentifier next
      else if name == "auto" then beginsWithName "trait" next
      else if name == "default" then beginsWithOneOf ["unsafe", "impl"] next
      else false
  | _ => false

/-- What an invocation at the beginning of a statement is. -/
inductive InvocationKind where
  /-- One that declares the name after its exclamation mark. -/
  | item
  /-- One with braces that nothing goes on with. -/
  | statement
  /-- Part of an expression, or none at all. -/
  | expression
  deriving DecidableEq, Repr

/-- The kind of an invocation, by what follows its path. -/
def InvocationKind.of (tokens : List Lexeme) : InvocationKind :=
  let next := afterTree tokens
  if !beginsWithOperator "!" tokens then .expression
  else if beginsWithIdentifier next || beginsWithName "try" next then .item
  else if beginsWithGroup .brace next && !goesOnBehindBrace (afterTree next) then .statement
  else .expression

/-- Attributes in front of an expression, as those of its leftmost operand. -/
def Tree.withLeftAttributes (attributes : List Tree) : Tree → Tree
  | .node .binary [left, operator, right] =>
      .node .binary [left.withLeftAttributes attributes, operator, right]
  | .node .assignment [left, operator, right] =>
      .node .assignment [left.withLeftAttributes attributes, operator, right]
  | .node .cast [left, operator, right] =>
      .node .cast [left.withLeftAttributes attributes, operator, right]
  | tree => tree.withAttributes attributes

/-- Whether an invocation has its group in braces. -/
def Tree.invokesInBraces : Tree → Bool
  | .node .invocation [_, _, _, .group .brace _] => true
  | _ => false

/-- Whether a statement has to be followed by a semicolon when another one follows. -/
def Tree.needsSemicolon : Tree → Bool
  | .node .expressionStatement [expression, ending] =>
      ending.isNothing && !expression.endsByItself && !expression.invokesInBraces
  | _ => false

section

variable (parts : Grammar)

/-- Reads an invocation in braces that is a statement. -/
def invocationStatement (attributes : List Tree) : Reader Tree := do
  let path ← modulePath
  operator "!"
  let (delimiter, body) ← anyGroup
  let isEnded ← operator? ";"
  let invocation := Tree.node .invocation
    [path.tree, Tree.operator "!", Tree.nothing, .group delimiter [.leaf body]]
  return Tree.withAttributes attributes
    (.node .invocationStatement [invocation, Tree.operatorIf isEnded ";"])

/-- Reads a declaration of local names. An alternative may follow a value that does not end with a
brace. -/
def letStatement (attributes : List Tree) : Reader Tree := do
  word "let"
  let single ← parts.pattern
  let pattern ← if ← operator? ":" then
      pure (.node .typedPattern [single, Tree.operator ":", .type (← parts.type true)])
    else pure single
  let hasValue ← operator? "="
  let value ← if hasValue then parts.expression true else pure Tree.nothing
  let diverges ← if hasValue && !value.endsInBrace then word? "else" else pure false
  let alternative ← if diverges then block parts else pure Tree.nothing
  operator ";"
  return Tree.withAttributes attributes (.node .letStatement
    [Tree.word "let", pattern, Tree.operatorIf hasValue "=", value, Tree.wordIf diverges "else",
      alternative, Tree.operator ";"])

/-- Reads an expression as a statement. An invocation is a statement of its own if it has braces
or a semicolon. -/
def expressionStatement (attributes : List Tree) : Reader Tree := do
  let expression := (← parts.standing).withLeftAttributes attributes
  let isEnded ← operator? ";"
  let ending := Tree.operatorIf isEnded ";"
  let (attributes, bare) := expression.splitAttributes
  if bare.is .invocation && (isEnded || bare.invokesInBraces) then
    return Tree.withAttributes attributes (.node .invocationStatement [bare, ending])
  return .node .expressionStatement [expression, ending]

/-- Reads a statement. -/
def statement : Reader Tree := do
  let start ← ahead
  let attributes ← outerAttributes parts
  let tokens ← ahead
  let afterPath ← peek (attempt (do let _ ← modulePath; ahead))
  let kind := (afterPath.map InvocationKind.of).getD .expression
  if kind == .statement then invocationStatement attributes
  else if beginsWithName "let" tokens then letStatement parts attributes
  else if kind == .item || beginsItem tokens then parts.item start attributes
  else expressionStatement parts attributes

/-- Reads statements up to the end of the scope. -/
def statementList : Nat → Reader (List Tree)
  | 0 => return []
  | fuel + 1 => do
      if ← operator? ";" then
        let empty := Tree.node .expressionStatement [Tree.nothing, Tree.operator ";"]
        return empty :: (← statementList fuel)
      if ← atEnd then return []
      let first ← statement parts
      if ← atEnd then return [first]
      if first.needsSemicolon then
        refuse "unexpected token, expected `;`"
      return first :: (← statementList fuel)

/-- Reads statements up to the end of the scope. -/
def readStatements : Reader (List Tree) := do
  statementList parts (← listFuel)

end

end Recordsmith.Source
