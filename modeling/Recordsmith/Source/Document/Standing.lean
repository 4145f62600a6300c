import Recordsmith.Source.Statement

/-!
How an expression may stand: what can hold its lines together, where a line may end behind it, and
whether it can be a statement of its own.
-/

namespace Recordsmith.Source

/-- Names up to this many bytes keep a chain that they begin on their line. -/
def shortName : Nat := 4

namespace Tree

/-- Whether an expression is a short name. -/
def isShortName : Tree → Bool
  | .node .path [.type (.path false [.mk name .absent])] => name.utf8ByteSize ≤ shortName
  | _ => false

/-- Whether an expression is written with delimiters that hold its lines together. -/
def isEnclosed : Tree → Bool
  | .node form _ => [.array, .block, .closure, .construct, .tuple].contains form
  | _ => false

/-- Whether an expression follows the parameters of a function without anything around it. -/
def standsAsBody (tree : Tree) : Bool := tree.isEnclosed || tree.is .choice || tree.is .call

/-- The parts of a body in braces: the attributes of the piece itself, and what follows them. -/
def splitBody : Tree → List Tree × List Tree
  | .node .body [.group _ inside] =>
      let isInner : Tree → Bool
        | .node .note (_ :: exclamation :: _) => !exclamation.isNothing
        | _ => false
      (inside.takeWhile isInner, inside.dropWhile isInner)
  | _ => ([], [])

/-- The expression that is all that stands in a body. -/
def onlyValue? (statements : List Tree) : Option Tree :=
  match statements with
  | [.node .expressionStatement [inner, ending]] => if ending.isNothing then some inner else none
  | _ => none

/-- The value of an expression that is nothing but braces around it, or the expression itself. At
most `depth` pairs of braces are taken away. -/
def withoutBraces : Nat → Tree → Tree
  | 0, tree => tree
  | depth + 1, tree =>
      match tree with
      | .node .block [label, words, body] =>
          let (attributes, statements) := body.splitBody
          if label.isNothing && words.isNothing && attributes.isEmpty then
            match onlyValue? statements with
            | some inner => withoutBraces depth inner
            | none => tree
          else tree
      | tree => tree

/-- Whether an expression that is a statement needs a semicolon behind it. -/
def endsStatement (tree : Tree) : Bool := tree.endsByItself || tree.invokesInBraces

/-- Whether a semicolon is put behind an expression that ends a block. -/
def takesSemicolon (tree : Tree) : Bool :=
  match tree.bare with
  | .node .binary [_, .leaf operator, _] =>
      binaryOperators.any fun (text, rank) => rank == .assignment && Token.operator text == operator
  | .node form _ => [.assignment, .breakOff, .goOn, .giveBack, .handOver].contains form
  | _ => false

/-- Whether an expression may be a statement, by its first operand: one that ends with its body
would end the statement. -/
def canBeStatement : Tree → Bool
  | .node .binary (left :: _) => !left.endsStatement && left.canBeStatement
  | .node .call (left :: _) => !left.endsStatement && left.canBeStatement
  | .node .cast (left :: _) => !left.endsStatement && left.canBeStatement
  | .node .index (left :: _) => !left.endsStatement && left.canBeStatement
  | .node .range (left :: _) =>
      left.isNothing || (!left.endsStatement && left.canBeStatement)
  | .node .assignment (left :: _) => left.canBeStatement
  | .node .awaited (left :: _) => left.canBeStatement
  | .node .member (left :: _) => left.canBeStatement
  | .node .methodCall (left :: _) => left.canBeStatement
  | .node .question (left :: _) => left.canBeStatement
  | _ => true

/-- Whether a semicolon behind a statement is left out, because it ends with a body that has no
value. -/
def dropsSemicolon : Tree → Bool
  | .node .forLoop _ => true
  | .node .whileLoop _ => true
  | .node .branch [_, _, _, _, alternative] =>
      alternative.isNothing || alternative.dropsSemicolon
  | _ => false

/-- Whether a line may end behind an expression that is a condition. -/
def breaksBehind : Tree → Bool
  | .node .breakOff [_, _, value] => value.breaksBehind
  | .node .call (function :: _) => function.breaksBehind
  | .node .letCondition [_, _, _, value] => value.breaksBehind
  | .node .parenthesized [.group _ [inner]] => inner.breaksBehind
  | .node .range [_, _, limit] => limit.breaksBehind
  | .node .reference [_, _, target] => target.breaksBehind
  | .node .address [_, _, _, target] => target.breaksBehind
  | .node .giveBack [_, value] => value.breaksBehind
  | .node .handOver [_, value] => value.breaksBehind
  | .node .question (value :: _) => value.breaksBehind
  | .node .unary [_, value] => value.breaksBehind
  | .node form _ =>
      [.assignment, .awaited, .binary, .cast, .index, .member, .methodCall].contains form
  | _ => false

end Tree

end Recordsmith.Source
