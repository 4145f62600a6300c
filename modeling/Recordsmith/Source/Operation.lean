import Recordsmith.Source.Pattern

/-!
Reading operators and the operands between them. Operators bind by their rank. A range is never
the left operand of another operator, and comparisons do not chain.
-/

namespace Recordsmith.Source

open Reader
open Recordsmith.Lexer

/-- How strongly an operator binds, from the weakest on. -/
inductive Rank where
  | jump
  | assignment
  | range
  | disjunction
  | conjunction
  | comparison
  | bitOr
  | bitXor
  | bitAnd
  | shift
  | sum
  | product
  | cast
  deriving DecidableEq, Repr

/-- The rank as a number. -/
def Rank.level : Rank → Nat
  | .jump => 0
  | .assignment => 1
  | .range => 2
  | .disjunction => 3
  | .conjunction => 4
  | .comparison => 5
  | .bitOr => 6
  | .bitXor => 7
  | .bitAnd => 8
  | .shift => 9
  | .sum => 10
  | .product => 11
  | .cast => 12

/-- The operators between two operands, each before those it begins with. -/
def binaryOperators : List (String × Rank) :=
  [("+=", .assignment), ("-=", .assignment), ("*=", .assignment), ("/=", .assignment),
    ("%=", .assignment), ("^=", .assignment), ("&=", .assignment), ("|=", .assignment),
    ("<<=", .assignment), (">>=", .assignment), ("&&", .conjunction), ("||", .disjunction),
    ("<<", .shift), (">>", .shift), ("==", .comparison), ("<=", .comparison),
    ("!=", .comparison), (">=", .comparison), ("+", .sum), ("-", .sum), ("*", .product),
    ("/", .product), ("%", .product), ("^", .bitXor), ("&", .bitAnd), ("|", .bitOr),
    ("<", .comparison), (">", .comparison)]

/-- The operator between two operands that begins here. -/
def binaryOperator? (tokens : List Lexeme) : Option (String × Rank) :=
  binaryOperators.find? fun (operator, _) => beginsWithOperator operator tokens

/-- Whether a sign of assignment begins here, and not an arrow. -/
def beginsAssignment (tokens : List Lexeme) : Bool :=
  beginsWithOperator "=" tokens && !beginsWithOperator "=>" tokens

/-- The rank of the operator that begins here; the weakest if there is none. -/
def nextRank (tokens : List Lexeme) : Rank :=
  match binaryOperator? tokens with
  | some (_, rank) => rank
  | none =>
      if beginsAssignment tokens then .assignment
      else if beginsWithOperator ".." tokens then .range
      else if beginsWithName "as" tokens then .cast
      else .jump

/-- Whether a piece of code is a comparison. -/
def Tree.isComparison : Tree → Bool
  | .node .binary [_, .leaf tokens, _] =>
      binaryOperators.any fun (operator, rank) =>
        rank == .comparison && Token.operator operator == tokens
  | _ => false

/-- Whether something begins here that cannot be the end of a range. -/
def endsRange (structures : Bool) (tokens : List Lexeme) : Bool :=
  tokens.isEmpty || beginsWithOperatorOf [",", ";", "?", "=", "+", "/", "%", "^", ">", "<=", "!=",
      "-=", "*=", "&=", "|=", "<<="] tokens ||
    (beginsWithOperator "." tokens && !beginsWithOperator ".." tokens) ||
    (!structures && beginsWithGroup .brace tokens) || beginsWithName "as" tokens

/-- Refuses what may not follow a cast. -/
def checkCast : Reader Unit := do
  let tokens ← ahead
  let next := afterTree tokens
  let refuseBefore (what : String) : Reader Unit := refuse ("casts cannot be followed by " ++ what)
  if beginsWithOperator "." tokens && !beginsWithOperator ".." tokens then
    if beginsWithName "await" next then refuseBefore "`.await`"
    else if beginsWithIdentifier next && (beginsWithGroup .parenthesis (afterTree next) ||
        beginsWithOperator "::" (afterTree next)) then refuseBefore "a method call"
    else refuseBefore "a field access"
  else if beginsWithOperator "?" tokens then refuseBefore "`?`"
  else if beginsWithGroup .bracket tokens then refuseBefore "indexing"
  else if beginsWithGroup .parenthesis tokens then refuseBefore "a function call"

section

variable (parts : Grammar)

mutual

/-- Reads the operators behind a left operand that bind at least as strongly as `least`. -/
def operations (structures : Bool) (least : Rank) : Nat → Tree → Reader Tree
  | 0, left => return left
  | fuel + 1, left => do
      if left.bare.is .range then return left
      let tokens ← ahead
      match binaryOperator? tokens with
      | some (operator, rank) =>
          if rank.level < least.level then return left
          if rank == .comparison && left.isComparison then
            refuse "comparison operators cannot be chained"
          skip operator.length
          let right ← rightOperand structures rank fuel
          operations structures least fuel (.node .binary [left, Tree.operator operator, right])
      | none =>
          if least.level ≤ Rank.assignment.level && beginsAssignment tokens then
            skip 1
            let right ← rightOperand structures .assignment fuel
            operations structures least fuel (.node .assignment [left, Tree.operator "=", right])
          else if least.level ≤ Rank.range.level && beginsWithOperator ".." tokens then
            let (dots, isInclusive) ← rangeDots
            let limit ← rangeEnd structures isInclusive fuel
            operations structures least fuel (.node .range [left, dots, limit])
          else if least.level ≤ Rank.cast.level && beginsWithName "as" tokens then
            skip 1
            let target ← parts.type false
            checkCast
            operations structures least fuel (.node .cast [left, Tree.word "as", .type target])
          else return left

/-- Reads the end of a range, which need not be there unless the range includes it. -/
def rangeEnd (structures isInclusive : Bool) : Nat → Reader Tree
  | 0 => return Tree.nothing
  | fuel + 1 => do
      let tokens ← ahead
      if !isInclusive && endsRange structures tokens then
        return Tree.nothing
      rightOperand structures .range fuel

/-- Reads the right operand of an operator with the operators that bind more strongly. -/
def rightOperand (structures : Bool) (rank : Rank) : Nat → Reader Tree
  | 0 => refuse "expected an expression"
  | fuel + 1 => do
      strongerOperations structures rank fuel (← parts.operand structures)

/-- Goes on with the operators that bind more strongly than `rank`. An assignment goes on with
further ones. -/
def strongerOperations (structures : Bool) (rank : Rank) : Nat → Tree → Reader Tree
  | 0, right => return right
  | fuel + 1, right => do
      let tokens ← ahead
      let next := nextRank tokens
      if rank.level < next.level || (next == rank && rank == .assignment) then
        let longer ← operations structures next fuel right
        if (← ahead).length == tokens.length then return longer
        strongerOperations structures rank fuel longer
      else return right

end

/-- Reads the operators behind a left operand. -/
def allOperations (structures : Bool) (least : Rank) (left : Tree) : Reader Tree := do
  operations parts structures least (2 * (← listFuel)) left

end

end Recordsmith.Source
