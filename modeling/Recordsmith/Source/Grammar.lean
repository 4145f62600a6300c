import Recordsmith.Source.Reader
import Recordsmith.Source.WrittenType

/-!
The readers of the pieces that hold each other. A type may hold an expression as the length of an
array, an expression may hold statements, these may hold items, and items are full of types. So
every reader of a piece is given the readers of its parts, one level of nesting further down.
-/

namespace Recordsmith.Source

open Recordsmith.Lexer

/-- The readers of the parts of a piece. -/
structure Grammar where
  /-- Reads a type; the flag says whether a plus sign and further bounds may follow. -/
  type : Bool → Reader WrittenType
  /-- Reads a bound; the flags say whether it may name what is captured, and whether it may be
  constant. -/
  bound : Bool → Bool → Reader Bound
  /-- Reads an expression; the flag says whether a brace after a path begins a value of named
  members. -/
  expression : Bool → Reader Tree
  /-- Reads an operand with the signs in front of it; the flag is the one of an expression. -/
  operand : Bool → Reader Tree
  /-- Reads an expression that stands by itself, as a statement or an arm of a choice: one that
  ends with its body goes on behind it only with a member or a question mark. -/
  standing : Reader Tree
  /-- Reads a pattern without alternatives. -/
  pattern : Reader Tree
  /-- Reads statements up to the end of the scope. -/
  statements : Reader (List Tree)
  /-- Reads an item behind its attributes, which are given with all the tokens ahead of them. -/
  item : List Lexeme → List Tree → Reader Tree
  /-- Reads what a declaration with `use` names; the flag says whether it may begin with `::`.
  There is none for what cannot be told by its names. -/
  useTree : Bool → Reader (Option Tree)

end Recordsmith.Source
