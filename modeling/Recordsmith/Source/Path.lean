import Recordsmith.Source.Grammar
import Recordsmith.Token.Literal

/-!
Reading literals, and paths whose names have no arguments.
-/

namespace Recordsmith.Source

open Reader
open Recordsmith.Lexer

/-! ## Literals -/

/-- Whether a literal begins here; a minus sign may stand in front of a number. -/
def beginsWithLiteral : List Lexeme → Bool
  | ⟨.literal _, _⟩ :: _ => true
  | ⟨.name name, _⟩ :: _ => name == "true" || name == "false"
  | ⟨.mark '-' _, _⟩ :: ⟨.literal text, _⟩ :: _ => Literal.isNumber text
  | _ => false

/-- Whether the tokens begin with a literal that is a text. -/
def beginsWithText : List Lexeme → Bool
  | ⟨.literal text, _⟩ :: _ => (Literal.stringValue? text).isSome
  | _ => false

/-- Reads a literal. -/
def literal : Reader Tree := do
  let tokens ← ahead
  if beginsWithLiteral tokens then
    match tokens with
    | ⟨.mark _ _, _⟩ :: ⟨number, _⟩ :: _ => do
        skip 2
        return .node .literal [.leaf [.mark '-' false, number]]
    | ⟨token, _⟩ :: _ => do
        skip 1
        return .node .literal [.leaf [token]]
    | [] => refuse "expected literal"
  else refuse "expected literal"

/-! ## Paths of plain names -/

/-- The reserved names that may stand in a path. -/
def pathWords : List String := ["super", "self", "Self", "crate"]

/-- Reads names with two colons between them; reserved names are taken only if they may stand in
a path. Says whether colons are left at the end. -/
def plainNames : Nat → Reader (List String × Bool)
  | 0 => return ([], false)
  | fuel + 1 => do
      let tokens ← ahead
      if beginsWithIdentifier tokens || beginsWithOneOf pathWords tokens then
        let name ← anyName
        if ← operator? "::" then
          let (names, dangling) ← plainNames fuel
          return (name :: names, dangling || names.isEmpty)
        return ([name], false)
      return ([], false)

/-- Reads a path without arguments, of at least one name. -/
def modulePath : Reader WrittenPath := do
  let leading ← operator? "::"
  let (names, dangling) ← plainNames (← listFuel)
  if names.isEmpty then
    let _ ← identifier
  if dangling then refuse "expected path segment after `::`"
  else return WrittenPath.plain leading names

end Recordsmith.Source
