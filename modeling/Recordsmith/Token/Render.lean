import Recordsmith.Token.Basic

/-!
Token text: the tokens of a list with one space between them. Nothing is put inside the
parentheses and brackets of a group, braces keep a space on both sides of what they hold, and
a joint character is written together with what follows it.
-/

namespace Recordsmith.Token

/-- The text of one token. -/
def text : Token → String
  | .name text => text
  | .mark character _ => String.singleton character
  | .literal text => text
  | .opening delimiter => String.singleton delimiter.openingCharacter
  | .closing delimiter => String.singleton delimiter.closingCharacter

/-- Opens a parenthesis or bracket, or is joined to what follows. -/
def holdsNext : Token → Bool
  | .opening delimiter => delimiter != .brace
  | .mark _ joint => joint
  | _ => false

/-- Closes a parenthesis or bracket. -/
def holdsPrevious : Token → Bool
  | .closing delimiter => delimiter != .brace
  | _ => false

/-- The gap between two neighbours. A closing brace always stands apart. -/
def gap (previous next : Token) : String :=
  if next = .closing .brace then " "
  else if previous.holdsNext || next.holdsPrevious then ""
  else " "

/-- The texts of the tokens and of the gaps between them, in order. -/
def pieces : List Token → List String
  | [] => []
  | [single] => [single.text]
  | first :: second :: rest => first.text :: gap first second :: pieces (second :: rest)

/-- Token text. -/
def render (tokens : List Token) : String := String.join (pieces tokens)

end Recordsmith.Token
