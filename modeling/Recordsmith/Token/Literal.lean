import Recordsmith.Token.Lexer

/-!
The value of a string literal. Escapes stand for the characters they name, a backslash at the
end of a line takes the blanks after it away, and a raw literal holds its body as it is.
-/

namespace Recordsmith.Literal

open Recordsmith.Text
open Recordsmith.Lexer

/-- The value of the body of a literal with escapes, and what follows the closing quote. -/
def cookedValue? : Nat → List Char → Option (List Char × List Char)
  | 0, _ => none
  | fuel + 1, input =>
      let keep (character : Char) (rest : List Char) : Option (List Char × List Char) :=
        (cookedValue? fuel rest).map fun (value, after) => (character :: value, after)
      match input with
      | [] => none
      | '"' :: rest => some ([], rest)
      | '\r' :: '\n' :: rest => keep '\n' rest
      | '\\' :: '\n' :: rest => cookedValue? fuel (rest.dropWhile isBlank)
      | '\\' :: '\r' :: rest => cookedValue? fuel (rest.dropWhile isBlank)
      | '\\' :: rest => (escape? .text rest).bind fun (value, rest) => keep (Char.ofNat value) rest
      | character :: rest => keep character rest

/-- The body of a raw literal up to its closing quote and number signs, and what follows. -/
def rawValue? (signs : List Char) : List Char → Option (List Char × List Char)
  | [] => none
  | character :: rest =>
      if character == '"' && signs.isPrefixOf rest then some ([], rest.drop signs.length)
      else (rawValue? signs rest).map fun (value, after) => (character :: value, after)

/-- A string literal's value and its suffix; `none` for a literal of another kind. -/
def stringValue? (literal : String) : Option (String × String) :=
  let found := match literal.toList with
    | '"' :: rest => cookedValue? (rest.length + 1) rest
    | 'r' :: rest =>
        match rest.dropWhile (· == '#') with
        | '"' :: body => rawValue? (rest.takeWhile (· == '#')) body
        | _ => none
    | _ => none
  found.map fun (value, suffix) => (String.ofList value, String.ofList suffix)

/-- A number, which may stand after a minus sign. -/
def isNumber (literal : String) : Bool :=
  match literal.toList with
  | first :: _ => first.isDigit
  | [] => false

/-! ## Integers -/

/-- The digit that a character stands for; letters are digits only in a base above ten. -/
def digit? (base : Nat) (character : Char) : Option Nat :=
  if character.isDigit then some (character.toNat - '0'.toNat)
  else if base ≤ 10 then none
  else if 'a' ≤ character && character ≤ 'f' then some (character.toNat - 'a'.toNat + 10)
  else if 'A' ≤ character && character ≤ 'F' then some (character.toNat - 'A'.toNat + 10)
  else none

/-- Whether what follows the letter `e` is an exponent; `found` says whether it has a digit. -/
def isExponent (found : Bool) : List Char → Bool
  | [] => found
  | character :: rest =>
      if character == '_' then isExponent found rest
      else if character == '-' || character == '+' then true
      else if character.isDigit then isExponent true rest
      else found

/-- The value of the digits of an integer, behind those of `value`, and its suffix; `none` if the
number is none. -/
def digitsValue? (base value : Nat) (found : Bool) : List Char → Option (Nat × List Char)
  | [] => if found then some (value, []) else none
  | character :: rest =>
      let ended : Option (Nat × List Char) :=
        if found then some (value, character :: rest) else none
      if character == '_' then digitsValue? base value found rest
      else if base == 10 && character == '.' then none
      else if base == 10 && (character == 'e' || character == 'E') then
        if isExponent false rest then none else ended
      else match digit? base character with
        | some digit =>
            if digit < base then digitsValue? base (value * base + digit) true rest else none
        | none => ended

/-- The value of an integer literal and its suffix; `none` for a literal of another kind. -/
def integerValue? (literal : String) : Option (Nat × String) :=
  let found := match literal.toList with
    | '0' :: 'x' :: rest => digitsValue? 16 0 false rest
    | '0' :: 'o' :: rest => digitsValue? 8 0 false rest
    | '0' :: 'b' :: rest => digitsValue? 2 0 false rest
    | characters => if isNumber literal then digitsValue? 10 0 false characters else none
  found.map fun (value, suffix) => (value, String.ofList suffix)

/-- A number that is no integer. -/
def isReal (literal : String) : Bool := isNumber literal && (integerValue? literal).isNone

end Recordsmith.Literal
