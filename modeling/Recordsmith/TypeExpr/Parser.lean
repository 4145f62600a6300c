import Recordsmith.Fault
import Recordsmith.Text.IdentifierCharacters
import Recordsmith.TypeExpr.Basic

/-!
Reading type expressions. A type is a run of word characters, then perhaps arguments in angle
brackets, then perhaps a question mark. Blanks are allowed around the commas between arguments
and nowhere else. A comma with no type behind it is not taken, so a fault there is found in
front of the comma and its blanks.

A refused text is reported with the place where reading stopped and what was wanted there.
-/

namespace Recordsmith.TypeExpr

open Recordsmith.Text

/-- What was wanted where reading stopped. -/
inductive Wanted where
  | name
  | closingBracket
  | endOfText
  deriving DecidableEq, Repr

/-- The name of what was wanted, as it is put into notes. -/
def Wanted.label : Wanted → String
  | .name => "TakeWhile1"
  | .closingBracket => "Char"
  | .endOfText => "Eof"

/-- Where reading stopped, by the text that was left, and what was wanted. -/
structure Stop where
  wanted : Wanted
  rest : List Char
  deriving DecidableEq, Repr

/-- A blank that may stand beside a comma. -/
def isPadding (character : Char) : Bool :=
  character == ' ' || character == '\t' || character == '\r' || character == '\n'

/-- Begins with a word character. -/
def beginsWord : List Char → Bool
  | [] => false
  | character :: _ => isWordCharacter character

/-- What follows a comma with its padding, if a type begins there. -/
def afterComma? (input : List Char) : Option (List Char) :=
  match input.dropWhile isPadding with
  | ',' :: afterComma =>
      let next := afterComma.dropWhile isPadding
      if beginsWord next then some next else none
  | _ => none

/-- Takes a question mark if it is next. -/
def takeQuestionMark : List Char → Bool × List Char
  | '?' :: rest => (true, rest)
  | rest => (false, rest)

mutual

/-- Reads a type. The fuel is more than the length of the text. -/
def readType : Nat → List Char → Except Stop (TypeExpr × List Char)
  | 0, input => .error ⟨.name, input⟩
  | fuel + 1, input =>
      if beginsWord input then do
        let (arguments, afterArguments) ← readArguments fuel (input.dropWhile isWordCharacter)
        let (nullable, rest) := takeQuestionMark afterArguments
        .ok (⟨String.ofList (input.takeWhile isWordCharacter), arguments, nullable⟩, rest)
      else .error ⟨.name, input⟩

/-- Reads arguments in angle brackets, if they are there. -/
def readArguments : Nat → List Char → Except Stop (List TypeExpr × List Char)
  | 0, input => .ok ([], input)
  | fuel + 1, input =>
      match input with
      | '<' :: inside => do
          let (first, afterFirst) ← readType fuel inside
          let (others, afterOthers) ← readMore fuel afterFirst
          match afterOthers with
          | '>' :: rest => .ok (first :: others, rest)
          | _ => .error ⟨.closingBracket, afterOthers⟩
      | _ => .ok ([], input)

/-- Reads further arguments, each after a comma. -/
def readMore : Nat → List Char → Except Stop (List TypeExpr × List Char)
  | 0, input => .ok ([], input)
  | fuel + 1, input =>
      match afterComma? input with
      | none => .ok ([], input)
      | some next => do
          let (first, afterFirst) ← readType fuel next
          let (others, rest) ← readMore fuel afterFirst
          .ok (first :: others, rest)

end

/-- Reads a whole text as a type. -/
def readWhole (input : List Char) : Except Stop TypeExpr := do
  let (type, rest) ← readType (2 * input.length + 2) input
  match rest with
  | [] => .ok type
  | _ :: _ => .error ⟨.endOfText, rest⟩

/-- How many bytes a text takes in UTF-8. -/
def byteCount : List Char → Nat
  | [] => 0
  | character :: rest => character.utf8Size + byteCount rest

/-- Reads a text as a type expression. -/
def parse (text : String) : Outcome TypeExpr :=
  match readWhole text.toList with
  | .ok type => .ok type
  | .error stop =>
      .error ((Report.ofFault (.malformedType text
        (byteCount text.toList - byteCount stop.rest))).withNote
          ("Parser stopped at: " ++ stop.wanted.label))

end Recordsmith.TypeExpr
