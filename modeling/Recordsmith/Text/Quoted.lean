import Recordsmith.Text.Printable

/-!
Quoted text. Quotes, backslashes and the usual controls are written as two characters,
anything that would not show as itself by its code point in braces, and everything else as it
is, the apostrophe included. A string literal writes a NUL before an octal digit in full, so
that the two cannot be read together as one escape.
-/

namespace Recordsmith.Text

/-- A code point in lower case hexadecimal between braces. -/
def codePointEscape (character : Char) : List Char :=
  ['\\', 'u', '{'] ++ Nat.toDigits 16 character.toNat ++ ['}']

/-- The written form of one character inside quotes. -/
def escapeCharacter (character : Char) : List Char :=
  if character == '"' then ['\\', '"']
  else if character == '\\' then ['\\', '\\']
  else if character == '\n' then ['\\', 'n']
  else if character == '\t' then ['\\', 't']
  else if character == '\r' then ['\\', 'r']
  else if character.toNat == 0 then ['\\', '0']
  else if isAttachedMark character || !isPrintable character then codePointEscape character
  else [character]

/-- Between the octal digits. -/
def startsWithOctalDigit : List Char → Bool
  | [] => false
  | character :: _ => '0' ≤ character && character ≤ '7'

/-- The body of a string literal. -/
def literalBody : List Char → List Char
  | [] => []
  | character :: rest =>
      (if character.toNat == 0 && startsWithOctalDigit rest then ['\\', 'x', '0', '0']
        else escapeCharacter character) ++ literalBody rest

/-- A text as a string literal, quotes included. -/
def stringLiteral (text : String) : String :=
  String.ofList ('"' :: (literalBody text.toList ++ ['"']))

/-- A text as values are shown for inspection, quotes included. -/
def inspected (text : String) : String :=
  String.ofList ('"' :: ((text.toList.flatMap escapeCharacter) ++ ['"']))

end Recordsmith.Text
