import Recordsmith.Text.Blank
import Recordsmith.Text.IdentifierCharacters
import Recordsmith.Text.Quoted
import Recordsmith.Token.Basic

/-!
Reading tokens from text. Blanks and comments separate tokens and leave no trace, apart from
doc comments, which become doc attributes. A token is tried as a literal, then as a
punctuation character, then as a name. A text with an unbalanced group or a character that
begins no token is refused with the place of the fault.

Every function that reads a piece of text returns what follows the piece. Places are counted
in characters from the beginning of the text.
-/

namespace Recordsmith.Lexer

open Recordsmith.Text

/-- A token and where it begins. -/
structure Lexeme where
  token : Token
  place : Nat
  deriving DecidableEq, Repr

/-- What lies between `input` and its end `rest`. -/
def between (input rest : List Char) : List Char := input.take (input.length - rest.length)

/-- What follows `start`, if the text starts with it. -/
def afterStart? (start : List Char) (input : List Char) : Option (List Char) :=
  if start.isPrefixOf input then some (input.drop start.length) else none

/-- Whether the text starts with `start`. -/
def startsWith (start : String) (input : List Char) : Bool := start.toList.isPrefixOf input

/-! ## Blanks and comments -/

/-- Blank between tokens: the blank characters and the two direction marks. -/
def isSeparator (character : Char) : Bool :=
  isBlank character || character.toNat == 0x200E || character.toNat == 0x200F

/-- The text up to the end of the line; a carriage return before the line feed is left out. -/
def lineText : List Char → List Char
  | [] => []
  | '\n' :: _ => []
  | '\r' :: '\n' :: _ => []
  | character :: rest => character :: lineText rest

/-- What follows the line, beginning at its line feed. -/
def afterLine : List Char → List Char
  | [] => []
  | '\n' :: rest => '\n' :: rest
  | '\r' :: '\n' :: rest => '\n' :: rest
  | _ :: rest => afterLine rest

/-- What follows the block comment that is open `depth` levels deep. -/
def afterComment : Nat → List Char → Option (List Char)
  | _, [] => none
  | depth, '/' :: '*' :: rest => afterComment (depth + 1) rest
  | depth, '*' :: '/' :: rest => if depth ≤ 1 then some rest else afterComment (depth - 1) rest
  | depth, _ :: rest => afterComment depth rest

/-- What follows a block comment that begins here. -/
def blockComment? : List Char → Option (List Char)
  | '/' :: '*' :: rest => afterComment 1 rest
  | _ => none

/-- What follows a plain comment that begins here; three slashes or two asterisks make a doc
comment, four slashes and three asterisks do not. -/
def plainComment? (input : List Char) : Option (List Char) :=
  if startsWith "//" input then
    if (startsWith "///" input && !startsWith "////" input) || startsWith "//!" input then none
    else some (afterLine input)
  else if startsWith "/**/" input then some (input.drop 4)
  else if startsWith "/*" input then
    if (startsWith "/**" input && !startsWith "/***" input) || startsWith "/*!" input then none
    else blockComment? input
  else none

/-- Drops blanks and plain comments. -/
def skipSeparators : Nat → List Char → List Char
  | 0, input => input
  | fuel + 1, input =>
      match plainComment? input with
      | some rest => skipSeparators fuel rest
      | none => match input with
          | character :: rest =>
              if isSeparator character then skipSeparators fuel rest else input
          | [] => []

/-- A doc comment: its text, whether it documents what it stands in, and what follows it. -/
def docComment? (input : List Char) : Option (List Char × Bool × List Char) :=
  if startsWith "//!" input then
    some (lineText (input.drop 3), true, afterLine (input.drop 3))
  else if startsWith "/*!" input then
    (blockComment? input).map fun rest =>
      (((between input rest).drop 3).dropLast.dropLast, true, rest)
  else if startsWith "///" input && !startsWith "////" input then
    some (lineText (input.drop 3), false, afterLine (input.drop 3))
  else if startsWith "/**" input && !startsWith "/***" input then
    (blockComment? input).map fun rest =>
      (((between input rest).drop 3).dropLast.dropLast, false, rest)
  else none

/-- Every carriage return is followed by a line feed. -/
def carriageReturnsPaired : List Char → Bool
  | [] => true
  | '\r' :: '\n' :: rest => carriageReturnsPaired rest
  | '\r' :: _ => false
  | _ :: rest => carriageReturnsPaired rest

/-- The attribute that a doc comment stands for. -/
def docAttribute (text : List Char) (isInner : Bool) : List Token :=
  [.mark '#' false] ++ (if isInner then [.mark '!' false] else []) ++
    Token.group .bracket
      [.name "doc", .mark '=' false, .literal (stringLiteral (String.ofList text))]

/-! ## Names -/

/-- What follows a name that begins here, and the name. -/
def plainName? : List Char → Option (List Char × List Char)
  | [] => none
  | character :: rest =>
      if isIdentifierStart character then
        some (character :: rest.takeWhile isIdentifierContinue,
          rest.dropWhile isIdentifierContinue)
      else none

/-- The names that have no raw form. -/
def neverRaw : List String := ["_", "super", "self", "Self", "crate"]

/-- A plain or raw name; the text of a raw name keeps its mark. -/
def anyName? (input : List Char) : Option (List Char × List Char) :=
  match afterStart? ['r', '#'] input with
  | some inner => do
      let (name, rest) ← plainName? inner
      if neverRaw.contains (String.ofList name) then none
      else some ('r' :: '#' :: name, rest)
  | none => plainName? input

/-- The beginnings of literals that a name must not be read from. -/
def literalStarts : List String :=
  ["r\"", "r#\"", "r##", "b\"", "b'", "br\"", "br#", "c\"", "cr\"", "cr#"]

/-- A name, unless a literal begins here. -/
def name? (input : List Char) : Option (List Char × List Char) :=
  if literalStarts.any (startsWith · input) then none else anyName? input

/-- Drops a name that follows a literal directly. -/
def skipSuffix (input : List Char) : List Char :=
  match plainName? input with
  | some (_, rest) => rest
  | none => input

/-! ## Quoted literals -/

/-- A hexadecimal digit. -/
def isHexDigit (character : Char) : Bool :=
  character.isDigit || ('a' ≤ character && character ≤ 'f') || ('A' ≤ character && character ≤ 'F')

/-- The value of a hexadecimal digit. -/
def hexValue (character : Char) : Nat :=
  if character.isDigit then character.toNat - '0'.toNat
  else if 'a' ≤ character then character.toNat - 'a'.toNat + 10
  else character.toNat - 'A'.toNat + 10

/-- A code point in braces, after `count` of its at most six digits, and what follows it. -/
def bracedCodePoint? (count value : Nat) : List Char → Option (Nat × List Char)
  | [] => none
  | character :: rest =>
      if character == '_' && 0 < count then bracedCodePoint? count value rest
      else if character == '}' && 0 < count then
        if value.isValidChar then some (value, rest) else none
      else if isHexDigit character && count < 6 then
        bracedCodePoint? (count + 1) (value * 16 + hexValue character) rest
      else none

/-- The kinds of quoted literals differ in which characters and escapes they hold. -/
inductive QuotedKind where
  | text
  | bytes
  | terminated
  deriving DecidableEq

/-- Two hexadecimal digits; in a text they stay below 128, and a terminated literal holds no
zero. -/
def hexEscape? (kind : QuotedKind) : List Char → Option (Nat × List Char)
  | high :: low :: rest =>
      let value := hexValue high * 16 + hexValue low
      if !isHexDigit high || !isHexDigit low then none
      else if kind = .text && 0x80 ≤ value then none
      else if kind = .terminated && value == 0 then none
      else some (value, rest)
  | _ => none

/-- A character escape after its backslash: its value and what follows it. -/
def escape? (kind : QuotedKind) : List Char → Option (Nat × List Char)
  | 'x' :: rest => hexEscape? kind rest
  | 'n' :: rest => some (0x0A, rest)
  | 'r' :: rest => some (0x0D, rest)
  | 't' :: rest => some (0x09, rest)
  | '\\' :: rest => some (0x5C, rest)
  | '\'' :: rest => some (0x27, rest)
  | '"' :: rest => some (0x22, rest)
  | '0' :: rest => if kind = .terminated then none else some (0, rest)
  | 'u' :: '{' :: rest =>
      if kind = .bytes then none
      else match bracedCodePoint? 0 0 rest with
        | some (value, rest) => if kind = .terminated && value == 0 then none else some (value, rest)
        | none => none
  | _ => none

/-- Drops the blanks after a backslash at the end of a line; `none` when the text ends there or
a carriage return stands alone. -/
def skipContinuation : Nat → List Char → Option (List Char)
  | 0, _ => none
  | _ + 1, [] => none
  | fuel + 1, '\r' :: '\n' :: rest => skipContinuation fuel rest
  | fuel + 1, character :: rest =>
      if character == '\r' then none
      else if character == ' ' || character == '\t' || character == '\n' then
        skipContinuation fuel rest
      else some (character :: rest)

/-- What follows the closing quote of a literal with escapes. -/
def afterQuoted? (kind : QuotedKind) : Nat → List Char → Option (List Char)
  | 0, _ => none
  | _ + 1, [] => none
  | fuel + 1, character :: rest =>
      if character == '"' then some rest
      else if character == '\r' then
        match rest with
        | '\n' :: rest => afterQuoted? kind fuel rest
        | _ => none
      else if character == '\\' then
        match rest with
        | '\n' :: rest => (skipContinuation fuel rest).bind (afterQuoted? kind fuel)
        | '\r' :: '\n' :: rest => (skipContinuation fuel rest).bind (afterQuoted? kind fuel)
        | _ => (escape? kind rest).bind fun (_, rest) => afterQuoted? kind fuel rest
      else if kind = .bytes && 0x80 ≤ character.toNat then none
      else if kind = .terminated && character.toNat == 0 then none
      else afterQuoted? kind fuel rest

/-- What follows a raw literal's closing quote and number signs. -/
def afterRaw? (kind : QuotedKind) (signs : List Char) : List Char → Option (List Char)
  | [] => none
  | '\r' :: '\n' :: rest => afterRaw? kind signs rest
  | character :: rest =>
      if character == '"' && signs.isPrefixOf rest then some (rest.drop signs.length)
      else if character == '\r' then none
      else if kind = .bytes && 0x80 ≤ character.toNat then none
      else if kind = .terminated && character.toNat == 0 then none
      else afterRaw? kind signs rest

/-- A raw literal from its number signs on. -/
def raw? (kind : QuotedKind) (input : List Char) : Option (List Char) :=
  let signs := input.takeWhile (· == '#')
  match input.dropWhile (· == '#') with
  | '"' :: body => if 255 < signs.length then none else afterRaw? kind signs body
  | _ => none

/-- A literal in double quotes, with the letters that come before the quotes. -/
def doubleQuoted? (input : List Char) : Option (List Char) :=
  match input with
  | '"' :: rest => afterQuoted? .text (rest.length + 1) rest
  | 'r' :: rest => raw? .text rest
  | 'b' :: '"' :: rest => afterQuoted? .bytes (rest.length + 1) rest
  | 'b' :: 'r' :: rest => raw? .bytes rest
  | 'c' :: '"' :: rest => afterQuoted? .terminated (rest.length + 1) rest
  | 'c' :: 'r' :: rest => raw? .terminated rest
  | _ => none

/-- A character or byte in single quotes. -/
def singleQuoted? (input : List Char) : Option (List Char) :=
  let body (kind : QuotedKind) (inner : List Char) : Option (List Char) := do
    let rest ← match inner with
      | [] => none
      | '\\' :: rest => (escape? kind rest).map (·.2)
      | character :: rest => if kind = .bytes && 0x80 ≤ character.toNat then none else some rest
    match rest with
    | '\'' :: rest => some rest
    | _ => none
  match input with
  | 'b' :: '\'' :: inner => body .bytes inner
  | '\'' :: inner => body .text inner
  | _ => none

/-! ## Numbers -/

/-- Nothing that would go on with a name. -/
def endsWord : List Char → Bool
  | [] => true
  | character :: _ => !isIdentifierContinue character

/-- A digit or an underscore. -/
def isDigitOrLine (character : Char) : Bool := character.isDigit || character == '_'

/-- The exponent of a number after its mark: an optional sign, then at least one digit. -/
def exponent? (input : List Char) : Option (List Char) :=
  let underscores := input.dropWhile (· == '_')
  let unsigned := match underscores with
    | '+' :: rest => rest
    | '-' :: rest => rest
    | _ => underscores
  let digits := unsigned.takeWhile isDigitOrLine
  if digits.any Char.isDigit then some (unsigned.dropWhile isDigitOrLine) else none

/-- The digits of a number with a fraction or an exponent. -/
def fractionalDigits? (input : List Char) : Option (List Char) :=
  match input with
  | [] => none
  | first :: _ =>
      if !first.isDigit then none
      else
        let whole := input.dropWhile isDigitOrLine
        match whole with
        | '.' :: afterPoint =>
            if (match afterPoint with
                | [] => false
                | next :: _ => next == '.' || isIdentifierStart next) then none
            else
              let fraction := afterPoint.dropWhile isDigitOrLine
              match fraction with
              | mark :: afterMark =>
                  if mark == 'e' || mark == 'E' then some ((exponent? afterMark).getD fraction)
                  else some fraction
              | [] => some fraction
        | mark :: afterMark =>
            if mark == 'e' || mark == 'E' then exponent? afterMark else none
        | [] => none

/-- The digits of a whole number of the given base; `none` without a digit, with a decimal
digit that the base does not have, and with an underscore before the first decimal digit. -/
def wholeDigits? (base : Nat) (isEmpty : Bool) : List Char → Option (List Char)
  | [] => if isEmpty then none else some []
  | character :: rest =>
      if character == '_' then
        if isEmpty && base == 10 then none else wholeDigits? base isEmpty rest
      else if character.isDigit then
        if base ≤ hexValue character then none else wholeDigits? base false rest
      else if isHexDigit character && hexValue character < base then wholeDigits? base false rest
      else if isEmpty then none
      else some (character :: rest)

/-- A whole number's digits with the mark of its base. -/
def basedDigits? (input : List Char) : Option (List Char) :=
  if startsWith "0x" input then wholeDigits? 16 true (input.drop 2)
  else if startsWith "0o" input then wholeDigits? 8 true (input.drop 2)
  else if startsWith "0b" input then wholeDigits? 2 true (input.drop 2)
  else wholeDigits? 10 true input

/-- A number with its suffix, from its digits on. -/
def number? (digits? : List Char → Option (List Char)) (input : List Char) : Option (List Char) := do
  let rest := skipSuffix (← digits? input)
  if endsWord rest then some rest else none

/-- What follows a literal that begins here. -/
def literal? (input : List Char) : Option (List Char) :=
  match doubleQuoted? input with
  | some rest => some (skipSuffix rest)
  | none => match singleQuoted? input with
    | some rest => some (skipSuffix rest)
    | none => match number? fractionalDigits? input with
      | some rest => some rest
      | none => number? basedDigits? input

/-! ## Punctuation -/

/-- The punctuation characters. -/
def isMark (character : Char) : Bool := "~!@#$%^&*-=+|;:,<.>/?'".toList.contains character

/-- A punctuation character that does not begin a comment. -/
def mark? (input : List Char) : Option (Char × List Char) :=
  if startsWith "//" input || startsWith "/*" input then none
  else match input with
    | character :: rest => if isMark character then some (character, rest) else none
    | [] => none

/-- A punctuation token. An apostrophe is one only in front of a lifetime's name. -/
def punctuation? (input : List Char) : Option (Token × List Char) := do
  let (character, rest) ← mark? input
  if character == '\'' then
    let (_, afterName) ← anyName? rest
    let isRaw := startsWith "r#" rest
    match afterName with
    | '\'' :: _ => none
    | '#' :: _ => if isRaw then some (.mark '\'' true, rest) else none
    | _ => some (.mark '\'' true, rest)
  else some (.mark character (mark? rest).isSome, rest)

/-! ## Token lists -/

/-- What stands for a piece of text that could not be read. It is a literal of its own. -/
def faultMark : String := "(/*ERROR*/)"

/-- A token that is no end of a group. -/
def leaf? (input : List Char) : Option (Token × List Char) :=
  match literal? input with
  | some rest => some (.literal (String.ofList (between input rest)), rest)
  | none => match punctuation? input with
    | some found => some found
    | none => match name? input with
      | some (name, rest) => some (.name (String.ofList name), rest)
      | none =>
          (afterStart? faultMark.toList input).map fun rest => (.literal faultMark, rest)

/-- The group that begins here. The mark of a fault begins none. -/
def opening? (input : List Char) : Option Delimiter :=
  if startsWith faultMark input then none
  else [Delimiter.parenthesis, .bracket, .brace].find? fun delimiter =>
    input.head? == some delimiter.openingCharacter

/-- The group that a character closes. -/
def closingOf? (character : Char) : Option Delimiter :=
  [Delimiter.parenthesis, .bracket, .brace].find? (·.closingCharacter == character)

/-- Reads the tokens of `input`, the end of a text of `total` characters, with the groups in
`stack` open. A refusal gives the place of the fault; for a group left open that is its
beginning. -/
def lexFrom (total : Nat) : Nat → List (Delimiter × Nat) → List Char → Except Nat (List Lexeme)
  | 0, _, input => .error (total - input.length)
  | fuel + 1, stack, unskipped =>
      let input := skipSeparators unskipped.length unskipped
      let place := total - input.length
      match docComment? input with
      | some (text, isInner, rest) =>
          if carriageReturnsPaired text then do
            let others ← lexFrom total fuel stack rest
            .ok ((docAttribute text isInner).map (⟨·, place⟩) ++ others)
          else .error place
      | none => match input with
          | [] => match stack with
              | [] => .ok []
              | (_, opened) :: _ => .error opened
          | character :: rest =>
              match opening? input with
              | some delimiter => do
                  let others ← lexFrom total fuel ((delimiter, place) :: stack) rest
                  .ok (⟨.opening delimiter, place⟩ :: others)
              | none => match closingOf? character with
                  | some delimiter => match stack with
                      | [] => .error place
                      | (opened, _) :: outer =>
                          if opened = delimiter then do
                            let others ← lexFrom total fuel outer rest
                            .ok (⟨.closing delimiter, place⟩ :: others)
                          else .error place
                  | none => match leaf? input with
                      | none => .error place
                      | some (token, rest) => do
                          let others ← lexFrom total fuel stack rest
                          .ok (⟨token, place⟩ :: others)

/-- The tokens of a text with their places, or the place of the fault. A byte order mark at the
beginning is passed over. -/
def lex (text : String) : Except Nat (List Lexeme) :=
  let characters := text.toList
  let body := match characters with
    | '\uFEFF' :: rest => rest
    | _ => characters
  lexFrom characters.length (body.length + 1) [] body

end Recordsmith.Lexer
