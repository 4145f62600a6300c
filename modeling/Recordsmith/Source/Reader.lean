import Recordsmith.Source.Identifier

/-!
Reading tokens one after another. A reader works on the tokens of one scope, which is the
whole text or the inside of one group, and refuses with a complaint that names the token at
fault. Tokens left over at the end of a group do not stop a reader; the first of them is kept
and complained of when nothing else went wrong.

What comes next is looked at by token trees: a group counts as one, and so does a lifetime.
-/

namespace Recordsmith.Source

open Recordsmith.Lexer

/-- What is wrong, and at which place of the text. -/
structure Complaint where
  message : String
  place : Nat
  deriving DecidableEq, Repr

/-- What is left to read: the tokens of the scope, the place of its end, and the first token
left over in a group already read. -/
structure Remaining where
  tokens : List Lexeme
  scopeEnd : Nat
  stray : Option Complaint

/-- A reader of tokens. -/
abbrev Reader (Value : Type) := StateT Remaining (Except Complaint) Value

namespace Reader

/-! ## Looking ahead -/

/-- Whether the tokens begin with the marks of an operator, joint up to the last. -/
def beginsWithMarks : List Char → List Lexeme → Bool
  | [], _ => true
  | [character], ⟨.mark found _, _⟩ :: _ => character == found
  | character :: next :: rest, ⟨.mark found joint, _⟩ :: tokens =>
      character == found && joint && beginsWithMarks (next :: rest) tokens
  | _, _ => false

/-- Whether the tokens begin with an operator. -/
def beginsWithOperator (operator : String) (tokens : List Lexeme) : Bool :=
  beginsWithMarks operator.toList tokens

/-- Whether the tokens begin with one of the given operators. -/
def beginsWithOperatorOf (operators : List String) (tokens : List Lexeme) : Bool :=
  operators.any fun operator => beginsWithOperator operator tokens

/-- Whether the tokens begin with a lifetime. -/
def beginsWithLifetime : List Lexeme → Bool
  | ⟨.mark '\'' true, _⟩ :: ⟨.name _, _⟩ :: _ => true
  | _ => false

/-- Whether the tokens begin with the given name. -/
def beginsWithName (name : String) : List Lexeme → Bool
  | ⟨.name found, _⟩ :: _ => found == name
  | _ => false

/-- Whether the tokens begin with one of the given names. -/
def beginsWithOneOf (names : List String) : List Lexeme → Bool
  | ⟨.name found, _⟩ :: _ => names.contains found
  | _ => false

/-- Whether the tokens begin with any name, reserved or not. -/
def beginsWithAnyName : List Lexeme → Bool
  | ⟨.name _, _⟩ :: _ => true
  | _ => false

/-- Whether the tokens begin with a name that is not reserved. -/
def beginsWithIdentifier : List Lexeme → Bool
  | ⟨.name found, _⟩ :: _ => !Identifier.reserved.contains found
  | _ => false

/-- Whether the tokens begin with a group of the given kind. -/
def beginsWithGroup (delimiter : Delimiter) : List Lexeme → Bool
  | ⟨.opening found, _⟩ :: _ => found == delimiter
  | _ => false

/-- Whether the tokens begin with a group of any kind. -/
def beginsWithAnyGroup : List Lexeme → Bool
  | ⟨.opening _, _⟩ :: _ => true
  | _ => false

/-- The tokens of a group up to its end, with the end and what follows it; `depth` more groups
are open. -/
def splitGroup : Nat → List Lexeme → Option (List Lexeme × Lexeme × List Lexeme)
  | _, [] => none
  | depth, lexeme :: rest =>
      let keep (depth : Nat) := (splitGroup depth rest).map fun (inner, ending, after) =>
        (lexeme :: inner, ending, after)
      match lexeme.token with
      | .opening _ => keep (depth + 1)
      | .closing _ => match depth with
          | 0 => some ([], lexeme, rest)
          | depth + 1 => keep depth
      | _ => keep depth

/-- What follows a group; `depth` more groups are open. -/
def afterGroup : Nat → List Lexeme → List Lexeme
  | _, [] => []
  | depth, lexeme :: rest =>
      match lexeme.token with
      | .opening _ => afterGroup (depth + 1) rest
      | .closing _ => match depth with
          | 0 => rest
          | depth + 1 => afterGroup depth rest
      | _ => afterGroup depth rest

/-- What follows the first token tree. -/
def afterTree : List Lexeme → List Lexeme
  | [] => []
  | ⟨.mark '\'' true, _⟩ :: ⟨.name _, _⟩ :: rest => rest
  | ⟨.opening _, _⟩ :: rest => afterGroup 0 rest
  | _ :: rest => rest

/-- The tokens ahead. -/
def ahead : Reader (List Lexeme) := do
  return (← get).tokens

/-- Nothing is left in the scope. -/
def atEnd : Reader Bool := do
  return (← get).tokens.isEmpty

/-- Whether the next token is the operator. -/
def peekOperator (operator : String) : Reader Bool := do
  return beginsWithOperator operator (← ahead)

/-- Whether the next token is the name. -/
def peekName (name : String) : Reader Bool := do
  return beginsWithName name (← ahead)

/-- Whether a group of the given kind begins here. -/
def peekGroup (delimiter : Delimiter) : Reader Bool := do
  return beginsWithGroup delimiter (← ahead)

/-- Whether a lifetime begins here. -/
def peekLifetime : Reader Bool := do
  return beginsWithLifetime (← ahead)

/-! ## Refusing -/

/-- The place of the next token, or of the end of the scope. -/
def place : Reader Nat := do
  let remaining ← get
  match remaining.tokens with
  | lexeme :: _ => pure lexeme.place
  | [] => pure remaining.scopeEnd

/-- Refuses at the given place. -/
def refuseAt {Value : Type} (message : String) (place : Nat) : Reader Value :=
  throw ⟨message, place⟩

/-- Refuses the next token; at the end of the scope the complaint says so. -/
def refuse {Value : Type} (message : String) : Reader Value := do
  let remaining ← get
  match remaining.tokens with
  | lexeme :: _ => throw ⟨message, lexeme.place⟩
  | [] => throw ⟨"unexpected end of input, " ++ message, remaining.scopeEnd⟩

/-- A word or an operator as it is called in complaints. -/
def quoted (text : String) : String := "`" ++ text ++ "`"

/-- The words for what was expected instead of the next token. -/
def expectedText : List String → String
  | [] => "unexpected token"
  | [single] => "expected " ++ single
  | [first, second] => "expected " ++ first ++ " or " ++ second
  | several => "expected one of: " ++ String.intercalate ", " several

/-- Refuses the next token, as none of what was expected. -/
def refuseUnless {Value : Type} (expected : List String) : Reader Value := do
  let remaining ← get
  if expected.isEmpty && remaining.tokens.isEmpty then
    throw ⟨"unexpected end of input", remaining.scopeEnd⟩
  refuse (expectedText expected)

/-! ## Single tokens -/

/-- Passes over `count` tokens. -/
def skip (count : Nat) : Reader Unit :=
  modify fun remaining => { remaining with tokens := remaining.tokens.drop count }

/-- Reads an operator if it is next. -/
def operator? (operator : String) : Reader Bool := do
  if ← peekOperator operator then
    skip operator.length
    return true
  return false

/-- Reads an operator. Unlike other complaints this one has the same words at the end. -/
def operator (operator : String) : Reader Unit := do
  unless ← operator? operator do
    refuseAt ("expected " ++ quoted operator) (← place)

/-- Reads a word if it is next. -/
def word? (word : String) : Reader Bool := do
  if ← peekName word then
    skip 1
    return true
  return false

/-- Reads a word. -/
def word (word : String) : Reader Unit := do
  unless ← word? word do
    refuse ("expected " ++ quoted word)

/-- Reads any name, reserved or not. -/
def anyName : Reader String := do
  match ← ahead with
  | ⟨.name name, _⟩ :: _ => do
      skip 1
      return name
  | _ => refuse "expected ident"

/-- Reads an identifier. -/
def identifier : Reader String := do
  match ← ahead with
  | ⟨.name name, _⟩ :: _ =>
      if Identifier.reserved.contains name then
        refuse ("expected identifier, found keyword " ++ quoted name)
      else do
        skip 1
        return name
  | _ => refuse "expected identifier"

/-- Reads an identifier or a single underscore. -/
def identifierOrLine : Reader String := do
  if ← peekName "_" then anyName else identifier

/-- Reads a lifetime; its name has no apostrophe. -/
def lifetime : Reader String := do
  match ← ahead with
  | ⟨.mark '\'' true, _⟩ :: ⟨.name name, _⟩ :: _ => do
      skip 2
      return name
  | _ => refuse "expected lifetime"

/-! ## Groups -/

/-- What a missing group is called. -/
def groupWord : Delimiter → String
  | .parenthesis => "expected parentheses"
  | .bracket => "expected square brackets"
  | .brace => "expected curly braces"

/-- The complaint of a token left over at the end of a scope. -/
def strayMessage : Option Delimiter → String
  | none => "unexpected token"
  | some delimiter =>
      "unexpected token, expected " ++ quoted (String.singleton delimiter.closingCharacter)

/-- Reads a group and what is in it, then goes on behind it. What is left over in the group
counts after what is left over in later groups. -/
def groupThen {Inside Value : Type} (delimiter : Delimiter) (inner : Reader Inside)
    (next : Inside → Reader Value) : Reader Value := do
  let remaining ← get
  match remaining.tokens with
  | lexeme :: rest =>
      if lexeme.token = .opening delimiter then
        match splitGroup 0 rest with
        | some (body, ending, after) => do
            set { remaining with tokens := body, scopeEnd := ending.place }
            let inside ← inner
            let left ← get
            set { remaining with tokens := after, stray := left.stray }
            let value ← next inside
            match left.tokens with
            | [] => return value
            | extra :: _ => do
                let complaint : Complaint := ⟨strayMessage (some delimiter), extra.place⟩
                modify fun later => { later with stray := later.stray.or (some complaint) }
                return value
        | none => refuse (groupWord delimiter)
      else refuse (groupWord delimiter)
  | [] => refuse (groupWord delimiter)

/-- Reads a group and what is in it. -/
def group {Value : Type} (delimiter : Delimiter) (inner : Reader Value) : Reader Value :=
  groupThen delimiter inner pure

/-- The tokens of lexemes. -/
def plainTokens (lexemes : List Lexeme) : List Token := lexemes.map (·.token)

/-- Reads everything that is left in the scope, as it stands. -/
def everything : Reader (List Token) := do
  let tokens ← ahead
  modify fun remaining => { remaining with tokens := [] }
  return plainTokens tokens

/-- Reads a group of any kind, as it stands. -/
def anyGroup : Reader (Delimiter × List Token) := do
  match ← ahead with
  | ⟨.opening delimiter, _⟩ :: _ => do
      let body ← group delimiter everything
      return (delimiter, body)
  | _ => refuse "expected delimiter"

/-! ## Readers of readers -/

/-- Runs a reader without moving on. -/
def peek {Value : Type} (reader : Reader Value) : Reader Value := do
  let remaining ← get
  let value ← reader
  set remaining
  return value

/-- Runs a reader, and goes back to where it began if it refuses. -/
def attempt {Value : Type} (reader : Reader Value) : Reader (Option Value) := fun remaining =>
  match reader remaining with
  | .ok (value, left) => .ok (some value, left)
  | .error _ => .ok (none, remaining)

/-- The tokens read since `start` was ahead, as they stand. -/
def readSince (start : List Lexeme) : Reader (List Token) := do
  return plainTokens (start.take (start.length - (← ahead).length))

/-- More fuel than a list in the scope can use. -/
def listFuel : Reader Nat := do
  return (← ahead).length + 1

/-- Reads items with commas between them up to the place where `ends` holds; says whether a comma
follows the last one. The fuel is more than the number of items. -/
def separatedUntil {Value : Type} (ends : List Lexeme → Bool) (item : Reader Value) :
    Nat → Reader (List Value × Bool)
  | 0 => return ([], false)
  | fuel + 1 => do
      if ends (← ahead) then return ([], false)
      let first ← item
      if ends (← ahead) then return ([first], false)
      operator ","
      let (others, trailing) ← separatedUntil ends item fuel
      return (first :: others, others.isEmpty || trailing)

/-- Reads items with commas between them, up to the end of the scope. -/
def commaSeparated {Value : Type} (item : Reader Value) : Reader (List Value × Bool) := do
  separatedUntil List.isEmpty item (← listFuel)

/-- Reads items in angle brackets, with commas between them. -/
def angled {Value : Type} (item : Reader Value) : Reader (List Value × Bool) := do
  operator "<"
  let items ← separatedUntil (beginsWithOperator ">") item (← listFuel)
  operator ">"
  return items

/-- Reads a group of items with commas between them. -/
def groupOf {Value : Type} (delimiter : Delimiter) (item : Reader Value) :
    Reader (List Value × Bool) :=
  group delimiter (commaSeparated item)

/-- Reads items up to the end of the scope. The fuel is more than their number. -/
def untilEnd {Value : Type} (item : Reader Value) : Nat → Reader (List Value)
  | 0 => return []
  | fuel + 1 => do
      if ← atEnd then return []
      let first ← item
      return first :: (← untilEnd item fuel)

/-- Reads items up to the end of the scope. -/
def many {Value : Type} (item : Reader Value) : Reader (List Value) := do
  untilEnd item (← listFuel)

/-- Runs a reader on a whole scope: nothing may be left over, here or in a group. -/
def run {Value : Type} (reader : Reader Value) (tokens : List Lexeme) (scopeEnd : Nat) :
    Except Complaint Value := do
  let (value, left) ← StateT.run reader ⟨tokens, scopeEnd, none⟩
  match left.stray, left.tokens with
  | some complaint, _ => throw complaint
  | none, extra :: _ => throw ⟨strayMessage none, extra.place⟩
  | none, [] => return value

/-- What is complained of in a text that is no token list. -/
def notTokens : String := "cannot parse string into token stream"

/-- Reads a whole text. Complaints of the end of the text are placed behind it. -/
def runText {Value : Type} (reader : Reader Value) (text : String) : Except Complaint Value :=
  match lex text with
  | .error place => .error ⟨notTokens, place⟩
  | .ok tokens => run reader tokens text.length

end Reader

end Recordsmith.Source
