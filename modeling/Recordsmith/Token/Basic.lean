/-!
Tokens. A token list is flat: an opening and a closing token stand for the two ends of a
group, so a list read from text is balanced, and lists are put together by appending them.
-/

namespace Recordsmith

/-- The three kinds of brackets that form groups. -/
inductive Delimiter where
  | parenthesis
  | bracket
  | brace
  deriving DecidableEq, Repr

/-- The character that begins a group. -/
def Delimiter.openingCharacter : Delimiter → Char
  | .parenthesis => '('
  | .bracket => '['
  | .brace => '{'

/-- The character that ends a group. -/
def Delimiter.closingCharacter : Delimiter → Char
  | .parenthesis => ')'
  | .bracket => ']'
  | .brace => '}'

/-- One token. A punctuation character is joint when it belongs together with the
punctuation or, after an apostrophe, the name that follows it. -/
inductive Token where
  | name (text : String)
  | mark (character : Char) (joint : Bool)
  | literal (text : String)
  | opening (delimiter : Delimiter)
  | closing (delimiter : Delimiter)
  deriving DecidableEq, Repr

namespace Token

/-- The characters of an operator as tokens, joint up to the last. -/
def operatorOf : List Char → List Token
  | [] => []
  | [character] => [.mark character false]
  | character :: next :: rest => .mark character true :: operatorOf (next :: rest)

/-- An operator as tokens, joint up to its last character. -/
def operator (text : String) : List Token := operatorOf text.toList

/-- A group around `inner`. -/
def group (delimiter : Delimiter) (inner : List Token) : List Token :=
  .opening delimiter :: (inner ++ [.closing delimiter])

/-- A lifetime, given without its apostrophe. -/
def lifetime (text : String) : List Token := [.mark '\'' true, .name text]

end Token

end Recordsmith
