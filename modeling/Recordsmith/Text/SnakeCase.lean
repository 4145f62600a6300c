import Recordsmith.Text.Letters
import Recordsmith.Text.LowerCase
import Recordsmith.Text.Split

/-!
Snake case: a text is cut into words, the words are put into lower case and joined by
underscores. Everything that is not alphanumeric separates words. Inside a run a new word
begins at an upper case letter that follows a lower case one, and at the last letter of a run
of upper case letters when a lower case letter comes next.
-/

namespace Recordsmith.Text

/-- What the letters of the current word looked like so far; digits leave it as it is. -/
inductive CaseMode where
  | fresh
  | lower
  | upper
  deriving DecidableEq

/-- The mode after one more character. -/
def CaseMode.after (mode : CaseMode) (character : Char) : CaseMode :=
  if isLowerCase character then .lower
  else if isUpperCase character then .upper
  else mode

/-- Cuts a run of alphanumeric characters into words. `word` is the word being read, its last
character first. -/
def cutWords (mode : CaseMode) (word : List Char) : List Char → List (List Char)
  | [] => []
  | [character] => [(character :: word).reverse]
  | character :: next :: rest =>
      if mode.after character = .lower && isUpperCase next then
        (character :: word).reverse :: cutWords .fresh [] (next :: rest)
      else if mode = .upper && isUpperCase character && isLowerCase next then
        word.reverse :: cutWords .fresh [character] (next :: rest)
      else cutWords (mode.after character) (character :: word) (next :: rest)

/-- The words of a text, in order. -/
def caseWords (text : List Char) : List (List Char) :=
  (splitBy (fun character => !isAlphanumeric character) text).flatMap (cutWords .fresh [])

/-- A word in lower case. A sigma that ends the word takes its final form. -/
def lowerWord : List Char → List Char
  | [] => []
  | [character] => if character == 'Σ' then ['ς'] else lowerCase character
  | character :: next :: rest => lowerCase character ++ lowerWord (next :: rest)

/-- The snake case of a text. -/
def snakeCase (text : String) : String :=
  String.intercalate "_" ((caseWords text.toList).map fun word => String.ofList (lowerWord word))

end Recordsmith.Text
