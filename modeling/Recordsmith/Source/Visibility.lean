import Recordsmith.Source.Path
import Recordsmith.Source.TypeTokens

/-!
Visibilities: nothing, `pub`, or `pub` restricted to a path. Where a visibility is given as a
text of its own, a blank text means nothing was written, and nothing may follow it.
-/

namespace Recordsmith.Source

open Reader

/-- Who may see an item. -/
inductive Visibility where
  | inherited
  | everywhere
  /-- Restricted to one of the words `crate`, `self` and `super`. -/
  | within (word : String)
  /-- Restricted to a path after the word `in`. -/
  | inPath (path : WrittenPath)

namespace Visibility

/-- The words that may stand alone in a restriction. -/
def scopeWords : List String := ["crate", "self", "super"]

/-- Reads a visibility. Parentheses that hold something else do not belong to it. -/
def reader : Reader Visibility := do
  unless ← word? "pub" do
    return .inherited
  match ← ahead with
  | ⟨.opening .parenthesis, _⟩ :: inside =>
      match inside with
      | ⟨.name first, _⟩ :: ⟨.closing .parenthesis, _⟩ :: _ =>
          if scopeWords.contains first then
            skip 3
            return .within first
      | _ => pure ()
      if beginsWithName "in" inside then
        return .inPath (← group .parenthesis (do word "in"; modulePath))
      return .everywhere
  | _ => return .everywhere

/-- The tokens of a visibility. -/
def tokens : Visibility → List Token
  | .inherited => []
  | .everywhere => [.name "pub"]
  | .within word => .name "pub" :: Token.group .parenthesis [.name word]
  | .inPath path => .name "pub" :: Token.group .parenthesis (.name "in" :: path.tokens)

/-- The visibility as a piece of code. -/
def tree (visibility : Visibility) : Tree := .leaf visibility.tokens

/-- Whether nothing is written. -/
def isInherited : Visibility → Bool
  | .inherited => true
  | _ => false

/-- Reads a text as a visibility. -/
def read? (text : String) : Option Visibility :=
  if Text.isAllBlank text then some .inherited
  else (runText reader text).toOption

end Visibility

end Recordsmith.Source
