/-!
Positions in a text: lines count from one, columns from zero, both in characters. A line ends
with its line feed.
-/

namespace Recordsmith.Text

/-- A position. -/
structure Position where
  line : Nat
  column : Nat
  deriving DecidableEq, Repr

/-- The beginning of a text. -/
def Position.start : Position := ⟨1, 0⟩

/-- The position behind a character. -/
def Position.after (position : Position) (character : Char) : Position :=
  if character = '\n' then ⟨position.line + 1, 0⟩ else ⟨position.line, position.column + 1⟩

/-- The position of a place, which counts characters from the beginning. -/
def Position.ofPlace (text : String) (place : Nat) : Position :=
  (text.toList.take place).foldl Position.after Position.start

end Recordsmith.Text
