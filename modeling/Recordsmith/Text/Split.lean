/-!
Splitting a text at the characters that separate its parts. The separators are left out, and two
neighbouring ones have an empty part between them.
-/

namespace Recordsmith.Text

/-- The parts of a text between characters that satisfy `separates`; there is always at least
one part. -/
def splitBy (separates : Char → Bool) : List Char → List (List Char)
  | [] => [[]]
  | character :: rest =>
      if separates character then [] :: splitBy separates rest
      else match splitBy separates rest with
        | [] => [[character]]
        | part :: parts => (character :: part) :: parts

end Recordsmith.Text
