/-!
Sets of characters given as runs of code points. Membership is a plain search; every table
in this library lists its runs in ascending order and without overlap.
-/

namespace Recordsmith.Text

/-- Runs of code points, each with its first and its last member. -/
abbrev Ranges := List (Nat × Nat)

/-- Whether a character lies in one of the runs. -/
def Ranges.contains (ranges : Ranges) (character : Char) : Bool :=
  ranges.any fun run => run.1 ≤ character.toNat && character.toNat ≤ run.2

end Recordsmith.Text
