import Recordsmith.Source.Item

/-!
Reading whole texts. The readers of all pieces are put together here: each is given the readers one
level of nesting further down. A level takes at least one token of every few, so the length of the
text bounds the levels that it can use.
-/

namespace Recordsmith.Source

open Reader

/-- The readers of pieces that are nested at most `depth` levels deep. -/
def grammar : Nat → Grammar
  | 0 => {
      type := fun _ => refuseUnless typeStarts
      bound := fun _ _ => refuse "expected identifier"
      expression := fun _ => refuse "expected an expression"
      operand := fun _ => refuse "expected an expression"
      standing := refuse "expected an expression"
      pattern := refuseUnless patternStarts
      statements := refuse "expected an expression"
      item := fun _ _ => refuseUnless itemStarts
      useTree := fun _ => refuse "expected identifier" }
  | depth + 1 => {
      type := fun plus remaining => readType (grammar depth) plus remaining
      bound := fun captures constants remaining =>
        readBound (grammar depth) captures constants remaining
      expression := fun structures remaining => readExpression (grammar depth) structures remaining
      operand := fun structures remaining => readOperand (grammar depth) structures remaining
      standing := fun remaining => readStanding (grammar depth) remaining
      pattern := fun remaining => readPattern (grammar depth) remaining
      statements := fun remaining => readStatements (grammar depth) remaining
      item := fun start attributes remaining =>
        readItem (grammar depth) start attributes remaining
      useTree := fun mayBeRooted remaining => readUseTree (grammar depth) mayBeRooted remaining }

/-- More levels of nesting than the tokens ahead can use. -/
def depthAhead : Reader Nat := do
  return 8 * (← ahead).length + 16

/-- Reads a path with arguments. -/
def path : Reader WrittenPath := do
  argumentPath (grammar (← depthAhead)) false

/-- Reads a text as a path. -/
def WrittenPath.read? (text : String) : Option WrittenPath :=
  (runText path text).toOption

/-- Reads a text as one declaration. -/
def Declaration.read? (text : String) : Option Declaration :=
  (runText (do Declaration.reader (grammar (← depthAhead))) text).toOption

end Recordsmith.Source
