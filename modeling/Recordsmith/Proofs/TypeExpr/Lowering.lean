import Recordsmith.Proofs.Checking
import Recordsmith.Proofs.TypeExpr.Rendering
import Recordsmith.TypeExpr.Lowering

/-!
What decides whether a type expression is lowered: the names in it, each of which has to be an
identifier. They are checked as they stand in the text, a type's own name before those of its
arguments.
-/

namespace Recordsmith

/-- A text that is read as an identifier. -/
def Identifier.IsReadFrom (text : String) : Prop := ∃ identifier, read? text = some identifier

/-- The text has to be read as an identifier. -/
def Check.name (text : String) : Check :=
  ⟨Identifier.IsReadFrom text, .ofFault (.invalidIdentifier .typeOrField text)⟩

theorem Identifier.require_decided (text : String) :
    (Identifier.require text).DecidedBy [.name text] := by
  unfold require
  apply Outcome.decided_single <;>
    cases read : Identifier.read? text <;> simp [Check.name, IsReadFrom, read, eq_comm]

namespace TypeExpr

mutual

theorem lower_decided : (type : TypeExpr) → type.lower.DecidedBy (type.names.map .name)
  | ⟨name, arguments, nullable⟩ => by
      rw [lower, names, List.map_cons]
      exact Outcome.decided_bind (Identifier.require_decided name) fun identifier _ =>
        Outcome.decided_return (lower_all_decided arguments) fun lowered =>
          wrapNullable nullable (.named identifier lowered)

theorem lower_all_decided : (types : List TypeExpr) →
    (lowerAll types).DecidedBy ((argumentNames types).map .name)
  | [] => Outcome.decided_ok []
  | type :: rest => by
      rw [lowerAll, argumentNames, List.map_append]
      exact Outcome.decided_bind type.lower_decided fun first _ =>
        Outcome.decided_return (lower_all_decided rest) (first :: ·)

end

theorem lower_inner_decided (type : TypeExpr) :
    type.lowerInner.DecidedBy (type.names.map .name) := by
  obtain ⟨name, arguments, nullable⟩ := type
  exact lower_decided ⟨name, arguments, false⟩

end TypeExpr

end Recordsmith
