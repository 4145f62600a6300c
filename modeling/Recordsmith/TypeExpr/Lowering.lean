import Recordsmith.Code.Type
import Recordsmith.TypeExpr.Parser

/-!
Lowering a type expression to a type in code. A type that may be missing becomes an optional
type around the rest. Names are checked from left to right, a type's own name before those of
its arguments, and the first that is no identifier is reported.
-/

namespace Recordsmith

/-- Reads a name as an identifier, or reports it. -/
def Identifier.require (name : String) : Outcome Identifier :=
  match Identifier.read? name with
  | some identifier => .ok identifier
  | none => .error (Report.ofFault (.invalidIdentifier .typeOrField name))

namespace TypeExpr

open Code

/-- Makes a type optional if it may be missing. -/
def wrapNullable (nullable : Bool) (type : CodeType) : CodeType :=
  if nullable then .optional type else type

mutual

/-- The type in code. -/
def lower : TypeExpr → Outcome CodeType
  | ⟨name, arguments, nullable⟩ => do
      let identifier ← Identifier.require name
      let lowered ← lowerAll arguments
      return wrapNullable nullable (.named identifier lowered)

/-- The types in code of several type expressions. -/
def lowerAll : List TypeExpr → Outcome (List CodeType)
  | [] => .ok []
  | type :: rest => do
      let first ← type.lower
      let others ← lowerAll rest
      return first :: others

end

/-- The type in code as if the type could not be missing; its arguments keep what they are. -/
def lowerInner (type : TypeExpr) : Outcome CodeType := (type.withNullable false).lower

end TypeExpr

end Recordsmith
