import Recordsmith.Generation.Diagnostic
import Recordsmith.Wire.Value

/-!
Writing candidates and diagnostics as values. Every field is written, and one that is absent is
written as null.
-/

namespace Recordsmith.Wire.Encode

/-- A value that may be absent. -/
def nullable {Source : Type} (inner : Source → Value) : Option Source → Value
  | some source => inner source
  | none => .null

/-- A place in the sources. -/
def location (location : SourceLocation) : Value :=
  .mapping [("path", .text location.path), ("line", .integer (location.line.toNat : Int)),
    ("column", .integer (location.column.toNat : Int))]

/-- An enclosing scope, by its name. -/
def scope (name : String) : Value := .mapping [("name", .text name)]

/-- A declared field. -/
def declaredField (field : DeclaredField) : Value :=
  .mapping [("name", .text field.name), ("raw_type_text", .text field.typeText),
    ("is_variadic", .boolean field.isVariadic), ("location", nullable location field.location),
    ("visibility", nullable .text field.visibility)]

/-- A candidate. -/
def candidate (candidate : Candidate) : Value :=
  .mapping [("is_record_type", .boolean candidate.isRecord),
    ("has_companion_scope", .boolean candidate.hasCompanionScope),
    ("fully_qualified_name", .text candidate.qualifiedName),
    ("enclosing_scopes", .sequence (candidate.enclosingScopes.map scope)),
    ("fields", nullable (fun fields => .sequence (fields.map declaredField)) candidate.fields),
    ("visibility", .text candidate.visibility), ("location", nullable location candidate.location)]

/-- A diagnostic. -/
def diagnostic (diagnostic : Diagnostic) : Value :=
  .mapping [("severity", .text diagnostic.severity.label), ("message", .text diagnostic.message),
    ("location", nullable location diagnostic.location), ("field", nullable .text diagnostic.field)]

end Recordsmith.Wire.Encode
