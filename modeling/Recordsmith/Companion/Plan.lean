import Recordsmith.Companion.Settings
import Recordsmith.Record.Descriptor
import Recordsmith.Source.Visibility
import Recordsmith.TypeExpr.Lowering

/-!
The plan for a record's companions: every name, path, type and visibility that the generated
declarations use, worked out once. Checks come in a fixed order: the names that lead to the
record, the name of its partial, the record's visibility, then the fields one after another with
name, visibility and type. A fault in a field is reported under that field.
-/

namespace Recordsmith

open Code

/-- A field as the generated code sees it. On the partial every field is optional; a field that
is optional already keeps its type there. -/
structure PlannedField where
  identifier : Identifier
  valueType : CodeType
  partialType : CodeType
  isNullable : Bool
  name : String
  visibility : Source.Visibility

/-- Everything that the declarations of a record share. -/
structure Plan where
  recordPath : List Identifier
  recordName : String
  partialName : Identifier
  runtime : Source.WrittenPath
  visibility : Source.Visibility
  fields : List PlannedField

/-- Reads a visibility, or reports it. -/
def Source.Visibility.require (text : String) : Outcome Source.Visibility :=
  match Source.Visibility.read? text with
  | some visibility => .ok visibility
  | none => .error (Report.ofFault (.invalidIdentifier .visibility text))

/-- What a partial's name begins with. -/
def partialStart : String := "Partial"

namespace FieldDescriptor

/-- The types of a field on the record and on the partial. A variadic field holds a sequence of
values. -/
def planTypes (field : FieldDescriptor) : Outcome (CodeType × CodeType) := do
  if field.isVariadic then
    let element ← field.type.lower
    return (.sequence element, .optional (.sequence element))
  else
    let value ← field.type.lower
    let inner ← field.type.lowerInner
    return (value, .optional inner)

/-- Plans a field of a record with the given visibility. -/
def plan (field : FieldDescriptor) (recordVisibility : String) : Outcome PlannedField := do
  let identifier ← Identifier.require field.name
  let visibility ← Source.Visibility.require (field.visibility.getD recordVisibility)
  let (valueType, partialType) ← field.planTypes
  return ⟨identifier, valueType, partialType, !field.isVariadic && field.type.nullable, field.name,
    visibility⟩

end FieldDescriptor

/-- Applies a check to every element from left to right, up to the first report. -/
def Outcome.collect {Element Result : Type} (check : Element → Outcome Result) :
    List Element → Outcome (List Result)
  | [] => .ok []
  | first :: rest => do
      let value ← check first
      let values ← Outcome.collect check rest
      return value :: values

/-- Plans the companions of a record. -/
def RecordDescriptor.plan (record : RecordDescriptor) (settings : Settings) : Outcome Plan := do
  let recordPath ← Outcome.collect Identifier.require record.pathSegments
  let partialName ← Identifier.require (partialStart ++ record.name)
  let visibility ← Source.Visibility.require record.visibility
  let fields ← Outcome.collect (fun field =>
    (field.plan record.visibility).under (.invalidField record.name field.name)) record.fields
  return ⟨recordPath, record.scopedName, partialName, settings.runtimePath, visibility, fields⟩

end Recordsmith
