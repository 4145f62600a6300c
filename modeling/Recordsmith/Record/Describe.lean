import Recordsmith.Record.Candidate
import Recordsmith.Record.Descriptor
import Recordsmith.TypeExpr.Parser

/-!
From a candidate to a record. The field list must be there, the qualified name must end with
the scopes and the simple name, no field name may come twice, and every type must read. The
first of these to fail is reported; in the field list that is the first field at fault, and
coming twice counts before its type. Preconditions are not looked at here.
-/

namespace Recordsmith.Candidate

/-- The scopes from the outermost inwards, as a dotted name. Empty names stay, so that a scope
without a name does not vanish from the qualified name. -/
def scopeQualifier (candidate : Candidate) : String :=
  String.intercalate "." candidate.enclosingScopes.reverse

/-- The name that the qualified name must end with. -/
def scopedName (candidate : Candidate) : String :=
  Text.joinDotted [candidate.scopeQualifier, candidate.simpleName]

/-- What stands in front of the scoped name and the dot before it; empty when the scoped name is
the whole. -/
def package (candidate : Candidate) : Outcome String :=
  if candidate.qualifiedName = candidate.scopedName then .ok ""
  else
    match (Text.dropEnding? candidate.qualifiedName candidate.scopedName).bind
        (Text.dropEnding? · ".") with
    | some package => .ok package
    | none => .error (Report.ofFault (.invariantViolated
        (.nameMismatch candidate.qualifiedName candidate.scopedName)))

/-- Reads the fields, with the names of those before them. -/
def describeFields (record : String) (seen : List String) :
    List DeclaredField → Outcome (List FieldDescriptor)
  | [] => .ok []
  | field :: rest => do
      if seen.contains field.name then
        .error (Report.ofFault (.invariantViolated (.repeatedField field.name record)))
      else
        let type ← (TypeExpr.parse field.typeText).under (.invalidField record field.name)
        let others ← describeFields record (field.name :: seen) rest
        return ⟨field.name, type, field.isVariadic, field.visibility⟩ :: others

/-- The record that a candidate declares. -/
def describe (candidate : Candidate) : Outcome RecordDescriptor := do
  match candidate.fields with
  | none =>
      .error (Report.ofFault (.invariantViolated (.absentFieldList candidate.qualifiedName)))
  | some declared =>
      let package ← candidate.package
      let fields ← describeFields candidate.simpleName [] declared
      return ⟨package, candidate.scopeQualifier, candidate.simpleName, candidate.visibility, fields⟩

end Recordsmith.Candidate
