import Recordsmith.Text.Dotted
import Recordsmith.TypeExpr.Basic

/-!
Records ready for generation: the types of the fields are read, and the qualified name is split
into the package, the enclosing scopes from the outermost inwards, and the simple name.
-/

namespace Recordsmith

/-- A field of a record. A field without a visibility takes the record's. -/
structure FieldDescriptor where
  name : String
  type : TypeExpr
  isVariadic : Bool
  visibility : Option String
  deriving DecidableEq, Repr

/-- A record. The package and the scopes are dotted names and may be empty. -/
structure RecordDescriptor where
  package : String
  scope : String
  name : String
  visibility : String
  fields : List FieldDescriptor
  deriving DecidableEq, Repr

namespace RecordDescriptor

/-- The name with its scopes in front. -/
def scopedName (record : RecordDescriptor) : String := Text.joinDotted [record.scope, record.name]

/-- The name with its package and its scopes in front. -/
def qualifiedName (record : RecordDescriptor) : String :=
  Text.joinDotted [record.package, record.scope, record.name]

/-- The names that lead from the package to the record. -/
def pathSegments (record : RecordDescriptor) : List String :=
  Text.dottedSegments record.scope ++ [record.name]

/-- The names of the package. -/
def packageSegments (record : RecordDescriptor) : List String :=
  Text.dottedSegments record.package

end RecordDescriptor

end Recordsmith
