import Recordsmith.Derive.FieldType
import Recordsmith.Record.Candidate
import Recordsmith.Source.Read

/-!
From a declaration to a candidate. Structures with named fields and structures without a field
list are records. A declaration with parameters has no scope for accessors. Every field brings
its own visibility, so that a private field stays private.
-/

namespace Recordsmith.Source

/-- The text of a visibility. -/
def Visibility.text (visibility : Visibility) : String := Token.render visibility.tokens

/-- A field as a candidate has it. -/
def Field.declared (field : Field) : DeclaredField :=
  (DeclaredField.ofText field.name field.type.fieldText).withVisibility field.visibility.text

namespace Declaration

/-- The fields of a record; `none` for a declaration that is no record. -/
def recordFields? (declaration : Declaration) : Option (List Field) :=
  match declaration.shape with
  | .named list => some list.fields
  | .unit => some []
  | .positional _ => none
  | .enumeration .. => none
  | .union _ => none

/-- The declaration as a candidate. -/
def candidate (declaration : Declaration) : Candidate where
  isRecord := declaration.recordFields?.isSome
  hasCompanionScope := declaration.parameters.isEmpty
  qualifiedName := declaration.name
  enclosingScopes := []
  fields := declaration.recordFields?.map fun fields => fields.map Field.declared
  visibility := declaration.visibility.text
  location := none

/-- The first field of a name. -/
def field? (declaration : Declaration) (name : String) : Option Field :=
  (declaration.recordFields?.getD []).find? (·.name == name)

end Declaration

end Recordsmith.Source
