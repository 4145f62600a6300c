import Recordsmith.Proofs.Companion.Planning
import Recordsmith.Proofs.Derive.FieldTypes
import Recordsmith.Proofs.Generation.Calls
import Recordsmith.Proofs.Record.Describing
import Recordsmith.Proofs.Source.Fields
import Recordsmith.Proofs.Token.LoneNames

/-!
Plans of declarations. Names, visibilities and types go into a candidate as texts and are read there
again. Names that source may have, its visibilities and the supported types come through this as
they were; the name of the partial is new, and is none when the record has a raw name.
-/

namespace Recordsmith

open Code

/-! ## Names -/

namespace TypeExpr

/-- A type and what is inside it differ by being optional. -/
theorem lower_inner {type : TypeExpr} {code : CodeType} (lowered : type.lower = .ok code) :
    ∃ inner, type.lowerInner = .ok inner ∧ code = wrapNullable type.nullable inner := by
  obtain ⟨name, arguments, nullable⟩ := type
  obtain ⟨identifier, codes, required, loweredAll, rfl⟩ := lower_ok lowered
  exact ⟨_, lower_named name identifier required arguments codes loweredAll false, rfl⟩

end TypeExpr

namespace FieldDescriptor

end FieldDescriptor

namespace Source

/-- How a field is planned: under its name, with its own visibility and its own type. On the partial
it is optional. -/
structure Field.PlannedAs (field : Field) (planned : PlannedField) : Prop where
  identifier : planned.identifier = ⟨field.name⟩
  name : planned.name = field.name
  visibility : planned.visibility = field.visibility
  isNullable : planned.isNullable = field.type.isOptional
  valueType : planned.valueType.written = field.type.plain
  partialType : planned.partialType =
    if field.type.isOptional then planned.valueType else .optional planned.valueType

section

variable {field : Field} (wellFormed : field.IsWellFormed)

include wellFormed

variable {recordVisibility : String}

variable (recordVisibility)

end

section

variable {fields : List Field} (wellFormed : ∀ field ∈ fields, field.IsWellFormed)
  {recordVisibility : String}

include wellFormed

variable (recordVisibility)

end

/-! ## Declarations -/

namespace Declaration

/-- How a record is planned: under its name, with its own visibility and its fields in their
order. -/
structure PlannedAs (declaration : Declaration) (fields : List Field) (settings : Settings)
    (plan : Plan) : Prop where
  recordPath : plan.recordPath = [⟨declaration.name⟩]
  recordName : plan.recordName = declaration.name
  partialName : plan.partialName = ⟨partialStart ++ declaration.name⟩
  runtime : plan.runtime = settings.runtimePath
  visibility : plan.visibility = declaration.visibility
  fields : List.Forall₂ Field.PlannedAs fields plan.fields

/-- The record that a declaration is described as. -/
def descriptor (declaration : Declaration) (fields : List FieldDescriptor) : RecordDescriptor :=
  ⟨"", "", declaration.name, declaration.visibility.text, fields⟩

section

variable {declaration : Declaration} (isName : IsName declaration.name)

include isName

end

section

variable {declaration : Declaration} (wellFormed : declaration.IsWellFormed) {fields : List Field}
  (recorded : declaration.recordFields? = some fields) {settings : Settings}

include wellFormed recorded

end

end Declaration

end Source

end Recordsmith
