import Recordsmith.Derive.Expansion
import Recordsmith.Proofs.Derive.Plans

/-!
What a declaration expands to. Its attributes count first, then whether it is a record, then whether
it has parameters, and its name and its fields only after that. There is one warning, or all items of
a plan, or a mistake and nothing else.
-/

namespace Recordsmith

open Code

/-- The tokens of all items of a plan. -/
def Plan.tokens (plan : Plan) : List Token :=
  DeclarationKind.all.flatMap fun kind => (plan.item kind).tokens

namespace Source

/-- What a field becomes on the partial: it keeps its name and its visibility, and its type is
optional if it was not yet. -/
def Field.IsMember (field : Field) (member : FieldItem) : Prop :=
  member.name = ⟨field.name⟩ ∧ member.visibility = field.visibility ∧
    member.type.written = if field.type.isOptional then field.type.plain
      else applied (.plain true ["core", "option", "Option"]) [field.type.plain]

theorem Field.PlannedAs.member {field : Field} {planned : PlannedField}
    (plannedAs : field.PlannedAs planned) (doc : String) :
    field.IsMember ⟨doc, planned.visibility, planned.identifier, planned.partialType⟩ := by
  refine ⟨plannedAs.identifier, plannedAs.visibility, ?_⟩
  rw [plannedAs.partialType, ← plannedAs.valueType]
  cases field.type.isOptional <;> rfl

namespace Declaration

section

variable {declaration : Declaration} {path : Option WrittenPath}
  (attributed : Helper.runtimePath declaration.attributes = .ok path)

include attributed

/-- Behind its attributes a declaration is worked on as a candidate. -/
theorem expand_attributed : declaration.expand =
    let processed := Generation.process (Helper.settings path) declaration.candidate Expansion.empty
    match processed.outcome with
    | .ok _ => .ok processed.store.tokens
    | .error report => .error (declaration.mistake report) := by
  rw [expand, attributed]
  rfl

end

section

variable {declaration : Declaration} (wellFormed : declaration.IsWellFormed)
  {path : Option WrittenPath}
  (attributed : Helper.runtimePath declaration.attributes = .ok path) {fields : List Field}
  (recorded : declaration.recordFields? = some fields) (unparametrized : declaration.parameters = [])

include wellFormed attributed recorded unparametrized

end

end Declaration

end Source

end Recordsmith
