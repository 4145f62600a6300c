import Recordsmith.Companion.Artifact
import Recordsmith.Proofs.TypeExpr.Lowering

/-!
What decides whether a record has companions. The names on the way to the record are checked first,
then the name of the partial and the record's visibility, then the fields one after another; a field
is checked for its name, its visibility and the names in its type. The first check to fail is
reported, and nothing is generated then.
-/

namespace Recordsmith

/-- A text that is given for a visibility: blank, or read as one. -/
def Source.Visibility.IsGivenBy (text : String) : Prop :=
  Text.isAllBlank text = true ∨ ∃ visibility, Source.Reader.runText reader text = .ok visibility

/-- The text has to give a visibility. -/
def Check.visibility (text : String) : Check :=
  ⟨Source.Visibility.IsGivenBy text, .ofFault (.invalidIdentifier .visibility text)⟩

theorem Source.Visibility.is_given_iff {text : String} :
    IsGivenBy text ↔ ∃ visibility, read? text = some visibility := by
  unfold IsGivenBy read?
  cases Text.isAllBlank text with
  | true => simp
  | false => cases Source.Reader.runText reader text <;> simp [Except.toOption]

theorem Source.Visibility.require_decided (text : String) :
    (require text).DecidedBy [.visibility text] := by
  unfold require
  apply Outcome.decided_single <;>
    cases read : read? text <;> simp [Check.visibility, is_given_iff, read, eq_comm]

namespace FieldDescriptor

/-- The checks of a field, in a record of a visibility. -/
def checks (field : FieldDescriptor) (recordVisibility : String) : List Check :=
  .name field.name :: .visibility (field.visibility.getD recordVisibility) ::
    field.type.names.map .name

/-- The type of a field is lowered twice unless the field is variadic; the second time its names have
been checked. -/
theorem plan_types_decided (field : FieldDescriptor) :
    field.planTypes.DecidedBy (field.type.names.map .name) := by
  unfold planTypes
  split
  · exact Outcome.decided_return field.type.lower_decided _
  · rw [← List.append_nil (List.map _ _)]
    refine Outcome.decided_bind field.type.lower_decided fun value lowered => ?_
    have passed := field.type.lower_decided.ok.mp ⟨value, lowered⟩
    exact Outcome.decided_return (Outcome.decided_passed field.type.lower_inner_decided passed) _

theorem plan_decided (field : FieldDescriptor) (recordVisibility : String) :
    (field.plan recordVisibility).DecidedBy (field.checks recordVisibility) :=
  Outcome.decided_bind (Identifier.require_decided field.name) fun _ _ =>
    Outcome.decided_bind (Source.Visibility.require_decided _) fun _ _ =>
      Outcome.decided_return field.plan_types_decided _

end FieldDescriptor

namespace RecordDescriptor

/-- The checks of a record, in their order. What fails in a field is reported under the field. -/
def checks (record : RecordDescriptor) : List Check :=
  record.pathSegments.map .name ++ .name (partialStart ++ record.name) ::
    .visibility record.visibility :: record.fields.flatMap fun field =>
      (field.checks record.visibility).map (·.under (.invalidField record.name field.name))

theorem plan_decided (record : RecordDescriptor) (settings : Settings) :
    (record.plan settings).DecidedBy record.checks := by
  have path : (Outcome.collect Identifier.require record.pathSegments).DecidedBy
      (record.pathSegments.map .name) := by
    rw [List.map_eq_flatMap]
    exact Outcome.decided_collect Identifier.require_decided record.pathSegments
  exact Outcome.decided_bind path fun _ _ =>
    Outcome.decided_bind (Identifier.require_decided _) fun _ _ =>
      Outcome.decided_bind (Source.Visibility.require_decided _) fun _ _ =>
        Outcome.decided_return (Outcome.decided_collect (fun field =>
          Outcome.decided_under (field.plan_decided record.visibility) _) record.fields) _

/-- A blank in front of a name does not belong to it, but it does when the letters of the partial come
before it. A raw name inside a type is read, and what is wrong with the type's own name goes before
what is wrong with its arguments. -/
example :
    (RecordDescriptor.mk "" "" " MyData" "pub" []).synthesize .standard = .error
        (.ofFault (.invalidIdentifier .typeOrField "Partial MyData")) ∧
      (RecordDescriptor.mk "" "" "MyData" "pub" [⟨"arg1", .generic "List"
        [.simple "r#type", .generic "9" [.simple "fn"]], false, some " "⟩]).synthesize .standard =
          .error ⟨.invalidField "MyData" "arg1", [.invalidIdentifier .typeOrField "9"], []⟩ :=
  ⟨rfl, rfl⟩

end RecordDescriptor

end Recordsmith
