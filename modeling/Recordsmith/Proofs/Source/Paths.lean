import Recordsmith.Proofs.Derive.Support
import Recordsmith.Proofs.Source.Steps
import Recordsmith.Source.Read

/-!
What the readers of paths give: paths of at least one name, whose names are names and whose
arguments hold well-formed types. The readers of the parts are assumed to give well-formed parts.
-/

namespace Recordsmith.Source

open Lexer Reader

/-- The readers of types and bounds give well-formed ones. -/
structure Grammar.IsSound (parts : Grammar) : Prop where
  type : ∀ plus, Keeps (parts.type plus) WrittenType.IsWellFormed
  bound : ∀ captures constants, Keeps (parts.bound captures constants) Bound.IsWellFormed
  lifetime : ∀ captures constants tokens, beginsWithLifetime tokens = true →
    Reads tokens (parts.bound captures constants) fun bound _ => bound.IsNoType

/-! ## Attributes -/

theorem keeps_literal : Keeps literal fun _ => True := by
  unfold literal
  apply keeps_bind keeps_ahead
  intro tokens _
  apply keeps_if
  · intro _
    split
    · exact keeps_bind (keeps_skip 2) fun _ _ => keeps_pure trivial
    · exact keeps_bind (keeps_skip 1) fun _ _ => keeps_pure trivial
    · exact keeps_refuse _
  · intro _
    exact keeps_refuse _

/-! ## Names and bounds one after another -/

theorem arguments_well_formed (arguments : List GenericArgument)
    (each : ∀ argument ∈ arguments, ArgumentsWellFormed [argument]) :
    ArgumentsWellFormed arguments := by
  induction arguments with
  | nil => trivial
  | cons first rest induction =>
      have wellFormed := each first (by simp)
      have others := induction fun argument member => each argument (by simp [member])
      cases first with
      | type type => exact ⟨wellFormed.1, others⟩
      | _ => exact others

theorem segments_well_formed (segments : List PathSegment)
    (each : ∀ segment ∈ segments, SegmentsWellFormed [segment]) :
    SegmentsWellFormed segments := by
  induction segments with
  | nil => trivial
  | cons first rest induction =>
      obtain ⟨name, arguments⟩ := first
      obtain ⟨isName, wellFormed, _⟩ := each (.mk name arguments) (by simp)
      exact ⟨isName, wellFormed, induction fun segment member => each segment (by simp [member])⟩

section

variable {Value : Type} {holds : Value → Prop} {item : Reader Value} (keeps : Keeps item holds)

include keeps

theorem keeps_plus_until (ends : List Lexeme → Bool) (fuel : Nat) :
    Keeps (plusUntil ends item fuel) fun _ => True := by
  induction fuel with
  | zero => exact keeps_pure trivial
  | succ fuel induction =>
      unfold plusUntil
      apply keeps_bind keeps_ahead
      intro tokens _
      apply keeps_if
      · intro _
        exact keeps_pure trivial
      · intro _
        apply keeps_bind keeps
        intro first _
        apply keeps_bind (keeps_operator? "+")
        intro _ _
        apply keeps_if
        · intro _
          exact keeps_bind induction fun _ _ => keeps_pure trivial
        · intro _
          exact keeps_pure trivial

end

theorem keeps_more_segments {segment : Reader PathSegment} {holds : PathSegment → Prop}
    (keeps : Keeps segment holds) (fuel : Nat) :
    Keeps (moreSegments segment fuel) fun found => ∀ name ∈ found, holds name := by
  induction fuel with
  | zero => exact keeps_pure (by simp)
  | succ fuel induction =>
      unfold moreSegments
      apply keeps_bind keeps_ahead
      intro tokens _
      apply keeps_if
      · intro _
        apply keeps_bind (keeps_skip 2)
        intro _ _
        apply keeps_bind keeps
        intro first held
        apply keeps_bind induction
        intro others heldOthers
        exact keeps_pure (by simpa using ⟨held, heldOthers⟩)
      · intro _
        exact keeps_pure (by simp)

theorem keeps_all_segments {segment : Reader PathSegment} {holds : PathSegment → Prop}
    (keeps : Keeps segment holds) (fuel : Nat) :
    Keeps (allSegments segment fuel) fun _ => True := by
  induction fuel with
  | zero => exact keeps_pure trivial
  | succ fuel induction =>
      unfold allSegments
      apply keeps_bind keeps
      intro first _
      apply keeps_bind (keeps_operator? "::")
      intro _ _
      apply keeps_if
      · intro _
        exact keeps_bind induction fun _ _ => keeps_pure trivial
      · intro _
        exact keeps_pure trivial

section

variable (parts : Grammar)

theorem keeps_attributes (mark : List String) (fuel : Nat) :
    Keeps (Attribute.several parts mark fuel) fun _ => True := by
  induction fuel with
  | zero => exact keeps_pure trivial
  | succ fuel induction =>
      unfold Attribute.several
      apply keeps_bind keeps_ahead
      intro tokens _
      apply keeps_if
      · intro _
        apply keeps_bind (keeps_skip _)
        intro _ _
        apply keeps_bind keeps_any_inside
        intro first _
        exact keeps_bind induction fun _ _ => keeps_pure trivial
      · intro _
        exact keeps_pure trivial

theorem keeps_attribute_reader : Keeps (Attribute.reader parts) fun _ => True := by
  unfold Attribute.reader
  exact keeps_bind keeps_list_fuel fun fuel _ => keeps_attributes parts [] fuel

theorem keeps_outer_attributes : Keeps (outerAttributes parts) fun _ => True := by
  unfold outerAttributes
  exact keeps_bind (keeps_attribute_reader parts) fun _ _ => keeps_pure trivial

theorem keeps_statement_body : Keeps (statementBody parts) fun _ => True := by
  unfold statementBody braced
  exact keeps_bind keeps_any_inside fun _ _ => keeps_pure trivial

/-! ## Arguments -/

theorem keeps_constant_argument : Keeps (constantArgument parts) fun _ => True := by
  unfold constantArgument
  apply keeps_bind keeps_ahead
  intro tokens _
  apply keeps_if
  · intro _
    exact keeps_literal
  · intro _
    apply keeps_if
    · intro _
      exact keeps_bind keeps_identifier fun _ _ => keeps_pure trivial
    · intro _
      apply keeps_if
      · intro _
        exact keeps_bind (keeps_statement_body parts) fun _ _ => keeps_pure trivial
      · intro _
        exact keeps_refuse_unless _

variable {parts} (sound : parts.IsSound)

include sound

theorem keeps_generic_argument :
    Keeps (genericArgument parts) fun argument => ArgumentsWellFormed [argument] := by
  unfold genericArgument
  apply keeps_bind keeps_ahead
  intro tokens _
  apply keeps_if
  · intro _
    exact keeps_bind keeps_lifetime fun _ _ => keeps_pure trivial
  · intro _
    apply keeps_if
    · intro _
      exact keeps_bind (keeps_constant_argument parts) fun _ _ => keeps_pure trivial
    · intro _
      apply keeps_bind (sound.type true)
      intro type wellFormed
      split
      · exact keeps_pure ⟨wellFormed, trivial⟩
      · apply keeps_bind (keeps_operator? "=")
        intro _ _
        apply keeps_if
        · intro _
          apply keeps_bind keeps_ahead
          intro tokens _
          apply keeps_if
          · intro _
            exact keeps_bind (keeps_constant_argument parts) fun _ _ => keeps_pure trivial
          · intro _
            exact keeps_bind (sound.type true) fun _ _ => keeps_pure trivial
        · intro _
          apply keeps_bind (keeps_operator? ":")
          intro _ _
          apply keeps_if
          · intro _
            apply keeps_bind keeps_list_fuel
            intro fuel _
            apply keeps_bind (keeps_plus_until (sound.bound false true) _ fuel)
            rintro ⟨bounds, trailing⟩ _
            exact keeps_pure trivial
          · intro _
            exact keeps_pure ⟨wellFormed, trivial⟩
      · exact keeps_pure ⟨wellFormed, trivial⟩

theorem keeps_angled_arguments (turbofish : Bool) :
    Keeps (angledArguments parts turbofish) PathArguments.IsWellFormed := by
  unfold angledArguments
  apply keeps_bind (keeps_angled (keeps_generic_argument sound))
  rintro ⟨arguments, trailing⟩ held
  exact keeps_pure (arguments_well_formed arguments held)

theorem keeps_called_arguments : Keeps (calledArguments parts) PathArguments.IsWellFormed := by
  unfold calledArguments
  refine keeps_group_then (fun _ _ => reads_anything) ?_
  rintro ⟨inputs, trailing⟩ _
  apply keeps_bind (keeps_operator? "->")
  intro _ _
  apply keeps_if
  · intro _
    apply keeps_bind (keeps_map_any (sound.type false))
    intro _ _
    exact keeps_pure trivial
  · intro _
    exact keeps_pure trivial

theorem keeps_segment_behind_name (isExpression : Bool) {name : String} (isName : IsName name) :
    Keeps (do
      let tokens ← ahead
      if !isExpression && beginsWithOperator "<" tokens && !beginsWithOperator "<=" tokens then
        return .mk name (← angledArguments parts false)
      if beginsWithOperator "::" tokens &&
          beginsWithOperator "<" (afterTree (afterTree tokens)) then
        skip 2
        return .mk name (← angledArguments parts true)
      return .plain name) fun found => SegmentsWellFormed [found] := by
  apply keeps_bind keeps_ahead
  intro tokens _
  apply keeps_if
  · intro _
    exact keeps_bind (keeps_angled_arguments sound false) fun _ wellFormed =>
      keeps_pure ⟨isName, wellFormed, trivial⟩
  · intro _
    apply keeps_if
    · intro _
      apply keeps_bind (keeps_skip 2)
      intro _ _
      exact keeps_bind (keeps_angled_arguments sound true) fun _ wellFormed =>
        keeps_pure ⟨isName, wellFormed, trivial⟩
    · intro _
      exact keeps_pure ⟨isName, trivial, trivial⟩

theorem keeps_segment (isExpression : Bool) :
    Keeps (segment parts isExpression) fun found => SegmentsWellFormed [found] := by
  unfold segment
  apply keeps_bind keeps_ahead
  intro tokens _
  apply keeps_if
  · intro _
    exact keeps_bind keeps_any_name fun name isName => keeps_pure ⟨isName, trivial, trivial⟩
  · intro _
    apply keeps_bind (keeps_peek_name "Self")
    intro _ _
    apply keeps_if
    · intro _
      exact keeps_bind keeps_any_name fun name isName =>
        keeps_segment_behind_name sound isExpression isName
    · intro _
      exact keeps_bind keeps_identifier fun name free =>
        keeps_segment_behind_name sound isExpression free.1

/-- A path of at least one name, whose names are well-formed. -/
def AreSegments (segments : List PathSegment) : Prop :=
  segments ≠ [] ∧ SegmentsWellFormed segments

theorem keeps_argument_path (isExpression : Bool) :
    Keeps (argumentPath parts isExpression) fun path => AreSegments path.segments := by
  unfold argumentPath
  apply keeps_bind (keeps_operator? "::")
  intro leading _
  apply keeps_bind (keeps_segment sound isExpression)
  intro first held
  apply keeps_bind keeps_list_fuel
  intro fuel _
  apply keeps_bind (keeps_more_segments (keeps_segment sound isExpression) fuel)
  intro others heldOthers
  apply keeps_pure
  refine ⟨by simp, ?_⟩
  exact segments_well_formed (first :: others) (by simpa using ⟨held, heldOthers⟩)

theorem keeps_qualified_path (isExpression : Bool) :
    Keeps (qualifiedPath parts isExpression) WrittenType.IsWellFormed := by
  unfold qualifiedPath
  apply keeps_bind (keeps_operator? "<")
  intro _ _
  apply keeps_if
  · intro _
    apply keeps_bind (sound.type true)
    intro subject _
    have ending (trait : WrittenPath) : Keeps (do
        operator ">"
        operator "::"
        return WrittenType.projection subject trait.leading trait.segments
          (← allSegments (segment parts isExpression) (← listFuel)))
        WrittenType.IsWellFormed := by
      apply keeps_bind (keeps_operator ">")
      intro _ _
      apply keeps_bind (keeps_operator "::")
      intro _ _
      apply keeps_bind keeps_list_fuel
      intro fuel _
      apply keeps_bind (keeps_all_segments (keeps_segment sound isExpression) fuel)
      intro segments _
      exact keeps_pure trivial
    apply keeps_bind (keeps_word? "as")
    intro found _
    apply keeps_if
    · intro _
      exact keeps_bind (keeps_argument_path sound false) fun trait _ => ending trait
    · intro _
      exact ending ⟨false, []⟩
  · intro _
    exact keeps_bind (keeps_argument_path sound isExpression) fun _ held => keeps_pure held

end

end Recordsmith.Source
