import Recordsmith.Proofs.Source.Types
import Recordsmith.Proofs.Source.Visibilities

/-!
What a declaration that is read consists of. Its name and those of its fields are names, and its
visibilities and types are such as source may have. A field with an underscore for its name may have
fields in braces for its type; these are kept as they stand, and a brace is foreign.
-/

namespace Recordsmith.Source

open Lexer Reader

/-- A field that source may have. -/
structure Field.IsWellFormed (field : Field) : Prop where
  name : field.name = "_" ∨ IsFreeName field.name
  visibility : field.visibility.IsWellFormed
  type : field.type.IsWellFormed

/-- A shape whose named fields are well-formed. -/
def Shape.IsWellFormed : Shape → Prop
  | .named list => ∀ field ∈ list.fields, field.IsWellFormed
  | _ => True

/-- A declaration that source may have. -/
structure Declaration.IsWellFormed (declaration : Declaration) : Prop where
  name : IsFreeName declaration.name
  visibility : declaration.visibility.IsWellFormed
  shape : declaration.shape.IsWellFormed

namespace Declaration

section

variable {parts : Grammar}

theorem reads_field_list (delimiter : Delimiter) (field : Reader Field) (tokens : List Lexeme)
    (named : AreNamed tokens) :
    Reads tokens (fieldList delimiter field) fun _ left => BeginsGroup delimiter tokens left := by
  unfold fieldList groupOf
  exact (reads_any_inside named).bind fun _ _ begins => reads_pure begins

variable (sound : parts.IsSound)

include sound

theorem keeps_named_field (depth : Nat) :
    Keeps (namedField parts depth) Field.IsWellFormed := by
  cases depth with
  | zero => exact keeps_refuse _
  | succ depth =>
      unfold namedField
      apply keeps_bind (keeps_outer_attributes parts)
      intro attributes _
      apply keeps_bind keeps_visibility
      intro visibility isVisibility
      apply keeps_bind keeps_identifier_or_line
      intro name isName
      apply keeps_bind (keeps_operator ":")
      intro _ _
      apply keeps_bind keeps_place
      intro typePlace _ tokens named
      apply reads_bind
      apply reads_ahead
      apply reads_if
      · intro _
        refine (keeps_skip 1).reads named fun _ behindWord suffix namedWord _ => ?_
        have begins : Reads behindWord (namedFields parts depth) fun _ left =>
            BeginsGroup .brace behindWord left := by
          cases depth with
          | zero => exact reads_refuse _
          | succ depth => exact reads_field_list .brace _ behindWord namedWord
        refine begins.bind fun _ left group => ?_
        have passed := group.passed.suffix suffix (List.suffix_refl left)
        refine (reads_since_passed passed).bind ?_
        rintro _ _ ⟨rfl, wellFormed⟩
        exact reads_pure ⟨passed.left, isName, isVisibility, wellFormed⟩
      · intro _
        exact (sound.type true).reads named fun _ _ suffix _ wellFormed =>
          reads_pure ⟨suffix, isName, isVisibility, wellFormed⟩

theorem reads_all_named_fields (tokens : List Lexeme) (named : AreNamed tokens) :
    Reads tokens (allNamedFields parts) fun list _ =>
      ∀ field ∈ list.fields, field.IsWellFormed := by
  unfold allNamedFields
  apply reads_bind
  apply reads_list_fuel
  intro more
  have next : 2 * (more + 1) = (2 * more + 1) + 1 := by omega
  rw [next]
  unfold namedFields fieldList groupOf
  have inside := keeps_comma_separated (keeps_named_field sound (2 * more + 1))
  refine (reads_group (fun inner namedInner => (inside inner namedInner).imp
    fun _ _ ⟨_, held⟩ => held) tokens named).bind ?_
  rintro ⟨fields, trailing⟩ left ⟨_, wellFormed⟩
  exact reads_pure wellFormed

theorem reads_structure_shape (tokens : List Lexeme) (named : AreNamed tokens) :
    Reads tokens (structureShape parts) fun found _ => found.2.IsWellFormed := by
  unfold structureShape
  apply reads_bind
  apply reads_ahead
  apply reads_if
  · intro _
    refine reads_anything.bind fun fields _ _ => reads_anything.bind fun found _ _ =>
      reads_anything.bind fun ended _ _ => reads_if (fun _ => reads_pure trivial) fun _ => ?_
    exact reads_refused (reads_refuse_unless _)
  · intro _
    refine (keeps_conditions? sound).reads named fun found left suffix namedLeft _ => ?_
    refine keeps_look.reads namedLeft fun braced last _ namedLast _ => ?_
    apply reads_if
    · intro _
      exact (reads_all_named_fields sound last namedLast).bind fun _ _ wellFormed =>
        reads_pure wellFormed
    · intro _
      refine reads_anything.bind fun ended _ _ => reads_if (fun _ => reads_pure trivial) fun _ => ?_
      exact reads_refused (reads_refuse_unless _)

theorem keeps_keyword : Keeps (keyword parts) fun shape =>
    ∀ tokens, AreNamed tokens → Reads tokens shape fun found _ => found.2.IsWellFormed := by
  unfold keyword
  apply keeps_bind (keeps_word? "struct")
  intro _ _
  apply keeps_if
  · intro _
    exact keeps_pure (reads_structure_shape sound)
  · intro _
    apply keeps_bind (keeps_word? "enum")
    intro _ _
    apply keeps_if
    · intro _
      exact keeps_pure fun _ _ => reads_anything.bind fun _ _ _ =>
        reads_anything.bind fun _ _ _ => reads_pure trivial
    · intro _
      apply keeps_bind (keeps_word? "union")
      intro _ _
      apply keeps_if
      · intro _
        exact keeps_pure fun _ _ => reads_anything.bind fun _ _ _ =>
          reads_anything.bind fun _ _ _ => reads_pure trivial
      · intro _
        exact keeps_refuse_unless _

theorem reads_declaration (tokens : List Lexeme) (named : AreNamed tokens) :
    Reads tokens (reader parts) fun declaration _ => declaration.IsWellFormed := by
  unfold reader afterVisibility
  refine (keeps_attribute_reader parts).reads named fun attributes _ _ named _ => ?_
  refine keeps_visibility.reads named fun visibility _ _ named isVisibility => ?_
  refine (keeps_keyword sound).reads named fun shape _ _ named readsShape => ?_
  refine keeps_place.reads named fun namePlace _ _ named _ => ?_
  refine keeps_identifier.reads named fun name _ _ named isName => ?_
  refine (keeps_generics? sound).reads named fun found left _ named _ => ?_
  exact (readsShape left named).bind fun _ _ wellFormed =>
    reads_pure ⟨isName, isVisibility, wellFormed⟩

end

end Declaration

theorem run_reads {Value : Type} {reader : Reader Value} {tokens : List Lexeme} {scopeEnd : Nat}
    {value : Value} {holds : Value → List Lexeme → Prop} (reads : Reads tokens reader holds)
    (ran : run reader tokens scopeEnd = .ok value) : ∃ left, holds value left := by
  obtain ⟨⟨found, left⟩, succeeded, ended⟩ := bind_ok ran
  have held := reads _ rfl found left succeeded
  dsimp only at ended
  split at ended <;> cases ended
  exact ⟨left.tokens, held⟩

namespace Declaration

/-- A declaration that is read is one that source may have. -/
theorem read_well_formed {text : String} {declaration : Declaration}
    (read : Declaration.read? text = some declaration) : declaration.IsWellFormed := by
  have ran : runText (do reader (grammar (← depthAhead))) text = .ok declaration := by
    unfold Declaration.read? at read
    cases ran : runText (do reader (grammar (← depthAhead))) text with
    | error complaint => simp [ran, Except.toOption] at read
    | ok found =>
        rw [ran] at read
        cases read
        rfl
  unfold runText at ran
  split at ran
  · cases ran
  · rename_i tokens lexed
    have named := lex_named text tokens lexed
    have reads : Reads tokens (do reader (grammar (← depthAhead)))
        fun declaration _ => declaration.IsWellFormed := by
      have keepsDepth : Keeps depthAhead fun _ => True :=
        keeps_bind keeps_ahead fun _ _ => keeps_pure trivial
      refine keepsDepth.reads named fun depth left _ namedLeft _ => ?_
      exact reads_declaration (grammar_is_sound depth) left namedLeft
    obtain ⟨_, wellFormed⟩ := run_reads reads ran
    exact wellFormed

theorem record_fields_well_formed {declaration : Declaration} {fields : List Field}
    (wellFormed : declaration.IsWellFormed) (recorded : declaration.recordFields? = some fields) :
    ∀ field ∈ fields, field.IsWellFormed := by
  have shapeWellFormed := wellFormed.shape
  unfold recordFields? at recorded
  cases shape : declaration.shape <;> rw [shape] at shapeWellFormed recorded <;> cases recorded
  · exact shapeWellFormed
  · exact fun _ absurd => by cases absurd

end Declaration

/-- The fields of a declaration that is read have well-formed types. -/
theorem read_fields_well_formed (text : String) (declaration : Declaration)
    (read : Declaration.read? text = some declaration) (fields : List Field)
    (recorded : declaration.recordFields? = some fields) :
    ∀ field ∈ fields, field.type.IsWellFormed := fun field member =>
  (Declaration.record_fields_well_formed (Declaration.read_well_formed read) recorded field
    member).type

end Recordsmith.Source
