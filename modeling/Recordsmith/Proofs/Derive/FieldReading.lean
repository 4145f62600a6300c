import Recordsmith.Proofs.Derive.FieldTypes
import Recordsmith.Proofs.Source.Fields

/-!
Field types on their way through their text. The text of a type is all that is kept of it, so what
is read back from the text decides what the generated code says.
-/

namespace Recordsmith.Source

open Code

/-- The type is read back from its text as a type expression, which is lowered to a type. -/
def WrittenType.ReadsBack (type : WrittenType) (expression : TypeExpr) (code : CodeType) : Prop :=
  TypeExpr.parse type.fieldText = .ok expression ∧ expression.lower = .ok code

/-- No field type is misread. The types of declared fields are well-formed; of the well-formed
types exactly the supported ones are read back, and each of them as itself. -/
theorem field_types_are_never_misread :
    (∀ (text : String) (declaration : Declaration) (fields : List Field),
      Declaration.read? text = some declaration → declaration.recordFields? = some fields →
        ∀ field ∈ fields, field.type.IsWellFormed) ∧
    ∀ type : WrittenType, type.IsWellFormed →
      ((∃ expression code, type.ReadsBack expression code) ↔ type.Supported) ∧
      ∀ expression code, type.ReadsBack expression code →
        code.written = type.plain ∧ (expression.nullable = true ↔ type.isOptional = true) := by
  constructor
  · intro text declaration fields read recorded
    exact read_fields_well_formed text declaration read fields recorded
  · intro type wellFormed
    have supportedOf (expression : TypeExpr) (code : CodeType)
        (back : type.ReadsBack expression code) : type.Supported := by
      obtain ⟨parsed, lowered⟩ := back
      have read := (parse_field_text type wellFormed expression).mp parsed
      exact lowered_supported type wellFormed expression read code lowered
    constructor
    · constructor
      · rintro ⟨expression, code, back⟩
        exact supportedOf expression code back
      · intro supported
        obtain ⟨expression, code, read, lowered, _⟩ :=
          supported_lowered type wellFormed supported
        exact ⟨expression, code,
          (parse_field_text type wellFormed expression).mpr read, lowered⟩
    · intro expression code back
      have supported := supportedOf expression code back
      obtain ⟨parsed, lowered⟩ := back
      have read := (parse_field_text type wellFormed expression).mp parsed
      -- There is only one type expression and one type to read the text back as.
      obtain ⟨found, written, readFound, loweredFound, same⟩ :=
        supported_lowered type wellFormed supported
      rw [read] at readFound
      cases readFound
      rw [lowered] at loweredFound
      cases loweredFound
      refine ⟨same, ?_⟩
      rw [expression_nullable type expression read]

/-- `Map::<Key, (Option<Value>)>` is read back, and `Option<(Option<Value>)>` is not. -/
theorem nested_optional_is_not_read :
    let name (text : String) := WrittenType.path false [.mk text .absent]
    let optional (inner : WrittenType) :=
      WrittenType.path false [.mk "Option" (.angled false [.type inner] false)]
    (∃ expression code, (WrittenType.path false [.mk "Map" (.angled true
      [.type (name "Key"), .type (.parenthesized (optional (name "Value")))] false)]).ReadsBack
        expression code) ∧
    ¬ ∃ expression code,
      (optional (.parenthesized (optional (name "Value")))).ReadsBack expression code := by
  have isMap : IsName "Map" := ⟨"Map".toList, [], by decide⟩
  have isKey : IsName "Key" := ⟨"Key".toList, [], by decide⟩
  have isOption : IsName "Option" := ⟨"Option".toList, [], by decide⟩
  have isValue : IsName "Value" := ⟨"Value".toList, [], by decide⟩
  have isPlain (text : String)
      (ascii : (text.toList.all fun character => decide (character.toNat < 0x80)) = true)
      (notRaw : ¬ ['r', '#'] <+: text.toList) (free : text ∉ Identifier.reserved) :
      IsPlainName text :=
    ⟨fun character member => of_decide_eq_true (List.all_eq_true.mp ascii character member),
      notRaw, free⟩
  intro name optional
  have wellFormedName (text : String) (isName : IsName text) : (name text).IsWellFormed :=
    ⟨by simp, isName, trivial, trivial⟩
  have wellFormedOption (inner : WrittenType) (wellFormed : inner.IsWellFormed) :
      (optional inner).IsWellFormed :=
    ⟨by simp, isOption, ⟨wellFormed, trivial⟩, trivial⟩
  have wellFormedValue := wellFormedOption _ (wellFormedName "Value" isValue)
  have supportedName (text : String) (isPlain : IsPlainName text)
      (other : text ≠ optionalName) : (name text).Supported :=
    ⟨rfl, isPlain, trivial, fun both => other both.1⟩
  have supportedKey := supportedName "Key" (isPlain "Key" (by decide) (by decide) (by decide))
    (by decide)
  have supportedValue := supportedName "Value"
    (isPlain "Value" (by decide) (by decide) (by decide)) (by decide)
  constructor
  · refine (field_types_are_never_misread.2 _ ?_).1.mpr ?_
    · exact ⟨by simp, isMap, ⟨wellFormedName "Key" isKey, wellFormedValue, trivial⟩, trivial⟩
    · refine ⟨rfl, isPlain "Map" (by decide) (by decide) (by decide),
        ⟨by simp, supportedKey, ?_, trivial⟩, fun both => absurd both.1 (by decide)⟩
      exact ⟨rfl, optional_name_plain, ⟨by simp, supportedValue, trivial⟩,
        fun both => by cases both.2⟩
  · intro back
    have supported := (field_types_are_never_misread.2 _
      (wellFormedOption _ wellFormedValue)).1.mp back
    obtain ⟨_, _, _, notTwice⟩ := supported
    exact notTwice ⟨rfl, rfl⟩

end Recordsmith.Source
