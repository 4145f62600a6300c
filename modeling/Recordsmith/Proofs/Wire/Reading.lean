import Recordsmith.Proofs.Outcome
import Recordsmith.Wire.Decode

/-!
What is read from a value, without a view to the order in which its parts are looked at. A structure
is read exactly when its value can hold it and every member reads as the field it stands for, or is
missing and the field has its default.
-/

namespace Recordsmith.Wire

namespace Value

/-- The member of a structure: under its key in a mapping, at its place in a sequence. -/
def member? (value : Value) (key : String) (place : Nat) : Option Value :=
  match value with
  | .mapping entries => entry? entries key
  | .sequence items => items[place]?
  | _ => none

/-- The value can hold a structure: a mapping always can, a sequence if its length is in bounds. -/
def Holds (value : Value) (least most : Nat) : Prop :=
  match value with
  | .mapping _ => True
  | .sequence items => least ≤ items.length ∧ items.length ≤ most
  | _ => False

end Value

namespace Decode

variable {Result : Type} {inner : Value → Decoded Result}

/-- A member reads as a result; a missing one stands for the default, if there is one. -/
def Reads (inner : Value → Decoded Result) (default? : Option Result) (member : Option Value)
    (result : Result) : Prop :=
  match member with
  | some value => inner value = .ok result
  | none => default? = some result

theorem reads_required_iff {member : Option Value} {result : Result} :
    Reads inner none member result ↔ ∃ value, member = some value ∧ inner value = .ok result := by
  cases member <;> simp [Reads]

theorem required_ok_iff {key : String} {found : Option Result} {result : Result} :
    required key found = .ok result ↔ found = some result := by
  cases found <;> simp [required]

/-! ## Entries and items -/

section Members

variable {entries : List (String × Value)} {key : String} {shape : Shape} {items : List Value}
  {index : Nat} {default result : Result}

theorem field_ok_iff :
    field? entries key inner = .ok (some result) ↔
      Reads inner none ( Value.entry? entries key) result := by
  rw [field?]
  cases Value.entry? entries key with
  | none => simp [Reads]
  | some value => cases read : inner value <;> simp [Reads, read, Except.map]

theorem field_default_iff :
    (∃ found, field? entries key inner = .ok found ∧ found.getD default = result) ↔
      Reads inner (some default) ( Value.entry? entries key) result := by
  rw [field?]
  cases Value.entry? entries key with
  | none => simp [Reads]
  | some value => cases read : inner value <;> simp [Reads, read, Except.map]

theorem item_ok_iff :
    item shape items index inner = .ok result ↔ Reads inner none items[index]? result := by
  rw [item]
  cases items[index]? <;> simp [Reads]

theorem item_default_iff :
    (∃ found, item? items index inner = .ok found ∧ found.getD default = result) ↔
      Reads inner (some default) items[index]? result := by
  rw [item?]
  cases items[index]? with
  | none => simp [Reads]
  | some value => cases read : inner value <;> simp [Reads, read, Except.map]

/-- A default is of no use for an item that is there. -/
theorem reads_item_iff (inside : index < items.length) :
    Reads inner (some default) items[index]? result ↔ Reads inner none items[index]? result := by
  rw [List.getElem?_eq_getElem inside]
  exact Iff.rfl

theorem item_inside (reads : Reads inner none items[index]? result) : index < items.length := by
  obtain ⟨value, present, _⟩ := reads_required_iff.mp reads
  exact (List.getElem?_eq_some_iff.mp present).1

/-- Items are read as a structure when nothing follows the last field. -/
theorem structured_sequence_ok_iff {keyed : List (String × Value) → Decoded Result}
    {listed : List Value → Decoded Result} :
    structured shape keyed listed (.sequence items) = .ok result ↔
      items.length ≤ shape.fieldCount ∧ listed items = .ok result := by
  rw [structured, bind_ok_iff]
  constructor
  · rintro ⟨read, listed, rest⟩
    split at rest
    · cases rest
    · case isFalse bounded =>
        cases rest
        exact ⟨Nat.le_of_not_lt bounded, listed⟩
  · rintro ⟨bounded, listed⟩
    exact ⟨result, listed, by rw [if_neg (Nat.not_lt.mpr bounded)]; rfl⟩

end Members

theorem nullable_ok_none_iff {value : Value} :
    nullable inner value = .ok none ↔ value = .null := by
  cases value with
  | null => simp [nullable]
  | _ => simp [nullable, Except.map]; split <;> simp

theorem nullable_ok_some_iff {value : Value} {result : Result} :
    nullable inner value = .ok (some result) ↔ value ≠ .null ∧ inner value = .ok result := by
  cases value with
  | null => simp [nullable]
  | _ => simp [nullable, Except.map]; split <;> simp_all

theorem mapM_ok_iff {values : List Value} {results : List Result} :
    values.mapM inner = .ok results ↔
      List.Forall₂ (fun value result => inner value = .ok result) values results := by
  induction values generalizing results with
  | nil =>
      rw [List.mapM_nil, List.forall₂_nil_left_iff]
      exact ⟨fun whole => by cases whole; rfl, fun whole => by cases whole; rfl⟩
  | cons first rest induction =>
      simp only [List.mapM_cons, bind_ok_iff, List.forall₂_cons_left_iff, induction]
      constructor
      · rintro ⟨value, read, values, others, whole⟩
        cases whole
        exact ⟨value, values, read, others, rfl⟩
      · rintro ⟨value, values, read, others, rfl⟩
        exact ⟨value, read, values, others, rfl⟩

theorem sequence_ok_iff {value : Value} {results : List Result} :
    sequence inner value = .ok results ↔ ∃ items, value = .sequence items ∧
      List.Forall₂ (fun item result => inner item = .ok result) items results := by
  cases value with
  | sequence items => simp [sequence, mapM_ok_iff]
  | _ => simp [sequence]

/-! ## Structures -/

theorem location_ok_iff {value : Value} {place : SourceLocation} :
    location value = .ok place ↔ value.Holds 3 3 ∧
      Reads text none (value.member? "path" 0) place.path ∧
      Reads number32 none (value.member? "line" 1) place.line ∧
      Reads number32 none (value.member? "column" 2) place.column := by
  cases value with
  | mapping entries =>
      simp only [location, structured, Value.Holds, Value.member?, bind_ok_iff, required_ok_iff,
        ← field_ok_iff]
      constructor
      · rintro ⟨_, column, _, line, _, path, _, rfl, _, rfl, _, rfl, whole⟩
        cases whole
        exact ⟨trivial, path, line, column⟩
      · rintro ⟨-, path, line, column⟩
        exact ⟨_, column, _, line, _, path, _, rfl, _, rfl, _, rfl, rfl⟩
  | sequence items =>
      simp only [location, structured_sequence_ok_iff, Value.Holds, Value.member?, bind_ok_iff,
        item_ok_iff]
      constructor
      · rintro ⟨bounded, _, path, _, line, _, column, whole⟩
        cases whole
        exact ⟨⟨item_inside column, bounded⟩, path, line, column⟩
      · rintro ⟨⟨-, bounded⟩, path, line, column⟩
        exact ⟨bounded, _, path, _, line, _, column, rfl⟩
  | _ => simp [location, structured, Value.Holds]

theorem scope_ok_iff {value : Value} {name : String} :
    scope value = .ok name ↔ value.Holds 1 1 ∧ Reads text none (value.member? "name" 0) name := by
  cases value with
  | mapping entries =>
      simp only [scope, structured, Value.Holds, Value.member?, bind_ok_iff, required_ok_iff,
        ← field_ok_iff, exists_eq_right, true_and]
  | sequence items =>
      simp only [scope, structured_sequence_ok_iff, Value.Holds, Value.member?, item_ok_iff]
      constructor
      · rintro ⟨bounded, read⟩
        exact ⟨⟨item_inside read, bounded⟩, read⟩
      · rintro ⟨⟨-, bounded⟩, read⟩
        exact ⟨bounded, read⟩
  | _ => simp [scope, structured, Value.Holds]

theorem declared_field_ok_iff {value : Value} {field : DeclaredField} :
    declaredField value = .ok field ↔ value.Holds 2 5 ∧
      Reads text none (value.member? "name" 0) field.name ∧
      Reads text none (value.member? "raw_type_text" 1) field.typeText ∧
      Reads boolean (some false) (value.member? "is_variadic" 2) field.isVariadic ∧
      Reads (nullable location) (some none) (value.member? "location" 3) field.location ∧
      Reads (nullable text) (some none) (value.member? "visibility" 4) field.visibility := by
  cases value with
  | mapping entries =>
      simp only [declaredField, structured, Value.Holds, Value.member?, bind_ok_iff,
        required_ok_iff, ← field_ok_iff, ← field_default_iff]
      constructor
      · rintro ⟨_, isVariadic, _, location, _, name, _, typeText, _, visibility, _, rfl, _, rfl,
          whole⟩
        cases whole
        exact ⟨trivial, name, typeText, ⟨_, isVariadic, rfl⟩, ⟨_, location, rfl⟩,
          ⟨_, visibility, rfl⟩⟩
      · rintro ⟨-, name, typeText, ⟨_, isVariadic, variadicIs⟩, ⟨_, location, locationIs⟩,
          ⟨_, visibility, visibilityIs⟩⟩
        refine ⟨_, isVariadic, _, location, _, name, _, typeText, _, visibility, _, rfl, _, rfl, ?_⟩
        rw [variadicIs, locationIs, visibilityIs]
        rfl
  | sequence items =>
      simp only [declaredField, structured_sequence_ok_iff, Value.Holds, Value.member?,
        bind_ok_iff, item_ok_iff, ← item_default_iff]
      constructor
      · rintro ⟨bounded, _, name, _, typeText, _, isVariadic, _, location, _, visibility, whole⟩
        cases whole
        exact ⟨⟨item_inside typeText, bounded⟩, name, typeText, ⟨_, isVariadic, rfl⟩,
          ⟨_, location, rfl⟩, ⟨_, visibility, rfl⟩⟩
      · rintro ⟨⟨-, bounded⟩, name, typeText, ⟨_, isVariadic, variadicIs⟩,
          ⟨_, location, locationIs⟩, ⟨_, visibility, visibilityIs⟩⟩
        refine ⟨bounded, _, name, _, typeText, _, isVariadic, _, location, _, visibility, ?_⟩
        rw [variadicIs, locationIs, visibilityIs]
        rfl
  | _ => simp [declaredField, structured, Value.Holds]

/-- A sequence has to be long enough for the field list; a mapping may leave it out. -/
theorem candidate_ok_iff {value : Value} {found : Candidate} :
    candidate value = .ok found ↔ value.Holds 5 7 ∧
      Reads boolean none (value.member? "is_record_type" 0) found.isRecord ∧
      Reads boolean none (value.member? "has_companion_scope" 1) found.hasCompanionScope ∧
      Reads text none (value.member? "fully_qualified_name" 2) found.qualifiedName ∧
      Reads (sequence scope) (some []) (value.member? "enclosing_scopes" 3)
        found.enclosingScopes ∧
      Reads (nullable (sequence declaredField)) (some none) (value.member? "fields" 4)
        found.fields ∧
      Reads text (some "") (value.member? "visibility" 5) found.visibility ∧
      Reads (nullable location) (some none) (value.member? "location" 6) found.location := by
  cases value with
  | mapping entries =>
      simp only [candidate, structured, Value.Holds, Value.member?, bind_ok_iff, required_ok_iff,
        ← field_ok_iff, ← field_default_iff]
      constructor
      · rintro ⟨_, scopes, _, fields, _, name, _, companion, _, isRecord, _, location, _,
          visibility, _, rfl, _, rfl, _, rfl, whole⟩
        cases whole
        exact ⟨trivial, isRecord, companion, name, ⟨_, scopes, rfl⟩, ⟨_, fields, rfl⟩,
          ⟨_, visibility, rfl⟩, ⟨_, location, rfl⟩⟩
      · rintro ⟨-, isRecord, companion, name, ⟨_, scopes, scopesAre⟩, ⟨_, fields, fieldsAre⟩,
          ⟨_, visibility, visibilityIs⟩, ⟨_, location, locationIs⟩⟩
        refine ⟨_, scopes, _, fields, _, name, _, companion, _, isRecord, _, location, _,
          visibility, _, rfl, _, rfl, _, rfl, ?_⟩
        rw [scopesAre, fieldsAre, visibilityIs, locationIs]
        rfl
  | sequence items =>
      simp only [candidate, structured_sequence_ok_iff, Value.Holds, Value.member?, bind_ok_iff,
        item_ok_iff]
      constructor
      · rintro ⟨bounded, _, isRecord, _, companion, _, name, _, scopes, _, fields, _, visibility, _,
          location, whole⟩
        cases whole
        have inside := item_inside fields
        exact ⟨⟨inside, bounded⟩, isRecord, companion, name, item_default_iff.mp ⟨_, scopes, rfl⟩,
          (reads_item_iff inside).mpr fields, item_default_iff.mp ⟨_, visibility, rfl⟩,
          item_default_iff.mp ⟨_, location, rfl⟩⟩
      · rintro ⟨⟨inside, bounded⟩, isRecord, companion, name, scopes, fields, visibility, location⟩
        obtain ⟨_, scopes, scopesAre⟩ := item_default_iff.mpr scopes
        obtain ⟨_, visibility, visibilityIs⟩ := item_default_iff.mpr visibility
        obtain ⟨_, location, locationIs⟩ := item_default_iff.mpr location
        refine ⟨bounded, _, isRecord, _, companion, _, name, _, scopes, _,
          (reads_item_iff inside).mp fields, _, visibility, _, location, ?_⟩
        rw [scopesAre, visibilityIs, locationIs]
        rfl
  | _ => simp [candidate, structured, Value.Holds]

end Decode

end Recordsmith.Wire
