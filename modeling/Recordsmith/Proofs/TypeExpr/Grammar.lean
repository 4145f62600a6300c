import Recordsmith.TypeExpr.Parser

/-!
The grammar of type expressions, as a relation between a type and its texts that knows nothing of
any way of reading them. A text of a type is a word, then perhaps the arguments in angle brackets,
then perhaps a question mark; between two arguments stands a comma in any number of blanks.
-/

namespace Recordsmith.TypeExpr

open Recordsmith.Text

/-- At least one character, all of them word characters. -/
def IsWord (word : List Char) : Prop :=
  word ≠ [] ∧ ∀ character ∈ word, isWordCharacter character = true

/-- Any number of blanks. -/
def IsBlank (blanks : List Char) : Prop := ∀ character ∈ blanks, isPadding character = true

instance (word : List Char) : Decidable (IsWord word) :=
  decidable_of_iff (word ≠ [] ∧ word.all isWordCharacter = true) (by simp [IsWord])

instance (blanks : List Char) : Decidable (IsBlank blanks) :=
  decidable_of_iff (blanks.all isPadding = true) (by simp [IsBlank])

/-- The question mark behind a type that may be missing, and nothing behind another. -/
def markOf (nullable : Bool) : List Char := if nullable then ['?'] else []

mutual

/-- The text is one of the type. -/
inductive Derives : TypeExpr → List Char → Prop
  | type (word : List Char) {inside : List Char} {arguments : List TypeExpr} (nullable : Bool)
      (isWord : IsWord word) (derived : DerivesArguments arguments inside) :
      Derives ⟨String.ofList word, arguments, nullable⟩ (word ++ inside ++ markOf nullable)

/-- The text is one of the arguments with their brackets; no arguments have no brackets. -/
inductive DerivesArguments : List TypeExpr → List Char → Prop
  | absent : DerivesArguments [] []
  | bracketed {first : TypeExpr} {others : List TypeExpr} {text more : List Char}
      (derivedFirst : Derives first text) (derivedOthers : DerivesMore others more) :
      DerivesArguments (first :: others) ('<' :: (text ++ more ++ ['>']))

/-- The text is one of the arguments behind the first, each with the comma in front of it. -/
inductive DerivesMore : List TypeExpr → List Char → Prop
  | nothing : DerivesMore [] []
  | next {first : TypeExpr} {others : List TypeExpr} (before after : List Char)
      {text more : List Char} (blankBefore : IsBlank before) (blankAfter : IsBlank after)
      (derivedFirst : Derives first text) (derivedOthers : DerivesMore others more) :
      DerivesMore (first :: others) (before ++ ',' :: (after ++ text ++ more))

end

/-! ## What texts begin with -/

theorem begins_word_iff (text : List Char) :
    beginsWord text = true ↔ ∃ first rest, text = first :: rest ∧ isWordCharacter first = true := by
  cases text with
  | nil => simp [beginsWord]
  | cons first rest => simp [beginsWord]

theorem derived_begins_word {type : TypeExpr} {text : List Char} (derived : Derives type text)
    (suffix : List Char) : beginsWord (text ++ suffix) = true := by
  cases derived with
  | type word nullable isWord =>
      obtain ⟨nonempty, allWord⟩ := isWord
      obtain ⟨first, rest, rfl⟩ := List.exists_cons_of_ne_nil nonempty
      exact allWord first (by simp)

/-! ## Characters -/

theorem padding_not_word (character : Char) (isBlank : isPadding character = true) :
    isWordCharacter character = false := by
  simp only [isPadding, Bool.or_eq_true, beq_iff_eq] at isBlank
  rcases isBlank with ((rfl | rfl) | rfl) | rfl <;> decide

theorem take_word_append (word rest : List Char)
    (isWord : ∀ character ∈ word, isWordCharacter character = true)
    (ends : beginsWord rest = false) :
    (word ++ rest).takeWhile isWordCharacter = word ∧
      (word ++ rest).dropWhile isWordCharacter = rest := by
  rw [List.takeWhile_append_of_pos isWord, List.dropWhile_append_of_pos isWord]
  cases rest with
  | nil => simp
  | cons first rest =>
      have notWord : isWordCharacter first = false := ends
      simp [notWord]

theorem drop_blank_append (blanks rest : List Char) (isBlank : IsBlank blanks)
    (begins : beginsWord rest = true) : (blanks ++ rest).dropWhile isPadding = rest := by
  rw [List.dropWhile_append_of_pos isBlank]
  obtain ⟨first, others, rfl, isWord⟩ := (begins_word_iff rest).mp begins
  have notBlank : isPadding first = false := by
    cases blank : isPadding first with
    | false => rfl
    | true =>
        rw [padding_not_word first blank] at isWord
        cases isWord
  simp [notBlank]

end Recordsmith.TypeExpr
