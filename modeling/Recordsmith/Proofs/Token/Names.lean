import Recordsmith.Proofs.Outcome
import Recordsmith.Proofs.Text.NameCharacters
import Recordsmith.Proofs.TypeExpr.Scanning
import Recordsmith.Source.Identifier

/-!
Names as the lexer reads them. The characters of a name are those of a word, above ASCII, or the
number sign of a raw name, and all names among the tokens of a text are such names.
-/

namespace Recordsmith

open Text

/-- The text of a name, as it is read somewhere. -/
def IsName (text : String) : Prop :=
  ∃ input rest, Lexer.anyName? input = some (text.toList, rest)

/-- The text of a name that is not reserved. -/
def IsFreeName (text : String) : Prop := IsName text ∧ text ∉ Identifier.reserved

/-- A name of ASCII characters that is neither raw nor reserved. -/
def IsPlainName (text : String) : Prop :=
  (∀ character ∈ text.toList, character.toNat < 0x80) ∧ ¬ ['r', '#'] <+: text.toList ∧
    text ∉ Identifier.reserved

instance (text : String) : Decidable (IsPlainName text) :=
  decidable_of_iff ((text.toList.all fun character => character.toNat < 0x80) = true ∧
    ¬ ['r', '#'] <+: text.toList ∧ text ∉ Identifier.reserved) (by simp [IsPlainName])

/-! ## The characters of a name -/

/-- A name is a plain one, or a raw one with its mark. -/
theorem name_cases {text : String} (isName : IsName text) :
    ∃ first others, isIdentifierStart first = true ∧
      (∀ character ∈ others, isIdentifierContinue character = true) ∧
      (text.toList = first :: others ∨ (text.toList = 'r' :: '#' :: first :: others ∧
        Lexer.neverRaw.contains (String.ofList (first :: others)) = false)) := by
  obtain ⟨input, rest, read⟩ := isName
  have plain : ∀ {input name rest : List Char}, Lexer.plainName? input = some (name, rest) →
      ∃ first others, isIdentifierStart first = true ∧
        (∀ character ∈ others, isIdentifierContinue character = true) ∧ name = first :: others := by
    intro input name rest read
    cases input with
    | nil => cases read
    | cons first others =>
        rw [Lexer.plainName?] at read
        split_ifs at read with starts
        cases read
        exact ⟨first, _, starts, fun character member => List.mem_takeWhile_imp member, rfl⟩
  rw [Lexer.anyName?] at read
  split at read
  · rename_i inner _
    generalize text.toList = characters at read ⊢
    cases found : Lexer.plainName? inner with
    | none => simp [found] at read
    | some named =>
        obtain ⟨name, after⟩ := named
        obtain ⟨first, others, starts, goesOn, rfl⟩ := plain found
        simp only [found, Option.bind_eq_bind, Option.bind_some] at read
        split_ifs at read with never
        cases read
        exact ⟨first, others, starts, goesOn, .inr ⟨rfl, by simpa using never⟩⟩
  · obtain ⟨first, others, starts, goesOn, named⟩ := plain read
    exact ⟨first, others, starts, goesOn, .inl named⟩

theorem above_ascii_foreign (character : Char) (high : 0x80 ≤ character.toNat) :
    TypeExpr.isForeign character = true := by
  have notWord : isWordCharacter character = false := by
    rw [← Bool.not_eq_true]
    intro isWord
    exact absurd (word_is_ascii character isWord) (by omega)
  have other : ∀ sign : Char, sign.toNat < 0x80 → character ≠ sign := by
    intro sign ascii same
    rw [same] at high
    omega
  have notBlank : TypeExpr.isPadding character = false := by
    simp [TypeExpr.isPadding, other ' ' (by decide), other '\t' (by decide),
      other '\r' (by decide), other '\n' (by decide)]
  simp [TypeExpr.isForeign, notWord, notBlank, other '<' (by decide), other '>' (by decide),
    other ',' (by decide), other '?' (by decide)]

/-- A character of a name belongs to a word or to no type expression. -/
theorem name_character {text : String} (isName : IsName text) (character : Char)
    (member : character ∈ text.toList) :
    isWordCharacter character = true ∨ TypeExpr.isForeign character = true := by
  have ofNamed : isIdentifierStart character = true ∨ isIdentifierContinue character = true →
      isWordCharacter character = true ∨ TypeExpr.isForeign character = true := by
    intro named
    by_cases ascii : character.toNat < 0x80
    · left
      rcases named with starts | goesOn
      · exact word_of_start character starts ascii
      · exact word_of_continue character goesOn ascii
    · exact .inr (above_ascii_foreign character (by omega))
  obtain ⟨first, others, starts, goesOn, plain | ⟨raw, _⟩⟩ := name_cases isName
  · rw [plain] at member
    rcases List.mem_cons.mp member with rfl | later
    · exact ofNamed (.inl starts)
    · exact ofNamed (.inr (goesOn character later))
  · rw [raw] at member
    simp only [List.mem_cons] at member
    rcases member with rfl | rfl | rfl | later
    · exact .inl (by decide)
    · exact .inr (by decide)
    · exact ofNamed (.inl starts)
    · exact ofNamed (.inr (goesOn character later))

theorem name_nonempty {text : String} (isName : IsName text) : text.toList ≠ [] := by
  obtain ⟨first, others, _, _, plain | ⟨raw, _⟩⟩ := name_cases isName
  · simp [plain]
  · simp [raw]

theorem name_solid {text : String} (isName : IsName text) (character : Char)
    (member : character ∈ text.toList) : TypeExpr.IsSolid character := by
  rcases name_character isName character member with isWord | foreign
  · constructor
    · rw [← Bool.not_eq_true]
      intro isBlank
      rw [TypeExpr.padding_not_word character isBlank] at isWord
      cases isWord
    · rintro rfl
      revert isWord
      decide
  · constructor
    · simp only [TypeExpr.isForeign, Bool.and_eq_true, Bool.not_eq_true'] at foreign
      exact foreign.1.2
    · rintro rfl
      revert foreign
      decide

theorem name_word_or_foreign {text : String} (isName : IsName text) :
    TypeExpr.IsWord text.toList ∨
      ∃ character ∈ text.toList, TypeExpr.isForeign character = true := by
  by_cases allWord : ∀ character ∈ text.toList, isWordCharacter character = true
  · exact .inl ⟨name_nonempty isName, allWord⟩
  · right
    rw [not_forall] at allWord
    obtain ⟨character, isNot⟩ := allWord
    obtain ⟨member, notWord⟩ := Classical.not_imp.mp isNot
    rcases name_character isName character member with isWord | foreign
    · exact absurd isWord notWord
    · exact ⟨character, member, foreign⟩

/-- A name is a word when it has ASCII characters only and is not raw. -/
theorem name_word_iff {text : String} (isName : IsName text) :
    TypeExpr.IsWord text.toList ↔
      (∀ character ∈ text.toList, character.toNat < 0x80) ∧ ¬ ['r', '#'] <+: text.toList := by
  constructor
  · rintro ⟨_, allWord⟩
    refine ⟨fun character member => word_is_ascii character (allWord character member), ?_⟩
    rintro ⟨rest, raw⟩
    have mark := allWord '#' (by simp [← raw])
    revert mark
    decide
  · rintro ⟨ascii, notRaw⟩
    refine ⟨name_nonempty isName, fun character member => ?_⟩
    obtain ⟨first, others, starts, goesOn, plain | ⟨raw, _⟩⟩ := name_cases isName
    · have small := ascii character member
      rw [plain] at member
      rcases List.mem_cons.mp member with rfl | later
      · exact word_of_start character starts small
      · exact word_of_continue character (goesOn character later) small
    · exact absurd ⟨first :: others, by simp [raw]⟩ notRaw

/-! ## The names among the tokens of a text -/

namespace Lexer

/-- The names among tokens are names. -/
def AreNamed (tokens : List Lexeme) : Prop :=
  ∀ lexeme ∈ tokens, ∀ name, lexeme.token = .name name → IsName name

theorem AreNamed.suffix {tokens left : List Lexeme} (named : AreNamed tokens)
    (suffix : left <:+ tokens) : AreNamed left :=
  fun lexeme member => named lexeme (suffix.subset member)

theorem AreNamed.cons {first : Lexeme} {rest : List Lexeme}
    (isNamed : ∀ name, first.token = .name name → IsName name) (named : AreNamed rest) :
    AreNamed (first :: rest) := by
  intro lexeme member
  rcases List.mem_cons.mp member with rfl | later
  · exact isNamed
  · exact named lexeme later

theorem doc_is_name : IsName "doc" := ⟨"doc".toList, [], by decide⟩

theorem doc_attribute_named (text : List Char) (isInner : Bool) (place : Nat) :
    AreNamed ((docAttribute text isInner).map (⟨·, place⟩)) := by
  intro lexeme member name same
  obtain ⟨token, listed, rfl⟩ := List.mem_map.mp member
  cases same
  have isDoc : name = "doc" := by
    cases isInner <;> simpa [docAttribute, Token.group] using listed
  rw [isDoc]
  exact doc_is_name

theorem punctuation_is_mark {input rest : List Char} {token : Token}
    (found : punctuation? input = some (token, rest)) :
    ∃ character joint, token = .mark character joint := by
  unfold punctuation? at found
  rw [Option.bind_eq_bind, Option.bind_eq_some_iff] at found
  obtain ⟨⟨character, after⟩, _, found⟩ := found
  dsimp only at found
  split at found
  · rw [Option.bind_eq_bind, Option.bind_eq_some_iff] at found
    obtain ⟨⟨_, afterName⟩, _, found⟩ := found
    split at found
    · cases found
    · split at found <;> cases found
      exact ⟨_, _, rfl⟩
    · cases found
      exact ⟨_, _, rfl⟩
  · cases found
    exact ⟨_, _, rfl⟩

theorem leaf_any_name {input rest : List Char} {name : String}
    (found : leaf? input = some (.name name, rest)) :
    anyName? input = some (name.toList, rest) := by
  unfold leaf? at found
  split at found
  · cases found
  · split at found
    · rename_i punctuation
      cases found
      obtain ⟨_, _, isMark⟩ := punctuation_is_mark punctuation
      cases isMark
    · split at found
      · rename_i characters after named
        cases found
        rw [name?] at named
        split_ifs at named
        rw [String.toList_ofList, named]
      · obtain ⟨_, _, absurd⟩ := Option.map_eq_some_iff.mp found
        cases absurd

theorem leaf_named {input rest : List Char} {token : Token}
    (found : leaf? input = some (token, rest)) (name : String) (same : token = .name name) :
    IsName name := by
  cases same
  exact ⟨input, rest, leaf_any_name found⟩

/-- Every name that the lexer finds is a name. -/
theorem lex_from_named (total fuel : Nat) (stack : List (Delimiter × Nat)) (input : List Char)
    (tokens : List Lexeme) (lexed : lexFrom total fuel stack input = .ok tokens) :
    AreNamed tokens := by
  induction fuel generalizing stack input tokens with
  | zero => cases lexed
  | succ fuel induction =>
      -- Groups and leaves alike put one token in front of what the rest is read as.
      have behind {first : Lexeme} {stack : List (Delimiter × Nat)} {rest : List Char}
          (isNamed : ∀ name, first.token = .name name → IsName name)
          (read : (do
            let others ← lexFrom total fuel stack rest
            .ok (first :: others)) = .ok tokens) : AreNamed tokens := by
        obtain ⟨others, lexedRest, whole⟩ := bind_ok read
        cases whole
        exact AreNamed.cons isNamed (induction stack rest others lexedRest)
      unfold lexFrom at lexed
      dsimp only at lexed
      split at lexed
      · rename_i text isInner rest _
        split at lexed
        · obtain ⟨others, lexedRest, whole⟩ := bind_ok lexed
          cases whole
          intro lexeme member
          rcases List.mem_append.mp member with documented | later
          · exact doc_attribute_named text isInner _ lexeme documented
          · exact induction stack rest others lexedRest lexeme later
        · cases lexed
      · split at lexed
        · split at lexed
          · cases lexed
            exact fun _ absurd => nomatch absurd
          · cases lexed
        · split at lexed
          · exact behind (fun _ absurd => by cases absurd) lexed
          · split at lexed
            · split at lexed
              · cases lexed
              · split at lexed
                · exact behind (fun _ absurd => by cases absurd) lexed
                · cases lexed
            · split at lexed
              · cases lexed
              · rename_i found
                exact behind (leaf_named found) lexed

theorem lex_named (text : String) (tokens : List Lexeme) (lexed : lex text = .ok tokens) :
    AreNamed tokens := lex_from_named _ _ _ _ tokens lexed

end Lexer

end Recordsmith
