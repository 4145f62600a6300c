import Recordsmith.Proofs.Token.NameReading

/-!
Names with nothing beside them. Blanks, comments and a byte order mark are what a text may have
besides the name that it reads as; a text without them reads as no other name than itself. What a name
means is a matter of its own, for the mark of a raw name does not belong to that.
-/

namespace Recordsmith

/-- A text that has no blanks, no slash to begin a comment and no byte order mark. -/
def IsLone (input : List Char) : Prop :=
  '/' ∉ input ∧ '\uFEFF' ∉ input ∧ ∀ character ∈ input, Lexer.isSeparator character = false

theorem IsLone.rest {first rest : List Char} (lone : IsLone (first ++ rest)) : IsLone rest :=
  ⟨fun slash => lone.1 (List.mem_append_right first slash),
    fun mark => lone.2.1 (List.mem_append_right first mark),
    fun character member => lone.2.2 character (List.mem_append_right first member)⟩

/-- The characters of names and the mark of raw ones have nothing beside them. -/
theorem named_lone (input : List Char) (allNamed : ∀ character ∈ input,
    Text.isIdentifierContinue character = true ∨ character = '#') : IsLone input := by
  have solid : ∀ character ∈ input, Lexer.isSeparator character = false ∧
      character ≠ '/' ∧ character ≠ '\uFEFF' := by
    intro character member
    rcases allNamed character member with goesOn | rfl
    · obtain ⟨noBlank, noMark⟩ := continue_not_passed character goesOn
      refine ⟨noBlank, ?_, noMark⟩
      rintro rfl
      revert goesOn
      decide
    · decide
  exact ⟨fun slash => (solid '/' slash).2.1 rfl, fun mark => (solid '\uFEFF' mark).2.2 rfl,
    fun character member => (solid character member).1⟩

/-- A text of letters, digits and underscores has nothing beside them. -/
theorem word_lone (input : List Char)
    (allWord : ∀ character ∈ input, Text.isWordCharacter character = true) : IsLone input :=
  named_lone input fun character member => .inl (continue_of_word character (allWord character member))

namespace Lexer

theorem not_in_word (input : List Char)
    (allWord : ∀ character ∈ input, Text.isWordCharacter character = true) (other : Char)
    (notWord : Text.isWordCharacter other = false) : other ∉ input := by
  intro member
  rw [allWord other member] at notWord
  cases notWord

theorem plain_name_split {input name rest : List Char}
    (found : plainName? input = some (name, rest)) : name ++ rest = input := by
  cases input with
  | nil => cases found
  | cons first others =>
      rw [plainName?] at found
      split_ifs at found
      cases found
      rw [List.cons_append, List.takeWhile_append_dropWhile]

theorem any_name_split {input name rest : List Char} (found : anyName? input = some (name, rest)) :
    name ++ rest = input := by
  rw [anyName?] at found
  split at found
  · rename_i inner marked
    rw [Option.bind_eq_bind, Option.bind_eq_some_iff] at found
    obtain ⟨⟨bare, after⟩, plain, found⟩ := found
    dsimp only at found
    split_ifs at found
    cases found
    rw [afterStart?] at marked
    split_ifs at marked with begins
    cases marked
    obtain ⟨tail, rfl⟩ := List.isPrefixOf_iff_prefix.mp begins
    rw [List.drop_left] at plain
    rw [List.cons_append, List.cons_append, plain_name_split plain]
    rfl
  · exact plain_name_split found

/-- The tokens of a text in which nothing is passed over. When a name comes first, it is the
beginning of the text. -/
theorem lex_from_lone {total fuel : Nat} {stack : List (Delimiter × Nat)} {input : List Char}
    {tokens : List Lexeme} (lone : IsLone input)
    (lexed : lexFrom total fuel stack input = .ok tokens) :
    (input = [] ∧ tokens = []) ∨ ∃ first others, tokens = first :: others ∧
      ∀ name, first.token = .name name → ∃ less rest, name.toList ++ rest = input ∧
        lexFrom total less stack rest = .ok others := by
  cases fuel with
  | zero => cases lexed
  | succ fuel =>
      have noSlash : ∀ head ∈ input.head?, head ≠ '/' := by
        rintro _ isFirst rfl
        exact lone.1 (List.mem_of_mem_head? isFirst)
      have kept : skipSeparators input.length input = input :=
        skip_nothing input noSlash _ fun character isFirst =>
          lone.2.2 character (List.mem_of_mem_head? isFirst)
      unfold lexFrom at lexed
      simp only [kept, no_slash_no_doc input noSlash] at lexed
      split at lexed
      · split at lexed
        · cases lexed
          exact .inl ⟨rfl, rfl⟩
        · cases lexed
      · right
        split at lexed
        · obtain ⟨others, _, whole⟩ := bind_ok lexed
          cases whole
          refine ⟨_, others, rfl, fun name absurd => ?_⟩
          cases absurd
        · split at lexed
          · split at lexed
            · cases lexed
            · split at lexed
              · obtain ⟨others, _, whole⟩ := bind_ok lexed
                cases whole
                refine ⟨_, others, rfl, fun name absurd => ?_⟩
                cases absurd
              · cases lexed
          · split at lexed
            · cases lexed
            · rename_i token rest found
              obtain ⟨others, lexedRest, whole⟩ := bind_ok lexed
              cases whole
              refine ⟨_, others, rfl, fun name isName => ?_⟩
              cases isName
              exact ⟨fuel, rest, any_name_split (leaf_any_name found), lexedRest⟩

theorem lex_lone_name {total fuel place : Nat} {input : List Char} {name : String}
    (lone : IsLone input) (lexed : lexFrom total fuel [] input = .ok [⟨.name name, place⟩]) :
    name.toList = input := by
  obtain ⟨_, noTokens⟩ | ⟨first, others, tokens, named⟩ := lex_from_lone lone lexed
  · cases noTokens
  cases tokens
  obtain ⟨less, rest, split, lexedRest⟩ := named name rfl
  obtain ⟨nothing, _⟩ | ⟨first, others, tokens, _⟩ :=
    lex_from_lone (split ▸ lone).rest lexedRest
  · rw [← split, nothing, List.append_nil]
  · cases tokens

end Lexer

/-- A name with nothing beside it is the identifier that it reads as. -/
theorem read_lone_name {text : String} {identifier : Identifier} (lone : IsLone text.toList)
    (read : Identifier.read? text = some identifier) : identifier.text = text := by
  unfold Identifier.read? at read
  split at read
  · rename_i name place lexed
    split_ifs at read
    cases read
    rw [Lexer.lex] at lexed
    split at lexed
    · rename_i rest begins
      exact absurd (begins ▸ List.mem_cons_self) lone.2.1
    · exact String.toList_injective (Lexer.lex_lone_name lone lexed)
  · cases read

/-- The name that an identifier stands for; the mark of a raw one does not belong to it. -/
def Identifier.meaning (identifier : Identifier) : String :=
  match Lexer.afterStart? ['r', '#'] identifier.text.toList with
  | some unmarked => String.ofList unmarked
  | none => identifier.text

theorem unmarked_meaning (identifier : Identifier) (noSign : '#' ∉ identifier.text.toList) :
    identifier.meaning = identifier.text := by
  have unmarked : Lexer.afterStart? ['r', '#'] identifier.text.toList = none := by
    rw [Lexer.afterStart?, if_neg]
    rw [List.isPrefixOf_iff_prefix]
    exact fun marked => noSign (marked.subset (by decide))
  rw [Identifier.meaning, unmarked]

end Recordsmith
