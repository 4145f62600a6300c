import Mathlib.Tactic.SplitIfs
import Recordsmith.Token.Literal

/-!
String literals hold their text. Every character is written in a form that reads as that character
again, so the value of the literal of a text is the text, whatever is in it.
-/

namespace Recordsmith

open Text

namespace Lexer

/-! ## Code points in braces -/

theorem digit_read {digit : Nat} (small : digit < 16) :
    isHexDigit digit.digitChar = true ∧ hexValue digit.digitChar = digit ∧
      digit.digitChar ≠ '_' ∧ digit.digitChar ≠ '}' := by
  revert digit
  decide

theorem braced_digit {count digit : Nat} (value : Nat) (rest : List Char) (room : count < 6)
    (small : digit < 16) :
    bracedCodePoint? count value (digit.digitChar :: rest) =
      bracedCodePoint? (count + 1) (value * 16 + digit) rest := by
  obtain ⟨isHex, same, notLine, notBrace⟩ := digit_read small
  rw [bracedCodePoint?]
  simp [isHex, same, notLine, notBrace, room]

/-- The digits of a number are read as that number. -/
theorem braced_digits (number : Nat) (rest : List Char)
    (few : (Nat.toDigits 16 number).length ≤ 6) :
    bracedCodePoint? 0 0 (Nat.toDigits 16 number ++ rest) =
      bracedCodePoint? (Nat.toDigits 16 number).length number rest := by
  induction number using Nat.strongRecOn generalizing rest with
  | ind number induction =>
      by_cases small : number < 16
      · rw [Nat.toDigits_of_lt_base small]
        exact (braced_digit 0 rest (by decide) small).trans (by simp)
      · have digits := Nat.toDigits_of_base_le (by decide) (Nat.le_of_not_lt small)
        have count : (Nat.toDigits 16 number).length =
            (Nat.toDigits 16 (number / 16)).length + 1 := by
          rw [digits, List.length_append, List.length_singleton]
        rw [count, digits, List.append_assoc, List.singleton_append,
          induction (number / 16) (by omega) _ (by omega),
          braced_digit _ _ (by omega) (Nat.mod_lt _ (by decide))]
        congr 1
        omega

theorem braced_character (character : Char) (rest : List Char) :
    bracedCodePoint? 0 0 (Nat.toDigits 16 character.toNat ++ '}' :: rest) =
      some (character.toNat, rest) := by
  have valid : character.toNat.isValidChar := character.valid
  have few : (Nat.toDigits 16 character.toNat).length ≤ 6 := by
    rw [Nat.length_toDigits_le_iff (by decide) (by decide)]
    rcases valid with low | ⟨_, high⟩ <;> omega
  have filled : 0 < (Nat.toDigits 16 character.toNat).length := Nat.length_toDigits_pos
  rw [braced_digits _ _ few, bracedCodePoint?]
  simp [filled, valid]

end Lexer

namespace Literal

open Lexer

/-- An escape is read as the character that it stands for. -/
theorem cooked_escape {fuel code : Nat} (escape : List Char) {rest value after : List Char}
    (read : escape? .text escape = some (code, rest))
    (others : cookedValue? fuel rest = some (value, after)) :
    cookedValue? (fuel + 1) ('\\' :: escape) = some (Char.ofNat code :: value, after) := by
  rw [cookedValue?, read, Option.bind_some]
  · dsimp only
    rw [others]
    rfl
  · rintro _ rfl
    cases read
  · rintro _ rfl
    cases read

/-- Any other character is read as it stands, apart from a quote and a carriage return. -/
theorem cooked_plain {fuel : Nat} {character : Char} {rest value after : List Char}
    (noQuote : character ≠ '"') (noEscape : character ≠ '\\') (noReturn : character ≠ '\r')
    (others : cookedValue? fuel rest = some (value, after)) :
    cookedValue? (fuel + 1) (character :: rest) = some (character :: value, after) := by
  rw [cookedValue?]
  · dsimp only
    rw [others]
    rfl
  · exact noQuote
  · exact fun _ isReturn _ => noReturn isReturn
  · exact fun _ isEscape _ => noEscape isEscape
  · exact fun _ isEscape _ => noEscape isEscape
  · exact noEscape

theorem cooked_code_point {fuel : Nat} {character : Char} {rest value after : List Char}
    (others : cookedValue? fuel rest = some (value, after)) :
    cookedValue? (fuel + 1) (codePointEscape character ++ rest) =
      some (character :: value, after) := by
  have read : escape? .text ('u' :: '{' :: (Nat.toDigits 16 character.toNat ++ '}' :: rest)) =
      some (character.toNat, rest) := by
    rw [escape?, braced_character]
    rfl
  have whole := cooked_escape _ read others
  rw [Char.ofNat_toNat] at whole
  simpa [codePointEscape] using whole

theorem is_null {character : Char} (null : character.toNat = 0) : character = Char.ofNat 0 := by
  rw [← null, Char.ofNat_toNat]

/-- The written form of a character is read as that character. -/
theorem cooked_character {fuel : Nat} (character : Char) {rest value after : List Char}
    (others : cookedValue? fuel rest = some (value, after)) :
    cookedValue? (fuel + 1) (escapeCharacter character ++ rest) =
      some (character :: value, after) := by
  by_cases quote : character = '"'
  · subst quote
    exact cooked_escape ('"' :: rest) rfl others
  by_cases escape : character = '\\'
  · subst escape
    exact cooked_escape ('\\' :: rest) rfl others
  by_cases line : character = '\n'
  · subst line
    exact cooked_escape ('n' :: rest) rfl others
  by_cases tab : character = '\t'
  · subst tab
    exact cooked_escape ('t' :: rest) rfl others
  by_cases ret : character = '\r'
  · subst ret
    exact cooked_escape ('r' :: rest) rfl others
  by_cases null : character.toNat = 0
  · rw [is_null null]
    exact cooked_escape ('0' :: rest) rfl others
  simp only [escapeCharacter, beq_iff_eq, quote, escape, line, tab, ret, null, if_false]
  split_ifs
  · exact cooked_code_point others
  · exact cooked_plain quote escape ret others

/-- The body of a literal is read as the characters that it was written for. -/
theorem cooked_body (characters rest : List Char) (fuel : Nat) (enough : characters.length < fuel) :
    cookedValue? fuel (literalBody characters ++ '"' :: rest) = some (characters, rest) := by
  induction characters generalizing fuel with
  | nil =>
      obtain ⟨more, rfl⟩ := Nat.exists_eq_add_of_lt enough
      rfl
  | cons character others induction =>
      rw [List.length_cons] at enough
      obtain ⟨more, rfl⟩ : ∃ more, fuel = more + 1 := ⟨fuel - 1, by omega⟩
      have read := induction more (by omega)
      rw [literalBody, List.append_assoc]
      split_ifs with null
      · have isNull : character.toNat = 0 := by
          rw [Bool.and_eq_true, beq_iff_eq] at null
          exact null.1
        rw [is_null isNull]
        exact cooked_escape ('x' :: '0' :: '0' :: _) rfl read
      · exact cooked_character character read

theorem written_not_empty (character : Char) : 0 < (escapeCharacter character).length := by
  unfold escapeCharacter codePointEscape
  split_ifs <;> simp

theorem body_length (characters : List Char) :
    characters.length ≤ (literalBody characters).length := by
  induction characters with
  | nil => exact Nat.le_refl 0
  | cons character others induction =>
      have written := written_not_empty character
      rw [literalBody, List.length_append, List.length_cons]
      split_ifs
      · simp
        omega
      · omega

/-- The value of the literal of a text is the text. -/
theorem string_value (text : String) : stringValue? (stringLiteral text) = some (text, "") := by
  have room := body_length text.toList
  have enough : text.toList.length < (literalBody text.toList ++ ['"']).length + 1 := by
    rw [List.length_append]
    omega
  have read := cooked_body text.toList [] _ enough
  rw [stringValue?, stringLiteral, String.toList_ofList]
  change (cookedValue? _ _).map _ = _
  rw [read, Option.map_some]
  dsimp only
  rw [String.ofList_toList]

end Literal

end Recordsmith
