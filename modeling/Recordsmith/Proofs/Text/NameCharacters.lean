import Mathlib.Data.List.TakeWhile
import Recordsmith.Text.IdentifierCharacters
import Recordsmith.Token.Lexer

/-!
The tables of the characters that names are made of. A table is compared with another one run by
run, which is checked once; what holds of the runs holds of the characters in them. So whatever
begins a name may go on with it, and nothing that goes on with a name stands between names.
-/

namespace Recordsmith

open Text

/-! ## Tables -/

namespace Text.Ranges

theorem contains_iff (ranges : Ranges) (character : Char) :
    ranges.contains character = true ↔
      ∃ run ∈ ranges, run.1 ≤ character.toNat ∧ character.toNat ≤ run.2 := by
  simp [contains]

/-- Whether every run lies in one of other runs. Both are walked through in ascending order. -/
def within : Ranges → Ranges → Bool
  | runs, [] => runs.isEmpty
  | runs, wider :: others =>
      within (runs.dropWhile fun run => Nat.ble wider.1 run.1 && Nat.ble run.2 wider.2) others

theorem within_run (runs wider : Ranges) (isWithin : within runs wider = true) :
    ∀ run ∈ runs, ∃ other ∈ wider, other.1 ≤ run.1 ∧ run.2 ≤ other.2 := by
  induction wider generalizing runs with
  | nil =>
      intro run member
      rw [within, List.isEmpty_iff] at isWithin
      rw [isWithin] at member
      cases member
  | cons first others induction =>
      intro run member
      rw [within] at isWithin
      let fits : Nat × Nat → Bool := fun run => Nat.ble first.1 run.1 && Nat.ble run.2 first.2
      rw [← List.takeWhile_append_dropWhile (p := fits) (l := runs)] at member
      rcases List.mem_append.mp member with taken | left
      · have inFirst := List.mem_takeWhile_imp taken
        simp only [fits, Bool.and_eq_true, Nat.ble_eq] at inFirst
        exact ⟨first, List.mem_cons_self, inFirst⟩
      · obtain ⟨other, otherMember, inOther⟩ := induction _ isWithin run left
        exact ⟨other, List.mem_cons_of_mem first otherMember, inOther⟩

theorem within_contains {runs wider : Ranges} (isWithin : within runs wider = true)
    {character : Char} (contained : runs.contains character = true) :
    wider.contains character = true := by
  rw [contains_iff] at contained ⊢
  obtain ⟨run, member, lower, upper⟩ := contained
  obtain ⟨other, otherMember, below, above⟩ := within_run runs wider isWithin run member
  exact ⟨other, otherMember, by omega, by omega⟩

/-- Whether no run meets one of other runs. -/
def apart (runs others : Ranges) : Bool :=
  runs.all fun run => others.all fun other => Nat.blt run.2 other.1 || Nat.blt other.2 run.1

theorem apart_not_contains {runs others : Ranges} (areApart : apart runs others = true)
    {character : Char} (contained : runs.contains character = true) :
    others.contains character = false := by
  rw [← Bool.not_eq_true]
  intro containedToo
  rw [contains_iff] at contained containedToo
  obtain ⟨run, member, lower, upper⟩ := contained
  obtain ⟨other, otherMember, below, above⟩ := containedToo
  have noMeeting := List.all_eq_true.mp (List.all_eq_true.mp areApart run member) other otherMember
  simp only [Bool.or_eq_true, Nat.blt_eq] at noMeeting
  omega

end Text.Ranges

/-! ## Characters above and below ASCII -/

theorem letter_code (character : Char) (letter : character.isAlpha = true) :
    0x41 ≤ character.toNat ∧ character.toNat < 0x80 := by
  delta Char.isAlpha Char.isUpper Char.isLower at letter
  simp only [Bool.or_eq_true, Bool.and_eq_true, decide_eq_true_eq, UInt32.le_iff_toNat_le,
    ge_iff_le] at letter
  change (0x41 ≤ character.toNat ∧ character.toNat ≤ 0x5A) ∨
    (0x61 ≤ character.toNat ∧ character.toNat ≤ 0x7A) at letter
  omega

theorem digit_code (character : Char) (digit : character.isDigit = true) :
    0x30 ≤ character.toNat ∧ character.toNat < 0x3A := by
  simp only [Char.isDigit, Bool.and_eq_true, decide_eq_true_eq, UInt32.le_iff_toNat_le,
    ge_iff_le] at digit
  change 0x30 ≤ character.toNat ∧ character.toNat ≤ 0x39 at digit
  omega

theorem word_code (character : Char) (isWord : isWordCharacter character = true) :
    0x30 ≤ character.toNat ∧ character.toNat < 0x80 := by
  simp only [isWordCharacter, Char.isAlphanum, Bool.or_eq_true, beq_iff_eq] at isWord
  rcases isWord with (letter | digit) | rfl
  · have code := letter_code character letter
    omega
  · have code := digit_code character digit
    omega
  · decide

theorem word_is_ascii (character : Char) (isWord : isWordCharacter character = true) :
    character.toNat < 0x80 := (word_code character isWord).2

theorem continue_of_word (character : Char) (isWord : isWordCharacter character = true) :
    isIdentifierContinue character = true := by
  rw [isIdentifierContinue, if_pos (word_is_ascii character isWord), isWord]

theorem word_of_start (character : Char) (starts : isIdentifierStart character = true)
    (ascii : character.toNat < 0x80) : isWordCharacter character = true := by
  rw [isIdentifierStart, if_pos ascii, Bool.or_eq_true] at starts
  rw [isWordCharacter, Bool.or_eq_true, Char.isAlphanum, Bool.or_eq_true]
  exact starts.imp_left .inl

theorem word_of_continue (character : Char) (goesOn : isIdentifierContinue character = true)
    (ascii : character.toNat < 0x80) : isWordCharacter character = true := by
  rw [isIdentifierContinue, if_pos ascii] at goesOn
  exact goesOn

/-- Whatever begins a name may go on with it. -/
theorem continue_of_start (character : Char) (starts : isIdentifierStart character = true) :
    isIdentifierContinue character = true := by
  by_cases ascii : character.toNat < 0x80
  · exact continue_of_word character (word_of_start character starts ascii)
  · rw [isIdentifierStart, if_neg ascii] at starts
    rw [isIdentifierContinue, if_neg ascii]
    have isWithin : Text.Ranges.within identifierStartRanges identifierContinueRanges = true := by
      decide +kernel
    exact Text.Ranges.within_contains isWithin starts

/-- What is passed over above ASCII: blanks, the two direction marks and the byte order mark. -/
def passedRanges : Text.Ranges :=
  [(0x85, 0x85), (0xA0, 0xA0), (0x1680, 0x1680), (0x2000, 0x200A), (0x200E, 0x200F),
    (0x2028, 0x2029), (0x202F, 0x202F), (0x205F, 0x205F), (0x3000, 0x3000), (0xFEFF, 0xFEFF)]

/-- What goes on with a name is no blank, no direction mark and no byte order mark. -/
theorem continue_not_passed (character : Char) (goesOn : isIdentifierContinue character = true) :
    Lexer.isSeparator character = false ∧ character ≠ '\uFEFF' := by
  by_cases ascii : character.toNat < 0x80
  · rw [isIdentifierContinue, if_pos ascii] at goesOn
    have code := word_code character goesOn
    constructor
    · simp [Lexer.isSeparator, isBlank, code.2]
      omega
    · rintro rfl
      revert ascii
      decide
  · rw [isIdentifierContinue, if_neg ascii] at goesOn
    have areApart : Text.Ranges.apart passedRanges identifierContinueRanges = true := by
      decide +kernel
    have notPassed : passedRanges.contains character = false := by
      rw [← Bool.not_eq_true]
      intro passed
      rw [Text.Ranges.apart_not_contains areApart passed] at goesOn
      cases goesOn
    constructor
    · rw [← Bool.not_eq_true]
      intro separates
      simp only [Lexer.isSeparator, isBlank, ascii, if_false, Bool.or_eq_true, beq_iff_eq,
        Bool.and_eq_true, decide_eq_true_eq] at separates
      rw [← Bool.not_eq_true] at notPassed
      apply notPassed
      simp only [passedRanges, Text.Ranges.contains, List.any_cons, List.any_nil, Bool.or_eq_true,
        Bool.and_eq_true, decide_eq_true_eq]
      omega
    · rintro rfl
      revert notPassed
      decide

end Recordsmith
