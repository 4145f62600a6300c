import Recordsmith.Proofs.Text.Splitting
import Recordsmith.Text.SnakeCase

/-!
The words of a snake case text. They are made of letters and digits in lower case, so the
underscores between them are the only ones, and joined words can be told apart again.
-/

namespace Recordsmith.Text

/-- The words of a text in lower case. -/
def snakeWords (text : String) : List String :=
  (caseWords text.toList).map fun word => String.ofList (lowerWord word)

/-! ## Characters of words -/

/-- An ASCII character that is neither a letter nor a digit. -/
def IsSign (character : Char) : Prop :=
  0 < character.toNat ∧ character.toNat < 0x80 ∧ character.isAlphanum = false

theorem lower_ascii_alphanumeric (character : Char) (ascii : character.toNat < 0x80)
    (alphanumeric : character.isAlphanum = true) : character.toLower.isAlphanum = true := by
  have all : ∀ code < 0x80, (Char.ofNat code).isAlphanum = true →
      (Char.ofNat code).toLower.isAlphanum = true := by decide
  have lowered := all character.toNat ascii
  rw [Char.ofNat_toNat] at lowered
  exact lowered alphanumeric

theorem run_no_sign (run : CaseRun) (listed : run ∈ caseRuns) (code : Nat)
    (holds : run.holds code = true) : ¬ IsSign (Char.ofNat (code + run.offset).toNat) := by
  -- Only the sign of the unit of temperature has a lower case in ASCII, and that is a letter.
  have bounds : (caseRuns.all fun run => 0x80 ≤ run.first + run.offset ||
      (run.first == run.last &&
        (Char.ofNat (run.first + run.offset).toNat).isAlphanum)) = true := by
    decide +kernel
  simp only [CaseRun.holds, Bool.and_eq_true, decide_eq_true_eq] at holds
  rintro ⟨positive, ascii, noWord⟩
  have bound := List.all_eq_true.mp bounds run listed
  simp only [Bool.or_eq_true, Bool.and_eq_true, decide_eq_true_eq, beq_iff_eq] at bound
  rcases bound with high | ⟨single, letter⟩
  · by_cases valid : (code + run.offset).toNat.isValidChar
    · have same : (Char.ofNat (code + run.offset).toNat).toNat = (code + run.offset).toNat := by
        rw [Char.ofNat, dif_pos valid]
        rfl
      omega
    · rw [Char.ofNat, dif_neg valid] at positive
      cases positive
  · have same : code = run.first := by omega
    rw [same, letter] at noWord
    cases noWord

/-- The lower case of a letter or a digit holds no sign. -/
theorem lower_case_no_sign (character : Char) (alphanumeric : isAlphanumeric character = true)
    (lowered : Char) (member : lowered ∈ lowerCase character) : ¬ IsSign lowered := by
  have aboveNoSign (high : ¬ character.toNat < 0x80) : ¬ IsSign character := fun sign =>
    high sign.2.1
  unfold lowerCase at member
  split_ifs at member with ascii dotted
  · rw [isAlphanumeric, if_pos ascii] at alphanumeric
    rw [List.mem_singleton] at member
    rintro ⟨_, _, noWord⟩
    rw [member, lower_ascii_alphanumeric character ascii alphanumeric] at noWord
    cases noWord
  · simp only [List.mem_cons, List.not_mem_nil, or_false] at member
    rcases member with rfl | rfl <;> (unfold IsSign; decide)
  · cases found : caseRuns.find? (·.holds character.toNat) with
    | none =>
        rw [found, List.mem_singleton] at member
        rw [member]
        exact aboveNoSign ascii
    | some run =>
        rw [found, List.mem_singleton] at member
        rw [member]
        exact run_no_sign run (List.mem_of_find?_eq_some found) _
          (by simpa using List.find?_some found)

theorem lower_word_no_sign (word : List Char)
    (alphanumeric : ∀ character ∈ word, isAlphanumeric character = true)
    (lowered : Char) (member : lowered ∈ lowerWord word) : ¬ IsSign lowered := by
  induction word with
  | nil => cases member
  | cons character rest induction =>
      cases rest with
      | nil =>
          rw [lowerWord] at member
          split_ifs at member
          · rw [List.mem_singleton.mp member]
            unfold IsSign
            decide
          · exact lower_case_no_sign character (alphanumeric character (by simp)) lowered member
      | cons next later =>
          rw [lowerWord, List.mem_append] at member
          rcases member with first | others
          · exact lower_case_no_sign character (alphanumeric character (by simp)) lowered first
          · exact induction (fun other isLater => alphanumeric other (by simp [isLater])) others

/-! ## Words of a run -/

theorem cut_words_character (mode : CaseMode) (word run : List Char) (part : List Char)
    (isPart : part ∈ cutWords mode word run) (character : Char) (member : character ∈ part) :
    character ∈ word ∨ character ∈ run := by
  fun_induction cutWords mode word run with
  | case1 => cases isPart
  | case2 mode word last =>
      rw [List.mem_singleton.mp isPart] at member
      simpa [or_comm] using member
  | case3 mode word first next rest _ induction =>
      rcases List.mem_cons.mp isPart with rfl | later
      · rw [List.mem_reverse, List.mem_cons] at member
        rcases member with rfl | inWord
        · exact .inr (by simp)
        · exact .inl inWord
      · rcases induction later with inWord | inRun
        · cases inWord
        · exact .inr (by simp [inRun])
  | case4 mode word first next rest _ _ induction =>
      rcases List.mem_cons.mp isPart with rfl | later
      · exact .inl (by simpa using member)
      · rcases induction later with inWord | inRun
        · exact .inr (by simp [List.mem_singleton.mp inWord])
        · exact .inr (by simp [inRun])
  | case5 mode word first next rest _ _ induction =>
      rcases induction isPart with inWord | inRun
      · rcases List.mem_cons.mp inWord with rfl | inWord
        · exact .inr (by simp)
        · exact .inl inWord
      · exact .inr (by simp [inRun])

theorem case_word_alphanumeric (text word : List Char) (isWord : word ∈ caseWords text)
    (character : Char) (member : character ∈ word) : isAlphanumeric character = true := by
  obtain ⟨run, isRun, cut⟩ := List.mem_flatMap.mp isWord
  have inRun := (cut_words_character .fresh [] run word cut character member).resolve_left
    List.not_mem_nil
  simpa using (split_character _ _ run isRun character inRun).1

/-- The words of a text hold no signs. -/
theorem snake_word_no_sign (text word : String) (isWord : word ∈ snakeWords text)
    (character : Char) (member : character ∈ word.toList) : ¬ IsSign character := by
  obtain ⟨cased, isCased, rfl⟩ := List.mem_map.mp isWord
  rw [String.toList_ofList] at member
  exact lower_word_no_sign cased (case_word_alphanumeric _ cased isCased) character member

/-! ## Joined words -/

/-- The parts of a snake case text between underscores: its words, or nothing if it has none. -/
def snakeParts (text : String) : List String :=
  match snakeWords text with
  | [] => [""]
  | words => words

theorem snake_part_no_sign (text part : String) (isPart : part ∈ snakeParts text)
    (character : Char) (member : character ∈ part.toList) : ¬ IsSign character := by
  unfold snakeParts at isPart
  split at isPart
  · rw [List.mem_singleton.mp isPart] at member
    cases member
  · exact snake_word_no_sign text part isPart character member

theorem split_snake_case (text : String) :
    (snakeCase text).toList.splitOn '_' = (snakeParts text).map String.toList := by
  have joined : (snakeCase text).toList = ['_'].intercalate ((snakeWords text).map String.toList) :=
    String.toList_intercalate
  rw [joined, snakeParts]
  cases words : snakeWords text with
  | nil => rfl
  | cons word rest =>
      apply List.splitOn_intercalate
      · intro characters listed
        obtain ⟨other, isWord, rfl⟩ := List.mem_map.mp listed
        intro line
        exact snake_word_no_sign text other (by rwa [words]) '_' line (by unfold IsSign; decide)
      · simp

end Recordsmith.Text
