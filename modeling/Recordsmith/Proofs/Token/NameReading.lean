import Recordsmith.Proofs.Token.Names

/-!
Reading names back. Whatever stands behind a name, the name is read as the one token that it is, as
long as nothing there goes on with the name and no sign makes a literal of its letters.
-/

namespace Recordsmith

open Text

namespace Lexer

/-! ## Where no comment begins -/

/-- A text that begins with another character does not begin with `start`. -/
theorem other_head_not_start (input : List Char) (start : String) (first : Char)
    (begins : start.toList.head? = some first) (other : ∀ head ∈ input.head?, head ≠ first) :
    startsWith start input = false := by
  obtain ⟨rest, whole⟩ := List.head?_eq_some_iff.mp begins
  rw [startsWith, whole]
  cases input with
  | nil => rfl
  | cons head tail =>
      have different : (first == head) = false :=
        beq_false_of_ne fun same => other head rfl same.symm
      rw [List.isPrefixOf, different, Bool.false_and]

section

variable (input : List Char) (noSlash : ∀ head ∈ input.head?, head ≠ '/')

include noSlash

theorem no_slash_no_doc : docComment? input = none := by
  simp only [docComment?, other_head_not_start input "//!" '/' rfl noSlash,
    other_head_not_start input "/*!" '/' rfl noSlash,
    other_head_not_start input "///" '/' rfl noSlash,
    other_head_not_start input "/**" '/' rfl noSlash]
  rfl

theorem no_slash_no_comment : plainComment? input = none := by
  simp only [plainComment?, other_head_not_start input "//" '/' rfl noSlash,
    other_head_not_start input "/**/" '/' rfl noSlash,
    other_head_not_start input "/*" '/' rfl noSlash]
  rfl

/-- Nothing is passed over in front of a character that is no blank. -/
theorem skip_nothing (fuel : Nat)
    (noBlank : ∀ head ∈ input.head?, isSeparator head = false) :
    skipSeparators fuel input = input := by
  cases fuel with
  | zero => rfl
  | succ fuel =>
      cases input with
      | nil => rfl
      | cons head tail =>
          rw [skipSeparators, no_slash_no_comment _ noSlash]
          simp [noBlank head rfl]

end

/-! ## Where no literal begins -/

theorem raw_begins {kind : QuotedKind} {input rest : List Char}
    (found : raw? kind input = some rest) :
    ['"'] <+: input ∨ ['#', '"'] <+: input ∨ ['#', '#'] <+: input := by
  unfold raw? at found
  dsimp only at found
  split at found
  · rename_i body quoted
    have whole := List.takeWhile_append_dropWhile (p := (· == '#')) (l := input)
    rw [quoted] at whole
    rw [← whole]
    have signs : ∀ sign ∈ input.takeWhile (· == '#'), sign = '#' := by
      intro sign member
      simpa using List.mem_takeWhile_imp member
    match inFront : input.takeWhile (· == '#') with
    | [] => exact .inl ⟨body, rfl⟩
    | [sign] =>
        rw [inFront] at signs
        rw [signs sign (by simp)]
        exact .inr (.inl ⟨body, rfl⟩)
    | sign :: other :: more =>
        rw [inFront] at signs
        rw [signs sign (by simp), signs other (by simp)]
        exact .inr (.inr ⟨more ++ '"' :: body, rfl⟩)
  · cases found

theorem starts_with {input : List Char} (start : String)
    (begins : start.toList <+: input) : startsWith start input = true :=
  List.isPrefixOf_iff_prefix.mpr begins

/-- A literal in double quotes begins with a quote, or with one of the beginnings that no name is
read from. -/
theorem double_quoted_begins {input rest : List Char} (found : doubleQuoted? input = some rest) :
    startsWith "\"" input = true ∨ literalStarts.any (startsWith · input) = true := by
  have listed (start : String) (member : start ∈ literalStarts) (begins : start.toList <+: input) :
      startsWith "\"" input = true ∨ literalStarts.any (startsWith · input) = true :=
    .inr (List.any_eq_true.mpr ⟨start, member, starts_with start begins⟩)
  have sign {other : Char} {tail : List Char} (begins : ['#', other] <+: tail) : ['#'] <+: tail :=
    (List.prefix_append ['#'] [other]).trans begins
  unfold doubleQuoted? at found
  split at found
  · exact .inl (starts_with "\"" (List.prefix_append ['"'] _))
  · rcases raw_begins found with begins | begins | begins
    · exact listed "r\"" (by decide) ((List.prefix_append_right_inj ['r']).mpr begins)
    · exact listed "r#\"" (by decide) ((List.prefix_append_right_inj ['r']).mpr begins)
    · exact listed "r##" (by decide) ((List.prefix_append_right_inj ['r']).mpr begins)
  · exact listed "b\"" (by decide) (List.prefix_append ['b', '"'] _)
  · rcases raw_begins found with begins | begins | begins
    · exact listed "br\"" (by decide) ((List.prefix_append_right_inj ['b', 'r']).mpr begins)
    · exact listed "br#" (by decide) ((List.prefix_append_right_inj ['b', 'r']).mpr (sign begins))
    · exact listed "br#" (by decide) ((List.prefix_append_right_inj ['b', 'r']).mpr (sign begins))
  · exact listed "c\"" (by decide) (List.prefix_append ['c', '"'] _)
  · rcases raw_begins found with begins | begins | begins
    · exact listed "cr\"" (by decide) ((List.prefix_append_right_inj ['c', 'r']).mpr begins)
    · exact listed "cr#" (by decide) ((List.prefix_append_right_inj ['c', 'r']).mpr (sign begins))
    · exact listed "cr#" (by decide) ((List.prefix_append_right_inj ['c', 'r']).mpr (sign begins))
  · cases found

theorem single_quoted_begins {input rest : List Char} (found : singleQuoted? input = some rest) :
    startsWith "'" input = true ∨ literalStarts.any (startsWith · input) = true := by
  unfold singleQuoted? at found
  dsimp only at found
  split at found
  · exact .inr (List.any_eq_true.mpr ⟨"b'", by decide,
      starts_with "b'" (List.prefix_append ['b', '\''] _)⟩)
  · exact .inl (starts_with "'" (List.prefix_append ['\''] _))
  · cases found

/-- A number begins with a digit. -/
theorem no_digit_no_number (head : Char) (tail : List Char) (notDigit : head.isDigit = false) :
    fractionalDigits? (head :: tail) = none ∧ basedDigits? (head :: tail) = none := by
  constructor
  · simp [fractionalDigits?, notDigit]
  · have notZero : head ≠ '0' := by
      rintro rfl
      revert notDigit
      decide
    have large : ¬ hexValue head < 10 := by
      rw [hexValue, if_neg (by simp [notDigit])]
      split_ifs <;> omega
    have noBase : basedDigits? (head :: tail) = wholeDigits? 10 true (head :: tail) := by
      simp [basedDigits?, startsWith, List.isPrefixOf, Ne.symm notZero]
    rw [noBase, wholeDigits?]
    simp [notDigit, large]

/-- No literal begins where there is neither a digit nor a quote, nor a beginning that no name is
read from. -/
theorem no_literal (head : Char) (tail : List Char) (notDigit : head.isDigit = false)
    (noQuote : head ≠ '"' ∧ head ≠ '\'')
    (noStart : literalStarts.any (startsWith · (head :: tail)) = false) :
    literal? (head :: tail) = none := by
  have noDouble : doubleQuoted? (head :: tail) = none := by
    cases found : doubleQuoted? (head :: tail) with
    | none => rfl
    | some rest =>
        rcases double_quoted_begins found with quote | start
        · rw [other_head_not_start _ "\"" '"' rfl (by simpa using noQuote.1)] at quote
          cases quote
        · rw [noStart] at start
          cases start
  have noSingle : singleQuoted? (head :: tail) = none := by
    cases found : singleQuoted? (head :: tail) with
    | none => rfl
    | some rest =>
        rcases single_quoted_begins found with quote | start
        · rw [other_head_not_start _ "'" '\'' rfl (by simpa using noQuote.2)] at quote
          cases quote
        · rw [noStart] at start
          cases start
  obtain ⟨noFraction, noBase⟩ := no_digit_no_number head tail notDigit
  rw [literal?, noDouble, noSingle]
  simp [number?, noFraction, noBase]

theorem no_mark_no_punctuation (head : Char) (tail : List Char) (notMark : isMark head = false) :
    punctuation? (head :: tail) = none := by
  have noMark : mark? (head :: tail) = none := by
    simp [mark?, notMark]
  simp [punctuation?, noMark]

/-! ## Where a name ends -/

/-- The signs that make a literal of the letters in front of them. -/
def literalSigns : List Char := ['"', '\'', '#']

/-- Nothing here goes on with a name, and no sign makes a literal of it. -/
def EndsName (rest : List Char) : Prop :=
  ∀ next ∈ rest.head?, isIdentifierContinue next = false ∧ next ∉ literalSigns

theorem sign_not_in_name {sign : Char} (isSign : sign ∈ literalSigns) :
    isIdentifierContinue sign = false := by
  simp only [literalSigns, List.mem_cons, List.not_mem_nil, or_false] at isSign
  rcases isSign with rfl | rfl | rfl <;> decide

/-- Letters that a name begins with do not go over to a sign. -/
theorem no_sign_after_letters (body rest word : List Char) (sign : Char) (more : List Char)
    (goesOn : ∀ character ∈ body, isIdentifierContinue character = true) (ends : EndsName rest)
    (letters : ∀ character ∈ word, isIdentifierContinue character = true)
    (isSign : sign ∈ literalSigns) : ¬ word ++ sign :: more <+: body ++ rest := by
  induction body generalizing word with
  | nil =>
      rintro ⟨after, rfl⟩
      cases word with
      | nil => exact (ends sign rfl).2 isSign
      | cons letter others =>
          have stops := (ends letter rfl).1
          rw [letters letter List.mem_cons_self] at stops
          cases stops
  | cons head tail induction =>
      intro begins
      cases word with
      | nil =>
          obtain ⟨same, _⟩ := List.cons_prefix_cons.mp begins
          have stops := sign_not_in_name isSign
          rw [same, goesOn head List.mem_cons_self] at stops
          cases stops
      | cons letter others =>
          exact induction others (fun character member => goesOn character (by simp [member]))
            (fun character member => letters character (by simp [member]))
            (List.cons_prefix_cons.mp begins).2

theorem all_go_on {first : Char} {others : List Char} (starts : isIdentifierStart first = true)
    (goesOn : ∀ character ∈ others, isIdentifierContinue character = true) :
    ∀ character ∈ first :: others, isIdentifierContinue character = true :=
  List.forall_mem_cons.mpr ⟨continue_of_start first starts, goesOn⟩

/-- The mark of a raw name begins with a letter as well. -/
theorem name_head {text : String} (isName : IsName text) :
    ∃ head tail, text.toList = head :: tail ∧ isIdentifierStart head = true := by
  obtain ⟨first, others, starts, _, plain | ⟨raw, _⟩⟩ := name_cases isName
  · exact ⟨first, others, plain, starts⟩
  · exact ⟨'r', _, raw, by decide⟩

/-- No name, plain or raw, begins like a literal. -/
theorem name_no_literal_start {text : String} (isName : IsName text) (rest : List Char)
    (ends : EndsName rest) : literalStarts.any (startsWith · (text.toList ++ rest)) = false := by
  obtain ⟨first, others, starts, goesOn, plain | ⟨raw, _⟩⟩ := name_cases isName
  · rw [List.any_eq_false]
    intro start listed begins
    have split : ∀ start ∈ literalStarts, (start.toList.dropWhile isIdentifierContinue).head?.any
        literalSigns.contains = true := by decide
    obtain ⟨sign, signed, isSign⟩ := (Option.any_eq_true _ _).mp (split start listed)
    obtain ⟨more, behind⟩ := List.head?_eq_some_iff.mp signed
    have whole := List.takeWhile_append_dropWhile (p := isIdentifierContinue) (l := start.toList)
    rw [startsWith, List.isPrefixOf_iff_prefix, ← whole, behind, plain] at begins
    exact no_sign_after_letters (first :: others) rest _ sign more (all_go_on starts goesOn) ends
      (fun character member => List.mem_takeWhile_imp member) (List.contains_iff_mem.mp isSign)
      begins
  · have notSign : ∀ sign : Char, isIdentifierStart sign = false → ¬ sign = first := by
      rintro sign never rfl
      rw [starts] at never
      cases never
    rw [raw]
    simp [literalStarts, startsWith, List.isPrefixOf, notSign '#' (by decide),
      notSign '"' (by decide)]

section

variable {first : Char} {others rest : List Char} (starts : isIdentifierStart first = true)
  (goesOn : ∀ character ∈ others, isIdentifierContinue character = true) (ends : EndsName rest)

include starts goesOn ends

theorem plain_name_found : plainName? (first :: (others ++ rest)) = some (first :: others, rest) := by
  have nothing : rest.takeWhile isIdentifierContinue = [] ∧
      rest.dropWhile isIdentifierContinue = rest := by
    cases rest with
    | nil => exact ⟨rfl, rfl⟩
    | cons next tail =>
        have stops := (ends next rfl).1
        exact ⟨by simp [stops], by simp [stops]⟩
  rw [plainName?, if_pos starts, List.takeWhile_append_of_pos goesOn,
    List.dropWhile_append_of_pos goesOn, nothing.1, nothing.2, List.append_nil]

theorem unmarked_name_found :
    anyName? (first :: (others ++ rest)) = some (first :: others, rest) := by
  have notRaw : afterStart? ['r', '#'] (first :: (others ++ rest)) = none := by
    rw [afterStart?, if_neg]
    rw [List.isPrefixOf_iff_prefix]
    exact no_sign_after_letters (first :: others) rest ['r'] '#' [] (all_go_on starts goesOn) ends
      (List.forall_mem_singleton.mpr (by decide)) (by decide)
  rw [anyName?, notRaw]
  exact plain_name_found starts goesOn ends

end

/-- A name is found again in front of anything that ends it. -/
theorem any_name_again {text : String} (isName : IsName text) (rest : List Char)
    (ends : EndsName rest) : anyName? (text.toList ++ rest) = some (text.toList, rest) := by
  obtain ⟨first, others, starts, goesOn, plain | ⟨raw, notNever⟩⟩ := name_cases isName
  · rw [plain, List.cons_append]
    exact unmarked_name_found starts goesOn ends
  · have unmarked : afterStart? ['r', '#'] ('r' :: '#' :: first :: (others ++ rest)) =
        some (first :: (others ++ rest)) := rfl
    rw [raw, List.cons_append, List.cons_append, List.cons_append, anyName?, unmarked]
    dsimp only
    rw [plain_name_found starts goesOn ends, Option.bind_eq_bind, Option.bind_some]
    dsimp only
    rw [notNever, if_neg Bool.false_ne_true]

theorem is_name_iff {text : String} :
    IsName text ↔ anyName? text.toList = some (text.toList, []) := by
  refine ⟨fun isName => ?_, fun found => ⟨text.toList, [], found⟩⟩
  have again := any_name_again isName [] fun _ absurd => nomatch absurd
  rwa [List.append_nil] at again

instance (text : String) : Decidable (IsName text) := decidable_of_iff _ is_name_iff.symm

instance (text : String) : Decidable (IsFreeName text) :=
  inferInstanceAs (Decidable (IsName text ∧ text ∉ Identifier.reserved))

/-- With groups of the given kinds open, a text is read as the given tokens, wherever it stands. -/
def LexesTo (groups : List Delimiter) (input : List Char) (tokens : List Token) : Prop :=
  tokens.length ≤ input.length ∧ ∀ total fuel stack, stack.map Prod.fst = groups →
    tokens.length < fuel → ∃ lexemes, lexFrom total fuel stack input = .ok lexemes ∧
      lexemes.map Lexeme.token = tokens

/-- Lexemes whose tokens are known are taken apart one by one. -/
theorem lexeme_of_token {lexemes : List Lexeme} {token : Token} {tokens : List Token}
    (same : lexemes.map Lexeme.token = token :: tokens) :
    ∃ place behind, lexemes = ⟨token, place⟩ :: behind ∧ behind.map Lexeme.token = tokens := by
  obtain ⟨⟨_, place⟩, behind, rfl, rfl, sameBehind⟩ := List.map_eq_cons_iff.mp same
  exact ⟨place, behind, rfl, sameBehind⟩

theorem some_fuel {used fuel : Nat} (enough : used < fuel) : ∃ less, fuel = less + 1 :=
  ⟨fuel - 1, by omega⟩

theorem lexes_nothing : LexesTo [] [] [] := by
  refine ⟨Nat.le_refl 0, ?_⟩
  intro total fuel stack same enough
  obtain ⟨less, rfl⟩ := some_fuel enough
  rw [List.map_eq_nil_iff.mp same]
  exact ⟨[], rfl, rfl⟩

variable {groups : List Delimiter} {rest : List Char} {tokens : List Token}

section

variable {head : Char} {tail : List Char}

theorem lexes_token {token : Token} {inner : List Delimiter}
    (step : ∀ total less stack, stack.map Prod.fst = groups → ∃ left,
      left.map Prod.fst = inner ∧ lexFrom total (less + 1) stack (head :: tail) = (do
        let others ← lexFrom total less left rest
        .ok (⟨token, total - (head :: tail).length⟩ :: others)))
    (shorter : rest.length ≤ tail.length) (lexes : LexesTo inner rest tokens) :
    LexesTo groups (head :: tail) (token :: tokens) := by
  obtain ⟨bound, lexes⟩ := lexes
  refine ⟨by simp only [List.length_cons]; omega, ?_⟩
  intro total fuel stack same enough
  rw [List.length_cons] at enough
  obtain ⟨less, rfl⟩ := some_fuel enough
  obtain ⟨left, sameLeft, read⟩ := step total less stack same
  obtain ⟨lexemes, lexed, plain⟩ := lexes total less left sameLeft (by omega)
  refine ⟨⟨token, total - (head :: tail).length⟩ :: lexemes, ?_, by rw [List.map_cons, plain]⟩
  rw [read, lexed]
  rfl

variable (noBlank : isSeparator head = false) (noSlash : head ≠ '/')

include noBlank noSlash

/-- Nothing is passed over in front of a character that is neither a blank nor a slash. -/
theorem solid_head (tail : List Char) (fuel : Nat) :
    skipSeparators fuel (head :: tail) = head :: tail ∧ docComment? (head :: tail) = none :=
  ⟨skip_nothing _ (by simpa using noSlash) fuel (by simpa using noBlank),
    no_slash_no_doc _ (by simpa using noSlash)⟩

theorem lexes_leaf {token : Token} (noOpening : opening? (head :: tail) = none)
    (noClosing : closingOf? head = none) (leaf : leaf? (head :: tail) = some (token, rest))
    (shorter : rest.length ≤ tail.length) (lexes : LexesTo groups rest tokens) :
    LexesTo groups (head :: tail) (token :: tokens) := by
  refine lexes_token (fun total less stack same => ⟨stack, same, ?_⟩) shorter lexes
  obtain ⟨kept, noDoc⟩ := solid_head noBlank noSlash tail (head :: tail).length
  conv_lhs => unfold lexFrom
  simp only [kept, noDoc, noOpening, noClosing, leaf]

end

/-- A name in front of what ends it. -/
theorem lexes_name {text : String} (isName : IsName text) (ends : EndsName rest)
    (lexes : LexesTo groups rest tokens) :
    LexesTo groups (text.toList ++ rest) (.name text :: tokens) := by
  have again := any_name_again isName rest ends
  have noStart := name_no_literal_start isName rest ends
  obtain ⟨head, tail, whole, starts⟩ := name_head isName
  have other : ∀ character, isIdentifierStart character = false → head ≠ character := by
    rintro character never rfl
    rw [starts] at never
    cases never
  have unlisted (listed : List Char) (never : listed.any isIdentifierStart = false) :
      listed.contains head = false := by
    rw [← Bool.not_eq_true, List.contains_iff_mem]
    exact fun member => List.any_eq_false.mp never head member starts
  have notDigit : head.isDigit = false := by
    rw [← Bool.not_eq_true]
    intro digit
    have code := digit_code head digit
    rw [isIdentifierStart, if_pos (by omega), Bool.or_eq_true, beq_iff_eq] at starts
    rcases starts with letter | rfl
    · have letterCode := letter_code head letter
      omega
    · revert digit
      decide
  have leaf : leaf? (text.toList ++ rest) = some (.name text, rest) := by
    rw [leaf?, name?, noStart, if_neg Bool.false_ne_true, again]
    rw [whole, List.cons_append] at noStart ⊢
    rw [no_literal head (tail ++ rest) notDigit ⟨other _ (by decide), other _ (by decide)⟩ noStart,
      no_mark_no_punctuation head (tail ++ rest) (unlisted _ (by decide))]
    change some (Token.name (String.ofList (head :: tail)), rest) = _
    rw [← whole, String.ofList_toList]
  rw [whole, List.cons_append] at leaf ⊢
  have noOpening : opening? (head :: (tail ++ rest)) = none := by
    rw [opening?, other_head_not_start _ faultMark '(' rfl (by simpa using other '(' (by decide))]
    simp [Delimiter.openingCharacter, other '(' (by decide), other '[' (by decide),
      other '{' (by decide)]
  have noClosing : closingOf? head = none := by
    simp [closingOf?, Delimiter.closingCharacter, Ne.symm (other ')' (by decide)),
      Ne.symm (other ']' (by decide)), Ne.symm (other '}' (by decide))]
  exact lexes_leaf (continue_not_passed head (continue_of_start head starts)).1
    (other '/' (by decide)) noOpening noClosing leaf (by simp) lexes

/-- A text without a byte order mark is read as the tokens that it is read as wherever it stands. -/
theorem lex_of_lexes {text : String} (noMark : ∀ head ∈ text.toList.head?, head ≠ '\uFEFF')
    (lexes : LexesTo [] text.toList tokens) :
    ∃ lexemes, lex text = .ok lexemes ∧ lexemes.map Lexeme.token = tokens := by
  obtain ⟨bound, lexes⟩ := lexes
  rw [lex]
  split
  · rename_i rest begins
    rw [begins] at noMark
    exact absurd rfl (noMark _ rfl)
  · exact lexes _ _ [] rfl (by omega)

end Lexer

/-- A name is an identifier unless it is reserved. -/
theorem read_name {text : String} (isName : IsName text) :
    Identifier.read? text = if Identifier.reserved.contains text then none else some ⟨text⟩ := by
  have ends : Lexer.EndsName [] := fun _ absurd => nomatch absurd
  have lexes := Lexer.lexes_name isName ends Lexer.lexes_nothing
  rw [List.append_nil] at lexes
  have noMark : ∀ head ∈ text.toList.head?, head ≠ '\uFEFF' := by
    obtain ⟨head, tail, whole, starts⟩ := Lexer.name_head isName
    rw [whole]
    intro _ isHead
    cases isHead
    exact (continue_not_passed head (continue_of_start head starts)).2
  obtain ⟨lexemes, lexed, tokens⟩ := Lexer.lex_of_lexes noMark lexes
  obtain ⟨place, behind, rfl, nothing⟩ := Lexer.lexeme_of_token tokens
  rw [List.map_eq_nil_iff.mp nothing] at lexed
  rw [Identifier.read?, lexed]

end Recordsmith
