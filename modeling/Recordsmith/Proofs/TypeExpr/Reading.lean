import Mathlib.Data.List.TakeWhile
import Recordsmith.Proofs.TypeExpr.Grammar

/-!
Reading follows the grammar. Whatever is read is one of the texts of the type that is read, and
whatever is one of the texts of a type is read as that type. Both go by induction on the fuel, with
one step for each of the three readers; a text needs no more fuel than it has characters.
-/

namespace Recordsmith.TypeExpr

open Recordsmith.Text

/-! ## Commas -/

theorem after_comma_sound (input next : List Char) (found : afterComma? input = some next) :
    ∃ before after, IsBlank before ∧ IsBlank after ∧ input = before ++ ',' :: (after ++ next) := by
  unfold afterComma? at found
  split at found
  case h_2 => cases found
  case h_1 afterComma dropped =>
    dsimp only at found
    split at found
    case isFalse => cases found
    case isTrue =>
      refine ⟨input.takeWhile isPadding, afterComma.takeWhile isPadding,
        fun character member => List.mem_takeWhile_imp member,
        fun character member => List.mem_takeWhile_imp member, ?_⟩
      rw [← Option.some.inj found, List.takeWhile_append_dropWhile, ← dropped,
        List.takeWhile_append_dropWhile]

theorem after_comma_complete (before after next : List Char) (blankBefore : IsBlank before)
    (blankAfter : IsBlank after) (begins : beginsWord next = true) :
    afterComma? (before ++ ',' :: (after ++ next)) = some next := by
  have notBlank : isPadding ',' = false := by decide
  have dropped : (before ++ ',' :: (after ++ next)).dropWhile isPadding =
      ',' :: (after ++ next) := by
    rw [List.dropWhile_append_of_pos blankBefore]
    simp [notBlank]
  unfold afterComma?
  rw [dropped]
  simp only [drop_blank_append after next blankAfter begins, begins, if_true]

theorem after_comma_closing (rest : List Char) : afterComma? ('>' :: rest) = none := by
  have notBlank : isPadding '>' = false := by decide
  simp [afterComma?, notBlank]

/-! ## What is read is derived -/

/-- Every type read with the given fuel leaves what follows one of its texts. -/
def TypesSound (fuel : Nat) : Prop :=
  ∀ input type rest, readType fuel input = .ok (type, rest) →
    ∃ text, input = text ++ rest ∧ Derives type text

/-- The same for arguments in brackets. -/
def ArgumentsSound (fuel : Nat) : Prop :=
  ∀ input arguments rest, readArguments fuel input = .ok (arguments, rest) →
    ∃ text, input = text ++ rest ∧ DerivesArguments arguments text

/-- The same for arguments behind the first. -/
def MoreSound (fuel : Nat) : Prop :=
  ∀ input others rest, readMore fuel input = .ok (others, rest) →
    ∃ text, input = text ++ rest ∧ DerivesMore others text

theorem take_question_mark_text (input : List Char) :
    input = markOf (takeQuestionMark input).1 ++ (takeQuestionMark input).2 := by
  unfold takeQuestionMark
  split <;> simp [markOf]

theorem read_type_sound (fuel : Nat) (sound : ArgumentsSound fuel) : TypesSound (fuel + 1) := by
  intro input type rest read
  unfold readType at read
  split at read
  case isFalse => cases read
  case isTrue begins =>
    cases inner : readArguments fuel (input.dropWhile isWordCharacter) with
    | error stop =>
        rw [inner] at read
        cases read
    | ok result =>
        obtain ⟨arguments, afterArguments⟩ := result
        rw [inner] at read
        obtain ⟨inside, dropped, derived⟩ := sound _ _ _ inner
        have isWord : IsWord (input.takeWhile isWordCharacter) := by
          constructor
          · obtain ⟨first, others, rfl, isFirst⟩ := (begins_word_iff input).mp begins
            simp [isFirst]
          · exact fun character member => List.mem_takeWhile_imp member
        have marked := take_question_mark_text afterArguments
        dsimp only [Bind.bind, Except.bind] at read
        cases taken : takeQuestionMark afterArguments with
        | mk nullable left =>
            rw [taken] at read marked
            obtain ⟨rfl, rfl⟩ := Prod.mk.inj (Except.ok.inj read)
            refine ⟨_, ?_, Derives.type _ nullable isWord derived⟩
            rw [List.append_assoc, List.append_assoc, ← marked, ← dropped,
              List.takeWhile_append_dropWhile]

theorem read_arguments_sound (fuel : Nat) (types : TypesSound fuel) (more : MoreSound fuel) :
    ArgumentsSound (fuel + 1) := by
  intro input arguments rest read
  unfold readArguments at read
  split at read
  case h_2 =>
    obtain ⟨rfl, rfl⟩ := Prod.mk.inj (Except.ok.inj read)
    exact ⟨[], rfl, .absent⟩
  case h_1 inside =>
    cases readFirst : readType fuel inside with
    | error stop =>
        rw [readFirst] at read
        cases read
    | ok first =>
        obtain ⟨first, afterFirst⟩ := first
        rw [readFirst] at read
        dsimp only [Bind.bind, Except.bind] at read
        cases readOthers : readMore fuel afterFirst with
        | error stop =>
            rw [readOthers] at read
            cases read
        | ok others =>
            obtain ⟨others, afterOthers⟩ := others
            rw [readOthers] at read
            dsimp only at read
            split at read
            case h_2 => cases read
            case h_1 =>
              obtain ⟨rfl, rfl⟩ := Prod.mk.inj (Except.ok.inj read)
              obtain ⟨text, rfl, derivedFirst⟩ := types _ _ _ readFirst
              obtain ⟨moreText, rfl, derivedOthers⟩ := more _ _ _ readOthers
              refine ⟨_, ?_, .bracketed derivedFirst derivedOthers⟩
              simp

theorem read_more_sound (fuel : Nat) (types : TypesSound fuel) (more : MoreSound fuel) :
    MoreSound (fuel + 1) := by
  intro input others rest read
  unfold readMore at read
  split at read
  case h_1 =>
    obtain ⟨rfl, rfl⟩ := Prod.mk.inj (Except.ok.inj read)
    exact ⟨[], rfl, .nothing⟩
  case h_2 next found =>
    cases readFirst : readType fuel next with
    | error stop =>
        rw [readFirst] at read
        cases read
    | ok first =>
        obtain ⟨first, afterFirst⟩ := first
        rw [readFirst] at read
        dsimp only [Bind.bind, Except.bind] at read
        cases readOthers : readMore fuel afterFirst with
        | error stop =>
            rw [readOthers] at read
            cases read
        | ok others =>
            obtain ⟨others, afterOthers⟩ := others
            rw [readOthers] at read
            obtain ⟨rfl, rfl⟩ := Prod.mk.inj (Except.ok.inj read)
            obtain ⟨before, after, blankBefore, blankAfter, rfl⟩ :=
              after_comma_sound input next found
            obtain ⟨text, rfl, derivedFirst⟩ := types _ _ _ readFirst
            obtain ⟨moreText, rfl, derivedOthers⟩ := more _ _ _ readOthers
            refine ⟨_, ?_, .next before after blankBefore blankAfter derivedFirst derivedOthers⟩
            simp

theorem read_sound (fuel : Nat) : TypesSound fuel ∧ ArgumentsSound fuel ∧ MoreSound fuel := by
  induction fuel with
  | zero =>
      refine ⟨?_, ?_, ?_⟩
      · intro input type rest read
        cases read
      · intro input arguments rest read
        obtain ⟨rfl, rfl⟩ := Prod.mk.inj (Except.ok.inj read)
        exact ⟨[], rfl, .absent⟩
      · intro input others rest read
        obtain ⟨rfl, rfl⟩ := Prod.mk.inj (Except.ok.inj read)
        exact ⟨[], rfl, .nothing⟩
  | succ fuel induction =>
      obtain ⟨types, arguments, more⟩ := induction
      exact ⟨read_type_sound fuel arguments, read_arguments_sound fuel types more,
        read_more_sound fuel types more⟩

/-! ## What is derived is read -/

/-- Nothing that could still belong to a type in front of it. -/
def EndsType : List Char → Prop
  | [] => True
  | first :: _ => isWordCharacter first = false ∧ first ≠ '<' ∧ first ≠ '?'

/-- Every type with a text no longer than the fuel is read, up to where it ends. -/
def TypesComplete (fuel : Nat) : Prop :=
  ∀ type text rest, Derives type text → text.length ≤ fuel → EndsType rest →
    readType fuel (text ++ rest) = .ok (type, rest)

/-- The same for arguments in brackets. -/
def ArgumentsComplete (fuel : Nat) : Prop :=
  ∀ arguments text rest, DerivesArguments arguments text → text.length ≤ fuel →
    (∀ inside, rest ≠ '<' :: inside) → readArguments fuel (text ++ rest) = .ok (arguments, rest)

/-- The same for arguments behind the first, up to the closing bracket. -/
def MoreComplete (fuel : Nat) : Prop :=
  ∀ others text rest, DerivesMore others text → text.length ≤ fuel →
    readMore fuel (text ++ '>' :: rest) = .ok (others, '>' :: rest)

theorem ends_type_more {others : List TypeExpr} {text : List Char}
    (derived : DerivesMore others text) (rest : List Char) : EndsType (text ++ '>' :: rest) := by
  cases derived with
  | nothing => exact ⟨by decide, by decide, by decide⟩
  | @next first others before after text more blankBefore blankAfter derivedFirst derivedOthers =>
      cases before with
      | nil => exact ⟨by decide, by decide, by decide⟩
      | cons blank blanks =>
          have isBlank : isPadding blank = true := blankBefore blank (by simp)
          refine ⟨padding_not_word blank isBlank, ?_, ?_⟩ <;> rintro rfl <;> cases isBlank

theorem ends_type_not_word {rest : List Char} (ends : EndsType rest) : beginsWord rest = false := by
  cases rest with
  | nil => rfl
  | cons first rest => exact ends.1

theorem take_question_mark_append (nullable : Bool) (rest : List Char) (ends : EndsType rest) :
    takeQuestionMark (markOf nullable ++ rest) = (nullable, rest) := by
  cases nullable with
  | true => rfl
  | false =>
      change takeQuestionMark rest = (false, rest)
      unfold takeQuestionMark
      split
      case h_1 others => exact absurd rfl ends.2.2
      case h_2 => rfl

theorem derived_arguments_not_word {arguments : List TypeExpr} {inside : List Char}
    (derived : DerivesArguments arguments inside) (nullable : Bool) {rest : List Char}
    (ends : EndsType rest) : beginsWord (inside ++ (markOf nullable ++ rest)) = false := by
  cases derived with
  | bracketed derivedFirst derivedOthers => rfl
  | absent =>
      cases nullable with
      | true => rfl
      | false => exact ends_type_not_word ends

theorem read_type_complete (fuel : Nat) (complete : ArgumentsComplete fuel) :
    TypesComplete (fuel + 1) := by
  intro type text rest derived bound ends
  have begins := derived_begins_word derived rest
  cases derived with
  | @type word inside arguments nullable isWord derived =>
      have wordLength : 0 < word.length := List.length_pos_iff.mpr isWord.1
      have insideBound : inside.length ≤ fuel := by
        simp only [List.length_append] at bound
        omega
      obtain ⟨taken, dropped⟩ := take_word_append word (inside ++ (markOf nullable ++ rest))
        isWord.2 (derived_arguments_not_word derived nullable ends)
      have notOpening : ∀ others, markOf nullable ++ rest ≠ '<' :: others := by
        intro others same
        cases nullable with
        | true => simp [markOf] at same
        | false =>
            change rest = _ at same
            rw [same] at ends
            exact ends.2.1 rfl
      rw [List.append_assoc, List.append_assoc] at begins ⊢
      unfold readType
      rw [if_pos begins, taken, dropped, complete arguments inside _ derived insideBound notOpening]
      dsimp only [Bind.bind, Except.bind]
      rw [take_question_mark_append nullable rest ends]

theorem read_arguments_complete (fuel : Nat) (types : TypesComplete fuel)
    (more : MoreComplete fuel) : ArgumentsComplete (fuel + 1) := by
  intro arguments text rest derived bound notOpening
  cases derived with
  | absent =>
      rw [List.nil_append]
      unfold readArguments
      split
      case h_1 inside => exact absurd rfl (notOpening inside)
      case h_2 => rfl
  | @bracketed first others text moreText derivedFirst derivedOthers =>
      simp only [List.length_cons, List.length_append, List.length_nil] at bound
      have split : '<' :: (text ++ moreText ++ ['>']) ++ rest =
          '<' :: (text ++ (moreText ++ '>' :: rest)) := by simp
      rw [split]
      simp only [readArguments]
      rw [types first text _ derivedFirst (by omega) (ends_type_more derivedOthers rest)]
      dsimp only [Bind.bind, Except.bind]
      rw [more others moreText rest derivedOthers (by omega)]
      rfl

theorem read_more_complete (fuel : Nat) (types : TypesComplete fuel)
    (more : MoreComplete fuel) : MoreComplete (fuel + 1) := by
  intro others text rest derived bound
  cases derived with
  | nothing =>
      unfold readMore
      rw [List.nil_append, after_comma_closing]
  | @next first others before after text moreText blankBefore blankAfter derivedFirst
      derivedOthers =>
      simp only [List.length_cons, List.length_append] at bound
      have split : before ++ ',' :: (after ++ text ++ moreText) ++ '>' :: rest =
          before ++ ',' :: (after ++ (text ++ (moreText ++ '>' :: rest))) := by simp
      rw [split]
      unfold readMore
      rw [after_comma_complete before after _ blankBefore blankAfter
        (derived_begins_word derivedFirst _)]
      dsimp only
      rw [types first text _ derivedFirst (by omega) (ends_type_more derivedOthers rest)]
      dsimp only [Bind.bind, Except.bind]
      rw [more others moreText rest derivedOthers (by omega)]

theorem read_complete (fuel : Nat) :
    TypesComplete fuel ∧ ArgumentsComplete fuel ∧ MoreComplete fuel := by
  induction fuel with
  | zero =>
      refine ⟨?_, ?_, ?_⟩
      · intro type text rest derived bound
        cases derived with
        | type word nullable isWord =>
            have nonempty := List.length_pos_iff.mpr isWord.1
            simp only [List.length_append] at bound
            omega
      · intro arguments text rest derived bound
        cases derived with
        | absent => exact fun _ => rfl
        | bracketed => simp at bound
      · intro others text rest derived bound
        cases derived with
        | nothing => rfl
        | next => simp at bound
  | succ fuel induction =>
      obtain ⟨types, arguments, more⟩ := induction
      exact ⟨read_type_complete fuel arguments, read_arguments_complete fuel types more,
        read_more_complete fuel types more⟩

/-! ## Whole texts -/

theorem read_whole_iff_derives (input : List Char) (type : TypeExpr) :
    readWhole input = .ok type ↔ Derives type input := by
  unfold readWhole
  constructor
  · intro read
    cases found : readType (2 * input.length + 2) input with
    | error stop =>
        rw [found] at read
        cases read
    | ok result =>
        obtain ⟨readType, rest⟩ := result
        rw [found] at read
        obtain ⟨text, whole, derived⟩ := (read_sound _).1 _ _ _ found
        cases rest with
        | cons first rest => cases read
        | nil =>
            rw [List.append_nil] at whole
            rw [whole, ← Except.ok.inj read]
            exact derived
  · intro derived
    have read := (read_complete (2 * input.length + 2)).1 type input [] derived (by omega) trivial
    rw [List.append_nil] at read
    rw [read]
    rfl

theorem parse_ok_iff (text : String) (type : TypeExpr) :
    parse text = .ok type ↔ Derives type text.toList := by
  rw [← read_whole_iff_derives]
  unfold parse
  cases readWhole text.toList with
  | ok found => simp
  | error stop => simp

/-- A text is read as a type exactly when it is one of the texts of that type, and no text is one
of two types. -/
theorem parse_accepts_grammar (text : String) :
    (∀ type, parse text = .ok type ↔ Derives type text.toList) ∧
      ∀ left right, Derives left text.toList → Derives right text.toList → left = right := by
  refine ⟨parse_ok_iff text, ?_⟩
  intro left right derivedLeft derivedRight
  rw [← parse_ok_iff] at derivedLeft derivedRight
  rw [derivedLeft] at derivedRight
  exact Except.ok.inj derivedRight

theorem blanks_beside_comma_accepted :
    Derives (.generic "Map" [⟨"Int", [], true⟩, .generic "List" [.simple "V"]])
        "Map<Int? ,\tList<V>>".toList ∧
      parse "Map<Int? ,\tList<V>>" =
        .ok (.generic "Map" [⟨"Int", [], true⟩, .generic "List" [.simple "V"]]) := by
  have value : Derives (.simple "V") ['V'] :=
    .type ['V'] false (by decide) .absent
  have list : Derives (.generic "List" [.simple "V"]) "List<V>".toList :=
    .type "List".toList false (by decide) (.bracketed value .nothing)
  have int : Derives ⟨"Int", [], true⟩ "Int?".toList :=
    .type "Int".toList true (by decide) .absent
  have map : Derives (.generic "Map" [⟨"Int", [], true⟩, .generic "List" [.simple "V"]])
      "Map<Int? ,\tList<V>>".toList :=
    .type "Map".toList false (by decide)
      (.bracketed int (.next [' '] ['\t'] (by decide) (by decide) list .nothing))
  exact ⟨map, ((parse_accepts_grammar _).1 _).mpr map⟩

end Recordsmith.TypeExpr
