import Recordsmith.Proofs.Outcome
import Recordsmith.Proofs.TypeExpr.Prefixes

/-!
Where reading stops. What was passed over then only lacks what was wanted: with it, and brackets
behind it, it is a text of a type. And what is left cannot go on from there, but for a separator
that was not followed by a type. So reading stops in front of the separator that dangles at the end
of the longest viable beginning.
-/

namespace Recordsmith.TypeExpr

open Recordsmith.Text

/-! ## What was passed over and what is left -/

/-- With what was wanted, the text is the beginning of one of a type; when nothing more was wanted,
it is one itself. -/
def Lacks : Wanted → List Char → Prop
  | .name, consumed => ∀ type text, Derives type text →
      ∃ whole rest, Derives whole (consumed ++ text ++ rest)
  | .closingBracket, consumed => ∀ others more, DerivesMore others more →
      ∃ whole rest, Derives whole (consumed ++ more ++ '>' :: rest)
  | .endOfText, consumed => ∃ type, Derives type consumed

/-- A type ends with the text, and what is left does not go on with it. -/
def Halted (consumed rest : List Char) : Prop :=
  ∃ place, Place.start.scan consumed = some place ∧ place.EndsType ∧ place.Halts rest

/-- What is left is not what was wanted, and does not go on with what was passed over. -/
def Stands : Wanted → List Char → List Char → Prop
  | .name, consumed, rest => Place.start.scan consumed = some .start ∧ beginsWord rest = false
  | .closingBracket, consumed, rest => Halted consumed rest ∧ afterComma? rest = none ∧
      ∀ more, rest ≠ '>' :: more
  | .endOfText, consumed, rest => Halted consumed rest ∧ rest ≠ []

/-- Reading has stopped behind the text. -/
structure Stop.IsBehind (stop : Stop) (consumed : List Char) : Prop where
  stands : Stands stop.wanted consumed stop.rest
  lacks : Lacks stop.wanted consumed

/-- Reading has stopped behind the text, before it came to the end of a type. -/
structure Stop.IsInside (stop : Stop) (consumed : List Char) : Prop extends
    stop.IsBehind consumed where
  unfinished : stop.wanted ≠ .endOfText

/-- An argument ends with the text, in brackets that are still open. -/
structure IsOpen (consumed rest : List Char) : Prop where
  halted : Halted consumed rest
  lacks : Lacks .closingBracket consumed

/-! ## Types in front of other types -/

theorem scan_inside {word : List Char} (isWord : IsWord word) (text : List Char) :
    Place.start.scan (word ++ ['<'] ++ text) = Place.start.scan text := by
  rw [List.append_assoc, Place.scan_append, Place.scan_word .start (.inl rfl) word isWord]
  rfl

theorem lacks_inside {word : List Char} (isWord : IsWord word) : Lacks .name (word ++ ['<']) := by
  intro type text derived
  have whole := Derives.type word false isWord (.bracketed derived .nothing)
  exact ⟨_, ['>'], by simpa [markOf] using whole⟩

theorem scan_further {consumed input : List Char} (isOpen : IsOpen consumed input)
    {before after : List Char} (blankBefore : IsBlank before) (blankAfter : IsBlank after)
    {text : List Char} (begins : beginsWord text = true) :
    Place.start.scan (consumed ++ (before ++ ',' :: after) ++ text) = Place.start.scan text := by
  obtain ⟨place, scanned, ends, _⟩ := isOpen.halted
  rw [List.append_assoc, Place.scan_append, scanned, Option.bind_some, Place.scan_append,
    place.scan_comma ends before after blankBefore blankAfter, Option.bind_some,
    Place.scan_behind_comma begins]

theorem lacks_further {consumed : List Char} (lacks : Lacks .closingBracket consumed)
    {before after : List Char} (blankBefore : IsBlank before) (blankAfter : IsBlank after) :
    Lacks .name (consumed ++ (before ++ ',' :: after)) := by
  intro type text derived
  obtain ⟨whole, rest, derivedWhole⟩ :=
    lacks [type] _ (.next before after blankBefore blankAfter derived .nothing)
  exact ⟨whole, '>' :: rest, by simpa using derivedWhole⟩

/-- Reading that stopped in a type has stopped in what is around the type as well. -/
theorem Stop.IsInside.within {stop : Stop} {consumed outer : List Char}
    (inside : stop.IsInside consumed)
    (scans : Place.start.scan (outer ++ consumed) = Place.start.scan consumed)
    (lacksName : Lacks .name outer) : stop.IsInside (outer ++ consumed) := by
  obtain ⟨⟨stands, lacks⟩, unfinished⟩ := inside
  obtain ⟨wanted, rest⟩ := stop
  cases wanted with
  | endOfText => exact absurd rfl unfinished
  | name =>
      refine ⟨⟨⟨scans.trans stands.1, stands.2⟩, ?_⟩, unfinished⟩
      intro type text derived
      obtain ⟨part, left, derivedPart⟩ := lacks type text derived
      obtain ⟨whole, more, derivedWhole⟩ := lacksName part _ derivedPart
      exact ⟨whole, left ++ more, by simpa using derivedWhole⟩
  | closingBracket =>
      obtain ⟨⟨place, scanned, ends, halts⟩, noComma, notClosing⟩ := stands
      refine ⟨⟨⟨⟨place, scans.trans scanned, ends, halts⟩, noComma, notClosing⟩, ?_⟩, unfinished⟩
      intro others more derived
      obtain ⟨part, left, derivedPart⟩ := lacks others more derived
      obtain ⟨whole, further, derivedWhole⟩ := lacksName part _ derivedPart
      exact ⟨whole, left ++ further, by simpa using derivedWhole⟩

theorem Stop.IsInside.begins_word {stop : Stop} {consumed : List Char}
    (inside : stop.IsInside consumed) (begins : beginsWord (consumed ++ stop.rest) = true) :
    beginsWord consumed = true := by
  cases consumed with
  | cons first rest => exact begins
  | nil =>
      obtain ⟨⟨stands, _⟩, unfinished⟩ := inside
      obtain ⟨wanted, rest⟩ := stop
      cases wanted with
      | endOfText => exact absurd rfl unfinished
      | name =>
          have notWord : beginsWord rest = false := stands.2
          rw [List.nil_append, notWord] at begins
          cases begins
      | closingBracket =>
          obtain ⟨⟨place, scanned, ends, _⟩, _⟩ := stands
          cases scanned
          rcases ends with same | same | same <;> cases same

/-! ## Types that are read -/

theorem rest_of_word_not_word (input : List Char) :
    beginsWord (input.dropWhile isWordCharacter) = false := by
  induction input with
  | nil => rfl
  | cons first rest induction =>
      rw [List.dropWhile_cons]
      split
      next => exact induction
      next notWord => simpa [beginsWord] using notWord

theorem question_mark_left {input rest : List Char} (taken : takeQuestionMark input = (false, rest)) :
    ∀ more, rest ≠ '?' :: more := by
  unfold takeQuestionMark at taken
  split at taken
  next => cases taken
  next notMark =>
    cases taken
    exact notMark

theorem no_arguments_read {fuel : Nat} {input rest : List Char}
    (read : readArguments (fuel + 1) input = .ok ([], rest)) :
    rest = input ∧ ∀ more, input ≠ '<' :: more := by
  unfold readArguments at read
  split at read
  case h_2 notOpening => exact ⟨(Prod.mk.inj (Except.ok.inj read)).2.symm, notOpening⟩
  case h_1 inside =>
    obtain ⟨first, _, read⟩ := bind_ok read
    obtain ⟨others, _, read⟩ := bind_ok read
    dsimp only at read
    split at read <;> cases read

theorem arguments_halt {arguments : List TypeExpr} {inside rest : List Char}
    (derived : DerivesArguments arguments inside)
    (ended : arguments = [] → beginsWord rest = false ∧ ∀ more, rest ≠ '<' :: more)
    (notMark : ∀ more, rest ≠ '?' :: more) :
    ∃ place : Place, Place.word.scan inside = some place ∧ place.EndsType ∧ place.Halts rest := by
  obtain ⟨place, scanned, ends⟩ := arguments_scan derived
  cases derived with
  | absent =>
      obtain ⟨notWord, notOpening⟩ := ended rfl
      refine ⟨.word, rfl, .inl rfl, ?_⟩
      rintro first more rfl (isWord | rfl | rfl)
      · rw [beginsWord, isWord] at notWord
        cases notWord
      · exact absurd rfl (notOpening more)
      · exact absurd rfl (notMark more)
  | bracketed derivedFirst derivedOthers =>
      obtain ⟨before, stepped⟩ := Place.scan_last List.getLast?_concat scanned
      have closed : place = .closed := by
        cases before <;> cases stepped <;> rfl
      refine ⟨place, scanned, ends.imp_right .inl, ?_⟩
      rw [closed]
      rintro first more rfl (isWord | rfl | rfl)
      · simp [Place.step, isWord]
      · rfl
      · exact absurd rfl (notMark more)

theorem taken_word {input : List Char} (begins : beginsWord input = true) :
    IsWord (input.takeWhile isWordCharacter) := by
  obtain ⟨first, others, rfl, isFirst⟩ := (begins_word_iff input).mp begins
  exact ⟨by simp [isFirst], fun character member => List.mem_takeWhile_imp member⟩

/-- A type that was read ends where reading it ended. -/
theorem type_read {fuel : Nat} {input rest : List Char} {type : TypeExpr} (enough : 2 ≤ fuel)
    (read : readType fuel input = .ok (type, rest)) :
    ∃ text, input = text ++ rest ∧ Derives type text ∧ Halted text rest := by
  obtain ⟨fuel, rfl⟩ := Nat.exists_eq_add_of_le' enough
  unfold readType at read
  split at read
  case isFalse => cases read
  case isTrue begins =>
    obtain ⟨⟨arguments, afterArguments⟩, inner, read⟩ := bind_ok read
    obtain ⟨inside, dropped, derived⟩ := (read_sound (fuel + 1)).2.1 _ _ _ inner
    have isWord := taken_word begins
    have marked := take_question_mark_text afterArguments
    cases taken : takeQuestionMark afterArguments with
    | mk nullable left =>
        dsimp only at read
        rw [taken] at read marked
        obtain ⟨rfl, rfl⟩ := Prod.mk.inj (Except.ok.inj read)
        refine ⟨_, ?_, Derives.type _ nullable isWord derived, ?_⟩
        · rw [List.append_assoc, List.append_assoc, ← marked, ← dropped,
            List.takeWhile_append_dropWhile]
        rw [Halted, Place.scan_append, Place.scan_append,
          Place.scan_word .start (.inl rfl) _ isWord, Option.bind_some]
        cases nullable with
        | true =>
            obtain ⟨place, scanned, ends⟩ := arguments_scan derived
            refine ⟨.marked, ?_, .inr (.inr rfl), ?_⟩
            · rw [scanned]
              rcases ends with rfl | rfl <;> rfl
            · rintro first more rfl (isWord | rfl | rfl)
              · simp [Place.step, isWord]
              · rfl
              · rfl
        | false =>
            have ended : arguments = [] → beginsWord left = false ∧ ∀ more, left ≠ '<' :: more := by
              rintro rfl
              obtain ⟨same, notOpening⟩ := no_arguments_read inner
              rw [show left = afterArguments from marked.symm, same]
              exact ⟨rest_of_word_not_word input, notOpening⟩
            obtain ⟨place, scanned, ends, halts⟩ :=
              arguments_halt derived ended (question_mark_left taken)
            refine ⟨place, ?_, ends, halts⟩
            rw [scanned, Option.bind_some]
            rfl

/-! ## Arguments behind the first -/

theorem after_comma_begins {input next : List Char} (found : afterComma? input = some next) :
    beginsWord next = true := by
  unfold afterComma? at found
  split at found
  case h_2 => cases found
  case h_1 afterComma _ =>
    dsimp only at found
    split at found
    case isFalse => cases found
    case isTrue begins =>
      rw [← Option.some.inj found]
      exact begins

theorem open_first {word : List Char} (isWord : IsWord word) {first : TypeExpr}
    {text rest : List Char} (derived : Derives first text) (halted : Halted text rest) :
    IsOpen (word ++ ['<'] ++ text) rest := by
  constructor
  · rw [Halted, scan_inside isWord]
    exact halted
  · intro others more derivedOthers
    have whole := Derives.type word false isWord (.bracketed derived derivedOthers)
    exact ⟨_, [], by simpa [markOf] using whole⟩

theorem open_next {consumed input : List Char} (isOpen : IsOpen consumed input)
    {before after : List Char} (blankBefore : IsBlank before) (blankAfter : IsBlank after)
    {next : TypeExpr} {text rest : List Char} (derived : Derives next text)
    (halted : Halted text rest) : IsOpen (consumed ++ (before ++ ',' :: after) ++ text) rest := by
  constructor
  · have begins := derived_begins_word derived []
    rw [List.append_nil] at begins
    rw [Halted, scan_further isOpen blankBefore blankAfter begins]
    exact halted
  · intro others more derivedOthers
    obtain ⟨whole, left, derivedWhole⟩ := isOpen.lacks (next :: others) _
      (.next before after blankBefore blankAfter derived derivedOthers)
    exact ⟨whole, left, by simpa using derivedWhole⟩

/-- Arguments that were read end where no further one begins. -/
theorem more_read (fuel : Nat) (input rest : List Char) (others : List TypeExpr)
    (enough : 2 * input.length < fuel) (read : readMore fuel input = .ok (others, rest))
    (consumed : List Char) (isOpen : IsOpen consumed input) :
    ∃ text, input = text ++ rest ∧ IsOpen (consumed ++ text) rest ∧ afterComma? rest = none := by
  induction fuel generalizing input others consumed with
  | zero => omega
  | succ fuel induction =>
      unfold readMore at read
      split at read
      case h_1 noComma =>
        obtain ⟨-, rfl⟩ := Prod.mk.inj (Except.ok.inj read)
        exact ⟨[], rfl, by rw [List.append_nil]; exact isOpen, noComma⟩
      case h_2 next found =>
        obtain ⟨⟨first, afterFirst⟩, readFirst, read⟩ := bind_ok read
        obtain ⟨⟨others, left⟩, readOthers, read⟩ := bind_ok read
        cases read
        obtain ⟨before, after, blankBefore, blankAfter, rfl⟩ := after_comma_sound input next found
        have begins := after_comma_begins found
        obtain ⟨head, tail, rfl, _⟩ := (begins_word_iff next).mp begins
        simp only [List.length_append, List.length_cons] at enough
        obtain ⟨text, split, derived, halted⟩ := type_read (by omega) readFirst
        have shorter : afterFirst.length ≤ (head :: tail).length := by
          rw [split, List.length_append]
          omega
        rw [List.length_cons] at shorter
        obtain ⟨moreText, rfl, nowOpen, noComma⟩ := induction afterFirst others (by omega) readOthers
          _ (open_next isOpen blankBefore blankAfter derived halted)
        refine ⟨before ++ ',' :: after ++ text ++ moreText, ?_, ?_, noComma⟩
        · rw [split]
          simp
        · simpa using nowOpen

/-! ## Where reading stops in a type -/

/-- Reading a type with the given fuel stops inside of what it passed over. -/
def TypesStop (fuel : Nat) : Prop :=
  ∀ input stop, 2 * input.length < fuel → readType fuel input = .error stop →
    ∃ consumed, input = consumed ++ stop.rest ∧ stop.IsInside consumed

/-- The same for arguments in brackets, behind the name that they belong to. -/
def ArgumentsStop (fuel : Nat) : Prop :=
  ∀ word input stop, IsWord word → 2 * input.length < fuel →
    readArguments fuel input = .error stop →
      ∃ consumed, input = consumed ++ stop.rest ∧ stop.IsInside (word ++ consumed)

/-- The same for arguments behind the first, in brackets that are open. -/
def MoreStop (fuel : Nat) : Prop :=
  ∀ before input stop, IsOpen before input → 2 * input.length < fuel →
    readMore fuel input = .error stop →
      ∃ consumed, input = consumed ++ stop.rest ∧ stop.IsInside (before ++ consumed)

theorem types_stop (fuel : Nat) (arguments : ArgumentsStop fuel) : TypesStop (fuel + 1) := by
  intro input stop enough failed
  unfold readType at failed
  split at failed
  case isFalse notWord =>
    cases failed
    refine ⟨[], rfl, ⟨⟨rfl, by simpa using notWord⟩, ?_⟩, by simp⟩
    exact fun type text derived => ⟨type, [], by simpa using derived⟩
  case isTrue begins =>
    rcases bind_error failed with stopped | ⟨_, _, ended⟩
    case inr => cases ended
    case inl =>
      obtain ⟨first, rest, split, isFirst⟩ := (begins_word_iff input).mp begins
      have shorter : (input.dropWhile isWordCharacter).length < input.length := by
        rw [split, List.dropWhile_cons_of_pos isFirst, List.length_cons]
        exact Nat.lt_succ_of_le (List.length_dropWhile_le _ _)
      obtain ⟨consumed, dropped, inside⟩ :=
        arguments _ _ stop (taken_word begins) (by omega) stopped
      refine ⟨input.takeWhile isWordCharacter ++ consumed, ?_, inside⟩
      rw [List.append_assoc, ← dropped, List.takeWhile_append_dropWhile]

theorem arguments_stop (fuel : Nat) (types : TypesStop fuel) (more : MoreStop fuel) :
    ArgumentsStop (fuel + 1) := by
  intro word input stop isWord enough failed
  unfold readArguments at failed
  split at failed
  case h_2 => cases failed
  case h_1 inside =>
    rw [List.length_cons] at enough
    rcases bind_error failed with stopped | ⟨⟨first, afterFirst⟩, readFirst, behindFirst⟩
    case inl =>
      obtain ⟨consumed, rfl, within⟩ := types inside stop (by omega) stopped
      refine ⟨'<' :: consumed, rfl, ?_⟩
      have outer := within.within (scan_inside isWord consumed) (lacks_inside isWord)
      rw [List.append_assoc] at outer
      exact outer
    case inr =>
      obtain ⟨text, rfl, derived, halted⟩ := type_read (by omega) readFirst
      rw [List.length_append] at enough
      have isOpen := open_first isWord derived halted
      rcases bind_error behindFirst with stopped | ⟨⟨others, afterOthers⟩, readOthers, closing⟩
      case inl =>
        obtain ⟨consumed, rfl, within⟩ := more _ afterFirst stop isOpen (by omega) stopped
        exact ⟨'<' :: (text ++ consumed), by simp, by simpa using within⟩
      case inr =>
        obtain ⟨moreText, rfl, stillOpen, noComma⟩ :=
          more_read fuel afterFirst afterOthers others (by omega) readOthers _ isOpen
        dsimp only at closing
        split at closing
        case h_1 => cases closing
        case h_2 notClosing =>
          cases closing
          refine ⟨'<' :: (text ++ moreText), by simp, ⟨⟨?_, ?_⟩, by simp⟩⟩
          · exact ⟨by simpa using stillOpen.halted, noComma, notClosing⟩
          · simpa using stillOpen.lacks

theorem more_stop (fuel : Nat) (types : TypesStop fuel) (more : MoreStop fuel) :
    MoreStop (fuel + 1) := by
  intro opened input stop isOpen enough failed
  unfold readMore at failed
  split at failed
  case h_1 => cases failed
  case h_2 next found =>
    obtain ⟨before, after, blankBefore, blankAfter, rfl⟩ := after_comma_sound input next found
    simp only [List.length_append, List.length_cons] at enough
    rcases bind_error failed with stopped | ⟨⟨first, afterFirst⟩, readFirst, behindFirst⟩
    case inl =>
      obtain ⟨consumed, rfl, within⟩ := types next stop (by omega) stopped
      refine ⟨before ++ ',' :: after ++ consumed, by simp, ?_⟩
      rw [← List.append_assoc]
      exact within.within
        (scan_further isOpen blankBefore blankAfter (within.begins_word (after_comma_begins found)))
        (lacks_further isOpen.lacks blankBefore blankAfter)
    case inr =>
      obtain ⟨text, rfl, derived, halted⟩ := type_read (by omega) readFirst
      rw [List.length_append] at enough
      rcases bind_error behindFirst with stopped | ⟨_, _, ended⟩
      case inr => cases ended
      case inl =>
        obtain ⟨consumed, rfl, within⟩ := more _ afterFirst stop
          (open_next isOpen blankBefore blankAfter derived halted) (by omega) stopped
        exact ⟨before ++ ',' :: after ++ text ++ consumed, by simp, by simpa using within⟩

/-- Reading stops inside of what it passed over, at every level. -/
theorem reading_stops (fuel : Nat) : TypesStop fuel ∧ ArgumentsStop fuel ∧ MoreStop fuel := by
  induction fuel with
  | zero => exact ⟨fun _ _ enough => by omega, fun _ _ _ _ enough => by omega,
      fun _ _ _ _ enough => by omega⟩
  | succ fuel induction =>
      obtain ⟨types, arguments, more⟩ := induction
      exact ⟨types_stop fuel arguments, arguments_stop fuel types more, more_stop fuel types more⟩

/-- A whole text is passed over up to where reading it stops. -/
theorem read_whole_stops {input : List Char} {stop : Stop}
    (failed : readWhole input = .error stop) :
    ∃ consumed, input = consumed ++ stop.rest ∧ stop.IsBehind consumed := by
  unfold readWhole at failed
  rcases bind_error failed with stopped | ⟨⟨type, rest⟩, read, ended⟩
  case inl =>
    obtain ⟨consumed, split, inside⟩ := (reading_stops _).1 input stop (by omega) stopped
    exact ⟨consumed, split, inside.toIsBehind⟩
  case inr =>
    obtain ⟨text, rfl, derived, halted⟩ := type_read (by omega) read
    cases rest with
    | nil => cases ended
    | cons next rest =>
        cases ended
        exact ⟨text, rfl, ⟨halted, List.cons_ne_nil _ _⟩, type, derived⟩

end Recordsmith.TypeExpr
