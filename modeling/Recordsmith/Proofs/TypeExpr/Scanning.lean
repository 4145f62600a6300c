import Mathlib.Tactic.SplitIfs
import Recordsmith.Proofs.TypeExpr.Grammar

/-!
Texts that no type expression contains. A scanner passes over a text and stops at the first
character that cannot stand where it does; it is coarser than the grammar, since it does not count
brackets. Every text of a type is passed over. A text at which the scanner stops from every place
it may be at is unreadable, and so is each longer text around it.
-/

namespace Recordsmith.TypeExpr

open Recordsmith.Text

/-- Where the scanner is: what it has just passed over. -/
inductive Place where
  /-- An opening bracket, or nothing yet. -/
  | start
  /-- A comma, and perhaps blanks behind it. -/
  | comma
  | word
  /-- A closing bracket. -/
  | closed
  /-- A question mark. -/
  | marked
  /-- Blanks in front of a comma. -/
  | blank
  deriving DecidableEq

namespace Place

/-- A type may begin here. -/
def BeginsType (place : Place) : Prop := place = start ∨ place = comma

/-- A type may have ended here. -/
def EndsType (place : Place) : Prop := place = word ∨ place = closed ∨ place = marked

/-- Passes over one character. -/
def step (place : Place) (character : Char) : Option Place :=
  if isWordCharacter character then
    if place = start ∨ place = comma ∨ place = word then some word else none
  else if isPadding character then
    if place = start then none else if place = comma then some comma else some blank
  else if character = ',' then
    if place = start ∨ place = comma then none else some comma
  else if character = '<' then
    if place = word then some start else none
  else if character = '>' then
    if place = word ∨ place = closed ∨ place = marked then some closed else none
  else if character = '?' then
    if place = word ∨ place = closed then some marked else none
  else none

/-- Passes over a text. -/
def scan (place : Place) : List Char → Option Place
  | [] => some place
  | character :: rest => (place.step character).bind fun next => next.scan rest

theorem scan_append (place : Place) (first second : List Char) :
    place.scan (first ++ second) = (place.scan first).bind fun next => next.scan second := by
  induction first generalizing place with
  | nil => rfl
  | cons character rest induction =>
      cases stepped : place.step character with
      | none => simp [scan, stepped]
      | some next => simpa [scan, stepped] using induction next

theorem scan_word_end (word : List Char)
    (isWord : ∀ character ∈ word, isWordCharacter character = true) :
    Place.word.scan word = some .word := by
  induction word with
  | nil => rfl
  | cons character rest induction =>
      have stepped : Place.word.step character = some .word := by
        rw [step, if_pos (isWord character (by simp))]
        rfl
      rw [scan, stepped]
      exact induction fun other member => isWord other (by simp [member])

theorem scan_word (place : Place) (begins : place.BeginsType) (word : List Char)
    (isWord : IsWord word) : place.scan word = some .word := by
  obtain ⟨nonempty, allWord⟩ := isWord
  obtain ⟨first, rest, rfl⟩ := List.exists_cons_of_ne_nil nonempty
  have stepped : place.step first = some .word := by
    rw [step, if_pos (allWord first (by simp))]
    rcases begins with rfl | rfl <;> rfl
  rw [scan, stepped]
  exact scan_word_end rest fun other member => allWord other (by simp [member])

theorem step_padding (place : Place) (character : Char) (isBlank : isPadding character = true)
    (notStart : place ≠ .start) :
    place.step character = some (if place = .comma then .comma else .blank) := by
  rw [step, if_neg (by simp [padding_not_word character isBlank]), if_pos isBlank, if_neg notStart]
  split <;> rfl

theorem scan_blanks (place : Place) (notStart : place ≠ .start) (blanks : List Char)
    (isBlank : IsBlank blanks) :
    place.scan blanks = some place ∨
      (place ≠ .comma ∧ place.scan blanks = some .blank) := by
  induction blanks generalizing place with
  | nil => exact .inl rfl
  | cons character rest induction =>
      have restBlank : IsBlank rest := fun other member => isBlank other (by simp [member])
      rw [scan, step_padding place character (isBlank character (by simp)) notStart]
      by_cases atComma : place = .comma
      · rw [if_pos atComma]
        rcases induction .comma (by decide) restBlank with stays | ⟨different, _⟩
        · left
          rw [atComma]
          exact stays
        · exact absurd rfl different
      · rw [if_neg atComma]
        right
        refine ⟨atComma, ?_⟩
        rcases induction .blank (by decide) restBlank with stays | ⟨_, ends⟩
        · exact stays
        · exact ends

/-- A comma in blanks leads from the end of a type to the beginning of the next one. -/
theorem scan_comma (place : Place) (ends : place.EndsType) (before after : List Char)
    (blankBefore : IsBlank before) (blankAfter : IsBlank after) :
    place.scan (before ++ ',' :: after) = some .comma := by
  have notStart : place ≠ .start := by rcases ends with rfl | rfl | rfl <;> decide
  have afterComma : Place.comma.scan after = some .comma := by
    rcases scan_blanks .comma (by decide) after blankAfter with stays | ⟨different, _⟩
    · exact stays
    · exact absurd rfl different
  rw [scan_append]
  rcases scan_blanks place notStart before blankBefore with stays | ⟨_, blank⟩
  · rw [stays]
    rcases ends with rfl | rfl | rfl <;> exact afterComma
  · rw [blank]
    exact afterComma

theorem scan_mark (place : Place) (nullable : Bool) (ends : place = .word ∨ place = .closed) :
    ∃ after, place.scan (markOf nullable) = some after ∧ after.EndsType := by
  cases nullable with
  | false => exact ⟨place, rfl, ends.imp_right .inl⟩
  | true =>
      refine ⟨.marked, ?_, .inr (.inr rfl)⟩
      rcases ends with rfl | rfl <;> rfl

end Place

mutual

theorem derived_scans {type : TypeExpr} {text : List Char} (derived : Derives type text)
    (place : Place) (begins : place.BeginsType) :
    ∃ after, place.scan text = some after ∧ after.EndsType := by
  cases derived with
  | type word nullable isWord derivedArguments =>
      obtain ⟨inside, scanned, ends⟩ := arguments_scan derivedArguments
      obtain ⟨after, scannedMark, endsType⟩ := inside.scan_mark nullable ends
      refine ⟨after, ?_, endsType⟩
      rw [Place.scan_append, Place.scan_append, place.scan_word begins word isWord,
        Option.bind_some, scanned, Option.bind_some, scannedMark]

theorem arguments_scan {arguments : List TypeExpr} {text : List Char}
    (derived : DerivesArguments arguments text) :
    ∃ after, Place.word.scan text = some after ∧ (after = .word ∨ after = .closed) := by
  cases derived with
  | absent => exact ⟨.word, rfl, .inl rfl⟩
  | bracketed derivedFirst derivedOthers =>
      obtain ⟨middle, scannedFirst, ends⟩ := derived_scans derivedFirst .start (.inl rfl)
      obtain ⟨last, scannedOthers, endsLast⟩ := more_scan derivedOthers middle ends
      refine ⟨.closed, ?_, .inr rfl⟩
      change Place.start.scan _ = _
      rw [Place.scan_append, Place.scan_append, scannedFirst, Option.bind_some, scannedOthers,
        Option.bind_some]
      rcases endsLast with rfl | rfl | rfl <;> rfl

theorem more_scan {others : List TypeExpr} {text : List Char} (derived : DerivesMore others text)
    (place : Place) (ends : place.EndsType) :
    ∃ after, place.scan text = some after ∧ after.EndsType := by
  cases derived with
  | nothing => exact ⟨place, rfl, ends⟩
  | next before after blankBefore blankAfter derivedFirst derivedOthers =>
      obtain ⟨middle, scannedFirst, endsFirst⟩ := derived_scans derivedFirst .comma (.inr rfl)
      obtain ⟨last, scannedOthers, endsLast⟩ := more_scan derivedOthers middle endsFirst
      refine ⟨last, ?_, endsLast⟩
      have split : ∀ text more : List Char,
          before ++ ',' :: (after ++ text ++ more) = before ++ ',' :: after ++ (text ++ more) := by
        intro text more
        simp
      rw [split, Place.scan_append, place.scan_comma ends before after blankBefore blankAfter,
        Option.bind_some, Place.scan_append, scannedFirst, Option.bind_some, scannedOthers]

end

/-! ## Unreadable texts -/

/-- The scanner stops in the text, wherever it comes from. -/
def Unreadable (text : List Char) : Prop := ∀ place : Place, place.scan text = none

theorem unreadable_not_derived {type : TypeExpr} {text : List Char} (unreadable : Unreadable text) :
    ¬ Derives type text := by
  intro derived
  obtain ⟨after, scanned, _⟩ := derived_scans derived .start (.inl rfl)
  rw [unreadable .start] at scanned
  cases scanned

theorem unreadable_append_left {text : List Char} (unreadable : Unreadable text)
    (rest : List Char) : Unreadable (text ++ rest) := by
  intro place
  rw [Place.scan_append, unreadable place, Option.bind_none]

theorem unreadable_append_right {text : List Char} (unreadable : Unreadable text)
    (before : List Char) : Unreadable (before ++ text) := by
  intro place
  rw [Place.scan_append]
  cases place.scan before with
  | none => rfl
  | some next => exact unreadable next

theorem unreadable_between {inner outer : List Char} (unreadable : Unreadable inner)
    (within : inner <:+: outer) : Unreadable outer := by
  obtain ⟨before, after, rfl⟩ := within
  exact unreadable_append_left (unreadable_append_right unreadable before) after

/-- A character that stands in no text of a type. -/
def isForeign (character : Char) : Bool :=
  !isWordCharacter character && !isPadding character && !"<>,?".toList.contains character

theorem foreign_unreadable {text : List Char} {character : Char}
    (foreign : isForeign character = true) (member : character ∈ text) : Unreadable text := by
  have alone : Unreadable [character] := by
    intro place
    simp only [isForeign, Bool.and_eq_true, Bool.not_eq_true',
      List.contains_eq_mem, decide_eq_false_iff_not] at foreign
    obtain ⟨⟨notWord, notBlank⟩, noSign⟩ := foreign
    simp at noSign
    simp [Place.scan, Place.step, notWord, notBlank, noSign]
  obtain ⟨before, after, rfl⟩ := List.append_of_mem member
  have within : [character] <:+: before ++ character :: after := ⟨before, after, by simp⟩
  exact unreadable_between alone within

/-- Neither a comma nor a blank. -/
def IsSolid (character : Char) : Prop := isPadding character = false ∧ character ≠ ','

theorem solid_after_blank (character : Char) (solid : IsSolid character) :
    Place.blank.step character = none := by
  obtain ⟨notBlank, notComma⟩ := solid
  simp [Place.step, notBlank, notComma]

theorem blank_after_solid (place next : Place) (character : Char) (solid : IsSolid character)
    (stepped : place.step character = some next) :
    next.step ' ' = none ∨ next.step ' ' = some .blank := by
  have notComma : next ≠ .comma := by
    intro atComma
    obtain ⟨notBlank, notComma⟩ := solid
    have isNone : place.step character ≠ some .comma := by
      rw [Place.step, if_neg notComma]
      split_ifs <;> simp_all
    exact isNone (atComma ▸ stepped)
  cases next <;> first | exact absurd rfl notComma | exact .inl rfl | exact .inr rfl

/-- A blank has to stand beside a comma. -/
theorem gap_unreadable (before after : Char) (solidBefore : IsSolid before)
    (solidAfter : IsSolid after) : Unreadable [before, ' ', after] := by
  intro place
  cases stepped : place.step before with
  | none => simp [Place.scan, stepped]
  | some next =>
      rcases blank_after_solid place next before solidBefore stepped with stops | goesOn
      · simp [Place.scan, stepped, stops]
      · simp [Place.scan, stepped, goesOn, solid_after_blank after solidAfter]

theorem brackets_unreadable : Unreadable ['<', '>'] := by
  intro place
  cases place <;> rfl

theorem marks_unreadable : Unreadable ['?', '?'] := by
  intro place
  cases place <;> rfl

end Recordsmith.TypeExpr
