import Mathlib.Data.List.DropRight
import Recordsmith.Proofs.TypeExpr.Reading
import Recordsmith.Proofs.TypeExpr.Scanning

/-!
Beginnings of type expressions. A text is viable when a text of some type begins with it; the
scanner passes over every viable text, and what it cannot pass over makes no longer text viable. A
separator that dangles at the end of a viable text is a comma in blanks, or blanks that a comma may
still follow.
-/

namespace Recordsmith.TypeExpr

open Recordsmith.Text

/-- A text of some type begins with this one. -/
def Viable (text : List Char) : Prop := ∃ type rest, Derives type (text ++ rest)

/-- A beginning of a text that is viable, and every other one that is viable is a beginning of it. -/
structure IsLongestViable (beginning text : List Char) : Prop where
  begins : beginning <+: text
  viable : Viable beginning
  longest : ∀ other, other <+: text → Viable other → other <+: beginning

theorem viable_scans {text : List Char} (viable : Viable text) :
    ∃ place, Place.start.scan text = some place := by
  obtain ⟨type, rest, derived⟩ := viable
  obtain ⟨after, scanned, _⟩ := derived_scans derived .start (.inl rfl)
  rw [Place.scan_append] at scanned
  obtain ⟨place, passed, _⟩ := Option.bind_eq_some_iff.mp scanned
  exact ⟨place, passed⟩

theorem not_viable_of_step {text : List Char} {place : Place} {next : Char}
    (scanned : Place.start.scan text = some place) (stopped : place.step next = none) :
    ¬ Viable (text ++ [next]) := by
  intro viable
  obtain ⟨after, passed⟩ := viable_scans viable
  rw [Place.scan_append, scanned, Option.bind_some, Place.scan, stopped] at passed
  cases passed

theorem viable_beginning {text more : List Char} (viable : Viable (text ++ more)) :
    Viable text := by
  obtain ⟨type, rest, derived⟩ := viable
  exact ⟨type, more ++ rest, by rw [← List.append_assoc]; exact derived⟩

/-- A viable text that the next character makes unviable is the longest one. -/
theorem longest_before {beginning rest : List Char} (viable : Viable beginning)
    (stops : ∀ next more, rest = next :: more → ¬ Viable (beginning ++ [next])) :
    IsLongestViable beginning (beginning ++ rest) := by
  refine ⟨List.prefix_append beginning rest, viable, ?_⟩
  intro other begins otherViable
  rcases List.prefix_or_prefix_of_prefix begins (List.prefix_append beginning rest) with
    shorter | ⟨more, rfl⟩
  · exact shorter
  · cases more with
    | nil => simp
    | cons next more =>
        obtain ⟨left, same⟩ := begins
        rw [List.append_assoc] at same
        rw [List.append_cons] at otherViable
        exact absurd (viable_beginning otherViable)
          (stops next _ (List.append_cancel_left same).symm)

/-- Behind a text of a type, nothing that ends the type leads to a longer text of a type. -/
theorem derived_not_extended {type other : TypeExpr} {text : List Char} {next : Char}
    {more : List Char} (derived : Derives type text) (ends : EndsType (next :: more)) :
    ¬ Derives other (text ++ next :: more) := by
  intro extended
  have readShort := (read_complete (text ++ next :: more).length).1 type text (next :: more) derived
    (by simp) ends
  have readLong := (read_complete (text ++ next :: more).length).1 other _ [] extended
    (Nat.le_refl _) trivial
  rw [List.append_nil, readShort] at readLong
  cases readLong

/-! ## Places -/

namespace Place

/-- No first character of a rest goes on with a type that ends at the place. -/
def Halts (place : Place) (rest : List Char) : Prop :=
  ∀ first more, rest = first :: more →
    isWordCharacter first = true ∨ first = '<' ∨ first = '?' → place.step first = none

/-- Only an opening bracket leads to a place where nothing was passed over of a type. -/
theorem step_start_iff {place next : Place} {character : Char}
    (stepped : place.step character = some next) : next = start ↔ character = '<' := by
  constructor
  · rintro rfl
    unfold step at stepped
    split_ifs at stepped <;> first | assumption | cases stepped
  · rintro rfl
    cases place <;> cases stepped
    rfl

theorem scan_last {place after : Place} {text : List Char} {last : Char}
    (ends : text.getLast? = some last) (scanned : place.scan text = some after) :
    ∃ before : Place, before.step last = some after := by
  obtain ⟨front, rfl⟩ := List.getLast?_eq_some_iff.mp ends
  rw [scan_append] at scanned
  obtain ⟨before, _, stepped⟩ := Option.bind_eq_some_iff.mp scanned
  obtain ⟨next, passed, arrived⟩ := Option.bind_eq_some_iff.mp stepped
  cases arrived
  exact ⟨before, passed⟩

theorem scan_start_iff {text : List Char} {after : Place} (scanned : start.scan text = some after) :
    after = start ↔ text = [] ∨ text.getLast? = some '<' := by
  cases ends : text.getLast? with
  | none =>
      have empty := List.getLast?_eq_none_iff.mp ends
      rw [empty] at scanned
      cases scanned
      simp [empty]
  | some last =>
      obtain ⟨before, stepped⟩ := scan_last ends scanned
      have filled : text ≠ [] := by
        rintro rfl
        cases ends
      rw [step_start_iff stepped, Option.some_inj, or_iff_right filled]

/-- Neither a blank nor a comma leads to the end of a type or to a bracket. -/
theorem step_solid {place next : Place} {character : Char}
    (stepped : place.step character = some next) (solid : next = start ∨ next.EndsType) :
    IsSolid character := by
  constructor
  · rw [Bool.eq_false_iff]
    intro isBlank
    by_cases atStart : place = start
    · rw [atStart, step, if_neg (by simp [padding_not_word character isBlank]), if_pos isBlank]
        at stepped
      cases stepped
    · rw [step_padding place character isBlank atStart] at stepped
      split at stepped <;> cases stepped <;> rcases solid with same | same | same | same <;>
        cases same
  · rintro rfl
    cases place <;> cases stepped <;> rcases solid with same | same | same | same <;> cases same

theorem step_start_none (character : Char) (notWord : isWordCharacter character = false) :
    start.step character = none := by
  simp [step, notWord]

theorem step_comma_none (character : Char) (notWord : isWordCharacter character = false)
    (notBlank : isPadding character = false) : comma.step character = none := by
  simp [step, notWord, notBlank]

/-- Behind a type, only what goes on with it, a closing bracket or a separator is passed over. -/
theorem step_end_none (place : Place) (character : Char) (more : List Char)
    (halts : place.Halts (character :: more)) (solid : IsSolid character)
    (notClosing : character ≠ '>') : place.step character = none := by
  by_cases goesOn : isWordCharacter character = true ∨ character = '<' ∨ character = '?'
  · exact halts character more rfl goesOn
  · simp only [not_or, Bool.not_eq_true] at goesOn
    obtain ⟨notWord, notOpening, notMark⟩ := goesOn
    simp [step, notWord, solid.1, solid.2, notOpening, notMark, notClosing]

/-- The scanner passes over a text that begins with a word as if it stood in front of everything. -/
theorem scan_behind_comma {text : List Char} (begins : beginsWord text = true) :
    comma.scan text = start.scan text := by
  obtain ⟨first, rest, rfl, isWord⟩ := (begins_word_iff text).mp begins
  simp [scan, step, isWord]

/-- Blanks behind a type lead to where only a comma may follow. -/
theorem scan_gap (place : Place) (ends : place.EndsType) (blanks : List Char)
    (isBlank : IsBlank blanks) (filled : blanks ≠ []) : place.scan blanks = some blank := by
  obtain ⟨first, rest, rfl⟩ := List.exists_cons_of_ne_nil filled
  have notStart : place ≠ start := by rcases ends with rfl | rfl | rfl <;> decide
  have notComma : place ≠ comma := by rcases ends with rfl | rfl | rfl <;> decide
  rw [scan, step_padding place first (isBlank first (by simp)) notStart, if_neg notComma,
    Option.bind_some]
  rcases scan_blanks blank (by decide) rest fun other member => isBlank other (by simp [member]) with
    stays | ⟨_, stays⟩
  · exact stays
  · exact stays

end Place

/-! ## Dangling separators -/

/-- Blanks, or a comma in blanks. -/
inductive IsSeparator : List Char → Prop
  | blanks {blanks : List Char} (areBlank : IsBlank blanks) : IsSeparator blanks
  | comma {before after : List Char} (blankBefore : IsBlank before) (blankAfter : IsBlank after) :
      IsSeparator (before ++ ',' :: after)

/-- A text without its last blanks. -/
def withoutPadding (text : List Char) : List Char := text.rdropWhile isPadding

/-- A text without the separator at its end: its last blanks, one comma, and the blanks in front of
that. -/
def withoutSeparator (text : List Char) : List Char :=
  let unpadded := withoutPadding text
  if unpadded.getLast? = some ',' then withoutPadding unpadded.dropLast else unpadded

/-- A text that ends neither with a blank nor with a comma. -/
def EndsSolid (text : List Char) : Prop := ∀ last, text.getLast? = some last → IsSolid last

theorem without_padding_append {text blanks : List Char}
    (filled : ∀ last, text.getLast? = some last → isPadding last = false)
    (isBlank : IsBlank blanks) : withoutPadding (text ++ blanks) = text := by
  have kept : text.rdropWhile isPadding = text := by
    rw [List.rdropWhile_eq_self_iff]
    intro nonempty padding
    rw [filled _ (List.getLast?_eq_some_getLast nonempty)] at padding
    cases padding
  rw [withoutPadding, List.rdropWhile, List.reverse_append, List.dropWhile_append_of_pos
    fun character member => isBlank character (List.mem_reverse.mp member)]
  exact kept

theorem without_separator_append {text separator : List Char} (solid : EndsSolid text)
    (separates : IsSeparator separator) : withoutSeparator (text ++ separator) = text := by
  have filled : ∀ last, text.getLast? = some last → isPadding last = false :=
    fun last ends => (solid last ends).1
  cases separates with
  | blanks areBlank =>
      rw [withoutSeparator, without_padding_append filled areBlank, if_neg]
      intro comma
      exact (solid ',' comma).2 rfl
  | @comma before after blankBefore blankAfter =>
      have split : text ++ (before ++ ',' :: after) = text ++ before ++ [','] ++ after := by simp
      have toComma : withoutPadding (text ++ before ++ [','] ++ after) = text ++ before ++ [','] := by
        apply without_padding_append _ blankAfter
        intro last ends
        rw [List.getLast?_concat, Option.some_inj] at ends
        rw [← ends]
        decide
      rw [withoutSeparator, split, toComma, if_pos List.getLast?_concat, List.dropLast_concat,
        without_padding_append filled blankBefore]

end Recordsmith.TypeExpr
