import Recordsmith.Proofs.TypeExpr.Stopping

/-!
What is reported about a text that is no type expression: the whole text, where its longest viable
beginning ends when the separator that dangles there is left out, and what was wanted at that place.
-/

namespace Recordsmith.TypeExpr

open Recordsmith.Text

/-! ## The longest viable beginning -/

theorem letter_derived : Derives (.simple "A") ['A'] := .type ['A'] false (by decide) .absent

theorem separated_derived {before after : List Char} (blankBefore : IsBlank before)
    (blankAfter : IsBlank after) :
    DerivesMore [.simple "A"] (before ++ ',' :: (after ++ ['A'] ++ [])) :=
  .next before after blankBefore blankAfter letter_derived .nothing

theorem viable_where_name_is_wanted {consumed : List Char} (lacks : Lacks .name consumed) :
    Viable consumed := by
  obtain ⟨whole, rest, derived⟩ := lacks _ _ letter_derived
  exact ⟨whole, ['A'] ++ rest, by rw [← List.append_assoc]; exact derived⟩

theorem viable_in_brackets {consumed separator : List Char} (lacks : Lacks .closingBracket consumed)
    (separates : IsSeparator separator) : Viable (consumed ++ separator) := by
  cases separates with
  | @blanks blanks areBlank =>
      have noneBlank : IsBlank [] := by simp [IsBlank]
      obtain ⟨whole, rest, derived⟩ := lacks _ _ (separated_derived areBlank noneBlank)
      exact ⟨whole, ',' :: 'A' :: '>' :: rest, by simpa using derived⟩
  | @comma before after blankBefore blankAfter =>
      obtain ⟨whole, rest, derived⟩ := lacks _ _ (separated_derived blankBefore blankAfter)
      exact ⟨whole, 'A' :: '>' :: rest, by simpa using derived⟩

theorem first_behind_blanks {input more : List Char} {next : Char}
    (left : input.dropWhile isPadding = next :: more) : isPadding next = false := by
  have first := List.head?_dropWhile_not isPadding input
  rw [left] at first
  exact first

/-- Behind an argument that is followed by neither a further one nor a closing bracket, the scanner
passes over a separator and nothing else. -/
theorem separator_passed {place : Place} {rest : List Char} (ends : place.EndsType)
    (halts : place.Halts rest) (noComma : afterComma? rest = none)
    (notClosing : ∀ more, rest ≠ '>' :: more) :
    ∃ separator left after, IsSeparator separator ∧ rest = separator ++ left ∧
      place.scan separator = some after ∧
      ∀ next more, left = next :: more → after.step next = none := by
  have areBlank : IsBlank (rest.takeWhile isPadding) :=
    fun character member => List.mem_takeWhile_imp member
  have split : rest.takeWhile isPadding ++ rest.dropWhile isPadding = rest :=
    List.takeWhile_append_dropWhile
  by_cases comma : (rest.dropWhile isPadding).head? = some ','
  · obtain ⟨behind, left⟩ := List.head?_eq_some_iff.mp comma
    have blankAfter : IsBlank (behind.takeWhile isPadding) :=
      fun character member => List.mem_takeWhile_imp member
    refine ⟨rest.takeWhile isPadding ++ ',' :: behind.takeWhile isPadding,
      behind.dropWhile isPadding, .comma, .comma areBlank blankAfter, ?_,
      place.scan_comma ends _ _ areBlank blankAfter, ?_⟩
    · rw [List.append_assoc, List.cons_append, List.takeWhile_append_dropWhile, ← left, split]
    · intro next more begins
      apply Place.step_comma_none next _ (first_behind_blanks begins)
      rw [afterComma?, left] at noComma
      simpa [begins, beginsWord] using noComma
  · have notComma : ∀ next more, rest.dropWhile isPadding = next :: more → IsSolid next := by
      intro next more begins
      refine ⟨first_behind_blanks begins, ?_⟩
      rintro rfl
      rw [begins] at comma
      exact comma rfl
    by_cases gap : rest.takeWhile isPadding = []
    · rw [gap, List.nil_append] at split
      refine ⟨[], rest, place, .blanks (by simp [IsBlank]), rfl, rfl, ?_⟩
      rintro next more rfl
      apply place.step_end_none next more halts (notComma next more split)
      rintro rfl
      exact notClosing more rfl
    · refine ⟨rest.takeWhile isPadding, rest.dropWhile isPadding, .blank, .blanks areBlank,
        split.symm, place.scan_gap ends _ areBlank gap, ?_⟩
      intro next more begins
      exact solid_after_blank next (notComma next more begins)

/-! ## Where reading stops -/

namespace Stop.IsBehind

variable {stop : Stop} {consumed : List Char} (behind : stop.IsBehind consumed)

include behind

/-- Reading stops in front of the separator at the end of the longest viable beginning. -/
theorem longest : ∃ separator, IsSeparator separator ∧
    IsLongestViable (consumed ++ separator) (consumed ++ stop.rest) := by
  obtain ⟨wanted, rest⟩ := stop
  obtain ⟨stands, lacks⟩ := behind
  have nothing : IsSeparator [] := .blanks (by simp [IsBlank])
  cases wanted with
  | name =>
      obtain ⟨scanned, notWord⟩ := stands
      refine ⟨[], nothing, ?_⟩
      rw [List.append_nil]
      apply longest_before (viable_where_name_is_wanted lacks)
      rintro next more rfl
      exact not_viable_of_step scanned (Place.step_start_none next notWord)
  | closingBracket =>
      obtain ⟨⟨place, scanned, ends, halts⟩, noComma, notClosing⟩ := stands
      obtain ⟨separator, left, after, separates, rfl, passed, stopped⟩ :=
        separator_passed ends halts noComma notClosing
      refine ⟨separator, separates, ?_⟩
      rw [← List.append_assoc]
      apply longest_before (viable_in_brackets lacks separates)
      intro next more begins
      apply not_viable_of_step _ (stopped next more begins)
      rw [Place.scan_append, scanned, Option.bind_some, passed]
  | endOfText =>
      obtain ⟨⟨place, scanned, ends, halts⟩, filled⟩ := stands
      obtain ⟨type, derived⟩ := lacks
      refine ⟨[], nothing, ?_⟩
      rw [List.append_nil]
      apply longest_before ⟨type, [], by rw [List.append_nil]; exact derived⟩
      rintro next more rfl ⟨other, tail, extended⟩
      by_cases goesOn : isWordCharacter next = true ∨ next = '<' ∨ next = '?'
      · exact not_viable_of_step scanned (halts next more rfl goesOn) ⟨other, tail, extended⟩
      · simp only [not_or, Bool.not_eq_true] at goesOn
        rw [List.append_assoc] at extended
        exact derived_not_extended derived goesOn extended

/-- A name is wanted at the beginning and behind an opening bracket, and nowhere else. -/
theorem scanned : ∃ place, Place.start.scan consumed = some place ∧
    (place = .start ∨ place.EndsType) ∧ (place = .start ↔ stop.wanted = .name) := by
  obtain ⟨wanted, rest⟩ := stop
  obtain ⟨stands, _⟩ := behind
  have ended : ∀ place : Place, place.EndsType → place ≠ .start := by
    rintro _ (rfl | rfl | rfl) <;> decide
  cases wanted with
  | name => exact ⟨.start, stands.1, .inl rfl, iff_of_true rfl rfl⟩
  | closingBracket =>
      obtain ⟨⟨place, scanned, ends, _⟩, _⟩ := stands
      exact ⟨place, scanned, .inr ends, iff_of_false (ended place ends) nofun⟩
  | endOfText =>
      obtain ⟨⟨place, scanned, ends, _⟩, _⟩ := stands
      exact ⟨place, scanned, .inr ends, iff_of_false (ended place ends) nofun⟩

theorem ends_solid : EndsSolid consumed := by
  obtain ⟨place, scanned, solid, _⟩ := behind.scanned
  intro last ends
  obtain ⟨before, stepped⟩ := Place.scan_last ends scanned
  exact Place.step_solid stepped solid

theorem wants_name_iff :
    stop.wanted = .name ↔ consumed = [] ∨ consumed.getLast? = some '<' := by
  obtain ⟨place, scanned, _, atStart⟩ := behind.scanned
  rw [← atStart, Place.scan_start_iff scanned]

theorem wants_end_iff : stop.wanted = .endOfText ↔ ∃ type, Derives type consumed := by
  obtain ⟨place, scanned, _, atStart⟩ := behind.scanned
  obtain ⟨wanted, rest⟩ := stop
  obtain ⟨_, lacks⟩ := behind
  constructor
  · rintro rfl
    exact lacks
  · rintro ⟨type, derived⟩
    cases wanted with
    | endOfText => rfl
    | name =>
        obtain ⟨after, passed, ends⟩ := derived_scans derived .start (.inl rfl)
        rw [passed, Option.some_inj, atStart.mpr rfl] at scanned
        rcases ends with same | same | same <;> rw [scanned] at same <;> cases same
    | closingBracket =>
        -- With a bracket behind it, the text would be one of a type as well.
        obtain ⟨whole, more, extended⟩ := lacks [] [] .nothing
        rw [List.append_nil] at extended
        exact absurd extended (derived_not_extended derived ⟨by decide, by decide, by decide⟩)

end Stop.IsBehind

/-! ## Reports -/

theorem byte_count_append (first second : List Char) :
    byteCount (first ++ second) = byteCount first + byteCount second := by
  induction first with
  | nil => simp [byteCount]
  | cons character rest induction => simp [byteCount, induction, Nat.add_assoc]

theorem byte_count_size (text : List Char) :
    byteCount text = (String.ofList text).utf8ByteSize := by
  induction text with
  | nil => rfl
  | cons character rest induction => simp [byteCount, induction]

/-- A text that is refused is reported with the bytes in front of where reading stopped. -/
theorem parse_stops {text : String} (rejected : ∀ type, ¬ Derives type text.toList) :
    ∃ (stop : Stop) (consumed : List Char), text.toList = consumed ++ stop.rest ∧
      stop.IsBehind consumed ∧
      parse text = .error ⟨.malformedType text (String.ofList consumed).utf8ByteSize, [],
        ["Parser stopped at: " ++ stop.wanted.label]⟩ := by
  cases read : readWhole text.toList with
  | ok type => exact absurd ((read_whole_iff_derives _ _).mp read) (rejected type)
  | error stop =>
      obtain ⟨consumed, split, behind⟩ := read_whole_stops read
      refine ⟨stop, consumed, split, behind, ?_⟩
      have bytes : byteCount text.toList - byteCount stop.rest = byteCount consumed := by
        rw [split, byte_count_append, Nat.add_sub_cancel]
      rw [parse, read]
      dsimp only
      rw [bytes, byte_count_size]
      rfl

/-- A text that is one of no type is reported whole, with the bytes of its longest viable beginning
but for the separator that dangles at its end. The end of the text was wanted there if what is in
front is one of a type, a name if nothing or an opening bracket is in front, and a character
otherwise. -/
theorem rejected_behind_viable_beginning (text : String)
    (rejected : ∀ type, ¬ Derives type text.toList) :
    ∃ longest before rest code, IsLongestViable longest text.toList ∧
      before = withoutSeparator longest ∧ text.toList = before ++ rest ∧
      parse text = .error ⟨.malformedType text (String.ofList before).utf8ByteSize, [],
        ["Parser stopped at: " ++ code]⟩ ∧
      (code = "Eof" ↔ ∃ type, Derives type before) ∧
      (code = "TakeWhile1" ↔ before = [] ∨ before.getLast? = some '<') ∧
      (code = "Char" ↔
        ¬ (∃ type, Derives type before) ∧ ¬ (before = [] ∨ before.getLast? = some '<')) := by
  obtain ⟨stop, consumed, split, behind, reported⟩ := parse_stops rejected
  obtain ⟨separator, separates, longest⟩ := behind.longest
  refine ⟨consumed ++ separator, consumed, stop.rest, stop.wanted.label, ?_,
    (without_separator_append behind.ends_solid separates).symm, split, reported, ?_, ?_, ?_⟩
  · rw [split]
    exact longest
  · rw [← behind.wants_end_iff]
    cases stop.wanted <;> decide
  · rw [← behind.wants_name_iff]
    cases stop.wanted <;> decide
  · rw [← behind.wants_end_iff, ← behind.wants_name_iff]
    cases stop.wanted <;> decide

/-- A comma with nothing but a strange character behind it is left out, together with the tab: the
place is in front of it, where a bracket was wanted. -/
theorem comma_before_strange_character :
    let text := "Map<Int?,\t😀>"
    (∀ type, ¬ Derives type text.toList) ∧
      ∃ longest before, IsLongestViable longest text.toList ∧ before = withoutSeparator longest ∧
        (String.ofList before).utf8ByteSize = 8 ∧ ¬ (∃ type, Derives type before) ∧
        ¬ (before = [] ∨ before.getLast? = some '<') := by
  intro text
  have reported : parse text = .error ⟨.malformedType text 8, [], ["Parser stopped at: Char"]⟩ := by
    decide +kernel
  have rejected : ∀ type, ¬ Derives type text.toList := by
    intro type derived
    rw [(parse_ok_iff text type).mpr derived] at reported
    cases reported
  obtain ⟨longest, before, rest, code, isLongest, without, _, sameReport, _, _, wantsCharacter⟩ :=
    rejected_behind_viable_beginning text rejected
  rw [reported] at sameReport
  simp only [Except.error.injEq, Report.mk.injEq, Fault.malformedType.injEq, List.cons.injEq]
    at sameReport
  obtain ⟨⟨-, bytes⟩, -, note, -⟩ := sameReport
  have isCharacter : code = "Char" :=
    (String.append_right_inj "Parser stopped at: ").mp (note.symm.trans (by decide))
  obtain ⟨notWhole, notName⟩ := wantsCharacter.mp isCharacter
  exact ⟨rejected, longest, before, isLongest, without, bytes.symm, notWhole, notName⟩

end Recordsmith.TypeExpr
