import Mathlib.Data.List.DropRight
import Recordsmith.Proofs.Text.Splitting

/-!
Dotted names taken apart and put together. The parts of names that were joined by full stops are
the parts of all of them, and joined again they are the name. Where a name has no empty part, its
segments are all of its parts, and leaving out empty names changes nothing.
-/

namespace Recordsmith.Text

/-! ## Parts -/

theorem dotted_parts_split (text : String) :
    (dottedParts text).map String.toList = text.toList.splitOn '.' := by
  rw [dottedParts, split_by_eq, List.map_map, List.splitOn_eq_splitOnP]
  simp [Function.comp_def]

/-- Joined by full stops, the parts of a name are the name. -/
theorem join_dotted_parts (text : String) : String.intercalate "." (dottedParts text) = text := by
  rw [← String.toList_inj, String.toList_intercalate, dotted_parts_split]
  exact List.intercalate_splitOn '.'

/-- The parts of joined names are the parts of each of them. -/
theorem dotted_parts_join (texts : List String) (filled : texts ≠ []) :
    dottedParts (String.intercalate "." texts) = texts.flatMap dottedParts := by
  have split := split_join '.' (texts.map String.toList) (by simpa using filled)
  have joined : (String.intercalate "." texts).toList =
      ['.'].intercalate (texts.map String.toList) := String.toList_intercalate
  apply List.map_injective_iff.mpr fun _ _ => String.toList_injective
  rw [dotted_parts_split, joined, split, List.flatMap_map, List.map_flatMap]
  simp only [dotted_parts_split]

theorem dotted_parts_single (text : String) (noStop : '.' ∉ text.toList) :
    dottedParts text = [text] := by
  apply List.map_injective_iff.mpr fun _ _ => String.toList_injective
  rw [dotted_parts_split, List.splitOn_eq_singleton noStop]
  rfl

/-! ## The last part -/

theorem last_dotted_part_no_stop (text : String) : '.' ∉ (lastDottedPart text).toList := by
  rw [lastDottedPart, String.toList_ofList, List.mem_reverse]
  intro stop
  have isOther := List.mem_takeWhile_imp stop
  cases isOther

/-- What follows the last full stop is the last of the parts. -/
theorem last_dotted_part_eq (text : String) :
    (dottedParts text).getLast? = some (lastDottedPart text) := by
  have ends : text.toList.rdropWhile (· != '.') ++ (lastDottedPart text).toList = text.toList := by
    rw [lastDottedPart, String.toList_ofList]
    exact List.rdropWhile_append_rtakeWhile
  rcases List.eq_nil_or_concat (text.toList.rdropWhile (· != '.')) with none | ⟨before, stop, split⟩
  · rw [none, List.nil_append, String.toList_inj] at ends
    have noStop := last_dotted_part_no_stop text
    rw [ends] at noStop ⊢
    rw [dotted_parts_single text noStop, List.getLast?_singleton]
  · have isStop : stop = '.' := by
      have kept := List.rdropWhile_last_not (· != '.') text.toList (by simp [split])
      simpa [split] using kept
    have parts : text = String.intercalate "." [String.ofList before, lastDottedPart text] := by
      rw [← String.toList_inj, ← ends, split, isStop]
      simp
    rw [parts, dotted_parts_join _ (by simp), ← parts]
    simp [dotted_parts_single _ (last_dotted_part_no_stop text)]

/-! ## Names without an empty part -/

/-- No part of a name is empty. -/
def IsGapless (text : String) : Prop := "" ∉ dottedParts text

instance (text : String) : Decidable (IsGapless text) :=
  inferInstanceAs (Decidable (¬ "" ∈ dottedParts text))

theorem gapless_filled {text : String} (gapless : IsGapless text) : text ≠ "" := by
  rintro rfl
  exact gapless (by decide)

theorem gapless_segments {text : String} (gapless : IsGapless text) :
    dottedSegments text = dottedParts text := by
  rw [dottedSegments, List.filter_eq_self]
  intro part member
  rw [bne_iff_ne]
  rintro rfl
  exact gapless member

theorem gapless_last {text : String} (gapless : IsGapless text) : lastDottedPart text ≠ "" := by
  intro empty
  exact gapless (List.mem_of_getLast? (empty ▸ last_dotted_part_eq text))

theorem gapless_join_iff (texts : List String) (filled : texts ≠ []) :
    IsGapless (String.intercalate "." texts) ↔ ∀ text ∈ texts, IsGapless text := by
  rw [IsGapless, dotted_parts_join texts filled, List.mem_flatMap]
  simp [IsGapless]

/-- The segments of joined names are the segments of each of them. -/
theorem dotted_segments_join (texts : List String) :
    dottedSegments (String.intercalate "." texts) = texts.flatMap dottedSegments := by
  by_cases filled : texts = []
  · rw [filled]
    decide
  · rw [dottedSegments, dotted_parts_join texts filled, List.filter_flatMap]
    rfl

/-- An empty name is left out when names are joined. -/
theorem join_dotted_empty (texts : List String) : joinDotted ("" :: texts) = joinDotted texts := by
  rw [joinDotted, List.filter_cons_of_neg (by simp), joinDotted]

/-- Names that are not empty are joined as they are. -/
theorem join_dotted_filled (texts : List String) (filled : ∀ text ∈ texts, text ≠ "") :
    joinDotted texts = String.intercalate "." texts := by
  rw [joinDotted, List.filter_eq_self.mpr]
  exact fun text member => bne_iff_ne.mpr (filled text member)

theorem join_dotted_cons (first : String) (rest : List String) (filled : first ≠ "") :
    joinDotted (first :: rest) = String.intercalate "." (first :: rest.filter (· != "")) := by
  rw [joinDotted, List.filter_cons_of_pos (by simpa using filled)]

/-- Joined names are empty only if all of them are. -/
theorem join_dotted_not_empty (texts : List String) (kept : texts.filter (· != "") ≠ []) :
    joinDotted texts ≠ "" := by
  obtain ⟨name, others, split⟩ := List.exists_cons_of_ne_nil kept
  have isKept : name ∈ texts.filter (· != "") := by simp [split]
  have named : name ≠ "" := by simpa using (List.mem_filter.mp isKept).2
  rw [joinDotted, split]
  cases others <;> simp [named]

/-- Names that were joined already can be joined to another one. -/
theorem join_dotted_nested (first : String) (rest : List String) :
    joinDotted [first, joinDotted rest] = joinDotted (first :: rest) := by
  have alone : joinDotted [joinDotted rest] = joinDotted rest := by
    by_cases nothing : joinDotted rest = ""
    · rw [nothing, join_dotted_empty]
      rfl
    · rw [join_dotted_cons _ [] nothing]
      simp
  by_cases missing : first = ""
  · rw [missing, join_dotted_empty, join_dotted_empty, alone]
  · rw [join_dotted_cons _ _ missing, join_dotted_cons _ _ missing]
    by_cases nothing : rest.filter (· != "") = []
    · have empty : joinDotted rest = "" := by
        rw [joinDotted, nothing]
        rfl
      rw [nothing, empty]
      rfl
    · have filled := join_dotted_not_empty rest nothing
      rw [List.filter_cons_of_pos (by simpa using filled), List.filter_nil,
        String.intercalate_cons_cons, String.intercalate_singleton,
        String.intercalate_cons_of_ne_nil nothing]
      rfl

end Recordsmith.Text
