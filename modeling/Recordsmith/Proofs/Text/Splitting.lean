import Mathlib.Tactic.SplitIfs
import Recordsmith.Text.Dotted

/-!
Split texts. The parts of a text hold none of the characters that it was split at, and joined by
such a character they are the text again.
-/

namespace Recordsmith.Text

theorem split_by_eq (separates : Char → Bool) (text : List Char) :
    splitBy separates text = text.splitOnP separates := by
  induction text with
  | nil => rfl
  | cons character rest induction =>
      rw [splitBy, induction, List.splitOnP_cons_eq_if_modifyHead]
      split_ifs
      · rfl
      · cases parts : rest.splitOnP separates with
        | nil => exact absurd parts (List.splitOnP_ne_nil _ _)
        | cons part others => rfl

theorem split_character (separates : Char → Bool) (text part : List Char)
    (isPart : part ∈ splitBy separates text) (character : Char) (member : character ∈ part) :
    separates character = false ∧ character ∈ text := by
  induction text generalizing part with
  | nil =>
      rw [splitBy, List.mem_singleton] at isPart
      rw [isPart] at member
      cases member
  | cons first rest induction =>
      rw [splitBy] at isPart
      split_ifs at isPart with separator
      · rcases List.mem_cons.mp isPart with rfl | later
        · cases member
        · obtain ⟨kept, isLater⟩ := induction part later member
          exact ⟨kept, List.mem_cons_of_mem first isLater⟩
      · -- The first part is one character longer than that of the rest.
        cases parts : splitBy separates rest with
        | nil =>
            rw [parts] at isPart
            rw [List.mem_singleton.mp isPart, List.mem_singleton] at member
            exact ⟨by simp [member, separator], by simp [member]⟩
        | cons head others =>
            rw [parts] at isPart induction
            rcases List.mem_cons.mp isPart with rfl | later
            · rcases List.mem_cons.mp member with rfl | inHead
              · exact ⟨by simp [separator], by simp⟩
              · obtain ⟨kept, isLater⟩ := induction head (by simp) inHead
                exact ⟨kept, List.mem_cons_of_mem first isLater⟩
            · obtain ⟨kept, isLater⟩ := induction part (by simp [later]) member
              exact ⟨kept, List.mem_cons_of_mem first isLater⟩

theorem joined_character (separator : Char) (texts : List (List Char)) (character : Char)
    (member : character ∈ [separator].intercalate texts) :
    character = separator ∨ ∃ text ∈ texts, character ∈ text := by
  induction texts with
  | nil => cases member
  | cons text rest induction =>
      cases rest with
      | nil =>
          rw [List.intercalate_singleton] at member
          exact .inr ⟨text, by simp, member⟩
      | cons next others =>
          rw [List.intercalate_cons_cons] at member
          simp only [List.append_assoc, List.mem_append, List.mem_singleton] at member
          rcases member with first | separates | later
          · exact .inr ⟨text, by simp, first⟩
          · exact .inl separates
          · exact (induction later).imp_right fun ⟨other, listed, inOther⟩ =>
              ⟨other, List.mem_cons_of_mem text listed, inOther⟩

/-- Splitting what was joined splits each of the joined texts. -/
theorem split_join (separator : Char) (texts : List (List Char)) (filled : texts ≠ []) :
    ([separator].intercalate texts).splitOn separator = texts.flatMap (·.splitOn separator) := by
  induction texts with
  | nil => exact absurd rfl filled
  | cons text rest induction =>
      cases rest with
      | nil => simp
      | cons next others =>
          rw [List.intercalate_cons_cons, List.append_assoc, List.singleton_append,
            List.splitOn_append_cons_self, induction (by simp), List.flatMap_cons]
          rfl

/-- The segments of a dotted name are not empty and hold no full stop. -/
theorem dotted_segment (text segment : String) (member : segment ∈ dottedSegments text) :
    segment ≠ "" ∧ '.' ∉ segment.toList := by
  rw [dottedSegments, List.mem_filter, dottedParts, List.mem_map] at member
  obtain ⟨⟨part, isPart, rfl⟩, filled⟩ := member
  refine ⟨by simpa using filled, ?_⟩
  rw [String.toList_ofList]
  intro stop
  have kept := (split_character _ _ part isPart '.' stop).1
  cases kept

end Recordsmith.Text
