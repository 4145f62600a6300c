import Recordsmith.Proofs.Outcome
import Recordsmith.Record.Describe

/-!
What describing keeps of a candidate. Every declared field is described for itself, in its place,
and fields are described as long as no name comes twice and every type is read.
-/

namespace Recordsmith

/-- A field is described by its own name and visibility, and by the type that its text reads as. -/
def DeclaredField.DescribedAs (declared : DeclaredField) (field : FieldDescriptor) : Prop :=
  ∃ type, TypeExpr.parse declared.typeText = .ok type ∧
    field = ⟨declared.name, type, declared.isVariadic, declared.visibility⟩

namespace Candidate

/-- Fields are described when their names differ from one another and from those seen before, and
each of them is described. -/
theorem describe_fields_ok_iff {record : String} {seen : List String}
    {declared : List DeclaredField} {fields : List FieldDescriptor} :
    describeFields record seen declared = .ok fields ↔
      List.Forall₂ DeclaredField.DescribedAs declared fields ∧ (declared.map (·.name)).Nodup ∧
        ∀ field ∈ declared, field.name ∉ seen := by
  induction declared generalizing seen fields with
  | nil => simp [describeFields, eq_comm]
  | cons first rest induction =>
      rw [describeFields]
      by_cases wasSeen : first.name ∈ seen
      · rw [if_pos (List.contains_iff_mem.mpr wasSeen)]
        exact ⟨nofun, fun ⟨_, _, unseen⟩ => absurd wasSeen (unseen first List.mem_cons_self)⟩
      · rw [if_neg fun contained => wasSeen (List.contains_iff_mem.mp contained)]
        simp only [bind_ok_iff, under_ok_iff, induction]
        constructor
        · rintro ⟨type, parsed, others, ⟨described, distinct, unseen⟩, whole⟩
          cases whole
          refine ⟨.cons ⟨type, parsed, rfl⟩ described, ?_, ?_⟩
          · rw [List.map_cons, List.nodup_cons]
            refine ⟨fun again => ?_, distinct⟩
            obtain ⟨field, member, same⟩ := List.mem_map.mp again
            exact unseen field member (same ▸ List.mem_cons_self)
          · exact List.forall_mem_cons.mpr ⟨wasSeen, fun field member later =>
              unseen field member (List.mem_cons_of_mem _ later)⟩
        · rintro ⟨described, distinct, unseen⟩
          obtain ⟨distinctFirst, distinctRest⟩ := List.nodup_cons.mp distinct
          cases described with
          | cons firstDescribed restDescribed =>
              obtain ⟨type, parsed, rfl⟩ := firstDescribed
              refine ⟨type, parsed, _, ⟨restDescribed, distinctRest, ?_⟩, rfl⟩
              intro field member again
              rcases List.mem_cons.mp again with same | later
              · exact distinctFirst (List.mem_map.mpr ⟨field, member, same⟩)
              · exact unseen field (List.mem_cons_of_mem _ member) later

theorem describe_ok_iff {candidate : Candidate} {record : RecordDescriptor} :
    candidate.describe = .ok record ↔ ∃ declared package fields,
      candidate.fields = some declared ∧ candidate.package = .ok package ∧
      List.Forall₂ DeclaredField.DescribedAs declared fields ∧ (declared.map (·.name)).Nodup ∧
      record = ⟨package, candidate.scopeQualifier, candidate.simpleName, candidate.visibility,
        fields⟩ := by
  unfold describe
  cases candidate.fields with
  | none => simp
  | some declared =>
      simp only [bind_ok_iff, describe_fields_ok_iff]
      constructor
      · rintro ⟨package, packaged, fields, ⟨described, distinct, _⟩, whole⟩
        cases whole
        exact ⟨declared, package, fields, rfl, packaged, described, distinct, rfl⟩
      · rintro ⟨_, package, fields, same, packaged, described, distinct, rfl⟩
        cases same
        exact ⟨package, packaged, fields, ⟨described, distinct, fun _ _ => List.not_mem_nil⟩, rfl⟩

end Candidate

/-- Describing fields keeps their names. -/
theorem described_names {declared : List DeclaredField} {fields : List FieldDescriptor}
    (described : List.Forall₂ DeclaredField.DescribedAs declared fields) :
    fields.map (·.name) = declared.map (·.name) := by
  induction described with
  | nil => rfl
  | cons first _ induction =>
      obtain ⟨type, _, rfl⟩ := first
      rw [List.map_cons, List.map_cons, induction]

end Recordsmith
