import Recordsmith.Proofs.Record.Describing
import Recordsmith.Proofs.Text.DottedNames

/-!
Qualified names of described records. A candidate's name is taken apart into the package, the
scopes and the simple name; put together again these are the name, and none of its parts is lost on
the way, as long as none is empty.
-/

namespace Recordsmith.Candidate

open Text

theorem drop_ending_joined {text ending kept : String}
    (dropped : dropEnding? text ending = some kept) : kept ++ ending = text := by
  unfold dropEnding? at dropped
  dsimp only at dropped
  split at dropped
  next ends =>
    rw [← String.toList_inj, ← Option.some.inj dropped, String.toList_append, String.toList_ofList]
    nth_rewrite 2 [← ends]
    rw [List.take_append_drop]
  next => cases dropped

/-- The package and the scoped name are the whole name, unless there is no package. -/
theorem package_joined {candidate : Candidate} {package : String}
    (packaged : candidate.package = .ok package) :
    (package = "" ∧ candidate.qualifiedName = candidate.scopedName) ∨
      candidate.qualifiedName = String.intercalate "." [package, candidate.scopedName] := by
  unfold Candidate.package at packaged
  split at packaged
  next whole => exact .inl ⟨(Except.ok.inj packaged).symm, whole⟩
  next =>
    split at packaged
    next found dropped =>
      obtain ⟨opened, droppedName, droppedStop⟩ := Option.bind_eq_some_iff.mp dropped
      right
      rw [← drop_ending_joined droppedName, ← drop_ending_joined droppedStop,
        Except.ok.inj packaged]
      simp
    next => cases packaged

section

variable {candidate : Candidate} (gapless : IsGapless candidate.qualifiedName)

include gapless

/-- The parts of the scoped name: those of the scopes, and the simple name. -/
theorem scoped_name_parts (scopedGapless : IsGapless candidate.scopedName) :
    dottedParts candidate.scopedName =
        candidate.enclosingScopes.reverse.flatMap dottedSegments ++ [candidate.simpleName] := by
  have simple : dottedParts candidate.simpleName = [candidate.simpleName] :=
    dotted_parts_single _ (last_dotted_part_no_stop _)
  have named : candidate.simpleName ≠ "" := gapless_last gapless
  rw [← dotted_segments_join]
  change _ = dottedSegments candidate.scopeQualifier ++ _
  rw [scopedName] at scopedGapless ⊢
  by_cases unscoped : candidate.scopeQualifier = ""
  · rw [unscoped, join_dotted_empty, join_dotted_filled _ (by simpa using named),
      String.intercalate_singleton, simple]
    rfl
  · rw [join_dotted_filled _ (by simpa using ⟨unscoped, named⟩)] at scopedGapless ⊢
    have scopes := (gapless_join_iff _ (by simp)).mp scopedGapless _ List.mem_cons_self
    rw [dotted_parts_join _ (by simp), gapless_segments scopes]
    simp [simple]

theorem scoped_name_gapless {package : String} (packaged : candidate.package = .ok package) :
    IsGapless candidate.scopedName := by
  rcases package_joined packaged with ⟨_, whole⟩ | whole
  · rw [← whole]
    exact gapless
  · rw [whole, gapless_join_iff _ (by simp)] at gapless
    exact gapless _ (by simp)

/-- The segments of the package and the parts of the scoped name are the parts of the whole, and
joined they are the whole. -/
theorem package_segments_parts {package : String} (packaged : candidate.package = .ok package) :
    dottedSegments package ++ dottedParts candidate.scopedName =
        dottedParts candidate.qualifiedName ∧
      joinDotted [package, candidate.scopedName] = candidate.qualifiedName := by
  have scopedFilled := gapless_filled (scoped_name_gapless gapless packaged)
  rcases package_joined packaged with ⟨rfl, whole⟩ | whole
  · rw [whole, join_dotted_empty, join_dotted_filled _ (by simpa using scopedFilled)]
    exact ⟨rfl, String.intercalate_singleton⟩
  · rw [whole, gapless_join_iff _ (by simp)] at gapless
    have packageGapless : IsGapless package := gapless _ List.mem_cons_self
    rw [whole, join_dotted_filled _ (by simpa using ⟨gapless_filled packageGapless, scopedFilled⟩),
      dotted_parts_join _ (by simp), gapless_segments packageGapless]
    simp

end

/-- Describing a candidate whose name has no empty part splits the name without loss: the segments of
the package and of the path are its parts, the path is what the scopes and the simple name say, and
both the scoped and the whole name are made of them again. So candidates of different names are
never described by the same one. -/
theorem described_names_survive (candidate : Candidate) (record : RecordDescriptor)
    (gapless : IsGapless candidate.qualifiedName) (described : candidate.describe = .ok record) :
    record.qualifiedName = candidate.qualifiedName ∧
      record.packageSegments ++ record.pathSegments = dottedParts candidate.qualifiedName ∧
      record.pathSegments =
        candidate.enclosingScopes.reverse.flatMap dottedSegments ++ [candidate.simpleName] ∧
      record.scopedName = String.intercalate "." record.pathSegments ∧
      ∀ (other : Candidate) (otherRecord : RecordDescriptor), IsGapless other.qualifiedName →
        other.describe = .ok otherRecord → candidate.qualifiedName ≠ other.qualifiedName →
          record.qualifiedName ≠ otherRecord.qualifiedName := by
  have rejoined : ∀ (origin : Candidate) (made : RecordDescriptor),
      IsGapless origin.qualifiedName → origin.describe = .ok made →
        made.qualifiedName = origin.qualifiedName := by
    intro origin made gapless described
    obtain ⟨declared, package, fields, _, packaged, _, _, rfl⟩ := describe_ok_iff.mp described
    rw [RecordDescriptor.qualifiedName, ← join_dotted_nested]
    exact (package_segments_parts gapless packaged).2
  obtain ⟨declared, package, fields, _, packaged, _, _, rfl⟩ := describe_ok_iff.mp described
  have path : candidate.enclosingScopes.reverse.flatMap dottedSegments ++ [candidate.simpleName] =
      dottedParts candidate.scopedName :=
    (scoped_name_parts gapless (scoped_name_gapless gapless packaged)).symm
  have segments : RecordDescriptor.pathSegments ⟨package, candidate.scopeQualifier,
      candidate.simpleName, candidate.visibility, fields⟩ =
        candidate.enclosingScopes.reverse.flatMap dottedSegments ++ [candidate.simpleName] := by
    rw [RecordDescriptor.pathSegments, scopeQualifier, dotted_segments_join]
  refine ⟨rejoined _ _ gapless described, ?_, segments, ?_, ?_⟩
  · rw [segments, path]
    exact (package_segments_parts gapless packaged).1
  · rw [segments, path, join_dotted_parts]
    rfl
  · intro other otherRecord otherGapless otherDescribed different same
    rw [rejoined _ _ gapless described, rejoined _ _ otherGapless otherDescribed] at same
    exact different same

/-- A scope whose name is dotted is two segments of the path; a scope without a name is none, and
what looks like a scope in front of it belongs to the package. -/
theorem dotted_scope_survives :
    let nested := (Candidate.record "com.example.Outer.Middle.Inner.Nested"
      [.ofText "arg1" "List<Int>"]).withEnclosingScopes ["Inner", "Outer.Middle"]
    let packaged := (Candidate.record "com.example.Outer.Nested" []).withEnclosingScopes [""]
    ∃ record packagedRecord, IsGapless nested.qualifiedName ∧ nested.describe = .ok record ∧
      IsGapless packaged.qualifiedName ∧ packaged.describe = .ok packagedRecord ∧
      record.pathSegments = ["Outer", "Middle", "Inner", "Nested"] ∧
      record.qualifiedName = "com.example.Outer.Middle.Inner.Nested" ∧
      packagedRecord.pathSegments = ["Nested"] ∧
      record.qualifiedName ≠ packagedRecord.qualifiedName := by
  intro nested packaged
  have gapless : IsGapless nested.qualifiedName := by decide
  have packagedGapless : IsGapless packaged.qualifiedName := by decide
  have isDescribed : nested.describe.toOption.isSome = true := by decide +kernel
  have packagedIsDescribed : packaged.describe.toOption.isSome = true := by decide +kernel
  obtain ⟨record, described⟩ := succeeds_ok isDescribed
  obtain ⟨packagedRecord, packagedDescribed⟩ := succeeds_ok packagedIsDescribed
  obtain ⟨whole, _, path, _, apart⟩ := described_names_survive nested record gapless described
  obtain ⟨_, _, packagedPath, _, _⟩ :=
    described_names_survive packaged packagedRecord packagedGapless packagedDescribed
  refine ⟨record, packagedRecord, gapless, described, packagedGapless, packagedDescribed, ?_, whole,
    ?_, apart packaged packagedRecord packagedGapless packagedDescribed (by decide)⟩
  · rw [path]
    decide
  · rw [packagedPath]
    decide

end Recordsmith.Candidate
