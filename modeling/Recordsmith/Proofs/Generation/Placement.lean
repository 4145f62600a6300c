import Recordsmith.Generation.Directory
import Recordsmith.Proofs.Companion.Files
import Recordsmith.Proofs.Generation.Calls

/-!
Where the files of a directory lie. A file goes to the generated root below the root of the
directory, unless a segment of its package begins with a slash: then it goes where that segment
says, and neither root has a part in it.
-/

namespace Recordsmith

open Storage

namespace Directory

theorem prepare_written (directory : Directory) (path : String) :
    (directory.prepare path).1.written = directory.written := by
  unfold prepare
  split
  · rfl
  · split <;> rfl

theorem write_text_ok (directory : Directory) (path text : String)
    (taken : (directory.writeText path text).outcome = .ok ()) :
    (directory.writeText path text).store.written = directory.written ++ [path] := by
  unfold writeText at taken ⊢
  split at taken
  next => rfl
  next => cases taken

/-- An artifact that a directory takes is written to its path. -/
theorem emit_ok (artifact : Artifact) (directory : Directory)
    (taken : (Sink.emit artifact directory).outcome = .ok ()) :
    (Sink.emit artifact directory).store.written =
      directory.written ++ [directory.path artifact] := by
  have kept := directory.prepare_written (directory.path artifact)
  cases ready : directory.prepare (directory.path artifact) with
  | mk prepared outcome =>
      rw [ready] at kept
      cases outcome with
      | error report =>
          simp only [Sink.emit, ready] at taken
          cases taken
      | ok done =>
          simp only [Sink.emit, ready] at taken ⊢
          rw [← show prepared.written = directory.written from kept]
          exact prepared.write_text_ok _ _ taken

end Directory

namespace Generation

/-- The file of a generated candidate lies below the generated root exactly when no segment of its
package begins with a slash, or those that do lead back there; in the first case it also lies below
the root of the directory. -/
theorem files_stay_below_iff (settings : Settings) (candidate : Candidate)
    (directory : Directory) (partialName : String)
    (relative : isAbsolute settings.generatedRoot = false)
    (noParent : ".." ∉ parts settings.generatedRoot)
    (generated : (process settings candidate directory).outcome =
      .ok (.generated partialName)) :
    let output := join directory.root settings.generatedRoot
    ∃ record path, candidate.describe = .ok record ∧
      (process settings candidate directory).store.written = directory.written ++ [path] ∧
      path = join directory.root (record.targetFile settings) ∧
      (IsBelow output path ↔
        (∀ segment ∈ record.packageSegments, isAbsolute segment = false) ∨
          (isAbsolute directory.root = true ∧
            parts output <+: parts (record.packageSegments.foldl join ""))) ∧
      (IsBelow output path → IsBelow directory.root path) := by
  intro output
  obtain ⟨record, artifact, described, synthesized, taken, stored⟩ :=
    process_generated settings candidate directory partialName generated
  have target := synthesized_target synthesized
  have noStops : ∀ segment ∈ record.packageSegments, '.' ∉ segment.toList :=
    fun segment member => (Text.dotted_segment record.package segment member).2
  have outputAbsolute : isAbsolute output = isAbsolute directory.root := by
    rw [absolute_join, relative, Bool.or_false]
  refine ⟨record, join directory.root (record.targetFile settings), described, ?_, rfl, ?_, ?_⟩
  · rw [stored, Directory.emit_ok artifact directory taken, Directory.path, target]
  · rw [RecordDescriptor.target_file_fold, join_fold, RecordDescriptor.filePath,
      fold_below_iff _ _ _ noStops record.file_name_part
        (record.file_name_other ".." (by decide)), outputAbsolute]
  · rintro ⟨sameBeginning, rest, filled, noParentBelow, below⟩
    refine ⟨sameBeginning.trans outputAbsolute, parts settings.generatedRoot ++ rest, ?_, ?_, ?_⟩
    · exact List.append_ne_nil_of_right_ne_nil _ filled
    · rw [List.mem_append]
      exact fun isParent => isParent.elim noParent noParentBelow
    · rw [below, parts_join directory.root _ relative, List.append_assoc]

/-- A record of a package is written below the generated root. -/
theorem packaged_record_stays_below :
    let candidate := Candidate.record "com.example.MyData" []
    let directory := Directory.ofRoot "out" .empty
    ∃ path, (process .standard candidate directory).store.written = [path] ∧
      IsBelow (join "out" "generated") path := by
  intro candidate directory
  obtain ⟨record, path, described, written, _, below, _⟩ :=
    files_stay_below_iff .standard candidate directory "PartialMyData" (by decide) (by decide)
      (by decide +kernel)
  have segments : candidate.describe.toOption.map RecordDescriptor.packageSegments =
      some ["com", "example"] := by decide +kernel
  rw [described] at segments
  have below := below.mpr (.inl (by rw [Option.some.inj segments]; decide))
  exact ⟨path, written, below⟩

/-- A package that begins with a slash is written outside of the directory. -/
theorem rooted_package_escapes :
    let candidate := Candidate.record "/srv/app.MyData" []
    let processed := process .standard candidate (Directory.ofRoot "out" .empty)
    processed.outcome = .ok (.generated "PartialMyData") ∧
      processed.store.written = ["/srv/app/my_data_buildable.rs"] ∧
      ¬ IsBelow (join "out" "generated") "/srv/app/my_data_buildable.rs" := by
  intro candidate processed
  refine ⟨by decide +kernel, by decide +kernel, ?_⟩
  rintro ⟨sameBeginning, _⟩
  revert sameBeginning
  decide

end Generation

end Recordsmith
