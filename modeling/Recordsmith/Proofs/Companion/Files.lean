import Recordsmith.Companion.Artifact
import Recordsmith.Proofs.Outcome
import Recordsmith.Proofs.Storage.Paths
import Recordsmith.Proofs.Text.Words

/-!
Target files. The directories of a file are the segments of the package, and its name says which
words the scopes and the name of the record are made of. It does not say which of the words stand
together, nor what their case was, so records that differ in nothing else share their file.
-/

namespace Recordsmith

open Storage

namespace RecordDescriptor

/-- The words of the scopes and the name, as they come one after another in the name of the file. -/
def fileWords (record : RecordDescriptor) : List String :=
  record.pathSegments.flatMap Text.snakeParts

/-- The name of the file without its ending. -/
def fileStem (record : RecordDescriptor) : String :=
  String.intercalate "_" (record.pathSegments.map Text.snakeCase)

theorem split_file_stem (record : RecordDescriptor) :
    record.fileStem.toList.splitOn '_' = record.fileWords.map String.toList := by
  have joined : record.fileStem.toList =
      ['_'].intercalate ((record.pathSegments.map Text.snakeCase).map String.toList) :=
    String.toList_intercalate
  have filled : (record.pathSegments.map Text.snakeCase).map String.toList ≠ [] := by
    simp [pathSegments]
  rw [joined, Text.split_join '_' _ filled, List.map_map, List.flatMap_map, fileWords,
    List.map_flatMap]
  simp only [Function.comp_apply, Text.split_snake_case]

theorem joined_file_stem (record : RecordDescriptor) :
    record.fileStem.toList = ['_'].intercalate (record.fileWords.map String.toList) := by
  rw [← split_file_stem, List.intercalate_splitOn]

theorem file_name_iff_words (first second : RecordDescriptor) :
    first.fileName = second.fileName ↔ first.fileWords = second.fileWords := by
  change first.fileStem ++ fileEnding = second.fileStem ++ fileEnding ↔ _
  rw [String.append_left_inj]
  constructor
  · intro same
    have split := split_file_stem first
    rw [same, split_file_stem] at split
    exact (List.map_injective_iff.mpr fun _ _ => String.toList_injective) split.symm
  · intro same
    rw [← String.toList_inj, joined_file_stem, joined_file_stem, same]

theorem file_name_list (record : RecordDescriptor) :
    record.fileName.toList = record.fileStem.toList ++ fileEnding.toList :=
  String.toList_append

/-- The name of a file is no shorter than its ending. -/
theorem file_name_other (record : RecordDescriptor) (name : String)
    (short : name.toList.length < fileEnding.toList.length) : record.fileName ≠ name := by
  rintro rfl
  rw [file_name_list, List.length_append] at short
  omega

theorem file_name_part (record : RecordDescriptor) : IsPart record.fileName := by
  refine ⟨?_, record.file_name_other "" (by decide), record.file_name_other "." (by decide)⟩
  rw [file_name_list, List.mem_append, joined_file_stem]
  rintro (inStem | inEnding)
  · rcases Text.joined_character _ _ _ inStem with line | ⟨characters, listed, slash⟩
    · cases line
    · obtain ⟨word, isWord, rfl⟩ := List.mem_map.mp listed
      obtain ⟨segment, _, isPart⟩ := List.mem_flatMap.mp isWord
      exact Text.snake_part_no_sign segment word isPart '/' slash (by unfold Text.IsSign; decide)
  · revert inEnding
    decide

theorem package_segment_part (record : RecordDescriptor) (segment : String)
    (member : segment ∈ record.packageSegments) (noSlash : '/' ∉ segment.toList) :
    IsPart segment := by
  obtain ⟨filled, noStop⟩ := Text.dotted_segment record.package segment member
  refine ⟨noSlash, filled, ?_⟩
  rintro rfl
  exact noStop (by decide)

/-- The names that lead from the generated root to the file. -/
def filePath (record : RecordDescriptor) : List String :=
  record.packageSegments ++ [record.fileName]

theorem target_file_fold (record : RecordDescriptor) (settings : Settings) :
    record.targetFile settings = record.filePath.foldl join settings.generatedRoot := by
  rw [filePath, List.foldl_append, List.foldl_cons, List.foldl_nil, targetFile]

theorem file_path_parts (record : RecordDescriptor)
    (package : ∀ segment ∈ record.packageSegments, '/' ∉ segment.toList) :
    ∀ name ∈ record.filePath, IsPart name := by
  intro name member
  rcases List.mem_append.mp member with inPackage | isFile
  · exact package_segment_part record name inPackage (package name inPackage)
  · rw [List.mem_singleton.mp isFile]
    exact file_name_part record

theorem file_path_iff (first second : RecordDescriptor) :
    first.filePath = second.filePath ↔
      first.packageSegments = second.packageSegments ∧ first.fileWords = second.fileWords := by
  rw [filePath, filePath, ← file_name_iff_words]
  constructor
  · intro same
    obtain ⟨packages, names⟩ := List.append_inj' same (by simp only [List.length_singleton])
    exact ⟨packages, List.singleton_inj.mp names⟩
  · rintro ⟨packages, names⟩
    rw [packages, names]

end RecordDescriptor

theorem synthesized_target {record : RecordDescriptor} {settings : Settings} {artifact : Artifact}
    (synthesized : record.synthesize settings = .ok artifact) :
    artifact.targetFile = record.targetFile settings := by
  rw [RecordDescriptor.synthesize] at synthesized
  obtain ⟨plan, _, made⟩ := bind_ok synthesized
  rw [← Except.ok.inj made]

/-- The files of two records are apart exactly when the records lie in different packages or their
scopes and names are made of different words; the directory that they are written to makes no
difference. -/
theorem files_apart_iff_words_differ (settings : Settings) (first second : RecordDescriptor)
    (firstArtifact secondArtifact : Artifact)
    (firstMade : first.synthesize settings = .ok firstArtifact)
    (secondMade : second.synthesize settings = .ok secondArtifact)
    (firstPackage : ∀ segment ∈ first.packageSegments, '/' ∉ segment.toList)
    (secondPackage : ∀ segment ∈ second.packageSegments, '/' ∉ segment.toList) :
    (samePath firstArtifact.targetFile secondArtifact.targetFile = false ↔
      first.packageSegments ≠ second.packageSegments ∨ first.fileWords ≠ second.fileWords) ∧
    ∀ root, samePath (join root firstArtifact.targetFile) (join root secondArtifact.targetFile) =
      samePath firstArtifact.targetFile secondArtifact.targetFile := by
  have firstParts := first.file_path_parts firstPackage
  have secondParts := second.file_path_parts secondPackage
  rw [synthesized_target firstMade, synthesized_target secondMade,
    RecordDescriptor.target_file_fold, RecordDescriptor.target_file_fold]
  constructor
  · rw [← not_and_or, ← RecordDescriptor.file_path_iff, ← Bool.not_eq_true,
      same_path_fold _ _ _ firstParts secondParts]
  · intro root
    rw [Bool.eq_iff_iff, join_fold, join_fold, same_path_fold _ _ _ firstParts secondParts,
      same_path_fold _ _ _ firstParts secondParts]

/-- Two records of one name in scopes of their own, which have files of their own. -/
theorem scoped_records_keep_files_apart :
    let first : RecordDescriptor := ⟨"app", "Scope1", "Nested", "pub", []⟩
    let second : RecordDescriptor := ⟨"app", "Scope2", "Nested", "pub", []⟩
    ∃ firstArtifact secondArtifact,
      first.synthesize .standard = .ok firstArtifact ∧
        second.synthesize .standard = .ok secondArtifact ∧
        samePath firstArtifact.targetFile secondArtifact.targetFile = false := by
  intro first second
  have firstSucceeds : (first.synthesize .standard).toOption.isSome = true := by decide +kernel
  have secondSucceeds : (second.synthesize .standard).toOption.isSome = true := by decide +kernel
  obtain ⟨firstArtifact, firstMade⟩ := succeeds_ok firstSucceeds
  obtain ⟨secondArtifact, secondMade⟩ := succeeds_ok secondSucceeds
  refine ⟨firstArtifact, secondArtifact, firstMade, secondMade, ?_⟩
  exact (files_apart_iff_words_differ .standard first second _ _ firstMade secondMade
    (by decide) (by decide)).1.mpr (.inr (by decide))

/-- `Foo.Bar.Nested` and `FooBar.Nested` of one package share their file. -/
theorem scopes_of_equal_words_share_a_file :
    let first : RecordDescriptor := ⟨"app", "Foo.Bar", "Nested", "pub", []⟩
    let second : RecordDescriptor := ⟨"app", "FooBar", "Nested", "pub", []⟩
    ((first.packageSegments ++ first.pathSegments ++ second.packageSegments ++
        second.pathSegments).all fun name => name.toList.all Char.isAlpha) = true ∧
      first.qualifiedName ≠ second.qualifiedName ∧
      ∃ firstArtifact secondArtifact,
        first.synthesize .standard = .ok firstArtifact ∧
          second.synthesize .standard = .ok secondArtifact ∧
          firstArtifact.targetFile = secondArtifact.targetFile := by
  intro first second
  have firstSucceeds : (first.synthesize .standard).toOption.isSome = true := by decide +kernel
  have secondSucceeds : (second.synthesize .standard).toOption.isSome = true := by decide +kernel
  obtain ⟨firstArtifact, firstMade⟩ := succeeds_ok firstSucceeds
  obtain ⟨secondArtifact, secondMade⟩ := succeeds_ok secondSucceeds
  refine ⟨by decide, by decide, firstArtifact, secondArtifact, firstMade, secondMade, ?_⟩
  rw [synthesized_target firstMade, synthesized_target secondMade]
  decide

end Recordsmith
