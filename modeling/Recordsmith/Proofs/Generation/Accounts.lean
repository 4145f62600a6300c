import Recordsmith.Generation.Directory
import Recordsmith.Proofs.Companion.Files
import Recordsmith.Proofs.Generation.Deliveries
import Recordsmith.Proofs.Storage.Passage
import Recordsmith.Proofs.Storage.Writings

/-!
What the tree of a directory holds after a run. The list of written paths tells everything that
happened to files: at each place to which one of them leads lies the text of the artifact that went
there last, and everywhere else nothing is new but directories. That a path leads to the same
place for the rest of the run is what carries this from one call to the next.
-/

namespace Recordsmith

open Storage

namespace Directory

/-! ## One artifact -/

theorem prepare_grows (directory : Directory) (path : String) :
    ∃ tree, directory.tree.Grows tree ∧
      (directory.prepare path).1 = { directory with tree } := by
  unfold prepare
  split
  next => exact ⟨directory.tree, directory.tree.grows_self, rfl⟩
  next parent _ =>
    have grows := directory.tree.make_directories_grows parent
    split
    next tree _ made =>
      rw [made] at grows
      exact ⟨tree, grows, rfl⟩
    next tree _ stopped =>
      rw [stopped] at grows
      exact ⟨tree, grows, rfl⟩

theorem emit_prepared {artifact : Artifact} {directory prepared : Directory}
    (ready : directory.prepare (directory.path artifact) = (prepared, .ok ())) :
    Sink.emit artifact directory =
      prepared.writeText (directory.path artifact) artifact.text := by
  simp only [Sink.emit]
  rw [ready]

theorem emit_unprepared {artifact : Artifact} {directory prepared : Directory} {report : Report}
    (failed : directory.prepare (directory.path artifact) = (prepared, .error report)) :
    Sink.emit artifact directory = ⟨prepared, .error report, []⟩ := by
  simp only [Sink.emit]
  rw [failed]

/-- An artifact becomes the file to which its path leads, and its path is noted, or it is refused.
Apart from that nothing is new but directories. -/
theorem emit_cases (artifact : Artifact) (directory : Directory) :
    let path := directory.path artifact
    let emission := Sink.emit artifact directory
    ∃ prepared, directory.tree.Grows prepared ∧
      ((∃ location, prepared.locate path = .ok location ∧
          prepared.at? location ≠ some .directory ∧
          emission.outcome = .ok () ∧
          emission.store = { directory with
            tree := prepared.put location (.file artifact.text)
            written := directory.written ++ [path] }) ∨
        ∃ report, emission.outcome = .error report ∧
          emission.store = { directory with tree := prepared }) := by
  intro path emission
  obtain ⟨prepared, grows, stored⟩ := directory.prepare_grows path
  refine ⟨prepared, grows, ?_⟩
  cases ready : directory.prepare path with
  | mk before outcome =>
      rw [ready] at stored
      subst stored
      cases outcome with
      | error report =>
          have emitted : emission = _ := emit_unprepared ready
          rw [emitted]
          exact .inr ⟨report, rfl, rfl⟩
      | ok done =>
          have emitted : emission = _ := emit_prepared ready
          rw [emitted]
          dsimp only [writeText]
          obtain ⟨location, leads, free, put⟩ | ⟨fault, refused⟩ :=
            prepared.write_cases path artifact.text
          · rw [put]
            exact .inl ⟨location, leads, free, rfl, rfl⟩
          · rw [refused]
            exact .inr ⟨_, rfl, rfl⟩

theorem write_text_ok_iff (directory : Directory) (path text : String) :
    (directory.writeText path text).outcome = .ok () ↔
      (directory.tree.write path text).2 = .ok () := by
  unfold writeText
  cases written : directory.tree.write path text with
  | mk tree outcome =>
      cases outcome with
      | ok done => exact iff_of_true rfl rfl
      | error fault => exact iff_of_false nofun nofun

/-- An artifact is taken exactly when there is room for its file. -/
theorem emit_ok_iff (artifact : Artifact) (directory : Directory) {names : List String}
    {name : String} (ends : parts (directory.path artifact) = names ++ [name])
    (noParent : name ≠ "..") :
    (Sink.emit artifact directory).outcome = .ok () ↔
      directory.tree.HasRoom (directory.path artifact) := by
  obtain ⟨parent, found, above, validAbove⟩ := parent_parts _ _ _ ends
  rw [← directory.tree.write_made_iff ends noParent artifact.text above validAbove]
  cases made : directory.tree.makeDirectories parent with
  | mk grown outcome =>
      cases outcome with
      | error fault =>
          have failed : directory.prepare (directory.path artifact) =
              ({ directory with tree := grown },
                .error (fileReport .createDirectory parent fault)) := by
            rw [prepare, found]
            dsimp only
            rw [made]
          rw [emit_unprepared failed]
          refine iff_of_false nofun ?_
          rintro ⟨other, last, same, _⟩
          cases same
      | ok last =>
          have ready : directory.prepare (directory.path artifact) =
              ({ directory with tree := grown }, .ok ()) := by
            rw [prepare, found]
            dsimp only
            rw [made]
          rw [emit_prepared ready, write_text_ok_iff]
          constructor
          · exact fun written => ⟨grown, last, rfl, written⟩
          · rintro ⟨other, reached, same, written⟩
            cases same
            exact written

/-- The path of an artifact for a candidate ends with the name of its file. -/
theorem path_ends {settings : Settings} {candidate : Candidate} {artifact : Artifact}
    (made : candidate.artifact settings = .ok artifact) (directory : Directory) :
    ∃ names name, parts (directory.path artifact) = names ++ [name] ∧ name ≠ ".." := by
  obtain ⟨record, _, synthesized⟩ := bind_ok made
  have isPart := record.file_name_part
  let base := record.packageSegments.foldl join (join directory.root settings.generatedRoot)
  have below : directory.path artifact = join base record.fileName := by
    rw [path, synthesized_target synthesized, RecordDescriptor.target_file_fold, join_fold,
      RecordDescriptor.filePath, List.foldl_append, List.foldl_cons, List.foldl_nil]
  refine ⟨parts base, record.fileName, ?_, record.file_name_other ".." (by decide)⟩
  rw [below, parts_join _ _ (part_relative _ isPart), parts_part _ isPart]

/-! ## One candidate -/

/-- How a directory changes with the outcome of work on a candidate: by the path of the artifact and
the file there, not at all when the candidate is skipped, and by nothing but directories when it
fails. -/
def Follows (before : Directory) (artifact : Outcome Artifact) (outcome : Outcome Verdict)
    (after : Directory) : Prop :=
  match outcome with
  | .ok (.generated _) =>
      ∃ made location, artifact = .ok made ∧
        after.written = before.written ++ [before.path made] ∧
        after.tree.locate (before.path made) = .ok location ∧
        after.tree.at? location = some (.file made.text) ∧
        ∀ other, other ≠ location → before.tree.IsSpared after.tree other
  | .ok (.skipped _) => after.written = before.written ∧ after.tree = before.tree
  | .error _ => after.written = before.written ∧ before.tree.Grows after.tree

end Directory

namespace Generation

open Directory

theorem process_follows (settings : Settings) (candidate : Candidate) (directory : Directory) :
    directory.Follows (candidate.artifact settings)
      (process settings candidate directory).outcome
      (process settings candidate directory).store := by
  cases unmet : candidate.unmet? with
  | some precondition =>
      rw [process_skipped _ _ _ _ unmet]
      exact ⟨rfl, rfl⟩
  | none =>
      cases made : candidate.artifact settings with
      | error report =>
          obtain ⟨stored, failed⟩ := process_failed _ _ directory _ unmet made
          rw [stored, failed]
          exact ⟨rfl, directory.tree.grows_self⟩
      | ok artifact =>
          obtain ⟨stored, handed⟩ := process_handed _ _ directory _ unmet made
          obtain ⟨prepared, grows,
            ⟨location, leads, free, accepted, after⟩ | ⟨report, refused, after⟩⟩ :=
              emit_cases artifact directory
          · rw [stored, handed, accepted, after]
            have keeps := prepared.put_file_keeps location artifact.text free
            exact ⟨artifact, location, rfl, rfl, Tree.locate_kept keeps _ _ leads,
              prepared.at_put_file _ _ free, fun other different =>
                (grows other).trans (.inl (prepared.at_put_other _ _ _ different))⟩
          · rw [stored, handed, refused, after]
            exact ⟨rfl, grows⟩

/-- A candidate with an artifact is generated exactly when there is room for its file. -/
theorem generated_iff_has_room {settings : Settings} {candidate : Candidate} {artifact : Artifact}
    (directory : Directory) (met : candidate.unmet? = none)
    (made : candidate.artifact settings = .ok artifact) :
    (∃ partialName, (process settings candidate directory).outcome =
        .ok (.generated partialName)) ↔
      directory.tree.HasRoom (directory.path artifact) := by
  obtain ⟨names, name, ends, noParent⟩ := path_ends made directory
  rw [← emit_ok_iff artifact directory ends noParent,
    (process_handed _ _ directory _ met made).2]
  cases (Sink.emit artifact directory).outcome with
  | ok done => exact iff_of_true ⟨_, rfl⟩ rfl
  | error report =>
      refine iff_of_false ?_ nofun
      rintro ⟨partialName, generated⟩
      cases generated

-- A file where the root should be is left alone.
example :
    let blocked : Tree := ⟨[(["out"], .file "")]⟩
    let processed := process .standard (.record "MyData" []) (ofRoot "out" blocked)
    processed.store.written = [] ∧ processed.store.tree = blocked := by
  decide +kernel

/-- In a batch a failure is reported on top, which touches neither the tree nor the paths. -/
theorem attempt_follows (settings : Settings) (candidate : Candidate) (directory : Directory) :
    directory.Follows (candidate.artifact settings)
        (process settings candidate directory).outcome
        (attempt settings candidate directory).store ∧
      (attempt settings candidate directory).store.written.length =
        directory.written.length + (attempt settings candidate directory).summary.generated := by
  have follows := process_follows settings candidate directory
  unfold attempt
  dsimp only
  generalize process settings candidate directory = processed at follows ⊢
  obtain ⟨store, outcome, events⟩ := processed
  match outcome with
  | .ok (.generated _) =>
      obtain ⟨artifact, location, made, written, placed⟩ := follows
      exact ⟨⟨artifact, location, made, written, placed⟩, by rw [written]; simp⟩
  | .ok (.skipped _) => exact ⟨follows, congrArg List.length follows.1⟩
  | .error _ => exact ⟨follows, congrArg List.length follows.1⟩

theorem attempt_each_counts (settings : Settings) (candidates : List Candidate)
    (directory : Directory) :
    (attemptEach settings candidates directory).store.written.length =
      directory.written.length + (attemptEach settings candidates directory).summary.generated := by
  induction candidates generalizing directory with
  | nil => rfl
  | cons candidate rest induction =>
      have counted := (attempt_follows settings candidate directory).2
      have others := induction (attempt settings candidate directory).store
      simp only [attemptEach, Summary.add] at counted others ⊢
      omega

end Generation

/-! ## Everything that was taken -/

namespace Directory

/-- The writing that an artifact asks for. -/
def writing (directory : Directory) (artifact : Artifact) : Writing :=
  ⟨directory.path artifact, artifact.text⟩

@[simp] theorem writing_path (directory : Directory) (artifact : Artifact) :
    (directory.writing artifact).path = directory.path artifact := rfl

@[simp] theorem writing_content (directory : Directory) (artifact : Artifact) :
    (directory.writing artifact).content = artifact.text := rfl

/-- A directory tells of the artifacts that it took since there was an initial tree: their paths
are noted, and they account for the tree. -/
structure Tells (root : String) (initial : Tree) (stocked : Stocked Directory) : Prop where
  root : stocked.store.root = root
  written : stocked.store.written = stocked.taken.map stocked.store.path
  accounts : initial.Accounts stocked.store.tree (stocked.taken.map stocked.store.writing)

theorem tells_emit (root : String) (initial : Tree) (artifact : Artifact)
    (stocked : Stocked Directory) (tells : Tells root initial stocked) :
    Tells root initial (Sink.emit artifact stocked).store := by
  obtain ⟨prepared, grows, ⟨location, leads, free, accepted, after⟩ | ⟨report, refused, after⟩⟩ :=
    emit_cases artifact stocked.store
  · rw [Stocked.emit_accepted accepted, after]
    refine ⟨tells.root, ?_, ?_⟩
    · rw [List.map_append, tells.written]
      rfl
    · rw [List.map_append]
      exact (tells.accounts.grown grows).written (stocked.store.writing artifact) leads free
  · rw [Stocked.emit_refused refused, after]
    exact ⟨tells.root, tells.written, tells.accounts.grown grows⟩

theorem tells_kept (root : String) (initial : Tree) :
    Generation.IsKept (Tells root initial) where
  emit artifact stocked tells := tells_emit root initial artifact stocked tells
  report _ _ tells := ⟨tells.root, tells.written, tells.accounts⟩

/-- The path of an artifact that was taken reads as the last one that was taken for its place. -/
theorem Tells.read_last {root : String} {initial : Tree} {stocked : Stocked Directory}
    (tells : Tells root initial stocked) (artifact : Artifact) (listed : artifact ∈ stocked.taken) :
    let tree := stocked.store.tree
    let path := stocked.store.path
    ∃ location earlier last later, stocked.taken = earlier ++ last :: later ∧
      tree.locate (path artifact) = .ok location ∧ tree.locate (path last) = .ok location ∧
      (∀ other ∈ later, tree.locate (path other) ≠ .ok location) ∧
      tree.read? (path artifact) = some last.text := by
  obtain ⟨location, earlier, last, later, split, leads, lastLeads, others, reads⟩ :=
    tells.accounts.read_last (stocked.store.writing artifact) (List.mem_map_of_mem listed)
  obtain ⟨first, behind, whole, rfl, mapped⟩ := List.map_eq_append_iff.mp split
  obtain ⟨made, rest, rfl, rfl, rfl⟩ := List.map_eq_cons_iff.mp mapped
  rw [writing_path] at leads lastLeads reads
  rw [writing_content] at reads
  refine ⟨location, first, made, rest, whole, leads, lastLeads, fun other inRest => ?_, reads⟩
  have elsewhere := others (stocked.store.writing other) (List.mem_map_of_mem inRest)
  rwa [writing_path] at elsewhere

/-- Where no noted path leads, nothing is new but a directory. -/
theorem Tells.spared {root : String} {initial : Tree} {stocked : Stocked Directory}
    (tells : Tells root initial stocked) (location : Location)
    (elsewhere : ∀ path ∈ stocked.store.written, stocked.store.tree.locate path ≠ .ok location) :
    initial.IsSpared stocked.store.tree location := by
  refine tells.accounts.spared location fun writing listed => ?_
  obtain ⟨artifact, inTaken, rfl⟩ := List.mem_map.mp listed
  rw [writing_path]
  refine elsewhere _ ?_
  rw [tells.written]
  exact List.mem_map_of_mem inTaken

theorem tells_initially (root : String) (tree : Tree) : Tells root tree ⟨ofRoot root tree, []⟩ :=
  ⟨rfl, rfl, tree.accounts_initially⟩

end Directory

namespace Generation

/-- A run on a directory touches only the files that it reports. There is a path more, and one file
that differs, for each candidate that is generated and for no other one, in a step of its own or in
a batch; a candidate with an artifact fails only where there is no room for the file. After the run every written path reads as the text of the artifact that was taken last for its place,
under any spelling of it. At every other place lies what lay there before, or a directory where
nothing was, and no directory is lost. -/
theorem run_touches_what_it_reports (root : String) (tree : Tree) (steps : List Step) :
    let directory := Directory.ofRoot root tree
    let final := run steps directory
    let artifacts := taken steps directory
    (∀ (visited : Directory) (settings : Settings) (candidate : Candidate),
      let processed := process settings candidate visited
      let attempted := attempt settings candidate visited
      visited.Follows (candidate.artifact settings) processed.outcome processed.store ∧
        visited.Follows (candidate.artifact settings) processed.outcome attempted.store ∧
        ∀ artifact, candidate.unmet? = none → candidate.artifact settings = .ok artifact →
          ((∃ partialName, processed.outcome = .ok (.generated partialName)) ↔
            visited.tree.HasRoom (visited.path artifact))) ∧
      (∀ (visited : Directory) (settings : Settings) (candidates : List Candidate),
        let batch := processAll settings candidates visited
        batch.store.written.length = visited.written.length + batch.summary.generated) ∧
      final.written = artifacts.map directory.path ∧
      (∀ path ∈ final.written, ∃ location earlier artifact later,
        artifacts = earlier ++ artifact :: later ∧
          final.tree.locate path = .ok location ∧
          final.tree.locate (directory.path artifact) = .ok location ∧
          (∀ other ∈ later, final.tree.locate (directory.path other) ≠ .ok location) ∧
          final.tree.read? path = some artifact.text) ∧
      (∀ location, (∀ path ∈ final.written, final.tree.locate path ≠ .ok location) →
        tree.IsSpared final.tree location) ∧
      tree.KeepsDirectories final.tree := by
  intro directory final artifacts
  have tells : Directory.Tells root tree (run steps (⟨directory, []⟩ : Stocked Directory)) :=
    run_kept (Directory.tells_kept root tree) steps _ (Directory.tells_initially root tree)
  have stored : (run steps (⟨directory, []⟩ : Stocked Directory)) = ⟨final, artifacts⟩ :=
    congrArg (Stocked.mk · artifacts) (run_view stocked_view steps ⟨directory, []⟩)
  rw [stored] at tells
  have samePath : final.path = directory.path := by
    funext artifact
    rw [Directory.path, Directory.path, tells.root]
    rfl
  have written : final.written = artifacts.map directory.path := samePath ▸ tells.written
  refine ⟨fun visited settings candidate => ?_, fun visited settings candidates => ?_, written,
    fun path listed => ?_, tells.spared, tells.accounts.directories⟩
  · exact ⟨process_follows settings candidate visited,
      (attempt_follows settings candidate visited).1,
      fun artifact met made => generated_iff_has_room visited met made⟩
  · exact attempt_each_counts settings candidates visited
  · rw [written] at listed
    obtain ⟨artifact, inTaken, rfl⟩ := List.mem_map.mp listed
    have reads := tells.read_last artifact inTaken
    rw [samePath] at reads
    exact reads

-- Two spellings of one place: both are noted, and there is one file.
example :
    let record := Candidate.record "MyData" []
    let detour := Settings.standard.withGeneratedRoot "made/../generated"
    let steps := [.single .standard record, .batch detour [record]]
    let final := run steps (Directory.ofRoot "out" .empty)
    final.written = ["out/generated/my_data_buildable.rs",
        "out/made/../generated/my_data_buildable.rs"] ∧
      final.tree.entries.map (·.1) = [["out"], ["out", "generated"], ["out", "made"],
        ["out", "generated", "my_data_buildable.rs"]] := by
  decide +kernel

end Generation

end Recordsmith
