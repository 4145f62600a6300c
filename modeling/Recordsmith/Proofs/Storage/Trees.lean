import Recordsmith.Storage.Tree

/-!
What work in a tree leaves alone. Making directories adds directories where nothing was, also when
it stops on the way; writing puts one file where no directory was, or changes nothing. So a
directory stays a directory, and a path that leads somewhere goes on leading there.
-/

namespace Recordsmith.Storage.Tree

/-! ## Locations -/

theorem at_top (tree : Tree) : tree.at? [] = some .directory := rfl

theorem at_put_same (tree : Tree) (location : Location) (node : Node) (below : location ≠ []) :
    (tree.put location node).at? location = some node := by
  have replaced : ∀ entry ∈ tree.entries.filter (fun entry => decide (entry.1 ≠ location)),
      ¬ decide (entry.1 = location) = true := by
    intro entry listed
    simpa using (List.mem_filter.mp listed).2
  rw [at?, List.isEmpty_eq_false_iff.mpr below, put, List.find?_append,
    List.find?_eq_none.mpr replaced]
  simp

theorem at_put_other (tree : Tree) (location other : Location) (node : Node)
    (different : other ≠ location) : (tree.put location node).at? other = tree.at? other := by
  have searched : (tree.entries.filter fun entry => decide (entry.1 ≠ location)).find?
      (fun entry => decide (entry.1 = other)) =
        tree.entries.find? fun entry => decide (entry.1 = other) := by
    rw [List.find?_filter]
    congr 1
    funext entry
    by_cases found : entry.1 = other
    · simp [found, different]
    · simp [found]
  unfold at? put
  rw [List.find?_append, searched]
  simp [different.symm]

/-! ## Directories that are new -/

/-- What lies at a location is what lay there before, or a directory where nothing was. -/
def IsSpared (before after : Tree) (location : Location) : Prop :=
  after.at? location = before.at? location ∨
    (before.at? location = none ∧ after.at? location = some .directory)

/-- Nothing is new but directories. -/
def Grows (before after : Tree) : Prop := ∀ location, IsSpared before after location

/-- No directory is lost. -/
def KeepsDirectories (before after : Tree) : Prop :=
  ∀ location, before.at? location = some .directory → after.at? location = some .directory

theorem IsSpared.trans {first second third : Tree} {location : Location}
    (earlier : IsSpared first second location) (later : IsSpared second third location) :
    IsSpared first third location := by
  rcases later with same | ⟨absent, made⟩
  · unfold IsSpared
    rw [same]
    exact earlier
  · rcases earlier with same | ⟨_, madeBefore⟩
    · exact .inr ⟨same.symm.trans absent, made⟩
    · rw [absent] at madeBefore
      cases madeBefore

/-- A file that is spared is still there, with its content. -/
theorem IsSpared.file {before after : Tree} {location : Location} {content : String}
    (spared : IsSpared before after location)
    (holds : before.at? location = some (.file content)) :
    after.at? location = some (.file content) := by
  rcases spared with same | ⟨absent, _⟩
  · exact same.trans holds
  · rw [absent] at holds
    cases holds

theorem grows_self (tree : Tree) : Grows tree tree := fun _ => .inl rfl

theorem Grows.trans {first second third : Tree} (earlier : Grows first second)
    (later : Grows second third) : Grows first third :=
  fun location => (earlier location).trans (later location)

theorem Grows.keepsDirectories {before after : Tree} (grows : Grows before after) :
    KeepsDirectories before after := by
  intro location directory
  rcases grows location with same | ⟨absent, _⟩
  · exact same.trans directory
  · rw [absent] at directory
    cases directory

theorem KeepsDirectories.trans {first second third : Tree}
    (earlier : KeepsDirectories first second) (later : KeepsDirectories second third) :
    KeepsDirectories first third :=
  fun location directory => later location (earlier location directory)

theorem put_directory_grows (tree : Tree) (location : Location)
    (absent : tree.at? location = none) : Grows tree (tree.put location .directory) := by
  intro other
  by_cases same : other = location
  · subst same
    have below : other ≠ [] := by
      rintro rfl
      cases absent
    exact .inr ⟨absent, tree.at_put_same _ _ below⟩
  · exact .inl (tree.at_put_other _ _ _ same)

/-- A name on the way is passed when a directory is there or can be made; otherwise the tree stays
as it is. -/
theorem enter_grows (tree : Tree) (parent : Location) (name : String) (isLast : Bool) :
    Grows tree (tree.enter parent name isLast).1 := by
  unfold enter
  dsimp only
  split
  · exact tree.grows_self
  · split
    next => exact tree.grows_self
    next => exact tree.grows_self
    next absent => exact tree.put_directory_grows _ absent

theorem enter_all_grows (tree : Tree) (location : Location) (parts : List String) :
    Grows tree (tree.enterAll location parts).1 := by
  induction parts generalizing tree location with
  | nil => exact tree.grows_self
  | cons part rest induction =>
      rw [enterAll]
      split
      · exact induction tree location.dropLast
      · have step := tree.enter_grows location part rest.isEmpty
        split
        next grown next entered =>
          rw [entered] at step
          exact step.trans (induction grown next)
        next same fault stopped =>
          rw [stopped] at step
          exact step

/-- Making directories never touches a file, whether it succeeds or stops on the way. -/
theorem make_directories_grows (tree : Tree) (path : String) :
    Grows tree (tree.makeDirectories path).1 := by
  unfold makeDirectories
  split
  · exact tree.grows_self
  · exact tree.enter_all_grows _ _

/-! ## Files that are written -/

theorem put_file_keeps (tree : Tree) (location : Location) (content : String)
    (free : tree.at? location ≠ some .directory) :
    KeepsDirectories tree (tree.put location (.file content)) := by
  intro other directory
  have different : other ≠ location := by
    rintro rfl
    exact free directory
  rw [tree.at_put_other _ _ _ different]
  exact directory

theorem at_put_file (tree : Tree) (location : Location) (content : String)
    (free : tree.at? location ≠ some .directory) :
    (tree.put location (.file content)).at? location = some (.file content) := by
  apply tree.at_put_same
  rintro rfl
  exact free tree.at_top

/-- Writing puts the content at the one place that the path leads to, where no directory was, or
fails and leaves the tree as it is. -/
theorem write_cases (tree : Tree) (path content : String) :
    (∃ location, tree.locate path = .ok location ∧ tree.at? location ≠ some .directory ∧
        tree.write path content = (tree.put location (.file content), .ok ())) ∨
      ∃ fault, tree.write path content = (tree, .error fault) := by
  unfold write
  cases tree.locate path with
  | error fault => exact .inr ⟨fault, rfl⟩
  | ok location =>
      dsimp only
      split
      next => exact .inr ⟨.isDirectory, rfl⟩
      next free => exact .inl ⟨location, rfl, free, rfl⟩

/-! ## Paths that lead somewhere -/

/-- Where the directories of a tree are kept, whatever was on the way of a path is still there. -/
theorem follow_kept {before after : Tree} (keeps : KeepsDirectories before after)
    (location target : Location) (parts : List String)
    (leads : before.follow location parts = .ok target) :
    after.follow location parts = .ok target := by
  induction parts generalizing location with
  | nil => exact leads
  | cons part rest induction =>
      rw [follow] at leads ⊢
      by_cases back : part = ".."
      · rw [if_pos back] at leads ⊢
        exact induction _ leads
      · rw [if_neg back] at leads ⊢
        by_cases long : longestName < part.utf8ByteSize
        · rw [if_pos long] at leads
          cases leads
        · rw [if_neg long] at leads ⊢
          dsimp only at leads ⊢
          by_cases last : rest.isEmpty = true
          · rw [if_pos last] at leads ⊢
            exact leads
          · rw [if_neg last] at leads ⊢
            split at leads
            next directory =>
              rw [keeps _ directory]
              exact induction _ leads
            next => cases leads
            next => cases leads

theorem locate_kept {before after : Tree} (keeps : KeepsDirectories before after) (path : String)
    (location : Location) (leads : before.locate path = .ok location) :
    after.locate path = .ok location := by
  unfold locate at leads ⊢
  split at leads
  next => cases leads
  next => exact follow_kept keeps _ _ _ leads

/-- Reading a path gives the content of the file that it leads to. -/
theorem read_file (tree : Tree) (path content : String) (location : Location)
    (leads : tree.locate path = .ok location)
    (holds : tree.at? location = some (.file content)) : tree.read? path = some content := by
  rw [read?, leads]
  dsimp only
  rw [holds]

end Recordsmith.Storage.Tree
