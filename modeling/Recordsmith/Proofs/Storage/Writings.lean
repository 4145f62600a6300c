import Mathlib.Data.List.Find
import Recordsmith.Proofs.Storage.Trees

/-!
What a list of writings says about a tree. Several paths may lead to one place; there lies what was
written last. A path that leads somewhere does so for good, so the place of a writing can be told
from the tree as it is at the end.
-/

namespace Recordsmith.Storage

/-- A text that was written to a path. -/
structure Writing where
  path : String
  content : String

namespace Tree

/-- The last of several writings whose path leads to a location. -/
def lastAt? (tree : Tree) (writings : List Writing) (location : Location) : Option Writing :=
  writings.reverse.find? fun writing => decide (tree.locate writing.path = .ok location)

/-- All that happened to an initial tree are writings, and directories that are new. -/
structure Accounts (initial tree : Tree) (writings : List Writing) : Prop where
  directories : KeepsDirectories initial tree
  leads : ∀ writing ∈ writings, ∃ location, tree.locate writing.path = .ok location
  contents : ∀ location,
    match tree.lastAt? writings location with
    | some writing => tree.at? location = some (.file writing.content)
    | none => IsSpared initial tree location

/-! ## One writing more -/

theorem last_at_concat (tree : Tree) (writings : List Writing) (writing : Writing)
    (location : Location) :
    tree.lastAt? (writings ++ [writing]) location =
      if tree.locate writing.path = .ok location then some writing
      else tree.lastAt? writings location := by
  unfold lastAt?
  rw [List.reverse_append, List.reverse_singleton, List.singleton_append, List.find?_cons]
  by_cases leads : tree.locate writing.path = .ok location
  · simp [leads]
  · simp [leads]

/-- Where no directory is lost, each place keeps its last writing. -/
theorem last_at_kept {before after : Tree} (keeps : KeepsDirectories before after)
    (writings : List Writing) (location : Location)
    (leads : ∀ writing ∈ writings, ∃ target, before.locate writing.path = .ok target) :
    after.lastAt? writings location = before.lastAt? writings location := by
  apply List.find?_congr
  intro writing listed
  obtain ⟨target, led⟩ := leads writing (List.mem_reverse.mp listed)
  rw [led, locate_kept keeps _ _ led]

theorem accounts_initially (tree : Tree) : Accounts tree tree [] :=
  ⟨fun _ directory => directory, nofun, fun _ => .inl rfl⟩

theorem Accounts.leads_kept {initial before after : Tree} {writings : List Writing}
    (accounts : Accounts initial before writings) (keeps : KeepsDirectories before after) :
    ∀ writing ∈ writings, ∃ location, after.locate writing.path = .ok location := by
  intro writing listed
  obtain ⟨location, led⟩ := accounts.leads writing listed
  exact ⟨location, locate_kept keeps _ _ led⟩

theorem Accounts.grown {initial before after : Tree} {writings : List Writing}
    (accounts : Accounts initial before writings) (grows : Grows before after) :
    Accounts initial after writings := by
  have keeps := grows.keepsDirectories
  refine ⟨accounts.directories.trans keeps, accounts.leads_kept keeps, ?_⟩
  intro location
  have held := accounts.contents location
  rw [last_at_kept keeps writings location accounts.leads]
  split at held
  next => exact (grows location).file held
  next => exact held.trans (grows location)

/-- A text that is written takes the place to which its path leads, and no other. -/
theorem Accounts.written {initial tree : Tree} {writings : List Writing} {location : Location}
    (accounts : Accounts initial tree writings) (writing : Writing)
    (leads : tree.locate writing.path = .ok location)
    (free : tree.at? location ≠ some .directory) :
    Accounts initial (tree.put location (.file writing.content)) (writings ++ [writing]) := by
  have keeps := tree.put_file_keeps location writing.content free
  have leadsAfter := locate_kept keeps _ _ leads
  refine ⟨accounts.directories.trans keeps, ?_, ?_⟩
  · intro other listed
    rcases List.mem_append.mp listed with before | isLast
    · exact accounts.leads_kept keeps other before
    · rw [List.mem_singleton.mp isLast]
      exact ⟨location, leadsAfter⟩
  · intro place
    rw [last_at_concat, leadsAfter]
    by_cases same : location = place
    · subst same
      rw [if_pos rfl]
      exact tree.at_put_file _ _ free
    · have untouched := tree.at_put_other location place (.file writing.content) (Ne.symm same)
      have held := accounts.contents place
      rw [if_neg (fun led => same (Except.ok.inj led)),
        last_at_kept keeps writings place accounts.leads]
      split at held
      next => exact untouched.trans held
      next => exact held.trans (.inl untouched)

/-! ## What can be read -/

/-- A path that was written to reads as the last writing to its place, under whatever path. -/
theorem Accounts.read_last {initial tree : Tree} {writings : List Writing}
    (accounts : Accounts initial tree writings) (writing : Writing) (listed : writing ∈ writings) :
    ∃ location earlier last later, writings = earlier ++ last :: later ∧
      tree.locate writing.path = .ok location ∧ tree.locate last.path = .ok location ∧
      (∀ other ∈ later, tree.locate other.path ≠ .ok location) ∧
      tree.read? writing.path = some last.content := by
  obtain ⟨location, led⟩ := accounts.leads writing listed
  have held := accounts.contents location
  cases found : tree.lastAt? writings location with
  | none =>
      have missed := List.find?_eq_none.mp found writing (List.mem_reverse.mpr listed)
      rw [led] at missed
      exact absurd (decide_eq_true rfl) missed
  | some last =>
      rw [found] at held
      obtain ⟨lastLeads, later, earlier, split, others⟩ := List.find?_eq_some_iff_append.mp found
      refine ⟨location, earlier.reverse, last, later.reverse, ?_, led,
        of_decide_eq_true lastLeads, ?_, tree.read_file _ _ _ led held⟩
      · rw [← List.reverse_reverse writings, split]
        simp
      · intro other inLater
        simpa using others other (List.mem_reverse.mp inLater)

/-- Where no path leads that was written to, nothing is new but a directory. -/
theorem Accounts.spared {initial tree : Tree} {writings : List Writing}
    (accounts : Accounts initial tree writings) (location : Location)
    (elsewhere : ∀ writing ∈ writings, tree.locate writing.path ≠ .ok location) :
    IsSpared initial tree location := by
  have held := accounts.contents location
  have none : tree.lastAt? writings location = none := by
    refine List.find?_eq_none.mpr fun writing listed => ?_
    simpa using elsewhere writing (List.mem_reverse.mp listed)
  rw [none] at held
  exact held

end Tree

end Recordsmith.Storage
