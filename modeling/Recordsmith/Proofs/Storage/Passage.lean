import Mathlib.Data.List.Basic
import Recordsmith.Proofs.Storage.Paths
import Recordsmith.Proofs.Storage.Trees

/-!
When a file can be put at a path. The directories on the way are made where they are missing, so the
file can be put there unless the path is refused, a file is where a directory is needed, or a
directory is where the file goes, be it one that was just made on the way.
-/

namespace Recordsmith.Storage

/-! ## Parents -/

theorem parts_of_pieces (path : String) :
    parts path = ((pieces path).filter fun piece => !isGap piece).map String.ofList := by
  have kept (piece : List Char) :
      (String.ofList piece != "" && String.ofList piece != ".") = !isGap piece := by
    rw [Bool.eq_iff_iff]
    simp [isGap, ← String.toList_inj]
  rw [parts, List.filter_map]
  simp only [Function.comp_def, kept]

theorem pieces_joined (texts : List (List Char)) (filled : texts ≠ [])
    (noSlash : ∀ text ∈ texts, '/' ∉ text) :
    pieces (String.ofList (['/'].intercalate texts)) = texts := by
  have single : ∀ text ∈ texts, text.splitOn '/' = [text] :=
    fun text member => List.splitOn_eq_singleton (noSlash text member)
  rw [pieces, Text.split_by_eq, String.toList_ofList]
  change List.splitOn '/' _ = _
  rw [Text.split_join '/' texts filled, List.flatMap_congr single]
  exact List.flatMap_singleton' texts

theorem intercalate_append (separator : Char) (first second : List (List Char))
    (filled : first ≠ []) :
    ∃ rest, [separator].intercalate (first ++ second) = [separator].intercalate first ++ rest := by
  induction first with
  | nil => exact absurd rfl filled
  | cons text others induction =>
      cases others with
      | nil =>
          cases second with
          | nil => exact ⟨[], by simp⟩
          | cons next more => exact ⟨separator :: [separator].intercalate (next :: more), by simp⟩
      | cons next more =>
          obtain ⟨rest, split⟩ := induction (by simp)
          exact ⟨rest, by simpa [List.intercalate_cons_cons] using split⟩

theorem valid_beginning {path beginning : String} {rest : List Char}
    (split : path.toList = beginning.toList ++ rest) (valid : Tree.pathFault? path = none) :
    Tree.pathFault? beginning = none := by
  have whole : path = beginning ++ String.ofList rest := by
    rw [← String.toList_inj, split, String.toList_append, String.toList_ofList]
  rw [whole] at valid
  unfold Tree.pathFault? at valid ⊢
  split_ifs at valid with null long
  have noNull : beginning.toList.contains (Char.ofNat 0) = false := by
    simp only [String.toList_append, List.contains_append, Bool.or_eq_true, not_or,
      Bool.not_eq_true] at null
    exact null.1
  rw [String.utf8ByteSize_append] at long
  rw [noNull, if_neg Bool.false_ne_true, if_neg (by omega)]

/-- Leaving out gaps in front leaves out nothing else. -/
theorem drop_gaps (texts : List (List Char)) :
    ((texts.dropWhile isGap).filter fun text => !isGap text) =
      texts.filter fun text => !isGap text := by
  induction texts with
  | nil => rfl
  | cons text rest induction =>
      rw [List.dropWhile_cons]
      split
      next gap => rw [induction, List.filter_cons_of_neg (by simp [gap])]
      next => rfl

/-- The parts of a parent are those of the path but for the last one, and a valid path has a valid
parent. -/
theorem parent_parts (path name : String) (names : List String)
    (ends : parts path = names ++ [name]) :
    ∃ parent, parent? path = some parent ∧ parts parent = names ∧
      (Tree.pathFault? path = none → Tree.pathFault? parent = none) := by
  have kept : parts path = (((pieces path).reverse.dropWhile isGap).filter
      fun piece => !isGap piece).reverse.map String.ofList := by
    rw [drop_gaps, List.filter_reverse, List.reverse_reverse, parts_of_pieces]
  have split : (pieces path).reverse =
      (pieces path).reverse.takeWhile isGap ++ (pieces path).reverse.dropWhile isGap :=
    List.takeWhile_append_dropWhile.symm
  have first := List.head?_dropWhile_not isGap (pieces path).reverse
  unfold parent?
  cases found : (pieces path).reverse.dropWhile isGap with
  | nil =>
      rw [found, ends] at kept
      simp at kept
  | cons last before =>
      rw [found] at kept split first
      have notGap : isGap last = false := first
      rw [ends, List.filter_cons_of_pos (by simp [notGap]), List.reverse_cons, List.map_append,
        List.map_singleton] at kept
      have named := (List.append_inj' kept rfl).1
      dsimp only
      by_cases nothing : before.dropWhile isGap = []
      · -- Only gaps are in front of the last part.
        have unnamed : names = [] := by
          rw [named, ← drop_gaps, nothing]
          rfl
        rw [nothing, unnamed]
        simp only [List.reverse_nil, List.isEmpty_nil, if_true]
        split_ifs
        · exact ⟨".", rfl, by decide, fun _ => by decide⟩
        · exact ⟨"/", rfl, by decide, fun _ => by decide⟩
        · exact ⟨"", rfl, by decide, fun _ => by decide⟩
      · have filled : (before.dropWhile isGap).reverse ≠ [] := by simpa using nothing
        obtain ⟨more, whole⟩ : ∃ more, pieces path = (before.dropWhile isGap).reverse ++ more := by
          refine ⟨(before.takeWhile isGap).reverse ++
            ((pieces path).reverse.takeWhile isGap ++ [last]).reverse, ?_⟩
          rw [← List.append_assoc, ← List.reverse_append, List.takeWhile_append_dropWhile,
            ← List.reverse_append, List.append_assoc, List.singleton_append, ← split,
            List.reverse_reverse]
        have noSlash : ∀ text ∈ (before.dropWhile isGap).reverse, '/' ∉ text := by
          intro text member slash
          have isPiece : text ∈ pieces path := by
            rw [whole]
            exact List.mem_append_left _ member
          have separates := (Text.split_character _ _ text isPiece '/' slash).1
          cases separates
        refine ⟨String.ofList (['/'].intercalate (before.dropWhile isGap).reverse), ?_, ?_, ?_⟩
        · rw [List.isEmpty_eq_false_iff.mpr filled, if_neg Bool.false_ne_true]
        · rw [parts_of_pieces, pieces_joined _ filled noSlash, named, List.filter_reverse,
            drop_gaps]
        · obtain ⟨rest, joined⟩ := intercalate_append '/' _ more filled
          have begins : path.toList =
              (String.ofList (['/'].intercalate (before.dropWhile isGap).reverse)).toList ++
                rest := by
            rw [String.toList_ofList, ← joined, ← whole, pieces, Text.split_by_eq]
            exact (List.intercalate_splitOn '/').symm
          exact valid_beginning begins

namespace Tree

/-! ## Directories on the way -/

/-- Where parts lead from a location. -/
def resolve : Location → List String → Location
  | location, [] => location
  | location, part :: rest =>
      if part = ".." then resolve location.dropLast rest else resolve (location ++ [part]) rest

/-- The places that parts name, one after another. -/
def waypoints : Location → List String → List Location
  | _, [] => []
  | location, part :: rest =>
      if part = ".." then waypoints location.dropLast rest
      else (location ++ [part]) :: waypoints (location ++ [part]) rest

/-- Nothing is in the way of directories: no name is too long, and none is that of a file. -/
structure IsPassable (tree : Tree) (location : Location) (parts : List String) : Prop where
  short : ∀ part ∈ parts, part.utf8ByteSize ≤ longestName
  free : ∀ place ∈ waypoints location parts, ∀ content, tree.at? place ≠ some (.file content)

theorem waypoints_concat (location : Location) (names : List String) (name : String)
    (noParent : name ≠ "..") :
    waypoints location (names ++ [name]) =
      waypoints location names ++ [resolve location names ++ [name]] := by
  induction names generalizing location with
  | nil => simp [waypoints, resolve, noParent]
  | cons part rest induction =>
      rw [List.cons_append, waypoints, waypoints, resolve]
      split
      · exact induction _
      · rw [induction, List.cons_append]

theorem Grows.file_before {before after : Tree} (grows : Grows before after) {place : Location}
    {content : String} (holds : after.at? place = some (.file content)) :
    before.at? place = some (.file content) := by
  rcases grows place with same | ⟨_, made⟩
  · exact same.symm.trans holds
  · rw [made] at holds
    cases holds

theorem IsPassable.grown {before after : Tree} {location : Location} {parts : List String}
    (passable : IsPassable before location parts) (grows : Grows before after) :
    IsPassable after location parts :=
  ⟨passable.short, fun place named content holds =>
    passable.free place named content (grows.file_before holds)⟩

theorem IsPassable.of_grown {before after : Tree} {location : Location} {parts : List String}
    (passable : IsPassable after location parts) (grows : Grows before after) :
    IsPassable before location parts :=
  ⟨passable.short, fun place named content holds =>
    passable.free place named content ((grows place).file holds)⟩

theorem enter_passes (tree : Tree) (parent : Location) (name : String) (isLast : Bool)
    (short : name.utf8ByteSize ≤ longestName)
    (free : ∀ content, tree.at? (parent ++ [name]) ≠ some (.file content)) :
    ∃ grown, tree.enter parent name isLast = (grown, .ok (parent ++ [name])) ∧
      ∀ place, grown.at? place = some .directory ↔
        tree.at? place = some .directory ∨ place = parent ++ [name] := by
  unfold enter
  dsimp only
  rw [if_neg (Nat.not_lt.mpr short)]
  split
  next directory =>
    refine ⟨tree, rfl, fun place => (or_iff_left_of_imp ?_).symm⟩
    rintro rfl
    exact directory
  next content file => exact absurd file (free content)
  next absent =>
    refine ⟨_, rfl, fun place => ?_⟩
    by_cases same : place = parent ++ [name]
    · rw [same, tree.at_put_same _ _ (by simp)]
      simp
    · rw [tree.at_put_other _ _ _ same, or_iff_left same]

theorem enter_ok {tree grown : Tree} {parent next : Location} {name : String} {isLast : Bool}
    (entered : tree.enter parent name isLast = (grown, .ok next)) :
    name.utf8ByteSize ≤ longestName ∧
      (∀ content, tree.at? (parent ++ [name]) ≠ some (.file content)) ∧
      next = parent ++ [name] := by
  unfold enter at entered
  dsimp only at entered
  split at entered
  next => cases entered
  next short =>
    refine ⟨Nat.not_lt.mp short, ?_⟩
    split at entered
    next directory =>
      cases entered
      exact ⟨by simp [directory], rfl⟩
    next => cases entered
    next absent =>
      cases entered
      exact ⟨by simp [absent], rfl⟩

/-- Where nothing is in the way, the directories on the way are made, and no others. -/
theorem enter_all_passes (tree : Tree) (location : Location) (parts : List String)
    (passable : tree.IsPassable location parts) :
    ∃ grown, tree.enterAll location parts = (grown, .ok (resolve location parts)) ∧
      ∀ place, grown.at? place = some .directory ↔
        tree.at? place = some .directory ∨ place ∈ waypoints location parts := by
  induction parts generalizing tree location with
  | nil => exact ⟨tree, rfl, fun place => by simp [waypoints]⟩
  | cons part rest induction =>
      obtain ⟨short, free⟩ := passable
      have shortRest : ∀ other ∈ rest, other.utf8ByteSize ≤ longestName :=
        fun other member => short other (List.mem_cons_of_mem part member)
      rw [enterAll, resolve]
      rw [waypoints] at free ⊢
      by_cases back : part = ".."
      · rw [if_pos back] at free
        rw [if_pos back, if_pos back, if_pos back]
        exact induction tree _ ⟨shortRest, free⟩
      · rw [if_neg back] at free
        rw [if_neg back, if_neg back, if_neg back]
        obtain ⟨grown, entered, made⟩ := tree.enter_passes location part rest.isEmpty
          (short part List.mem_cons_self) (free _ List.mem_cons_self)
        have grows : Grows tree grown := by
          have step := tree.enter_grows location part rest.isEmpty
          rwa [entered] at step
        have passableRest : tree.IsPassable (location ++ [part]) rest :=
          ⟨shortRest, fun place named => free place (List.mem_cons_of_mem _ named)⟩
        obtain ⟨whole, done, all⟩ := induction grown _ (passableRest.grown grows)
        refine ⟨whole, ?_, fun place => ?_⟩
        · rw [entered]
          exact done
        · rw [all, made, List.mem_cons, or_assoc]

theorem enter_all_ok {tree grown : Tree} {location last : Location} {parts : List String}
    (entered : tree.enterAll location parts = (grown, .ok last)) :
    tree.IsPassable location parts := by
  induction parts generalizing tree location with
  | nil => exact ⟨nofun, nofun⟩
  | cons part rest induction =>
      rw [enterAll] at entered
      by_cases back : part = ".."
      · rw [if_pos back] at entered
        obtain ⟨short, free⟩ := induction entered
        refine ⟨List.forall_mem_cons.mpr ⟨by rw [back]; decide, short⟩, ?_⟩
        rw [waypoints, if_pos back]
        exact free
      · rw [if_neg back] at entered
        have step := tree.enter_grows location part rest.isEmpty
        split at entered
        next next grows first =>
          rw [first] at step
          obtain ⟨short, free, rfl⟩ := enter_ok first
          obtain ⟨shortRest, freeRest⟩ := (induction entered).of_grown step
          refine ⟨List.forall_mem_cons.mpr ⟨short, shortRest⟩, ?_⟩
          rw [waypoints, if_neg back]
          exact List.forall_mem_cons.mpr ⟨free, freeRest⟩
        next => cases entered

/-! ## Following a path -/

/-- Where all places on the way are directories, a path is followed to its last name. -/
theorem follow_passes (tree : Tree) (location : Location) (names : List String) (name : String)
    (noParent : name ≠ "..") (short : ∀ part ∈ names ++ [name], part.utf8ByteSize ≤ longestName)
    (directories : ∀ place ∈ waypoints location names, tree.at? place = some .directory) :
    tree.follow location (names ++ [name]) = .ok (resolve location names ++ [name]) := by
  induction names generalizing location with
  | nil =>
      have fits : ¬ longestName < name.utf8ByteSize := Nat.not_lt.mpr (short name (by simp))
      simp [follow, resolve, noParent, fits]
  | cons part rest induction =>
      have shortRest : ∀ other ∈ rest ++ [name], other.utf8ByteSize ≤ longestName :=
        fun other member => short other (List.mem_cons_of_mem part member)
      have fits : ¬ longestName < part.utf8ByteSize := Nat.not_lt.mpr (short part (by simp))
      rw [waypoints] at directories
      rw [List.cons_append, follow, resolve]
      by_cases back : part = ".."
      · rw [if_pos back] at directories
        rw [if_pos back, if_pos back]
        exact induction _ shortRest directories
      · rw [if_neg back] at directories
        rw [if_neg back, if_neg back, if_neg fits]
        dsimp only
        rw [if_neg (by simp), directories _ List.mem_cons_self]
        exact induction _ shortRest fun place named =>
          directories place (List.mem_cons_of_mem _ named)

theorem follow_short {tree : Tree} {location target : Location} {parts : List String}
    (leads : tree.follow location parts = .ok target) :
    ∀ part ∈ parts, part.utf8ByteSize ≤ longestName := by
  induction parts generalizing location with
  | nil => exact nofun
  | cons part rest induction =>
      rw [follow] at leads
      refine List.forall_mem_cons.mpr ?_
      by_cases back : part = ".."
      · rw [if_pos back] at leads
        exact ⟨by rw [back]; decide, induction leads⟩
      · rw [if_neg back] at leads
        split at leads
        next => cases leads
        next short =>
          refine ⟨Nat.not_lt.mp short, ?_⟩
          dsimp only at leads
          split at leads
          next isLast =>
            rw [List.isEmpty_iff.mp isLast]
            exact nofun
          next =>
            split at leads
            next => exact induction leads
            next => cases leads
            next => cases leads

/-! ## Room for a file -/

/-- A file can be put at a path: the path is not refused, no file is where a directory is needed,
and no directory is where the file goes, neither from before nor made on the way. -/
structure HasRoom (tree : Tree) (path : String) : Prop where
  valid : pathFault? path = none
  short : ∀ part ∈ parts path, part.utf8ByteSize ≤ longestName
  free : ∃ before target, waypoints [] (parts path) = before ++ [target] ∧
    (∀ place ∈ before, ∀ content, tree.at? place ≠ some (.file content)) ∧
    tree.at? target ≠ some .directory ∧ target ∉ before

theorem locate_valid {tree : Tree} {path : String} {location : Location}
    (leads : tree.locate path = .ok location) :
    pathFault? path = none ∧ tree.follow [] (parts path) = .ok location := by
  unfold locate at leads
  split at leads
  next => cases leads
  next valid => exact ⟨valid, leads⟩

theorem make_directories_valid {tree grown : Tree} {path : String} {last : Location}
    (made : tree.makeDirectories path = (grown, .ok last)) :
    pathFault? path = none ∧ tree.enterAll [] (parts path) = (grown, .ok last) := by
  unfold makeDirectories at made
  split at made
  next => cases made
  next valid => exact ⟨valid, made⟩

theorem write_ok_iff (tree : Tree) (path content : String) :
    (tree.write path content).2 = .ok () ↔
      ∃ location, tree.locate path = .ok location ∧ tree.at? location ≠ some .directory := by
  constructor
  · intro written
    obtain ⟨location, leads, free, _⟩ | ⟨fault, refused⟩ := tree.write_cases path content
    · exact ⟨location, leads, free⟩
    · rw [refused] at written
      cases written
  · rintro ⟨location, leads, free⟩
    rw [write, leads]
    dsimp only
    split
    next directory => exact absurd directory free
    next => rfl

section

variable {path name : String} {names : List String} (ends : parts path = names ++ [name])
  (noParent : name ≠ "..")

include ends noParent

theorem locate_passes (tree : Tree) (valid : pathFault? path = none)
    (short : ∀ part ∈ parts path, part.utf8ByteSize ≤ longestName)
    (directories : ∀ place ∈ waypoints [] names, tree.at? place = some .directory) :
    tree.locate path = .ok (resolve [] names ++ [name]) := by
  rw [ends] at short
  rw [locate, valid, ends]
  exact follow_passes tree [] names name noParent short directories

/-- With the directories to its parent made first, a file is written exactly where there is room. -/
theorem write_made_iff (tree : Tree) (content : String) {parent : String}
    (above : parts parent = names)
    (validAbove : pathFault? path = none → pathFault? parent = none) :
    (∃ grown last, tree.makeDirectories parent = (grown, .ok last) ∧
        (grown.write path content).2 = .ok ()) ↔ tree.HasRoom path := by
  have places := waypoints_concat [] names name noParent
  rw [← ends] at places
  constructor
  · rintro ⟨grown, last, made, written⟩
    obtain ⟨location, leads, free⟩ := (grown.write_ok_iff path content).mp written
    obtain ⟨valid, followed⟩ := locate_valid leads
    have short := follow_short followed
    obtain ⟨_, entered⟩ := make_directories_valid made
    rw [above] at entered
    have passable := enter_all_ok entered
    obtain ⟨whole, done, directories⟩ := tree.enter_all_passes [] names passable
    obtain ⟨rfl, _⟩ := Prod.mk.inj (entered.symm.trans done)
    rw [locate_passes ends noParent grown valid short
      fun place named => (directories place).mpr (.inr named)] at leads
    rw [← Except.ok.inj leads, ne_eq, directories, not_or] at free
    exact ⟨valid, short, _, _, places, passable.free, free⟩
  · rintro ⟨valid, short, before, target, split, free, noDirectory, notMade⟩
    rw [places] at split
    obtain ⟨rfl, lasts⟩ := List.append_inj' split rfl
    obtain rfl := List.singleton_inj.mp lasts
    have passable : tree.IsPassable [] names := by
      refine ⟨fun part member => short part ?_, free⟩
      rw [ends]
      exact List.mem_append_left _ member
    obtain ⟨grown, done, directories⟩ := tree.enter_all_passes [] names passable
    refine ⟨grown, resolve [] names, ?_,
      (grown.write_ok_iff path content).mpr ⟨resolve [] names ++ [name], ?_, ?_⟩⟩
    · rw [makeDirectories, validAbove valid, above]
      exact done
    · exact locate_passes ends noParent grown valid short
        fun place named => (directories place).mpr (.inr named)
    · rw [ne_eq, directories, not_or]
      exact ⟨noDirectory, notMade⟩

end

end Tree

end Recordsmith.Storage
