import Recordsmith.Proofs.Text.Splitting
import Recordsmith.Storage.Location

/-!
Joining path texts. A path that is added either begins at the root and stands for itself, or goes
below the path it is added to: the parts are those of the one path and then those of the other.
-/

namespace Recordsmith.Storage

/-! ## Parts -/

theorem pieces_slash (first second : String) :
    pieces (first ++ "/" ++ second) = pieces first ++ pieces second := by
  simp only [pieces, Text.split_by_eq, String.toList_append]
  rw [List.append_assoc]
  exact List.splitOnP_append_cons _ _ rfl

theorem parts_slash (first second : String) :
    parts (first ++ "/" ++ second) = parts first ++ parts second := by
  simp only [parts, pieces_slash, List.map_append, List.filter_append]

theorem parts_empty : parts "" = [] := rfl

theorem parts_closing_slash (path : String) : parts (path ++ "/") = parts path := by
  have split := parts_slash path ""
  rwa [String.append_empty, parts_empty, List.append_nil] at split

/-- A text that is a single part as it stands. -/
def IsPart (name : String) : Prop := '/' ∉ name.toList ∧ name ≠ "" ∧ name ≠ "."

theorem pieces_part (name : String) (noSlash : '/' ∉ name.toList) :
    pieces name = [name.toList] := by
  rw [pieces, Text.split_by_eq]
  apply List.splitOnP_eq_singleton
  intro character member
  rw [beq_eq_false_iff_ne]
  rintro rfl
  exact noSlash member

theorem parts_part (name : String) (isPart : IsPart name) : parts name = [name] := by
  obtain ⟨noSlash, filled, noDot⟩ := isPart
  simp [parts, pieces_part name noSlash, filled, noDot]

theorem part_character (path part : String) (isPart : part ∈ parts path) (character : Char)
    (member : character ∈ part.toList) : character ∈ path.toList := by
  rw [parts, List.mem_filter, List.mem_map] at isPart
  obtain ⟨⟨piece, isPiece, rfl⟩, _⟩ := isPart
  rw [String.toList_ofList] at member
  exact (Text.split_character _ _ piece isPiece character member).2

/-! ## Joining -/

/-- A path with the slash that a relative path is put behind. -/
def opened (base : String) : String :=
  match base.toList.getLast? with
  | none => base
  | some last => if last = '/' then base else base ++ "/"

theorem opened_cases (base : String) :
    (base = "" ∧ opened base = "") ∨
      ∃ trunk, opened base = trunk ++ "/" ∧ (base = trunk ∧ base ≠ "" ∨ base = trunk ++ "/") := by
  unfold opened
  cases ends : base.toList.getLast? with
  | none =>
      have empty : base = "" := by
        rwa [List.getLast?_eq_none_iff, String.toList_eq_nil_iff] at ends
      exact .inl ⟨empty, empty⟩
  | some last =>
      obtain ⟨start, split⟩ := List.getLast?_eq_some_iff.mp ends
      by_cases slash : last = '/'
      · have isSplit : base = String.ofList start ++ "/" := by
          rw [← String.toList_inj, split, slash, String.toList_append, String.toList_ofList]
          rfl
        refine .inr ⟨String.ofList start, ?_, .inr isSplit⟩
        simp only [if_pos slash]
        exact isSplit
      · have filled : base ≠ "" := by
          rintro rfl
          cases ends
        exact .inr ⟨base, by simp only [if_neg slash], .inl ⟨rfl, filled⟩⟩

theorem join_eq (base addition : String) :
    join base addition = if isAbsolute addition then addition else opened base ++ addition := by
  unfold join opened
  cases ends : base.toList.getLast? with
  | some last => by_cases slash : last = '/' <;> simp [slash]
  | none =>
      rw [List.getLast?_eq_none_iff, String.toList_eq_nil_iff] at ends
      simp [ends]

theorem join_absolute (base addition : String) (absolute : isAbsolute addition = true) :
    join base addition = addition := by
  rw [join_eq, if_pos absolute]

theorem join_relative (base addition : String) (relative : isAbsolute addition = false) :
    join base addition = opened base ++ addition := by
  rw [join_eq, relative, if_neg Bool.false_ne_true]

theorem absolute_iff (path : String) :
    isAbsolute path = true ↔ path.toList.head? = some '/' := by
  unfold isAbsolute
  split
  next rest begins => simp [begins]
  next other =>
    refine ⟨fun impossible => absurd impossible Bool.false_ne_true, fun begins => ?_⟩
    obtain ⟨rest, split⟩ := List.head?_eq_some_iff.mp begins
    exact absurd split (other rest)

/-- The beginning of a path decides whether it begins at the root. -/
theorem absolute_append (path rest : String) (filled : path ≠ "") :
    isAbsolute (path ++ rest) = isAbsolute path := by
  rw [Bool.eq_iff_iff, absolute_iff, absolute_iff, String.toList_append, List.head?_append]
  cases begins : path.toList.head? with
  | some first => rfl
  | none =>
      rw [List.head?_eq_none_iff, String.toList_eq_nil_iff] at begins
      exact absurd begins filled

theorem absolute_join (base addition : String) :
    isAbsolute (join base addition) = (isAbsolute base || isAbsolute addition) := by
  cases absolute : isAbsolute addition with
  | true => rw [join_absolute base addition absolute, absolute, Bool.or_true]
  | false =>
      rw [join_relative base addition absolute, Bool.or_false]
      rcases opened_cases base with ⟨rfl, opens⟩ | ⟨trunk, opens, ⟨same, filled⟩ | same⟩
      · rw [opens, String.empty_append, absolute]
        rfl
      · rw [opens, ← same, String.append_assoc, absolute_append base _ filled]
      · rw [opens, ← same, absolute_append base _]
        rw [same]
        simp

theorem parts_join (base addition : String) (relative : isAbsolute addition = false) :
    parts (join base addition) = parts base ++ parts addition := by
  rw [join_relative base addition relative]
  rcases opened_cases base with ⟨rfl, opens⟩ | ⟨trunk, opens, ⟨same, _⟩ | same⟩
  · rw [opens, String.empty_append]
    rfl
  · rw [opens, parts_slash, same]
  · rw [opens, parts_slash, same, parts_closing_slash]

theorem dot_join (base addition : String) (relative : isAbsolute addition = false)
    (filled : base ≠ "") : beginsWithDot (join base addition) = beginsWithDot base := by
  have begins (trunk rest : String) :
      (pieces (trunk ++ "/" ++ rest)).head? = (pieces trunk).head? := by
    rw [pieces_slash, List.head?_append, Option.or_eq_left_of_isSome]
    rw [List.isSome_head?, pieces, Text.split_by_eq]
    exact List.splitOnP_ne_nil _ _
  rw [join_relative base addition relative]
  rcases opened_cases base with ⟨empty, _⟩ | ⟨trunk, opens, ⟨same, _⟩ | same⟩
  · exact absurd empty filled
  · rw [beginsWithDot, opens, begins, same, beginsWithDot]
  · have closed := begins trunk ""
    rw [String.append_empty, ← same] at closed
    rw [beginsWithDot, opens, begins, beginsWithDot, closed]

theorem part_relative (name : String) (isPart : IsPart name) : isAbsolute name = false := by
  rw [← Bool.not_eq_true, absolute_iff]
  intro begins
  exact isPart.1 (List.mem_of_mem_head? begins)

/-! ## Joining several paths -/

theorem opened_append (base addition : String) (filled : addition ≠ "") :
    opened (base ++ addition) = base ++ opened addition := by
  unfold opened
  rw [String.toList_append, List.getLast?_append]
  cases ends : addition.toList.getLast? with
  | none =>
      rw [List.getLast?_eq_none_iff, String.toList_eq_nil_iff] at ends
      exact absurd ends filled
  | some last =>
      rw [Option.some_or]
      by_cases slash : last = '/' <;> simp [slash, String.append_assoc]

theorem opened_twice (base : String) : opened (opened base) = opened base := by
  rcases opened_cases base with ⟨_, opens⟩ | ⟨trunk, opens, _⟩
  · rw [opens]
    rfl
  · rw [opens, opened_append trunk "/" (by decide)]
    rfl

theorem join_assoc (first second third : String) :
    join first (join second third) = join (join first second) third := by
  cases absoluteThird : isAbsolute third with
  | true =>
      rw [join_absolute second third absoluteThird, join_absolute _ third absoluteThird,
        join_absolute _ third absoluteThird]
  | false =>
      cases absoluteSecond : isAbsolute second with
      | true =>
          have absolute : isAbsolute (join second third) = true := by
            rw [absolute_join, absoluteSecond, Bool.true_or]
          rw [join_absolute _ _ absolute, join_absolute first second absoluteSecond]
      | false =>
          have relative : isAbsolute (join second third) = false := by
            rw [absolute_join, absoluteSecond, absoluteThird, Bool.or_false]
          rw [join_relative _ _ relative, join_relative second third absoluteThird,
            join_relative _ third absoluteThird, join_relative first second absoluteSecond]
          by_cases empty : second = ""
          · rw [empty, String.append_empty, opened_twice]
            exact congrArg _ (String.empty_append)
          · rw [opened_append _ second empty, String.append_assoc]

theorem join_fold (base : String) (directory : String) (additions : List String) :
    join base (additions.foldl join directory) = additions.foldl join (join base directory) := by
  induction additions generalizing directory with
  | nil => rfl
  | cons addition rest induction =>
      rw [List.foldl_cons, induction, join_assoc]
      rfl

theorem absolute_fold (base : String) (additions : List String) :
    isAbsolute (additions.foldl join base) = (isAbsolute base || additions.any isAbsolute) := by
  induction additions generalizing base with
  | nil => rw [List.foldl_nil, List.any_nil, Bool.or_false]
  | cons addition rest induction =>
      rw [List.foldl_cons, induction, absolute_join, List.any_cons, Bool.or_assoc]

theorem parts_fold (base : String) (additions : List String)
    (relative : ∀ addition ∈ additions, isAbsolute addition = false) :
    parts (additions.foldl join base) = parts base ++ additions.flatMap parts := by
  induction additions generalizing base with
  | nil => rw [List.foldl_nil, List.flatMap_nil, List.append_nil]
  | cons addition rest induction =>
      have others := induction (join base addition) fun other member =>
        relative other (List.mem_cons_of_mem addition member)
      rw [List.foldl_cons, others, parts_join _ _ (relative addition (by simp)),
        List.flatMap_cons, List.append_assoc]

theorem fold_part (base : String) (additions : List String) (part : String)
    (isPart : part ∈ parts (additions.foldl join base)) :
    part ∈ parts base ∨ ∃ addition ∈ additions, part ∈ parts addition := by
  induction additions generalizing base with
  | nil => exact .inl isPart
  | cons addition rest induction =>
      rcases induction (join base addition) isPart with joined | ⟨other, listed, inOther⟩
      · cases absolute : isAbsolute addition with
        | true =>
            rw [join_absolute base addition absolute] at joined
            exact .inr ⟨addition, by simp, joined⟩
        | false =>
            rw [parts_join base addition absolute, List.mem_append] at joined
            exact joined.imp_right fun inAddition => ⟨addition, by simp, inAddition⟩
      · exact .inr ⟨other, by simp [listed], inOther⟩

/-- Behind a path that begins at the root, nothing is left of what came before. -/
theorem fold_forgets (base other : String) (additions : List String)
    (absolute : additions.any isAbsolute = true) :
    additions.foldl join base = additions.foldl join other := by
  induction additions generalizing base other with
  | nil => cases absolute
  | cons addition rest induction =>
      rw [List.foldl_cons, List.foldl_cons]
      cases restAbsolute : rest.any isAbsolute with
      | true => exact induction _ _ restAbsolute
      | false =>
          rw [List.any_cons, restAbsolute, Bool.or_false] at absolute
          rw [join_absolute _ _ absolute, join_absolute _ _ absolute]

/-- Names below a path are its last parts and change nothing about its beginning. -/
theorem fold_parts (base : String) (names : List String)
    (areParts : ∀ name ∈ names, IsPart name) :
    isAbsolute (names.foldl join base) = isAbsolute base ∧
      beginsWithDot (names.foldl join base) = beginsWithDot base ∧
      parts (names.foldl join base) = parts base ++ names := by
  induction names generalizing base with
  | nil => exact ⟨rfl, rfl, (List.append_nil _).symm⟩
  | cons name rest induction =>
      have isPart := areParts name (by simp)
      have relative := part_relative name isPart
      obtain ⟨absolute, dot, below⟩ :=
        induction (join base name) fun other member => areParts other (by simp [member])
      rw [List.foldl_cons, absolute, dot, below]
      refine ⟨?_, ?_, ?_⟩
      · rw [absolute_join, relative, Bool.or_false]
      · by_cases empty : base = ""
        · -- The name itself is the beginning of the path.
          rw [empty, join_relative "" name relative, beginsWithDot]
          rw [show opened "" ++ name = name from String.empty_append, pieces_part name isPart.1]
          have noDot : name.toList ≠ ['.'] := fun dot =>
            isPart.2.2 (String.toList_inj.mp dot)
          simp [noDot, beginsWithDot, pieces, Text.splitBy]
        · exact dot_join base name relative empty
      · rw [parts_join base name relative, parts_part name isPart, List.append_assoc]
        rfl

theorem same_path_fold (base : String) (first second : List String)
    (firstParts : ∀ name ∈ first, IsPart name) (secondParts : ∀ name ∈ second, IsPart name) :
    samePath (first.foldl join base) (second.foldl join base) = true ↔ first = second := by
  obtain ⟨absolute, dot, below⟩ := fold_parts base first firstParts
  obtain ⟨absolute', dot', below'⟩ := fold_parts base second secondParts
  rw [samePath, absolute, absolute', dot, dot', below, below']
  simp

/-! ## Below a directory -/

/-- A path leads from a directory down to something in it. -/
def IsBelow (directory path : String) : Prop :=
  isAbsolute path = isAbsolute directory ∧
    ∃ rest, rest ≠ [] ∧ ".." ∉ rest ∧ parts path = parts directory ++ rest

theorem no_parent_of_no_stop (path : String) (noStop : '.' ∉ path.toList) :
    ".." ∉ parts path := fun isPart =>
  noStop (part_character path ".." isPart '.' (by decide))

section

variable (base : String) (directories : List String) (file : String)
  (noStops : ∀ directory ∈ directories, '.' ∉ directory.toList) (isPart : IsPart file)
  (noParent : file ≠ "..")

include noStops in
theorem fold_no_parent : ".." ∉ parts (directories.foldl join "") := by
  intro inFold
  rcases fold_part "" directories ".." inFold with inEmpty | ⟨directory, listed, isParent⟩
  · cases inEmpty
  · exact no_parent_of_no_stop directory (noStops directory listed) isParent

include noParent in
theorem no_parent_append (names : List String) (noneBefore : ".." ∉ names) :
    ".." ∉ names ++ [file] := by
  rw [List.mem_append, List.mem_singleton]
  exact fun isParent => isParent.elim noneBefore fun isFile => noParent isFile.symm

include noStops isPart noParent

theorem fold_below_relative
    (relative : ∀ directory ∈ directories, isAbsolute directory = false) :
    IsBelow base ((directories ++ [file]).foldl join base) := by
  have fileRelative := part_relative file isPart
  have allRelative : ∀ addition ∈ directories ++ [file], isAbsolute addition = false := by
    intro addition member
    rcases List.mem_append.mp member with inDirectories | isFile
    · exact relative addition inDirectories
    · rw [List.mem_singleton.mp isFile]
      exact fileRelative
  refine ⟨?_, (directories ++ [file]).flatMap parts, ?_, ?_, parts_fold _ _ allRelative⟩
  · rw [absolute_fold, List.any_eq_false.mpr fun addition member => by
      simp [allRelative addition member], Bool.or_false]
  · simp [parts_part file isPart]
  · rw [List.flatMap_append, List.flatMap_singleton, parts_part file isPart]
    apply no_parent_append file noParent
    intro inDirectory
    obtain ⟨directory, listed, isParent⟩ := List.mem_flatMap.mp inDirectory
    exact no_parent_of_no_stop directory (noStops directory listed) isParent

/-- Behind a directory that begins at the root, the file lies wherever the directories alone
lead. -/
theorem fold_below_absolute (absolute : directories.any isAbsolute = true) :
    IsBelow base ((directories ++ [file]).foldl join base) ↔
      isAbsolute base = true ∧ parts base <+: parts (directories.foldl join "") := by
  have fileRelative := part_relative file isPart
  rw [List.foldl_append, fold_forgets base "" directories absolute, List.foldl_cons,
    List.foldl_nil, IsBelow, absolute_join, absolute_fold, absolute, fileRelative,
    parts_join _ file fileRelative, parts_part file isPart]
  simp only [Bool.or_true, Bool.or_false]
  refine and_congr eq_comm ⟨?_, ?_⟩
  · rintro ⟨rest, filled, _, below⟩
    obtain ⟨before, last, split⟩ := List.eq_nil_or_concat rest |>.resolve_left filled
    rw [split, List.concat_eq_append, ← List.append_assoc] at below
    exact ⟨before, (List.append_inj' below rfl).1.symm⟩
  · rintro ⟨before, leads⟩
    have noneBefore : ".." ∉ before := by
      intro isParent
      apply fold_no_parent directories noStops
      rw [← leads]
      exact List.mem_append_right _ isParent
    exact ⟨before ++ [file], by simp, no_parent_append file noParent before noneBefore,
      by rw [← leads, List.append_assoc]⟩

/-- A file below directories without full stops stays below the base exactly when no directory
begins at the root, or those that do lead there again. -/
theorem fold_below_iff :
    IsBelow base ((directories ++ [file]).foldl join base) ↔
      (∀ directory ∈ directories, isAbsolute directory = false) ∨
        (isAbsolute base = true ∧ parts base <+: parts (directories.foldl join "")) := by
  cases absolute : directories.any isAbsolute with
  | false =>
      have relative : ∀ directory ∈ directories, isAbsolute directory = false := by
        simpa using absolute
      exact iff_of_true
        (fold_below_relative base directories file noStops isPart noParent relative) (.inl relative)
  | true =>
      have notRelative : ¬ ∀ directory ∈ directories, isAbsolute directory = false := by
        simpa using absolute
      rw [fold_below_absolute base directories file noStops isPart noParent absolute,
        or_iff_right notRelative]

end

end Recordsmith.Storage
