import Mathlib.Data.List.Forall2
import Recordsmith.Proofs.Derive.Entries
import Recordsmith.Proofs.Outcome

/-!
Helper attributes of a declaration. Each of them sets the paths of its entries or has a first
fault; those of other names count for nothing. Of all paths together the last one is the runtime
path, and the first fault in the order of the attributes leaves none of them.
-/

namespace Recordsmith.Helper

open Lexer Source

/-! ## One attribute -/

/-- The path of the attribute is the one name, with nothing around it. -/
def IsOurs (helper : Attribute) : Prop := helper.path = .plain false [attributeName]

/-- An attribute sets the paths of its entries: it is a group of them and nothing else. -/
def Sets (helper : Attribute) (paths : List WrittenPath) : Prop :=
  ∃ delimiter tokens groupEnd, helper.body = .group delimiter tokens groupEnd ∧
    AreEntries tokens paths

/-- The first thing wrong with an attribute: it is no group, or there is a fault in the group. -/
inductive Faulty : Attribute → Mistake → Prop
  | absent (path : WrittenPath) (place : Nat) : Faulty ⟨path, place, .absent⟩
      ⟨"expected attribute arguments in parentheses: #[buildable(...)]", place, none⟩
  | value (path : WrittenPath) (place signPlace : Nat) (value : Tree) :
      Faulty ⟨path, place, .value signPlace value⟩
        ⟨"expected parentheses: #[buildable(...)]", signPlace, none⟩
  | group (path : WrittenPath) (place : Nat) (delimiter : Delimiter) {tokens : List Lexeme}
      {groupEnd : Nat} {mistake : Mistake} (fault : EntriesFault groupEnd tokens mistake) :
      Faulty ⟨path, place, .group delimiter tokens groupEnd⟩ mistake

theorem is_ours_iff (helper : Attribute) :
    helper.path.isName attributeName = true ↔ IsOurs helper := by
  obtain ⟨⟨leading, segments⟩, place, body⟩ := helper
  rw [IsOurs]
  match leading, segments with
  | true, segments => exact ⟨nofun, nofun⟩
  | false, [] => exact ⟨nofun, nofun⟩
  | false, [.mk name arguments] =>
      cases arguments with
      | absent =>
          change (name == attributeName && true) = true ↔ _
          rw [Bool.and_true, beq_iff_eq]
          constructor
          · rintro rfl
            rfl
          · intro same
            cases same
            rfl
      | _ =>
          refine ⟨fun held => ?_, nofun⟩
          exact nomatch (Bool.and_eq_true_iff.mp held).2
  | false, _ :: _ :: _ => exact ⟨nofun, nofun⟩

instance : DecidablePred IsOurs := fun helper => decidable_of_iff _ (is_ours_iff helper)

theorem sets_or_faulty (helper : Attribute) :
    (∃ paths, Sets helper paths) ∨ ∃ mistake, Faulty helper mistake := by
  obtain ⟨path, place, body⟩ := helper
  cases body with
  | absent => exact .inr ⟨_, .absent path place⟩
  | value signPlace value => exact .inr ⟨_, .value path place signPlace value⟩
  | group delimiter tokens groupEnd =>
      obtain ⟨paths, entries⟩ | ⟨mistake, fault⟩ := entries_or_fault groupEnd tokens
      · exact .inl ⟨paths, delimiter, tokens, groupEnd, rfl, entries⟩
      · exact .inr ⟨mistake, .group path place delimiter fault⟩

theorem Sets.path {helper : Attribute} {paths : List WrittenPath}
    (sets : Sets helper paths) : attributePath helper = .ok paths.getLast? := by
  obtain ⟨delimiter, tokens, groupEnd, body, entries⟩ := sets
  rw [attributePath, body]
  dsimp only
  split_ifs with atEnd
  · rw [entries.none_iff.mp (List.isEmpty_iff.mp atEnd)]
    rfl
  · exact entries_read groupEnd none entries (atEnd ∘ List.isEmpty_iff.mpr) tokens.length
      (Nat.le_refl _)

theorem Faulty.path {helper : Attribute} {mistake : Mistake}
    (faulty : Faulty helper mistake) : attributePath helper = .error mistake := by
  cases faulty with
  | absent | value => rfl
  | @group _ _ _ tokens groupEnd _ fault =>
      rw [attributePath]
      dsimp only
      rw [if_neg (fault.filled ∘ List.isEmpty_iff.mp)]
      exact entries_faulty groupEnd none fault tokens.length (Nat.le_refl _)

theorem attribute_path_iff (helper : Attribute) (path : Option WrittenPath) :
    attributePath helper = .ok path ↔ ∃ paths, Sets helper paths ∧ path = paths.getLast? := by
  constructor
  · intro read
    obtain ⟨paths, sets⟩ | ⟨mistake, faulty⟩ := sets_or_faulty helper
    · rw [sets.path, Except.ok.injEq] at read
      exact ⟨paths, sets, read.symm⟩
    · rw [faulty.path] at read
      cases read
  · rintro ⟨paths, sets, rfl⟩
    exact sets.path

theorem attribute_mistake_iff (helper : Attribute) (mistake : Mistake) :
    attributePath helper = .error mistake ↔ Faulty helper mistake := by
  refine ⟨fun refused => ?_, Faulty.path⟩
  obtain ⟨paths, sets⟩ | ⟨found, faulty⟩ := sets_or_faulty helper
  · rw [sets.path] at refused
    cases refused
  · rw [faulty.path, Except.error.injEq] at refused
    exact refused ▸ faulty

/-! ## Several attributes -/

/-- The attributes of ours, in their order. -/
def ours (attributes : List Attribute) : List Attribute :=
  attributes.filter fun helper => IsOurs helper

/-- The paths that attributes of ours set, all together in their order. -/
def AttributesSet (attributes : List Attribute) (paths : List WrittenPath) : Prop :=
  ∃ own, List.Forall₂ Sets (ours attributes) own ∧ paths = own.flatten

/-- The first fault in attributes of ours: those before it set paths, and those behind it do not
count. -/
def FirstFault (attributes : List Attribute) (mistake : Mistake) : Prop :=
  ∃ before helper behind, ours attributes = before ++ helper :: behind ∧
    (∀ other ∈ before, ∃ paths, Sets other paths) ∧ Faulty helper mistake

theorem own_path_counts {first : Attribute} (isOurs : IsOurs first) (rest : List Attribute) :
    runtimePath (first :: rest) = (attributePath first >>= fun own =>
      runtimePath rest >>= fun later => .ok (later.or own)) := by
  rw [runtimePath, if_pos ((is_ours_iff first).mpr isOurs)]
  rfl

theorem other_path_skipped {first : Attribute} (notOurs : ¬ IsOurs first)
    (rest : List Attribute) : runtimePath (first :: rest) = runtimePath rest := by
  rw [runtimePath, if_neg (notOurs ∘ (is_ours_iff first).mp)]
  change (runtimePath rest >>= fun later => .ok (later.or none)) = _
  cases runtimePath rest with
  | error mistake => rfl
  | ok path => cases path <;> rfl

/-- Attributes of other names count for nothing. -/
theorem runtime_path_of_ours (attributes : List Attribute) :
    runtimePath (ours attributes) = runtimePath attributes := by
  induction attributes with
  | nil => rfl
  | cons first rest induction =>
      by_cases isOurs : IsOurs first
      · have kept : ours (first :: rest) = first :: ours rest :=
          List.filter_cons_of_pos (decide_eq_true isOurs)
        rw [kept, own_path_counts isOurs, own_path_counts isOurs, induction]
      · have left : ours (first :: rest) = ours rest :=
          List.filter_cons_of_neg (isOurs ∘ of_decide_eq_true)
        rw [left, other_path_skipped isOurs, induction]

section

variable {helpers : List Attribute}
  (allOurs : ∀ helper ∈ helpers, IsOurs helper)

include allOurs

/-- The path of the last attribute that sets any is the last one of all. -/
theorem helpers_set_iff (path : Option WrittenPath) : runtimePath helpers = .ok path ↔
    ∃ own, List.Forall₂ Sets helpers own ∧ path = own.flatten.getLast? := by
  induction helpers generalizing path with
  | nil =>
      constructor
      · intro none
        cases none
        exact ⟨[], .nil, rfl⟩
      · rintro ⟨_, ⟨⟩, rfl⟩
        rfl
  | cons first rest induction =>
      obtain ⟨isOurs, restOurs⟩ := List.forall_mem_cons.mp allOurs
      rw [own_path_counts isOurs, bind_ok_iff]
      constructor
      · rintro ⟨_, read, succeeded⟩
        obtain ⟨_, readRest, whole⟩ := bind_ok succeeded
        cases whole
        obtain ⟨paths, sets, rfl⟩ := (attribute_path_iff first _).mp read
        obtain ⟨own, setRest, rfl⟩ := (induction restOurs _).mp readRest
        exact ⟨paths :: own, .cons sets setRest, by
          rw [List.flatten_cons, List.getLast?_append]⟩
      · rintro ⟨_, both, rfl⟩
        obtain ⟨paths, own, sets, setRest, rfl⟩ := List.forall₂_cons_left_iff.mp both
        refine ⟨_, sets.path, ?_⟩
        rw [(induction restOurs _).mpr ⟨own, setRest, rfl⟩, List.flatten_cons,
          List.getLast?_append]
        rfl

theorem helpers_faulty_iff (mistake : Mistake) : runtimePath helpers = .error mistake ↔
    ∃ before helper behind, helpers = before ++ helper :: behind ∧
      (∀ other ∈ before, ∃ paths, Sets other paths) ∧ Faulty helper mistake := by
  induction helpers with
  | nil =>
      refine ⟨nofun, ?_⟩
      rintro ⟨before, _, _, none, _⟩
      cases before <;> cases none
  | cons first rest induction =>
      obtain ⟨isOurs, restOurs⟩ := List.forall_mem_cons.mp allOurs
      rw [own_path_counts isOurs, bind_error_iff]
      constructor
      · rintro (refused | ⟨_, read, failed⟩)
        · exact ⟨[], first, rest, rfl, nofun, (attribute_mistake_iff first mistake).mp refused⟩
        · obtain failedRest | ⟨_, _, none⟩ := bind_error failed
          · obtain ⟨paths, sets, _⟩ := (attribute_path_iff first _).mp read
            obtain ⟨before, helper, behind, rfl, set, faulty⟩ := (induction restOurs).mp failedRest
            exact ⟨first :: before, helper, behind, rfl,
              List.forall_mem_cons.mpr ⟨⟨paths, sets⟩, set⟩, faulty⟩
          · cases none
      · rintro ⟨before, helper, behind, split, set, faulty⟩
        cases before with
        | nil =>
            cases split
            exact .inl faulty.path
        | cons other before =>
            cases split
            obtain ⟨⟨paths, sets⟩, setBefore⟩ := List.forall_mem_cons.mp set
            refine .inr ⟨_, sets.path, ?_⟩
            rw [(induction restOurs).mpr ⟨before, helper, behind, rfl, setBefore, faulty⟩]
            rfl

end

/-- The last valid path counts, unless there is a fault anywhere: then the first one does. Reading
attributes of a declaration fails exactly when one of ours is no list of entries, and the mistake
is the first one in their order. Otherwise the runtime path is the last that any of them sets, or
the standard one. Attributes of other names never matter, wherever they stand. -/
theorem last_path_counts_unless_faulty (attributes : List Attribute) :
    (∀ mistake, runtimePath attributes = .error mistake ↔ FirstFault attributes mistake) ∧
    (∀ path, runtimePath attributes = .ok path ↔
      ∃ paths, AttributesSet attributes paths ∧ path = paths.getLast?) ∧
    (∀ path, (settings path).runtimePath = path.getD Settings.standard.runtimePath) ∧
    ((∃ mistake, runtimePath attributes = .error mistake) ↔
      ∃ helper ∈ attributes, IsOurs helper ∧ ¬ ∃ paths, Sets helper paths) ∧
    ∀ others, ours others = ours attributes →
      runtimePath others = runtimePath attributes := by
  have allOurs : ∀ helper ∈ ours attributes, IsOurs helper := fun helper member =>
    of_decide_eq_true (List.mem_filter.mp member).2
  have faultIff : ∀ mistake,
      runtimePath attributes = .error mistake ↔ FirstFault attributes mistake := by
    intro mistake
    rw [← runtime_path_of_ours]
    exact helpers_faulty_iff allOurs mistake
  have pathIff : ∀ path, runtimePath attributes = .ok path ↔
      ∃ paths, AttributesSet attributes paths ∧ path = paths.getLast? := by
    intro path
    rw [← runtime_path_of_ours, helpers_set_iff allOurs]
    constructor
    · rintro ⟨own, set, rfl⟩
      exact ⟨own.flatten, ⟨own, set, rfl⟩, rfl⟩
    · rintro ⟨_, ⟨own, set, rfl⟩, rfl⟩
      exact ⟨own, set, rfl⟩
  refine ⟨faultIff, pathIff, fun path => by cases path <;> rfl, ⟨?_, ?_⟩, ?_⟩
  · rintro ⟨mistake, failed⟩
    obtain ⟨before, helper, behind, split, -, faulty⟩ := (faultIff mistake).mp failed
    have member : helper ∈ ours attributes := by
      rw [split]
      exact List.mem_append_right _ List.mem_cons_self
    refine ⟨helper, (List.mem_filter.mp member).1, allOurs helper member, ?_⟩
    rintro ⟨paths, sets⟩
    cases sets.path.symm.trans faulty.path
  · rintro ⟨helper, member, isOurs, faulty⟩
    cases read : runtimePath attributes with
    | error mistake => exact ⟨mistake, rfl⟩
    | ok path =>
        obtain ⟨_, ⟨own, set, -⟩, -⟩ := (pathIff path).mp read
        have among : helper ∈ ours attributes :=
          List.mem_filter.mpr ⟨member, decide_eq_true isOurs⟩
        have all := (List.forall₂_and_left _ _).mp
          (set.imp fun {helper paths} sets => (⟨⟨paths, sets⟩, sets⟩ :
            (∃ paths, Sets helper paths) ∧ Sets helper paths))
        exact absurd (all.1 helper among) faulty
  · intro others same
    rw [← runtime_path_of_ours others, same, runtime_path_of_ours]

/-- An attribute of another name may change places with a valid entry, and the fault behind both of
them is found with a valid entry on either side. -/
theorem valid_entries_beside_a_fault :
    let entry : List Lexeme := [⟨.name "crate", 12⟩, ⟨.mark '=' false, 18⟩,
      ⟨.literal "\"::runtime\"", 20⟩]
    let valid : Attribute := ⟨.plain false ["buildable"], 2, .group .parenthesis entry 31⟩
    let foreign : Attribute := ⟨.plain false ["buildable", "extra"], 36, .absent⟩
    let wrong : Attribute :=
      ⟨.plain false ["buildable"], 55, .group .parenthesis [⟨.name "path", 65⟩] 69⟩
    ours [foreign, valid] = ours [valid, foreign] ∧
      runtimePath [foreign, valid] = runtimePath [valid, foreign] ∧
      runtimePath [valid, foreign, wrong, valid] =
        .error ⟨"unsupported buildable attribute", 65, none⟩ := by
  intro entry valid foreign wrong
  have same : ours [foreign, valid] = ours [valid, foreign] := rfl
  obtain ⟨path, isPath⟩ := Option.isSome_iff_exists.mp
    (by decide +kernel : (WrittenPath.read? "::runtime").isSome = true)
  have isEntry : IsEntry ([⟨.name "crate", 12⟩] ++ [⟨.mark '=' false, 18⟩] ++
      [⟨.literal "\"::runtime\"", 20⟩]) path :=
    .path ⟨12, rfl⟩ ⟨false, 18, rfl⟩ (by decide +kernel) isPath
  have sets : Sets valid [path] := ⟨.parenthesis, entry, 31, rfl, .last isEntry⟩
  have fault : EntryFault 69 ([⟨.name "path", 65⟩] ++ [])
      ⟨"unsupported buildable attribute", 65, none⟩ := by
    refine .otherKey (.names "path" 65 (.inl rfl) .none) ?_ ?_
    · exact fun begins => nomatch (begins_colons_iff []).mpr begins
    · rintro ⟨_, other⟩
      exact absurd other (by simp [runtimeKey])
  refine ⟨same, (last_path_counts_unless_faulty [valid, foreign]).2.2.2.2 _ same,
    ((last_path_counts_unless_faulty _).1 _).mpr ⟨[valid], wrong, [valid], rfl, ?_, ?_⟩⟩
  · exact List.forall_mem_singleton.mpr ⟨[path], sets⟩
  · exact .group _ _ _ (.first fault)

end Recordsmith.Helper
