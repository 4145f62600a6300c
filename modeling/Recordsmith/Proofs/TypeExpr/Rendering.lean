import Recordsmith.Proofs.TypeExpr.Reading

/-!
Rendering and reading are inverse on the types whose names are words, and on no others. The written
form of such a type is one of its texts; and since every text of a type has words for its names, a
type with another name is not even read back from a text that happens to be read.
-/

namespace Recordsmith.TypeExpr

mutual

/-- The names in a type, at every level. -/
def names : TypeExpr → List String
  | ⟨name, arguments, _⟩ => name :: argumentNames arguments

/-- The names in arguments, at every level. -/
def argumentNames : List TypeExpr → List String
  | [] => []
  | first :: rest => first.names ++ argumentNames rest

end

/-- Every name in a type is a word. -/
def HasWords (type : TypeExpr) : Prop := ∀ name ∈ type.names, IsWord name.toList

/-- Every name in arguments is a word. -/
def HaveWords (arguments : List TypeExpr) : Prop :=
  ∀ name ∈ argumentNames arguments, IsWord name.toList

theorem has_words_iff (name : String) (arguments : List TypeExpr) (nullable : Bool) :
    HasWords ⟨name, arguments, nullable⟩ ↔ IsWord name.toList ∧ HaveWords arguments := by
  rw [HasWords, names, List.forall_mem_cons, HaveWords]

theorem have_words_iff (first : TypeExpr) (rest : List TypeExpr) :
    HaveWords (first :: rest) ↔ first.HasWords ∧ HaveWords rest := by
  rw [HaveWords, argumentNames, List.forall_mem_append]
  rfl

/-! ## The written form is a text -/

mutual

theorem write_derived (type : TypeExpr) (words : type.HasWords) : Derives type type.write := by
  match type with
  | ⟨name, arguments, nullable⟩ =>
      obtain ⟨isWord, argumentWords⟩ := (has_words_iff name arguments nullable).mp words
      have derived := Derives.type name.toList nullable isWord
        (write_arguments_derived arguments argumentWords)
      rw [String.ofList_toList] at derived
      rw [write]
      exact derived

theorem write_arguments_derived (arguments : List TypeExpr) (words : HaveWords arguments) :
    DerivesArguments arguments (writeArguments arguments) := by
  match arguments with
  | [] => exact .absent
  | first :: rest =>
      obtain ⟨firstWords, restWords⟩ := (have_words_iff first rest).mp words
      rw [writeArguments]
      exact .bracketed (write_derived first firstWords) (write_more_derived rest restWords)

theorem write_more_derived (others : List TypeExpr) (words : HaveWords others) :
    DerivesMore others (writeMore others) := by
  match others with
  | [] => exact .nothing
  | next :: rest =>
      obtain ⟨nextWords, restWords⟩ := (have_words_iff next rest).mp words
      -- The written form has no blank in front of a comma and one behind it.
      have derived := DerivesMore.next [] [' '] (by decide) (by decide)
        (write_derived next nextWords) (write_more_derived rest restWords)
      rw [writeMore]
      exact derived

end

/-! ## Only words are read as names -/

mutual

theorem derived_has_words {type : TypeExpr} {text : List Char} (derived : Derives type text) :
    type.HasWords := by
  cases derived with
  | type word nullable isWord derivedArguments =>
      rw [has_words_iff, String.toList_ofList]
      exact ⟨isWord, derived_arguments_have_words derivedArguments⟩

theorem derived_arguments_have_words {arguments : List TypeExpr} {text : List Char}
    (derived : DerivesArguments arguments text) : HaveWords arguments := by
  cases derived with
  | absent => exact fun _ absurd => nomatch absurd
  | bracketed derivedFirst derivedOthers =>
      rw [have_words_iff]
      exact ⟨derived_has_words derivedFirst, derived_more_have_words derivedOthers⟩

theorem derived_more_have_words {others : List TypeExpr} {text : List Char}
    (derived : DerivesMore others text) : HaveWords others := by
  cases derived with
  | nothing => exact fun _ absurd => nomatch absurd
  | next before after blankBefore blankAfter derivedFirst derivedOthers =>
      rw [have_words_iff]
      exact ⟨derived_has_words derivedFirst, derived_more_have_words derivedOthers⟩

end

theorem parsed_has_words {text : String} {type : TypeExpr} (parsed : parse text = .ok type) :
    type.HasWords := derived_has_words ((parse_ok_iff text type).mp parsed)

theorem parse_render_of_words (type : TypeExpr) (words : type.HasWords) :
    parse type.render = .ok type := by
  rw [parse_ok_iff, render, String.toList_ofList]
  exact write_derived type words

/-- A type is read back from its written form exactly when each of its names, at every level, is a
word. So types of words have written forms of their own, and a type that was read from any text is
read back from its written form. -/
theorem read_back_iff_words (type : TypeExpr) :
    (parse type.render = .ok type ↔ type.HasWords) ∧
      (∀ other : TypeExpr, type.HasWords → other.HasWords → type.render = other.render →
        type = other) ∧
      ∀ text, parse text = .ok type → parse type.render = .ok type := by
  refine ⟨⟨parsed_has_words, parse_render_of_words type⟩, ?_, ?_⟩
  · intro other words otherWords same
    have back := parse_render_of_words type words
    rw [same, parse_render_of_words other otherWords] at back
    exact (Except.ok.inj back).symm
  · intro text parsed
    exact parse_render_of_words type (parsed_has_words parsed)

/-- A type is read back that was read from a text with other blanks, and without its last question
mark it is written differently. One whose name is the text of another type is not read back. -/
theorem nested_map_is_read_back :
    let map : TypeExpr := ⟨"Map", [⟨"Int", [], true⟩, .generic "List" [.simple "V_1"]], true⟩
    map.HasWords ∧ parse "Map<Int?,\n List<V_1>>?" = .ok map ∧ parse map.render = .ok map ∧
      map.render ≠ (map.withNullable false).render ∧
      parse (simple "List<V>").render ≠ .ok (simple "List<V>") := by
  intro map
  have words : ∀ name ∈ map.names, IsWord name.toList := by decide
  have requiredWords : ∀ name ∈ (map.withNullable false).names, IsWord name.toList := by decide
  have parsed : parse "Map<Int?,\n List<V_1>>?" = .ok map := by decide +kernel
  refine ⟨words, parsed, (read_back_iff_words map).2.2 _ parsed, ?_, ?_⟩
  · intro same
    have equal := (read_back_iff_words map).2.1 _ words requiredWords same
    revert equal
    decide
  · rw [ne_eq, (read_back_iff_words (simple "List<V>")).1]
    intro illNamed
    have isWord := illNamed "List<V>" (by decide)
    revert isWord
    decide

end Recordsmith.TypeExpr
