import Recordsmith.Proofs.Source.Bounds

/-!
The reader of types gives well-formed types. A type that is kept as it stands has a foreign mark,
and a trait object without `dyn` more than a single path.
-/

namespace Recordsmith.Source

open Lexer Reader

/-! ## Foreign tokens passed over -/

/-- A token that no type expression has is among those passed over. -/
def PassedForeign (tokens left : List Lexeme) : Prop :=
  ∃ taken, tokens = taken ++ left ∧ ∃ lexeme ∈ taken, lexeme.token.IsForeign

theorem PassedForeign.suffix {start tokens left last : List Lexeme}
    (passed : PassedForeign tokens left) (before : tokens <:+ start) (after : last <:+ left) :
    PassedForeign start last := by
  obtain ⟨taken, rfl, lexeme, member, foreign⟩ := passed
  obtain ⟨earlier, rfl⟩ := before
  obtain ⟨later, rfl⟩ := after
  exact ⟨earlier ++ taken ++ later, by simp, lexeme, by simp [member], foreign⟩

theorem PassedForeign.left {tokens left : List Lexeme} (passed : PassedForeign tokens left) :
    left <:+ tokens := by
  obtain ⟨taken, rfl, _⟩ := passed
  exact List.suffix_append taken left

theorem BeginsGroup.passed {delimiter : Delimiter} {tokens left : List Lexeme}
    (begins : BeginsGroup delimiter tokens left) : PassedForeign tokens left := by
  obtain ⟨first, rest, rfl, opens, taken, rfl⟩ := begins
  exact ⟨first :: taken, rfl, first, List.mem_cons_self,
    opens ▸ Token.opening_is_foreign delimiter⟩

theorem reads_since_passed {start tokens : List Lexeme} (passed : PassedForeign start tokens) :
    Reads tokens (readSince start) fun found left =>
      left = tokens ∧ (WrittenType.verbatim found).IsWellFormed := by
  obtain ⟨taken, since, lexeme, member, foreign⟩ := passed
  exact reads_since since ⟨rfl, lexeme.token, List.mem_map_of_mem member, foreign⟩

theorem reads_operator? {tokens : List Lexeme} (sign : String) :
    Reads tokens (operator? sign) fun found left =>
      found = beginsWithOperator sign tokens ∧
        left = if found then tokens.drop sign.length else tokens := by
  unfold operator? peekOperator
  apply reads_bind
  apply reads_bind
  apply reads_ahead
  apply reads_pure
  apply reads_if
  · intro begins
    apply reads_bind
    apply reads_skip
    exact reads_pure ⟨begins.symm, rfl⟩
  · intro absent
    exact reads_pure ⟨(Bool.eq_false_iff.mpr absent).symm, rfl⟩

theorem begins_with_mark {character : Char} {tokens : List Lexeme}
    (begins : beginsWithMarks [character] tokens = true) :
    ∃ joint place rest, tokens = ⟨.mark character joint, place⟩ :: rest := by
  cases tokens with
  | nil => cases begins
  | cons first rest =>
      obtain ⟨token, place⟩ := first
      cases token with
      | mark found joint =>
          have same : character = found := eq_of_beq begins
          exact ⟨joint, place, rest, same ▸ rfl⟩
      | _ => cases begins

theorem reads_foreign_mark? {tokens : List Lexeme} {sign : String} {character : Char}
    (single : sign.toList = [character]) (foreign : TypeExpr.isForeign character = true) :
    Reads tokens (operator? sign) fun found left =>
      if found then PassedForeign tokens left else left = tokens := by
  refine (reads_operator? sign).imp ?_
  rintro found left ⟨same, rest⟩
  cases found with
  | false => exact rest
  | true =>
      have begins : beginsWithMarks [character] tokens = true := by
        rw [← single]
        exact same.symm
      have length : sign.length = 1 := by
        rw [← String.length_toList, single]
        rfl
      obtain ⟨joint, place, others, rfl⟩ := begins_with_mark begins
      rw [length] at rest
      refine ⟨[_], by rw [rest]; rfl, _, List.mem_singleton_self _, ?_⟩
      exact Token.mark_is_foreign character joint foreign

theorem reads_foreign_mark {tokens : List Lexeme} {sign : String} {character : Char}
    (single : sign.toList = [character]) (foreign : TypeExpr.isForeign character = true) :
    Reads tokens (operator sign) fun _ left => PassedForeign tokens left := by
  unfold operator
  refine (reads_foreign_mark? single foreign).bind ?_
  intro found left passed
  cases found with
  | true => exact reads_pure passed
  | false => exact reads_anything.bind fun place _ _ => reads_refuse_at _ place

section

variable {parts : Grammar} (sound : parts.IsSound)

include sound

theorem keeps_output (plus : Bool) : Keeps (output parts plus) fun _ => True := by
  unfold output
  apply keeps_bind (keeps_operator? "->")
  intro _ _
  apply keeps_if
  · intro _
    exact keeps_map_any (sound.type plus)
  · intro _
    exact keeps_pure trivial

/-! ## Function pointers -/

omit sound in
theorem keeps_pointer_words : Keeps pointerWords fun _ => True := by
  unfold pointerWords
  apply keeps_bind (keeps_word? "unsafe")
  intro _ _
  apply keeps_if
  -- What comes behind the word is read alike without it.
  all_goals
    intro _
    refine keeps_bind (keeps_pure trivial) fun safety (_ : True) => ?_
    apply keeps_bind (keeps_word? "extern")
    intro _ _
    apply keeps_if
    · intro _
      apply keeps_bind keeps_ahead
      intro tokens _
      split
      · exact keeps_bind (keeps_skip 1) fun _ _ => keeps_pure trivial
      · exact keeps_pure trivial
    · intro _
      exact keeps_pure trivial

theorem keeps_function_pointer (binder : Binder) :
    Keeps (functionPointer parts binder) WrittenType.IsWellFormed := by
  unfold functionPointer
  apply keeps_bind keeps_pointer_words
  intro words _
  apply keeps_bind (keeps_word "fn")
  intro _ _
  refine keeps_group_then (fun _ _ => reads_anything) ?_
  rintro ⟨parameters, trailing, rest⟩ _
  exact keeps_bind (keeps_output sound false) fun _ _ => keeps_pure trivial

/-! ## Types that begin with a parenthesis -/

theorem keeps_bounds_after (fuel : Nat) : Keeps (boundsAfter parts fuel) fun _ => True := by
  induction fuel with
  | zero => exact keeps_pure trivial
  | succ fuel induction =>
      unfold boundsAfter
      apply keeps_bind (keeps_operator? "+")
      intro _ _
      apply keeps_if
      · intro _
        apply keeps_bind (sound.bound false false)
        intro first _
        exact keeps_bind induction fun _ _ => keeps_pure trivial
      · intro _
        exact keeps_pure trivial

omit sound in
theorem reads_bounds_after (fuel : Nat) (tokens : List Lexeme)
    (begins : beginsWithOperator "+" tokens = true) :
    Reads tokens (boundsAfter parts (fuel + 1)) fun found _ => found ≠ [] := by
  unfold boundsAfter
  refine (reads_operator? "+").bind ?_
  rintro found left ⟨same, _⟩
  rw [same, begins]
  exact reads_anything.bind fun _ _ _ => reads_anything.bind fun _ _ _ =>
    reads_pure (List.cons_ne_nil _ _)

omit sound in
theorem bare_bounds_of_more (first : Bound) (others : List Bound) (trailing : Bool)
    (more : first.IsNoType ∨ others ≠ [] ∨ trailing = true) :
    AreBareBounds (first :: others) trailing := by
  rcases more with noType | nonempty | trailing
  · exact bare_bounds_of_no_type first noType others trailing
  · have := List.length_pos_iff.mpr nonempty
    refine .inl ?_
    rw [List.length_cons]
    omega
  · exact .inr (.inl ⟨List.cons_ne_nil _ _, trailing⟩)

/-- What is read between parentheses: a well-formed type, and a bound that has to be the first one
of a trait object is no type by itself. -/
def InParentheses (found : WrittenType × Option (Bound × Bool)) : Prop :=
  found.1.IsWellFormed ∧ ∀ bound, found.2 = some (bound, true) → bound.IsNoType

theorem keeps_more_elements (first : WrittenType) :
    Keeps (moreElements parts first) WrittenType.IsWellFormed := by
  unfold moreElements
  apply keeps_bind (keeps_operator ",")
  intro _ _
  exact keeps_bind (keeps_comma_separated (sound.type true)) fun _ _ => keeps_pure trivial

theorem keeps_inside_parentheses : Keeps (insideParentheses parts) InParentheses := by
  unfold insideParentheses
  apply keeps_bind keeps_ahead
  intro tokens _
  apply keeps_if
  · intro _
    exact keeps_pure ⟨trivial, by simp⟩
  · intro _
    apply keeps_if
    · intro _
      exact keeps_bind (sound.type true) fun _ wellFormed => keeps_pure ⟨wellFormed, by simp⟩
    · intro _
      apply keeps_if
      · intro _
        have keepsTrait : Keeps (traitBound parts false) fun _ => True := fun _ named =>
          (reads_trait_bound sound named false).imp fun _ _ ⟨suffix, _⟩ => ⟨suffix, trivial⟩
        apply keeps_bind keepsTrait
        intro found _
        cases found with
        | some parts => exact keeps_pure ⟨trivial, by rintro _ ⟨⟩; exact .inl rfl⟩
        | none => exact keeps_refused (keeps_refuse_unless _)
      · intro _
        apply keeps_bind (sound.type true)
        intro first wellFormed
        apply keeps_bind (keeps_peek_operator ",")
        intro _ _
        apply keeps_if
        · intro _
          exact keeps_bind (keeps_more_elements sound first) fun _ wellFormedTuple =>
            keeps_pure ⟨wellFormedTuple, by simp⟩
        · intro _
          exact keeps_pure ⟨wellFormed, by simp⟩

theorem keeps_parenthesized_type (plus : Bool) :
    Keeps (parenthesizedType parts plus) WrittenType.IsWellFormed := by
  unfold parenthesizedType
  refine keeps_group_then (fun tokens named => (keeps_inside_parentheses sound tokens named).imp
    fun _ _ ⟨_, held⟩ => held) ?_
  rintro ⟨type, first?⟩ ⟨wellFormed, noType⟩ tokens named
  unfold peekOperator
  apply reads_bind
  apply reads_bind
  apply reads_ahead
  apply reads_pure
  cases first? with
  | none => exact reads_pure ⟨List.suffix_refl _, wellFormed⟩
  | some found =>
      obtain ⟨first, isBound⟩ := found
      apply reads_if
      · intro goesOn
        -- Without a bound that is no type there is a plus sign, so a second bound follows.
        apply reads_bind
        apply reads_list_fuel
        intro more
        refine ((keeps_bounds_after sound (more + 1) tokens named).and
          (?_ : Reads tokens _ fun others _ => isBound = true ∨ others ≠ [])).bind ?_
        · cases isBound with
          | true => exact fun _ _ _ _ _ => .inl rfl
          | false =>
              have begins : beginsWithOperator "+" tokens = true := by
                simp only [Bool.false_or, Bool.and_eq_true] at goesOn
                exact goesOn.2
              exact (reads_bounds_after more tokens begins).imp fun _ _ others => .inr others
        · rintro others left ⟨⟨suffix, _⟩, isBound | nonempty⟩
          · have noTypeFirst := noType first (by rw [isBound])
            exact reads_pure ⟨suffix, bare_bounds_of_more first others false (.inl noTypeFirst)⟩
          · have more : others ≠ [] ∨ false = true := .inl nonempty
            exact reads_pure ⟨suffix, bare_bounds_of_more first others false (.inr more)⟩
      · intro _
        exact reads_pure ⟨List.suffix_refl _, wellFormed⟩

/-! ## Types that begin with a path -/

theorem keeps_further_bounds (fuel : Nat) : Keeps (furtherBounds parts fuel) fun _ => True := by
  induction fuel with
  | zero => exact keeps_pure trivial
  | succ fuel induction =>
      unfold furtherBounds
      apply keeps_bind (keeps_operator? "+")
      intro _ _
      apply keeps_if
      · intro _
        apply keeps_bind keeps_ahead
        intro tokens _
        apply keeps_if
        · intro _
          apply keeps_bind (sound.bound false false)
          intro first _
          exact keeps_bind induction fun _ _ => keeps_pure trivial
        · intro _
          exact keeps_pure trivial
      · intro _
        exact keeps_pure trivial

omit sound in
theorem reads_further_bounds (fuel : Nat) (tokens : List Lexeme)
    (begins : beginsWithOperator "+" tokens = true) :
    Reads tokens (furtherBounds parts (fuel + 1)) fun found _ =>
      found.1 ≠ [] ∨ found.2 = true := by
  unfold furtherBounds
  refine (reads_operator? "+").bind ?_
  rintro found left ⟨same, _⟩
  rw [same, begins]
  apply reads_bind
  apply reads_ahead
  apply reads_if
  · intro _
    exact reads_anything.bind fun _ _ _ => reads_anything.bind fun _ _ _ =>
      reads_pure (.inl (List.cons_ne_nil _ _))
  · intro _
    exact reads_pure (.inr rfl)

/-- A trait object whose first bound is a path has a binder in front of it, or a plus sign behind
it. -/
theorem reads_object_behind_path (plus : Bool) (binder : Binder) (leading : Bool)
    (segments : List PathSegment) (tokens : List Lexeme) (named : AreNamed tokens)
    (goesOn : binder.isAbsent = false ∨ (plus = true ∧ beginsWithOperator "+" tokens = true)) :
    Reads tokens (do
      let (bounds, trailing) ← if plus then furtherBounds parts (← listFuel) else pure ([], false)
      return WrittenType.traitObject false (.trait false binder false leading segments :: bounds)
        trailing) fun type left => left <:+ tokens ∧ type.IsWellFormed := by
  have bareOf (bounds : List Bound) (trailing : Bool)
      (more : binder.isAbsent = false ∨ bounds ≠ [] ∨ trailing = true) :
      AreBareBounds (.trait false binder false leading segments :: bounds) trailing :=
    bare_bounds_of_more _ bounds trailing (more.imp_left .inr)
  apply reads_if
  · intro _
    apply reads_bind
    apply reads_list_fuel
    intro fuel
    have more : Reads tokens (furtherBounds parts (fuel + 1)) fun found _ =>
        binder.isAbsent = false ∨ found.1 ≠ [] ∨ found.2 = true := by
      rcases goesOn with present | ⟨_, begins⟩
      · exact fun _ _ _ _ _ => .inl present
      · exact (reads_further_bounds fuel tokens begins).imp fun _ _ more => .inr more
    refine ((keeps_further_bounds sound (fuel + 1) tokens named).and more).bind ?_
    rintro ⟨bounds, trailing⟩ left ⟨⟨suffix, _⟩, more⟩
    exact reads_pure ⟨suffix, bareOf bounds trailing more⟩
  · intro refused
    have present : binder.isAbsent = false := goesOn.resolve_right fun allowed => refused allowed.1
    exact reads_pure ⟨List.suffix_refl _, bareOf [] false (.inl present)⟩

theorem keeps_path_type (plus : Bool) (binder : Binder) :
    Keeps (pathType parts plus binder) WrittenType.IsWellFormed := by
  unfold pathType
  apply keeps_bind (keeps_qualified_path sound false)
  intro type wellFormed
  split
  · rename_i leading segments
    intro tokens named
    apply reads_bind
    apply reads_ahead
    apply reads_if
    · intro _
      exact keeps_bind (keeps_skip 1) (fun _ _ => keeps_bind keeps_any_group fun _ _ =>
        keeps_pure trivial) tokens named
    · intro _
      apply reads_if
      · intro goesOn
        apply reads_object_behind_path sound plus binder leading segments tokens named
        simpa using goesOn
      · intro _
        exact reads_pure ⟨List.suffix_refl _, wellFormed⟩
  · exact keeps_pure wellFormed

/-! ## All types -/

omit sound in
theorem reads_skip_builtin (tokens : List Lexeme) (named : AreNamed tokens) :
    Reads tokens skipBuiltin fun _ left => PassedForeign tokens left := by
  unfold skipBuiltin
  refine (keeps_word "builtin").reads named fun _ behindWord suffixWord namedWord _ => ?_
  have isForeign : TypeExpr.isForeign '#' = true := by decide
  refine (reads_foreign_mark rfl isForeign).bind fun _ behindMark passed => ?_
  have namedMark := namedWord.suffix passed.left
  refine keeps_identifier.reads namedMark fun _ behindName suffixName namedName _ => ?_
  refine (keeps_any_inside behindName namedName).bind fun _ left ⟨suffix, _⟩ => ?_
  exact reads_pure (passed.suffix suffixWord (suffix.trans suffixName))

theorem keeps_object_bounds (start : Nat) (plus : Bool) :
    Keeps (objectBounds parts start plus) fun found => AreBounds found.1 := by
  unfold objectBounds
  apply keeps_bind keeps_list_fuel
  rintro _ ⟨more, rfl⟩
  apply keeps_bind (keeps_several_bounds sound plus false false (more + 1))
  rintro ⟨bounds, trailing⟩ areBounds
  apply keeps_if
  · intro _
    exact keeps_pure (areBounds (Nat.succ_pos more))
  · intro _
    exact keeps_refuse_at _ _

theorem reads_bare_object_bounds (start : Nat) (plus : Bool) (tokens : List Lexeme)
    (named : AreNamed tokens) (begins : beginsWithLifetime tokens = true) :
    Reads tokens (objectBounds parts start plus) fun found _ => AreBareBounds found.1 found.2 := by
  unfold objectBounds
  apply reads_bind
  apply reads_list_fuel
  intro more
  refine (reads_lifetime_bounds sound plus false false more tokens named begins).bind ?_
  rintro ⟨bounds, trailing⟩ _ bare
  apply reads_if
  · intro _
    exact reads_pure bare
  · intro _
    exact reads_refuse_at _ _

omit sound in
theorem reads_inside_brackets (tokens : List Lexeme) :
    Reads tokens (insideBrackets parts) fun type _ => type.IsWellFormed := by
  unfold insideBrackets
  refine reads_anything.bind fun element _ _ => reads_anything.bind fun found _ _ => ?_
  apply reads_if
  · intro _
    exact reads_anything.bind fun _ _ _ => reads_pure trivial
  · intro _
    exact reads_pure trivial

theorem reads_dynamic_object (start : Nat) (plus : Bool) {whole tokens : List Lexeme}
    (suffix : tokens <:+ whole) (named : AreNamed tokens) :
    Reads tokens (do
      let isStarred ← operator? "*"
      let (bounds, trailing) ← objectBounds parts start plus
      if isStarred then return WrittenType.verbatim (← readSince whole)
      return .traitObject true bounds trailing) fun type left =>
        left <:+ whole ∧ type.IsWellFormed := by
  have isForeign : TypeExpr.isForeign '*' = true := by decide
  refine ((keeps_operator? "*" tokens named).and (reads_foreign_mark? rfl isForeign)).bind ?_
  rintro isStarred behindMark ⟨⟨suffixMark, _⟩, passed⟩
  refine (keeps_object_bounds sound start plus).reads (named.suffix suffixMark) ?_
  rintro ⟨bounds, trailing⟩ left suffixLeft _ areBounds
  cases isStarred with
  | false => exact reads_pure ⟨suffixLeft.trans (suffixMark.trans suffix), areBounds⟩
  | true =>
      have passedWhole := PassedForeign.suffix passed suffix suffixLeft
      refine (reads_since_passed passedWhole).bind ?_
      rintro _ _ ⟨rfl, wellFormed⟩
      exact reads_pure ⟨passedWhole.left, wellFormed⟩

theorem keeps_opaque_type (start : Nat) (plus : Bool) : Keeps (do
    let (bounds, trailing) ← severalBounds parts plus true true (← listFuel)
    unless bounds.any Bound.isTrait do
      refuseAt opaqueNeedsTrait start
    return .someTrait bounds trailing) WrittenType.IsWellFormed := by
  apply keeps_bind keeps_list_fuel
  rintro _ ⟨more, rfl⟩
  apply keeps_bind (keeps_several_bounds sound plus true true (more + 1))
  rintro ⟨bounds, trailing⟩ areBounds
  apply keeps_if
  · intro _
    exact keeps_pure (areBounds (Nat.succ_pos more))
  · intro _
    exact keeps_refused (keeps_refuse_at _ _)

theorem keeps_pointer_type : Keeps (do
    if ← word? "const" then return .pointer false (← parts.type false)
    unless ← word? "mut" do
      refuseUnless [quoted "const", quoted "mut"]
    return .pointer true (← parts.type false)) WrittenType.IsWellFormed := by
  apply keeps_bind (keeps_word? "const")
  intro _ _
  apply keeps_if
  · intro _
    exact keeps_bind (sound.type false) fun _ _ => keeps_pure trivial
  · intro _
    apply keeps_bind (keeps_word? "mut")
    intro _ _
    apply keeps_if
    · intro _
      exact keeps_bind (sound.type false) fun _ _ => keeps_pure trivial
    · intro _
      exact keeps_refused (keeps_refuse_unless _)

theorem keeps_reference_type : Keeps (do
    let name ← if ← peekLifetime then some <$> lifetime else pure none
    let isMutable ← word? "mut"
    return .reference name isMutable (← parts.type false)) WrittenType.IsWellFormed := by
  have behindName (name : Option String) : Keeps (do
      let isMutable ← word? "mut"
      return WrittenType.reference name isMutable (← parts.type false))
      WrittenType.IsWellFormed :=
    keeps_bind (keeps_word? "mut") fun _ _ =>
      keeps_bind (sound.type false) fun _ _ => keeps_pure trivial
  apply keeps_bind keeps_peek_lifetime
  intro _ _
  apply keeps_if
  · intro _
    exact keeps_bind (keeps_map_any keeps_lifetime) fun name _ => behindName name
  · intro _
    exact keeps_bind (keeps_pure trivial) fun name (_ : True) => behindName name

theorem keeps_read_type (plus : Bool) : Keeps (readType parts plus) WrittenType.IsWellFormed := by
  intro start namedStart
  unfold readType
  apply reads_bind
  apply reads_ahead
  refine keeps_place.reads namedStart fun startPlace before suffixBefore namedBefore _ => ?_
  refine (keeps_binder sound).reads namedBefore fun binder tokens suffixBinder named _ => ?_
  have suffix : tokens <:+ start := suffixBinder.trans suffixBefore
  -- What is kept as it stands is counted from the start, not from behind the binder.
  have finish {reader : Reader WrittenType} (keeps : Keeps reader WrittenType.IsWellFormed) :
      Reads tokens reader fun type left => left <:+ start ∧ type.IsWellFormed :=
    (keeps tokens named).imp fun _ _ ⟨left, wellFormed⟩ => ⟨left.trans suffix, wellFormed⟩
  apply reads_bind
  apply reads_ahead
  refine reads_if (fun _ => reads_refused (reads_refuse_unless _)) fun _ => ?_
  refine reads_if (fun _ => finish (keeps_parenthesized_type sound plus)) fun _ => ?_
  refine reads_if (fun _ => finish (keeps_function_pointer sound binder)) fun _ => ?_
  refine reads_if (fun _ => ?_) fun _ => ?_
  · refine (reads_skip_builtin tokens named).bind fun _ left passed => ?_
    have passedStart := passed.suffix suffix (List.suffix_refl left)
    refine (reads_since_passed passedStart).bind ?_
    rintro _ _ ⟨rfl, wellFormed⟩
    exact reads_pure ⟨passedStart.left, wellFormed⟩
  refine reads_if (fun _ => finish (keeps_path_type sound plus binder)) fun _ => ?_
  refine reads_if (fun _ => ?_) fun _ => ?_
  · refine (keeps_skip 1).reads named fun _ behindWord suffixWord namedWord _ => ?_
    exact reads_dynamic_object sound startPlace plus (suffixWord.trans suffix) namedWord
  refine reads_if (fun _ => finish (keeps_group fun tokens _ => reads_inside_brackets tokens))
    fun _ => ?_
  refine reads_if (fun _ => finish ?_) fun _ => ?_
  · exact keeps_bind (keeps_skip 1) fun _ _ => keeps_pointer_type sound
  refine reads_if (fun _ => finish ?_) fun _ => ?_
  · exact keeps_bind (keeps_skip 1) fun _ _ => keeps_reference_type sound
  refine reads_if (fun _ => finish ?_) fun _ => ?_
  · exact keeps_bind (keeps_skip 1) fun _ _ => keeps_pure trivial
  refine reads_if (fun _ => finish ?_) fun _ => ?_
  · exact keeps_bind (keeps_skip 1) fun _ _ => keeps_opaque_type sound startPlace plus
  refine reads_if (fun _ => finish ?_) fun _ => ?_
  · exact keeps_bind (keeps_skip 1) fun _ _ => keeps_pure trivial
  refine reads_if (fun begins => ?_) fun _ => reads_refuse_unless _
  · refine ((keeps_object_bounds sound startPlace true tokens named).and
      (reads_bare_object_bounds sound startPlace true tokens named begins)).bind ?_
    rintro ⟨bounds, trailing⟩ left ⟨⟨suffixLeft, _⟩, bare⟩
    exact reads_pure ⟨suffixLeft.trans suffix, bare⟩

end

/-- The readers of types and bounds are sound at every level of nesting. -/
theorem grammar_is_sound (depth : Nat) : (grammar depth).IsSound := by
  induction depth with
  | zero =>
      exact {
        type := fun _ => keeps_refuse_unless typeStarts
        bound := fun _ _ => keeps_refuse _
        lifetime := fun _ _ _ _ => reads_refuse _ }
  | succ depth sound =>
      exact {
        type := keeps_read_type sound
        bound := keeps_read_bound sound
        lifetime := reads_lifetime_bound }

end Recordsmith.Source
