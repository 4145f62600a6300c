import Recordsmith.Proofs.Source.Paths
import Recordsmith.Proofs.Token.Rendering

/-!
What the readers of parameters and bounds give. A bound that is kept as it stands begins with a
token of code, since the word or the bracket that marks it as constant comes before its name.
-/

namespace Recordsmith.Source

open Lexer Reader

/-! ## Tokens passed over -/

/-- The tokens begin with a token of code, and what is left lies behind it. -/
def Begun (tokens left : List Lexeme) : Prop :=
  ∃ first rest, tokens = first :: rest ∧ first.token.BeginsCode ∧ left <:+ rest

theorem Begun.suffix {tokens middle left : List Lexeme} (begun : Begun tokens middle)
    (suffix : left <:+ middle) : Begun tokens left := by
  obtain ⟨first, rest, same, begins, suffixRest⟩ := begun
  exact ⟨first, rest, same, begins, suffix.trans suffixRest⟩

theorem Begun.left {tokens left : List Lexeme} (begun : Begun tokens left) : left <:+ tokens := by
  obtain ⟨first, rest, rfl, _, suffix⟩ := begun
  exact suffix.trans (List.suffix_cons first rest)

theorem BeginsGroup.begun {delimiter : Delimiter} {tokens left : List Lexeme}
    (begins : BeginsGroup delimiter tokens left) : Begun tokens left := by
  obtain ⟨first, rest, same, opens, suffix⟩ := begins
  exact ⟨first, rest, same, opens ▸ Token.opening_begins_code delimiter, suffix⟩

theorem begins_with_name {name : String} {tokens : List Lexeme}
    (begins : beginsWithName name tokens = true) :
    ∃ place rest, tokens = ⟨.name name, place⟩ :: rest := by
  unfold beginsWithName at begins
  split at begins
  · rw [eq_of_beq begins]
    exact ⟨_, _, rfl⟩
  · cases begins

theorem reads_word? {tokens : List Lexeme} (named : AreNamed tokens) (name : String) :
    Reads tokens (word? name) fun found left =>
      if found then Begun tokens left else left = tokens := by
  unfold word? peekName
  apply reads_bind
  apply reads_bind
  apply reads_ahead
  apply reads_pure
  cases begins : beginsWithName name tokens with
  | true =>
      obtain ⟨place, rest, rfl⟩ := begins_with_name begins
      have isName := named _ List.mem_cons_self name rfl
      apply reads_bind
      apply reads_skip
      exact reads_pure ⟨_, rest, rfl, Token.name_begins_code isName, List.suffix_refl _⟩
  | false => exact reads_pure rfl

theorem reads_since_begun {start tokens : List Lexeme} (begun : Begun start tokens) :
    Reads tokens (readSince start) fun found left =>
      left = tokens ∧ (Bound.verbatim found).IsWellFormed := by
  obtain ⟨first, rest, same, begins, taken, whole⟩ := begun
  have since : start = (first :: taken) ++ tokens := by simp [same, ← whole]
  exact reads_since since ⟨rfl, first.token, plainTokens taken, rfl, begins⟩

section

variable {parts : Grammar}

/-! ## Generic parameters -/

theorem keeps_lifetime_parameter (attributes : List Tree) :
    Keeps (lifetimeParameter attributes) fun _ => True := by
  unfold lifetimeParameter
  apply keeps_bind keeps_lifetime
  intro name _
  apply keeps_bind (keeps_operator? ":")
  intro _ _
  apply keeps_if
  · intro _
    apply keeps_bind keeps_list_fuel
    intro fuel _
    exact keeps_bind (keeps_plus_until keeps_lifetime _ fuel) fun _ _ => keeps_pure trivial
  · intro _
    exact keeps_pure trivial

variable (sound : parts.IsSound)

include sound

theorem keeps_type_parameter (attributes : List Tree) :
    Keeps (typeParameter parts attributes) fun _ => True := by
  unfold typeParameter
  apply keeps_bind keeps_identifier
  intro name _
  have ending (bounds : List Bound) (trailing : Bool) : Keeps (do
      let standard ← if ← operator? "=" then some <$> parts.type true else pure none
      return GenericParameter.type attributes name bounds trailing standard) fun _ => True := by
    apply keeps_bind (keeps_operator? "=")
    intro _ _
    apply keeps_if
    · intro _
      exact keeps_bind (keeps_map_any (sound.type true)) fun _ _ => keeps_pure trivial
    · intro _
      exact keeps_pure trivial
  apply keeps_bind (keeps_operator? ":")
  intro _ _
  apply keeps_if
  · intro _
    apply keeps_bind keeps_list_fuel
    intro fuel _
    apply keeps_bind (keeps_plus_until (sound.bound false true) _ fuel)
    rintro ⟨bounds, trailing⟩ _
    exact ending bounds trailing
  · intro _
    exact ending [] false

theorem keeps_constant_parameter (attributes : List Tree) :
    Keeps (constantParameter parts attributes) fun _ => True := by
  unfold constantParameter
  apply keeps_bind (keeps_word "const")
  intro _ _
  apply keeps_bind keeps_identifier
  intro name _
  apply keeps_bind (keeps_operator ":")
  intro _ _
  apply keeps_bind (sound.type true)
  intro type _
  apply keeps_bind (keeps_operator? "=")
  intro _ _
  apply keeps_if
  · intro _
    exact keeps_bind (keeps_map_any (keeps_constant_argument parts)) fun _ _ => keeps_pure trivial
  · intro _
    exact keeps_pure trivial

theorem keeps_bound_parameter : Keeps (boundParameter parts) fun _ => True := by
  unfold boundParameter
  apply keeps_bind (keeps_outer_attributes parts)
  intro attributes _
  apply keeps_bind keeps_ahead
  intro tokens _
  apply keeps_if
  · intro _
    exact keeps_type_parameter sound attributes
  · intro _
    apply keeps_if
    · intro _
      exact keeps_lifetime_parameter attributes
    · intro _
      apply keeps_if
      · intro _
        exact keeps_constant_parameter sound attributes
      · intro _
        exact keeps_refuse_unless _

theorem keeps_declared_parameter : Keeps (declaredParameter parts) fun _ => True := by
  unfold declaredParameter
  apply keeps_bind (keeps_outer_attributes parts)
  intro attributes _
  apply keeps_bind keeps_ahead
  intro tokens _
  apply keeps_if
  · intro _
    exact keeps_lifetime_parameter attributes
  · intro _
    apply keeps_if
    · intro _
      exact keeps_type_parameter sound attributes
    · intro _
      apply keeps_if
      · intro _
        exact keeps_constant_parameter sound attributes
      · intro _
        apply keeps_if
        · intro _
          exact keeps_bind keeps_any_name fun _ _ => keeps_pure trivial
        · intro _
          exact keeps_refuse_unless _

theorem keeps_generics? : Keeps (generics? parts) fun _ => True := by
  unfold generics?
  apply keeps_bind (keeps_peek_operator "<")
  intro _ _
  apply keeps_if
  · intro _
    exact keeps_map_any (keeps_angled (keeps_declared_parameter sound))
  · intro _
    exact keeps_pure trivial

/-! ## Bounds -/

theorem reads_binder {tokens : List Lexeme} (named : AreNamed tokens) :
    Reads tokens (binder parts) fun found left =>
      Begun tokens left ∨ (left = tokens ∧ found.isAbsent = true) := by
  unfold binder
  refine (reads_word? named "for").bind ?_
  intro found left passed
  cases found with
  | true =>
      have begun : Begun tokens left := passed
      refine (keeps_angled (keeps_bound_parameter sound)).reads (named.suffix begun.left) ?_
      intro _ _ suffix _ _
      exact reads_pure (.inl (begun.suffix suffix))
  | false =>
      have same : left = tokens := passed
      exact reads_pure (.inr ⟨same, rfl⟩)

theorem keeps_binder : Keeps (binder parts) fun _ => True := by
  intro tokens named
  refine (reads_binder sound named).imp ?_
  rintro _ left (begun | ⟨rfl, _⟩)
  · exact ⟨begun.left, trivial⟩
  · exact ⟨List.suffix_refl _, trivial⟩

omit sound in
theorem reads_constant_mark {tokens : List Lexeme} (named : AreNamed tokens) (isAllowed : Bool) :
    Reads tokens (constantMark isAllowed) fun found left =>
      Begun tokens left ∨ (left = tokens ∧ found = false) := by
  have marked (mark : String) (start : Nat) (left : List Lexeme) (begun : Begun tokens left) :
      Reads left (if isAllowed then pure true
        else refuseAt (quoted mark ++ " is not allowed here") start) fun found left =>
          Begun tokens left ∨ (left = tokens ∧ found = false) := by
    cases isAllowed with
    | true => exact reads_pure (.inl begun)
    | false => exact reads_refuse_at _ _
  unfold constantMark
  refine (reads_place).bind ?_
  rintro start left rfl
  unfold peekGroup
  apply reads_bind
  apply reads_bind
  apply reads_ahead
  apply reads_pure
  split
  · exact (reads_any_inside named).bind fun _ last begins => marked _ start last begins.begun
  · refine (reads_word? named "const").bind ?_
    intro found last passed
    cases found with
    | true => exact marked _ start last passed
    | false => exact reads_pure (.inr ⟨passed, rfl⟩)

omit sound in
theorem with_last_arguments {arguments : PathArguments} (wellFormed : arguments.IsWellFormed)
    (segments : List PathSegment) (names : AreSegments segments) :
    AreSegments (withLastArguments arguments segments) := by
  obtain ⟨nonempty, names⟩ := names
  induction segments with
  | nil => exact absurd rfl nonempty
  | cons first rest induction =>
      obtain ⟨name, others⟩ := first
      obtain ⟨isName, wellFormedFirst, wellFormedRest⟩ := names
      cases rest with
      | nil => exact ⟨List.cons_ne_nil _ _, isName, wellFormed, trivial⟩
      | cons second rest =>
          obtain ⟨_, found⟩ := induction (List.cons_ne_nil _ _) wellFormedRest
          exact ⟨List.cons_ne_nil _ _, isName, wellFormedFirst, found⟩

/-- What is read as a trait behind a mark: nothing if the mark says that it is constant. -/
def TraitBehindMark : Bool → Option (Binder × Bool × WrittenPath) → Prop
  | true, none => True
  | false, some (_, _, path) => AreSegments path.segments
  | _, _ => False

/-- What is read as a trait: a path, or nothing if a mark of a constant trait came first. -/
def TraitRead (tokens left : List Lexeme) : Option (Binder × Bool × WrittenPath) → Prop
  | some (_, _, path) => AreSegments path.segments
  | none => Begun tokens left

omit sound in
theorem keeps_checked_trait (isConstant isMaybe : Bool) (binder : Binder) (signPlace : Nat)
    (leading : Bool) (segments : List PathSegment) (names : AreSegments segments) :
    Keeps (do
      if isMaybe && !binder.isAbsent then
        refuseAt "`for<...>` binder not allowed with `?` trait polarity modifier" signPlace
      return if isConstant then none
        else some (binder, isMaybe, (⟨leading, segments⟩ : WrittenPath)))
      (TraitBehindMark isConstant) := by
  apply keeps_if
  · intro _
    exact keeps_refused (keeps_refuse_at _ _)
  · intro _
    cases isConstant with
    | true => exact keeps_pure trivial
    | false => exact keeps_pure names

theorem keeps_trait_behind_binder (isConstant isMaybe : Bool) (binder : Binder) (signPlace : Nat) :
    Keeps (do
      let ⟨leading, segments⟩ ← argumentPath parts false
      let segments ← if (lastArguments segments).isEmpty && beginsInputs (← ahead) then do
          let _ ← operator? "::"
          pure (withLastArguments (← calledArguments parts) segments)
        else pure segments
      if isMaybe && !binder.isAbsent then
        refuseAt "`for<...>` binder not allowed with `?` trait polarity modifier" signPlace
      return if isConstant then none
        else some (binder, isMaybe, (⟨leading, segments⟩ : WrittenPath)))
      (TraitBehindMark isConstant) := by
  apply keeps_bind (keeps_argument_path sound false)
  rintro ⟨leading, segments⟩ names
  apply keeps_bind keeps_ahead
  intro tokens _
  apply keeps_if
  · intro _
    apply keeps_bind (keeps_operator? "::")
    intro _ _
    apply keeps_bind (keeps_called_arguments sound)
    intro arguments wellFormed
    apply keeps_bind (keeps_pure (with_last_arguments wellFormed segments names))
    intro changed namesChanged
    exact keeps_checked_trait isConstant isMaybe binder signPlace leading changed namesChanged
  · intro _
    apply keeps_bind (keeps_pure names)
    intro same namesSame
    exact keeps_checked_trait isConstant isMaybe binder signPlace leading same namesSame

theorem reads_trait_bound {tokens : List Lexeme} (named : AreNamed tokens) (constants : Bool) :
    Reads tokens (traitBound parts constants) fun found left =>
      left <:+ tokens ∧ TraitRead tokens left found := by
  unfold traitBound
  refine (reads_binder sound named).bind ?_
  intro early afterBinder passedBinder
  have namedBinder : AreNamed afterBinder := by
    rcases passedBinder with begun | ⟨rfl, _⟩
    · exact named.suffix begun.left
    · exact named
  refine (reads_constant_mark namedBinder constants).bind ?_
  intro isConstant left passedMark
  have passed : left <:+ tokens ∧ (isConstant = true → Begun tokens left) := by
    rcases passedBinder with begun | ⟨rfl, _⟩ <;> rcases passedMark with marked | ⟨rfl, rfl⟩
    · exact ⟨marked.left.trans begun.left, fun _ => begun.suffix marked.left⟩
    · exact ⟨begun.left, fun _ => begun⟩
    · exact ⟨marked.left, fun _ => marked⟩
    · exact ⟨List.suffix_refl _, fun absurd => by cases absurd⟩
  obtain ⟨suffix, begun⟩ := passed
  -- What follows the mark is a path whatever the mark was.
  refine ((?_ : Keeps _ (TraitBehindMark isConstant)) left (named.suffix suffix)).imp ?_
  · apply keeps_bind keeps_place
    intro signPlace _
    apply keeps_bind (keeps_operator? "?")
    intro isMaybe _
    apply keeps_if
    · intro _
      exact keeps_bind (keeps_binder sound) fun binder _ =>
        keeps_trait_behind_binder sound isConstant isMaybe binder signPlace
    · intro _
      exact keeps_trait_behind_binder sound isConstant isMaybe early signPlace
  · rintro found last ⟨suffixLast, held⟩
    refine ⟨suffixLast.trans suffix, ?_⟩
    cases isConstant <;> cases found
    · exact held.elim
    · exact held
    · exact (begun rfl).suffix suffixLast
    · exact held.elim

omit sound in
theorem keeps_captured_names (fuel : Nat) : Keeps (capturedNames fuel) fun _ => True := by
  induction fuel with
  | zero => exact keeps_pure trivial
  | succ fuel induction =>
      have behindName (first : Bool × String) : Keeps (do
          if ← peekOperator ">" then return ([first], false)
          unless ← operator? "," do
            refuseUnless [quoted ",", quoted ">"]
          let read ← capturedNames fuel
          return (first :: read.1, read.1.isEmpty || read.2)) fun _ => True := by
        apply keeps_bind (keeps_peek_operator ">")
        intro _ _
        apply keeps_if
        · intro _
          exact keeps_pure trivial
        · intro _
          apply keeps_bind (keeps_operator? ",")
          intro _ _
          apply keeps_if
          · intro _
            exact keeps_bind induction fun _ _ => keeps_pure trivial
          · intro _
            exact keeps_refused (keeps_refuse_unless _)
      unfold capturedNames
      apply keeps_bind keeps_ahead
      intro tokens _
      apply keeps_if
      · intro _
        exact keeps_pure trivial
      · intro _
        apply keeps_if
        · intro _
          exact keeps_bind (keeps_map_any keeps_lifetime) fun first _ => behindName first
        · intro _
          apply keeps_if
          · intro _
            exact keeps_bind (keeps_map_any keeps_any_name) fun first _ => behindName first
          · intro _
            exact keeps_refused (keeps_refuse_unless _)

omit sound in
theorem keeps_captures (captures : Bool) (usePlace : Nat) : Keeps (do
    skip 1
    operator "<"
    let (names, trailing) ← capturedNames (← listFuel)
    operator ">"
    if captures then return Bound.capture names trailing
    else refuseAt "`use<...>` precise capturing syntax is not allowed here" usePlace)
    Bound.IsWellFormed := by
  apply keeps_bind (keeps_skip 1)
  intro _ _
  apply keeps_bind (keeps_operator "<")
  intro _ _
  apply keeps_bind keeps_list_fuel
  intro fuel _
  apply keeps_bind (keeps_captured_names fuel)
  rintro ⟨names, trailing⟩ _
  apply keeps_bind (keeps_operator ">")
  intro _ _
  apply keeps_if
  · intro _
    exact keeps_pure trivial
  · intro _
    exact keeps_refuse_at _ _

omit sound in
theorem reads_trait_or_kept (isParenthesized : Bool) {start left : List Lexeme}
    (suffix : left <:+ start) (found : Option (Binder × Bool × WrittenPath))
    (read : TraitRead start left found) : Reads left (match found with
      | some (binder, isMaybe, path) =>
          pure (Bound.trait isParenthesized binder isMaybe path.leading path.segments)
      | none => do return .verbatim (← readSince start)) fun bound last =>
        last <:+ start ∧ bound.IsWellFormed := by
  cases found with
  | none =>
      refine (reads_since_begun read).bind ?_
      rintro _ _ ⟨rfl, wellFormed⟩
      exact reads_pure ⟨suffix, wellFormed⟩
  | some parts =>
      obtain ⟨binder, isMaybe, leading, segments⟩ := parts
      obtain ⟨nonempty, names⟩ := read
      cases segments with
      | nil => exact absurd rfl nonempty
      | cons first rest =>
          obtain ⟨name, arguments⟩ := first
          exact reads_pure ⟨suffix, name, arguments, rest, rfl, names.1⟩

theorem keeps_read_bound (captures constants : Bool) :
    Keeps (readBound parts captures constants) Bound.IsWellFormed := by
  intro tokens named
  unfold readBound
  apply reads_bind
  apply reads_ahead
  apply reads_if
  · intro _
    exact keeps_lifetime.reads named fun _ _ suffix _ _ => reads_pure ⟨suffix, trivial⟩
  · intro _
    apply reads_if
    · intro _
      exact keeps_bind keeps_place (fun usePlace _ => keeps_captures captures usePlace) tokens named
    · intro _
      apply reads_if
      · intro _
        have readsInside (inside : List Lexeme) (namedInside : AreNamed inside) :
            Reads inside (traitBound parts constants) fun found _ =>
              ∀ left, Begun tokens left → TraitRead tokens left found := by
          refine (reads_trait_bound sound namedInside constants).imp ?_
          rintro (_ | found) _ ⟨_, read⟩ left begun
          · exact begun
          · exact read
        refine (reads_group readsInside tokens named).bind ?_
        rintro found left ⟨begins, read⟩
        exact reads_trait_or_kept _ begins.suffix found (read left begins.begun)
      · intro _
        refine (reads_trait_bound sound named constants).bind ?_
        rintro found left ⟨suffix, read⟩
        exact reads_trait_or_kept _ suffix found read

omit sound in
theorem reads_lifetime_bound (captures constants : Bool) (tokens : List Lexeme)
    (begins : beginsWithLifetime tokens = true) :
    Reads tokens (readBound parts captures constants) fun bound _ => bound.IsNoType := by
  unfold readBound
  apply reads_bind
  apply reads_ahead
  rw [if_pos begins]
  exact reads_anything.bind fun _ _ _ => reads_pure trivial

omit sound in
theorem keeps_bounds_behind (plus captures constants : Bool) (first : Bound) (fuel : Nat)
    {holds : List Bound × Bool → Prop}
    (keepsMore : Keeps (severalBounds parts plus captures constants fuel) holds) :
    Keeps (do
      unless plus do return ([first], false)
      unless ← operator? "+" do return ([first], false)
      unless beginsBound constants (← ahead) do return ([first], true)
      let (others, trailing) ← severalBounds parts plus captures constants fuel
      return (first :: others, trailing)) fun found => ∃ others, found.1 = first :: others := by
  apply keeps_if
  · intro _
    apply keeps_bind (keeps_operator? "+")
    intro _ _
    apply keeps_if
    · intro _
      apply keeps_bind keeps_ahead
      intro tokens _
      apply keeps_if
      · intro _
        exact keeps_bind keepsMore fun others _ => keeps_pure ⟨others.1, rfl⟩
      · intro _
        exact keeps_pure ⟨[], rfl⟩
    · intro _
      exact keeps_pure ⟨[], rfl⟩
  · intro _
    exact keeps_pure ⟨[], rfl⟩

theorem keeps_several_bounds (plus captures constants : Bool) (fuel : Nat) :
    Keeps (severalBounds parts plus captures constants fuel) fun found =>
      0 < fuel → AreBounds found.1 := by
  induction fuel with
  | zero => exact keeps_pure fun absurd => nomatch absurd
  | succ fuel induction =>
      unfold severalBounds
      apply keeps_bind (sound.bound captures constants)
      intro first wellFormed
      refine (keeps_bounds_behind plus captures constants first fuel induction).imp ?_
      rintro found ⟨others, same⟩ _
      exact ⟨first, others, same, wellFormed⟩

omit sound in
/-- A first bound that is no type by itself makes bounds of more than a single path. -/
theorem bare_bounds_of_no_type (first : Bound) (noType : first.IsNoType) (others : List Bound)
    (trailing : Bool) : AreBareBounds (first :: others) trailing := by
  cases others with
  | nil => exact .inr (.inr ⟨first, rfl, noType⟩)
  | cons second rest => exact .inl (by simp)

theorem reads_lifetime_bounds (plus captures constants : Bool) (fuel : Nat)
    (tokens : List Lexeme) (named : AreNamed tokens) (begins : beginsWithLifetime tokens = true) :
    Reads tokens (severalBounds parts plus captures constants (fuel + 1)) fun found _ =>
      AreBareBounds found.1 found.2 := by
  unfold severalBounds
  apply reads_bind
  intro remaining same first left succeeded
  have noType := sound.lifetime captures constants tokens begins remaining same first left succeeded
  obtain ⟨suffix, _⟩ := sound.bound captures constants tokens named remaining same first left
    succeeded
  refine (keeps_bounds_behind plus captures constants first fuel
    (keeps_several_bounds sound plus captures constants fuel) left.tokens
    (named.suffix suffix)).imp ?_
  rintro ⟨_, trailing⟩ _ ⟨_, others, rfl⟩
  exact bare_bounds_of_no_type first noType others trailing

/-! ## Conditions -/

theorem keeps_condition : Keeps (condition parts) fun _ => True := by
  unfold condition
  apply keeps_bind keeps_ahead
  intro tokens _
  apply keeps_if
  · intro _
    apply keeps_bind keeps_lifetime
    intro name _
    apply keeps_bind (keeps_operator ":")
    intro _ _
    apply keeps_bind keeps_list_fuel
    intro fuel _
    exact keeps_bind (keeps_plus_until keeps_lifetime _ fuel) fun _ _ => keeps_pure trivial
  · intro _
    apply keeps_bind (keeps_binder sound)
    intro binder _
    apply keeps_bind (sound.type true)
    intro type _
    apply keeps_bind (keeps_operator ":")
    intro _ _
    apply keeps_bind keeps_list_fuel
    intro fuel _
    exact keeps_bind (keeps_plus_until (sound.bound false true) _ fuel) fun _ _ =>
      keeps_pure trivial

theorem keeps_condition_list (fuel : Nat) : Keeps (conditionList parts fuel) fun _ => True := by
  induction fuel with
  | zero => exact keeps_pure trivial
  | succ fuel induction =>
      unfold conditionList
      apply keeps_bind keeps_ahead
      intro tokens _
      apply keeps_if
      · intro _
        exact keeps_pure trivial
      · intro _
        apply keeps_bind (keeps_condition sound)
        intro first _
        apply keeps_bind (keeps_operator? ",")
        intro _ _
        apply keeps_if
        · intro _
          exact keeps_bind induction fun _ _ => keeps_pure trivial
        · intro _
          exact keeps_pure trivial

theorem keeps_conditions? : Keeps (conditions? parts) fun _ => True := by
  unfold conditions?
  apply keeps_bind (keeps_word? "where")
  intro _ _
  apply keeps_if
  · intro _
    apply keeps_bind keeps_ahead
    intro tokens _
    apply keeps_if
    · intro _
      exact keeps_refused (keeps_refuse _)
    · intro _
      apply keeps_bind keeps_list_fuel
      intro fuel _
      exact keeps_bind (keeps_condition_list sound fuel) fun _ _ => keeps_pure trivial
  · intro _
    exact keeps_pure trivial

end

end Recordsmith.Source
