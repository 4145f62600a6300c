import Recordsmith.Proofs.Outcome
import Recordsmith.Proofs.Token.Names
import Recordsmith.Source.Grammar

/-!
What readers leave behind. A statement about a reader says what holds of its value and of the
tokens left, whenever it goes through on given tokens. Almost every reader leaves an end of its
tokens; together with the names among them being names this is what readers of larger pieces rely
on.
-/

namespace Recordsmith.Source

open Lexer Reader

variable {Value Result : Type}

/-- Whenever the tokens are read, the property holds of the value and of the tokens left. -/
def Reads (tokens : List Lexeme) (reader : Reader Value)
    (holds : Value → List Lexeme → Prop) : Prop :=
  ∀ remaining : Remaining, remaining.tokens = tokens → ∀ value left,
    reader remaining = .ok (value, left) → holds value left.tokens

/-- Of tokens with names, a reader leaves an end, and its value has the property. -/
def Keeps (reader : Reader Value) (holds : Value → Prop) : Prop :=
  ∀ tokens, AreNamed tokens →
    Reads tokens reader fun value left => left <:+ tokens ∧ holds value

/-! ## Putting readers together -/

theorem Reads.imp {tokens : List Lexeme} {reader : Reader Value}
    {first second : Value → List Lexeme → Prop} (reads : Reads tokens reader first)
    (implies : ∀ value left, first value left → second value left) :
    Reads tokens reader second :=
  fun remaining same value left succeeded =>
    implies value left.tokens (reads remaining same value left succeeded)

theorem Reads.and {tokens : List Lexeme} {reader : Reader Value}
    {first second : Value → List Lexeme → Prop} (reads : Reads tokens reader first)
    (others : Reads tokens reader second) :
    Reads tokens reader fun value left => first value left ∧ second value left :=
  fun remaining same value left succeeded =>
    ⟨reads remaining same value left succeeded, others remaining same value left succeeded⟩

theorem reads_pure {tokens : List Lexeme} {value : Value} {holds : Value → List Lexeme → Prop}
    (held : holds value tokens) : Reads tokens (pure value) holds := by
  intro remaining same found left succeeded
  cases succeeded
  rw [same]
  exact held

theorem reads_bind {tokens : List Lexeme} {reader : Reader Value} {next : Value → Reader Result}
    {holds : Result → List Lexeme → Prop}
    (reads : Reads tokens reader fun value left => Reads left (next value) holds) :
    Reads tokens (reader >>= next) holds := by
  intro remaining same result left succeeded
  obtain ⟨⟨value, middle⟩, first, second⟩ := bind_ok succeeded
  exact reads remaining same value middle first middle rfl result left second

theorem Reads.bind {tokens : List Lexeme} {reader : Reader Value} {next : Value → Reader Result}
    {first : Value → List Lexeme → Prop} {holds : Result → List Lexeme → Prop}
    (reads : Reads tokens reader first)
    (readsNext : ∀ value left, first value left → Reads left (next value) holds) :
    Reads tokens (reader >>= next) holds := reads_bind (reads.imp readsNext)

theorem reads_if {tokens : List Lexeme} {condition : Prop} [Decidable condition]
    {first second : Reader Value} {holds : Value → List Lexeme → Prop}
    (readsFirst : condition → Reads tokens first holds)
    (readsSecond : ¬ condition → Reads tokens second holds) :
    Reads tokens (if condition then first else second) holds := by
  split
  · exact readsFirst (by assumption)
  · exact readsSecond (by assumption)

theorem reads_refuse_at {tokens : List Lexeme} (message : String) (place : Nat)
    {holds : Value → List Lexeme → Prop} : Reads tokens (refuseAt message place) holds := by
  intro remaining same value left succeeded
  cases succeeded

theorem reads_refuse {tokens : List Lexeme} (message : String)
    {holds : Value → List Lexeme → Prop} : Reads tokens (refuse message) holds := by
  intro remaining same value left succeeded
  obtain ⟨tokens, scopeEnd, stray⟩ := remaining
  cases tokens <;> cases succeeded

theorem reads_get {tokens : List Lexeme} {holds : Remaining → List Lexeme → Prop}
    (held : ∀ remaining : Remaining, remaining.tokens = tokens → holds remaining tokens) :
    Reads tokens get holds := by
  intro remaining same value left succeeded
  cases succeeded
  rw [same]
  exact held remaining same

theorem reads_refuse_unless {tokens : List Lexeme} (expected : List String)
    {holds : Value → List Lexeme → Prop} : Reads tokens (refuseUnless expected) holds := by
  unfold refuseUnless
  apply reads_bind
  apply reads_get
  intro remaining _
  split
  · intro _ _ _ _ succeeded
    cases succeeded
  · exact reads_refuse _

theorem reads_ahead {tokens : List Lexeme} {holds : List Lexeme → List Lexeme → Prop}
    (held : holds tokens tokens) : Reads tokens ahead holds := by
  intro remaining same value left succeeded
  cases succeeded
  rw [same]
  exact held

theorem reads_skip {tokens : List Lexeme} (count : Nat) {holds : Unit → List Lexeme → Prop}
    (held : holds () (tokens.drop count)) : Reads tokens (skip count) holds := by
  intro remaining same value left succeeded
  cases succeeded
  change holds () (remaining.tokens.drop count)
  rw [same]
  exact held

section

variable {holdsValue : Value → Prop} {holdsResult : Result → Prop}

/-- A reader that keeps the rest is run where more follows. -/
theorem Keeps.reads {reader : Reader Value} (keeps : Keeps reader holdsValue)
    {tokens : List Lexeme} (named : AreNamed tokens) {next : Value → Reader Result}
    {holds : Result → List Lexeme → Prop}
    (reads : ∀ value left, left <:+ tokens → AreNamed left → holdsValue value →
      Reads left (next value) holds) : Reads tokens (reader >>= next) holds :=
  (keeps tokens named).bind fun value left ⟨suffix, held⟩ =>
    reads value left suffix (named.suffix suffix) held

theorem keeps_pure {value : Value} (held : holdsValue value) : Keeps (pure value) holdsValue :=
  fun _ _ => reads_pure ⟨List.suffix_refl _, held⟩

theorem keeps_bind {reader : Reader Value} {next : Value → Reader Result}
    (keeps : Keeps reader holdsValue)
    (keepsNext : ∀ value, holdsValue value → Keeps (next value) holdsResult) :
    Keeps (reader >>= next) holdsResult := fun _ named =>
  keeps.reads named fun value _ suffix namedLeft held =>
    (keepsNext value held _ namedLeft).imp fun _ _ ⟨suffixNext, heldNext⟩ =>
      ⟨suffixNext.trans suffix, heldNext⟩

theorem Keeps.imp {reader : Reader Value} {other : Value → Prop} (keeps : Keeps reader holdsValue)
    (implies : ∀ value, holdsValue value → other value) : Keeps reader other :=
  fun tokens named => (keeps tokens named).imp fun value _ ⟨suffix, held⟩ =>
    ⟨suffix, implies value held⟩

theorem keeps_map {reader : Reader Value} {apply : Value → Result}
    (keeps : Keeps reader fun value => holdsResult (apply value)) :
    Keeps (apply <$> reader) holdsResult := by
  rw [← bind_pure_comp]
  exact keeps_bind keeps fun value held => keeps_pure held

/-- A value that is changed and then of no concern. -/
theorem keeps_map_any {reader : Reader Value} {apply : Value → Result}
    (keeps : Keeps reader holdsValue) : Keeps (apply <$> reader) fun _ => True :=
  keeps_map (keeps.imp fun _ _ => trivial)

theorem keeps_if {condition : Prop} [Decidable condition] {first second : Reader Value}
    (keepsFirst : condition → Keeps first holdsValue)
    (keepsSecond : ¬ condition → Keeps second holdsValue) :
    Keeps (if condition then first else second) holdsValue := fun tokens named =>
  reads_if (fun met => keepsFirst met tokens named) (fun unmet => keepsSecond unmet tokens named)

theorem keeps_refuse_at (message : String) (place : Nat) :
    Keeps (refuseAt message place) holdsValue := fun _ _ => reads_refuse_at message place

theorem keeps_refuse (message : String) : Keeps (refuse message) holdsValue :=
  fun _ _ => reads_refuse message

theorem keeps_refuse_unless (expected : List String) :
    Keeps (refuseUnless expected) holdsValue := fun _ _ => reads_refuse_unless expected

end

/-- Nothing follows a refusal. -/
theorem reads_refused {tokens : List Lexeme} {reader : Reader Value} {next : Value → Reader Result}
    {holds : Result → List Lexeme → Prop} (refuses : Reads tokens reader fun _ _ => False) :
    Reads tokens (reader >>= next) holds := refuses.bind fun _ _ absurd => absurd.elim

theorem keeps_refused {reader : Reader Value} {next : Value → Reader Result}
    {holds : Result → Prop} (refuses : Keeps reader fun _ => False) :
    Keeps (reader >>= next) holds := keeps_bind refuses fun _ absurd => absurd.elim

/-! ## Looking ahead -/

theorem keeps_ahead : Keeps ahead AreNamed := fun _ named =>
  reads_ahead ⟨List.suffix_refl _, named⟩

/-- A reader that only looks. -/
theorem keeps_look {look : List Lexeme → Value} :
    Keeps (do return look (← ahead)) fun _ => True :=
  keeps_bind keeps_ahead fun _ _ => keeps_pure trivial

theorem reads_place {tokens : List Lexeme} :
    Reads tokens place fun _ left => left = tokens := by
  intro remaining same value left succeeded
  obtain ⟨found, scopeEnd, stray⟩ := remaining
  cases found <;>
    · cases succeeded
      exact same

theorem keeps_place : Keeps place fun _ => True := fun _ _ =>
  reads_place.imp fun _ _ same => ⟨same ▸ List.suffix_refl _, trivial⟩

theorem keeps_peek_operator (operator : String) : Keeps (peekOperator operator) fun _ => True :=
  keeps_look

theorem keeps_peek_name (name : String) : Keeps (peekName name) fun _ => True := keeps_look

theorem keeps_peek_lifetime : Keeps peekLifetime fun _ => True := keeps_look

theorem reads_list_fuel {tokens : List Lexeme} {holds : Nat → List Lexeme → Prop}
    (held : ∀ more, holds (more + 1) tokens) : Reads tokens listFuel holds := by
  apply reads_bind
  apply reads_ahead
  exact reads_pure (held tokens.length)

theorem keeps_list_fuel : Keeps listFuel fun fuel => ∃ more, fuel = more + 1 :=
  keeps_bind keeps_ahead fun tokens _ => keeps_pure ⟨tokens.length, rfl⟩

/-- What was read since the start is all but the tokens left. -/
theorem reads_since {start tokens taken : List Lexeme} (since : start = taken ++ tokens)
    {holds : List Token → List Lexeme → Prop} (held : holds (plainTokens taken) tokens) :
    Reads tokens (readSince start) holds := by
  unfold readSince
  apply reads_bind
  apply reads_ahead
  apply reads_pure
  have whole : start.take (start.length - tokens.length) = taken := by simp [since]
  rw [whole]
  exact held

/-! ## Single tokens -/

theorem keeps_skip (count : Nat) : Keeps (skip count) fun _ => True := fun _ _ =>
  reads_skip count ⟨List.drop_suffix _ _, trivial⟩

theorem keeps_operator? (sign : String) : Keeps (operator? sign) fun _ => True := by
  unfold operator?
  apply keeps_bind (keeps_peek_operator sign)
  intro found _
  apply keeps_if
  · intro _
    exact keeps_bind (keeps_skip _) fun _ _ => keeps_pure trivial
  · intro _
    exact keeps_pure trivial

theorem keeps_operator (sign : String) : Keeps (operator sign) fun _ => True := by
  unfold operator
  apply keeps_bind (keeps_operator? sign)
  intro found _
  apply keeps_if
  · intro _
    exact keeps_pure trivial
  · intro _
    exact keeps_bind keeps_place fun place _ => keeps_refuse_at _ place

theorem keeps_word? (name : String) : Keeps (word? name) fun _ => True := by
  unfold word?
  apply keeps_bind (keeps_peek_name name)
  intro found _
  apply keeps_if
  · intro _
    exact keeps_bind (keeps_skip _) fun _ _ => keeps_pure trivial
  · intro _
    exact keeps_pure trivial

theorem keeps_word (name : String) : Keeps (word name) fun _ => True := by
  unfold word
  apply keeps_bind (keeps_word? name)
  intro found _
  apply keeps_if
  · intro _
    exact keeps_pure trivial
  · intro _
    exact keeps_refuse _

theorem keeps_any_name : Keeps anyName IsName := by
  unfold anyName
  apply keeps_bind keeps_ahead
  intro tokens named
  split
  · rename_i name _ _
    exact keeps_bind (keeps_skip 1) fun _ _ => keeps_pure (named _ List.mem_cons_self name rfl)
  · exact keeps_refuse _

theorem keeps_identifier : Keeps identifier IsFreeName := by
  unfold identifier
  apply keeps_bind keeps_ahead
  intro tokens named
  split
  · rename_i name _ _
    apply keeps_if
    · intro _
      exact keeps_refuse _
    · intro free
      exact keeps_bind (keeps_skip 1) fun _ _ =>
        keeps_pure ⟨named _ List.mem_cons_self name rfl, by simpa using free⟩
  · exact keeps_refuse _

theorem keeps_identifier_or_line : Keeps identifierOrLine fun name =>
    name = "_" ∨ IsFreeName name := by
  intro tokens named
  unfold identifierOrLine peekName
  apply reads_bind
  apply reads_bind
  apply reads_ahead
  apply reads_pure
  apply reads_if
  · intro line
    unfold anyName
    apply reads_bind
    apply reads_ahead
    split
    · rename_i name _ rest
      apply reads_bind
      apply reads_skip
      exact reads_pure ⟨List.suffix_cons _ rest, .inl (by simpa [beginsWithName] using line)⟩
    · exact reads_refuse _
  · intro _
    exact (keeps_identifier tokens named).imp fun _ _ ⟨suffix, free⟩ => ⟨suffix, .inr free⟩

theorem keeps_lifetime : Keeps lifetime fun _ => True := by
  unfold lifetime
  apply keeps_bind keeps_ahead
  intro tokens _
  split
  · exact keeps_bind (keeps_skip 2) fun _ _ => keeps_pure trivial
  · exact keeps_refuse _

/-! ## Groups -/

theorem reads_set {tokens : List Lexeme} (remaining : Remaining)
    {holds : PUnit → List Lexeme → Prop} (held : holds ⟨⟩ remaining.tokens) :
    Reads tokens (set remaining) holds := by
  intro _ _ value left succeeded
  cases succeeded
  exact held

theorem reads_modify {tokens : List Lexeme} (change : Remaining → Remaining)
    {holds : PUnit → List Lexeme → Prop}
    (held : ∀ remaining, remaining.tokens = tokens → holds ⟨⟩ (change remaining).tokens) :
    Reads tokens (modify change) holds := by
  intro remaining same value left succeeded
  cases succeeded
  exact held remaining same

theorem split_group_parts (depth : Nat) (tokens inner after : List Lexeme) (ending : Lexeme)
    (split : splitGroup depth tokens = some (inner, ending, after)) :
    tokens = inner ++ ending :: after := by
  induction tokens generalizing depth inner with
  | nil => cases split
  | cons first rest induction =>
      have keep : ∀ depth, (splitGroup depth rest).map (fun parts =>
          (first :: parts.1, parts.2.1, parts.2.2)) = some (inner, ending, after) →
            first :: rest = inner ++ ending :: after := by
        intro depth kept
        rw [Option.map_eq_some_iff] at kept
        obtain ⟨⟨inside, _, _⟩, splitRest, same⟩ := kept
        cases same
        rw [induction depth inside splitRest]
        rfl
      unfold splitGroup at split
      cases kind : first.token with
      | opening delimiter =>
          rw [kind] at split
          exact keep _ split
      | closing delimiter =>
          rw [kind] at split
          cases depth with
          | zero =>
              cases split
              rfl
          | succ depth => exact keep _ split
      | _ =>
          rw [kind] at split
          exact keep _ split

section

variable {holdsInside : Value → Prop} {holds : Result → Prop}

/-- The tokens begin with a group, and what is left lies behind its beginning. -/
def BeginsGroup (delimiter : Delimiter) (tokens left : List Lexeme) : Prop :=
  ∃ first rest, tokens = first :: rest ∧ first.token = .opening delimiter ∧ left <:+ rest

/-- What is inside a group does not matter for what is left behind it. -/
theorem reads_group_then {delimiter : Delimiter} {inner : Reader Value}
    {next : Value → Reader Result}
    (readsInner : ∀ tokens, AreNamed tokens → Reads tokens inner fun value _ => holdsInside value)
    (keepsNext : ∀ value, holdsInside value → Keeps (next value) holds) (tokens : List Lexeme)
    (named : AreNamed tokens) :
    Reads tokens (groupThen delimiter inner next) fun value left =>
      BeginsGroup delimiter tokens left ∧ holds value := by
  unfold groupThen
  apply reads_bind
  apply reads_get
  intro remaining same
  rw [same]
  cases tokens with
  | nil => exact reads_refuse _
  | cons first rest =>
      dsimp only
      split
      · rename_i opens
        cases split : splitGroup 0 rest with
        | none => exact reads_refuse _
        | some parts =>
            obtain ⟨body, ending, after⟩ := parts
            have whole := split_group_parts 0 rest body after ending split
            have namedBody : AreNamed body :=
              fun lexeme member => named lexeme (by simp [whole, member])
            have suffix : after <:+ rest := ⟨body ++ [ending], by simp [whole]⟩
            have namedAfter : AreNamed after :=
              named.suffix (suffix.trans (List.suffix_cons first rest))
            apply reads_bind
            apply reads_set
            apply reads_bind
            refine (readsInner body namedBody).imp ?_
            intro inside _ heldInside
            apply reads_bind
            apply reads_get
            intro left _
            apply reads_bind
            apply reads_set
            refine (keepsNext inside heldInside).reads namedAfter ?_
            intro value last suffixLast _ held
            have result : BeginsGroup delimiter (first :: rest) last ∧ holds value :=
              ⟨⟨first, rest, rfl, opens, suffixLast.trans suffix⟩, held⟩
            split
            · exact reads_pure result
            · apply reads_bind
              apply reads_modify
              intro later sameLast
              apply reads_pure
              change BeginsGroup delimiter (first :: rest) later.tokens ∧ holds value
              rw [sameLast]
              exact result
      · exact reads_refuse _

theorem BeginsGroup.suffix {delimiter : Delimiter} {tokens left : List Lexeme}
    (begins : BeginsGroup delimiter tokens left) : left <:+ tokens := by
  obtain ⟨first, rest, rfl, _, suffix⟩ := begins
  exact suffix.trans (List.suffix_cons first rest)

theorem keeps_group_then {delimiter : Delimiter} {inner : Reader Value}
    {next : Value → Reader Result}
    (readsInner : ∀ tokens, AreNamed tokens → Reads tokens inner fun value _ => holdsInside value)
    (keepsNext : ∀ value, holdsInside value → Keeps (next value) holds) :
    Keeps (groupThen delimiter inner next) holds := fun tokens named =>
  (reads_group_then readsInner keepsNext tokens named).imp fun _ _ ⟨begins, held⟩ =>
    ⟨begins.suffix, held⟩

theorem reads_group {delimiter : Delimiter} {inner : Reader Value}
    (readsInner : ∀ tokens, AreNamed tokens → Reads tokens inner fun value _ => holdsInside value)
    (tokens : List Lexeme) (named : AreNamed tokens) :
    Reads tokens (group delimiter inner) fun value left =>
      BeginsGroup delimiter tokens left ∧ holdsInside value :=
  reads_group_then readsInner (fun _ held => keeps_pure held) tokens named

theorem keeps_group {delimiter : Delimiter} {inner : Reader Value}
    (readsInner : ∀ tokens, AreNamed tokens → Reads tokens inner fun value _ => holdsInside value) :
    Keeps (group delimiter inner) holdsInside :=
  keeps_group_then readsInner fun _ held => keeps_pure held

end

theorem reads_anything {tokens : List Lexeme} {reader : Reader Value} :
    Reads tokens reader fun _ _ => True := fun _ _ _ _ _ => trivial

/-! ## Lists -/

section

variable {holds : Value → Prop} {item : Reader Value}

theorem keeps_separated_until (ends : List Lexeme → Bool) (keeps : Keeps item holds) (fuel : Nat) :
    Keeps (separatedUntil ends item fuel) fun found => ∀ value ∈ found.1, holds value := by
  induction fuel with
  | zero => exact keeps_pure (by simp)
  | succ fuel induction =>
      unfold separatedUntil
      apply keeps_bind keeps_ahead
      intro tokens _
      apply keeps_if
      · intro _
        exact keeps_pure (by simp)
      · intro _
        apply keeps_bind keeps
        intro first held
        apply keeps_bind keeps_ahead
        intro tokens _
        apply keeps_if
        · intro _
          exact keeps_pure (by simpa using held)
        · intro _
          apply keeps_bind (keeps_operator ",")
          intro _ _
          apply keeps_bind induction
          intro others heldOthers
          exact keeps_pure (by simpa using ⟨held, heldOthers⟩)

theorem keeps_comma_separated (keeps : Keeps item holds) :
    Keeps (commaSeparated item) fun found => ∀ value ∈ found.1, holds value := by
  unfold commaSeparated
  exact keeps_bind keeps_list_fuel fun fuel _ => keeps_separated_until _ keeps fuel

theorem keeps_angled (keeps : Keeps item holds) :
    Keeps (angled item) fun found => ∀ value ∈ found.1, holds value := by
  unfold angled
  apply keeps_bind (keeps_operator "<")
  intro _ _
  apply keeps_bind keeps_list_fuel
  intro fuel _
  apply keeps_bind (keeps_separated_until _ keeps fuel)
  intro items held
  apply keeps_bind (keeps_operator ">")
  intro _ _
  exact keeps_pure held

end

/-! ## Groups of no concern -/

theorem reads_any_inside {delimiter : Delimiter} {inner : Reader Value} {tokens : List Lexeme}
    (named : AreNamed tokens) : Reads tokens (group delimiter inner) fun _ left =>
      BeginsGroup delimiter tokens left :=
  (reads_group (fun _ _ => reads_anything) tokens named).imp fun _ _ ⟨begins, _⟩ => begins

theorem keeps_any_inside {delimiter : Delimiter} {inner : Reader Value} :
    Keeps (group delimiter inner) fun _ => True := fun _ named =>
  (reads_any_inside named).imp fun _ _ begins => ⟨begins.suffix, trivial⟩

theorem keeps_any_group : Keeps anyGroup fun _ => True := by
  unfold anyGroup
  apply keeps_bind keeps_ahead
  intro tokens _
  split
  · exact keeps_bind keeps_any_inside fun _ _ => keeps_pure trivial
  · exact keeps_refuse _

end Recordsmith.Source
