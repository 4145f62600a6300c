import Mathlib.Tactic.SplitIfs
import Recordsmith.Derive.Helper

/-!
The entries of a helper attribute. What entries are and what the first fault among tokens that are
none is, is said by the tokens alone; whichever of the two it is decides what reading them gives.
All tokens are one of the two, for whatever the tokens go on with, either the next piece of an
entry comes there or a fault of one kind does.
-/

namespace Recordsmith.Helper

open Lexer Source Source.Reader

/-! ## Pieces -/

/-- A piece of a kind comes next. -/
def Begins (piece : List Lexeme → Prop) (lexemes : List Lexeme) : Prop :=
  ∃ first rest, piece first ∧ lexemes = first ++ rest

/-- A single mark, whatever it is joint with. -/
def IsMark (character : Char) (lexemes : List Lexeme) : Prop :=
  ∃ joint place, lexemes = [⟨.mark character joint, place⟩]

/-- Two colons. -/
def AreColons (lexemes : List Lexeme) : Prop :=
  ∃ joint first second, lexemes = [⟨.mark ':' true, first⟩, ⟨.mark ':' joint, second⟩]

/-- Any name, reserved or not. -/
def IsAnyName (lexemes : List Lexeme) : Prop :=
  ∃ name place, lexemes = [⟨.name name, place⟩]

/-- A string literal. -/
def IsText (lexemes : List Lexeme) : Prop :=
  ∃ literal place, (Literal.stringValue? literal).isSome ∧ lexemes = [⟨.literal literal, place⟩]

/-- What stands in front of the first name of a key: two colons or nothing. -/
def MayLead (lexemes : List Lexeme) : Prop := lexemes = [] ∨ AreColons lexemes

/-- The names of a key behind the first one, each with two colons in front. -/
inductive AreMoreNames : List Lexeme → Prop
  | none : AreMoreNames []
  | more {colons name others : List Lexeme} (marked : AreColons colons) (named : IsAnyName name)
      (behind : AreMoreNames others) : AreMoreNames (colons ++ name ++ others)

/-- A key, whose first name is at the given place. -/
inductive IsKey : List Lexeme → Nat → Prop
  | names {leading others : List Lexeme} (name : String) (place : Nat) (leads : MayLead leading)
      (more : AreMoreNames others) : IsKey (leading ++ ⟨.name name, place⟩ :: others) place

/-- The key of the runtime path, which is the one name. -/
def IsRuntimeKey (lexemes : List Lexeme) : Prop := ∃ place, lexemes = [⟨.name runtimeKey, place⟩]

/-- An entry: the key of the runtime path, an equals sign, and a string literal with a path in
it. -/
inductive IsEntry : List Lexeme → WrittenPath → Prop
  | path {name sign : List Lexeme} {literal value : String} {place : Nat} {path : WrittenPath}
      (key : IsRuntimeKey name) (equals : IsMark '=' sign)
      (isText : Literal.stringValue? literal = some (value, ""))
      (isPath : WrittenPath.read? value = some path) :
      IsEntry (name ++ sign ++ [⟨.literal literal, place⟩]) path

/-- Entries with commas between them, and with the paths that they hold. A comma may stand behind
the last one. -/
inductive AreEntries : List Lexeme → List WrittenPath → Prop
  | none : AreEntries [] []
  | last {entry : List Lexeme} {path : WrittenPath} (isEntry : IsEntry entry path) :
      AreEntries entry [path]
  | more {entry comma others : List Lexeme} {path : WrittenPath} {paths : List WrittenPath}
      (isEntry : IsEntry entry path) (separated : IsMark ',' comma)
      (behind : AreEntries others paths) : AreEntries (entry ++ comma ++ others) (path :: paths)

/-! ## Faults -/

/-- The place of the next token, or of the end. -/
def nextPlace (groupEnd : Nat) : List Lexeme → Nat
  | [] => groupEnd
  | lexeme :: _ => lexeme.place

/-- The complaint of the next token; where there is none, it says so. -/
def unmet (message : String) (groupEnd : Nat) (lexemes : List Lexeme) : Complaint :=
  ⟨if lexemes = [] then "unexpected end of input, " ++ message else message,
    nextPlace groupEnd lexemes⟩

/-- The message for what is no name where a key has to begin. -/
def noKeyMessage (lexemes : List Lexeme) : String :=
  if lexemes = [] then "expected nested attribute"
  else if beginsWithLiteral lexemes then "unexpected literal in nested attribute, expected ident"
  else "unexpected token in nested attribute, expected ident"

section

variable (groupEnd : Nat)

/-- What is wrong with tokens that do not begin with an entry: the first piece of it that is
missing, or what is not allowed there. Only its value is at fault as a whole. -/
inductive EntryFault : List Lexeme → Mistake → Prop
  | noKey {leading rest : List Lexeme} (leads : MayLead leading)
      (noColons : leading = [] → ¬ Begins AreColons rest) (noName : ¬ Begins IsAnyName rest)
      (filled : leading ++ rest ≠ []) :
      EntryFault (leading ++ rest) (.ofComplaint (unmet (noKeyMessage rest) groupEnd rest))
  | cutOff {names colons rest : List Lexeme} {place : Nat} (key : IsKey names place)
      (marked : AreColons colons) (noName : ¬ Begins IsAnyName rest) :
      EntryFault (names ++ colons ++ rest)
        (.ofComplaint (unmet "expected ident" groupEnd rest))
  | otherKey {names rest : List Lexeme} {place : Nat} (key : IsKey names place)
      (whole : ¬ Begins AreColons rest) (other : ¬ IsRuntimeKey names) :
      EntryFault (names ++ rest) (.ofComplaint ⟨"unsupported buildable attribute", place⟩)
  | noSign {name rest : List Lexeme} (key : IsRuntimeKey name) (whole : ¬ Begins AreColons rest)
      (missing : ¬ Begins (IsMark '=') rest) :
      EntryFault (name ++ rest) (.ofComplaint ⟨"expected `=`", nextPlace groupEnd rest⟩)
  | noText {name sign rest : List Lexeme} (key : IsRuntimeKey name) (equals : IsMark '=' sign)
      (missing : ¬ Begins IsText rest) :
      EntryFault (name ++ sign ++ rest)
        (.ofComplaint (unmet "expected string literal" groupEnd rest))
  | noPath {name sign rest : List Lexeme} {literal value suffix : String} {place : Nat}
      {mistake : Mistake} (key : IsRuntimeKey name) (equals : IsMark '=' sign)
      (isText : Literal.stringValue? literal = some (value, suffix))
      (wrong : Entry.runtimePath ⟨value, suffix, place, place + (literal.length - 1)⟩ =
        .error mistake) :
      EntryFault (name ++ sign ++ ⟨.literal literal, place⟩ :: rest) mistake

/-- The first fault among tokens that are not all entries: there is one in the first of them, or no
comma stands behind it, or the fault is behind the comma. -/
inductive EntriesFault : List Lexeme → Mistake → Prop
  | first {lexemes : List Lexeme} {mistake : Mistake}
      (fault : EntryFault groupEnd lexemes mistake) : EntriesFault lexemes mistake
  | noComma {entry rest : List Lexeme} {path : WrittenPath} (isEntry : IsEntry entry path)
      (filled : rest ≠ []) (missing : ¬ Begins (IsMark ',') rest) :
      EntriesFault (entry ++ rest) (.ofComplaint ⟨"expected `,`", nextPlace groupEnd rest⟩)
  | later {entry comma rest : List Lexeme} {path : WrittenPath} {mistake : Mistake}
      (isEntry : IsEntry entry path) (separated : IsMark ',' comma)
      (behind : EntriesFault rest mistake) : EntriesFault (entry ++ comma ++ rest) mistake

end

/-! ## What comes next -/

theorem begins_mark_iff (character : Char) (lexemes : List Lexeme) :
    beginsWithMarks [character] lexemes = true ↔ Begins (IsMark character) lexemes := by
  constructor
  · intro begins
    match lexemes, begins with
    | ⟨.mark found joint, place⟩ :: rest, same =>
        obtain rfl := eq_of_beq same
        exact ⟨_, rest, ⟨joint, place, rfl⟩, rfl⟩
  · rintro ⟨_, rest, ⟨joint, place, rfl⟩, rfl⟩
    exact beq_self_eq_true character

theorem begins_colons_iff (lexemes : List Lexeme) :
    beginsWithMarks [':', ':'] lexemes = true ↔ Begins AreColons lexemes := by
  constructor
  · intro begins
    match lexemes, begins with
    | ⟨.mark found joint, first⟩ :: rest, begins =>
        rw [beginsWithMarks, Bool.and_eq_true, Bool.and_eq_true, begins_mark_iff] at begins
        obtain ⟨⟨same, rfl⟩, _, others, ⟨joint, second, rfl⟩, rfl⟩ := begins
        obtain rfl := eq_of_beq same
        exact ⟨_, others, ⟨joint, first, second, rfl⟩, rfl⟩
  · rintro ⟨_, rest, ⟨joint, first, second, rfl⟩, rfl⟩
    rfl

theorem begins_name_iff (lexemes : List Lexeme) :
    beginsWithAnyName lexemes = true ↔ Begins IsAnyName lexemes := by
  constructor
  · intro begins
    match lexemes, begins with
    | ⟨.name name, place⟩ :: rest, _ => exact ⟨_, rest, ⟨name, place, rfl⟩, rfl⟩
  · rintro ⟨_, rest, ⟨name, place, rfl⟩, rfl⟩
    rfl

theorem begins_text_iff (lexemes : List Lexeme) :
    beginsWithText lexemes = true ↔ Begins IsText lexemes := by
  constructor
  · intro begins
    match lexemes, begins with
    | ⟨.literal literal, place⟩ :: rest, isText =>
        exact ⟨_, rest, ⟨literal, place, isText, rfl⟩, rfl⟩
  · rintro ⟨_, rest, ⟨literal, place, isText, rfl⟩, rfl⟩
    exact isText

/-! ## Reading pieces -/

section

variable {rest : List Lexeme} (groupEnd : Nat) (stray : Option Complaint)

theorem refuse_unmet {Value : Type} (message : String) :
    (refuse message : Reader Value) ⟨rest, groupEnd, stray⟩ =
      .error (unmet message groupEnd rest) := by
  cases rest <;> rfl

theorem place_then {Value : Type} (next : Nat → Reader Value) :
    (place >>= next) ⟨rest, groupEnd, stray⟩ =
      next (nextPlace groupEnd rest) ⟨rest, groupEnd, stray⟩ := by
  cases rest <;> rfl

theorem ahead_then {Value : Type} (next : List Lexeme → Reader Value) :
    (ahead >>= next) ⟨rest, groupEnd, stray⟩ = next rest ⟨rest, groupEnd, stray⟩ := rfl

theorem operator_read {sign : String} {lexemes : List Lexeme}
    (begins : beginsWithOperator sign lexemes = true) :
    operator? sign ⟨lexemes, groupEnd, stray⟩ =
      .ok (true, ⟨lexemes.drop sign.length, groupEnd, stray⟩) := by
  change (if beginsWithOperator sign lexemes then _ else _ : Reader Bool) _ = _
  rw [begins]
  rfl

theorem operator_not_read {sign : String} {lexemes : List Lexeme}
    (absent : ¬ beginsWithOperator sign lexemes = true) :
    operator? sign ⟨lexemes, groupEnd, stray⟩ = .ok (false, ⟨lexemes, groupEnd, stray⟩) := by
  change (if beginsWithOperator sign lexemes then _ else _ : Reader Bool) _ = _
  rw [if_neg absent]
  rfl

section

variable {sign : String} {character : Char} (single : sign.toList = [character])

include single

theorem mark_read {mark : List Lexeme} (isMark : IsMark character mark) :
    operator sign ⟨mark ++ rest, groupEnd, stray⟩ = .ok ((), ⟨rest, groupEnd, stray⟩) := by
  have length : sign.length = 1 := by
    rw [← String.length_toList, single]
    rfl
  have begins : beginsWithOperator sign (mark ++ rest) = true := by
    rw [beginsWithOperator, single, begins_mark_iff]
    exact ⟨mark, rest, isMark, rfl⟩
  obtain ⟨joint, place, rfl⟩ := isMark
  unfold operator
  change (operator? sign _ >>= _) = _
  rw [operator_read groupEnd stray begins, length]
  rfl

theorem no_mark_read (missing : ¬ Begins (IsMark character) rest) :
    operator sign ⟨rest, groupEnd, stray⟩ =
      .error ⟨"expected " ++ quoted sign, nextPlace groupEnd rest⟩ := by
  have absent : ¬ beginsWithOperator sign rest = true := by
    rwa [beginsWithOperator, single, begins_mark_iff]
  unfold operator
  change (operator? sign _ >>= _) = _
  rw [operator_not_read groupEnd stray absent]
  change (place >>= fun found => refuseAt ("expected " ++ quoted sign) found) _ = _
  rw [place_then]
  rfl

end

theorem colons_read {colons : List Lexeme} (marked : AreColons colons) :
    operator? "::" ⟨colons ++ rest, groupEnd, stray⟩ = .ok (true, ⟨rest, groupEnd, stray⟩) := by
  obtain ⟨joint, first, second, rfl⟩ := marked
  rfl

theorem no_colons_read (missing : ¬ Begins AreColons rest) :
    operator? "::" ⟨rest, groupEnd, stray⟩ = .ok (false, ⟨rest, groupEnd, stray⟩) :=
  operator_not_read groupEnd stray fun begins => missing ((begins_colons_iff rest).mp begins)

theorem leading_read {leading : List Lexeme} (leads : MayLead leading)
    (noColons : leading = [] → ¬ Begins AreColons rest) :
    operator? "::" ⟨leading ++ rest, groupEnd, stray⟩ =
      .ok (!leading.isEmpty, ⟨rest, groupEnd, stray⟩) := by
  rcases leads with rfl | marked
  · exact no_colons_read groupEnd stray (noColons rfl)
  · rw [colons_read groupEnd stray marked]
    obtain ⟨joint, first, second, rfl⟩ := marked
    rfl

theorem no_name_read (missing : ¬ Begins IsAnyName rest) :
    anyName ⟨rest, groupEnd, stray⟩ = .error (unmet "expected ident" groupEnd rest) := by
  rw [← begins_name_iff] at missing
  have refused : (refuse "expected ident" : Reader String) ⟨rest, groupEnd, stray⟩ = _ :=
    refuse_unmet groupEnd stray _
  rw [← refused]
  match rest, missing with
  | [], _ => rfl
  | ⟨.name _, _⟩ :: _, missing => exact absurd rfl missing
  | ⟨.mark _ _, _⟩ :: _, _ => rfl
  | ⟨.literal _, _⟩ :: _, _ => rfl
  | ⟨.opening _, _⟩ :: _, _ => rfl
  | ⟨.closing _, _⟩ :: _, _ => rfl

/-! ## Reading a key -/

theorem next_name_read {colons name : List Lexeme} (marked : AreColons colons)
    (named : IsAnyName name) (fuel : Nat) :
    moreNames (fuel + 1) ⟨colons ++ name ++ rest, groupEnd, stray⟩ =
      (moreNames fuel ⟨rest, groupEnd, stray⟩).map fun (_, left) => (true, left) := by
  obtain ⟨joint, first, second, rfl⟩ := marked
  obtain ⟨name, place, rfl⟩ := named
  change (moreNames fuel ⟨rest, groupEnd, stray⟩ >>= fun _ => _) = _
  cases moreNames fuel ⟨rest, groupEnd, stray⟩ <;> rfl

/-- A key goes on for as long as there are more names; what decides is what comes behind them. -/
theorem more_names_read {others : List Lexeme} (more : AreMoreNames others) (fuel : Nat)
    (enough : others.length + rest.length ≤ fuel) :
    ∃ less, rest.length ≤ less ∧ moreNames fuel ⟨others ++ rest, groupEnd, stray⟩ =
      (moreNames less ⟨rest, groupEnd, stray⟩).map fun (longer, left) =>
        (!others.isEmpty || longer, left) := by
  induction more generalizing fuel with
  | none =>
      refine ⟨fuel, by omega, ?_⟩
      rw [List.nil_append]
      cases moreNames fuel ⟨rest, groupEnd, stray⟩ <;> rfl
  | @more colons name others marked named _ induction =>
      have filled : 0 < (colons ++ name).length := by
        obtain ⟨_, _, rfl⟩ := named
        rw [List.length_append, List.length_singleton]
        omega
      rw [List.length_append] at enough
      obtain ⟨fuel, rfl⟩ : ∃ more, fuel = more + 1 := ⟨fuel - 1, by omega⟩
      obtain ⟨less, enough, read⟩ := induction fuel (by omega)
      have goesOn : (colons ++ name ++ others).isEmpty = false := by
        obtain ⟨_, _, _, rfl⟩ := marked
        rfl
      refine ⟨less, enough, ?_⟩
      rw [List.append_assoc (colons ++ name), next_name_read groupEnd stray marked named, read,
        goesOn]
      cases moreNames less ⟨rest, groupEnd, stray⟩ <;> rfl

theorem no_more_names (fuel : Nat) (missing : ¬ Begins AreColons rest) :
    moreNames fuel ⟨rest, groupEnd, stray⟩ = .ok (false, ⟨rest, groupEnd, stray⟩) := by
  cases fuel with
  | zero => rfl
  | succ fuel =>
      unfold moreNames
      change (operator? "::" ⟨rest, groupEnd, stray⟩ >>= _) = _
      rw [no_colons_read groupEnd stray missing]
      rfl

theorem cut_off_name {colons : List Lexeme} (marked : AreColons colons)
    (noName : ¬ Begins IsAnyName rest) (fuel : Nat) (enough : (colons ++ rest).length ≤ fuel) :
    moreNames fuel ⟨colons ++ rest, groupEnd, stray⟩ =
      .error (unmet "expected ident" groupEnd rest) := by
  obtain ⟨joint, first, second, rfl⟩ := marked
  obtain ⟨fuel, rfl⟩ : ∃ more, fuel = more + 1 := ⟨fuel - 1, by
    simp only [List.length_append, List.length_cons] at enough
    omega⟩
  change (anyName ⟨rest, groupEnd, stray⟩ >>= _) = _
  rw [no_name_read groupEnd stray noName]
  rfl

/-- Behind its first name a key is whatever more names there are. -/
theorem key_from_name {leading : List Lexeme} (leads : MayLead leading) (name : String)
    (place : Nat) : key ⟨leading ++ ⟨.name name, place⟩ :: rest, groupEnd, stray⟩ =
      (moreNames rest.length ⟨rest, groupEnd, stray⟩).map fun (longer, left) =>
        ((place, !(!leading.isEmpty) && !longer && name == runtimeKey), left) := by
  have noColons : ¬ Begins AreColons (⟨.name name, place⟩ :: rest) := by
    rintro ⟨_, _, ⟨joint, first, second, rfl⟩, same⟩
    cases same
  unfold key
  change (operator? "::" _ >>= _) = _
  rw [leading_read groupEnd stray leads fun _ => noColons]
  change (moreNames rest.length ⟨rest, groupEnd, stray⟩ >>= _) = _
  cases moreNames rest.length ⟨rest, groupEnd, stray⟩ <;> rfl

theorem key_read {names : List Lexeme} {place : Nat} (isKey : IsKey names place)
    (whole : ¬ Begins AreColons rest) :
    ∃ isRuntime, key ⟨names ++ rest, groupEnd, stray⟩ =
      .ok ((place, isRuntime), ⟨rest, groupEnd, stray⟩) ∧
        (isRuntime = true ↔ IsRuntimeKey names) := by
  obtain @⟨leading, others, name, _, leads, more⟩ := isKey
  obtain ⟨less, _, read⟩ := more_names_read groupEnd stray more (others ++ rest).length
    (Nat.le_of_eq List.length_append.symm)
  rw [no_more_names groupEnd stray less whole] at read
  refine ⟨leading.isEmpty && others.isEmpty && name == runtimeKey, ?_, ?_⟩
  · rw [List.append_assoc, List.cons_append, key_from_name groupEnd stray leads, read]
    simp only [Except.map, Bool.or_false, Bool.not_not]
  · constructor
    · intro isRuntime
      simp only [Bool.and_eq_true, List.isEmpty_iff] at isRuntime
      obtain ⟨⟨rfl, rfl⟩, same⟩ := isRuntime
      exact ⟨place, by rw [eq_of_beq same, List.nil_append]⟩
    · rintro ⟨_, same⟩
      obtain ⟨rfl, same⟩ | ⟨_, none⟩ := List.append_eq_singleton_iff.mp same
      · cases same
        rfl
      · cases none

theorem cut_off_key {names colons : List Lexeme} {place : Nat} (isKey : IsKey names place)
    (marked : AreColons colons) (noName : ¬ Begins IsAnyName rest) :
    key ⟨names ++ colons ++ rest, groupEnd, stray⟩ =
      .error (unmet "expected ident" groupEnd rest) := by
  obtain @⟨leading, others, name, _, leads, more⟩ := isKey
  obtain ⟨less, enough, read⟩ := more_names_read groupEnd stray more
    (others ++ (colons ++ rest)).length
    (Nat.le_of_eq List.length_append.symm)
  rw [cut_off_name groupEnd stray marked noName less enough] at read
  rw [List.append_assoc, List.append_assoc, List.cons_append, key_from_name groupEnd stray leads,
    read]
  rfl

theorem no_key {leading : List Lexeme} (leads : MayLead leading)
    (noColons : leading = [] → ¬ Begins AreColons rest) (noName : ¬ Begins IsAnyName rest) :
    key ⟨leading ++ rest, groupEnd, stray⟩ =
      .error (unmet (noKeyMessage rest) groupEnd rest) := by
  unfold key
  change (operator? "::" _ >>= _) = _
  rw [leading_read groupEnd stray leads noColons]
  rw [← begins_name_iff] at noName
  cases rest with
  | nil => rfl
  | cons first rest =>
      obtain ⟨token, place⟩ := first
      cases token with
      | name name => exact absurd rfl noName
      | mark character joint =>
          -- A minus sign begins a literal where a number follows.
          rw [noKeyMessage, if_neg (List.cons_ne_nil _ _)]
          change (if _ then _ else _ : Reader _) _ = _
          split_ifs <;> rfl
      | _ => rfl

/-! ## Reading an entry -/

theorem IsRuntimeKey.isKey {name : List Lexeme} (isRuntime : IsRuntimeKey name) :
    ∃ place, IsKey name place := by
  obtain ⟨place, rfl⟩ := isRuntime
  exact ⟨place, .names runtimeKey place (.inl rfl) .none⟩

theorem entry_behind_key {name : List Lexeme} (isRuntime : IsRuntimeKey name)
    (whole : ¬ Begins AreColons rest) : entry ⟨name ++ rest, groupEnd, stray⟩ =
      (operator "=" >>= fun _ => stringLiteral) ⟨rest, groupEnd, stray⟩ := by
  obtain ⟨_, isKey⟩ := isRuntime.isKey
  obtain ⟨found, read, isFound⟩ := key_read groupEnd stray isKey whole
  obtain rfl := isFound.mpr isRuntime
  unfold entry
  change (key _ >>= _) = _
  rw [read]
  rfl

theorem text_behind_sign {name sign : List Lexeme} (isRuntime : IsRuntimeKey name)
    (equals : IsMark '=' sign) : entry ⟨name ++ sign ++ rest, groupEnd, stray⟩ =
      stringLiteral ⟨rest, groupEnd, stray⟩ := by
  obtain ⟨joint, place, rfl⟩ := equals
  have whole : ¬ Begins AreColons (⟨.mark '=' joint, place⟩ :: rest) := by
    rintro ⟨_, _, ⟨_, _, _, rfl⟩, same⟩
    cases same
  rw [List.append_assoc]
  exact entry_behind_key groupEnd stray isRuntime whole

/-- A literal is read for its value, if it has one as a string. -/
theorem literal_read (literal : String) (place : Nat) :
    stringLiteral ⟨⟨.literal literal, place⟩ :: rest, groupEnd, stray⟩ =
      (Literal.stringValue? literal).elim (.error ⟨"expected string literal", place⟩)
        fun text => .ok (⟨text.1, text.2, place, place + (literal.length - 1)⟩,
          ⟨rest, groupEnd, stray⟩) := by
  rw [stringLiteral, place_then, ahead_then]
  dsimp only [nextPlace]
  cases Literal.stringValue? literal <;> rfl

theorem text_read {literal value suffix : String} (place : Nat)
    (isText : Literal.stringValue? literal = some (value, suffix)) :
    stringLiteral ⟨⟨.literal literal, place⟩ :: rest, groupEnd, stray⟩ =
      .ok (⟨value, suffix, place, place + (literal.length - 1)⟩, ⟨rest, groupEnd, stray⟩) := by
  rw [literal_read, isText]
  rfl

theorem no_text_read (missing : ¬ Begins IsText rest) :
    stringLiteral ⟨rest, groupEnd, stray⟩ =
      .error (unmet "expected string literal" groupEnd rest) := by
  rw [← begins_text_iff] at missing
  have refused : (refuse "expected string literal" : Reader Entry) ⟨rest, groupEnd, stray⟩ = _ :=
    refuse_unmet groupEnd stray _
  rw [← refused]
  match rest, missing with
  | [], _ => rfl
  | ⟨.literal literal, place⟩ :: rest, missing =>
      have noText : Literal.stringValue? literal = none := by
        cases isText : Literal.stringValue? literal with
        | none => rfl
        | some _ => exact absurd (by rw [beginsWithText, isText, Option.isSome_some]) missing
      rw [literal_read, noText]
      rfl
  | ⟨.name _, _⟩ :: _, _ => rfl
  | ⟨.mark _ _, _⟩ :: _, _ => rfl
  | ⟨.opening _, _⟩ :: _, _ => rfl
  | ⟨.closing _, _⟩ :: _, _ => rfl

theorem runtime_path_ok_iff (entry : Entry) (path : WrittenPath) :
    entry.runtimePath = .ok path ↔
      entry.suffix = "" ∧ WrittenPath.read? entry.value = some path := by
  rw [Entry.runtimePath, WrittenPath.read?, runText]
  cases lex entry.value with
  | error place => exact ⟨nofun, nofun⟩
  | ok tokens =>
      dsimp only
      cases run Source.path tokens entry.value.length with
      | error complaint => exact ⟨nofun, nofun⟩
      | ok found =>
          dsimp only [Except.toOption]
          split_ifs with plain
          · rw [Except.ok.injEq, Option.some.injEq, eq_true plain, true_and]
          · exact ⟨nofun, fun held => absurd held.1 plain⟩

/-- Reads an entry and the path in it. -/
def checkedEntry (remaining : Remaining) : Except Mistake (WrittenPath × Remaining) := do
  let (entry, left) ← advance entry remaining
  return (← entry.runtimePath, left)

theorem advance_read {Value : Type} {reader : Reader Value} {remaining : Remaining}
    {result : Value × Remaining} (read : reader remaining = .ok result) :
    advance reader remaining = .ok result := by
  unfold advance StateT.run
  rw [read]

theorem advance_refused {Value : Type} {reader : Reader Value} {remaining : Remaining}
    {complaint : Complaint} (refused : reader remaining = .error complaint) :
    advance reader remaining = .error (.ofComplaint complaint) := by
  unfold advance StateT.run
  rw [refused]

theorem entry_refused {remaining : Remaining} {complaint : Complaint}
    (refused : entry remaining = .error complaint) :
    checkedEntry remaining = .error (.ofComplaint complaint) := by
  rw [checkedEntry, advance_refused refused]
  rfl

theorem entry_accepted {remaining : Remaining} {found : Entry} {left : Remaining}
    (read : entry remaining = .ok (found, left)) :
    checkedEntry remaining = found.runtimePath.map (·, left) := by
  rw [checkedEntry, advance_read read]
  rfl

theorem entry_checked {piece : List Lexeme} {path : WrittenPath} (isEntry : IsEntry piece path) :
    checkedEntry ⟨piece ++ rest, groupEnd, stray⟩ = .ok (path, ⟨rest, groupEnd, stray⟩) := by
  obtain @⟨name, sign, literal, value, place, _, isRuntime, equals, isText, isPath⟩ := isEntry
  have held : Entry.runtimePath ⟨value, "", place, place + (literal.length - 1)⟩ = .ok path :=
    (runtime_path_ok_iff _ path).mpr ⟨rfl, isPath⟩
  rw [List.append_assoc, List.singleton_append, entry_accepted
    ((text_behind_sign groupEnd stray isRuntime equals).trans
      (text_read groupEnd stray place isText)), held]
  rfl

/-- What is wrong with an entry is what reading it complains of. -/
theorem entry_faulty {lexemes : List Lexeme} {mistake : Mistake}
    (fault : EntryFault groupEnd lexemes mistake) :
    checkedEntry ⟨lexemes, groupEnd, stray⟩ = .error mistake := by
  cases fault with
  | noKey leads noColons noName _ =>
      refine entry_refused ?_
      change (key _ >>= _) = _
      rw [no_key groupEnd stray leads noColons noName]
      rfl
  | cutOff isKey marked noName =>
      refine entry_refused ?_
      change (key _ >>= _) = _
      rw [cut_off_key groupEnd stray isKey marked noName]
      rfl
  | otherKey isKey whole other =>
      refine entry_refused ?_
      obtain ⟨found, read, isFound⟩ := key_read groupEnd stray isKey whole
      obtain rfl : found = false := Bool.eq_false_iff.mpr fun isRuntime =>
        other (isFound.mp isRuntime)
      change (key _ >>= _) = _
      rw [read]
      rfl
  | noSign isRuntime whole missing =>
      refine entry_refused ?_
      rw [entry_behind_key groupEnd stray isRuntime whole]
      change (operator "=" _ >>= _) = _
      rw [no_mark_read groupEnd stray rfl missing]
      rfl
  | noText isRuntime equals missing =>
      refine entry_refused ?_
      rw [text_behind_sign groupEnd stray isRuntime equals]
      exact no_text_read groupEnd stray missing
  | @noPath _ _ rest literal value suffix place _ isRuntime equals isText wrong =>
      rw [entry_accepted
        ((text_behind_sign groupEnd stray isRuntime equals).trans
          (text_read groupEnd stray place isText)), wrong]
      rfl

/-! ## Reading entries -/

theorem last_entry_checked (fuel : Nat) (remaining : Remaining) :
    lastEntry (fuel + 1) remaining = (do
      let (path, remaining) ← checkedEntry remaining
      if remaining.tokens.isEmpty then return some path
      let (_, remaining) ← advance (operator ",") remaining
      if remaining.tokens.isEmpty then return some path
      lastEntry fuel remaining) := by
  rw [lastEntry, checkedEntry]
  cases advance entry remaining with
  | error mistake => rfl
  | ok found =>
      obtain ⟨entry, left⟩ := found
      change (entry.runtimePath >>= _) = ((entry.runtimePath >>= _) >>= _)
      cases entry.runtimePath <;> rfl

theorem IsEntry.filled {piece : List Lexeme} {path : WrittenPath} (isEntry : IsEntry piece path) :
    0 < piece.length := by
  cases isEntry
  rw [List.length_append, List.length_singleton]
  omega

theorem AreEntries.none_iff {lexemes : List Lexeme} {paths : List WrittenPath}
    (entries : AreEntries lexemes paths) : lexemes = [] ↔ paths = [] := by
  cases entries with
  | none => exact ⟨fun _ => rfl, fun _ => rfl⟩
  | last isEntry =>
      exact ⟨fun none => absurd none (List.ne_nil_of_length_pos isEntry.filled), nofun⟩
  | more isEntry _ _ =>
      refine ⟨fun none => ?_, nofun⟩
      have piece := (List.append_eq_nil_iff.mp (List.append_eq_nil_iff.mp none).1).1
      exact absurd piece (List.ne_nil_of_length_pos isEntry.filled)

/-- Behind an entry and a comma it is the entries there that count, if there are any. -/
theorem entries_go_on {piece comma : List Lexeme} {path : WrittenPath}
    (isEntry : IsEntry piece path) (separated : IsMark ',' comma) (fuel : Nat) :
    lastEntry (fuel + 1) ⟨piece ++ comma ++ rest, groupEnd, stray⟩ =
      if rest.isEmpty then .ok (some path) else lastEntry fuel ⟨rest, groupEnd, stray⟩ := by
  rw [last_entry_checked, List.append_assoc, entry_checked groupEnd stray isEntry]
  have notAtEnd : (comma ++ rest).isEmpty = false := by
    obtain ⟨joint, place, rfl⟩ := separated
    rfl
  change (if (comma ++ rest).isEmpty then _ else _) = _
  rw [notAtEnd]
  change (advance (operator ",") _ >>= _) = _
  rw [advance_read (mark_read groupEnd stray rfl separated)]
  rfl

theorem entries_read {lexemes : List Lexeme} {paths : List WrittenPath}
    (entries : AreEntries lexemes paths) (filled : lexemes ≠ []) (fuel : Nat)
    (enough : lexemes.length ≤ fuel) :
    lastEntry fuel ⟨lexemes, groupEnd, stray⟩ = .ok paths.getLast? := by
  induction entries generalizing fuel with
  | none => exact absurd rfl filled
  | @last piece _ isEntry =>
      have := isEntry.filled
      obtain ⟨fuel, rfl⟩ : ∃ more, fuel = more + 1 := ⟨fuel - 1, by omega⟩
      rw [← List.append_nil piece, last_entry_checked, entry_checked groupEnd stray isEntry]
      rfl
  | @more _ _ others path paths isEntry separated behind induction =>
      have := isEntry.filled
      simp only [List.length_append] at enough
      obtain ⟨fuel, rfl⟩ : ∃ more, fuel = more + 1 := ⟨fuel - 1, by omega⟩
      rw [entries_go_on groupEnd stray isEntry separated]
      split_ifs with atEnd
      · rw [behind.none_iff.mp (List.isEmpty_iff.mp atEnd)]
        rfl
      · have more : others ≠ [] := fun none => atEnd (List.isEmpty_iff.mpr none)
        have given : paths ≠ [] := fun none => more (behind.none_iff.mpr none)
        rw [induction more fuel (by omega), List.getLast?_cons, List.getLast?_eq_some_getLast given,
          Option.getD_some]

theorem EntryFault.filled {lexemes : List Lexeme} {mistake : Mistake}
    (fault : EntryFault groupEnd lexemes mistake) : lexemes ≠ [] := by
  cases fault with
  | noKey _ _ _ filled => exact filled
  | cutOff isKey | otherKey isKey =>
    cases isKey
    simp
  | noSign isRuntime | noText isRuntime | noPath isRuntime =>
    obtain ⟨_, rfl⟩ := isRuntime
    simp

theorem EntriesFault.filled {lexemes : List Lexeme} {mistake : Mistake}
    (fault : EntriesFault groupEnd lexemes mistake) : lexemes ≠ [] := by
  cases fault with
  | first fault => exact fault.filled
  | noComma isEntry | later isEntry =>
    have := isEntry.filled
    apply List.ne_nil_of_length_pos
    simp only [List.length_append]
    omega

theorem entries_faulty {lexemes : List Lexeme} {mistake : Mistake}
    (fault : EntriesFault groupEnd lexemes mistake) (fuel : Nat)
    (enough : lexemes.length ≤ fuel) :
    lastEntry fuel ⟨lexemes, groupEnd, stray⟩ = .error mistake := by
  obtain ⟨fuel, rfl⟩ : ∃ more, fuel = more + 1 := by
    have := List.length_pos_iff.mpr fault.filled
    exact ⟨fuel - 1, by omega⟩
  induction fault generalizing fuel with
  | first fault =>
      rw [last_entry_checked, entry_faulty groupEnd stray fault]
      rfl
  | @noComma _ rest _ isEntry filled missing =>
      rw [last_entry_checked, entry_checked groupEnd stray isEntry]
      change (if rest.isEmpty then _ else _) = _
      rw [if_neg (filled ∘ List.isEmpty_iff.mp)]
      rw [advance_refused (no_mark_read groupEnd stray rfl missing)]
      rfl
  | @later _ _ rest _ _ isEntry separated behind induction =>
      have := isEntry.filled
      have := List.length_pos_iff.mpr behind.filled
      rw [List.length_append, List.length_append] at enough
      obtain ⟨fuel, rfl⟩ : ∃ more, fuel = more + 1 := ⟨fuel - 1, by omega⟩
      rw [entries_go_on groupEnd stray isEntry separated,
        if_neg (behind.filled ∘ List.isEmpty_iff.mp)]
      exact induction fuel (by omega)

/-! ## Entries or a fault -/

/-- Names of a key go on up to what is no name with two colons in front. -/
theorem more_names_end (lexemes : List Lexeme) :
    ∃ others rest, AreMoreNames others ∧ lexemes = others ++ rest ∧
      (¬ Begins AreColons rest ∨ ∃ colons behind, AreColons colons ∧ ¬ Begins IsAnyName behind ∧
        rest = colons ++ behind) := by
  by_cases marked : Begins AreColons lexemes
  · obtain ⟨colons, behind, areColons, rfl⟩ := marked
    by_cases named : Begins IsAnyName behind
    · obtain ⟨name, after, isName, rfl⟩ := named
      obtain ⟨others, rest, more, rfl, ends⟩ := more_names_end after
      exact ⟨_, rest, .more areColons isName more, by simp only [List.append_assoc], ends⟩
    · exact ⟨[], _, .none, rfl, .inr ⟨colons, behind, areColons, named, rfl⟩⟩
  · exact ⟨[], lexemes, .none, rfl, .inl marked⟩
termination_by lexemes.length
decreasing_by
  subst_vars
  obtain ⟨_, _, rfl⟩ := isName
  simp only [List.length_append, List.length_cons]
  omega

theorem key_or_fault (lexemes : List Lexeme) (filled : lexemes ≠ []) :
    (∃ names place rest, IsKey names place ∧ ¬ Begins AreColons rest ∧ lexemes = names ++ rest) ∨
      ∃ mistake, EntryFault groupEnd lexemes mistake := by
  obtain ⟨leading, rest, leads, noColons, rfl⟩ : ∃ leading rest, MayLead leading ∧
      (leading = [] → ¬ Begins AreColons rest) ∧ lexemes = leading ++ rest := by
    by_cases marked : Begins AreColons lexemes
    · obtain ⟨colons, behind, areColons, rfl⟩ := marked
      refine ⟨colons, behind, .inr areColons, ?_, rfl⟩
      rintro rfl
      obtain ⟨_, _, _, none⟩ := areColons
      cases none
    · exact ⟨[], lexemes, .inl rfl, fun _ => marked, rfl⟩
  by_cases named : Begins IsAnyName rest
  · obtain ⟨_, behind, ⟨name, place, rfl⟩, rfl⟩ := named
    obtain ⟨others, rest, more, rfl, whole | ⟨colons, behind, marked, noName, rfl⟩⟩ :=
      more_names_end behind
    · refine .inl ⟨_, place, rest, .names name place leads more, whole, ?_⟩
      simp
    · have fault : EntryFault groupEnd _ _ :=
        .cutOff (.names name place leads more) marked noName
      simp only [List.append_assoc, List.cons_append] at fault
      exact .inr ⟨_, fault⟩
  · exact .inr ⟨_, .noKey leads noColons named filled⟩

theorem entry_or_fault (lexemes : List Lexeme) (filled : lexemes ≠ []) :
    (∃ piece path rest, IsEntry piece path ∧ lexemes = piece ++ rest) ∨
      ∃ mistake, EntryFault groupEnd lexemes mistake := by
  obtain ⟨names, place, rest, isKey, whole, rfl⟩ | faulty := key_or_fault groupEnd lexemes filled
  case inr => exact .inr faulty
  by_cases isRuntime : IsRuntimeKey names
  case neg => exact .inr ⟨_, .otherKey isKey whole isRuntime⟩
  by_cases signed : Begins (IsMark '=') rest
  case neg => exact .inr ⟨_, .noSign isRuntime whole signed⟩
  obtain ⟨sign, rest, equals, rfl⟩ := signed
  rw [← List.append_assoc]
  by_cases texted : Begins IsText rest
  case neg => exact .inr ⟨_, .noText isRuntime equals texted⟩
  obtain ⟨_, rest, ⟨literal, place, isText, rfl⟩, rfl⟩ := texted
  obtain ⟨⟨value, suffix⟩, isText⟩ := Option.isSome_iff_exists.mp isText
  cases held : Entry.runtimePath ⟨value, suffix, place, place + (literal.length - 1)⟩ with
  | error mistake => exact .inr ⟨mistake, .noPath isRuntime equals isText held⟩
  | ok path =>
      obtain ⟨plain, isPath⟩ := (runtime_path_ok_iff _ path).mp held
      obtain rfl : suffix = "" := plain
      exact .inl ⟨_, path, rest, .path isRuntime equals isText isPath,
        (List.append_assoc ..).symm⟩

/-- Any tokens are entries, or there is a first fault among them. -/
theorem entries_or_fault (lexemes : List Lexeme) :
    (∃ paths, AreEntries lexemes paths) ∨ ∃ mistake, EntriesFault groupEnd lexemes mistake := by
  by_cases filled : lexemes = []
  · exact .inl ⟨[], filled ▸ .none⟩
  obtain ⟨piece, path, rest, isEntry, rfl⟩ | ⟨mistake, fault⟩ :=
    entry_or_fault groupEnd lexemes filled
  case inr => exact .inr ⟨mistake, .first fault⟩
  by_cases atEnd : rest = []
  · rw [atEnd, List.append_nil]
    exact .inl ⟨[path], .last isEntry⟩
  by_cases separated : Begins (IsMark ',') rest
  case neg => exact .inr ⟨_, .noComma isEntry atEnd separated⟩
  obtain ⟨comma, rest, isComma, rfl⟩ := separated
  rw [← List.append_assoc]
  obtain ⟨paths, entries⟩ | ⟨mistake, fault⟩ := entries_or_fault rest
  · exact .inl ⟨path :: paths, .more isEntry isComma entries⟩
  · exact .inr ⟨mistake, .later isEntry isComma fault⟩
termination_by lexemes.length
decreasing_by
  subst_vars
  have := isEntry.filled
  simp only [List.length_append]
  omega

end

end Recordsmith.Helper
