import Recordsmith.Proofs.Code.TypeTokens
import Recordsmith.Proofs.Derive.FieldTypes
import Recordsmith.Proofs.Token.LoneNames
import Recordsmith.Proofs.TypeExpr.Lowering

/-!
Lowering loses nothing. A type that was read and then lowered can be told from the tokens it became:
names stand for themselves, and the path of a generated optional type begins with two colons, which
no name does. A type that may be missing is lowered as if it could not be, and made optional once.
-/

namespace Recordsmith.TypeExpr

open Code (CodeType optionStart)

/-! ## Tokens of lowered types -/

mutual

/-- The tokens that a type of plain names is lowered to. -/
def codeTokens : TypeExpr → List Token
  | ⟨name, arguments, nullable⟩ =>
      if nullable then
        optionStart ++ .name name :: (codeArguments arguments ++ [.mark '>' false])
      else .name name :: codeArguments arguments

/-- Arguments in angle brackets; nothing for no arguments. -/
def codeArguments : List TypeExpr → List Token
  | [] => []
  | first :: rest =>
      .mark '<' false :: (first.codeTokens ++ (codeMore rest ++ [.mark '>' false]))

/-- Arguments after the first, each after a comma. -/
def codeMore : List TypeExpr → List Token
  | [] => []
  | next :: rest => .mark ',' false :: (next.codeTokens ++ codeMore rest)

end

theorem required_word {name : String} {identifier : Identifier} (isWord : IsWord name.toList)
    (required : Identifier.require name = .ok identifier) : identifier.text = name := by
  have lone := word_lone name.toList isWord.2
  rw [Identifier.require] at required
  split at required
  · rename_i found read
    cases required
    exact read_lone_name lone read
  · cases required

theorem wrapped_tokens (nullable : Bool) (code : CodeType) :
    (wrapNullable nullable code).tokens =
      if nullable then optionStart ++ code.tokens ++ [.mark '>' false] else code.tokens := by
  cases nullable with
  | false => rfl
  | true => exact code.optional_tokens

mutual

theorem lowered_tokens {type : TypeExpr} {code : CodeType} (words : type.HasWords)
    (lowered : type.lower = .ok code) : code.tokens = type.codeTokens := by
  match type with
  | ⟨name, arguments, nullable⟩ =>
      obtain ⟨isWord, argumentWords⟩ := (has_words_iff name arguments nullable).mp words
      obtain ⟨identifier, codes, required, loweredAll, rfl⟩ := lower_ok lowered
      have plain : (CodeType.named identifier codes).tokens =
          .name name :: codeArguments arguments := by
        rw [← required_word isWord required]
        exact lowered_arguments_tokens argumentWords loweredAll identifier
      rw [wrapped_tokens, plain, codeTokens]
      simp

theorem lowered_arguments_tokens {arguments : List TypeExpr} {codes : List CodeType}
    (words : HaveWords arguments) (lowered : lowerAll arguments = .ok codes)
    (identifier : Identifier) : (CodeType.named identifier codes).tokens =
      .name identifier.text :: codeArguments arguments := by
  match arguments with
  | [] =>
      cases lowered
      exact CodeType.lone_tokens identifier
  | first :: rest =>
      obtain ⟨firstWords, restWords⟩ := (have_words_iff first rest).mp words
      obtain ⟨code, others, loweredFirst, loweredRest, rfl⟩ := lower_all_ok lowered
      rw [CodeType.named_tokens, codeArguments, lowered_tokens firstWords loweredFirst,
        lowered_more_tokens restWords loweredRest, List.append_assoc]

theorem lowered_more_tokens {others : List TypeExpr} {codes : List CodeType}
    (words : HaveWords others) (lowered : lowerAll others = .ok codes) :
    Source.commaTokens (codes.map CodeType.tokens) = codeMore others := by
  match others with
  | [] =>
      cases lowered
      rfl
  | next :: rest =>
      obtain ⟨nextWords, restWords⟩ := (have_words_iff next rest).mp words
      obtain ⟨code, behind, loweredNext, loweredRest, rfl⟩ := lower_all_ok lowered
      rw [List.map_cons, Source.commaTokens, codeMore, lowered_tokens nextWords loweredNext,
        lowered_more_tokens restWords loweredRest]

end

/-! ## Reading tokens back -/

/-- No arguments begin here. -/
def EndsName (rest : List Token) : Prop := rest.head? ≠ some (.mark '<' false)

theorem code_more_ends (others : List TypeExpr) (rest : List Token) :
    EndsName (codeMore others ++ .mark '>' false :: rest) := by
  cases others <;> simp [EndsName, codeMore]

mutual

/-- Whatever follows them, the tokens of a type are those of no other. -/
theorem code_tokens_split {left right : TypeExpr} {leftRest rightRest : List Token}
    (leftEnds : EndsName leftRest) (rightEnds : EndsName rightRest)
    (same : left.codeTokens ++ leftRest = right.codeTokens ++ rightRest) :
    left = right ∧ leftRest = rightRest := by
  match left, right with
  | ⟨leftName, leftArguments, false⟩, ⟨rightName, rightArguments, false⟩ =>
      simp only [codeTokens, Bool.false_eq_true, if_false, List.cons_append, List.cons.injEq,
        Token.name.injEq] at same
      obtain ⟨rfl, sameBehind⟩ := same
      obtain ⟨rfl, sameRest⟩ := code_arguments_split leftEnds rightEnds sameBehind
      exact ⟨rfl, sameRest⟩
  | ⟨leftName, leftArguments, true⟩, ⟨rightName, rightArguments, true⟩ =>
      simp only [codeTokens, if_true, List.append_assoc, List.append_cancel_left_eq,
        List.cons_append, List.cons.injEq, Token.name.injEq] at same
      obtain ⟨rfl, sameBehind⟩ := same
      obtain ⟨rfl, sameClosing⟩ :=
        code_arguments_split (by simp [EndsName]) (by simp [EndsName]) sameBehind
      exact ⟨rfl, List.tail_eq_of_cons_eq sameClosing⟩
  | ⟨leftName, leftArguments, false⟩, ⟨rightName, rightArguments, true⟩ => cases same
  | ⟨leftName, leftArguments, true⟩, ⟨rightName, rightArguments, false⟩ => cases same

theorem code_arguments_split {left right : List TypeExpr} {leftRest rightRest : List Token}
    (leftEnds : EndsName leftRest) (rightEnds : EndsName rightRest)
    (same : codeArguments left ++ leftRest = codeArguments right ++ rightRest) :
    left = right ∧ leftRest = rightRest := by
  match left, right with
  | [], [] => exact ⟨rfl, same⟩
  | [], first :: others =>
      rw [codeArguments, codeArguments, List.nil_append] at same
      exact absurd (congrArg List.head? same) leftEnds
  | first :: others, [] =>
      rw [codeArguments, codeArguments, List.nil_append] at same
      exact absurd (congrArg List.head? same).symm rightEnds
  | leftFirst :: leftOthers, rightFirst :: rightOthers =>
      simp only [codeArguments, List.cons_append, List.cons.injEq, true_and, List.append_assoc,
        List.nil_append] at same
      obtain ⟨rfl, sameBehind⟩ :=
        code_tokens_split (code_more_ends _ _) (code_more_ends _ _) same
      obtain ⟨rfl, sameRest⟩ := code_more_split sameBehind
      exact ⟨rfl, sameRest⟩

theorem code_more_split {left right : List TypeExpr} {leftRest rightRest : List Token}
    (same : codeMore left ++ .mark '>' false :: leftRest =
      codeMore right ++ .mark '>' false :: rightRest) :
    left = right ∧ leftRest = rightRest := by
  match left, right with
  | [], [] => exact ⟨rfl, List.tail_eq_of_cons_eq same⟩
  | [], next :: others => simp [codeMore] at same
  | next :: others, [] => simp [codeMore] at same
  | leftNext :: leftOthers, rightNext :: rightOthers =>
      simp only [codeMore, List.cons_append, List.cons.injEq, true_and, List.append_assoc] at same
      obtain ⟨rfl, sameBehind⟩ :=
        code_tokens_split (code_more_ends _ _) (code_more_ends _ _) same
      obtain ⟨rfl, sameRest⟩ := code_more_split sameBehind
      exact ⟨rfl, sameRest⟩

end

/-- Types that were read are told apart by the tokens they are lowered to. -/
theorem parsed_code_injective {first second : String} {left right : TypeExpr}
    {leftCode rightCode : CodeType} (parsedFirst : parse first = .ok left)
    (parsedSecond : parse second = .ok right) (loweredLeft : left.lower = .ok leftCode)
    (loweredRight : right.lower = .ok rightCode) (same : leftCode.tokens = rightCode.tokens) :
    left = right := by
  rw [lowered_tokens (parsed_has_words parsedFirst) loweredLeft,
    lowered_tokens (parsed_has_words parsedSecond) loweredRight] at same
  have ends : EndsName [] := nofun
  have alone : left.codeTokens ++ [] = right.codeTokens ++ [] := by rw [same]
  exact (code_tokens_split ends ends alone).1

/-! ## Names in their order -/

/-- The text consists of the names, in their order, with signs and blanks around them. -/
inductive ShowsNames : List String → List Char → Prop
  | nothing : ShowsNames [] []
  | sign {names : List String} {text : List Char} (sign : Char) (isSign : sign ∈ "<>,? ".toList)
      (shown : ShowsNames names text) : ShowsNames names (sign :: text)
  | name {names : List String} {text : List Char} (name : String)
      (shown : ShowsNames names text) : ShowsNames (name :: names) (name.toList ++ text)

theorem shows_append {first second : List String} {text rest : List Char}
    (shown : ShowsNames first text) (shownRest : ShowsNames second rest) :
    ShowsNames (first ++ second) (text ++ rest) := by
  induction shown with
  | nothing => exact shownRest
  | sign sign isSign _ induction => exact .sign sign isSign induction
  | name name _ induction =>
      rw [List.append_assoc]
      exact .name name induction

theorem shows_mark (nullable : Bool) : ShowsNames [] (if nullable then ['?'] else []) := by
  cases nullable with
  | false => exact .nothing
  | true => exact .sign '?' (by decide) .nothing

mutual

theorem write_shows_names (type : TypeExpr) : ShowsNames type.names type.write := by
  match type with
  | ⟨name, arguments, nullable⟩ =>
      have behind := shows_append (write_arguments_shows_names arguments) (shows_mark nullable)
      rw [List.append_nil] at behind
      rw [names, write, List.append_assoc]
      exact .name name behind

theorem write_arguments_shows_names (arguments : List TypeExpr) :
    ShowsNames (argumentNames arguments) (writeArguments arguments) := by
  match arguments with
  | [] => exact .nothing
  | first :: rest =>
      have closed := shows_append (shows_append (write_shows_names first)
        (write_more_shows_names rest)) (.sign '>' (by decide) .nothing)
      rw [List.append_nil] at closed
      exact .sign '<' (by decide) closed

theorem write_more_shows_names (others : List TypeExpr) :
    ShowsNames (argumentNames others) (writeMore others) := by
  match others with
  | [] => exact .nothing
  | next :: rest =>
      exact .sign ',' (by decide) (.sign ' ' (by decide)
        (shows_append (write_shows_names next) (write_more_shows_names rest)))

end

/-! ## Optional types -/

theorem lower_all_iff {arguments : List TypeExpr} {codes : List CodeType} :
    lowerAll arguments = .ok codes ↔
      List.Forall₂ (fun argument code => argument.lower = .ok code) arguments codes := by
  induction arguments generalizing codes with
  | nil => rw [lowerAll, List.forall₂_nil_left_iff, Except.ok.injEq, eq_comm]
  | cons first rest induction =>
      rw [List.forall₂_cons_left_iff]
      constructor
      · intro lowered
        obtain ⟨code, others, loweredFirst, loweredRest, rfl⟩ := lower_all_ok lowered
        exact ⟨code, others, loweredFirst, induction.mp loweredRest, rfl⟩
      · rintro ⟨code, others, loweredFirst, loweredRest, rfl⟩
        exact lower_all_cons loweredFirst (induction.mpr loweredRest)

/-- A type that is lowered is lowered as well if it may not be missing, and with one optional type
around that if it may, whichever it was. Its arguments stay as they are. -/
theorem lower_with_nullable {type : TypeExpr} {code : CodeType} (lowered : type.lower = .ok code) :
    ∃ identifier arguments, type.lowerInner = .ok (.named identifier arguments) ∧
      List.Forall₂ (fun argument code => argument.lower = .ok code) type.arguments arguments ∧
      (type.withNullable true).lower = .ok (.optional (.named identifier arguments)) := by
  obtain ⟨name, arguments, nullable⟩ := type
  obtain ⟨identifier, codes, required, loweredAll, _⟩ := lower_ok lowered
  exact ⟨identifier, codes, lower_named name identifier required arguments codes loweredAll false,
    lower_all_iff.mp loweredAll,
    lower_named name identifier required arguments codes loweredAll true⟩

/-- Lowering loses nothing. A type is lowered when each of its names is an identifier, and otherwise
the first name in its text that is none is reported. Of the types that were read no two are lowered
to the same tokens. As a type that may be missing, a type gets a single optional type around what it
is without that, and its arguments keep theirs. -/
theorem lowering_loses_nothing :
    (∀ type : TypeExpr, ShowsNames type.names type.render.toList ∧
      ((∃ code, type.lower = .ok code) ↔ ∀ name ∈ type.names, Identifier.IsReadFrom name) ∧
      ∀ report, type.lower = .error report ↔ ∃ before name after,
        type.names = before ++ name :: after ∧
        (∀ earlier ∈ before, Identifier.IsReadFrom earlier) ∧ ¬ Identifier.IsReadFrom name ∧
        report = .ofFault (.invalidIdentifier .typeOrField name)) ∧
    (∀ first second left right leftCode rightCode,
      parse first = .ok left → parse second = .ok right →
      left.lower = .ok leftCode → right.lower = .ok rightCode →
        leftCode.tokens = rightCode.tokens → left = right) ∧
    ∀ (type : TypeExpr) (code : CodeType), type.lower = .ok code →
      ∃ identifier arguments, let inner := CodeType.named identifier arguments
        type.lowerInner = .ok inner ∧ (type.withNullable true).lower = .ok (.optional inner) ∧
        List.Forall₂ (fun argument code => argument.lower = .ok code) type.arguments arguments ∧
        (CodeType.optional inner).tokens = optionStart ++ inner.tokens ++ [.mark '>' false] := by
  refine ⟨fun type => ⟨?_, ?_, fun report => ?_⟩, ?_, ?_⟩
  · rw [render, String.toList_ofList]
    exact write_shows_names type
  · rw [type.lower_decided.ok, List.forall_mem_map]
    rfl
  · rw [type.lower_decided.error, Check.first_failing_map]
    rfl
  · intro first second left right leftCode rightCode
    exact parsed_code_injective
  · intro type code lowered
    obtain ⟨identifier, arguments, inner, loweredAll, outer⟩ := lower_with_nullable lowered
    exact ⟨identifier, arguments, inner, outer, loweredAll, CodeType.optional_tokens _⟩

/-- A type that is called like the optional one is not mixed up with it, whatever may be missing in
it. The first of two reserved names is reported. -/
theorem option_of_own_is_told_apart :
    let own : TypeExpr := .generic "Option" [⟨"Int", [], true⟩]
    let missing : TypeExpr := ⟨"Option", [.simple "Int"], true⟩
    let code := CodeType.named ⟨"Option"⟩ [.optional (.named ⟨"Int"⟩ [])]
    let missingCode := CodeType.optional (.named ⟨"Option"⟩ [.named ⟨"Int"⟩ []])
    parse "Option<Int?>" = .ok own ∧ parse "Option<Int>?" = .ok missing ∧
      own.lower = .ok code ∧ missing.lower = .ok missingCode ∧
      code.tokens ≠ missingCode.tokens ∧
      (own.withNullable true).lower = .ok (.optional code) ∧
      lower (.generic "Map" [.simple "fn", .simple "type"]) =
        .error (.ofFault (.invalidIdentifier .typeOrField "fn")) := by
  intro own missing code missingCode
  have parsedOwn : parse "Option<Int?>" = .ok own := by decide +kernel
  have parsedMissing : parse "Option<Int>?" = .ok missing := by decide +kernel
  have loweredOwn : own.lower = .ok code := rfl
  have loweredMissing : missing.lower = .ok missingCode := rfl
  refine ⟨parsedOwn, parsedMissing, loweredOwn, loweredMissing, ?_, ?_, ?_⟩
  · intro same
    have equal := lowering_loses_nothing.2.1 _ _ _ _ _ _ parsedOwn parsedMissing loweredOwn
      loweredMissing same
    revert equal
    decide
  · obtain ⟨identifier, arguments, inner, outer, _⟩ :=
      lowering_loses_nothing.2.2 own code loweredOwn
    rw [show own.lowerInner = .ok code from loweredOwn] at inner
    rw [outer, ← Except.ok.inj inner]
  · refine ((lowering_loses_nothing.1 _).2.2 _).mpr ⟨["Map"], "fn", ["type"], rfl, ?_, ?_, rfl⟩
    · exact List.forall_mem_singleton.mpr ⟨⟨"Map"⟩, rfl⟩
    · rintro ⟨identifier, read⟩
      cases read

end Recordsmith.TypeExpr
