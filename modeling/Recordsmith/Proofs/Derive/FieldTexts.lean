import Mathlib.Data.List.Forall2
import Recordsmith.Proofs.Derive.Support

/-!
The texts of field types. A type that is written as a type expression has one of its texts, and
every other type has a text that no type expression contains, so that no type around it is read
as a type expression either.
-/

namespace Recordsmith.Source

open TypeExpr

/-! ## Bounds -/

theorem word_names : IsName "dyn" ∧ IsName "impl" ∧ IsName "for" ∧ IsName "use" :=
  ⟨⟨"dyn".toList, [], by decide⟩, ⟨"impl".toList, [], by decide⟩, ⟨"for".toList, [], by decide⟩,
    ⟨"use".toList, [], by decide⟩⟩

theorem bounds_tokens_length (bounds : List Bound) :
    (boundsTokens bounds).length = bounds.length := by
  induction bounds with
  | nil => rfl
  | cons first rest induction => cases first <;> simp [boundsTokens, induction]

theorem given_binder_tokens (binder : Binder) (given : binder.isAbsent = false) :
    ∃ rest, binder.tokens = .name "for" :: .mark '<' false :: rest := by
  cases binder with
  | absent => cases given
  | given parameters trailing => exact ⟨_, rfl⟩

/-- The tokens of a bound begin with a token of code. -/
theorem bound_tokens_begin (bound : Bound) (wellFormed : bound.IsWellFormed) (others : List Bound) :
    ∃ first rest, boundsTokens (bound :: others) = (first :: rest) :: boundsTokens others ∧
      first.BeginsCode := by
  cases bound with
  | lifetime name =>
      refine ⟨_, _, by rw [boundsTokens]; rfl, ?_⟩
      exact Token.mark_begins_code '\'' true ⟨by decide, by decide⟩
  | capture names trailing =>
      refine ⟨_, _, by rw [boundsTokens], ?_⟩
      exact Token.name_begins_code word_names.2.2.2
  | verbatim tokens =>
      obtain ⟨first, rest, rfl, begins⟩ := wellFormed
      exact ⟨first, rest, by rw [boundsTokens], begins⟩
  | trait isParenthesized binder isMaybe leading segments =>
      obtain ⟨name, arguments, rest, rfl, isName⟩ := wellFormed
      have segmentsBegin : ∃ more, segmentsTokens (.mk name arguments :: rest) = .name name :: more := by
        cases rest with
        | nil => exact ⟨_, by rw [segmentsTokens]⟩
        | cons second rest => exact ⟨_, by rw [segmentsTokens]⟩
      obtain ⟨more, segmentsBegin⟩ := segmentsBegin
      have inner : ∃ first inside, binder.tokens ++ (if isMaybe then [Token.mark '?' false] else []) ++
          leadingTokens leading ++ segmentsTokens (.mk name arguments :: rest) = first :: inside ∧
          first.BeginsCode := by
        cases given : binder.isAbsent with
        | false =>
            obtain ⟨after, binderTokens⟩ := given_binder_tokens binder given
            exact ⟨_, _, by rw [binderTokens]; rfl, Token.name_begins_code word_names.2.2.1⟩
        | true =>
            have absent : binder.tokens = [] := by
              cases binder with
              | absent => rfl
              | given parameters trailing => cases given
            cases isMaybe with
            | true =>
                exact ⟨_, _, by rw [absent]; rfl,
                  Token.mark_begins_code '?' false ⟨by decide, by decide⟩⟩
            | false =>
                cases leading with
                | true =>
                    exact ⟨_, _, by rw [absent]; rfl,
                      Token.mark_begins_code ':' true ⟨by decide, by decide⟩⟩
                | false =>
                    exact ⟨_, _, by rw [absent, segmentsBegin]; rfl, Token.name_begins_code isName⟩
      obtain ⟨first, inside, tokens, begins⟩ := inner
      cases isParenthesized with
      | false => exact ⟨first, inside, by rw [boundsTokens, ← tokens]; rfl, begins⟩
      | true =>
          refine ⟨_, _, by rw [boundsTokens]; rfl, ?_⟩
          exact Token.opening_begins_code .parenthesis

theorem join_begins (operator : List Token) (trailing : Bool) (first : Token) (rest : List Token)
    (others : List (List Token)) :
    ∃ more, joinTokens operator trailing ((first :: rest) :: others) = first :: more := by
  cases others with
  | nil =>
      cases trailing
      · exact ⟨_, rfl⟩
      · exact ⟨_, rfl⟩
  | cons second others => exact ⟨_, rfl⟩

/-- An operator stands between elements, and behind a last one that it follows. -/
theorem operator_in_join (operator : List Token) (token : Token) (member : token ∈ operator)
    (trailing : Bool) (elements : List (List Token))
    (several : 2 ≤ elements.length ∨ (elements ≠ [] ∧ trailing = true)) :
    token ∈ joinTokens operator trailing elements := by
  match elements with
  | [] => simp at several
  | [single] =>
      have ends : trailing = true := by simpa using several
      simp [joinTokens, ends, member]
  | first :: second :: rest => simp [joinTokens, member]

/-- Bounds behind a word. -/
theorem bounds_behind_word_unreadable (word : String) (isName : IsName word) (bounds : List Bound)
    (areBounds : AreBounds bounds) (trailing : Bool) :
    Unreadable (Token.render (.name word ::
      joinTokens [.mark '+' false] trailing (boundsTokens bounds))).toList := by
  obtain ⟨bound, others, rfl, wellFormed⟩ := areBounds
  obtain ⟨first, rest, tokens, begins⟩ := bound_tokens_begin bound wellFormed others
  rw [tokens]
  obtain ⟨more, joined⟩ := join_begins [.mark '+' false] trailing first rest (boundsTokens others)
  rw [joined]
  exact Token.code_behind_name_unreadable word isName first begins more

theorem bare_bounds_unreadable (bounds : List Bound) (trailing : Bool)
    (areBounds : AreBareBounds bounds trailing) :
    Unreadable (Token.render (joinTokens [.mark '+' false] trailing (boundsTokens bounds))).toList := by
  have withPlus : 2 ≤ bounds.length ∨ (bounds ≠ [] ∧ trailing = true) →
      Unreadable (Token.render
        (joinTokens [.mark '+' false] trailing (boundsTokens bounds))).toList := by
    intro several
    apply Token.foreign_token_unreadable (.mark '+' false)
    · apply operator_in_join _ _ (by simp)
      rw [bounds_tokens_length]
      refine several.imp_right fun ⟨nonempty, ends⟩ => ⟨?_, ends⟩
      rw [ne_eq, ← List.length_eq_zero_iff, bounds_tokens_length, List.length_eq_zero_iff]
      exact nonempty
    · exact Token.mark_is_foreign '+' false (by decide)
  rcases areBounds with several | ends | ⟨bound, rfl, noType⟩
  · exact withPlus (.inl several)
  · exact withPlus (.inr ends)
  · cases trailing with
    | true => exact withPlus (.inr ⟨by simp, rfl⟩)
    | false =>
        cases bound with
        | lifetime name =>
            apply Token.foreign_token_unreadable (.mark '\'' true)
            · simp [boundsTokens, joinTokens, Token.lifetime]
            · exact Token.mark_is_foreign '\'' true (by decide)
        | capture names trailing => cases noType
        | verbatim tokens => cases noType
        | trait isParenthesized binder isMaybe leading segments =>
            cases isParenthesized with
            | true =>
                apply Token.foreign_token_unreadable (.opening .parenthesis)
                · simp [boundsTokens, joinTokens, Token.group]
                · exact Token.opening_is_foreign .parenthesis
            | false =>
                have given : binder.isAbsent = false := by
                  simpa [Bound.IsNoType] using noType
                obtain ⟨rest, binderTokens⟩ := given_binder_tokens binder given
                simp only [boundsTokens, joinTokens, binderTokens]
                exact Token.code_behind_name_unreadable "for" word_names.2.2.1 (.mark '<' false)
                  (Token.mark_begins_code '<' false ⟨by decide, by decide⟩) _

/-! ## Types of other forms -/

/-- A type that is no path, and none in parentheses or a group. -/
def WrittenType.IsOther : WrittenType → Prop
  | .parenthesized _ => False
  | .grouped _ => False
  | .path .. => False
  | .inferred => False
  | _ => True

theorem colon_unreadable {text : List Char} (member : ':' ∈ text) : Unreadable text :=
  foreign_unreadable (by decide) member

theorem other_unreadable (type : WrittenType) (other : type.IsOther)
    (wellFormed : type.IsWellFormed) : Unreadable (Token.render type.tokens).toList := by
  have opened : ∀ delimiter, Token.opening delimiter ∈ type.tokens →
      Unreadable (Token.render type.tokens).toList := fun delimiter member =>
    Token.foreign_token_unreadable _ _ member (Token.opening_is_foreign delimiter)
  have marked : ∀ character joint, isForeign character = true →
      Token.mark character joint ∈ type.tokens →
      Unreadable (Token.render type.tokens).toList := fun character joint foreign member =>
    Token.foreign_token_unreadable _ _ member (Token.mark_is_foreign character joint foreign)
  cases type with
  | parenthesized inner => cases other
  | grouped inner => cases other
  | path leading segments => cases other
  | inferred => cases other
  | projection subject leading trait segments =>
      exact marked ':' true (by decide) (by simp [WrittenType.tokens, Token.operator, Token.operatorOf])
  | tuple elements trailing =>
      exact opened .parenthesis (by simp [WrittenType.tokens, Token.group])
  | array element length => exact opened .bracket (by simp [WrittenType.tokens, Token.group])
  | slice element => exact opened .bracket (by simp [WrittenType.tokens, Token.group])
  | reference lifetime isMutable target =>
      exact marked '&' false (by decide) (by simp [WrittenType.tokens])
  | pointer isMutable target => exact marked '*' false (by decide) (by simp [WrittenType.tokens])
  | function binder words parameters trailing rest output =>
      exact opened .parenthesis (by simp [WrittenType.tokens, Token.group])
  | invocation leading segments delimiter body =>
      exact marked '!' false (by decide) (by simp [WrittenType.tokens])
  | never => exact marked '!' false (by decide) (by simp [WrittenType.tokens])
  | verbatim tokens =>
      obtain ⟨token, member, foreign⟩ := wellFormed
      exact Token.foreign_token_unreadable token tokens member foreign
  | someTrait bounds trailing =>
      exact bounds_behind_word_unreadable "impl" word_names.2.1 bounds wellFormed trailing
  | traitObject isDynamic bounds trailing =>
      cases isDynamic with
      | true => exact bounds_behind_word_unreadable "dyn" word_names.1 bounds wellFormed trailing
      | false => exact bare_bounds_unreadable bounds trailing wellFormed

/-! ## Paths -/

theorem leading_path_unreadable (segments : List PathSegment) :
    Unreadable (WrittenType.path true segments).fieldText.toList := by
  rw [WrittenType.fieldText, if_pos rfl]
  cases segmentTexts segments with
  | some texts => exact colon_unreadable (by simp)
  | none =>
      apply Token.foreign_token_unreadable (.mark ':' true)
      · simp [WrittenType.tokens, leadingTokens, Token.operator, Token.operatorOf]
      · exact Token.mark_is_foreign ':' true (by decide)

theorem segment_texts_length (segments : List PathSegment) (texts : List String)
    (written : segmentTexts segments = some texts) : texts.length = segments.length := by
  induction segments generalizing texts with
  | nil =>
      cases written
      rfl
  | cons first rest induction =>
      obtain ⟨name, arguments⟩ := first
      rw [segmentTexts] at written
      split at written
      · rename_i text others _ restTexts
        cases written
        rw [List.length_cons, List.length_cons, induction others restTexts]
      · cases written

theorem several_names_unreadable (first second : PathSegment) (rest : List PathSegment) :
    Unreadable (WrittenType.path false (first :: second :: rest)).fieldText.toList := by
  have noOption : optionalText (first :: second :: rest) = none := by
    rw [optionalText]
    simp
  rw [WrittenType.fieldText, if_neg Bool.false_ne_true, noOption]
  cases written : segmentTexts (first :: second :: rest) with
  | some texts =>
      have several := segment_texts_length _ texts written
      match texts with
      | [] => simp at several
      | [single] => simp at several
      | firstText :: secondText :: others =>
          apply colon_unreadable
          simp [String.intercalate_cons_cons]
  | none =>
      obtain ⟨name, arguments⟩ := first
      apply Token.foreign_token_unreadable (.mark ':' true)
      · simp [WrittenType.tokens, leadingTokens, segmentsTokens, Token.operator, Token.operatorOf]
      · exact Token.mark_is_foreign ':' true (by decide)

/-- A name with arguments that are no types. -/
theorem untyped_arguments_unreadable (name : String) (isName : IsName name)
    (arguments : PathArguments) (untyped : argumentsText arguments = none) :
    Unreadable (Token.render (WrittenType.path false [.mk name arguments]).tokens).toList := by
  cases arguments with
  | absent => simp [argumentsText] at untyped
  | called inputs trailing output =>
      apply Token.foreign_token_unreadable (.opening .parenthesis)
      · simp [WrittenType.tokens, segmentsTokens, PathArguments.tokens, Token.group]
      · exact Token.opening_is_foreign .parenthesis
  | angled turbofish arguments trailing =>
      cases turbofish with
      | true =>
          apply Token.foreign_token_unreadable (.mark ':' true)
          · simp [WrittenType.tokens, segmentsTokens, PathArguments.tokens, leadingTokens,
              Token.operator, Token.operatorOf]
          · exact Token.mark_is_foreign ':' true (by decide)
      | false =>
          have tokens : ∃ rest, (WrittenType.path false
              [.mk name (.angled false arguments trailing)]).tokens =
                .name name :: .mark '<' false :: rest :=
            ⟨_, by rw [WrittenType.tokens, segmentsTokens, PathArguments.tokens, angledTokens]; rfl⟩
          obtain ⟨rest, tokens⟩ := tokens
          rw [tokens]
          exact Token.code_behind_name_unreadable name isName _
            (Token.mark_begins_code '<' false ⟨by decide, by decide⟩) rest

/-! ## All types -/

/-- What the text of a type is, given the type expression that it is written as. -/
def IsTextOf (expression : Option TypeExpr) (text : String) : Prop :=
  match expression with
  | some type => Derives type text.toList
  | none => Unreadable text.toList

/-- What the texts of arguments are, given the type expressions that they are written as. -/
def AreTextsOf (expressions : Option (List TypeExpr)) (texts : List String) : Prop :=
  match expressions with
  | some types => List.Forall₂ (fun type text => Derives type text.toList) types texts
  | none => ∃ text ∈ texts, Unreadable text.toList

theorem joined_texts (first : String) (rest : List String) :
    (String.intercalate ", " (first :: rest)).toList =
      first.toList ++ rest.flatMap fun text => ',' :: ' ' :: text.toList := by
  induction rest generalizing first with
  | nil => simp
  | cons second rest induction =>
      rw [String.intercalate_cons_cons, String.toList_append, String.toList_append, induction]
      simp

theorem more_texts (types : List TypeExpr) (texts : List String)
    (derived : List.Forall₂ (fun type text => Derives type text.toList) types texts) :
    DerivesMore types (texts.flatMap fun text => ',' :: ' ' :: text.toList) := by
  induction derived with
  | nil => exact .nothing
  | cons derivedFirst _ induction =>
      have next := DerivesMore.next [] [' '] (by decide) (by decide) derivedFirst induction
      simpa using next

/-- The texts of arguments in their brackets. -/
theorem bracketed_texts (type : TypeExpr) (types : List TypeExpr) (texts : List String)
    (derived : AreTextsOf (some (type :: types)) texts) :
    DerivesArguments (type :: types)
      ("<" ++ String.intercalate ", " texts ++ ">").toList := by
  cases derived with
  | @cons _ first _ rest derivedFirst derivedRest =>
      have bracketed := DerivesArguments.bracketed derivedFirst (more_texts types rest derivedRest)
      rw [String.toList_append, String.toList_append, joined_texts]
      exact bracketed

theorem text_in_brackets (text : String) (texts : List String) (member : text ∈ texts) :
    text.toList <:+: ("<" ++ String.intercalate ", " texts ++ ">").toList := by
  cases texts with
  | nil => cases member
  | cons first rest =>
      rw [String.toList_append, String.toList_append, joined_texts]
      rcases List.mem_cons.mp member with rfl | later
      · exact ⟨['<'], _, by simp; rfl⟩
      · obtain ⟨before, after, rfl⟩ := List.append_of_mem later
        exact ⟨'<' :: (first.toList ++ (before.flatMap fun text => ',' :: ' ' :: text.toList) ++
          [',', ' ']), _, by simp; rfl⟩

theorem named_expression_plain (name : String) (types : List TypeExpr)
    (plain : ¬ (name = optionalName ∧ types.length = 1)) :
    namedExpression name types =
      if name.toList.all Text.isWordCharacter then some ⟨name, types, false⟩ else none := by
  unfold namedExpression
  split
  · rename_i inner isOption
    exact absurd ⟨by simpa using isOption, rfl⟩ plain
  · rfl

/-- The text of a name with arguments that are types. -/
theorem named_text (name : String) (isName : IsName name) (types : List TypeExpr) (inside : String)
    (derived : DerivesArguments types inside.toList)
    (plain : ¬ (name = optionalName ∧ types.length = 1)) :
    IsTextOf (namedExpression name types) (name ++ inside) := by
  rw [named_expression_plain name types plain]
  rcases name_word_or_foreign isName with isWord | ⟨character, member, foreign⟩
  · rw [if_pos (List.all_eq_true.mpr isWord.2)]
    have whole := Derives.type name.toList false isWord derived
    rw [String.ofList_toList] at whole
    simpa [IsTextOf, markOf] using whole
  · have notWord : ¬ name.toList.all Text.isWordCharacter = true := by
      intro allWord
      have isWord := List.all_eq_true.mp allWord character member
      simp [isForeign, isWord] at foreign
    rw [if_neg notWord, IsTextOf, String.toList_append]
    exact unreadable_append_left (foreign_unreadable foreign member) _

/-- The text of an optional type. -/
theorem optional_text (expression : Option TypeExpr) (text : String)
    (isText : IsTextOf expression text) :
    IsTextOf (expression.bind fun inner =>
      if inner.nullable then none else some (inner.withNullable true)) (text ++ "?") := by
  cases expression with
  | none =>
      rw [Option.bind_none]
      change Unreadable (text ++ "?").toList
      rw [String.toList_append]
      exact unreadable_append_left isText _
  | some inner =>
      have derived : Derives inner text.toList := isText
      rw [Option.bind_some]
      generalize characters : text.toList = read at derived
      cases derived with
      | @type word inside _ nullable isWord derivedArguments =>
          cases nullable with
          | true =>
              change Unreadable (text ++ "?").toList
              rw [String.toList_append, characters]
              exact unreadable_between marks_unreadable ⟨word ++ inside, [], by simp [markOf]⟩
          | false =>
              change Derives ⟨_, _, true⟩ (text ++ "?").toList
              rw [String.toList_append, characters]
              simpa [markOf] using Derives.type word true isWord derivedArguments

theorem types_expressions_length (arguments : List GenericArgument) (types : List TypeExpr)
    (read : typesExpressions arguments = some types) : types.length = arguments.length := by
  induction arguments generalizing types with
  | nil =>
      cases read
      rfl
  | cons first rest induction =>
      cases first with
      | type type =>
          rw [typesExpressions] at read
          split at read
          · rename_i first others _ restRead
            cases read
            rw [List.length_cons, List.length_cons, induction others restRead]
          · cases read
      | _ => cases read

theorem untyped_no_expressions (arguments : List GenericArgument)
    (untyped : argumentTexts arguments = none) : typesExpressions arguments = none := by
  induction arguments with
  | nil => cases untyped
  | cons first rest induction =>
      cases first with
      | type type =>
          rw [argumentTexts, Option.map_eq_none_iff] at untyped
          rw [typesExpressions, induction untyped]
          simp
      | _ => rfl

theorem unreadable_text {expression : Option TypeExpr} {text : String} (noType : expression = none)
    (unreadable : Unreadable text.toList) : IsTextOf expression text := by
  rw [noType]
  exact unreadable

theorem other_text (type : WrittenType) (other : type.IsOther) (wellFormed : type.IsWellFormed) :
    IsTextOf type.expression type.fieldText := by
  have noType : type.expression = none := by
    cases type <;> first | rfl | cases other
  have written : type.fieldText = Token.render type.tokens := by
    cases type <;> first | rfl | cases other
  rw [written]
  exact unreadable_text noType (other_unreadable type other wellFormed)

/-- The text of a path that is no optional type. -/
theorem plain_path_text (name : String) (arguments : PathArguments)
    (noOption : optionalText [.mk name arguments] = none) :
    (WrittenType.path false [.mk name arguments]).fieldText =
      match argumentsText arguments with
      | some inside => name ++ inside
      | none => Token.render (WrittenType.path false [.mk name arguments]).tokens := by
  rw [WrittenType.fieldText, if_neg Bool.false_ne_true, noOption]
  simp only [segmentTexts]
  cases argumentsText arguments with
  | none => rfl
  | some inside => simp

theorem single_text (inner : WrittenType)
    (areTexts : AreTextsOf (typesExpressions [.type inner]) [inner.fieldText]) :
    IsTextOf inner.expression inner.fieldText := by
  rw [typesExpressions, typesExpressions] at areTexts
  cases read : inner.expression with
  | none =>
      rw [read] at areTexts
      obtain ⟨text, member, unreadable⟩ := areTexts
      rw [List.mem_singleton.mp member] at unreadable
      exact unreadable
  | some expression =>
      rw [read] at areTexts
      cases areTexts with
      | cons first _ => exact first

/-- The text of an optional type, by the text of what is inside it. -/
theorem optional_path_text (turbofish trailing : Bool) (inner : WrittenType)
    (isText : IsTextOf inner.expression inner.fieldText) :
    IsTextOf
      (WrittenType.path false [.mk optionalName (.angled turbofish [.type inner] trailing)]).expression
      (WrittenType.path false [.mk optionalName (.angled turbofish [.type inner] trailing)]).fieldText := by
  have written : (WrittenType.path false
      [.mk optionalName (.angled turbofish [.type inner] trailing)]).fieldText =
        inner.fieldText ++ "?" := by
    simp [WrittenType.fieldText, optionalText, singleText]
  have read : (WrittenType.path false
      [.mk optionalName (.angled turbofish [.type inner] trailing)]).expression =
        inner.expression.bind fun inner =>
          if inner.nullable then none else some (inner.withNullable true) := by
    rw [WrittenType.expression, argumentsExpressions, typesExpressions, typesExpressions]
    cases inner.expression <;> rfl
  rw [written, read]
  exact optional_text inner.expression inner.fieldText isText

/-- The text of a path with arguments in angle brackets that is no optional type. -/
theorem angled_path_text (name : String) (isName : IsName name) (turbofish trailing : Bool)
    (arguments : List GenericArgument)
    (noOption : ¬ (name = optionalName ∧ ∃ inner, arguments = [.type inner]))
    (areTexts : ∀ texts, argumentTexts arguments = some texts →
      AreTextsOf (typesExpressions arguments) texts) :
    IsTextOf (WrittenType.path false [.mk name (.angled turbofish arguments trailing)]).expression
      (WrittenType.path false [.mk name (.angled turbofish arguments trailing)]).fieldText := by
  have noMark : optionalText [.mk name (.angled turbofish arguments trailing)] = none := by
    rw [optionalText]
    split
    · rename_i isOption
      rw [singleText]
      intro _ inner _ single
      cases single
      exact noOption ⟨isOption, inner, rfl⟩
    · rfl
  rw [plain_path_text name _ noMark, WrittenType.expression, argumentsExpressions, argumentsText]
  cases written : argumentTexts arguments with
  | none =>
      rw [untyped_no_expressions arguments written]
      exact untyped_arguments_unreadable name isName _ (by rw [argumentsText, written]; rfl)
  | some texts =>
      have areTexts := areTexts texts written
      cases read : typesExpressions arguments with
      | none =>
          rw [read] at areTexts
          obtain ⟨text, member, unreadable⟩ := areTexts
          apply unreadable_text rfl
          rw [Option.map_some, String.toList_append]
          exact unreadable_append_right
            (unreadable_between unreadable (text_in_brackets text texts member)) _
      | some types =>
          rw [read] at areTexts
          cases types with
          | nil =>
              cases areTexts
              apply unreadable_text rfl
              rw [Option.map_some, String.toList_append]
              exact unreadable_append_right brackets_unreadable _
          | cons first rest =>
              apply named_text name isName (first :: rest) _ (bracketed_texts first rest texts areTexts)
              rintro ⟨isOption, single⟩
              rw [types_expressions_length arguments _ read, List.length_eq_one_iff] at single
              obtain ⟨argument, rfl⟩ := single
              cases argument with
              | type inner => exact noOption ⟨isOption, inner, rfl⟩
              | _ => cases read

mutual

/-- A type that is written as a type expression has a text of it, and another has a text that is
part of none. -/
theorem field_text_of_expression (type : WrittenType) (wellFormed : type.IsWellFormed) :
    IsTextOf type.expression type.fieldText := by
  match type with
  | .parenthesized inner =>
      rw [WrittenType.expression, WrittenType.fieldText]
      exact field_text_of_expression inner wellFormed
  | .grouped inner =>
      rw [WrittenType.expression, WrittenType.fieldText]
      exact field_text_of_expression inner wellFormed
  | .inferred => exact Derives.type ['_'] false (by decide) .absent
  | .path true segments => exact unreadable_text rfl (leading_path_unreadable segments)
  | .path false [] => exact absurd rfl wellFormed.1
  | .path false (first :: second :: rest) =>
      exact unreadable_text (by simp [WrittenType.expression])
        (several_names_unreadable first second rest)
  | .path false [.mk name .absent] =>
      have isName : IsName name := wellFormed.2.1
      have noOption : optionalText [.mk name .absent] = none := by
        simp [optionalText, singleText]
      rw [plain_path_text name .absent noOption]
      exact named_text name isName [] "" .absent (by simp)
  | .path false [.mk name (.called inputs trailing output)] =>
      have isName : IsName name := wellFormed.2.1
      have noOption : optionalText [.mk name (.called inputs trailing output)] = none := by
        simp [optionalText, singleText]
      rw [plain_path_text name _ noOption]
      exact unreadable_text rfl (untyped_arguments_unreadable name isName _ rfl)
  | .path false [.mk name (.angled turbofish arguments trailing)] =>
      have areTexts := argument_texts_of_expressions arguments wellFormed.2.2.1
      by_cases isOption : name = optionalName ∧ ∃ inner, arguments = [.type inner]
      · obtain ⟨rfl, inner, rfl⟩ := isOption
        exact optional_path_text turbofish trailing inner
          (single_text inner (areTexts [inner.fieldText] rfl))
      · exact angled_path_text name wellFormed.2.1 turbofish trailing arguments isOption areTexts
  | .projection .. | .tuple .. | .array .. | .slice .. | .reference .. | .pointer ..
  | .function .. | .traitObject .. | .someTrait .. | .invocation .. | .never | .verbatim .. =>
      exact other_text _ trivial wellFormed

theorem argument_texts_of_expressions (arguments : List GenericArgument)
    (wellFormed : ArgumentsWellFormed arguments) (texts : List String)
    (written : argumentTexts arguments = some texts) :
    AreTextsOf (typesExpressions arguments) texts := by
  match arguments with
  | [] =>
      cases written
      exact .nil
  | .type type :: rest =>
      rw [argumentTexts, Option.map_eq_some_iff] at written
      obtain ⟨others, restWritten, rfl⟩ := written
      have first := field_text_of_expression type wellFormed.1
      have areOthers := argument_texts_of_expressions rest wellFormed.2 others restWritten
      rw [typesExpressions]
      cases read : type.expression with
      | none =>
          rw [read] at first
          exact ⟨type.fieldText, by simp, first⟩
      | some expression =>
          rw [read] at first
          cases readRest : typesExpressions rest with
          | none =>
              rw [readRest] at areOthers
              obtain ⟨text, member, unreadable⟩ := areOthers
              exact ⟨text, by simp [member], unreadable⟩
          | some expressions =>
              rw [readRest] at areOthers
              exact .cons first areOthers
  | .lifetime _ :: _ | .constant _ :: _ | .binding .. :: _ | .constantBinding .. :: _
  | .constraint .. :: _ => cases written

end

end Recordsmith.Source
