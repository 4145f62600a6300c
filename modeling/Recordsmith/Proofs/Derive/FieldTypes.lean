import Recordsmith.Proofs.Derive.FieldTexts
import Recordsmith.Proofs.Outcome
import Recordsmith.Proofs.Token.NameReading
import Recordsmith.Proofs.TypeExpr.Reading
import Recordsmith.TypeExpr.Lowering

/-!
What becomes of a field type: the text that is written for it is read and lowered again. This goes
through exactly for the supported types, and the result is the type itself in its plain form.
-/

namespace Recordsmith

open Code (CodeType typesWritten applied)

namespace TypeExpr

theorem lower_named (name : String) (identifier : Identifier)
    (required : Identifier.require name = .ok identifier) (arguments : List TypeExpr)
    (lowered : List CodeType) (loweredAll : lowerAll arguments = .ok lowered) (nullable : Bool) :
    lower ⟨name, arguments, nullable⟩ =
      .ok (wrapNullable nullable (.named identifier lowered)) := by
  rw [lower, required]
  change (lowerAll arguments >>= _) = _
  rw [loweredAll]
  rfl

/-- What has to have been lowered before a type was. -/
theorem lower_ok {name : String} {arguments : List TypeExpr} {nullable : Bool} {code : CodeType}
    (lowered : lower ⟨name, arguments, nullable⟩ = .ok code) :
    ∃ identifier codes, Identifier.require name = .ok identifier ∧
      lowerAll arguments = .ok codes ∧ code = wrapNullable nullable (.named identifier codes) := by
  rw [lower] at lowered
  obtain ⟨identifier, required, lowered⟩ := bind_ok lowered
  obtain ⟨codes, loweredAll, lowered⟩ := bind_ok lowered
  cases lowered
  exact ⟨identifier, codes, required, loweredAll, rfl⟩

theorem lower_all_ok {first : TypeExpr} {rest : List TypeExpr} {codes : List CodeType}
    (lowered : lowerAll (first :: rest) = .ok codes) :
    ∃ code others, first.lower = .ok code ∧ lowerAll rest = .ok others ∧ codes = code :: others := by
  rw [lowerAll] at lowered
  obtain ⟨code, loweredFirst, lowered⟩ := bind_ok lowered
  obtain ⟨others, loweredRest, lowered⟩ := bind_ok lowered
  cases lowered
  exact ⟨code, others, loweredFirst, loweredRest, rfl⟩

theorem lower_all_cons {first : TypeExpr} {rest : List TypeExpr} {code : CodeType}
    {others : List CodeType} (loweredFirst : first.lower = .ok code)
    (loweredRest : lowerAll rest = .ok others) : lowerAll (first :: rest) = .ok (code :: others) := by
  rw [lowerAll, loweredFirst]
  change (lowerAll rest >>= _) = _
  rw [loweredRest]
  rfl

/-- A type is lowered as if it could not be missing, and then made optional. -/
theorem lower_nullable (type : TypeExpr) (required : type.nullable = false) (code : CodeType)
    (lowered : type.lower = .ok code) :
    (type.withNullable true).lower = .ok (.optional code) := by
  obtain ⟨name, arguments, nullable⟩ := type
  cases required
  obtain ⟨identifier, codes, required, loweredAll, rfl⟩ := lower_ok lowered
  exact lower_named name identifier required arguments codes loweredAll true

/-- What is optional was lowered as if it could not be missing. -/
theorem lower_of_nullable (type : TypeExpr) {code : CodeType}
    (lowered : (type.withNullable true).lower = .ok code) : ∃ inside, type.lower = .ok inside := by
  obtain ⟨name, arguments, nullable⟩ := type
  obtain ⟨identifier, codes, required, loweredAll, _⟩ := lower_ok lowered
  exact ⟨_, lower_named name identifier required arguments codes loweredAll nullable⟩

end TypeExpr

namespace Source

open TypeExpr

/-! ## Names -/

theorem plain_name_required {name : String} (isName : IsName name) (isPlain : IsPlainName name) :
    IsWord name.toList ∧ Identifier.require name = .ok ⟨name⟩ := by
  obtain ⟨ascii, notRaw, notReserved⟩ := isPlain
  have isWord := (name_word_iff isName).mpr ⟨ascii, notRaw⟩
  refine ⟨isWord, ?_⟩
  rw [Identifier.require, read_name isName, if_neg (by simpa using notReserved)]

theorem required_name_plain {name : String} (isName : IsName name)
    (allWord : name.toList.all Text.isWordCharacter = true) {identifier : Identifier}
    (required : Identifier.require name = .ok identifier) : IsPlainName name := by
  have isWord : IsWord name.toList := ⟨name_nonempty isName, List.all_eq_true.mp allWord⟩
  obtain ⟨ascii, notRaw⟩ := (name_word_iff isName).mp isWord
  refine ⟨ascii, notRaw, ?_⟩
  intro reserved
  rw [Identifier.require, read_name isName, if_pos (by simpa using reserved)] at required
  cases required

theorem named_expression_word (name : String) (isWord : IsWord name.toList) (types : List TypeExpr)
    (plain : ¬ (name = optionalName ∧ types.length = 1)) :
    namedExpression name types = some ⟨name, types, false⟩ := by
  rw [named_expression_plain name types plain, if_pos (List.all_eq_true.mpr isWord.2)]

theorem optional_name_plain : IsPlainName optionalName := by decide

/-! ## Optional types -/

theorem optional_plain (turbofish trailing : Bool) (inner : WrittenType) :
    (WrittenType.path false [.mk optionalName (.angled turbofish [.type inner] trailing)]).plain =
      applied (.plain true Code.optionPath) [inner.plain] := by
  simp [WrittenType.plain, optionalPlain, singlePlain, Code.optionPath]

theorem path_plain (name : String) (arguments : PathArguments)
    (noOption : ¬ (name = optionalName ∧
      ∃ turbofish inner trailing, arguments = .angled turbofish [.type inner] trailing)) :
    (WrittenType.path false [.mk name arguments]).plain =
      .path false [.mk name (argumentsPlain arguments)] := by
  have noMark : optionalPlain [.mk name arguments] = none := by
    rw [optionalPlain]
    split
    · rename_i isOption
      rw [singlePlain]
      intro turbofish inner trailing single
      exact noOption ⟨isOption, turbofish, inner, trailing, single⟩
    · rfl
  rw [WrittenType.plain, if_neg Bool.false_ne_true, noMark]
  rfl

theorem optional_expression (turbofish trailing : Bool) (inner : WrittenType) (type : TypeExpr)
    (read : inner.expression = some type) (required : type.nullable = false) :
    (WrittenType.path false
        [.mk optionalName (.angled turbofish [.type inner] trailing)]).expression =
      some (type.withNullable true) := by
  rw [WrittenType.expression, argumentsExpressions, typesExpressions, typesExpressions, read]
  simp [namedExpression, required]

theorem named_not_optional (name : String) (turbofish trailing : Bool)
    (arguments : List GenericArgument)
    (noOption : ¬ (name = optionalName ∧ ∃ inner, arguments = [.type inner])) :
    (WrittenType.path false [.mk name (.angled turbofish arguments trailing)]).isOptional =
      false := by
  rw [WrittenType.isOptional.eq_def]
  split
  · rename_i same
    cases same
  · rename_i same
    cases same
  · rename_i inner _ same
    cases same
    rw [beq_eq_false_iff_ne]
    intro isOption
    exact noOption ⟨isOption, inner, rfl⟩
  · rfl

theorem applied_name (name : String) (arguments : List WrittenType) (nonempty : arguments ≠ []) :
    applied (.plain false [name]) arguments =
      .path false [.mk name (.angled false (arguments.map GenericArgument.type) false)] := by
  rw [applied, if_neg (by simpa using nonempty)]
  rfl

theorem types_plain_length (arguments : List GenericArgument) :
    (typesPlain arguments).length = arguments.length := by
  induction arguments with
  | nil => rfl
  | cons first rest induction => cases first <;> simp [typesPlain, induction]

/-- A type with one argument that is a type is read from one with that argument alone. -/
theorem single_expression (name : String) (arguments : List GenericArgument)
    (types : List TypeExpr) (read : typesExpressions arguments = some types)
    (noOption : ¬ (name = optionalName ∧ ∃ inner, arguments = [.type inner])) :
    ¬ (name = optionalName ∧ types.length = 1) := by
  rintro ⟨isOption, single⟩
  rw [types_expressions_length arguments types read, List.length_eq_one_iff] at single
  obtain ⟨argument, rfl⟩ := single
  cases argument with
  | type inner => exact noOption ⟨isOption, inner, rfl⟩
  | _ => cases read

theorem angled_expression (name : String) (turbofish trailing : Bool)
    (arguments : List GenericArgument) (expression : TypeExpr)
    (read : (WrittenType.path false [.mk name (.angled turbofish arguments trailing)]).expression =
      some expression) :
    ∃ types, typesExpressions arguments = some types ∧ arguments ≠ [] ∧
      namedExpression name types = some expression := by
  rw [WrittenType.expression, argumentsExpressions] at read
  cases readAll : typesExpressions arguments with
  | none =>
      rw [readAll] at read
      cases read
  | some types =>
      rw [readAll] at read
      cases types with
      | nil => cases read
      | cons first rest =>
          refine ⟨first :: rest, rfl, ?_, read⟩
          rintro rfl
          cases readAll

theorem optional_read {turbofish trailing : Bool} {inner : WrittenType} {expression : TypeExpr}
    (read : (WrittenType.path false
      [.mk optionalName (.angled turbofish [.type inner] trailing)]).expression =
        some expression) :
    ∃ type, inner.expression = some type ∧ type.nullable = false ∧
      expression = type.withNullable true := by
  obtain ⟨types, readAll, _, read⟩ := angled_expression _ _ _ _ _ read
  rw [typesExpressions, typesExpressions] at readAll
  cases readInner : inner.expression with
  | none => simp [readInner] at readAll
  | some type =>
      simp only [readInner, Option.some.injEq] at readAll
      subst readAll
      cases nullable : type.nullable with
      | true => simp [namedExpression, nullable] at read
      | false =>
          refine ⟨type, rfl, nullable, ?_⟩
          simpa [namedExpression, nullable] using read.symm

theorem plain_named_expression {name : String} {types : List TypeExpr} {expression : TypeExpr}
    (plain : ¬ (name = optionalName ∧ types.length = 1))
    (read : namedExpression name types = some expression) :
    name.toList.all Text.isWordCharacter = true ∧ expression = ⟨name, types, false⟩ := by
  rw [named_expression_plain name types plain] at read
  split at read
  · rename_i allWord
    exact ⟨allWord, (Option.some.inj read).symm⟩
  · cases read

/-- The type expression is of a type that may be missing exactly when the type is optional. -/
theorem expression_nullable (type : WrittenType) (expression : TypeExpr)
    (read : type.expression = some expression) : expression.nullable = type.isOptional := by
  match type with
  | .parenthesized inner => exact expression_nullable inner expression read
  | .grouped inner => exact expression_nullable inner expression read
  | .inferred =>
      cases read
      rfl
  | .path true segments => cases read
  | .path false [] => cases read
  | .path false (first :: second :: rest) => simp [WrittenType.expression] at read
  | .path false [.mk name .absent] =>
      rw [(plain_named_expression (by simp) read).2]
      rfl
  | .path false [.mk name (.called inputs trailing output)] => cases read
  | .path false [.mk name (.angled turbofish arguments trailing)] =>
      by_cases isOption : name = optionalName ∧ ∃ inner, arguments = [.type inner]
      · obtain ⟨rfl, inner, rfl⟩ := isOption
        obtain ⟨type, _, _, rfl⟩ := optional_read read
        rfl
      · obtain ⟨types, readAll, _, readName⟩ := angled_expression _ _ _ _ _ read
        rw [named_not_optional name turbofish trailing arguments isOption,
          (plain_named_expression (single_expression name arguments types readAll isOption)
            readName).2]
  | .projection .. | .tuple .. | .array .. | .slice .. | .reference .. | .pointer ..
  | .function .. | .traitObject .. | .someTrait .. | .invocation .. | .never | .verbatim .. =>
      cases read

/-! ## Supported types -/

/-- Arguments are types that are lowered to their plain forms. -/
def AreLowered (arguments : List GenericArgument) : Prop :=
  ∃ types codes, typesExpressions arguments = some types ∧ lowerAll types = .ok codes ∧
    (typesWritten codes).map GenericArgument.type = typesPlain arguments

/-- A type is written as a type expression that is lowered to its plain form. -/
def WrittenType.IsLowered (type : WrittenType) : Prop :=
  ∃ expression code, type.expression = some expression ∧ expression.lower = .ok code ∧
    code.written = type.plain

theorem named_lowered (name : String) (isName : IsName name) (isPlain : IsPlainName name)
    (turbofish trailing : Bool) (arguments : List GenericArgument) (nonempty : arguments ≠ [])
    (areLowered : AreLowered arguments)
    (noOption : ¬ (name = optionalName ∧ ∃ inner, arguments = [.type inner])) :
    (WrittenType.path false [.mk name (.angled turbofish arguments trailing)]).IsLowered := by
  obtain ⟨types, codes, read, lowered, written⟩ := areLowered
  obtain ⟨isWord, required⟩ := plain_name_required isName isPlain
  refine ⟨⟨name, types, false⟩, .named ⟨name⟩ codes, ?_,
    lower_named name ⟨name⟩ required types codes lowered false, ?_⟩
  · rw [WrittenType.expression, argumentsExpressions, read]
    cases types with
    | nil =>
        have sameLength := types_expressions_length arguments [] read
        rw [List.length_nil, eq_comm, List.length_eq_zero_iff] at sameLength
        exact absurd sameLength nonempty
    | cons first rest =>
        exact named_expression_word name isWord _
          (single_expression name arguments _ read noOption)
  · have someWritten : typesWritten codes ≠ [] := by
      intro noneWritten
      rw [noneWritten, List.map_nil, eq_comm, ← List.length_eq_zero_iff, types_plain_length,
        List.length_eq_zero_iff] at written
      exact nonempty written
    rw [path_plain]
    · change applied (.plain false [name]) (typesWritten codes) = _
      rw [applied_name name _ someWritten, written, argumentsPlain]
    · rintro ⟨isOption, _, inner, _, single⟩
      exact noOption ⟨isOption, inner, (PathArguments.angled.inj single).2.1⟩

theorem optional_lowered (turbofish trailing : Bool) (inner : WrittenType)
    (areLowered : AreLowered [.type inner]) (single : inner.isOptional = false) :
    (WrittenType.path false
      [.mk optionalName (.angled turbofish [.type inner] trailing)]).IsLowered := by
  obtain ⟨types, codes, read, lowered, written⟩ := areLowered
  rw [typesExpressions, typesExpressions] at read
  cases readInner : inner.expression with
  | none => simp [readInner] at read
  | some type =>
      simp only [readInner, Option.some.injEq] at read
      subst read
      obtain ⟨code, others, loweredInner, _, rfl⟩ := lower_all_ok lowered
      have required : type.nullable = false := by
        rw [expression_nullable inner type readInner, single]
      have writtenInner : code.written = inner.plain := by
        simp only [typesWritten, typesPlain, List.map_cons, List.cons.injEq,
          GenericArgument.type.injEq] at written
        exact written.1
      refine ⟨type.withNullable true, .optional code,
        optional_expression turbofish trailing inner type readInner required,
        lower_nullable type required code loweredInner, ?_⟩
      rw [optional_plain, CodeType.written, writtenInner]

mutual

theorem supported_lowered (type : WrittenType) (wellFormed : type.IsWellFormed)
    (supported : type.Supported) : type.IsLowered := by
  match type with
  | .parenthesized inner =>
      rw [WrittenType.IsLowered, WrittenType.expression, WrittenType.plain]
      exact supported_lowered inner wellFormed supported
  | .grouped inner =>
      rw [WrittenType.IsLowered, WrittenType.expression, WrittenType.plain]
      exact supported_lowered inner wellFormed supported
  | .path leading [.mk name .absent] =>
      obtain ⟨rfl, isPlain, _, _⟩ := supported
      obtain ⟨isWord, required⟩ := plain_name_required wellFormed.2.1 isPlain
      refine ⟨⟨name, [], false⟩, .named ⟨name⟩ [],
        named_expression_word name isWord [] (by simp),
        lower_named name ⟨name⟩ required [] [] rfl false, ?_⟩
      rw [path_plain name .absent (by simp)]
      rfl
  | .path leading [.mk name (.called inputs trailing output)] => exact absurd supported.2.2.1 id
  | .path leading [.mk name (.angled turbofish arguments trailing)] =>
      obtain ⟨rfl, isPlain, ⟨nonempty, allSupported⟩, noDouble⟩ := supported
      have areLowered := supported_arguments_lowered arguments wellFormed.2.2.1 allSupported
      by_cases isOption : name = optionalName ∧ ∃ inner, arguments = [.type inner]
      · obtain ⟨rfl, inner, rfl⟩ := isOption
        exact optional_lowered turbofish trailing inner areLowered
          (by simpa [PathArguments.isSingleOptional] using noDouble)
      · exact named_lowered name wellFormed.2.1 isPlain turbofish trailing arguments nonempty
          areLowered isOption
  | .path leading [] => exact absurd rfl wellFormed.1
  | .path leading (first :: second :: rest) => simp [WrittenType.Supported] at supported
  | .projection .. | .tuple .. | .array .. | .slice .. | .reference .. | .pointer ..
  | .function .. | .traitObject .. | .someTrait .. | .invocation .. | .never | .inferred
  | .verbatim .. => cases supported

theorem supported_arguments_lowered (arguments : List GenericArgument)
    (wellFormed : ArgumentsWellFormed arguments) (supported : AllSupported arguments) :
    AreLowered arguments := by
  match arguments with
  | [] => exact ⟨[], [], rfl, rfl, rfl⟩
  | .type type :: rest =>
      obtain ⟨expression, code, read, lowered, written⟩ :=
        supported_lowered type wellFormed.1 supported.1
      obtain ⟨types, codes, readRest, loweredRest, writtenRest⟩ :=
        supported_arguments_lowered rest wellFormed.2 supported.2
      refine ⟨expression :: types, code :: codes, ?_, lower_all_cons lowered loweredRest, ?_⟩
      · rw [typesExpressions, read, readRest]
      · rw [typesWritten, typesPlain, List.map_cons, written, writtenRest]
  | .lifetime _ :: _ | .constant _ :: _ | .binding .. :: _ | .constantBinding .. :: _
  | .constraint .. :: _ => cases supported

end

mutual

theorem lowered_supported (type : WrittenType) (wellFormed : type.IsWellFormed)
    (expression : TypeExpr) (read : type.expression = some expression) (code : CodeType)
    (lowered : expression.lower = .ok code) : type.Supported := by
  match type with
  | .parenthesized inner => exact lowered_supported inner wellFormed expression read code lowered
  | .grouped inner => exact lowered_supported inner wellFormed expression read code lowered
  | .inferred =>
      cases read
      obtain ⟨identifier, _, required, _⟩ := lower_ok lowered
      have refused : Identifier.read? "_" = none := rfl
      rw [Identifier.require, refused] at required
      cases required
  | .path true segments => cases read
  | .path false [] => cases read
  | .path false (first :: second :: rest) => simp [WrittenType.expression] at read
  | .path false [.mk name .absent] =>
      obtain ⟨allWord, rfl⟩ := plain_named_expression (by simp) read
      obtain ⟨identifier, _, required, _⟩ := lower_ok lowered
      exact ⟨rfl, required_name_plain wellFormed.2.1 allWord required, trivial,
        by simp [PathArguments.isSingleOptional]⟩
  | .path false [.mk name (.called inputs trailing output)] => cases read
  | .path false [.mk name (.angled turbofish arguments trailing)] =>
      have supported := lowered_arguments_supported arguments wellFormed.2.2.1
      by_cases isOption : name = optionalName ∧ ∃ inner, arguments = [.type inner]
      · obtain ⟨rfl, inner, rfl⟩ := isOption
        obtain ⟨type, readInner, required, rfl⟩ := optional_read read
        obtain ⟨inside, loweredInner⟩ := lower_of_nullable type lowered
        refine ⟨rfl, optional_name_plain, ⟨by simp, ?_⟩, ?_⟩
        · apply supported [type] _ [inside] (lower_all_cons loweredInner rfl)
          rw [typesExpressions, typesExpressions, readInner]
        · rw [PathArguments.isSingleOptional, ← expression_nullable inner type readInner, required]
          simp
      · obtain ⟨types, readAll, nonempty, readName⟩ := angled_expression _ _ _ _ _ read
        obtain ⟨allWord, rfl⟩ := plain_named_expression
          (single_expression name arguments types readAll isOption) readName
        obtain ⟨identifier, codes, required, loweredAll, _⟩ := lower_ok lowered
        refine ⟨rfl, required_name_plain wellFormed.2.1 allWord required,
          ⟨nonempty, supported types readAll codes loweredAll⟩, ?_⟩
        rintro ⟨isOptionName, isSingle⟩
        unfold PathArguments.isSingleOptional at isSingle
        split at isSingle
        · rename_i inner _ single
          exact isOption ⟨isOptionName, inner, (PathArguments.angled.inj single).2.1⟩
        · cases isSingle
  | .projection .. | .tuple .. | .array .. | .slice .. | .reference .. | .pointer ..
  | .function .. | .traitObject .. | .someTrait .. | .invocation .. | .never | .verbatim .. =>
      cases read

theorem lowered_arguments_supported (arguments : List GenericArgument)
    (wellFormed : ArgumentsWellFormed arguments) (types : List TypeExpr)
    (read : typesExpressions arguments = some types) (codes : List CodeType)
    (lowered : lowerAll types = .ok codes) : AllSupported arguments := by
  match arguments with
  | [] => trivial
  | .type type :: rest =>
      rw [typesExpressions] at read
      split at read
      · rename_i first others readFirst readRest
        cases read
        obtain ⟨code, restCodes, loweredFirst, loweredRest, _⟩ := lower_all_ok lowered
        exact ⟨lowered_supported type wellFormed.1 first readFirst code loweredFirst,
          lowered_arguments_supported rest wellFormed.2 others readRest restCodes loweredRest⟩
      · cases read
  | .lifetime _ :: _ | .constant _ :: _ | .binding .. :: _ | .constantBinding .. :: _
  | .constraint .. :: _ => cases read

end

/-- What is read back from the text of a type is the type expression that it is written as. -/
theorem parse_field_text (type : WrittenType) (wellFormed : type.IsWellFormed)
    (expression : TypeExpr) :
    TypeExpr.parse type.fieldText = .ok expression ↔ type.expression = some expression := by
  have isText := field_text_of_expression type wellFormed
  rw [parse_ok_iff]
  cases read : type.expression with
  | none =>
      rw [read] at isText
      constructor
      · intro derived
        exact absurd derived (unreadable_not_derived isText)
      · intro impossible
        cases impossible
  | some found =>
      rw [read] at isText
      have parsed := (parse_ok_iff type.fieldText found).mpr isText
      constructor
      · intro derived
        rw [(parse_ok_iff type.fieldText expression).mpr derived] at parsed
        rw [Except.ok.inj parsed]
      · intro same
        rw [← Option.some.inj same]
        exact isText

end Source

end Recordsmith
