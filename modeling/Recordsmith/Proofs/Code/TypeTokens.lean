import Recordsmith.Code.Type

/-!
The tokens of types in generated code. A name stands in front of its arguments, and these stand in
angle brackets with a comma between each two; an optional type begins with the path of its own.
-/

namespace Recordsmith

namespace Source

/-- Token lists one behind another, each after a comma. -/
def commaTokens : List (List Token) → List Token
  | [] => []
  | next :: rest => .mark ',' false :: (next ++ commaTokens rest)

/-- Arguments that are types, each with whether a comma follows it. -/
def followedTypes : List (List Token) → List (Bool × List Token × Bool)
  | [] => []
  | tokens :: rest => (false, tokens, !rest.isEmpty) :: followedTypes rest

theorem followed_types_eq (types : List (List Token)) (start count : Nat)
    (whole : start + types.length = count) :
    (((types.map fun tokens => (false, tokens)).zipIdx start).map
      fun ((isLifetime, tokens), index) => (isLifetime, tokens, index + 1 < count || false)) =
        followedTypes types := by
  induction types generalizing start with
  | nil => rfl
  | cons tokens rest induction =>
      have wholeRest : start + 1 + rest.length = count := by
        rw [← whole, List.length_cons]
        omega
      have follows : (decide (start + 1 < count) || false) = !rest.isEmpty := by
        cases rest <;> simp at wholeRest ⊢ <;> omega
      simp only [List.map_cons, List.zipIdx_cons, followedTypes]
      rw [follows]
      exact congrArg _ (induction (start + 1) wholeRest)

/-- None of the types is taken for a lifetime. -/
theorem followed_types_split (types : List (List Token)) :
    (followedTypes types).filter (·.1) = [] ∧
      (followedTypes types).filter (!·.1) = followedTypes types := by
  induction types with
  | nil => exact ⟨rfl, rfl⟩
  | cons tokens rest induction => exact ⟨induction.1, congrArg _ induction.2⟩

/-- One step of writing arguments: the next one, with the commas around it. -/
def writeArgument (state : List Token × Bool) (argument : Bool × List Token × Bool) :
    List Token × Bool :=
  (state.1 ++ (if state.2 then [] else [.mark ',' false]) ++ argument.2.1 ++
    (if argument.2.2 then [.mark ',' false] else []), argument.2.2)

theorem followed_types_written (before first : List Token) (rest : List (List Token)) :
    ((followedTypes (first :: rest)).foldl writeArgument (before, true)).1 =
      before ++ first ++ commaTokens rest := by
  induction rest generalizing before first with
  | nil => simp [followedTypes, writeArgument, commaTokens]
  | cons next rest induction =>
      rw [followedTypes, List.foldl_cons]
      change (List.foldl writeArgument (before ++ [] ++ first ++ [.mark ',' false], true) _).1 = _
      rw [induction]
      simp [commaTokens]

/-- Types in angle brackets have a comma between each two and none at the end. -/
theorem angled_types_tokens (first : List Token) (rest : List (List Token)) :
    angledTokens ((first :: rest).map fun tokens => (false, tokens)) false =
      .mark '<' false :: (first ++ commaTokens rest ++ [.mark '>' false]) := by
  have marked := followed_types_eq (first :: rest) 0 _ (Nat.zero_add _)
  obtain ⟨noLifetimes, allTypes⟩ := followed_types_split (first :: rest)
  unfold angledTokens
  simp only [List.length_map, marked, noLifetimes, allTypes, List.nil_append]
  change Token.operator "<" ++ ((followedTypes (first :: rest)).foldl writeArgument ([], true)).1 ++
    Token.operator ">" = _
  rw [followed_types_written]
  rfl

theorem type_arguments_tokens (types : List WrittenType) :
    argumentsTokens (types.map GenericArgument.type) =
      (types.map WrittenType.tokens).map fun tokens => (false, tokens) := by
  induction types with
  | nil => rfl
  | cons first rest induction =>
      rw [List.map_cons, argumentsTokens, induction]
      rfl

end Source

namespace Code

open Source (angledTokens argumentsTokens commaTokens GenericArgument WrittenType)

/-- The tokens in front of the type inside an optional one. -/
def optionStart : List Token :=
  Token.operator "::" ++ .name "core" :: (Token.operator "::" ++ .name "option" ::
    (Token.operator "::" ++ [.name "Option", .mark '<' false]))

namespace CodeType

theorem types_written_tokens (types : List CodeType) :
    (typesWritten types).map WrittenType.tokens = types.map tokens := by
  induction types with
  | nil => rfl
  | cons first rest induction =>
      rw [typesWritten, List.map_cons, List.map_cons, induction]
      rfl

theorem lone_tokens (name : Identifier) : (named name []).tokens = [.name name.text] := rfl

theorem named_tokens (name : Identifier) (first : CodeType) (rest : List CodeType) :
    (named name (first :: rest)).tokens = .name name.text :: .mark '<' false ::
      (first.tokens ++ commaTokens (rest.map tokens) ++ [.mark '>' false]) := by
  change .name name.text :: ([] ++ angledTokens (argumentsTokens
    ((typesWritten (first :: rest)).map GenericArgument.type)) false) = _
  rw [Source.type_arguments_tokens, types_written_tokens, List.map_cons,
    Source.angled_types_tokens, List.nil_append]

theorem optional_tokens (inner : CodeType) :
    (optional inner).tokens = optionStart ++ inner.tokens ++ [.mark '>' false] := by
  change optionStart.dropLast ++ ([] ++ angledTokens (argumentsTokens
    ((typesWritten [inner]).map GenericArgument.type)) false) = _
  rw [Source.type_arguments_tokens, types_written_tokens, List.map_singleton,
    Source.angled_types_tokens, commaTokens, List.append_nil]
  rfl

end CodeType

end Code

end Recordsmith
