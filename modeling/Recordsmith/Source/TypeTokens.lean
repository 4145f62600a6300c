import Recordsmith.Source.WrittenType

/-!
The tokens of written types and of trees: what was read, with every operator written as its own
unit. Lifetimes come before all other arguments and parameters, and signs that nothing follows,
such as the colon in front of no bounds, are left out.
-/

namespace Recordsmith.Source

/-- Token lists with an operator between each two, and after the last if `trailing`. -/
def joinTokens (operator : List Token) (trailing : Bool) : List (List Token) → List Token
  | [] => []
  | [single] => if trailing then single ++ operator else single
  | first :: second :: rest => first ++ operator ++ joinTokens operator trailing (second :: rest)

/-- The two colons in front of a path, if they are written. -/
def leadingTokens (leading : Bool) : List Token := if leading then Token.operator "::" else []

/-- Bounds behind a colon; nothing for no bounds. -/
def boundTokens (trailing : Bool) (bounds : List (List Token)) : List Token :=
  if bounds.isEmpty then [] else .mark ':' false :: joinTokens [.mark '+' false] trailing bounds

/-- Arguments in angle brackets, each with its tokens and whether it is a lifetime: the
lifetimes first, and a comma kept with the argument it followed. -/
def angledTokens (arguments : List (Bool × List Token)) (trailing : Bool) : List Token :=
  let comma : List Token := [.mark ',' false]
  let count := arguments.length
  let marked := arguments.zipIdx.map fun ((isLifetime, tokens), index) =>
    (isLifetime, tokens, index + 1 < count || trailing)
  let write (state : List Token × Bool) (argument : Bool × List Token × Bool) : List Token × Bool :=
    (state.1 ++ (if state.2 then [] else comma) ++ argument.2.1 ++
      (if argument.2.2 then comma else []), argument.2.2)
  let ordered := marked.filter (·.1) ++ marked.filter (!·.1)
  Token.operator "<" ++ (ordered.foldl write ([], true)).1 ++ Token.operator ">"

mutual

/-- The tokens of a type. -/
def WrittenType.tokens : WrittenType → List Token
  | .path leading segments => leadingTokens leading ++ segmentsTokens segments
  | .projection subject leading trait segments =>
      Token.operator "<" ++ subject.tokens ++
        (if trait.isEmpty then []
          else .name "as" :: (leadingTokens leading ++ segmentsTokens trait)) ++
        Token.operator ">" ++ Token.operator "::" ++ segmentsTokens segments
  | .parenthesized inner => Token.group .parenthesis inner.tokens
  | .grouped inner => inner.tokens
  | .tuple elements trailing =>
      Token.group .parenthesis (joinTokens [.mark ',' false] trailing (typesTokens elements))
  | .array element length =>
      Token.group .bracket (element.tokens ++ .mark ';' false :: length.tokens)
  | .slice element => Token.group .bracket element.tokens
  | .reference lifetime isMutable target =>
      .mark '&' false :: ((match lifetime with
        | some name => Token.lifetime name
        | none => []) ++ (if isMutable then [.name "mut"] else []) ++ target.tokens)
  | .pointer isMutable target =>
      .mark '*' false :: .name (if isMutable then "mut" else "const") :: target.tokens
  | .function binder words parameters trailing rest output =>
      binder.tokens ++ words ++ .name "fn" :: Token.group .parenthesis
        (joinTokens [.mark ',' false] trailing (parametersTokens parameters) ++ rest.tokens) ++
        outputTokens output
  | .traitObject isDynamic bounds trailing =>
      (if isDynamic then [.name "dyn"] else []) ++
        joinTokens [.mark '+' false] trailing (boundsTokens bounds)
  | .someTrait bounds trailing =>
      .name "impl" :: joinTokens [.mark '+' false] trailing (boundsTokens bounds)
  | .invocation leading segments delimiter body =>
      leadingTokens leading ++ segmentsTokens segments ++ .mark '!' false ::
        Token.group delimiter body
  | .never => [.mark '!' false]
  | .inferred => [.name "_"]
  | .verbatim tokens => tokens

/-- The tokens of each type. -/
def typesTokens : List WrittenType → List (List Token)
  | [] => []
  | type :: rest => type.tokens :: typesTokens rest

/-- The tokens of each parameter of a function type. -/
def parametersTokens : List Parameter → List (List Token)
  | [] => []
  | .mk attributes name type :: rest =>
      (treesTokens attributes ++ (match name with
        | some name => [.name name, .mark ':' false]
        | none => []) ++ type.tokens) :: parametersTokens rest

/-- The arrow and the type after it. -/
def outputTokens : Option WrittenType → List Token
  | none => []
  | some type => Token.operator "->" ++ type.tokens

/-- The equals sign and the type after it. -/
def standardTypeTokens : Option WrittenType → List Token
  | none => []
  | some type => .mark '=' false :: type.tokens

/-- The equals sign and the value after it. -/
def standardValueTokens : Option Tree → List Token
  | none => []
  | some value => .mark '=' false :: value.tokens

/-- The segments of a path, with two colons between each two. -/
def segmentsTokens : List PathSegment → List Token
  | [] => []
  | [.mk name arguments] => .name name :: arguments.tokens
  | .mk name arguments :: next :: rest =>
      .name name :: (arguments.tokens ++ Token.operator "::" ++ segmentsTokens (next :: rest))

/-- The tokens of the arguments after a name. -/
def PathArguments.tokens : PathArguments → List Token
  | .absent => []
  | .angled turbofish arguments trailing =>
      leadingTokens turbofish ++ angledTokens (argumentsTokens arguments) trailing
  | .called inputs trailing output =>
      Token.group .parenthesis (joinTokens [.mark ',' false] trailing (typesTokens inputs)) ++
        outputTokens output

/-- The tokens of each argument, and whether it is a lifetime. -/
def argumentsTokens : List GenericArgument → List (Bool × List Token)
  | [] => []
  | argument :: rest =>
      (match argument with
        | .lifetime name => (true, Token.lifetime name)
        | .type type => (false, type.tokens)
        | .constant value => (false, value.tokens)
        | .binding name generics type =>
            (false, .name name :: (generics.tokens ++ .mark '=' false :: type.tokens))
        | .constantBinding name generics value =>
            (false, .name name :: (generics.tokens ++ .mark '=' false :: value.tokens))
        | .constraint name generics bounds trailing =>
            (false, .name name :: (generics.tokens ++ .mark ':' false ::
              joinTokens [.mark '+' false] trailing (boundsTokens bounds)))) ::
        argumentsTokens rest

/-- The tokens of each bound. -/
def boundsTokens : List Bound → List (List Token)
  | [] => []
  | bound :: rest =>
      (match bound with
        | .lifetime name => Token.lifetime name
        | .trait isParenthesized binder isMaybe leading segments =>
            let inner := binder.tokens ++ (if isMaybe then [.mark '?' false] else []) ++
              leadingTokens leading ++ segmentsTokens segments
            if isParenthesized then Token.group .parenthesis inner else inner
        | .capture names trailing =>
            .name "use" :: angledTokens (names.map fun (isLifetime, name) =>
              (isLifetime, if isLifetime then Token.lifetime name else [.name name])) trailing
        | .verbatim tokens => tokens) :: boundsTokens rest

/-- The tokens of a binder. -/
def Binder.tokens : Binder → List Token
  | .absent => []
  | .given parameters trailing =>
      .name "for" :: (Token.operator "<" ++
        joinTokens [.mark ',' false] trailing ((genericsTokens parameters).map (·.2)) ++
        Token.operator ">")

/-- The tokens of each generic parameter, and whether it is a lifetime. -/
def genericsTokens : List GenericParameter → List (Bool × List Token)
  | [] => []
  | parameter :: rest =>
      (match parameter with
        | .lifetime attributes name bounds trailing =>
            (true, treesTokens attributes ++ Token.lifetime name ++
              boundTokens trailing (bounds.map Token.lifetime))
        | .type attributes name bounds trailing standard =>
            (false, treesTokens attributes ++ .name name ::
              (boundTokens trailing (boundsTokens bounds) ++ standardTypeTokens standard))
        | .constant attributes name type standard =>
            (false, treesTokens attributes ++ [.name "const", .name name, .mark ':' false] ++
              type.tokens ++ standardValueTokens standard)) :: genericsTokens rest

/-- The tokens of a piece of code. -/
def Tree.tokens : Tree → List Token
  | .leaf tokens => tokens
  | .type type => type.tokens
  | .arguments arguments => arguments.tokens
  | .bounds bounds trailing => joinTokens [.mark '+' false] trailing (boundsTokens bounds)
  | .generics parameters trailing =>
      if parameters.isEmpty then [] else angledTokens (genericsTokens parameters) trailing
  | .binder binder => binder.tokens
  | .group delimiter inner => Token.group delimiter (treesTokens inner)
  | .node .attributed parts => attributedTokens parts
  | .node _ parts => treesTokens parts

/-- The tokens of attributes and the piece behind them. A range stands in parentheses there. -/
def attributedTokens : List Tree → List Token
  | [] => []
  | [.node .range limits] => Token.group .parenthesis (treesTokens limits)
  | tree :: rest => tree.tokens ++ attributedTokens rest

/-- The tokens of pieces of code, one after another. -/
def treesTokens : List Tree → List Token
  | [] => []
  | tree :: rest => tree.tokens ++ treesTokens rest

end

/-- The tokens of a path. -/
def WrittenPath.tokens (path : WrittenPath) : List Token :=
  leadingTokens path.leading ++ segmentsTokens path.segments

/-- Whether a piece of code ends with a group in braces. -/
def Tree.endsInBrace (tree : Tree) : Bool := tree.tokens.getLast? == some (.closing .brace)

end Recordsmith.Source
