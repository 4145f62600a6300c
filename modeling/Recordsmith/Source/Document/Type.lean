import Recordsmith.Source.Document.Invocation
import Recordsmith.Source.Document.Note

/-!
Documents of types, of the paths and bounds in them, and of generic parameters. Arguments stand in
angle brackets, all on one line or each on a line of its own with a comma behind it. Lifetimes come
before all others, and brackets for no arguments are left out.
-/

namespace Recordsmith.Source

open Layout

/-- Elements in angle brackets, given with whether each is a lifetime; nothing for no elements. -/
def angledPieces (elements : List (Bool × List Piece)) : List Piece :=
  let ordered := elements.filter (·.1) ++ elements.filter (!·.1)
  if elements.isEmpty then []
  else .text "<" :: Piece.elementBox (ordered.map (·.2)) ++ [.text ">"]

/-- Elements with commas between them, on one line. -/
def inlineList (elements : List (List Piece)) : List Piece :=
  List.intercalate [.text ", "] elements

/-- The document of a lifetime. -/
def lifetimePieces (name : String) : List Piece := [.text ("'" ++ name)]

section

variable (parts : Documents)

/-! ## Bounds -/

/-- Bounds on one line. -/
def inlineBounds (bounds : List Bound) : List Piece :=
  List.intercalate [.text " + "] (bounds.map parts.bound)

/-- Bounds on lines that they fill; a plus sign begins the next line. -/
def filledBounds (bounds : List Bound) : List Piece :=
  List.intercalate [Piece.space, .text "+ "] (bounds.map parts.bound)

/-- Bounds behind a colon, on lines that they fill. -/
def colonBounds (bounds : List Bound) : List Piece :=
  if bounds.isEmpty then [] else .text ": " :: filledBounds parts bounds

/-! ## Generic parameters -/

/-- The document of a generic parameter, and whether it is a lifetime. -/
def parameterPieces : GenericParameter → Bool × List Piece
  | .lifetime attributes name bounds _ =>
      (true, notesPieces parts attributes ++ lifetimePieces name ++
        if bounds.isEmpty then []
        else .text ": " :: List.intercalate [.text " + "] (bounds.map lifetimePieces))
  | .type attributes name bounds _ standard =>
      (false, notesPieces parts attributes ++ .text name ::
        Piece.someBreaks step (colonBounds parts bounds ++ match standard with
          | some type => Piece.space :: .text "= " :: parts.type type
          | none => []))
  | .constant attributes name type standard =>
      (false, notesPieces parts attributes ++ .text ("const " ++ name ++ ": ") ::
        (parts.type type ++ match standard with
          | some value => .text " = " :: parts.expression false value
          | none => []))

/-- The document of a binder, with a space behind it. -/
def binderPieces : Binder → List Piece
  | .absent => []
  | .given parameters _ =>
      .text "for<" :: inlineList (parameters.map fun parameter => (parameterPieces parts parameter).2) ++
        [.text "> "]

/-- The document of the generic parameters of a declaration, behind its name. -/
def genericsPieces : Tree → List Piece
  | .generics parameters _ =>
      let documents := parameters.map (parameterPieces parts)
      let ordered := documents.filter (·.1) ++ documents.filter (!·.1)
      if parameters.isEmpty then []
      else .text "<" :: Piece.allBreaks 0 (Piece.outdentLast
        (Piece.softBreak :: Piece.commaList (ordered.map (·.2)))) ++ [.text ">"]
  | tree => flatPieces tree.tokens

/-! ## Paths -/

/-- The document of an arrow and the type behind it. -/
def outputPieces : Option WrittenType → List Piece
  | none => []
  | some type => .text " -> " :: parts.type type

/-- The document of an argument, and whether it is a lifetime. -/
def argumentPieces : GenericArgument → Bool × List Piece
  | .lifetime name => (true, lifetimePieces name)
  | .type type => (false, parts.type type)
  | .constant value => (false, parts.expression false value)
  | .binding name generics type =>
      (false, .text name :: parts.arguments false generics ++ .text " = " :: parts.type type)
  | .constantBinding name generics value =>
      (false, .text name :: parts.arguments false generics ++
        .text " = " :: parts.expression false value)
  | .constraint name generics bounds _ =>
      (false, .text name :: parts.arguments false generics ++
        Piece.someBreaks step (colonBounds parts bounds))

/-- The document of the arguments after a name. In an expression two colons come in front of
them. -/
def argumentsPieces (isExpression : Bool) : PathArguments → List Piece
  | .absent => []
  | .angled _ arguments _ =>
      (if isExpression && !arguments.isEmpty then [.text "::"] else []) ++
        angledPieces (arguments.map (argumentPieces parts))
  | .called inputs _ output =>
      Piece.allBreaks step (Piece.outdentLast (.text "(" :: Piece.softBreak ::
        Piece.commaList (inputs.map parts.type)) ++ .text ")" :: outputPieces parts output)

/-- The document of the names of a path; `leading` says whether two colons come in front of the
first one. -/
def segmentsPieces (isExpression leading : Bool) : List PathSegment → List Piece
  | [] => []
  | .mk name arguments :: rest =>
      (if leading then [.text "::"] else []) ++ .text name ::
        argumentsPieces parts isExpression arguments ++ segmentsPieces isExpression true rest

/-- The document of a path inside a type or one of its traits. -/
def projectionPieces (isExpression : Bool) (subject : WrittenType) (leading : Bool)
    (trait segments : List PathSegment) : List Piece :=
  .text "<" :: parts.type subject ++
    (if trait.isEmpty then [] else .text " as " :: segmentsPieces parts false leading trait) ++
    .text ">" :: segmentsPieces parts isExpression true segments

/-- The document of a type that is a path of an expression or a pattern. -/
def expressionPathPieces : WrittenType → List Piece
  | .path leading segments => segmentsPieces parts true leading segments
  | .projection subject leading trait segments =>
      projectionPieces parts true subject leading trait segments
  | type => flatPieces type.tokens

/-- The document of a bound. -/
def boundPieces : Bound → List Piece
  | .lifetime name => lifetimePieces name
  | .trait isParenthesized binder isMaybe leading segments =>
      let inside := (if isMaybe then [.text "?"] else []) ++ binderPieces parts binder ++
        segmentsPieces parts false leading segments
      if isParenthesized then .text "(" :: inside ++ [.text ")"] else inside
  | .capture names _ =>
      .text "use<" :: inlineList (names.map fun (isLifetime, name) =>
        if isLifetime then lifetimePieces name else [.text name]) ++ [.text ">"]
  | .verbatim tokens => flatPieces tokens

/-! ## Types -/

/-- The document of the rest of the parameters of a function, for any arguments. -/
def variadicPieces : Tree → List Piece
  | .node .variadic [name, _, _, _] =>
      name.ifThere (parts.pattern name ++ [.text ": "]) ++ [.text "..."]
  | tree => flatPieces tree.tokens

/-- Parameters in front of the rest of them, if there is one. -/
def withRest (rest : Tree) (parameters : List (List Piece)) : List Piece :=
  if rest.isNothing then Piece.commaList parameters
  else
    let (attributes, bare) := rest.splitAttributes
    parameters.flatMap (· ++ Piece.comma false) ++ notesPieces parts attributes ++
      variadicPieces parts bare ++ [Piece.softBreak]

/-- The document of a parameter of a function pointer. -/
def pointerParameterPieces : Parameter → List Piece
  | .mk attributes name type =>
      notesPieces parts attributes ++ (match name with
        | some name => [.text (name ++ ": ")]
        | none => []) ++ parts.type type

/-- The document of a type. -/
def typePieces : WrittenType → List Piece
  | .path leading segments => segmentsPieces parts false leading segments
  | .projection subject leading trait segments =>
      projectionPieces parts false subject leading trait segments
  | .parenthesized inner => .text "(" :: parts.type inner ++ [.text ")"]
  | .grouped inner => parts.type inner
  | .tuple [single] _ => .text "(" :: Piece.singleBox (parts.type single) ++ [.text ")"]
  | .tuple elements _ =>
      .text "(" :: Piece.elementBox (elements.map parts.type) ++ [.text ")"]
  | .array element length =>
      .text "[" :: parts.type element ++ .text "; " :: parts.expression false length ++ [.text "]"]
  | .slice element => .text "[" :: parts.type element ++ [.text "]"]
  | .reference lifetime isMutable target =>
      .text "&" :: (match lifetime with
        | some name => lifetimePieces name ++ [.text " "]
        | none => []) ++ (if isMutable then [.text "mut "] else []) ++ parts.type target
  | .pointer isMutable target =>
      .text (if isMutable then "*mut " else "*const ") :: parts.type target
  | .function binder words parameters _ rest output =>
      binderPieces parts binder ++ (Tree.leaf words).spaced ++ .text "fn(" ::
        Piece.allBreaks step (Piece.outdentLast
          (Piece.softBreak :: withRest parts rest (parameters.map (pointerParameterPieces parts)))) ++
        .text ")" :: outputPieces parts output
  | .traitObject _ bounds _ => .text "dyn " :: inlineBounds parts bounds
  | .someTrait bounds _ => .text "impl " :: inlineBounds parts bounds
  | .invocation leading segments delimiter body =>
      invocationPieces false (.node .invocation [.type (.path leading segments),
        Tree.operator "!", Tree.nothing, .group delimiter [.leaf body]])
  | .never => [.text "!"]
  | .inferred => [.text "_"]
  | .verbatim tokens => flatPieces tokens

/-! ## Conditions -/

/-- The document of a condition. -/
def conditionPieces : Tree → List Piece
  | .node .typeCondition [.binder binder, .type type, _, .bounds bounds _] =>
      let shift := if bounds.length == 1 then 0 else step
      binderPieces parts binder ++ parts.type type ++ .text ":" :: Piece.someBreaks shift
        (if bounds.isEmpty then [] else .text " " :: filledBounds parts bounds)
  | .node .lifetimeCondition [name, _, .bounds bounds _] =>
      name.tight :: .text ":" :: Piece.someBreaks step
        (if bounds.isEmpty then [] else .text " " :: filledBounds parts bounds)
  | tree => flatPieces tree.tokens

/-- Whether conditions stand on lines of their own, or on one line where they fit. -/
inductive ConditionLines where
  | own
  | shared
  deriving DecidableEq, Repr

/-- Conditions one after another; a semicolon comes behind the last one if `isEnded`. -/
def listedConditions (lines : ConditionLines) (isEnded : Bool) : List (List Piece) → List Piece
  | [] => []
  | [last] =>
      last ++ if isEnded then [.text ";"]
        else match lines with
          | .own => [.text ",", Piece.lineEnd]
          | .shared => Piece.commaOrSpace true
  | first :: second :: rest =>
      first ++ (match lines with
        | .own => [.text ",", Piece.lineEnd]
        | .shared => Piece.commaOrSpace false) ++ listedConditions lines isEnded (second :: rest)

/-- The document of conditions, with the space or the semicolon behind them that there is without
any. -/
def conditionsPieces (lines : ConditionLines) (isEnded : Bool) : Tree → List Piece
  | .node .conditions [_, .node .list found] =>
      let gap := match lines with
        | .own => Piece.lineEnd
        | .shared => Piece.space
      let documents := (Tree.elementsOf found).map (conditionPieces parts)
      let list := listedConditions lines isEnded documents
      Piece.outdentLast [gap] ++ .text "where" :: gap ::
        (if isEnded then list else Piece.outdentLast list)
  | _ => [.text (if isEnded then ";" else " ")]

end

end Recordsmith.Source
