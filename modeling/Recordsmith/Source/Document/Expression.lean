import Recordsmith.Source.Document.Pattern
import Recordsmith.Source.Document.Standing

/-!
Documents of expressions. Arguments, elements and the members of a built value stand on lines of
their own only when they do not fit into one. A chain of members that is too long ends a line in
front of each point, unless the chain begins the line with a short name. Statements always end
their lines.
-/

namespace Recordsmith.Source

open Layout

/-- The width of the members of a built value that still stand on one line. -/
def constructLimit : Nat := 34

/-- The literals that fill the lines of an array. -/
def Tree.isSimpleLiteral : Tree → Bool
  | .node .literal [.leaf tokens] =>
      match tokens.getLast? with
      | some (.name _) => true
      | some (.literal text) =>
          (Literal.integerValue? text).isSome || text.startsWith "'" || text.startsWith "b'"
      | _ => false
  | _ => false

section

variable (parts : Documents)

/-! ## Bodies -/

/-- The documents of statements, one after another. -/
def statementsPieces : List Tree → List Piece
  | [] => []
  | [last] => parts.statement true last
  | first :: second :: rest => parts.statement false first ++ statementsPieces (second :: rest)

/-- The attributes and the statements of a body, on lines of their own. -/
def bodyLines (body : Tree) : List Piece :=
  let (attributes, statements) := body.splitBody
  notesPieces parts attributes ++ statementsPieces parts statements

/-- The document of a body that a line ends in front of and behind, if anything is in it. -/
def bodyPieces (body : Tree) : List Piece :=
  Piece.allBreaks step (Piece.outdentLast (Piece.lineEndInside :: bodyLines parts body)) ++
    [.text "\x7d"]

/-- The document of a body that may stand on one line with what is around it. -/
def smallBodyPieces (body : Tree) : List Piece :=
  let (attributes, statements) := body.splitBody
  let inside := match Tree.onlyValue? statements with
    | some value => Piece.someBreaks 0 (parts.expression true value) ++ [Piece.space]
    | none => statementsPieces parts statements
  if attributes.isEmpty && statements.isEmpty then [.text "\x7b\x7d"]
  else Piece.outdentLast (.text "\x7b" :: Piece.space :: notesPieces parts attributes ++ inside) ++
    [.text "\x7d"]

/-- The document of a condition, in front of the braces that it decides about. -/
def decidingPieces (condition : Tree) : List Piece :=
  Piece.allBreaks 0 (parts.expression false condition ++
    [if condition.bare.breaksBehind then Piece.space else .text " "])

/-! ## Operands -/

/-- The document of the arguments of a call. A single one that holds its lines together has no
lines of its own. -/
def callArgumentsPieces (arguments : List Tree) : List Piece :=
  parenthesizedPieces (match arguments with
    | [single] =>
        if single.isEnclosed then parts.expression false single
        else Piece.elementBox [parts.expression false single]
    | several => Piece.elementBox (several.map (parts.expression false)))

/-- The document of an index. -/
def indexPieces : Tree → List Piece
  | .group _ [index] => .text "[" :: parts.expression false index ++ [.text "]"]
  | tree => flatPieces tree.tokens

/-- The object of a chain, with the place in front of the point where the line may end. -/
def linkPieces (beginsLine : Bool) (object : Tree) : List Piece :=
  let document := parts.receiver beginsLine object
  let gap := if Piece.endsInPoint document then " " else ""
  document ++
    if beginsLine && object.isShortName then [] else [.break { Break.plain with goingOn := gap }]

/-- The call of a method; its arguments are moved by `shift`. -/
def methodPieces (shift : Int) (beginsLine : Bool) (object name : Tree)
    (arguments : PathArguments) (group : Tree) : List Piece :=
  linkPieces parts beginsLine object ++ .text "." :: name.tight :: parts.arguments true arguments ++
    Piece.allBreaks shift (callArgumentsPieces parts group.grouped)

/-- The document of an expression inside a chain. -/
def receiverPieces (beginsLine : Bool) : Tree → List Piece
  | .node .awaited [object, _, word] =>
      linkPieces parts beginsLine object ++ [.text ".", word.tight]
  | .node .member [object, _, name] =>
      linkPieces parts beginsLine object ++ [.text ".", name.tight]
  | .node .methodCall [object, _, name, .arguments arguments, group] =>
      methodPieces parts 0 beginsLine object name arguments group
  | .node .call [function, group] =>
      parts.receiver false function ++ callArgumentsPieces parts group.grouped
  | .node .index [object, group] => parts.receiver beginsLine object ++ indexPieces parts group
  | .node .question [object, _] => parts.receiver beginsLine object ++ [.text "?"]
  | tree => Piece.allBreaks (-step) (parts.expression false tree)

/-- The document of the elements of an array. -/
def arrayPieces (elements : List Tree) : List Piece :=
  let documents := elements.map (parts.expression false)
  if elements.isEmpty then [.text "[]"]
  else if elements.all fun element => element.bare.isSimpleLiteral then
    Piece.allBreaks step (Piece.outdentLast (.text "[" :: Piece.softBreak ::
      Piece.someBreaks 0 (List.intercalate [.text ",", Piece.space] documents) ++
      Piece.comma true) ++ [.text "]"])
  else .text "[" :: Piece.elementBox documents ++ [.text "]"]

/-- The document of the value of a member. -/
def fieldValuePieces (tree : Tree) : List Piece :=
  let (attributes, bare) := tree.splitAttributes
  notesPieces parts attributes ++ match bare with
    | .node .fieldValue [name, colon, value] =>
        name.tight :: colon.ifThere
          (.text ": " :: Piece.someBreaks 0 (parts.expression false value))
    | other => flatPieces other.tokens

/-- The document of the value that the members not named are taken from. -/
def basePieces : Tree → List Piece
  | .node .base [dots, value] => value.ifThere (dots.tight :: parts.expression false value)
  | _ => []

/-! ## Functions without a name -/

/-- An expression that is put between braces, or parentheses if it cannot be a statement, when it
does not fit into the line. -/
def heldPieces (beginsLine : Bool) (goingOn closing : String) (value : Tree) : List Piece :=
  let canBeStatement := value.bare.canBeStatement
  Piece.allBreaks step
    (.break { Break.plain with before := if canBeStatement then "\x7b" else "(" } ::
      parts.expression beginsLine value ++
      [.break { Break.plain with
        offset := -step
        before := if canBeStatement && value.takesSemicolon then ";" else ""
        after := if canBeStatement then "\x7d" else closing
        goingOn := goingOn }])

/-- The parameters of a function without a name, up to the bar that ends them. -/
def barredPieces (hasOutput : Bool) (parameters : List Tree) : List Piece :=
  let list := List.intercalate [.text ",", Piece.space] (parameters.map parts.pattern)
  let first := if parameters.isEmpty then [] else [Piece.softBreak]
  let last := if !hasOutput then [Piece.text "|", Piece.space]
    else if parameters.isEmpty then [] else Piece.comma true
  Piece.allBreaks step (Piece.outdentLast (.text "|" :: first ++ list ++ last) ++
    if hasOutput then [.text "|"] else [])

/-- The document of a function without a name. -/
def closurePieces (binder : Binder) (words : Tree) (parameters : List Tree)
    (output : Option WrittenType) (body : Tree) : List Piece :=
  Piece.someBreaks 0 (binderPieces parts binder ++ words.spaced ++
    barredPieces parts output.isSome parameters ++ match output with
      | some type =>
          .text " -> " :: parts.type type ++ .text " " :: Piece.noBreak ::
            parts.expression false body
      | none =>
          Piece.noBreak ::
            if body.standsAsBody then parts.expression false body
            else heldPieces parts false "" ")" body)

/-! ## Choices -/

/-- The document of the body of an arm. -/
def armBodyPieces (body : Tree) : List Piece :=
  let value := body.withoutBraces body.tokens.length
  match value, value.bare with
  | .node .tuple [.group _ [.node .list []]], _ => [.text "\x7b", Piece.noBreak, .text "\x7d"]
  | _, .node .block [label, .leaf [], inside] =>
      labelPieces label ++ .text "\x7b" :: Piece.noBreak :: bodyPieces parts inside
  | value, _ =>
      Piece.noBreak :: heldPieces parts true (if value.endsByItself then "" else ",") ")," value

/-- The document of an arm. -/
def armPieces (tree : Tree) : List Piece :=
  let (attributes, bare) := tree.splitAttributes
  notesPieces parts attributes ++ match bare with
    | .node .arm [pattern, _, guard, _, body, _] =>
        Piece.someBreaks 0 (parts.pattern pattern ++
          guard.ifThere (.text " if " :: parts.expression false guard) ++
          .text " => " :: armBodyPieces parts body)
    | other => flatPieces other.tokens

/-- The document of a choice. -/
def choicePieces (subject body : Tree) : List Piece :=
  let (attributes, arms) := body.splitBody
  Piece.someBreaks 0 (.text "match " :: decidingPieces parts subject ++
    .text "\x7b" :: Piece.noBreak :: Piece.allBreaks step (Piece.outdentLast
      (Piece.lineEndInside :: notesPieces parts attributes ++
        arms.flatMap fun arm => armPieces parts arm ++ [Piece.lineEnd])) ++ [.text "\x7d"])

/-- The word and the condition of a conditional. -/
def branchHead (condition : Tree) : List Piece :=
  .text "if " :: Piece.allBreaks (-step) (decidingPieces parts condition)

/-- The document of what stands behind `else`. -/
def alternativePieces : Tree → List Piece
  | .node .branch [_, condition, body, _, alternative] =>
      branchHead parts condition ++ smallBodyPieces parts body ++
        if alternative.isNothing then [] else .text " else " :: alternativePieces alternative
  | .node .block [_, _, body] => smallBodyPieces parts body
  | tree => flatPieces tree.tokens

/-- The document of a conditional. Without an alternative its statements end their lines. -/
def branchPieces (condition body alternative : Tree) : List Piece :=
  Piece.allBreaks step (branchHead parts condition ++
    if !alternative.isNothing then
      smallBodyPieces parts body ++ .text " else " :: alternativePieces parts alternative
    else if body.splitBody.2.isEmpty then [.text "\x7b\x7d"]
    else Piece.outdentLast (.text "\x7b" :: Piece.lineEnd :: bodyLines parts body) ++
      [.text "\x7d"])

/-! ## All expressions -/

/-- The document of two operands with what stands between them. -/
def operationPieces (left : Tree) (operator : String) (right : List Piece) : List Piece :=
  Piece.someBreaks step (Piece.someBreaks (-step) (parts.expression false left) ++
    Piece.space :: .text (operator ++ " ") :: right)

/-- The document of an expression of a form with its parts. -/
def expressionOfForm (beginsLine : Bool) : Form → List Tree → List Piece
  | .literal, [value] => [value.tight]
  | .path, [.type type] => expressionPathPieces parts type
  | .placeholder, _ => [.text "_"]
  | .invocation, trees => invocationPieces false (.node .invocation trees)
  | .construct, [.node .path [.type type], group] =>
      Piece.limited constructLimit step (Piece.outdentLast
        (Piece.someBreaks (-step) (expressionPathPieces parts type) ++
          .text " \x7b" :: Piece.spaceInside ::
            membersPieces (group.grouped.map (fieldValuePieces parts))
              (basePieces parts group.behindList))) ++ [.text "\x7d"]
  | .tuple, [group] =>
      parenthesizedPieces (match group.grouped.map (parts.expression false) with
        | [single] => Piece.singleBox single
        | elements => Piece.elementBox elements)
  | .parenthesized, [.group _ [inner]] => parenthesizedPieces (parts.expression false inner)
  | .array, [group] => arrayPieces parts group.grouped
  | .repeated, [.group _ [element, _, count]] =>
      .text "[" :: parts.expression false element ++ .text "; " ::
        parts.expression false count ++ [.text "]"]
  | .call, [function, group] =>
      parts.expression beginsLine function ++ callArgumentsPieces parts group.grouped
  | .methodCall, [object, _, name, .arguments arguments, group] =>
      let shift := if beginsLine && object.isShortName then -step else 0
      Piece.allBreaks step (methodPieces parts shift beginsLine object name arguments group)
  | .member, trees => Piece.allBreaks step (receiverPieces parts beginsLine (.node .member trees))
  | .awaited, trees =>
      Piece.allBreaks step (receiverPieces parts beginsLine (.node .awaited trees))
  | .index, [object, group] => parts.expression beginsLine object ++ indexPieces parts group
  | .question, [object, _] => parts.expression beginsLine object ++ [.text "?"]
  | .unary, [sign, operand] => sign.tight :: parts.expression false operand
  | .reference, [sign, change, operand] =>
      sign.tight :: change.spaced ++ parts.expression false operand
  | .address, [sign, raw, change, operand] =>
      sign.tight :: raw.spaced ++ change.spaced ++ parts.expression false operand
  | .binary, [left, .leaf operator, right] =>
      operationPieces parts left (tightText operator) (parts.expression false right)
  | .cast, [left, _, .type type] => operationPieces parts left "as" (parts.type type)
  | .assignment, [left, _, right] =>
      Piece.someBreaks 0 (parts.expression false left ++ .text " = " :: Piece.noBreak ::
        parts.expression false right)
  | .range, [start, dots, limit] =>
      let document := parts.expression false start
      document ++ (if Piece.endsInPoint document then [.text " "] else []) ++
        dots.tight :: parts.expression false limit
  | .letCondition, [_, pattern, _, value] =>
      Piece.someBreaks 0 (.text "let " :: Piece.someBreaks (-step) (parts.pattern pattern) ++
        .text " = " :: Piece.noBreak :: Piece.someBreaks 0 (parts.expression false value))
  | .branch, [_, condition, body, _, alternative] =>
      branchPieces parts condition body alternative
  | .whileLoop, [label, _, condition, body] =>
      labelPieces label ++ .text "while " :: decidingPieces parts condition ++
        .text "\x7b" :: Piece.noBreak :: bodyPieces parts body
  | .forLoop, [label, _, pattern, _, source, body] =>
      Piece.someBreaks 0 (labelPieces label ++ .text "for " :: parts.pattern pattern ++
        .text " in " :: Piece.noBreak :: decidingPieces parts source ++
        .text "\x7b" :: Piece.noBreak :: bodyPieces parts body)
  | .endlessLoop, [label, _, body] =>
      labelPieces label ++ .text "loop \x7b" :: bodyPieces parts body
  | .choice, [_, subject, body] => choicePieces parts subject body
  | .block, [label, words, body] =>
      labelPieces label ++ words.spaced ++ Piece.allBreaks step (smallBodyPieces parts body)
  | .closure, [.binder binder, words, _, .node .list parameters, _, arrow, output, body] =>
      closurePieces parts binder words (Tree.elementsOf parameters)
        (match output with
          | .type type => if arrow.isNothing then none else some type
          | _ => none) body
  | .breakOff, [word, label, value] =>
      word.tight :: label.ifThere [.text " ", label.tight] ++
        value.ifThere (.text " " :: parts.expression false value)
  | .goOn, [word, label] => word.tight :: label.ifThere [.text " ", label.tight]
  | .giveBack, [word, value] =>
      word.tight :: value.ifThere (.text " " :: parts.expression false value)
  | .handOver, [word, value] =>
      word.tight :: value.ifThere (.text " " :: parts.expression false value)
  | _, trees => flatPieces (treesTokens trees)

/-- The document of an expression. -/
def expressionPieces (beginsLine : Bool) (tree : Tree) : List Piece :=
  let (attributes, bare) := tree.splitAttributes
  let document := match bare with
    | .node form trees => expressionOfForm parts beginsLine form trees
    | .leaf [] => []
    | other => flatPieces other.tokens
  notesPieces parts attributes ++
    if !attributes.isEmpty && bare.is .range then parenthesizedPieces document else document

end

end Recordsmith.Source
