import Recordsmith.Source.Document.Expression

/-!
Documents of statements. Each ends its line. An expression that ends a block keeps its value, and a
semicolon is put behind one that has none.
-/

namespace Recordsmith.Source

open Layout

section

variable (parts : Documents)

/-- The document of an expression as a statement, with what is written behind it. -/
def standingPieces (expression : Tree) (ending : List Piece) : List Piece :=
  Piece.someBreaks 0 (parts.expression true expression ++ ending) ++ [Piece.lineEnd]

/-- The document of a declaration of local names, from its value on. -/
def localValuePieces (hasValue : Bool) (head : List Piece) (value alternative : Tree) :
    List Piece :=
  if !hasValue then Piece.someBreaks 0 head
  else
    let given := head ++ .text " = " :: Piece.noBreak :: parts.expression false value
    if alternative.isNothing then Piece.someBreaks 0 given
    else Piece.someBreaks 0 (given ++ [Piece.space, .text "else "]) ++
      Piece.noBreak :: Piece.allBreaks step (smallBodyPieces parts alternative)

/-- The document of a statement without attributes. -/
def statementOfForm (isLast : Bool) : Form → List Tree → List Piece
  | .letStatement, [_, pattern, sign, value, _, alternative, _] =>
      localValuePieces parts (!sign.isNothing) (.text "let " :: parts.pattern pattern) value
        alternative ++ [.text ";", Piece.lineEnd]
  | .expressionStatement, [expression, ending] =>
      if expression.isNothing then []
      else if ending.isNothing then
        standingPieces parts expression (if expression.takesSemicolon then [.text ";"] else [])
      else
        standingPieces parts expression
          (if expression.bare.dropsSemicolon then [] else [.text ";"])
  | .invocationStatement, [invocation, ending] =>
      invocationPieces (!ending.isNothing || !isLast) invocation ++ [Piece.lineEnd]
  | form, trees => parts.item (.node form trees)

/-- The document of a statement. -/
def statementPieces (isLast : Bool) (tree : Tree) : List Piece :=
  let (attributes, bare) := tree.splitAttributes
  notesPieces parts attributes ++ match bare with
    | .node form trees => statementOfForm parts isLast form trees
    | other => flatPieces other.tokens

end

end Recordsmith.Source
