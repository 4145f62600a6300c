import Recordsmith.Source.Document.Type

/-!
Documents of patterns. A literal, a path or a range stands in a pattern as it does in an
expression.
-/

namespace Recordsmith.Source

open Layout

/-- The elements of a group that holds a list. -/
def Tree.grouped : Tree → List Tree
  | .group _ (.node .list parts :: _) => elementsOf parts
  | _ => []

/-- What stands behind the list in a group. -/
def Tree.behindList : Tree → Tree
  | .group _ [_, rest] => rest
  | _ => nothing

/-- Pieces in parentheses. -/
def parenthesizedPieces (inside : List Piece) : List Piece := .text "(" :: inside ++ [.text ")"]

/-- Members between the braces of a value or a pattern, with what stands for all others behind
them; nothing else in the braces if that is empty. -/
def membersPieces (members : List (List Piece)) (others : List Piece) : List Piece :=
  if others.isEmpty then
    match members.reverse with
    | [] => []
    | last :: before =>
        before.reverse.flatMap (· ++ Piece.commaOrSpace false) ++ last ++ Piece.commaOrSpace true
  else members.flatMap (· ++ Piece.commaOrSpace false) ++ others ++ [Piece.space]

/-- Whether a pattern is a literal or fits everything. -/
def Tree.isShortPattern (tree : Tree) : Bool := tree.bare.is .literal || tree.bare.is .placeholder

section

variable (parts : Documents)

/-- The document of a pattern for a member. -/
def fieldPatternPieces (tree : Tree) : List Piece :=
  let (attributes, bare) := tree.splitAttributes
  notesPieces parts attributes ++ match bare with
    | .node .fieldPattern [name, colon, pattern] =>
        colon.ifThere [name.tight, .text ": "] ++ parts.pattern pattern
    | other => flatPieces other.tokens

/-- The document of the sign for all other members. -/
def remainderPieces (tree : Tree) : List Piece :=
  let (attributes, bare) := tree.splitAttributes
  bare.ifThere (notesPieces parts attributes ++ [bare.tight])

/-- The document of a pattern of a form with its parts. -/
def patternOfForm : Form → List Tree → List Piece
  | .placeholder, _ => [.text "_"]
  | .remainder, _ => [.text ".."]
  | .binding, [reference, change, name, sign, inner] =>
      reference.spaced ++ change.spaced ++ name.tight ::
        sign.ifThere (.text " @ " :: parts.pattern inner)
  | .referencePattern, [_, change, inner] => .text "&" :: change.spaced ++ parts.pattern inner
  | .parenthesized, [.group _ [inner]] => parenthesizedPieces (parts.pattern inner)
  | .tuplePattern, [group] =>
      parenthesizedPieces (match group.grouped, group with
        | [single], .group _ [.node .list found] =>
            let comma := if Tree.endsInSeparator found then [Piece.text ","] else []
            Piece.allBreaks step (Piece.outdentLast
              (Piece.softBreak :: parts.pattern single ++ comma ++ [Piece.softBreak]))
        | elements, _ => Piece.elementBox (elements.map parts.pattern))
  | .slicePattern, [group] =>
      .text "[" :: Piece.commaList (group.grouped.map parts.pattern) ++ [.text "]"]
  | .tupleStructPattern, [path, group] =>
      parts.expression false path ++
        parenthesizedPieces (Piece.elementBox (group.grouped.map parts.pattern))
  | .structPattern, [path, group] =>
      Piece.allBreaks step (Piece.outdentLast
        (parts.expression false path ++ .text " \x7b" :: Piece.spaceInside ::
          membersPieces (group.grouped.map (fieldPatternPieces parts))
            (remainderPieces parts group.behindList))) ++ [.text "\x7d"]
  | .alternatives, [_, .node .list found] =>
      let cases := Tree.elementsOf found
      let body := List.intercalate [Piece.space, .text "| "] (cases.map parts.pattern)
      if cases.all Tree.isShortPattern then Piece.someBreaks 0 body else Piece.allBreaks 0 body
  | .typedPattern, [pattern, _, .type type] =>
      parts.pattern pattern ++ .text ": " :: parts.type type
  | form, trees => parts.expression false (.node form trees)

/-- The document of a pattern. -/
def patternPieces (tree : Tree) : List Piece :=
  let (attributes, bare) := tree.splitAttributes
  notesPieces parts attributes ++ match bare with
    | .node .verbatim trees => flatPieces (treesTokens trees)
    | .node form trees => patternOfForm parts form trees
    | other => flatPieces other.tokens

end

end Recordsmith.Source
