import Recordsmith.Layout.Document
import Recordsmith.Source.TypeTokens
import Recordsmith.Token.Render

/-!
Documents of written code. Pieces of code hold each other, so the document of every piece is made
from the documents of its parts, which are those of one level of nesting further down.
-/

namespace Recordsmith.Source

open Layout

/-- The documents of the parts of a piece. -/
structure Documents where
  /-- The document of a type. -/
  type : WrittenType → List Piece
  /-- The document of a bound. -/
  bound : Bound → List Piece
  /-- The document of the arguments after a name; the flag says whether the name stands in an
  expression. -/
  arguments : Bool → PathArguments → List Piece
  /-- The document of an expression; the flag says whether it stands at the beginning of a line. -/
  expression : Bool → Tree → List Piece
  /-- The document of an expression inside a chain, which a member, an index or arguments follow.
  The flag is the one of an expression. -/
  receiver : Bool → Tree → List Piece
  /-- The document of a pattern. -/
  pattern : Tree → List Piece
  /-- The document of a statement; the flag says whether it is the last one of its block. -/
  statement : Bool → Tree → List Piece
  /-- The document of an item. -/
  item : Tree → List Piece
  /-- The document of what a declaration with `use` names. -/
  useTree : Tree → List Piece

/-- Tokens on one line, as their token text. -/
def flatPieces (tokens : List Token) : List Piece := [.text (Token.render tokens)]

/-- Tokens with nothing between them. -/
def tightText (tokens : List Token) : String := String.join (tokens.map Token.text)

/-- The tokens of a piece with nothing between them. -/
def Tree.tight (tree : Tree) : Piece := .text (tightText tree.tokens)

/-- Whether the end of a group comes first. -/
def endsAtOnce : List Token → Bool
  | .closing _ :: _ => true
  | _ => false

/-- The words of a piece, each with a space behind it. -/
def Tree.spaced (tree : Tree) : List Piece :=
  tree.tokens.map fun token => .text (token.text ++ " ")

/-- What is written only if a piece of code is there. -/
def Tree.ifThere (tree : Tree) (pieces : List Piece) : List Piece :=
  if tree.isNothing then [] else pieces

/-- A label, in front of what it names. -/
def labelPieces (label : Tree) : List Piece := label.ifThere [label.tight, .text " "]

/-- A visibility with a space behind it. The word `in` is left out in front of a single word that
may stand alone. -/
def visibilityText : List Token → String
  | .name keyword :: .opening _ :: rest =>
      let path := rest.dropLast
      let path := if path.head? == some (.name "in") then path.tail else path
      let isWord := [["crate"], ["self"], ["super"]].any fun names => path == names.map Token.name
      keyword ++ (if isWord then "(" else "(in ") ++ tightText path ++ ") "
  | tokens => String.join (tokens.map fun token => token.text ++ " ")

/-- The document of a visibility. -/
def visibilityPieces (visibility : Tree) : List Piece :=
  visibility.ifThere [.text (visibilityText visibility.tokens)]

end Recordsmith.Source
