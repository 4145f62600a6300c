import Recordsmith.Source.Document.Basic
import Recordsmith.Text.Split
import Recordsmith.Token.Literal

/-!
Documents of attributes. The attribute that documents a piece becomes a comment to the end of the
line, or one over several lines, if its text can stand in one. Other attributes are written in
brackets.
-/

namespace Recordsmith.Source

open Layout

/-! ## Comments -/

/-- Without the blanks at the end. -/
def withoutEndBlanks (line : List Char) : List Char :=
  (line.reverse.dropWhile (· == ' ')).reverse

/-- Without the blanks at the end of every line but the last. -/
def withoutInnerEndBlanks (text : List Char) : List Char :=
  match (Text.splitBy (· == '\n') text).reverse with
  | [] => []
  | last :: before =>
      List.intercalate ['\n'] ((before.reverse.map withoutEndBlanks) ++ [last])

/-- Whether comments that are opened inside a text are closed again, and none else is; `depth`
comments are open. -/
def isBalanced (depth : Nat) : List Char → Bool
  | '/' :: '*' :: rest => isBalanced (depth + 1) rest
  | '*' :: '/' :: rest =>
      match depth with
      | 0 => false
      | outer + 1 => isBalanced outer rest
  | _ :: rest => isBalanced depth rest
  | [] => depth == 0

/-- How a comment begins on one line and over several, and what its text may not begin with
there. -/
structure CommentStyle where
  line : String
  lineRefuses : List Char
  block : String
  blockRefuses : List Char

/-- The comments that document what follows them. -/
def CommentStyle.outer : CommentStyle := ⟨"///", ['/'], "/**", ['*', '/']⟩

/-- The comments that document what they stand in. -/
def CommentStyle.inner : CommentStyle := ⟨"//!", [], "/*!", []⟩

/-- The comments that document nothing. -/
def CommentStyle.plain : CommentStyle := ⟨"//", [], "/*", ['*', '!']⟩

/-- Whether a text begins with one of the characters. -/
def beginsWithOne (characters text : List Char) : Bool :=
  match text with
  | first :: _ => characters.contains first
  | [] => false

/-- A text as a comment of the style, if it can stand in one. -/
def commentPieces? (style : CommentStyle) (value : String) : Option (List Piece) :=
  let text := value.toList
  if !text.contains '\n' && !beginsWithOne style.lineRefuses text then
    some [.text style.line, .text (String.ofList (withoutEndBlanks text)), Piece.lineEnd]
  else if isBalanced 0 text && text.getLast? != some '/' &&
      !beginsWithOne style.blockRefuses text then
    some [.text style.block, .text (String.ofList (withoutInnerEndBlanks text)), .text "*/",
      Piece.lineEnd]
  else none

/-! ## Attributes -/

/-- What was written last between the brackets of an attribute. -/
inductive NoteTrail where
  | word
  | mark
  /-- A comma that is written only at the end of a line. -/
  | lastComma
  deriving DecidableEq, Repr

/-- The document of the tokens of an attribute; `outer` holds what is written in front of each
open parenthesis, and `written` what is written behind the last one. -/
def noteTokensPieces (outer : List (List Piece)) (written : List Piece) (trail : NoteTrail) :
    List Token → List Piece
  | [] => outer.reverse.flatten ++ written
  | .opening .parenthesis :: rest =>
      noteTokensPieces ((written ++ [.text "("]) :: outer) [Piece.softBreak] .mark rest
  | .closing .parenthesis :: rest =>
      let inside := if trail == .lastComma then written else written ++ [Piece.softBreak]
      noteTokensPieces outer.tail
        (outer.headD [] ++ Piece.allBreaks step (Piece.outdentLast inside) ++ [.text ")"])
        .mark rest
  | .mark ',' _ :: rest =>
      let isLast := endsAtOnce rest
      noteTokensPieces outer (written ++ Piece.comma isLast) (if isLast then .lastComma else .mark)
        rest
  | .mark '=' _ :: rest =>
      noteTokensPieces outer (written ++ [.text (if trail == .word then " = " else "= ")]) .mark rest
  | .name name :: rest =>
      let gap := if trail == .word then [Piece.space] else []
      noteTokensPieces outer (written ++ gap ++ [.text name]) .word rest
  | .literal text :: rest =>
      let gap := if trail == .word then [Piece.space] else []
      noteTokensPieces outer (written ++ gap ++ [.text text]) .word rest
  | token :: rest => noteTokensPieces outer (written ++ [.text token.text]) .mark rest

/-- The text that an attribute of the name sets. -/
def noteText? (name : String) : List Tree → Option String
  | [path, sign, .node .literal [.leaf [.literal text]]] =>
      if path.tokens == [.name name] && !sign.isNothing then
        (Literal.stringValue? text).map (·.1)
      else none
  | _ => none

section

variable (parts : Documents)

/-- The document of what stands between the brackets of an attribute. -/
def insidePieces : List Tree → List Piece
  | [path, sign, rest] =>
      path.tight :: if sign.isNothing then noteTokensPieces [] [] .word rest.tokens
        else .text " = " :: parts.expression false rest
  | trees => flatPieces (treesTokens trees)

/-- The document of an attribute. -/
def notePieces : Tree → List Piece
  | .node .note [sign, exclamation, .group .bracket inside] =>
      let documenting := if exclamation.isNothing then CommentStyle.outer else .inner
      let comment? := match noteText? "doc" inside with
        | some text => commentPieces? documenting text
        | none => (noteText? "comment" inside).bind (commentPieces? .plain)
      comment?.getD (sign.tight :: exclamation.tight :: .text "[" :: insidePieces parts inside ++
        [.text "]", Piece.space])
  | tree => flatPieces tree.tokens

/-- The documents of attributes, one after another. -/
def notesPieces (attributes : List Tree) : List Piece := attributes.flatMap (notePieces parts)

end

end Recordsmith.Source
