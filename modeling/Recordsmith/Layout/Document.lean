/-!
Documents: text with places where a line may end. Pieces are put into boxes. A box that fits
into what is left of the line is written on it without breaks; one that does not fit moves its
later lines to the right by its offset, and ends lines either at all of its breaks or only at
those whose next piece would not fit.

Widths are counted in bytes.
-/

namespace Recordsmith.Layout

/-- A place where a line may end. If the line goes on, `blanks` spaces and `goingOn` are written.
If it ends, `before` ends it, the next line is moved by `offset` against its box, and begins with
`after`.
A break that is `never` taken still ends the measure of what is in front of it. One that is for
`inside` only vanishes at the end of a box, and one that `yields` vanishes on a line that is
already too wide. -/
structure Break where
  blanks : Nat
  offset : Int
  before : String
  after : String
  goingOn : String
  never : Bool
  inside : Bool
  yields : Bool

/-- A piece of a document. -/
inductive Piece where
  | text (value : String)
  | «break» (place : Break)
  /-- Ends the measure of what is in front of it, and writes nothing. -/
  | mark
  /-- Takes width, and writes nothing. -/
  | strut (width : Nat)
  | box (offset : Int) (consistent : Bool) (body : List Piece)

/-- Wider than any line. -/
def endless : Nat := 0xFFFF

/-- How far nested lines are moved to the right. -/
def step : Int := 4

/-- A break without blanks. -/
def Break.plain : Break := ⟨0, 0, "", "", "", false, false, false⟩

namespace Piece

/-- A break that writes nothing when the line goes on. -/
def softBreak : Piece := .break Break.plain

/-- A space that may end the line. -/
def space : Piece := .break { Break.plain with blanks := 1 }

/-- A space that may end the line and vanishes at the end of a box. -/
def spaceInside : Piece := .break { Break.plain with blanks := 1, inside := true }

/-- The end of a line. -/
def lineEnd : Piece := .break { Break.plain with blanks := endless }

/-- The end of a line that vanishes at the end of a box. -/
def lineEndInside : Piece := .break { Break.plain with blanks := endless, inside := true }

/-- No break, though it ends the measure of what is in front of it. -/
def noBreak : Piece := .break { Break.plain with never := true }

/-- A comma between list elements: behind the last one it is written only at the end of a
line. -/
def comma (isLast : Bool) : List Piece :=
  if isLast then [.break { Break.plain with before := "," }] else [.text ",", space]

/-- A comma between list elements; behind the last one it is written at the end of a line, and a
space if the line goes on. -/
def commaOrSpace (isLast : Bool) : List Piece :=
  if isLast then [.break { Break.plain with blanks := 1, before := "," }] else [.text ",", space]

/-- Elements with commas; the last comma is written only at the end of a line. -/
def commaList : List (List Piece) → List Piece
  | [] => []
  | [last] => last ++ comma true
  | first :: second :: rest => first ++ comma false ++ commaList (second :: rest)

/-- Moves the line after the last piece, if that piece is a break. -/
def outdentLast : List Piece → List Piece
  | [] => []
  | [.break place] => [.break { place with offset := place.offset - step }]
  | [piece] => [piece]
  | first :: second :: rest => first :: outdentLast (second :: rest)

/-- Replaces a break at the end that is only for the inside. -/
def dropInside : List Piece → List Piece
  | [] => []
  | [.break place] => if place.inside then [.mark] else [.break place]
  | [piece] => [piece]
  | first :: second :: rest => first :: dropInside (second :: rest)

/-- Makes a break at the end that is only for the inside yield. -/
def yieldInside : List Piece → List Piece
  | [] => []
  | [.break place] => [.break { place with yields := place.inside }]
  | [piece] => [piece]
  | first :: second :: rest => first :: yieldInside (second :: rest)

mutual

/-- The width of a piece on one line. -/
def width : Piece → Nat
  | .text value => value.utf8ByteSize
  | .break place => place.blanks
  | .mark => 0
  | .strut width => width
  | .box _ _ body => totalWidth body

/-- The width of pieces on one line. -/
def totalWidth : List Piece → Nat
  | [] => 0
  | piece :: rest => piece.width + totalWidth rest

end

/-- The width up to the next break outside of boxes; `beyond` is the width from the end of the
pieces to the next break after them. -/
def reach (beyond : Nat) : List Piece → Nat
  | [] => beyond
  | .break _ :: _ => 0
  | .mark :: _ => 0
  | piece :: rest => piece.width + reach beyond rest

/-- A box. One that holds a single break and nothing else vanishes with it. -/
def boxed (offset : Int) (consistent : Bool) (body : List Piece) : List Piece :=
  match body with
  | [.break _] => []
  | _ => [.box offset consistent (dropInside body)]

/-- A box that ends lines at all of its breaks. -/
def allBreaks (offset : Int) (body : List Piece) : List Piece := boxed offset true body

/-- A box that ends lines only where it has to. -/
def someBreaks (offset : Int) (body : List Piece) : List Piece := boxed offset false body

/-- A box that is broken when its body is wider than `limit`, at its end too. -/
def limited (limit : Nat) (offset : Int) (body : List Piece) : List Piece :=
  if limit < totalWidth body then allBreaks offset (yieldInside body ++ [.strut endless])
  else allBreaks offset body

/-- A box of elements with commas, moved to the right, that ends with the line in front of it. -/
def elementBox (elements : List (List Piece)) : List Piece :=
  allBreaks step (outdentLast (softBreak :: commaList elements))

/-- A box of a single element, with a comma that is always written. -/
def singleBox (element : List Piece) : List Piece :=
  allBreaks step (outdentLast (softBreak :: element ++ [.text ",", softBreak]))

/-- Pieces in braces, each ending its line, behind their head; the lines inside are moved to the
right. -/
def braced (head inside : List Piece) : List Piece :=
  allBreaks step (outdentLast (head ++ .text "\x7b" :: lineEndInside :: inside)) ++
    [.text "\x7d"]

mutual

/-- The last text of a piece. -/
def lastText? : Piece → Option String
  | .text value => some value
  | .break _ => none
  | .mark => none
  | .strut _ => none
  | .box _ _ body => lastTextOf? body

/-- The last text of pieces. -/
def lastTextOf? : List Piece → Option String
  | [] => none
  | piece :: rest => (lastTextOf? rest).or piece.lastText?

end

/-- Whether the last text of pieces ends with a point. -/
def endsInPoint (pieces : List Piece) : Bool :=
  match lastTextOf? pieces with
  | some last => last.toList.getLast? == some '.'
  | none => false

end Piece

end Recordsmith.Layout
