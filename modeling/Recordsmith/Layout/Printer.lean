import Recordsmith.Layout.Document

/-!
Laying a document out. Lines are meant to be at most 89 bytes wide; a line that is moved far to
the right has room for at least 60 bytes all the same.
-/

namespace Recordsmith.Layout

/-- The width that lines are meant to keep to. -/
def margin : Int := 89

/-- The least room of a line. -/
def leastRoom : Int := 60

/-- How the box being written treats its breaks. -/
inductive Frame where
  | fits
  | broken (consistent : Bool)

/-- What is written so far, the last text first; the room left on the line, the indentation of
the box, and the spaces to write in front of the next text. -/
structure Page where
  written : List String
  room : Int
  indent : Int
  pending : Nat

namespace Page

/-- An empty page. -/
def empty : Page := ⟨[], margin, 0, 0⟩

/-- The spaces in front of the next text are written. -/
def settle (page : Page) : Page :=
  if page.pending = 0 then page
  else { page with
    written := String.ofList (List.replicate page.pending ' ') :: page.written, pending := 0 }

/-- A text is written. -/
def write (page : Page) (text : String) : Page :=
  let settled := page.settle
  { settled with written := text :: settled.written, room := settled.room - text.utf8ByteSize }

/-- The line goes on at a break. -/
def goOn (page : Page) (place : Break) : Page :=
  { page with
    written := if place.goingOn = "" then page.written else place.goingOn :: page.written
    pending := page.pending + place.blanks
    room := page.room - place.blanks - place.goingOn.utf8ByteSize }

/-- The line ends at a break. -/
def newLine (page : Page) (place : Break) : Page :=
  let ended := if place.before = "" then page
    else { page.settle with written := place.before :: page.settle.written }
  let indent := ended.indent + place.offset
  let next : Page := { ended with
    written := "\n" :: ended.written, pending := indent.toNat,
    room := max (margin - indent) leastRoom }
  if place.after = "" then next
  else { next.settle with
    written := place.after :: next.settle.written, room := next.room - place.after.utf8ByteSize }

/-- A break is written, with the width up to the next one. -/
def breakAt (page : Page) (frame : Frame) (place : Break) (size : Nat) : Page :=
  let staysOnLine := place.never || (match frame with
    | .fits => true
    | .broken true => false
    | .broken false => decide ((size : Int) ≤ page.room))
  if place.yields && decide (page.room < 0) then page
  else if staysOnLine then page.goOn place
  else page.newLine place

/-- The text of the page. -/
def text (page : Page) : String := String.join page.written.reverse

end Page

mutual

/-- Writes a piece; `beyond` is the width from its end to the next break. -/
def Piece.print (frame : Frame) (beyond : Nat) (page : Page) : Piece → Page
  | .text value => page.write value
  | .break place => page.breakAt frame place (place.blanks + beyond)
  | .mark => page
  | .strut _ => page
  | .box offset consistent body =>
      if page.room < (Piece.totalWidth body + beyond : Nat) then
        { printAll (.broken consistent) beyond { page with indent := page.indent + offset } body with
          indent := page.indent }
      else printAll .fits beyond page body

/-- Writes pieces one after another. -/
def printAll (frame : Frame) (beyond : Nat) (page : Page) : List Piece → Page
  | [] => page
  | piece :: rest =>
      printAll frame beyond (piece.print frame (Piece.reach beyond rest) page) rest

end

/-- The text of a document. -/
def render (pieces : List Piece) : String :=
  (printAll (.broken false) 0 Page.empty pieces).text

end Recordsmith.Layout
