import Recordsmith.Layout.Printer
import Recordsmith.Source.Document.Item

/-!
Laying written code out. The documents of all pieces are put together here: each is made from the
documents one level of nesting further down. A level takes at least one token of every few, so the
number of tokens bounds the levels that there can be.
-/

namespace Recordsmith.Source

open Layout

/-- The documents of pieces that are nested at most `depth` levels deep. -/
def documents : Nat → Documents
  | 0 => {
      type := fun type => flatPieces type.tokens
      bound := fun bound => flatPieces (Tree.bounds [bound] false).tokens
      arguments := fun _ arguments => flatPieces arguments.tokens
      expression := fun _ tree => flatPieces tree.tokens
      receiver := fun _ tree => flatPieces tree.tokens
      pattern := fun tree => flatPieces tree.tokens
      statement := fun _ tree => flatPieces tree.tokens
      item := fun tree => flatPieces tree.tokens
      useTree := fun tree => flatPieces tree.tokens }
  | depth + 1 => {
      type := fun type => typePieces (documents depth) type
      bound := fun bound => boundPieces (documents depth) bound
      arguments := fun isExpression arguments =>
        argumentsPieces (documents depth) isExpression arguments
      expression := fun beginsLine tree => expressionPieces (documents depth) beginsLine tree
      receiver := fun beginsLine tree => receiverPieces (documents depth) beginsLine tree
      pattern := fun tree => patternPieces (documents depth) tree
      statement := fun isLast tree => statementPieces (documents depth) isLast tree
      item := fun tree => itemPieces (documents depth) tree
      useTree := fun tree => useTreePieces (documents depth) tree }

/-- The document of an item, whatever it holds. -/
def Tree.itemDocument (item : Tree) : List Piece :=
  (documents (8 * item.tokens.length + 16)).item item

/-- The text of items, laid out. -/
def layoutItems (items : List Tree) : String :=
  render (Piece.allBreaks 0 (items.flatMap Tree.itemDocument))

end Recordsmith.Source
