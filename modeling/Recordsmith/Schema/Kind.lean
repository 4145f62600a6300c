import Recordsmith.Decimal.Layout
import Recordsmith.Text.Quoted

/-!
Kinds of values: texts, numbers of fixed width, and optional values, lists and mappings of them.
Real numbers are kept as their bits, and compare as numbers: not-a-number differs from itself and
the two zeros are equal. The entries of a mapping are sorted by key, each key once.
-/

namespace Recordsmith

/-- The kind of a value. -/
inductive ValueKind where
  | text
  | int32
  | word64
  | byte
  | real
  | optional (inner : ValueKind)
  | list (element : ValueKind)
  | mapping (element : ValueKind)
  deriving DecidableEq, Repr

/-- A real number by its bits. -/
structure RealBits where
  bits : UInt64
  deriving DecidableEq, Repr

/-- Whether the bits stand for no number. -/
def RealBits.isNotNumber (number : RealBits) : Bool :=
  decide (0x7FF0000000000000 < number.bits &&& 0x7FFFFFFFFFFFFFFF)

/-- Whether the bits stand for one of the zeros. -/
def RealBits.isZero (number : RealBits) : Bool := number.bits &&& 0x7FFFFFFFFFFFFFFF == 0

/-- Equality of numbers. -/
def RealBits.same (left right : RealBits) : Bool :=
  !left.isNotNumber && !right.isNotNumber &&
    (left.bits == right.bits || (left.isZero && right.isZero))

/-- Adds an entry to sorted entries, in place of one with the same key. -/
def insertEntry {Content : Type} (key : String) (content : Content) :
    List (String × Content) → List (String × Content)
  | [] => [(key, content)]
  | (other, kept) :: rest =>
      if key < other then (key, content) :: (other, kept) :: rest
      else if key = other then (key, content) :: rest
      else (other, kept) :: insertEntry key content rest

/-- Whether two lists agree element by element. -/
def agree {Element : Type} (same : Element → Element → Bool) : List Element → List Element → Bool
  | [], [] => true
  | left :: lefts, right :: rights => same left right && agree same lefts rights
  | _, _ => false

namespace ValueKind

/-- The values of a kind. -/
def Value : ValueKind → Type
  | .text => String
  | .int32 => Int32
  | .word64 => UInt64
  | .byte => UInt8
  | .real => RealBits
  | .optional inner => Option inner.Value
  | .list element => List element.Value
  | .mapping element => List (String × element.Value)

/-- Equality of values. -/
def same : (kind : ValueKind) → kind.Value → kind.Value → Bool
  | .text => fun (left right : String) => left == right
  | .int32 => fun (left right : Int32) => left == right
  | .word64 => fun (left right : UInt64) => left == right
  | .byte => fun (left right : UInt8) => left == right
  | .real => RealBits.same
  | .optional inner => fun
      | some left, some right => inner.same left right
      | none, none => true
      | _, _ => false
  | .list element => agree element.same
  | .mapping element => agree fun left right => left.1 == right.1 && element.same left.2 right.2

/-- The text that shows a value. -/
def inspect : (kind : ValueKind) → kind.Value → String
  | .text => fun (value : String) => Text.inspected value
  | .int32 => fun (value : Int32) => toString value.toInt
  | .word64 => fun (value : UInt64) => toString value.toNat
  | .byte => fun (value : UInt8) => toString value.toNat
  | .real => fun (value : RealBits) => Decimal.RealFormat.inspection.render value.bits
  | .optional inner => fun
      | some value => "Some(" ++ inner.inspect value ++ ")"
      | none => "None"
  | .list element => fun (values : List element.Value) =>
      "[" ++ String.intercalate ", " (values.map element.inspect) ++ "]"
  | .mapping element => fun (entries : List (String × element.Value)) =>
      "\x7b" ++ String.intercalate ", " (entries.map fun entry =>
        Text.inspected entry.1 ++ ": " ++ element.inspect entry.2) ++ "\x7d"

end ValueKind

end Recordsmith
