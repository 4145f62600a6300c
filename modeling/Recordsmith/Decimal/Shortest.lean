/-!
The fewest decimal digits that read back as a given binary number. A finite number is a whole
number times a power of two; the decimals that round to it lie between the midpoints to its two
neighbours, ends included when the whole number is even. The grids of one digit, two digits and
so on are tried in turn at the two points next to the number, and of two hits on one grid the
nearer wins, the upper one on a tie. All arithmetic is exact.
-/

namespace Recordsmith.Decimal

/-- A finite number without its sign: `significand` times two to the `exponent`; `isEdge` says
that the neighbour below is only half as far away as the one above. -/
structure Magnitude where
  significand : Nat
  exponent : Int
  isEdge : Bool

/-- What 64 bits stand for. -/
inductive Reading where
  | notANumber
  | infinite (isNegative : Bool)
  | finite (isNegative : Bool) (magnitude : Magnitude)

/-- Reads the 64 bits of a binary number: a sign bit, 11 bits of exponent and 52 bits of
fraction. -/
def readBits (bits : UInt64) : Reading :=
  let isNegative : Bool := decide (bits.toNat / Nat.pow 2 63 = 1)
  let field : Nat := bits.toNat / Nat.pow 2 52 % Nat.pow 2 11
  let fraction : Nat := bits.toNat % Nat.pow 2 52
  if field == 2047 then
    if fraction == 0 then .infinite isNegative else .notANumber
  else if field == 0 then .finite isNegative ⟨fraction, -1074, false⟩
  else .finite isNegative
      ⟨fraction + Nat.pow 2 52, (field : Int) - 1075, fraction == 0 && 1 < field⟩

/-- Decimal digits after the point of `0.d₁d₂…`, times ten to the `exponent`. Zero has no
digits. -/
structure Digits where
  digits : List Char
  exponent : Int

/-- The least power of ten above a quotient below one, as the number of zeros behind the
point. -/
def leadingZeros (numerator denominator : Nat) : Nat → Nat
  | 0 => 0
  | fuel + 1 =>
      if denominator ≤ 10 * numerator then 0
      else leadingZeros (10 * numerator) denominator fuel + 1

/-- The exponent of the least power of ten above a positive quotient. -/
def decimalExponent (numerator denominator : Nat) : Int :=
  if denominator ≤ numerator then ((Nat.toDigits 10 (numerator / denominator)).length : Int)
  else -(leadingZeros numerator denominator 400 : Int)

/-- The number on the grid of `count` digits that reads back, if there is one. The number itself
and the two ends are numerators over `denominator`. -/
def gridPoint? (low value high denominator : Nat) (isClosed : Bool) (exponent : Int)
    (count : Nat) : Option Nat :=
  let step := exponent - (count : Int)
  let up := Nat.pow 10 step.toNat
  let down := Nat.pow 10 (-step).toNat
  let scaled (grid : Nat) := grid * up * denominator
  let fits (grid : Nat) : Bool :=
    if isClosed then low * down ≤ scaled grid && scaled grid ≤ high * down
    else low * down < scaled grid && scaled grid < high * down
  let below := value * down / (up * denominator)
  let above := below + 1
  if fits below && fits above then
    if value * down - scaled below < scaled above - value * down then some below else some above
  else if fits below then some below
  else if fits above then some above
  else none

/-- Tries the grids from `count` digits on. -/
def firstGrid (low value high denominator : Nat) (isClosed : Bool) (exponent : Int) :
    Nat → Nat → Nat × Nat
  | 0, count => (0, count)
  | fuel + 1, count =>
      match gridPoint? low value high denominator isClosed exponent count with
      | some grid => (grid, count)
      | none => firstGrid low value high denominator isClosed exponent fuel (count + 1)

/-- Drops the zeros at the end. -/
def trimZeros (digits : List Char) : List Char := (digits.reverse.dropWhile (· == '0')).reverse

/-- The fewest digits that read back as the number. -/
def Magnitude.shortest (number : Magnitude) : Digits :=
  if number.significand == 0 then ⟨[], 0⟩
  else
    let quarter := number.exponent - 2
    let up := Nat.pow 2 quarter.toNat
    let denominator := Nat.pow 2 (-quarter).toNat
    let value := 4 * number.significand * up
    let high := (4 * number.significand + 2) * up
    let low := (4 * number.significand - (if number.isEdge then 1 else 2)) * up
    let exponent := decimalExponent value denominator
    let (grid, count) :=
      firstGrid low value high denominator (number.significand % 2 == 0) exponent 20 1
    let written := Nat.toDigits 10 grid
    ⟨trimZeros written, exponent + ((written.length : Int) - (count : Int))⟩

end Recordsmith.Decimal
