import Recordsmith.Wire.Value

/-!
Numbers on the wire. A number without a point and an exponent is whole, if it has no more bits
than a machine word; every other number is real. The digits of a real number are gathered for as
long as they fit into a word, digits beyond that only count for the place of the point, and the
gathered digits are moved to their place by one step with a power of ten, or by several below the
smallest one. A real number is therefore not always the one nearest to its text.
-/

namespace Recordsmith.Wire

/-- The text of a number in its parts. -/
structure NumberText where
  isNegative : Bool
  whole : List Char
  /-- The digits behind the point, if there is a point. -/
  fraction : Option (List Char)
  /-- The exponent, if there is one. -/
  exponent : Option Int

namespace NumberText

/-- The value of digits. -/
def digitsValue (digits : List Char) : Nat :=
  digits.foldl (fun value digit => value * 10 + (digit.toNat - '0'.toNat)) 0

/-- The exponent behind its mark. -/
def exponentValue : List Char → Int
  | '-' :: digits => -(digitsValue digits : Int)
  | '+' :: digits => digitsValue digits
  | digits => digitsValue digits

/-- Takes the text of a number apart. -/
def ofText (text : String) : NumberText :=
  let (isNegative, unsigned) := match text.toList with
    | '-' :: rest => (true, rest)
    | rest => (false, rest)
  let whole := unsigned.takeWhile Char.isDigit
  let (fraction, rest) := match unsigned.dropWhile Char.isDigit with
    | '.' :: rest => (some (rest.takeWhile Char.isDigit), rest.dropWhile Char.isDigit)
    | rest => (none, rest)
  ⟨isNegative, whole, fraction, match rest with
    | _ :: digits => some (exponentValue digits)
    | [] => none⟩

/-- Gathers digits for as long as their value fits into a word; gives the digits left over. -/
def gather (value : Nat) : List Char → Nat × List Char
  | [] => (value, [])
  | digit :: rest =>
      let next := value * 10 + (digit.toNat - '0'.toNat)
      if next < UInt64.size then gather next rest else (value, digit :: rest)

/-- The greatest power of ten that is moved by in one step. -/
def greatestPower : Nat := 308

/-- A power of ten. -/
def power (exponent : Nat) : Float := Float.ofScientific 1 false exponent

/-- Moves a number down by ten to the `exponent`. -/
def moveDown : Nat → Float → Nat → Float
  | 0, value, _ => value
  | fuel + 1, value, exponent =>
      if exponent ≤ greatestPower then value / power exponent
      else moveDown fuel (value / power greatestPower) (exponent - greatestPower)

/-- The gathered digits moved to their place. -/
def scaled (value : Nat) (exponent : Int) : Float :=
  let start := (UInt64.ofNat value).toFloat
  if 0 ≤ exponent then start * power exponent.toNat
  else if value = 0 then start
  else moveDown ((-exponent).toNat / greatestPower + 1) start (-exponent).toNat

/-- The number as a real one, by its size. -/
def size (number : NumberText) : Float :=
  let (value, beyond) := gather 0 number.whole
  let (value, places) := match number.fraction with
    | none => (value, 0)
    | some fraction =>
        let (gathered, ignored) := gather value fraction
        (gathered, fraction.length - ignored.length)
  scaled value ((beyond.length : Int) - places + number.exponent.getD 0)

/-- The value of a number. -/
def value (number : NumberText) : Value :=
  let whole := digitsValue number.whole
  let isWhole := number.fraction.isNone && number.exponent.isNone &&
    (if number.isNegative then whole != 0 && decide (whole ≤ UInt64.size / 2)
      else decide (whole < UInt64.size))
  if isWhole then .integer (if number.isNegative then -(whole : Int) else whole)
  else .real (if number.isNegative then -number.size else number.size).toBits

end NumberText

/-- The value that the text of a number stands for. -/
def Value.ofNumberText (text : String) : Value := (NumberText.ofText text).value

end Recordsmith.Wire
