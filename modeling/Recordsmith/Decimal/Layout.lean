import Recordsmith.Decimal.Shortest

/-!
Two layouts of real numbers, both with the fewest digits that read back and always with a point
or an exponent. The two differ in the range that they write without an exponent, in the sign of
an exponent that is not negative, and in what stands for values that are no numbers.
-/

namespace Recordsmith.Decimal

/-- Digits around a point. -/
def Digits.positional (number : Digits) : List Char :=
  if number.digits.isEmpty then ['0', '.', '0']
  else if number.exponent ≤ 0 then
    ['0', '.'] ++ List.replicate (-number.exponent).toNat '0' ++ number.digits
  else
    let places := number.exponent.toNat
    if number.digits.length ≤ places then
      number.digits ++ List.replicate (places - number.digits.length) '0' ++ ['.', '0']
    else number.digits.take places ++ '.' :: number.digits.drop places

/-- One digit, a point and the others if there are any, and the exponent with its sign; a plus
sign is written only if `signed`. -/
def Digits.scientific (signed : Bool) (number : Digits) : List Char :=
  match number.digits with
  | [] => ['0', 'e', '0']
  | first :: others =>
      let power := number.exponent - 1
      first :: ((if others.isEmpty then [] else '.' :: others) ++
        'e' :: ((if signed && 0 ≤ power then ['+'] else []) ++ (toString power).toList))

/-- The sign in front of a number. -/
def signText (isNegative : Bool) : String := if isNegative then "-" else ""

/-- How real numbers are laid out. Numbers whose scientific exponent lies between `least` and
`greatest` are written without an exponent. -/
structure RealFormat where
  least : Int
  greatest : Int
  signedExponent : Bool

namespace RealFormat

/-- For inspection: positional from a ten-thousandth up to below ten to the sixteenth. -/
def inspection : RealFormat := ⟨-4, 15, false⟩

/-- For refusals of values: positional from a hundred-thousandth up to below ten to the
sixteenth, with a sign in front of every exponent. -/
def refusal : RealFormat := ⟨-5, 15, true⟩

/-- The text of a number, given by its bits. -/
def render (format : RealFormat) (bits : UInt64) : String :=
  match readBits bits with
  | .notANumber => "NaN"
  | .infinite isNegative => signText isNegative ++ "inf"
  | .finite isNegative magnitude =>
      let digits := magnitude.shortest
      let power := digits.exponent - 1
      let isPositional :=
        digits.digits.isEmpty || (format.least ≤ power && power ≤ format.greatest)
      signText isNegative ++ String.ofList
        (if isPositional then digits.positional else digits.scientific format.signedExponent)

end RealFormat

end Recordsmith.Decimal
