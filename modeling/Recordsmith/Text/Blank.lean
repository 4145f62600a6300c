/-!
Blank characters, by the property White_Space, and trimming by them.
-/

namespace Recordsmith.Text

/-- Blank: the five ASCII controls from tab to carriage return, the space, and the blanks
above ASCII. -/
def isBlank (character : Char) : Bool :=
  let code := character.toNat
  if code < 0x80 then code == 0x20 || (0x09 ≤ code && code ≤ 0x0D)
  else code == 0x85 || code == 0xA0 || code == 0x1680 || (0x2000 ≤ code && code ≤ 0x200A)
    || code == 0x2028 || code == 0x2029 || code == 0x202F || code == 0x205F || code == 0x3000

/-- Drops the characters at the end of `text` that satisfy `drop`. -/
def dropEndWhile (drop : Char → Bool) (text : List Char) : List Char :=
  (text.reverse.dropWhile drop).reverse

/-- Drops the blanks at the end. -/
def trimEnd (text : List Char) : List Char := dropEndWhile isBlank text

/-- Holds no character but blanks. -/
def isAllBlank (text : String) : Bool := text.toList.all isBlank

end Recordsmith.Text
