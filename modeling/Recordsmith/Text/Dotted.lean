import Recordsmith.Text.Split

/-!
Dotted names: parts separated by full stops. Joining leaves empty parts out, and the segments
of a name are its non-empty parts; the last part counts even when it is empty.
-/

namespace Recordsmith.Text

/-- The parts of a dotted name, empty ones included. -/
def dottedParts (text : String) : List String :=
  (splitBy (· == '.') text.toList).map String.ofList

/-- The non-empty parts of a dotted name. -/
def dottedSegments (text : String) : List String :=
  (dottedParts text).filter (· != "")

/-- The non-empty parts joined by full stops. -/
def joinDotted (parts : List String) : String :=
  String.intercalate "." (parts.filter (· != ""))

/-- What follows the last full stop; the whole name when there is none. -/
def lastDottedPart (text : String) : String :=
  String.ofList (text.toList.reverse.takeWhile (· != '.')).reverse

/-- `text` without `ending` at its end, if it ends that way. -/
def dropEnding? (text ending : String) : Option String :=
  let kept := text.toList.length - ending.toList.length
  if text.toList.drop kept = ending.toList then some (String.ofList (text.toList.take kept))
  else none

end Recordsmith.Text
