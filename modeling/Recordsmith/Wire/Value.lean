/-!
Values on the wire: the data that hosts exchange with the library. A mapping keeps its entries
in order; of two entries with one key the last counts.
-/

namespace Recordsmith.Wire

/-- A value. Real numbers are given by their 64 bits. -/
inductive Value where
  | null
  | boolean (value : Bool)
  | integer (value : Int)
  | real (bits : UInt64)
  | text (value : String)
  | sequence (items : List Value)
  | mapping (entries : List (String × Value))
  deriving Inhabited

namespace Value

/-- The value under a key. -/
def entry? (entries : List (String × Value)) (key : String) : Option Value :=
  (entries.reverse.find? (·.1 == key)).map (·.2)

end Value

end Recordsmith.Wire
