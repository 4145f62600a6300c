import Recordsmith.Schema.Lens
import Recordsmith.Schema.Partial

/-!
Accessors: for every field a lens on the record, a lens on the partial, and the way from a value
of the record to one of the partial.
-/

namespace Recordsmith

universe u v

/-- Access to a field with the given name. -/
structure Accessor (Record Held Partial Stored : Type v) where
  name : String
  onRecord : Lens Record Held
  onPartial : Lens Partial Stored
  lift : Held → Stored

/-- Access to the field at a place. -/
def Schema.accessor {Kind : Type u} (schema : Schema Kind) (Value : Kind → Type v)
    (place : schema.Place) :
    Accessor (schema.Record Value) ((schema.slot place).Held Value)
      (schema.Partial Value) ((schema.slot place).Stored Value) where
  name := (schema.slot place).name
  onRecord := Lens.atPlace place
  onPartial := Lens.atPlace place
  lift := (schema.slot place).lift

end Recordsmith
