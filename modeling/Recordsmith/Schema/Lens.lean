import Recordsmith.Schema.Basic

/-!
Lenses: reading and replacing one part of a whole. A lens on one place of a family of values
leaves all other places alone.
-/

namespace Recordsmith

universe u v

/-- A way to read and replace a part. -/
structure Lens (Whole : Type u) (Part : Type v) where
  get : Whole → Part
  set : Whole → Part → Whole

namespace Lens

variable {Whole : Type u} {Part : Type v}

/-- Replaces the part by what a function makes of it. -/
def modify (lens : Lens Whole Part) (whole : Whole) (change : Part → Part) : Whole :=
  lens.set whole (change (lens.get whole))

/-- The first part of a pair. -/
def first {First : Type u} {Second : Type v} : Lens (First × Second) First where
  get pair := pair.1
  set pair value := (value, pair.2)

/-- The value at a place of a family. -/
def atPlace {Index : Type u} [DecidableEq Index] {Value : Index → Type v} (place : Index) :
    Lens ((index : Index) → Value index) (Value place) where
  get values := values place
  set values value := replaceAt values place value

end Lens

end Recordsmith
