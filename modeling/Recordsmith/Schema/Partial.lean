import Recordsmith.Schema.Basic

/-!
Partials. Two partials are combined field by field, and the first one that has a value set wins.
A partial with every field set builds a record; a record gives a partial back, in which a nullable
field without a value is not set.
-/

namespace Recordsmith

universe u v

variable {Kind : Type u} {Value : Kind → Type v} {schema : Schema Kind}

/-- The first of two optional values that is there. -/
def firstOf {Content : Type v} (first second : Option Content) : Option Content :=
  first.or second

namespace Schema.Partial

/-- The partial without any value. -/
def empty : schema.Partial Value := fun _ => none

/-- Two partials in one; the first one wins. -/
def combine (first second : schema.Partial Value) : schema.Partial Value :=
  fun place => firstOf (first place) (second place)

/-- Whether a field has a value at every place. -/
def isComplete (content : schema.Partial Value) : Bool :=
  schema.places.all fun place => (content place).isSome

/-- The record, if every field is set. -/
def build (content : schema.Partial Value) : Option (schema.Record Value) :=
  if complete : ∀ place, (content place).isSome = true then
    some fun place => (schema.slot place).settle ((content place).get (complete place))
  else none

/-- The record of two partials in one. -/
def combineTwo (first second : schema.Partial Value) : Option (schema.Record Value) :=
  build (combine (combine empty first) second)

/-- All partials in one; earlier ones win. -/
def gather (contents : List (schema.Partial Value)) : schema.Partial Value :=
  contents.foldl combine empty

/-- The record of all partials in one. -/
def combineAll (contents : List (schema.Partial Value)) : Option (schema.Record Value) :=
  build (gather contents)

end Schema.Partial

/-- A record as a partial. -/
def Schema.Record.asPartial (record : schema.Record Value) : schema.Partial Value :=
  fun place => (schema.slot place).lift (record place)

end Recordsmith
