/-!
Schemas: the fields of a record type by their places. A record holds a value at every place, and
at the place of a nullable field a value that may be missing; a partial may lack the value at any
place. What a value is depends on the kind of the field, and is left open here.
-/

namespace Recordsmith

universe u v

/-- A field of a record type. -/
structure Slot (Kind : Type u) where
  name : String
  kind : Kind
  isNullable : Bool
  deriving DecidableEq, Repr

/-- A record type: its name, the scopes around it from the outermost inwards, and its fields. -/
structure Schema (Kind : Type u) where
  scopes : List String
  name : String
  slots : List (Slot Kind)
  deriving DecidableEq, Repr

variable {Kind : Type u}

namespace Slot

/-- What a record holds for a field. -/
def Held (Value : Kind → Type v) (slot : Slot Kind) : Type v :=
  match slot.isNullable with
  | true => Option (Value slot.kind)
  | false => Value slot.kind

/-- What a partial holds for a field. -/
abbrev Stored (Value : Kind → Type v) (slot : Slot Kind) : Type v := Option (Value slot.kind)

/-- What a record holds, as a partial holds it: a missing value is one that is not set. -/
def lift {Value : Kind → Type v} : (slot : Slot Kind) → slot.Held Value → slot.Stored Value
  | ⟨_, _, true⟩ => fun held => held
  | ⟨_, _, false⟩ => some

/-- A value that is set, as a record holds it. -/
def settle {Value : Kind → Type v} : (slot : Slot Kind) → Value slot.kind → slot.Held Value
  | ⟨_, _, true⟩ => some
  | ⟨_, _, false⟩ => fun value => value

end Slot

namespace Schema

/-- The places of the fields. -/
abbrev Place (schema : Schema Kind) : Type := Fin schema.slots.length

/-- The field at a place. -/
def slot (schema : Schema Kind) (place : schema.Place) : Slot Kind := schema.slots.get place

/-- The places in order. -/
def places (schema : Schema Kind) : List schema.Place := List.finRange schema.slots.length

/-- The first place of a field of the given name. -/
def place? (schema : Schema Kind) (name : String) : Option schema.Place :=
  schema.places.find? fun place => (schema.slot place).name == name

/-- The name with the scopes in front. -/
def path (schema : Schema Kind) : String :=
  String.intercalate "::" (schema.scopes ++ [schema.name])

/-- A record. -/
abbrev Record (Value : Kind → Type v) (schema : Schema Kind) : Type v :=
  (place : schema.Place) → (schema.slot place).Held Value

/-- A partial. -/
abbrev Partial (Value : Kind → Type v) (schema : Schema Kind) : Type v :=
  (place : schema.Place) → (schema.slot place).Stored Value

end Schema

/-- A family of values with the one at `place` replaced. -/
def replaceAt {Index : Type u} [DecidableEq Index] {Value : Index → Type v}
    (values : (index : Index) → Value index) (place : Index) (value : Value place) :
    (index : Index) → Value index :=
  fun index => if same : place = index then same ▸ value else values index

end Recordsmith
