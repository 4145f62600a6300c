import Recordsmith.Schema.Builder
import Recordsmith.Schema.Kind

/-!
Comparing and showing records and partials. Both go field by field, by what is done with the
values of each kind. A record is shown as its name and its fields in braces, or as its name alone
when it has none; a raw name is shown without its mark.
-/

namespace Recordsmith

universe u v

/-- The text that shows a name with named parts. -/
def inspectNamed (name : String) (parts : List (String × String)) : String :=
  if parts.isEmpty then name
  else name ++ " \x7b " ++
    String.intercalate ", " (parts.map fun (part, text) => part ++ ": " ++ text) ++ " \x7d"

/-- The text that shows an optional value. -/
def inspectOptional {Content : Type v} (inspect : Content → String) : Option Content → String
  | some value => "Some(" ++ inspect value ++ ")"
  | none => "None"

/-- Whether two optional values agree. -/
def sameOptional {Content : Type v} (same : Content → Content → Bool) :
    Option Content → Option Content → Bool
  | some left, some right => same left right
  | none, none => true
  | _, _ => false

/-- A name without the mark of a raw name. -/
def withoutRawMark (name : String) : String :=
  match name.toList with
  | 'r' :: '#' :: rest => String.ofList rest
  | _ => name

variable {Kind : Type u} {Value : Kind → Type v} {schema : Schema Kind}

namespace Slot

/-- The text that shows what a record holds. -/
def inspectHeld (inspect : (kind : Kind) → Value kind → String) :
    (slot : Slot Kind) → slot.Held Value → String
  | ⟨_, kind, true⟩ => inspectOptional (inspect kind)
  | ⟨_, kind, false⟩ => inspect kind

/-- Whether two records hold the same. -/
def sameHeld (same : (kind : Kind) → Value kind → Value kind → Bool) :
    (slot : Slot Kind) → slot.Held Value → slot.Held Value → Bool
  | ⟨_, kind, true⟩ => sameOptional (same kind)
  | ⟨_, kind, false⟩ => same kind

end Slot

namespace Schema

/-- What a partial is called. -/
def partialName (schema : Schema Kind) : String := "Partial" ++ schema.name

namespace Record

/-- The text that shows a record. -/
def inspect (inspectValue : (kind : Kind) → Value kind → String) (record : schema.Record Value) :
    String :=
  inspectNamed schema.name (schema.places.map fun place =>
    (withoutRawMark (schema.slot place).name,
      (schema.slot place).inspectHeld inspectValue (record place)))

/-- Whether two records are equal. -/
def same (sameValue : (kind : Kind) → Value kind → Value kind → Bool)
    (left right : schema.Record Value) : Bool :=
  schema.places.all fun place =>
    (schema.slot place).sameHeld sameValue (left place) (right place)

end Record

namespace Partial

/-- The text that shows a partial. -/
def inspect (inspectValue : (kind : Kind) → Value kind → String)
    (content : schema.Partial Value) : String :=
  inspectNamed schema.partialName (schema.places.map fun place =>
    (withoutRawMark (schema.slot place).name,
      inspectOptional (inspectValue (schema.slot place).kind) (content place)))

/-- Whether two partials are equal. -/
def same (sameValue : (kind : Kind) → Value kind → Value kind → Bool)
    (left right : schema.Partial Value) : Bool :=
  schema.places.all fun place =>
    sameOptional (sameValue (schema.slot place).kind) (left place) (right place)

end Partial

end Schema

/-- The text that shows a builder. -/
def Builder.inspect (inspectValue : (kind : Kind) → Value kind → String)
    (builder : Builder Value schema) : String :=
  inspectNamed "Builder" [("partial", Schema.Partial.inspect inspectValue builder.content)]

/-- The text that shows a lens. -/
def Lens.inspect {Whole : Type u} {Part : Type v} (_ : Lens Whole Part) : String :=
  "Lens \x7b .. \x7d"

/-- The text that shows an accessor. -/
def Accessor.inspect {Record Held Partial Stored : Type v}
    (accessor : Accessor Record Held Partial Stored) : String :=
  "Field \x7b name: " ++ Text.inspected accessor.name ++ ", .. \x7d"

end Recordsmith
