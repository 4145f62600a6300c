import Recordsmith.Schema.Accessor

/-!
Builders: a partial that is filled step by step. Setting a field replaces what was there,
clearing it takes the value away, and merging another partial fills only what is not set.
-/

namespace Recordsmith

universe u v

variable {Kind : Type u} {Value : Kind → Type v} {schema : Schema Kind}

/-- A builder. -/
structure Builder (Value : Kind → Type v) (schema : Schema Kind) where
  content : schema.Partial Value

/-- A step of a builder. -/
inductive BuilderStep (Value : Kind → Type v) (schema : Schema Kind) where
  | set (place : schema.Place) (value : (schema.slot place).Held Value)
  | unset (place : schema.Place)
  | merge (other : schema.Partial Value)

namespace Builder

/-- A builder with nothing set. -/
def empty : Builder Value schema := ⟨Schema.Partial.empty⟩

/-- A builder that begins with what a record holds. -/
def ofRecord (record : schema.Record Value) : Builder Value schema := ⟨record.asPartial⟩

/-- Sets a field. -/
def set (builder : Builder Value schema) (place : schema.Place)
    (value : (schema.slot place).Held Value) : Builder Value schema :=
  let accessor := schema.accessor Value place
  ⟨accessor.onPartial.set builder.content (accessor.lift value)⟩

/-- Clears a field. -/
def unset (builder : Builder Value schema) (place : schema.Place) : Builder Value schema :=
  ⟨(schema.accessor Value place).onPartial.set builder.content none⟩

/-- Fills the fields that are not set. -/
def merge (builder : Builder Value schema) (other : schema.Partial Value) :
    Builder Value schema :=
  ⟨builder.content.combine other⟩

/-- Whether every field is set. -/
def isComplete (builder : Builder Value schema) : Bool := builder.content.isComplete

/-- The record, if every field is set. -/
def build (builder : Builder Value schema) : Option (schema.Record Value) :=
  builder.content.build

/-- Takes a step. -/
def step (builder : Builder Value schema) : BuilderStep Value schema → Builder Value schema
  | .set place value => builder.set place value
  | .unset place => builder.unset place
  | .merge other => builder.merge other

/-- Takes steps one after another. -/
def run (builder : Builder Value schema) (steps : List (BuilderStep Value schema)) :
    Builder Value schema :=
  steps.foldl step builder

end Builder

end Recordsmith
