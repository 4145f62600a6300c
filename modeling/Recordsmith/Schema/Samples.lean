import Recordsmith.Schema.Kind
import Recordsmith.Schema.Basic

/-!
Sample schemas: records with required and nullable fields, with lists and mappings, with no field
at all, with a field named like a keyword, and records of one name in different scopes.
-/

namespace Recordsmith.Samples

/-- A field that every record has a value for. -/
def required (name : String) (kind : ValueKind) : Slot ValueKind := ⟨name, kind, false⟩

/-- A field whose value may be missing. -/
def nullable (name : String) (kind : ValueKind) : Slot ValueKind := ⟨name, kind, true⟩

/-- Two required fields. -/
def myData : Schema ValueKind := ⟨[], "MyData", [required "arg1" .text, required "arg2" .int32]⟩

/-- A nullable field beside required ones. -/
def test1 : Schema ValueKind :=
  ⟨[], "Test1", [required "arg1" .text, required "arg2" .int32, nullable "arg3" .real]⟩

/-- A list, and a mapping to lists with missing elements. -/
def test2 : Schema ValueKind :=
  ⟨[], "Test2", [required "arg1" (.list .text),
    required "arg2" (.mapping (.list (.optional .int32)))]⟩

/-- No field. -/
def empty : Schema ValueKind := ⟨[], "Empty", []⟩

/-- A field named like a keyword. -/
def tagged : Schema ValueKind :=
  ⟨[], "Tagged", [required "r#type" .text, required "value" .word64]⟩

/-- A record in a scope. -/
def nested : Schema ValueKind := ⟨["scope1"], "Nested", [required "arg1" .text]⟩

/-- A record in a scope in another scope. -/
def innerNested : Schema ValueKind :=
  ⟨["scope1", "scope2"], "Nested", [required "arg2" (.list .byte)]⟩

/-- All of them. -/
def all : List (Schema ValueKind) := [myData, test1, test2, empty, tagged, nested, innerNested]

/-- The sample with the given path. -/
def find? (path : String) : Option (Schema ValueKind) := all.find? (·.path == path)

end Recordsmith.Samples
