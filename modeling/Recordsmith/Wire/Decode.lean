import Recordsmith.Decimal.Layout
import Recordsmith.Generation.Diagnostic
import Recordsmith.Text.Quoted
import Recordsmith.Wire.Value

/-!
Reading candidates and diagnostics from values. A structure is a mapping from the names of its
fields, or a sequence of its fields in the order of declaration. A value of the wrong kind is
refused with what was found and what was expected.

In a mapping a key may be left out where the field has a default, and unknown keys are passed
over. Present keys are looked at in alphabetical order, and only after them the first missing key
in the order of declaration is reported. In a sequence fields with a default may be missing at
the end, and nothing may follow the last one.
-/

namespace Recordsmith.Wire

/-- Why a value is refused. -/
inductive Mismatch where
  | missingField (name : String)
  | wrongType (found : Value) (expected : String)
  | wrongValue (found : Value) (expected : String)
  | unknownVariant (found : String) (known : List String)
  | wrongLength (length : Nat) (expected : String)

/-- A value as it is called in refusals. -/
def Value.description : Value → String
  | .null => "null"
  | .boolean value => "boolean `" ++ (if value then "true" else "false") ++ "`"
  | .integer value => "integer `" ++ toString value ++ "`"
  | .real bits => "floating point `" ++ Decimal.RealFormat.refusal.render bits ++ "`"
  | .text value => "string " ++ Text.inspected value
  | .sequence _ => "sequence"
  | .mapping _ => "map"

/-- The words of a refusal. -/
def Mismatch.message : Mismatch → String
  | .missingField name => "missing field `" ++ name ++ "`"
  | .wrongType found expected =>
      "invalid type: " ++ found.description ++ ", expected " ++ expected
  | .wrongValue found expected =>
      "invalid value: " ++ found.description ++ ", expected " ++ expected
  | .unknownVariant found known =>
      "unknown variant `" ++ found ++ "`, expected " ++
        String.intercalate " or " (known.map fun name => "`" ++ name ++ "`")
  | .wrongLength length expected =>
      "invalid length " ++ toString length ++ ", expected " ++ expected

/-- A value read as something, or why it is refused. -/
abbrev Decoded (Result : Type) := Except Mismatch Result

namespace Decode

/-- A truth value. -/
def boolean : Value → Decoded Bool
  | .boolean value => .ok value
  | other => .error (.wrongType other "a boolean")

/-- A text. -/
def text : Value → Decoded String
  | .text value => .ok value
  | other => .error (.wrongType other "a string")

/-- A whole number of 32 bits without a sign. -/
def number32 : Value → Decoded UInt32
  | .integer value =>
      if 0 ≤ value && value < UInt32.size then .ok (UInt32.ofNat value.toNat)
      else .error (.wrongValue (.integer value) "u32")
  | other => .error (.wrongType other "u32")

/-- A value that may be null. -/
def nullable {Result : Type} (inner : Value → Decoded Result) : Value → Decoded (Option Result)
  | .null => .ok none
  | other => (inner other).map some

/-- A sequence of values of one kind. -/
def sequence {Result : Type} (inner : Value → Decoded Result) : Value → Decoded (List Result)
  | .sequence items => items.mapM inner
  | other => .error (.wrongType other "a sequence")

/-- A structure: its name and how many fields it has. -/
structure Shape where
  name : String
  fieldCount : Nat

namespace Shape

/-- A structure as it is called in refusals. -/
def description (shape : Shape) : String := "struct " ++ shape.name

/-- A structure with the number of its fields. -/
def sizedDescription (shape : Shape) : String :=
  shape.description ++ " with " ++ toString shape.fieldCount ++
    (if shape.fieldCount = 1 then " element" else " elements")

end Shape

/-- Reads a structure from the entries of a mapping or from the items of a sequence. -/
def structured {Result : Type} (shape : Shape) (keyed : List (String × Value) → Decoded Result)
    (listed : List Value → Decoded Result) : Value → Decoded Result
  | .mapping entries => keyed entries
  | .sequence items => do
      let result ← listed items
      if shape.fieldCount < items.length then
        throw (.wrongLength items.length "fewer elements in array")
      return result
  | other => .error (.wrongType other shape.description)

/-! ## Fields of a mapping -/

/-- The value under a key, if the key is there. -/
def field? {Result : Type} (entries : List (String × Value)) (key : String)
    (inner : Value → Decoded Result) : Decoded (Option Result) :=
  match Value.entry? entries key with
  | some value => (inner value).map some
  | none => .ok none

/-- A field that has to be there. -/
def required {Result : Type} (key : String) : Option Result → Decoded Result
  | some value => .ok value
  | none => .error (.missingField key)

/-! ## Fields of a sequence -/

/-- The item at an index, if there are so many. -/
def item? {Result : Type} (items : List Value) (index : Nat) (inner : Value → Decoded Result) :
    Decoded (Option Result) :=
  match items[index]? with
  | some value => (inner value).map some
  | none => .ok none

/-- The item at an index; a missing one is refused with the length that was found. -/
def item {Result : Type} (shape : Shape) (items : List Value) (index : Nat)
    (inner : Value → Decoded Result) : Decoded Result :=
  match items[index]? with
  | some value => inner value
  | none => .error (.wrongLength index shape.sizedDescription)

/-! ## Structures -/

/-- A place in the sources. -/
def locationShape : Shape := ⟨"SourceLocation", 3⟩

/-- A place in the sources. -/
def location : Value → Decoded SourceLocation :=
  structured locationShape
    (fun entries => do
      let column ← field? entries "column" number32
      let line ← field? entries "line" number32
      let path ← field? entries "path" text
      return ⟨← required "path" path, ← required "line" line, ← required "column" column⟩)
    (fun items => do
      let path ← item locationShape items 0 text
      let line ← item locationShape items 1 number32
      return ⟨path, line, ← item locationShape items 2 number32⟩)

/-- An enclosing scope. -/
def scopeShape : Shape := ⟨"EnclosingScope", 1⟩

/-- An enclosing scope, by its name. -/
def scope : Value → Decoded String :=
  structured scopeShape (fun entries => do required "name" (← field? entries "name" text))
    (fun items => item scopeShape items 0 text)

/-- A declared field. -/
def fieldShape : Shape := ⟨"RawField", 5⟩

/-- A declared field. -/
def declaredField : Value → Decoded DeclaredField :=
  structured fieldShape
    (fun entries => do
      let isVariadic ← field? entries "is_variadic" boolean
      let location ← field? entries "location" (nullable location)
      let name ← field? entries "name" text
      let typeText ← field? entries "raw_type_text" text
      let visibility ← field? entries "visibility" (nullable text)
      return ⟨← required "name" name, ← required "raw_type_text" typeText, isVariadic.getD false,
        location.getD none, visibility.getD none⟩)
    (fun items => do
      let name ← item fieldShape items 0 text
      let typeText ← item fieldShape items 1 text
      let isVariadic ← item? items 2 boolean
      let location ← item? items 3 (nullable location)
      let visibility ← item? items 4 (nullable text)
      return ⟨name, typeText, isVariadic.getD false, location.getD none, visibility.getD none⟩)

/-- A candidate. -/
def candidateShape : Shape := ⟨"CandidateDeclaration", 7⟩

/-- A candidate. -/
def candidate : Value → Decoded Candidate :=
  structured candidateShape
    (fun entries => do
      let scopes ← field? entries "enclosing_scopes" (sequence scope)
      let fields ← field? entries "fields" (nullable (sequence declaredField))
      let qualifiedName ← field? entries "fully_qualified_name" text
      let hasCompanionScope ← field? entries "has_companion_scope" boolean
      let isRecord ← field? entries "is_record_type" boolean
      let location ← field? entries "location" (nullable location)
      let visibility ← field? entries "visibility" text
      return ⟨← required "is_record_type" isRecord,
        ← required "has_companion_scope" hasCompanionScope,
        ← required "fully_qualified_name" qualifiedName, scopes.getD [], fields.getD none,
        visibility.getD "", location.getD none⟩)
    (fun items => do
      let isRecord ← item candidateShape items 0 boolean
      let hasCompanionScope ← item candidateShape items 1 boolean
      let qualifiedName ← item candidateShape items 2 text
      let scopes ← item? items 3 (sequence scope)
      let fields ← item candidateShape items 4 (nullable (sequence declaredField))
      let visibility ← item? items 5 text
      let location ← item? items 6 (nullable location)
      return ⟨isRecord, hasCompanionScope, qualifiedName, scopes.getD [], fields,
        visibility.getD "", location.getD none⟩)

/-- A severity, by its name. -/
def severityNamed (name : String) : Decoded Severity :=
  match [Severity.warning, .error].find? (·.label == name) with
  | some severity => .ok severity
  | none => .error (.unknownVariant name ["warning", "error"])

/-- Nothing. -/
def nothing : Value → Decoded Unit
  | .null => .ok ()
  | other => .error (.wrongType other "unit")

/-- A severity: its name, or a mapping from its name to nothing. -/
def severity : Value → Decoded Severity
  | .text name => severityNamed name
  | .mapping [(name, content)] => do
      let severity ← severityNamed name
      nothing content
      return severity
  | .mapping entries => .error (.wrongValue (.mapping entries) "map with a single key")
  | other => .error (.wrongType other "string or map")

/-- A diagnostic. -/
def diagnosticShape : Shape := ⟨"Diagnostic", 4⟩

/-- A diagnostic. -/
def diagnostic : Value → Decoded Diagnostic :=
  structured diagnosticShape
    (fun entries => do
      let field ← field? entries "field" (nullable text)
      let location ← field? entries "location" (nullable location)
      let message ← field? entries "message" text
      let severity ← field? entries "severity" severity
      return ⟨← required "severity" severity, ← required "message" message, location.getD none,
        field.getD none⟩)
    (fun items => do
      let severity ← item diagnosticShape items 0 severity
      let message ← item diagnosticShape items 1 text
      let location ← item diagnosticShape items 2 (nullable location)
      return ⟨severity, message, location, ← item diagnosticShape items 3 (nullable text)⟩)

end Decode

end Recordsmith.Wire
