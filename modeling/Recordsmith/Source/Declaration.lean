import Recordsmith.Source.Expression
import Recordsmith.Source.Visibility

/-!
Declarations of data types: structures, enumerations and unions, with their generic parameters and
the conditions on these. Fields know where their types begin, and declarations where their names
do.
-/

namespace Recordsmith.Source

open Reader
open Recordsmith.Lexer

/-- A field. One of a positional structure has no name. -/
structure Field where
  attributes : List Tree
  visibility : Visibility
  name : String
  type : WrittenType
  /-- Where the type begins. -/
  typePlace : Nat

/-- Fields with commas between them; `trailing` says whether one follows the last field. -/
structure FieldList where
  fields : List Field
  trailing : Bool

/-- What a declaration declares. -/
inductive Shape where
  /-- A structure with named fields. -/
  | named (fields : FieldList)
  /-- A structure without a field list. -/
  | unit
  /-- A structure whose fields have no names. -/
  | positional (fields : FieldList)
  | enumeration (variants : List Tree) (trailing : Bool)
  | union (fields : FieldList)

/-- A declaration; `namePlace` is where its name begins. -/
structure Declaration where
  attributes : List Attribute
  visibility : Visibility
  name : String
  namePlace : Nat
  parameters : List GenericParameter
  /-- Whether a comma follows the last parameter. -/
  parametersTrailing : Bool
  conditions : Tree
  shape : Shape

/-! ## Declarations as pieces of code -/

/-- A field as a piece of code. -/
def Field.tree (isNamed : Bool) (field : Field) : Tree :=
  Tree.withAttributes field.attributes (.node .field
    [field.visibility.tree, Tree.wordIf isNamed field.name, Tree.operatorIf isNamed ":",
      .type field.type])

/-- Fields in their braces or parentheses. -/
def FieldList.tree (isNamed : Bool) (list : FieldList) : Tree :=
  .group (if isNamed then .brace else .parenthesis)
    [Tree.commaList (list.fields.map (Field.tree isNamed)) list.trailing]

/-- A declaration as a piece of code, without its attributes. -/
def Declaration.tree (declaration : Declaration) : Tree :=
  let head (keyword : String) := [declaration.visibility.tree, Tree.word keyword,
    Tree.word declaration.name,
    Tree.generics declaration.parameters declaration.parametersTrailing]
  match declaration.shape with
  | .named fields =>
      .node .namedStruct (head "struct" ++ [declaration.conditions, fields.tree true])
  | .unit => .node .unitStruct (head "struct" ++ [declaration.conditions, Tree.operator ";"])
  | .positional fields =>
      .node .tupleStruct
        (head "struct" ++ [fields.tree false, declaration.conditions, Tree.operator ";"])
  | .enumeration variants trailing =>
      .node .enumeration (head "enum" ++
        [declaration.conditions, .group .brace [Tree.commaList variants trailing]])
  | .union fields =>
      .node .namedStruct (head "union" ++ [declaration.conditions, fields.tree true])

namespace Declaration

section

variable (parts : Grammar)

/-! ## Fields -/

/-- Reads fields between brackets of a kind. -/
def fieldList (delimiter : Delimiter) (field : Reader Field) : Reader FieldList := do
  let (fields, trailing) ← groupOf delimiter field
  return ⟨fields, trailing⟩

/-- Reads a field without a name. -/
def positionalField : Reader Field := do
  let attributes ← outerAttributes parts
  let visibility ← Visibility.reader
  let typePlace ← place
  return ⟨attributes, visibility, "", ← parts.type true, typePlace⟩

mutual

/-- Reads a field with a name. The name may be a single underscore; then the type may be fields
that are not named as a whole, which are kept as they stand. -/
def namedField : Nat → Reader Field
  | 0 => refuse "expected identifier"
  | depth + 1 => do
      let attributes ← outerAttributes parts
      let visibility ← Visibility.reader
      let name ← identifierOrLine
      operator ":"
      let typePlace ← place
      let start ← ahead
      if name == "_" && (beginsWithName "struct" start ||
          (beginsWithName "union" start && beginsWithGroup .brace (afterTree start))) then
        skip 1
        let _ ← namedFields depth
        return ⟨attributes, visibility, name, .verbatim (← readSince start), typePlace⟩
      return ⟨attributes, visibility, name, ← parts.type true, typePlace⟩

/-- Reads fields with names between braces. -/
def namedFields : Nat → Reader FieldList
  | 0 => refuse "expected curly braces"
  | depth + 1 => fieldList .brace (namedField depth)

end

/-- Reads fields with names between braces. -/
def allNamedFields : Reader FieldList := do
  namedFields parts (2 * (← listFuel))

/-- Reads fields without names between parentheses. -/
def positionalFields : Reader FieldList := fieldList .parenthesis (positionalField parts)

/-- Reads one variant of an enumeration. -/
def variant : Reader Tree := do
  let attributes ← outerAttributes parts
  let _ ← Visibility.reader
  let name ← identifier
  let tokens ← ahead
  let fields ← if beginsWithGroup .brace tokens then
      FieldList.tree true <$> allNamedFields parts
    else if beginsWithGroup .parenthesis tokens then
      FieldList.tree false <$> positionalFields parts
    else pure Tree.nothing
  let hasValue ← operator? "="
  let value ← if hasValue then parts.expression true else pure Tree.nothing
  return Tree.withAttributes attributes
    (.node .variant [Tree.word name, fields, Tree.operatorIf hasValue "=", value])

/-! ## Declarations -/

/-- Reads what follows the parameters of a structure: conditions and the shape. -/
def structureShape : Reader (Tree × Shape) := do
  let tokens ← ahead
  if beginsWithGroup .parenthesis tokens then
    let fields ← positionalFields parts
    let found ← conditions? parts
    unless ← operator? ";" do
      refuseUnless ((if found.isSome then [] else [quoted "where"]) ++ [quoted ";"])
    return (found.getD Tree.nothing, .positional fields)
  let found ← conditions? parts
  let conditions := found.getD Tree.nothing
  if ← peekGroup .brace then return (conditions, .named (← allNamedFields parts))
  unless ← operator? ";" do
    refuseUnless ((if found.isSome then [] else [quoted "where", "parentheses"]) ++
      ["curly braces", quoted ";"])
  return (conditions, .unit)

/-- Reads what follows the parameters of an enumeration. -/
def enumerationShape : Reader (Tree × Shape) := do
  let conditions ← Source.conditions parts
  let (variants, trailing) ← groupOf .brace (variant parts)
  return (conditions, .enumeration variants trailing)

/-- Reads what follows the parameters of a union. -/
def unionShape : Reader (Tree × Shape) := do
  let conditions ← Source.conditions parts
  return (conditions, .union (← allNamedFields parts))

/-- Reads the keyword of a declaration, for the reader of what follows its parameters. The name
behind the keyword may be `union`. -/
def keyword : Reader (Reader (Tree × Shape)) := do
  if ← word? "struct" then return structureShape parts
  if ← word? "enum" then return enumerationShape parts
  if ← word? "union" then return unionShape parts
  refuseUnless [quoted "struct", quoted "enum", quoted "union"]

/-- Reads a declaration behind its visibility, from its keyword on. -/
def afterVisibility (attributes : List Attribute) (visibility : Visibility) :
    Reader Declaration := do
  let shape ← keyword parts
  let namePlace ← place
  let name ← identifier
  let (parameters, parametersTrailing) := (← generics? parts).getD ([], false)
  let (conditions, shape) ← shape
  return ⟨attributes, visibility, name, namePlace, parameters, parametersTrailing, conditions,
    shape⟩

/-- Reads a declaration. -/
def reader : Reader Declaration := do
  let attributes ← Attribute.reader parts
  afterVisibility parts attributes (← Visibility.reader)

end

end Declaration

end Recordsmith.Source
