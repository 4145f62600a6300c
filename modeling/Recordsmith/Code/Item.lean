import Recordsmith.Code.Type
import Recordsmith.Source.Visibility

/-!
The items of generated code and the expressions in them. Only what the companions of a record
need is here: reading members, building a value from named members, the first of two optional
values, taking an optional value out or leaving early, and functions without a name.
-/

namespace Recordsmith.Code

/-- The functions that generated code calls. -/
inductive Callee where
  /-- Wraps a value as one that is there. -/
  | wrap
  /-- Copies the value behind a reference. -/
  | duplicate
  /-- Makes an accessor. -/
  | newAccessor (runtime : Source.WrittenPath)
  /-- Makes a lens. -/
  | newLens (runtime : Source.WrittenPath)

mutual

/-- An expression. -/
inductive Expression where
  | variable (name : String)
  | member (object : Expression) (field : Identifier)
  | borrow (object : Expression)
  /-- The value inside an optional one; the enclosing function ends early when there is none. -/
  | require (object : Expression)
  /-- The first of two optional values that is there. -/
  | orElse (first second : Expression)
  /-- Whether an optional value is there. -/
  | isPresent (object : Expression)
  | both (left right : Expression)
  | truth
  | text (value : String)
  /-- A call; `trailing` says whether a comma follows the last argument. -/
  | call (callee : Callee) (arguments : List Expression) (trailing : Bool)
  /-- A value of a type with named members, built from the value of each. -/
  | construct (type : CodeType) (members : List Initializer) (trailing : Bool)
  /-- A function without a name. -/
  | function (parameters : List (String × CodeType)) (body : Expression)

/-- The value of one member. -/
inductive Initializer where
  | mk (name : Identifier) (value : Expression)

end

/-- The name of the member that an initializer sets. -/
def Initializer.name : Initializer → Identifier
  | .mk name _ => name

/-- The value that an initializer gives. -/
def Initializer.value : Initializer → Expression
  | .mk _ value => value

/-- A parameter of a method. -/
inductive Parameter where
  | ownedSelf
  | borrowedSelf
  | named (name : String) (type : CodeType)

/-- A function with a name. -/
structure Function where
  doc : Option String
  visibility : Source.Visibility
  name : String
  parameters : List Parameter
  output : CodeType
  body : Expression

/-- What an implementation holds. -/
inductive Member where
  | typeAlias (name : String) (type : CodeType)
  | function (function : Function)

/-- A member of a structure. -/
structure FieldItem where
  doc : String
  visibility : Source.Visibility
  name : Identifier
  type : CodeType

/-- An item. -/
inductive Item where
  /-- A structure with the traits that are derived for it. -/
  | structure (doc : String) (derived : List (List String)) (visibility : Source.Visibility)
      (name : Identifier) (fields : List FieldItem)
  /-- An implementation, of a trait or of functions of the type itself. -/
  | implementation (trait : Option Source.WrittenPath) (target : CodeType)
      (members : List Member)

end Recordsmith.Code
