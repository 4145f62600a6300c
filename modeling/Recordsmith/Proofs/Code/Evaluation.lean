import Mathlib.Data.List.Nodup
import Recordsmith.Code.Item

/-!
What generated code does when it runs. Expressions are evaluated in a scope that knows the
structures in reach and the values of the variables; references and copies are the values that
they refer to and that are copied. An evaluation may end the function around it early, as a
question mark behind an absent value does, and it is stuck where the code means nothing: a
variable nobody binds, a member nobody has, a structure whose members are not each given once.
-/

namespace Recordsmith.Code

/-- A value of generated code. What the fields of a record hold is left open. -/
inductive Value (Content : Type) where
  | content (content : Content)
  /-- An optional value that is not there. -/
  | absent
  /-- An optional value that is there. -/
  | present (inner : Value Content)
  | truth (holds : Bool)
  | text (value : String)
  /-- A value of the structure at a path, by its members in the order of their declaration. -/
  | structure (path : List Identifier) (members : List (Identifier × Value Content))
  /-- A function without a name, with the variables in reach where it is written. -/
  | function (self : List Identifier) (bindings : List (String × Value Content))
      (parameters : List String) (body : Expression)
  | lens (get set : Value Content)
  | accessor (name onRecord onPartial lift : Value Content)

/-- Why an evaluation gives no value. -/
inductive Halt where
  /-- The function around it ends, with an absent value. -/
  | early
  /-- The code means nothing. -/
  | stuck

/-- A structure in reach: its path and the names of its members. -/
abbrev StructureTable := List (List Identifier × List Identifier)

/-- What names mean at a place in the code. -/
structure Scope (Content : Type) where
  structures : StructureTable
  /-- The structure that the code around is about. -/
  self : List Identifier
  bindings : List (String × Value Content)

variable {Content : Type}

namespace Value

/-- An optional value. -/
def ofOption : Option (Value Content) → Value Content
  | none => absent
  | some inner => present inner

/-- The member of a structure. -/
def member (field : Identifier) : Value Content → Except Halt (Value Content)
  | .structure _ members =>
      match members.lookup field with
      | some value => .ok value
      | none => .error .stuck
  | _ => .error .stuck

/-- The value inside an optional one. -/
def require : Value Content → Except Halt (Value Content)
  | present inner => .ok inner
  | absent => .error .early
  | _ => .error .stuck

/-- The first of two optional values that is there. -/
def orElse : Value Content → Value Content → Except Halt (Value Content)
  | present inner, present _ => .ok (present inner)
  | present inner, absent => .ok (present inner)
  | absent, present inner => .ok (present inner)
  | absent, absent => .ok absent
  | _, _ => .error .stuck

/-- Whether an optional value is there. -/
def isPresent : Value Content → Except Halt Bool
  | present _ => .ok true
  | absent => .ok false
  | _ => .error .stuck

/-- What a truth value says. -/
def holds : Value Content → Except Halt Bool
  | truth holds => .ok holds
  | _ => .error .stuck

end Value

namespace Scope

/-- The value of a variable; the innermost binding counts. -/
def variableValue (scope : Scope Content) (name : String) : Except Halt (Value Content) :=
  match scope.bindings.lookup name with
  | some value => .ok value
  | none => .error .stuck

/-- The path of the structure that a type names. -/
def structurePath? (scope : Scope Content) : CodeType → Option (List Identifier)
  | .named name [] => some [name]
  | .located names => some names
  | .itself => some scope.self
  | _ => none

/-- A value of a structure. Each member that is declared has to be given exactly once. -/
def construct (scope : Scope Content) (type : CodeType)
    (members : List (Identifier × Value Content)) : Except Halt (Value Content) :=
  match scope.structurePath? type with
  | none => .error .stuck
  | some path =>
      match scope.structures.lookup path with
      | none => .error .stuck
      | some declared =>
          if (members.map Prod.fst).Nodup ∧ (members.map Prod.fst).isPerm declared = true then
            .ok (.structure path (declared.filterMap fun name =>
              (members.lookup name).map fun value => (name, value)))
          else .error .stuck

end Scope

/-- What a called function gives. -/
def Callee.result : Callee → List (Value Content) → Except Halt (Value Content)
  | .wrap, [value] => .ok (.present value)
  | .duplicate, [value] => .ok value
  | .newLens _, [get, set] => .ok (.lens get set)
  | .newAccessor _, [name, onRecord, onPartial, lift] => .ok (.accessor name onRecord onPartial lift)
  | _, _ => .error .stuck

mutual

/-- The value of an expression. -/
def evaluate (scope : Scope Content) : Expression → Except Halt (Value Content)
  | .variable name => scope.variableValue name
  | .member object field => do
      let object ← evaluate scope object
      object.member field
  | .borrow object => evaluate scope object
  | .require object => do
      let object ← evaluate scope object
      object.require
  | .orElse first second => do
      let first ← evaluate scope first
      let second ← evaluate scope second
      first.orElse second
  | .isPresent object => do
      let object ← evaluate scope object
      let isPresent ← object.isPresent
      return .truth isPresent
  | .both left right => do
      let left ← evaluate scope left
      let leftHolds ← left.holds
      -- The right side is not looked at when the left one does not hold.
      if leftHolds then
        let right ← evaluate scope right
        let rightHolds ← right.holds
        return .truth rightHolds
      else return .truth false
  | .truth => return .truth true
  | .text value => return .text value
  | .call callee arguments _ => do
      let arguments ← evaluateAll scope arguments
      callee.result arguments
  | .construct type members _ => do
      let members ← evaluateMembers scope members
      scope.construct type members
  | .function parameters body =>
      return .function scope.self scope.bindings (parameters.map Prod.fst) body

/-- The values of expressions, from left to right. -/
def evaluateAll (scope : Scope Content) : List Expression → Except Halt (List (Value Content))
  | [] => return []
  | expression :: rest => do
      let value ← evaluate scope expression
      let values ← evaluateAll scope rest
      return value :: values

/-- The values of members, from left to right. -/
def evaluateMembers (scope : Scope Content) :
    List Initializer → Except Halt (List (Identifier × Value Content))
  | [] => return []
  | .mk name expression :: rest => do
      let value ← evaluate scope expression
      let values ← evaluateMembers scope rest
      return (name, value) :: values

end

/-- What a function gives whose body was evaluated; `none` if it is stuck. Only a function that
gives an optional value may end early. -/
def finish (givesOptional : Bool) : Except Halt (Value Content) → Option (Value Content)
  | .ok value => some value
  | .error .early => if givesOptional then some .absent else none
  | .error .stuck => none

/-- Calls a function without a name. -/
def Value.call (structures : StructureTable) :
    Value Content → List (Value Content) → Option (Value Content)
  | .function self bindings parameters body, arguments =>
      if parameters.length = arguments.length then
        finish true (evaluate ⟨structures, self, parameters.zip arguments ++ bindings⟩ body)
      else none
  | _, _ => none

/-- The variable that a parameter binds. -/
def Parameter.variable : Parameter → String
  | .ownedSelf => "self"
  | .borrowedSelf => "self"
  | .named name _ => name

/-- Calls a function with a name, which is about the structure `self`. -/
def Function.call (structures : StructureTable) (self : List Identifier) (function : Function)
    (arguments : List (Value Content)) : Option (Value Content) :=
  if function.parameters.length = arguments.length then
    let givesOptional := match function.output with
      | .optional _ => true
      | _ => false
    finish givesOptional (evaluate
      ⟨structures, self, (function.parameters.map Parameter.variable).zip arguments⟩ function.body)
  else none

/-- The functions of an item. -/
def Item.functions : Item → List Function
  | .structure .. => []
  | .implementation _ _ members => members.filterMap fun
      | .function function => some function
      | .typeAlias .. => none

/-- The structure that an item declares, with the names of its members. -/
def Item.structure? : Item → Option (List Identifier × List Identifier)
  | .structure _ _ _ name fields => some ([name], fields.map (·.name))
  | .implementation .. => none

/-- The path of the structure that an implementation is for. -/
def Item.selfPath? : Item → Option (List Identifier)
  | .implementation _ (.named name []) _ => some [name]
  | .implementation _ (.located names) _ => some names
  | _ => none

/-- The trait of types that have a default value. -/
def defaultTrait : List String := ["core", "default", "Default"]

/-- The default value of a type. It is left open but for optional values, which are absent. -/
def CodeType.default? : CodeType → Option (Value Content)
  | .optional _ => some .absent
  | _ => none

/-- A member with the default value of its type. -/
def FieldItem.default? (field : FieldItem) : Option (Identifier × Value Content) :=
  field.type.default?.map fun value => (field.name, value)

/-- The default value of a structure that derives one: every field has the default of its type. -/
def Item.default? : Item → Option (Value Content)
  | .structure _ derived _ name fields =>
      if defaultTrait ∈ derived then
        (fields.mapM FieldItem.default?).map (.structure [name])
      else none
  | .implementation .. => none

/-- Calls the first function of a name that an item has. -/
def Item.call (structures : StructureTable) (item : Item) (name : String)
    (arguments : List (Value Content)) : Option (Value Content) := do
  let self ← item.selfPath?
  let function ← item.functions.find? fun function => function.name == name
  function.call structures self arguments

end Recordsmith.Code
