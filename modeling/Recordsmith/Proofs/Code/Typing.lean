import Recordsmith.Proofs.Code.Evaluation
import Recordsmith.Proofs.Token.LoneNames

/-!
When generated code is well typed. An expression has a type in a scope that knows the members of the
structures in reach with their types. Members are found by what their names mean, so that a raw name
is the member without the mark; and a value of a structure is built when each declared member is given
once, with a value of its type.
-/

namespace Recordsmith.Code

/-- The members of a structure in the order of their declaration, with their types. -/
abbrev MemberTypes := List (Identifier × CodeType)

/-- What an expression is: a value, a literal text, a function without a name, or a lens, which the
runtime path names. -/
inductive ExpressionType where
  | value (type : CodeType)
  | text
  | function (parameters : List CodeType) (result : CodeType)
  | lens (runtime : Source.WrittenPath) (whole part : CodeType)

/-- What is known of types at a place in the code. -/
structure TypeScope where
  /-- The structures in reach, by their paths. -/
  structures : List (List Identifier × MemberTypes)
  /-- The type that the code around is about. -/
  self : CodeType
  bindings : List (String × CodeType)
  /-- What the function around gives; a function without a name is not left early. -/
  output : Option CodeType

/-- The type, with the one that the code is about for the type itself. -/
def CodeType.about (type self : CodeType) : CodeType :=
  match type with
  | .itself => self
  | type => type

/-- What a reference is to. Members are reached through references. -/
def CodeType.target : CodeType → CodeType
  | .borrowed target => target
  | type => type

/-- The path of the structure that a type may name. -/
def CodeType.path? : CodeType → Option (List Identifier)
  | .named name [] => some [name]
  | .located names => some names
  | _ => none

/-- The type names a structure in reach that has the members. -/
def TypeScope.Declares (scope : TypeScope) (type : CodeType) (members : MemberTypes) : Prop :=
  ∃ path, (type.about scope.self).path? = some path ∧ (path, members) ∈ scope.structures

/-- The place inside a function without a name. It is handed on as a plain function, so it reaches its
own parameters only. -/
def TypeScope.inside (scope : TypeScope) (parameters : List (String × CodeType)) : TypeScope :=
  ⟨scope.structures, scope.self, parameters, none⟩

mutual

/-- The expression has the type in the scope. -/
inductive HasType : TypeScope → Expression → ExpressionType → Prop where
  | variable {scope : TypeScope} {name : String} {type : CodeType}
      (bound : scope.bindings.lookup name = some type) :
      HasType scope (.variable name) (.value type)
  | member {scope : TypeScope} {object : Expression} {holder : CodeType} {members : MemberTypes}
      {field declared : Identifier} {type : CodeType}
      (held : HasType scope object (.value holder)) (declares : scope.Declares holder.target members)
      (isMember : (declared, type) ∈ members) (same : declared.meaning = field.meaning) :
      HasType scope (.member object field) (.value type)
  | borrow {scope : TypeScope} {object : Expression} {type : CodeType}
      (held : HasType scope object (.value type)) :
      HasType scope (.borrow object) (.value (.borrowed type))
  | require {scope : TypeScope} {object : Expression} {type result : CodeType}
      (held : HasType scope object (.value (.optional type)))
      (left : scope.output = some (.optional result)) :
      HasType scope (.require object) (.value type)
  | orElse {scope : TypeScope} {first second : Expression} {type : CodeType}
      (heldFirst : HasType scope first (.value (.optional type)))
      (heldSecond : HasType scope second (.value (.optional type))) :
      HasType scope (.orElse first second) (.value (.optional type))
  | isPresent {scope : TypeScope} {object : Expression} {type : CodeType}
      (held : HasType scope object (.value (.optional type))) :
      HasType scope (.isPresent object) (.value .boolean)
  | both {scope : TypeScope} {left right : Expression}
      (heldLeft : HasType scope left (.value .boolean))
      (heldRight : HasType scope right (.value .boolean)) :
      HasType scope (.both left right) (.value .boolean)
  | truth {scope : TypeScope} : HasType scope .truth (.value .boolean)
  | text {scope : TypeScope} {value : String} : HasType scope (.text value) .text
  | wrap {scope : TypeScope} {value : Expression} {type : CodeType} {trailing : Bool}
      (held : HasType scope value (.value type)) :
      HasType scope (.call .wrap [value] trailing) (.value (.optional type))
  | duplicate {scope : TypeScope} {value : Expression} {type : CodeType} {trailing : Bool}
      (held : HasType scope value (.value (.borrowed type))) :
      HasType scope (.call .duplicate [value] trailing) (.value type)
  | newLens {scope : TypeScope} {runtime : Source.WrittenPath} {get set : Expression}
      {whole part : CodeType} {trailing : Bool}
      (getter : HasType scope get (.function [.borrowed whole] part))
      (setter : HasType scope set (.function [whole, part] whole)) :
      HasType scope (.call (.newLens runtime) [get, set] trailing) (.lens runtime whole part)
  | newAccessor {scope : TypeScope} {runtime : Source.WrittenPath}
      {name onRecord onPartial lift : Expression} {record value shape stored : CodeType}
      {trailing : Bool} (named : HasType scope name .text)
      (recordLens : HasType scope onRecord (.lens runtime record value))
      (partialLens : HasType scope onPartial (.lens runtime shape stored))
      (lifts : HasType scope lift (.function [value] stored)) :
      HasType scope (.call (.newAccessor runtime) [name, onRecord, onPartial, lift] trailing)
        (.value (.accessor runtime [record, value, shape, stored]))
  | construct {scope : TypeScope} {type : CodeType} {members : MemberTypes}
      {given : List Initializer} {trailing : Bool} (declares : scope.Declares type members)
      (once : (given.map (·.name.meaning)).Nodup)
      (every : (given.map (·.name.meaning)).Perm (members.map (·.1.meaning)))
      (fit : Fit scope members given) :
      HasType scope (.construct type given trailing) (.value (type.about scope.self))
  | function {scope : TypeScope} {parameters : List (String × CodeType)} {body : Expression}
      {result : CodeType} (gives : HasType (scope.inside parameters) body (.value result)) :
      HasType scope (.function parameters body) (.function (parameters.map Prod.snd) result)

/-- The given values are of the types of their members. -/
inductive Fit : TypeScope → MemberTypes → List Initializer → Prop where
  | nil {scope : TypeScope} {members : MemberTypes} : Fit scope members []
  | cons {scope : TypeScope} {members : MemberTypes} {field declared : Identifier}
      {value : Expression} {type : CodeType} {rest : List Initializer}
      (isMember : (declared, type) ∈ members) (same : declared.meaning = field.meaning)
      (held : HasType scope value (.value type)) (others : Fit scope members rest) :
      Fit scope members (.mk field value :: rest)

end

/-- What a parameter binds, and its type. -/
def Parameter.binding (self : CodeType) : Parameter → String × CodeType
  | .ownedSelf => ("self", self)
  | .borrowedSelf => ("self", .borrowed self)
  | .named name type => (name, type.about self)

/-- The place inside a function with a name, which is about a type. -/
def Function.scope (function : Function) (structures : List (List Identifier × MemberTypes))
    (self : CodeType) : TypeScope :=
  ⟨structures, self, function.parameters.map (Parameter.binding self),
    some (function.output.about self)⟩

/-- The body of a function is what the function says that it gives. -/
def Function.IsWellTyped (function : Function)
    (structures : List (List Identifier × MemberTypes)) (self : CodeType) : Prop :=
  HasType (function.scope structures self) function.body (.value (function.output.about self))

/-- A structure declares every member once; the functions of an implementation have names of their own
and are well typed. -/
def Item.IsWellTyped (structures : List (List Identifier × MemberTypes)) (item : Item) : Prop :=
  match item with
  | .structure _ _ _ _ fields => (fields.map (·.name.meaning)).Nodup
  | .implementation _ target _ =>
      (item.functions.map fun function => Identifier.meaning ⟨function.name⟩).Nodup ∧
        ∀ function ∈ item.functions, function.IsWellTyped structures target

/-- The structure that an item declares, with the types of its members. -/
def Item.declared? : Item → Option (List Identifier × MemberTypes)
  | .structure _ _ _ name fields => some ([name], fields.map fun field => (field.name, field.type))
  | .implementation .. => none

section

variable {Field : Type} (name : Field → Identifier) (type : Field → CodeType)

theorem fit_of_fields {scope : TypeScope} {members : MemberTypes} {fields : List Field}
    {expression : Field → Expression}
    (declared : ∀ field ∈ fields, (name field, type field) ∈ members)
    (held : ∀ field ∈ fields, HasType scope (expression field) (.value (type field))) :
    Fit scope members (fields.map fun field => .mk (name field) (expression field)) := by
  induction fields with
  | nil => exact .nil
  | cons first rest induction =>
      obtain ⟨declaredFirst, declaredRest⟩ := List.forall_mem_cons.mp declared
      obtain ⟨heldFirst, heldRest⟩ := List.forall_mem_cons.mp held
      exact .cons declaredFirst rfl heldFirst (induction declaredRest heldRest)

/-- One value for each member makes a value of the structure. -/
theorem construct_of_fields {scope : TypeScope} {built : CodeType} {fields : List Field}
    (distinct : (fields.map fun field => (name field).meaning).Nodup)
    (declares : scope.Declares built (fields.map fun field => (name field, type field)))
    {expression : Field → Expression}
    (held : ∀ field ∈ fields, HasType scope (expression field) (.value (type field)))
    (trailing : Bool) :
    HasType scope
      (.construct built (fields.map fun field => .mk (name field) (expression field)) trailing)
      (.value (built.about scope.self)) := by
  have given : (fields.map fun field => Initializer.mk (name field) (expression field)).map
      (·.name.meaning) = fields.map fun field => (name field).meaning := by
    rw [List.map_map]
    rfl
  have expected : (fields.map fun field => (name field, type field)).map (·.1.meaning) =
      fields.map fun field => (name field).meaning := by
    rw [List.map_map]
    rfl
  refine .construct declares (given ▸ distinct) (by rw [given, expected]) ?_
  exact fit_of_fields name type
    (fun field member => List.mem_map_of_mem member) held

end

end Recordsmith.Code
