import Recordsmith.Source.Arguments

/-!
Reading bounds, the generic parameters that have them, and the conditions on these. A bound is a
lifetime, a trait, or what an opaque type may mention; not every place takes each of them.
-/

namespace Recordsmith.Source

open Reader
open Recordsmith.Lexer

/-- Whether a bound begins here, behind a plus sign. -/
def beginsBound (constants : Bool) (tokens : List Lexeme) : Bool :=
  beginsWithAnyName tokens || beginsWithOperatorOf ["::", "?"] tokens ||
    beginsWithLifetime tokens || beginsWithGroup .parenthesis tokens ||
    (constants && beginsWithGroup .bracket tokens)

/-- Whether an angle bracket here begins generic parameters, and not a path inside a type. -/
def beginsGenerics (tokens : List Lexeme) : Bool :=
  let second := afterTree tokens
  let third := afterTree second
  beginsWithOperator "<" tokens &&
    (beginsWithOperatorOf [">", "#"] second ||
      ((beginsWithLifetime second || beginsWithIdentifier second) &&
        (beginsWithOperatorOf [">", ",", "="] third ||
          (beginsWithOperator ":" third && !beginsWithOperator "::" third))) ||
      beginsWithName "const" second)

/-- Whether a list of conditions ends here. -/
def endsConditions (tokens : List Lexeme) : Bool :=
  tokens.isEmpty || beginsWithGroup .brace tokens || beginsWithOperatorOf [",", ";", "="] tokens ||
    (beginsWithOperator ":" tokens && !beginsWithOperator "::" tokens)

/-- Reads what an opaque type may mention, up to the closing angle bracket. -/
def capturedNames : Nat → Reader (List (Bool × String) × Bool)
  | 0 => return ([], false)
  | fuel + 1 => do
      let tokens ← ahead
      if beginsWithOperator ">" tokens then return ([], false)
      let first ← if beginsWithLifetime tokens then Prod.mk true <$> lifetime
        else if beginsWithIdentifier tokens || beginsWithName "Self" tokens then
          Prod.mk false <$> anyName
        else refuseUnless ["lifetime", "identifier", quoted ">"]
      if ← peekOperator ">" then return ([first], false)
      unless ← operator? "," do
        refuseUnless [quoted ",", quoted ">"]
      let (others, trailing) ← capturedNames fuel
      return (first :: others, others.isEmpty || trailing)

section

variable (parts : Grammar)

/-! ## Generic parameters -/

/-- Reads a parameter that stands for a lifetime. -/
def lifetimeParameter (attributes : List Tree) : Reader GenericParameter := do
  let name ← lifetime
  let (bounds, trailing) ← if ← operator? ":" then
      plusUntil (beginsWithOperatorOf [",", ">"]) lifetime (← listFuel)
    else pure ([], false)
  return .lifetime attributes name bounds trailing

/-- Reads a parameter that stands for a type. -/
def typeParameter (attributes : List Tree) : Reader GenericParameter := do
  let name ← identifier
  let (bounds, trailing) ← if ← operator? ":" then
      plusUntil (beginsWithOperatorOf [",", ">", "="]) (parts.bound false true) (← listFuel)
    else pure ([], false)
  let standard ← if ← operator? "=" then some <$> parts.type true else pure none
  return .type attributes name bounds trailing standard

/-- Reads a parameter that stands for a constant. -/
def constantParameter (attributes : List Tree) : Reader GenericParameter := do
  word "const"
  let name ← identifier
  operator ":"
  let type ← parts.type true
  let standard ← if ← operator? "=" then some <$> constantArgument parts else pure none
  return .constant attributes name type standard

/-- Reads a parameter of a binder. -/
def boundParameter : Reader GenericParameter := do
  let attributes ← outerAttributes parts
  let tokens ← ahead
  if beginsWithIdentifier tokens then typeParameter parts attributes
  else if beginsWithLifetime tokens then lifetimeParameter attributes
  else if beginsWithName "const" tokens then constantParameter parts attributes
  else refuseUnless ["identifier", "lifetime", quoted "const"]

/-- Reads a parameter of a declaration, which may be a single underscore. -/
def declaredParameter : Reader GenericParameter := do
  let attributes ← outerAttributes parts
  let tokens ← ahead
  if beginsWithLifetime tokens then lifetimeParameter attributes
  else if beginsWithIdentifier tokens then typeParameter parts attributes
  else if beginsWithName "const" tokens then constantParameter parts attributes
  else if beginsWithName "_" tokens then
    return .type attributes (← anyName) [] false none
  else refuseUnless ["lifetime", "identifier", quoted "const"]

/-- Reads a binder, if there is one. -/
def binder : Reader Binder := do
  if ← word? "for" then
    let (parameters, trailing) ← angled (boundParameter parts)
    return .given parameters trailing
  return .absent

/-- Reads the generic parameters of a declaration, if there are any. -/
def generics? : Reader (Option (List GenericParameter × Bool)) := do
  if ← peekOperator "<" then some <$> angled (declaredParameter parts) else pure none

/-- Reads the generic parameters of a declaration as a piece of code. -/
def generics : Reader Tree := do
  let (parameters, trailing) := (← generics? parts).getD ([], false)
  return .generics parameters trailing

/-! ## Bounds -/

/-- Whether a trait is marked as constant; where this is not allowed the mark is refused. -/
def constantMark (isAllowed : Bool) : Reader Bool := do
  let start ← place
  let refuseMark (mark : String) : Reader Bool :=
    if isAllowed then pure true else refuseAt (quoted mark ++ " is not allowed here") start
  if ← peekGroup .bracket then
    group .bracket (word "const")
    refuseMark "[const]"
  else if ← word? "const" then refuseMark "const"
  else return false

/-- Reads a trait as a bound. Its last name may have the inputs of a function. There is none for
a trait that is marked as constant. -/
def traitBound (constants : Bool) : Reader (Option (Binder × Bool × WrittenPath)) := do
  let early ← binder parts
  let isConstant ← constantMark constants
  let signPlace ← place
  let isMaybe ← operator? "?"
  let binder ← if isMaybe && early.isAbsent then binder parts else pure early
  let ⟨leading, segments⟩ ← argumentPath parts false
  let segments ← if (lastArguments segments).isEmpty && beginsInputs (← ahead) then do
      let _ ← operator? "::"
      pure (withLastArguments (← calledArguments parts) segments)
    else pure segments
  if isMaybe && !binder.isAbsent then
    refuseAt "`for<...>` binder not allowed with `?` trait polarity modifier" signPlace
  return if isConstant then none else some (binder, isMaybe, ⟨leading, segments⟩)

/-- Reads a bound. -/
def readBound (captures constants : Bool) : Reader Bound := do
  let start ← ahead
  if beginsWithLifetime start then return .lifetime (← lifetime)
  if beginsWithName "use" start then
    let usePlace ← place
    skip 1
    operator "<"
    let (names, trailing) ← capturedNames (← listFuel)
    operator ">"
    if captures then return .capture names trailing
    else refuseAt "`use<...>` precise capturing syntax is not allowed here" usePlace
  let isParenthesized := beginsWithGroup .parenthesis start
  let found ← if isParenthesized then group .parenthesis (traitBound parts constants)
    else traitBound parts constants
  match found with
  | some (binder, isMaybe, path) =>
      return .trait isParenthesized binder isMaybe path.leading path.segments
  | none => return .verbatim (← readSince start)

/-- Reads at least one bound, and more behind plus signs if `plus` allows them. -/
def severalBounds (plus captures constants : Bool) : Nat → Reader (List Bound × Bool)
  | 0 => return ([], false)
  | fuel + 1 => do
      let first ← parts.bound captures constants
      unless plus do return ([first], false)
      unless ← operator? "+" do return ([first], false)
      unless beginsBound constants (← ahead) do return ([first], true)
      let (others, trailing) ← severalBounds plus captures constants fuel
      return (first :: others, trailing)

/-- Reads bounds up to the place where `ends` holds; between two of them there has to be a plus
sign. -/
def boundsBefore (constants : Bool) (ends : List Lexeme → Bool) : Nat → Reader (List Bound × Bool)
  | 0 => return ([], false)
  | fuel + 1 => do
      if ends (← ahead) then return ([], false)
      let first ← parts.bound false constants
      if ends (← ahead) then return ([first], false)
      operator "+"
      let (others, trailing) ← boundsBefore constants ends fuel
      return (first :: others, others.isEmpty || trailing)

/-! ## Conditions -/

/-- Reads a condition on a lifetime or a type. -/
def condition : Reader Tree := do
  let tokens ← ahead
  if beginsWithLifetime tokens && beginsWithOperator ":" (afterTree tokens) then
    let name ← lifetime
    operator ":"
    let (bounds, trailing) ← plusUntil
      (fun tokens => endsConditions tokens || beginsWithOperator ":" tokens) lifetime (← listFuel)
    return .node .lifetimeCondition [Tree.lifetime name, Tree.operator ":",
      .bounds (bounds.map Bound.lifetime) trailing]
  let binder ← binder parts
  let type ← parts.type true
  operator ":"
  let (bounds, trailing) ← plusUntil endsConditions (parts.bound false true) (← listFuel)
  return .node .typeCondition [.binder binder, .type type, Tree.operator ":",
    .bounds bounds trailing]

/-- Reads conditions with commas between them. -/
def conditionList : Nat → Reader (List Tree × Bool)
  | 0 => return ([], false)
  | fuel + 1 => do
      if endsConditions (← ahead) then return ([], false)
      let first ← condition parts
      if ← operator? "," then
        let (others, trailing) ← conditionList fuel
        return (first :: others, others.isEmpty || trailing)
      return ([first], false)

/-- Reads the conditions on generic parameters, if there is a word for them. An empty list of
conditions is not there in the piece that is read. -/
def conditions? : Reader (Option Tree) := do
  if ← word? "where" then
    if beginsGenerics (← ahead) then
      refuse "generic parameters on `where` clauses are reserved for future use"
    let (found, trailing) ← conditionList parts (← listFuel)
    return some (if found.isEmpty then Tree.nothing
      else .node .conditions [Tree.word "where", Tree.commaList found trailing])
  return none

/-- Reads the conditions on generic parameters, if there are any. -/
def conditions : Reader Tree := do
  return (← conditions? parts).getD Tree.nothing

end

end Recordsmith.Source
