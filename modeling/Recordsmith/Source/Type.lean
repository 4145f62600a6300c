import Recordsmith.Source.Generics

/-!
Reading types. The first word or mark of a type decides its form. A plus sign goes on with further
bounds only where `plus` allows it. A function trait such as `F(A) -> B` is read only as a bound.
-/

namespace Recordsmith.Source

open Reader
open Recordsmith.Lexer

/-- The words for what may begin a type. -/
def typeStarts : List String :=
  [quoted "for", "parentheses", quoted "fn", quoted "unsafe", quoted "extern", "identifier",
    quoted "::", quoted "<", quoted "dyn", "square brackets", quoted "*", quoted "&", quoted "!",
    quoted "impl", quoted "_", "lifetime"]

/-- The words for what may begin a type behind a binder. -/
def boundTypeStarts : List String :=
  ["identifier", quoted "fn", quoted "unsafe", quoted "extern", quoted "super", quoted "self",
    quoted "Self", quoted "crate"]

/-- What is missing in a trait object. -/
def objectNeedsTrait : String := "at least one trait is required for an object type"

/-- What is missing in an opaque type. -/
def opaqueNeedsTrait : String := "at least one trait must be specified"

/-- The words that begin a function pointer behind its binder. -/
def functionWords : List String := ["fn", "unsafe", "extern"]

/-- A bound that is a trait. One that is kept as it is counts as well. -/
def Bound.isTrait : Bound → Bool
  | .trait .. => true
  | .verbatim _ => true
  | .lifetime _ => false
  | .capture .. => false

section

variable (parts : Grammar)

/-- Reads an arrow and the type behind it, if they are there. -/
def output (plus : Bool) : Reader (Option WrittenType) := do
  if ← operator? "->" then some <$> parts.type plus else pure none

/-! ## Function pointers -/

/-- Reads the name of a parameter with the colon behind it, if there is one. -/
def parameterName (self : Bool) : Reader (Option String) := do
  let tokens ← ahead
  let next := afterTree tokens
  if (beginsWithIdentifier tokens || beginsWithName "_" tokens ||
      (self && beginsWithName "self" tokens)) &&
      beginsWithOperator ":" next && !beginsWithOperator "::" next then
    let name ← anyName
    operator ":"
    return some name
  return none

/-- Reads a parameter of a function pointer. A first parameter may be `self` that can change,
which is kept as it stands. -/
def pointerParameter (isFirst : Bool) (attributes : List Tree) : Reader Parameter := do
  let start ← ahead
  let beginsMutableSelf (tokens : List Lexeme) : Bool :=
    isFirst && beginsWithName "mut" tokens && beginsWithName "self" (afterTree tokens)
  let kept : Reader Parameter := do
    return .mk attributes none (.verbatim (← readSince start))
  if beginsMutableSelf start then
    word "mut"
    match ← parameterName true with
    | some _ => do
        let _ ← parts.type true
    | none => word "self"
    kept
  else
    let name ← parameterName isFirst
    if name != some "self" && beginsMutableSelf (← ahead) then
      skip 2
      kept
    else return .mk attributes name (← parts.type true)

/-- Whether the rest of the parameters stands for any arguments. -/
def beginsRest (tokens : List Lexeme) : Bool :=
  beginsWithOperator "..." tokens ||
    ((beginsWithIdentifier tokens || beginsWithName "_" tokens) &&
      beginsWithOperator ":" (afterTree tokens) &&
      beginsWithOperator "..." (afterTree (afterTree tokens)))

/-- Reads the rest of the parameters, for any arguments. -/
def pointerRest (attributes : List Tree) : Reader Tree := do
  let name ← if ← peekOperator "." then pure none else some <$> anyName
  if name.isSome then
    operator ":"
  operator "..."
  let comma ← operator? ","
  return Tree.withAttributes attributes (.node .variadic
    [(name.map Tree.word).getD Tree.nothing, Tree.operatorIf name.isSome ":", Tree.operator "...",
      Tree.operatorIf comma ","])

/-- Reads the parameters of a function pointer, up to the end of the scope or the rest of
them. -/
def pointerParameters (isFirst : Bool) : Nat → Reader (List Parameter × Bool × Tree)
  | 0 => return ([], false, Tree.nothing)
  | fuel + 1 => do
      if ← atEnd then return ([], false, Tree.nothing)
      let attributes ← outerAttributes parts
      if beginsRest (← ahead) then return ([], false, ← pointerRest attributes)
      let first ← pointerParameter parts isFirst attributes
      if ← atEnd then return ([first], false, Tree.nothing)
      operator ","
      let (others, trailing, rest) ← pointerParameters false fuel
      return (first :: others, others.isEmpty || trailing, rest)

/-- Reads the words between a binder and `fn`. -/
def pointerWords : Reader (List Token) := do
  let safety ← if ← word? "unsafe" then pure [Token.name "unsafe"] else pure []
  if ← word? "extern" then
    let tokens ← ahead
    match beginsWithText tokens, tokens with
    | true, ⟨text, _⟩ :: _ => do
        skip 1
        return safety ++ [.name "extern", text]
    | _, _ => return safety ++ [.name "extern"]
  return safety

/-- Reads a function pointer behind its binder. -/
def functionPointer (binder : Binder) : Reader WrittenType := do
  let words ← pointerWords
  word "fn"
  groupThen .parenthesis (do pointerParameters parts true (← listFuel))
    fun (parameters, trailing, rest) => do
      return .function binder words parameters trailing rest (← output parts false)

/-! ## Types that begin with a parenthesis -/

/-- Reads bounds of a trait object, each behind a plus sign. -/
def boundsAfter : Nat → Reader (List Bound)
  | 0 => return []
  | fuel + 1 => do
      if ← operator? "+" then
        let first ← parts.bound false false
        return first :: (← boundsAfter fuel)
      return []

/-- A type in parentheses as the first bound of a trait object. -/
def parenthesizedBound? : WrittenType → Option Bound
  | .path leading segments => some (.trait true .absent false leading segments)
  | .traitObject false [.trait _ binder isMaybe leading segments] false =>
      some (.trait true binder isMaybe leading segments)
  | .traitObject false [bound] false => some bound
  | _ => none

/-- Reads the elements of a tuple behind its first one and the comma. -/
def moreElements (first : WrittenType) : Reader WrittenType := do
  operator ","
  let (others, trailing) ← commaSeparated (parts.type true)
  return .tuple (first :: others) (others.isEmpty || trailing)

/-- Reads what stands between the parentheses that begin a type. If it may be the first bound of a
trait object, that bound comes with it, and whether it has to be one. -/
def insideParentheses : Reader (WrittenType × Option (Bound × Bool)) := do
  let tokens ← ahead
  if tokens.isEmpty then return (.tuple [] false, none)
  if beginsWithLifetime tokens then return (.parenthesized (← parts.type true), none)
  if beginsWithOperator "?" tokens then
    match ← traitBound parts false with
    | some (binder, isMaybe, path) =>
        return (.inferred, some (.trait true binder isMaybe path.leading path.segments, true))
    | none => refuseUnless typeStarts
  let first ← parts.type true
  if ← peekOperator "," then return (← moreElements parts first, none)
  return (.parenthesized first, (parenthesizedBound? first).map (·, false))

/-- Reads a type that begins with a parenthesis: a tuple, a type in parentheses, or a trait
object whose first bound stands in them. -/
def parenthesizedType (plus : Bool) : Reader WrittenType :=
  groupThen .parenthesis (insideParentheses parts) fun (type, first?) => do
    let goesOn ← peekOperator "+"
    match first? with
    | none => return type
    | some (first, isBound) =>
        if isBound || (plus && goesOn) then
          return .traitObject false (first :: (← boundsAfter parts (← listFuel))) false
        return type

/-! ## Types that begin with a path -/

/-- Reads bounds behind the first one, each after a plus sign; the last sign may stand alone. -/
def furtherBounds : Nat → Reader (List Bound × Bool)
  | 0 => return ([], false)
  | fuel + 1 => do
      if ← operator? "+" then
        if beginsBound false (← ahead) then
          let first ← parts.bound false false
          let (others, trailing) ← furtherBounds fuel
          return (first :: others, trailing)
        return ([], true)
      return ([], false)

/-- Reads a type that begins with a path: the path itself, an invocation, or a trait object. -/
def pathType (plus : Bool) (binder : Binder) : Reader WrittenType := do
  match ← qualifiedPath parts false with
  | .path leading segments => do
      let tokens ← ahead
      if beginsWithOperator "!" tokens && !beginsWithOperator "!=" tokens &&
          areModuleNames segments then
        skip 1
        let (delimiter, body) ← anyGroup
        return .invocation leading segments delimiter body
      if !binder.isAbsent || (plus && beginsWithOperator "+" tokens) then
        let (bounds, trailing) ← if plus then furtherBounds parts (← listFuel)
          else pure ([], false)
        return .traitObject false (.trait false binder false leading segments :: bounds) trailing
      return .path leading segments
  | other => return other

/-! ## All types -/

/-- Whether the name of something built into the compiler begins here. -/
def beginsBuiltin (tokens : List Lexeme) : Bool :=
  beginsWithName "builtin" tokens && beginsWithOperator "#" (afterTree tokens)

/-- Passes over the name of something built into the compiler and its arguments. -/
def skipBuiltin : Reader Unit := do
  word "builtin"
  operator "#"
  let _ ← identifier
  let _ ← group .parenthesis everything

/-- Reads the bounds of a trait object whose first token is at `start`. -/
def objectBounds (start : Nat) (plus : Bool) : Reader (List Bound × Bool) := do
  let (bounds, trailing) ← severalBounds parts plus false false (← listFuel)
  if bounds.any Bound.isTrait then return (bounds, trailing)
  else refuseAt objectNeedsTrait start

/-- Reads what stands between the brackets of an array or a slice. -/
def insideBrackets : Reader WrittenType := do
  let element ← parts.type true
  if ← operator? ";" then return .array element (← parts.expression true)
  return .slice element

/-- Reads a type. -/
def readType (plus : Bool) : Reader WrittenType := do
  let start ← ahead
  let startPlace ← place
  let binder ← binder parts
  let tokens ← ahead
  let isBound := !binder.isAbsent
  let beginsName := beginsWithIdentifier tokens || beginsWithOneOf pathWords tokens
  if isBound && !(beginsName || beginsWithOneOf functionWords tokens) then
    refuseUnless boundTypeStarts
  if beginsWithGroup .parenthesis tokens then parenthesizedType parts plus
  else if beginsWithOneOf functionWords tokens then functionPointer parts binder
  else if beginsBuiltin tokens then
    skipBuiltin
    return .verbatim (← readSince start)
  else if beginsName || beginsWithOperatorOf ["::", "<"] tokens then pathType parts plus binder
  else if beginsWithName "dyn" tokens then
    skip 1
    let isStarred ← operator? "*"
    let (bounds, trailing) ← objectBounds parts startPlace plus
    if isStarred then return .verbatim (← readSince start)
    return .traitObject true bounds trailing
  else if beginsWithGroup .bracket tokens then group .bracket (insideBrackets parts)
  else if beginsWithOperator "*" tokens then
    skip 1
    if ← word? "const" then return .pointer false (← parts.type false)
    unless ← word? "mut" do
      refuseUnless [quoted "const", quoted "mut"]
    return .pointer true (← parts.type false)
  else if beginsWithOperator "&" tokens then
    skip 1
    let name ← if ← peekLifetime then some <$> lifetime else pure none
    let isMutable ← word? "mut"
    return .reference name isMutable (← parts.type false)
  else if beginsWithOperator "!" tokens then
    skip 1
    return .never
  else if beginsWithName "impl" tokens then
    skip 1
    let (bounds, trailing) ← severalBounds parts plus true true (← listFuel)
    unless bounds.any Bound.isTrait do
      refuseAt opaqueNeedsTrait startPlace
    return .someTrait bounds trailing
  else if beginsWithName "_" tokens then
    skip 1
    return .inferred
  else if beginsWithLifetime tokens then
    let (bounds, trailing) ← objectBounds parts startPlace true
    return .traitObject false bounds trailing
  else refuseUnless typeStarts

end

end Recordsmith.Source
