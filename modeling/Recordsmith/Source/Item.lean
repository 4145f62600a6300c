import Recordsmith.Source.Declaration
import Recordsmith.Source.Signature
import Recordsmith.Source.Statement

/-!
Reading items: functions, modules, traits, implementations and the like, and the members of those
that have some. What has a form that is taken only to be refused later is kept as it stands.
-/

namespace Recordsmith.Source

open Reader
open Recordsmith.Lexer

/-- Whether the path of an invocation begins here. -/
def beginsInvocation (tokens : List Lexeme) : Bool :=
  beginsWithIdentifier tokens || beginsWithOneOf ["self", "super", "crate"] tokens ||
    beginsWithOperator "::" tokens

/-- The words for what may begin the path of an invocation. -/
def invocationStarts : List String :=
  ["identifier", quoted "self", quoted "super", quoted "crate", quoted "::"]

/-- The words for what may begin an item without a visibility. -/
def itemStarts : List String :=
  ["fn", "extern", "use", "static", "const", "unsafe", "mod", "type", "struct", "enum", "union",
    "trait", "auto", "impl", "default", "macro"].map quoted

/-- Where the conditions of a type may stand. -/
inductive ConditionPlace where
  | front
  | behind
  | anywhere
  deriving DecidableEq, Repr

/-- Whether a list of bounds of a type ends here. -/
def endsTypeBounds (tokens : List Lexeme) : Bool :=
  beginsWithName "where" tokens || beginsWithOperatorOf ["=", ";"] tokens

section

variable (parts : Grammar)

/-! ## Pieces of items -/

/-- What was read since `start`, kept as it stands. -/
def keptSince (start : List Lexeme) : Reader Tree := do
  return .node .verbatim [.leaf (← readSince start)]

/-- Reads an identifier or a single underscore, where one of the two is expected. -/
def constantName : Reader String := do
  let tokens ← ahead
  if beginsWithIdentifier tokens || beginsWithName "_" tokens then anyName
  else refuseUnless ["identifier", quoted "_"]

/-- Reads the sign of a value and the value, if they are there. -/
def value? : Reader (Option Tree) := do
  if ← operator? "=" then some <$> parts.expression true else pure none

/-- Reads a constant from its keyword on. There is none for one that has parameters or
conditions, or no value where it needs one. -/
def constantItem (visibility : Visibility) (isDefault needsValue : Bool) : Reader (Option Tree) := do
  word "const"
  let name ← constantName
  let parameters ← generics? parts
  operator ":"
  let type ← parts.type true
  let value ← value? parts
  let conditions ← conditions? parts
  operator ";"
  if parameters.isSome || conditions.isSome || (needsValue && value.isNone) then return none
  return some (.node .constantItem
    [visibility.tree, Tree.wordIf isDefault "default", Tree.word "const", Tree.word name,
      Tree.operator ":", .type type, Tree.operatorIf value.isSome "=", value.getD Tree.nothing,
      Tree.operator ";"])

/-- Reads a type with a name, from its keyword on. Says whether it has a colon and whether it has
a definition. -/
def typeItem (visibility : Visibility) (isDefault : Bool) (place : ConditionPlace) :
    Reader (Tree × Bool × Bool) := do
  word "type"
  let name ← identifier
  let parameters ← generics parts
  let hasColon ← operator? ":"
  let (bounds, trailing) ← if hasColon then do
      boundsBefore parts true endsTypeBounds (← listFuel)
    else pure ([], false)
  let front ← if place == .behind then pure none else conditions? parts
  let hasType ← operator? "="
  let type ← if hasType then Tree.type <$> parts.type true else pure Tree.nothing
  let behind ← if place == .front || front.isSome then pure none else conditions? parts
  operator ";"
  let tree := Tree.node .typeAlias
    [visibility.tree, Tree.wordIf isDefault "default", Tree.word "type", Tree.word name,
      parameters, Tree.operatorIf (!bounds.isEmpty) ":", .bounds bounds trailing,
      front.getD Tree.nothing, Tree.operatorIf hasType "=", type, behind.getD Tree.nothing,
      Tree.operator ";"]
  return (tree, hasColon, hasType)

/-- Reads an invocation that stands among items; it ends with a semicolon unless it has braces. A
name may stand in it where `names` allows one. -/
def invocationItem (names : Bool) : Reader Tree := do
  let path ← modulePath
  operator "!"
  let tokens ← ahead
  let name ← if names && (beginsWithIdentifier tokens || beginsWithName "try" tokens) then
      Tree.word <$> anyName
    else pure Tree.nothing
  let (delimiter, body) ← anyGroup
  let isEnded := delimiter != .brace
  if isEnded then
    operator ";"
  return .node .invocationItem
    [.node .invocation [path.tree, Tree.operator "!", name, .group delimiter [.leaf body]],
      Tree.operatorIf isEnded ";"]

/-- Reads a function with its body. -/
def functionItem (visibility : Visibility) (isDefault : Bool) (signature : Tree) :
    Reader Tree := do
  return .node .function
    [visibility.tree, Tree.wordIf isDefault "default", signature, ← statementBody parts]

/-- A function without a body. -/
def functionHead (visibility : Visibility) (signature : Tree) : Tree :=
  .node .function [visibility.tree, Tree.nothing, signature, Tree.operator ";"]

/-! ## Members -/

/-- Reads a foreign item. -/
def foreignMember : Reader Tree := do
  let start ← ahead
  let attributes ← outerAttributes parts
  let visibility ← Visibility.reader
  let tokens ← ahead
  if beginsSignature true tokens then
    let (signature, isSafe) ← signature parts true
    let hasBody ← peekGroup .brace
    if hasBody then
      let _ ← statementBody parts
    else operator ";"
    if isSafe || hasBody then keptSince start
    else return (functionHead visibility signature).withAttributes attributes
  else if beginsWithName "static" tokens || (beginsWithOneOf ["unsafe", "safe"] tokens &&
      beginsWithName "static" (afterTree tokens)) then
    let isMarked := !beginsWithName "static" tokens
    if isMarked then
      skip 1
    word "static"
    let isMutable ← word? "mut"
    let name ← identifier
    operator ":"
    let type ← parts.type true
    let value ← value? parts
    operator ";"
    if isMarked || value.isSome then keptSince start
    else return Tree.withAttributes attributes (.node .staticItem
      [visibility.tree, Tree.word "static", Tree.wordIf isMutable "mut", Tree.word name,
        Tree.operator ":", .type type, Tree.nothing, Tree.nothing, Tree.operator ";"])
  else if beginsWithName "type" tokens then
    let (tree, hasColon, hasType) ← typeItem parts visibility false .anywhere
    if hasColon || hasType then keptSince start else return tree.withAttributes attributes
  else if visibility.isInherited && beginsInvocation tokens then
    return (← invocationItem false).withAttributes attributes
  else refuseUnless ([quoted "fn", quoted "static", quoted "type"] ++
    (if visibility.isInherited then invocationStarts else []))

/-- Reads a member of a trait. Visibilities and the word `default` are taken and kept. -/
def traitMember : Reader Tree := do
  let start ← ahead
  let attributes ← outerAttributes parts
  let visibility ← Visibility.reader
  let isDefault ← word? "default"
  let tokens ← ahead
  let isPlain := visibility.isInherited && !isDefault
  let finish (tree : Tree) : Reader Tree :=
    if isPlain then return tree.withAttributes attributes else keptSince start
  if beginsSignature false tokens then
    let (signature, _) ← signature parts false
    if ← peekGroup .brace then finish (← functionItem parts .inherited false signature)
    else
      unless ← operator? ";" do
        refuseUnless ["curly braces", quoted ";"]
      finish (functionHead .inherited signature)
  else if beginsWithName "const" tokens then
    let next := afterTree tokens
    if beginsWithOneOf ["async", "unsafe", "extern"] next then
      let _ ← signature parts false
    unless beginsWithIdentifier next || beginsWithName "_" next do
      skip 1
      refuseUnless (["identifier"] ++ ["_", "async", "unsafe", "extern", "fn"].map quoted)
    match ← constantItem parts .inherited false false with
    | some tree => finish tree
    | none => keptSince start
  else if beginsWithName "type" tokens then
    let (tree, _, _) ← typeItem parts .inherited false .behind
    finish tree
  else if isPlain && beginsInvocation tokens then finish (← invocationItem false)
  else refuseUnless ([quoted "fn", quoted "const", quoted "type"] ++
    (if isPlain then invocationStarts else []))

/-- Reads a member of an implementation. -/
def implementationMember : Reader Tree := do
  let start ← ahead
  let attributes ← outerAttributes parts
  let visibility ← Visibility.reader
  let beforeDefault ← ahead
  let isDefault := beginsWithName "default" beforeDefault &&
    !beginsWithOperator "!" (afterTree beforeDefault)
  if isDefault then
    skip 1
  let tokens ← ahead
  if beginsSignature false tokens then
    let (signature, _) ← signature parts false
    if ← operator? ";" then keptSince start
    else return (← functionItem parts visibility isDefault signature).withAttributes attributes
  else if beginsWithName "const" tokens then
    match ← constantItem parts visibility isDefault true with
    | some tree => return tree.withAttributes attributes
    | none => keptSince start
  else if beginsWithName "type" tokens then
    let (tree, hasColon, hasType) ← typeItem parts visibility isDefault .behind
    if hasColon || !hasType then keptSince start else return tree.withAttributes attributes
  else if visibility.isInherited && !isDefault && beginsInvocation tokens then
    return (← invocationItem false).withAttributes attributes
  else refuseUnless ((if isDefault then [] else [quoted "default"]) ++
    [quoted "fn", quoted "const", quoted "type"] ++
    (if visibility.isInherited && !isDefault then invocationStarts else []))

/-! ## Items with members -/

/-- Reads the braces of foreign items behind the words in front of them. -/
def foreignModule : Reader Tree := do
  let isUnsafe ← word? "unsafe"
  word "extern"
  let text ← text?
  return .node .foreignModule [Tree.wordIf isUnsafe "unsafe", Tree.word "extern", .leaf text,
    ← braced parts (many (foreignMember parts))]

/-- Reads a module. -/
def moduleItem (visibility : Visibility) : Reader Tree := do
  let isUnsafe ← word? "unsafe"
  word "mod"
  let name ← if ← peekName "try" then anyName else identifier
  let item : Reader Tree := do
    let start ← ahead
    parts.item start (← outerAttributes parts)
  let body ← if ← peekGroup .brace then braced parts (many item)
    else do
      unless ← operator? ";" do
        refuseUnless [quoted ";", "curly braces"]
      pure (Tree.operator ";")
  return .node .moduleItem
    [visibility.tree, Tree.wordIf isUnsafe "unsafe", Tree.word "mod", Tree.word name, body]

/-- Whether the bounds of a trait end here. -/
def endsSupertraits (tokens : List Lexeme) : Bool :=
  beginsWithName "where" tokens || beginsWithGroup .brace tokens

/-- Reads a trait, or another name for traits if nothing marks it as a trait of its own. -/
def traitItem (visibility : Visibility) : Reader Tree := do
  let isUnsafe ← word? "unsafe"
  let isAuto ← word? "auto"
  word "trait"
  let name ← identifier
  let parameters ← generics parts
  let tokens ← ahead
  let isMarked := isUnsafe || isAuto
  unless isMarked || beginsWithOperatorOf [":", "="] tokens || endsSupertraits tokens do
    refuseUnless ["curly braces", quoted ":", quoted "where", quoted "="]
  if !isMarked && beginsWithOperator "=" tokens then
    skip 1
    let (bounds, trailing) ← boundsBefore parts false
      (fun tokens => beginsWithName "where" tokens || beginsWithOperator ";" tokens) (← listFuel)
    let conditions ← conditions parts
    operator ";"
    return .node .traitAlias [visibility.tree, Tree.word "trait", Tree.word name, parameters,
      Tree.operator "=", .bounds bounds trailing, conditions, Tree.operator ";"]
  let hasColon ← operator? ":"
  let (bounds, trailing) ← if hasColon then do
      boundsBefore parts true endsSupertraits (← listFuel)
    else pure ([], false)
  let conditions ← conditions parts
  return .node .traitItem
    [visibility.tree, Tree.wordIf isUnsafe "unsafe", Tree.wordIf isAuto "auto", Tree.word "trait",
      Tree.word name, parameters, Tree.operatorIf (!bounds.isEmpty) ":", .bounds bounds trailing,
      conditions, ← braced parts (many (traitMember parts))]

/-- Reads an implementation. There is none for one with a visibility or with a constant trait, and
for one of something that is no path. -/
def implementation (visibility : Visibility) : Reader (Option Tree) := do
  let isDefault ← word? "default"
  let isUnsafe ← word? "unsafe"
  word "impl"
  let parameters ← if beginsGenerics (← ahead) then generics parts
    else pure (.generics [] false)
  let tokens ← ahead
  let isQuestioned := beginsWithOperator "?" tokens && beginsWithName "const" (afterTree tokens)
  let isConstant := isQuestioned || beginsWithName "const" tokens
  if isConstant then
    skip (if isQuestioned then 2 else 1)
  let signPlace ← place
  let tokens ← ahead
  let isNegative := beginsWithOperator "!" tokens && !beginsWithGroup .brace (afterTree tokens)
  if isNegative then
    skip 1
  let first ← parts.type true
  let isFor ← word? "for"
  if isNegative && !isFor then refuseAt "inherent impls cannot be negative" signPlace
  let target ← if isFor then parts.type true else pure first
  let conditions ← conditions parts
  let body ← braced parts (many (implementationMember parts))
  let isPath := match first with
    | .path .. => true
    | _ => false
  if !visibility.isInherited || isConstant || (isFor && !isPath) then return none
  return some (.node .implementation
    [Tree.wordIf isDefault "default", Tree.wordIf isUnsafe "unsafe", Tree.word "impl", parameters,
      Tree.operatorIf isNegative "!", if isFor then .type first else Tree.nothing,
      Tree.wordIf isFor "for", .type target, conditions, body])

/-! ## Items of names -/

/-- Reads the trees between the braces of a declaration with `use`. There is none if one of them
begins with two colons, where this is allowed. -/
def useTrees (mayBeRooted : Bool) : Nat → Reader (Option (List Tree × Bool))
  | 0 => return some ([], false)
  | fuel + 1 => do
      if ← atEnd then return some ([], false)
      let isRooted ← if mayBeRooted then operator? "::" else pure false
      let first ← parts.useTree (mayBeRooted && !isRooted)
      let first := if isRooted then none else first
      if ← atEnd then return first.map ([·], false)
      operator ","
      let others ← useTrees mayBeRooted fuel
      match first, others with
      | some first, some (others, trailing) =>
          return some (first :: others, others.isEmpty || trailing)
      | _, _ => return none

/-- Reads what a declaration with `use` names. -/
def readUseTree (mayBeRooted : Bool) : Reader (Option Tree) := do
  let tokens ← ahead
  if beginsWithIdentifier tokens || beginsWithOneOf ["self", "super", "crate", "try"] tokens then
    let name ← Tree.word <$> anyName
    if ← operator? "::" then
      return (← parts.useTree false).map fun inner =>
        .node .usePath [name, Tree.operator "::", inner]
    if ← word? "as" then
      let tokens ← ahead
      unless beginsWithIdentifier tokens || beginsWithName "_" tokens do
        refuse "expected identifier or underscore"
      return some (.node .useRename [name, Tree.word "as", Tree.word (← anyName)])
    return some (.node .useName [name])
  else if ← operator? "*" then return some (.node .useName [Tree.operator "*"])
  else if beginsWithGroup .brace tokens then
    let found ← group .brace do
      useTrees parts mayBeRooted (← listFuel)
    return found.map fun (trees, trailing) =>
      .node .useGroup [.group .brace [Tree.commaList trees trailing]]
  else refuseUnless (["identifier"] ++ ["self", "super", "crate", "try", "*"].map quoted ++
    ["curly braces"])

/-- Reads a declaration with `use`. -/
def useItem (visibility : Visibility) : Reader (Option Tree) := do
  word "use"
  let leading ← operator? "::"
  let found ← parts.useTree (!leading)
  operator ";"
  return found.map fun tree => .node .useItem
    [visibility.tree, Tree.word "use", Tree.operatorIf leading "::", tree, Tree.operator ";"]

/-- Reads the name of an external library. -/
def externalName (visibility : Visibility) : Reader Tree := do
  word "extern"
  word "crate"
  let name ← if ← peekName "self" then anyName else identifier
  let isRenamed ← word? "as"
  let other ← if isRenamed then Tree.word <$> identifierOrLine else pure Tree.nothing
  operator ";"
  return .node .externalName [visibility.tree, Tree.word "extern", Tree.word "crate",
    Tree.word name, Tree.wordIf isRenamed "as", other, Tree.operator ";"]

/-- Reads an item that begins with `extern` and is no function. -/
def externalItem (visibility : Visibility) (startPlace : Nat) : Reader Tree := do
  let tokens ← ahead
  let next := afterTree tokens
  if beginsWithName "crate" next then externalName visibility
  else
    let hasText := beginsWithText next
    unless beginsWithGroup .brace (if hasText then afterTree next else next) do
      skip (if hasText then 2 else 1)
      refuseUnless (if hasText then ["curly braces"]
        else [quoted "crate", "curly braces", "string literal"])
    unless visibility.isInherited do
      refuseAt "expected `extern`" startPlace
    foreignModule parts

/-- Reads a static value. There is none for one without a type or without a value. -/
def staticItem (visibility : Visibility) : Reader (Option Tree) := do
  word "static"
  let isMutable ← word? "mut"
  let name ← identifier
  if ← operator? "=" then
    let _ ← parts.expression true
    operator ";"
    return none
  operator ":"
  let type ← parts.type true
  if ← operator? ";" then return none
  operator "="
  let value ← parts.expression true
  operator ";"
  return some (.node .staticItem
    [visibility.tree, Tree.word "static", Tree.wordIf isMutable "mut", Tree.word name,
      Tree.operator ":", .type type, Tree.operator "=", value, Tree.operator ";"])

/-- Passes over a declaration of code that writes code. -/
def skipRules : Reader Unit := do
  word "macro"
  let _ ← identifier
  let hasParameters ← peekGroup .parenthesis
  if hasParameters then
    let _ ← group .parenthesis everything
  if ← peekGroup .brace then
    let _ ← group .brace everything
  else refuseUnless ((if hasParameters then [] else ["parentheses"]) ++ ["curly braces"])

/-! ## All items -/

/-- Reads an item behind its attributes. -/
def readItem (start : List Lexeme) (attributes : List Tree) : Reader Tree := do
  let startPlace ← place
  let visibility ← Visibility.reader
  let tokens ← ahead
  let next := afterTree tokens
  let begins (name : String) : Bool := beginsWithName name tokens
  let orKept (found : Option Tree) : Reader Tree := match found with
    | some tree => return tree.withAttributes attributes
    | none => keptSince start
  if beginsSignature false tokens then
    let (signature, _) ← signature parts false
    if ← operator? ";" then keptSince start
    else orKept (some (← functionItem parts visibility false signature))
  else if begins "extern" then orKept (some (← externalItem parts visibility startPlace))
  else if begins "use" then orKept (← useItem parts visibility)
  else if begins "static" then orKept (← staticItem parts visibility)
  else if begins "const" then orKept (← constantItem parts visibility false true)
  else if begins "unsafe" then
    if beginsWithName "trait" next ||
        (beginsWithName "auto" next && beginsWithName "trait" (afterTree next)) then
      orKept (some (← traitItem parts visibility))
    else if beginsWithName "impl" next then orKept (← implementation parts visibility)
    else if beginsWithName "extern" next then
      unless visibility.isInherited do
        refuseAt "expected `extern`" startPlace
      orKept (some (← foreignModule parts))
    else if beginsWithName "mod" next then orKept (some (← moduleItem parts visibility))
    else
      skip 1
      refuseUnless (["trait", "auto", "impl", "extern", "mod"].map quoted)
  else if begins "mod" then orKept (some (← moduleItem parts visibility))
  else if begins "type" then
    let (tree, hasColon, hasType) ← typeItem parts visibility false .front
    orKept (if hasColon || !hasType then none else some tree)
  else if begins "struct" || begins "enum" ||
      (begins "union" && beginsWithIdentifier next) then
    orKept (some (← Declaration.afterVisibility parts [] visibility).tree)
  else if begins "trait" || (begins "auto" && beginsWithName "trait" next) then
    orKept (some (← traitItem parts visibility))
  else if begins "impl" || (begins "default" && !beginsWithOperator "!" next) then
    orKept (← implementation parts visibility)
  else if begins "macro" then
    skipRules
    keptSince start
  else if visibility.isInherited && beginsInvocation tokens then
    orKept (some (← invocationItem true))
  else refuseUnless (itemStarts ++ (if visibility.isInherited then invocationStarts else []))

end

end Recordsmith.Source
