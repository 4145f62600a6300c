import Recordsmith.Source.Arguments

/-!
Reading patterns. A name that nothing follows binds a value, and paths, literals and ranges stand
for themselves. An old range of three dots is read as one that includes its end.
-/

namespace Recordsmith.Source

open Reader
open Recordsmith.Lexer

/-- The words for what may begin a pattern. -/
def patternStarts : List String :=
  ["identifier", quoted "::", quoted "<", quoted "_", "literal", quoted "const", quoted "ref",
    quoted "mut", quoted "&", "parentheses", "square brackets", quoted ".."]

/-- The words for what may begin the end of a range. -/
def rangeBoundStarts : List String :=
  ["literal", "identifier", quoted "::", quoted "<", quoted "self", quoted "Self", quoted "super",
    quoted "crate", quoted "const"]

/-- The complaint of a range that includes an end it does not have. -/
def noRangeEnd : String := "expected range upper bound"

/-- Whether a pattern begins here that is a path or begins with one. -/
def beginsPathPattern (tokens : List Lexeme) : Bool :=
  let next := afterTree tokens
  (beginsWithIdentifier tokens && (beginsWithOperatorOf ["::", "!", ".."] next ||
    beginsWithGroup .brace next || beginsWithGroup .parenthesis next)) ||
    (beginsWithName "self" tokens && beginsWithOperator "::" next) ||
    beginsWithOperatorOf ["::", "<"] tokens || beginsWithOneOf ["Self", "super", "crate"] tokens

/-- Whether a range has no end, because something else begins here. -/
def endsPatternRange (tokens : List Lexeme) : Bool :=
  tokens.isEmpty || beginsWithOperatorOf ["|", "=", ",", ";"] tokens || beginsWithName "if" tokens ||
    (beginsWithOperator ":" tokens && !beginsWithOperator "::" tokens)

/-- Whether a further alternative follows. -/
def beginsAlternative (tokens : List Lexeme) : Bool :=
  beginsWithOperator "|" tokens && !beginsWithOperatorOf ["||", "|="] tokens

/-- Reads the dots of a range between patterns; `isInclusive` says whether its end belongs to
it. -/
def patternDots : Reader (Tree × Bool) := do
  if ← operator? "..=" then return (Tree.operator "..=", true)
  if ← operator? "..." then return (Tree.operator "..=", true)
  operator ".."
  return (Tree.operator "..", false)

/-- Reads the dots of a range. -/
def rangeDots : Reader (Tree × Bool) := do
  if ← operator? "..=" then return (Tree.operator "..=", true)
  if ← peekOperator "..." then
    refuseUnless [quoted "..", quoted "..="]
  operator ".."
  return (Tree.operator "..", false)

/-- Reads the number of a member without a name. -/
def memberNumber (text : String) (place : Nat) : Reader Tree :=
  match Literal.integerValue? text with
  | none => refuseAt "expected integer literal" place
  | some (value, suffix) =>
      if suffix ≠ "" then refuseAt "expected unsuffixed integer" place
      else if value < 0x100000000 then return .leaf [.literal (toString value)]
      else refuseAt "number too large to fit in target type" place

/-- Reads the name or the number of a member; says whether it is a name. -/
def member : Reader (Tree × Bool) := do
  let tokens ← ahead
  match tokens with
  | ⟨.literal text, place⟩ :: _ =>
      if (Literal.integerValue? text).isNone then refuse "expected identifier or integer"
      skip 1
      return (← memberNumber text place, false)
  | _ =>
      if beginsWithIdentifier tokens then return (Tree.word (← anyName), true)
      refuse "expected identifier or integer"

section

variable (parts : Grammar)

/-- Reads further alternatives, each behind a bar. -/
def moreAlternatives : Nat → Reader (List Tree)
  | 0 => return []
  | fuel + 1 => do
      if beginsAlternative (← ahead) then
        operator "|"
        let first ← parts.pattern
        return first :: (← moreAlternatives fuel)
      return []

/-- Reads a pattern with alternatives; a bar may stand in front of the first one. -/
def alternatives : Reader Tree := do
  let leading ← operator? "|"
  let first ← parts.pattern
  let others ← moreAlternatives parts (← listFuel)
  if leading || !others.isEmpty then
    return .node .alternatives [Tree.operatorIf leading "|",
      .node .list (Tree.separated "|" false (first :: others))]
  return first

/-- Reads a group of patterns with commas between them. -/
def patternGroup (delimiter : Delimiter) : Reader Tree := do
  let (elements, trailing) ← groupOf delimiter (alternatives parts)
  return .group delimiter [Tree.commaList elements trailing]

/-- Reads the end of a range, if there is one. -/
def rangeBound? : Reader (Option Tree) := do
  let tokens ← ahead
  if endsPatternRange tokens then return none
  if beginsWithLiteral tokens then return some (← literal)
  if beginsWithIdentifier tokens || beginsWithOneOf pathWords tokens ||
      beginsWithOperatorOf ["::", "<"] tokens then
    return some (.node .path [.type (← qualifiedPath parts true)])
  if beginsWithName "const" tokens then
    skip 1
    return some (.node .block [Tree.nothing, Tree.word "const", ← statementBody parts])
  refuseUnless rangeBoundStarts

/-- Reads the rest of a range behind its start. -/
def rangeFrom (start : Tree) : Reader Tree := do
  let (dots, isInclusive) ← patternDots
  match ← rangeBound? parts with
  | some limit => return .node .range [start, dots, limit]
  | none =>
      if isInclusive then refuse noRangeEnd
      return .node .range [start, dots, Tree.nothing]

/-- Reads a range without a start, or the sign for all that is left. -/
def rangeWithoutStart : Reader Tree := do
  let (dots, isInclusive) ← rangeDots
  match ← rangeBound? parts with
  | some limit => return .node .range [Tree.nothing, dots, limit]
  | none =>
      if isInclusive then refuse noRangeEnd
      return .node .remainder [dots]

/-- Reads a pattern for a member with its name: the member, a colon and a pattern, or a name that
is bound to the member. -/
def fieldPattern : Reader Tree := do
  let start ← ahead
  let isBoxed ← word? "box"
  let byReference ← word? "ref"
  let isMutable ← word? "mut"
  let isMarked := isBoxed || byReference || isMutable
  let (name, isName) ← if isMarked then do pure (Tree.word (← identifier), true) else member
  if !isName || (!isMarked && (← peekOperator ":")) then
    operator ":"
    return .node .fieldPattern [name, Tree.operator ":", ← alternatives parts]
  let kept ← readSince start
  let pattern := if isBoxed then Tree.node .verbatim [.leaf kept]
    else .node .binding [Tree.wordIf byReference "ref", Tree.wordIf isMutable "mut", name,
      Tree.nothing, Tree.nothing]
  return .node .fieldPattern [Tree.nothing, Tree.nothing, pattern]

/-- Reads patterns for members, up to the end of the scope or the sign for the others. -/
def fieldPatterns : Nat → Reader (List Tree × Bool × Tree)
  | 0 => return ([], false, Tree.nothing)
  | fuel + 1 => do
      if ← atEnd then return ([], false, Tree.nothing)
      let attributes ← outerAttributes parts
      if ← operator? ".." then
        return ([], false, Tree.withAttributes attributes (.node .remainder [Tree.operator ".."]))
      let first := Tree.withAttributes attributes (← fieldPattern parts)
      if ← atEnd then return ([first], false, Tree.nothing)
      operator ","
      let (others, trailing, rest) ← fieldPatterns fuel
      return (first :: others, others.isEmpty || trailing, rest)

/-- Reads a pattern that begins with a path. -/
def pathPattern : Reader Tree := do
  let type ← qualifiedPath parts true
  let path := Tree.node .path [.type type]
  let tokens ← ahead
  let isModulePath := match type with
    | .path _ segments => areModuleNames segments
    | _ => false
  if isModulePath && beginsWithOperator "!" tokens && !beginsWithOperator "!=" tokens then
    skip 1
    let (delimiter, body) ← anyGroup
    return .node .invocation [path, Tree.operator "!", Tree.nothing,
      .group delimiter [.leaf body]]
  if beginsWithGroup .brace tokens then
    let (fields, trailing, rest) ← group .brace do
      fieldPatterns parts (← listFuel)
    return .node .structPattern [path, .group .brace [Tree.commaList fields trailing, rest]]
  if beginsWithGroup .parenthesis tokens then
    return .node .tupleStructPattern [path, ← patternGroup parts .parenthesis]
  if beginsWithOperator ".." tokens then rangeFrom parts path
  else return path

/-- Reads a pattern that binds a name. -/
def bindingPattern : Reader Tree := do
  let byReference ← word? "ref"
  let isMutable ← word? "mut"
  let name ← if ← peekName "self" then anyName else identifier
  let isBound ← operator? "@"
  let inner ← if isBound then parts.pattern else pure Tree.nothing
  return .node .binding [Tree.wordIf byReference "ref", Tree.wordIf isMutable "mut",
    Tree.word name, Tree.operatorIf isBound "@", inner]

/-- Reads a tuple of patterns, or one pattern in parentheses. The sign for all that is left makes
a tuple by itself. -/
def tuplePattern : Reader Tree := do
  let (elements, trailing) ← groupOf .parenthesis (alternatives parts)
  match elements, trailing with
  | [single], false =>
      if single.is .remainder then
        return .node .tuplePattern [.group .parenthesis [Tree.commaList elements false]]
      return .node .parenthesized [.group .parenthesis [single]]
  | _, _ => return .node .tuplePattern [.group .parenthesis [Tree.commaList elements trailing]]

/-- Reads an element of a slice; an open range has to stand in parentheses there. -/
def sliceElement : Reader Tree := do
  let startPlace ← place
  let element ← alternatives parts
  match element with
  | .node .range [first, _, limit] =>
      if first.isNothing || limit.isNothing then
        refuseAt "range pattern is not allowed unparenthesized inside slice pattern" startPlace
      return element
  | _ => return element

/-- Reads a pattern without alternatives. -/
def readPattern : Reader Tree := do
  let start ← ahead
  if beginsPathPattern start then pathPattern parts
  else if beginsWithName "_" start then
    skip 1
    return .node .placeholder [Tree.word "_"]
  else if beginsWithName "box" start then
    skip 1
    let _ ← parts.pattern
    return .node .verbatim [.leaf (← readSince start)]
  else if beginsWithOperator "-" start || beginsWithLiteral start ||
      beginsWithName "const" start then
    match ← rangeBound? parts with
    | some first => if ← peekOperator ".." then rangeFrom parts first else return first
    | none => refuseUnless patternStarts
  else if beginsWithOneOf ["ref", "mut", "self"] start || beginsWithIdentifier start then
    bindingPattern parts
  else if beginsWithOperator "&" start then
    skip 1
    let isMutable ← word? "mut"
    return .node .referencePattern [Tree.operator "&", Tree.wordIf isMutable "mut",
      ← parts.pattern]
  else if beginsWithGroup .parenthesis start then tuplePattern parts
  else if beginsWithGroup .bracket start then
    let (elements, trailing) ← groupOf .bracket (sliceElement parts)
    return .node .slicePattern [.group .bracket [Tree.commaList elements trailing]]
  else if beginsWithOperator ".." start && !beginsWithOperator "..." start then
    rangeWithoutStart parts
  else refuseUnless patternStarts

end

end Recordsmith.Source
