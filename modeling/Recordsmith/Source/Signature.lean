import Recordsmith.Source.Expression

/-!
Reading the signatures of functions. The first parameter may be the receiver of a method, and the
last one may stand for any further arguments.
-/

namespace Recordsmith.Source

open Reader
open Recordsmith.Lexer

/-- The tokens behind a word, if they begin with it. -/
def behindWord (word : String) (tokens : List Lexeme) : List Lexeme :=
  if beginsWithName word tokens then tokens.drop 1 else tokens

/-- Whether the signature of a function begins here. Among foreign items the word `safe` may stand
in it. -/
def beginsSignature (safe : Bool) (tokens : List Lexeme) : Bool :=
  let tokens := behindWord "async" (behindWord "const" tokens)
  let tokens := if safe && beginsWithName "safe" tokens then tokens.drop 1
    else behindWord "unsafe" tokens
  let behindExtern := tokens.drop 1
  let tokens := if !beginsWithName "extern" tokens then tokens
    else if beginsWithText behindExtern then behindExtern.drop 1
    else behindExtern
  beginsWithName "fn" tokens

/-- Reads a text, if there is one. -/
def text? : Reader (List Token) := do
  let tokens ← ahead
  match beginsWithText tokens, tokens with
  | true, ⟨text, _⟩ :: _ => do
      skip 1
      return [text]
  | _, _ => return []

/-- Reads the word `extern` and the convention behind it, if they are there. -/
def convention? : Reader Tree := do
  if ← word? "extern" then return .leaf (.name "extern" :: (← text?))
  return Tree.nothing

section

variable (parts : Grammar)

/-- Reads the receiver of a method. -/
def receiver : Reader Tree := do
  let isReference ← operator? "&"
  let name ← if ← (do return isReference && (← peekLifetime)) then Tree.lifetime <$> lifetime
    else pure Tree.nothing
  let isMutable ← word? "mut"
  word "self"
  let hasType ← if isReference then pure false else operator? ":"
  let type ← if hasType then Tree.type <$> parts.type true else pure Tree.nothing
  return .node .receiver [Tree.operatorIf isReference "&", name, Tree.wordIf isMutable "mut",
    Tree.word "self", Tree.operatorIf hasType ":", type]

/-- Reads the sign for any further arguments, and what may follow it. -/
def restOfArguments (pattern colon : Tree) : Reader Tree := do
  operator "..."
  let hasComma ← if ← atEnd then pure false else do
    operator ","
    pure true
  return .node .variadic
    [pattern, colon, Tree.operator "...", Tree.operatorIf hasComma ","]

/-- Reads a parameter that is not a receiver. One without a name of its own is given none. -/
def typedParameter : Reader Tree := do
  let tokens ← ahead
  if beginsWithIdentifier tokens && beginsWithOperator "<" (afterTree tokens) then
    return .node .typedPattern [.node .placeholder [Tree.word "_"], Tree.operator ":",
      .type (← parts.type true)]
  let pattern ← parts.pattern
  operator ":"
  if ← peekOperator "..." then restOfArguments pattern (Tree.operator ":")
  else return .node .typedPattern [pattern, Tree.operator ":", .type (← parts.type true)]

/-- Reads parameters up to the end of the scope or the sign for any further arguments.
`isFirst` says whether none was read, and `hasReceiver` whether a receiver was. -/
def parameters (isFirst hasReceiver : Bool) : Nat → Reader (List Tree × Bool × Tree)
  | 0 => return ([], false, Tree.nothing)
  | fuel + 1 => do
      if ← atEnd then return ([], false, Tree.nothing)
      let attributes ← outerAttributes parts
      if ← peekOperator "..." then
        let rest ← restOfArguments Tree.nothing Tree.nothing
        return ([], false, rest.withAttributes attributes)
      let start ← place
      let found ← attempt (receiver parts)
      if found.isSome && hasReceiver then refuseAt "unexpected second method receiver" start
      if found.isSome && !isFirst then refuseAt "unexpected method receiver" start
      let first := (← found.getDM (typedParameter parts)).withAttributes attributes
      if first.bare.is .variadic then return ([], false, first)
      if ← atEnd then return ([first], false, Tree.nothing)
      operator ","
      let (others, trailing, rest) ← parameters false (hasReceiver || found.isSome) fuel
      return (first :: others, others.isEmpty || trailing, rest)

/-- Reads a signature, in which the word `safe` may stand among foreign items; says whether it
does. -/
def signature (safe : Bool) : Reader (Tree × Bool) := do
  let words ← ["const", "async", "unsafe"].filterM word?
  let isSafe ← if safe && !words.contains "unsafe" then word? "safe" else pure false
  let convention ← convention?
  word "fn"
  let name ← identifier
  let generics ← generics parts
  groupThen .parenthesis (do parameters parts true false (← listFuel))
    fun (found, trailing, rest) => do
      let output ← output parts true
      let conditions ← conditions parts
      let arrow := match output with
        | some type => [Tree.operator "->", Tree.type type]
        | none => [Tree.nothing, Tree.nothing]
      return (.node .signature ([.leaf (words.map Token.name), convention, Tree.word "fn",
        Tree.word name, generics,
        .group .parenthesis [Tree.commaList found trailing, rest]] ++ arrow ++ [conditions]),
        isSafe)

end

end Recordsmith.Source
