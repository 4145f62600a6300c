import Recordsmith.Source.Operation
import Recordsmith.Source.Type
import Recordsmith.Text.Split

/-!
Reading expressions. The first word or mark of an operand decides its form. Where `structures`
forbids it, a brace after a path does not begin a value of named members, because it begins the
body of what the expression heads.
-/

namespace Recordsmith.Source

open Reader
open Recordsmith.Lexer

/-- Whether an expression may begin here. -/
def beginsExpression (tokens : List Lexeme) : Bool :=
  let beginsBut (operator : String) (others : List String) : Bool :=
    beginsWithOperator operator tokens && !beginsWithOperatorOf others tokens
  (beginsWithAnyName tokens && !beginsWithName "as" tokens) || beginsWithAnyGroup tokens ||
    beginsWithLiteral tokens || beginsBut "!" ["!="] || beginsBut "-" ["-=", "->"] ||
    beginsBut "*" ["*="] || beginsBut "|" ["|="] || beginsBut "&" ["&="] ||
    beginsBut "<" ["<=", "<<="] || beginsWithOperatorOf ["..", "::", "#"] tokens ||
    beginsWithLifetime tokens

/-- Whether a function without a name begins here. -/
def beginsClosure (tokens : List Lexeme) : Bool :=
  let next := afterTree tokens
  beginsWithOperator "|" tokens || beginsWithOneOf ["move", "static"] tokens ||
    (beginsWithName "for" tokens && beginsGenerics next) ||
    (beginsWithName "const" tokens && !beginsWithGroup .brace next) ||
    (beginsWithName "async" tokens && (beginsWithOperator "|" next || beginsWithName "move" next))

/-- Whether a member or a question mark goes on with an operand that ends in a brace. -/
def goesOnBehindBrace (tokens : List Lexeme) : Bool :=
  (beginsWithOperator "." tokens && !beginsWithOperator ".." tokens) ||
    beginsWithOperator "?" tokens

/-- An expression that ends by itself as an arm of a choice and as a statement, because its last
group is its body. -/
def Tree.endsByItself (tree : Tree) : Bool :=
  match tree.bare with
  | .node .block [_, .leaf words, _] => words.head? != some (.name "async")
  | .node form _ => [.branch, .choice, .whileLoop, .forLoop, .endlessLoop].contains form
  | _ => false

section

variable (parts : Grammar)

/-- Reads a group of expressions with commas between them. -/
def expressionGroup (delimiter : Delimiter) : Reader Tree := do
  let (elements, trailing) ← groupOf delimiter (parts.expression true)
  return .group delimiter [Tree.commaList elements trailing]

/-! ## What is applied to an operand -/

/-- Reads the members that a number with a point stands for, behind a dot. Says whether the
number ends with a point of its own. -/
def numberedMembers (object : Tree) (text : String) (start : Nat) : Reader (Tree × Bool) := do
  let digits := Text.splitBy (· == '.') text.toList
  let endsWithPoint := text.toList.getLast? == some '.'
  let numbers := if endsWithPoint then digits.dropLast else digits
  let step (found : Tree) (number : List Char) : Reader Tree := do
    return .node .member [found, Tree.operator ".", ← memberNumber (String.ofList number) start]
  return (← numbers.foldlM step object, endsWithPoint)

/-- Reads a member, a call of a method, or `await` behind the dot. -/
def memberOf (object : Tree) : Reader Tree := do
  if ← word? "await" then
    return .node .awaited [object, Tree.operator ".", Tree.word "await"]
  let (name, isName) ← member
  let hasArguments := isName && (← peekOperator "::")
  let arguments ← if hasArguments then do
      skip 2
      angledArguments parts true
    else pure .absent
  if isName && (hasArguments || (← peekGroup .parenthesis)) then
    return .node .methodCall [object, Tree.operator ".", name, .arguments arguments,
      ← expressionGroup parts .parenthesis]
  return .node .member [object, Tree.operator ".", name]

/-- Reads what is applied to an operand: calls, members, indices and question marks. -/
def applications : Nat → Tree → Reader Tree
  | 0, object => return object
  | fuel + 1, object => do
      let tokens ← ahead
      if beginsWithGroup .parenthesis tokens then
        applications fuel (.node .call [object, ← expressionGroup parts .parenthesis])
      else if beginsWithOperator "." tokens && !beginsWithOperator ".." tokens &&
          !object.is .range then
        skip 1
        match ← ahead with
        | ⟨.literal text, start⟩ :: _ =>
            if Literal.isReal text then
              skip 1
              let (found, endsWithPoint) ← numberedMembers object text start
              if endsWithPoint then applications fuel (← memberOf parts found)
              else applications fuel found
            else applications fuel (← memberOf parts object)
        | _ => applications fuel (← memberOf parts object)
      else if beginsWithGroup .bracket tokens then
        let index ← group .bracket (parts.expression true)
        applications fuel (.node .index [object, .group .bracket [index]])
      else if beginsWithOperator "?" tokens && !object.is .range then
        skip 1
        applications fuel (.node .question [object, Tree.operator "?"])
      else return object

/-! ## Operands that begin with a word -/

/-- Reads the value of a named member. -/
def fieldValue : Reader Tree := do
  let attributes ← outerAttributes parts
  let (name, isName) ← member
  if !isName || (← peekOperator ":") then
    operator ":"
    return Tree.withAttributes attributes
      (.node .fieldValue [name, Tree.operator ":", ← parts.expression true])
  return Tree.withAttributes attributes (.node .fieldValue [name, Tree.nothing, Tree.nothing])

/-- Reads values of named members, up to the end of the scope or the value that the others are
taken from. -/
def fieldValues : Nat → Reader (List Tree × Bool × Tree)
  | 0 => return ([], false, Tree.nothing)
  | fuel + 1 => do
      if ← atEnd then return ([], false, Tree.nothing)
      if ← operator? ".." then
        let base ← if ← atEnd then pure Tree.nothing else parts.expression true
        return ([], false, .node .base [Tree.operator "..", base])
      let first ← fieldValue parts
      if ← atEnd then return ([first], false, Tree.nothing)
      operator ","
      let (others, trailing, base) ← fieldValues fuel
      return (first :: others, others.isEmpty || trailing, base)

/-- Reads a path, with the group of an invocation or of named members behind it. -/
def pathOperand (structures : Bool) : Reader Tree := do
  let type ← qualifiedPath parts true
  let path := Tree.node .path [.type type]
  let tokens ← ahead
  let isModulePath := match type with
    | .path _ segments => areModuleNames segments
    | _ => false
  if isModulePath && beginsWithOperator "!" tokens && !beginsWithOperator "!=" tokens then
    skip 1
    let (delimiter, body) ← anyGroup
    return .node .invocation [path, Tree.operator "!", Tree.nothing,
      .group delimiter [.leaf body]]
  if structures && beginsWithGroup .brace tokens then
    let (fields, trailing, base) ← group .brace do
      fieldValues parts (← listFuel)
    return .node .construct [path, .group .brace [Tree.commaList fields trailing, base]]
  return path

/-- Reads an expression that a word may go on with. -/
def optionalValue : Reader Tree := do
  if beginsExpression (← ahead) then parts.expression true else pure Tree.nothing

/-- Reads the end of a loop: a label, and perhaps a value. -/
def breakOperand (structures : Bool) : Reader Tree := do
  word "break"
  let labelPlace ← place
  let tokens ← ahead
  if beginsWithLifetime tokens && beginsWithOperator ":" (afterTree tokens) then
    let _ ← parts.expression true
    refuseAt "parentheses required" labelPlace
  let label ← if beginsWithLifetime tokens then Tree.lifetime <$> lifetime
    else pure Tree.nothing
  let tokens ← ahead
  let value ← if beginsExpression tokens && (structures || !beginsWithGroup .brace tokens) then
      parts.expression true
    else pure Tree.nothing
  return .node .breakOff [Tree.word "break", label, value]

/-- Reads a conditional with all its alternatives. -/
def branch : Nat → Reader Tree
  | 0 => refuse "expected `if`"
  | fuel + 1 => do
      word "if"
      let condition ← parts.expression false
      let body ← block parts
      unless ← word? "else" do
        return .node .branch [Tree.word "if", condition, body, Tree.nothing, Tree.nothing]
      let tokens ← ahead
      let alternative ← if beginsWithName "if" tokens then branch fuel
        else if beginsWithGroup .brace tokens then do
          pure (.node .block [Tree.nothing, Tree.nothing, ← block parts])
        else refuseUnless [quoted "if", "curly braces"]
      return .node .branch [Tree.word "if", condition, body, Tree.word "else", alternative]

/-- Reads a loop with a condition. -/
def whileLoop (label : Tree) : Reader Tree := do
  word "while"
  let condition ← parts.expression false
  return .node .whileLoop [label, Tree.word "while", condition, ← statementBody parts]

/-- Reads a loop over the elements of a value. -/
def forLoop (label : Tree) : Reader Tree := do
  word "for"
  let pattern ← alternatives parts
  word "in"
  let source ← parts.expression false
  return .node .forLoop [label, Tree.word "for", pattern, Tree.word "in", source,
    ← statementBody parts]

/-- Reads a loop without an end. -/
def endlessLoop (label : Tree) : Reader Tree := do
  word "loop"
  return .node .endlessLoop [label, Tree.word "loop", ← statementBody parts]

/-- Reads a block with its label and the words in front of it. -/
def blockOf (label : Tree) (words : List String) : Reader Tree := do
  skip words.length
  return .node .block [label, .leaf (words.map Token.name), ← statementBody parts]

/-- Reads a block without attributes of its own, behind the words in front of it. -/
def plainBlockOf (words : List String) : Reader Tree := do
  skip words.length
  return .node .block [Tree.nothing, .leaf (words.map Token.name), ← block parts]

/-- Reads a loop or a block behind its label. -/
def labeled : Reader Tree := do
  let name ← lifetime
  operator ":"
  let label := Tree.leaf (Token.lifetime name ++ [.mark ':' false])
  let tokens ← ahead
  if beginsWithName "while" tokens then whileLoop parts label
  else if beginsWithName "for" tokens then forLoop parts label
  else if beginsWithName "loop" tokens then endlessLoop parts label
  else if beginsWithGroup .brace tokens then blockOf parts label []
  else refuse "expected loop or block expression"

/-! ## Expressions whose last group is a body -/

/-- Reads an arm of a choice. A comma has to follow unless the arm ends with its body, or is the
last one. -/
def arm : Reader Tree := do
  let attributes ← outerAttributes parts
  let pattern ← alternatives parts
  let isGuarded ← word? "if"
  let guard ← if isGuarded then parts.expression true else pure Tree.nothing
  operator "=>"
  let body ← parts.standing
  let mayEnd := body.endsByItself || (← atEnd)
  let hasComma ← if mayEnd then operator? "," else do
    operator ","
    pure true
  return Tree.withAttributes attributes (.node .arm
    [pattern, Tree.wordIf isGuarded "if", guard, Tree.operator "=>", body,
      Tree.operatorIf hasComma ","])

/-- Reads an expression that ends with its body, if one begins here. -/
def bodied? : Reader (Option Tree) := do
  let tokens ← ahead
  let next := afterTree tokens
  if beginsWithName "if" tokens then some <$> branch parts tokens.length
  else if beginsWithName "while" tokens then some <$> whileLoop parts Tree.nothing
  else if beginsWithName "for" tokens && !beginsGenerics next then
    some <$> forLoop parts Tree.nothing
  else if beginsWithName "loop" tokens then some <$> endlessLoop parts Tree.nothing
  else if beginsWithName "match" tokens then
    skip 1
    let subject ← parts.expression false
    return some (.node .choice [Tree.word "match", subject, ← braced parts (many (arm parts))])
  else if beginsWithName "try" tokens && beginsWithGroup .brace next then
    some <$> plainBlockOf parts ["try"]
  else if beginsWithName "unsafe" tokens then some <$> blockOf parts Tree.nothing ["unsafe"]
  else if beginsWithName "const" tokens && beginsWithGroup .brace next then
    some <$> blockOf parts Tree.nothing ["const"]
  else if beginsWithGroup .brace tokens then some <$> blockOf parts Tree.nothing []
  else if beginsWithLifetime tokens then some <$> labeled parts
  else return none

/-! ## Operands -/

/-- Reads a parameter of a function without a name. -/
def closureParameter : Reader Tree := do
  let attributes ← outerAttributes parts
  let pattern ← parts.pattern
  if ← operator? ":" then
    return Tree.withAttributes attributes
      (.node .typedPattern [pattern, Tree.operator ":", .type (← parts.type true)])
  return Tree.withAttributes attributes pattern

/-- Reads a function without a name. -/
def closure (structures : Bool) : Reader Tree := do
  let binder ← binder parts
  let words ← ["const", "static", "async", "move"].filterM word?
  operator "|"
  let (parameters, trailing) ← separatedUntil (beginsWithOperator "|") (closureParameter parts)
    (← listFuel)
  operator "|"
  let head := [.binder binder, .leaf (words.map Token.name), Tree.operator "|",
    Tree.commaList parameters trailing, Tree.operator "|"]
  match ← output parts true with
  | some type =>
      return .node .closure (head ++ [Tree.operator "->", .type type,
        .node .block [Tree.nothing, Tree.nothing, ← block parts]])
  | none =>
      return .node .closure (head ++ [Tree.nothing, Tree.nothing, ← parts.expression structures])

/-- Reads a tuple, or one expression in parentheses. -/
def parenthesizedOperand : Reader Tree := do
  let (elements, trailing) ← groupOf .parenthesis (parts.expression true)
  match elements, trailing with
  | [single], false => return .node .parenthesized [.group .parenthesis [single]]
  | _, _ => return .node .tuple [.group .parenthesis [Tree.commaList elements trailing]]

/-- Reads what stands between the brackets of an array: its elements, or one element and how often
it is repeated. -/
def insideArray : Reader Tree := do
  if ← atEnd then return .node .array [.group .bracket [Tree.commaList [] false]]
  let first ← parts.expression true
  if ← operator? ";" then
    return .node .repeated [.group .bracket [first, Tree.operator ";", ← parts.expression true]]
  if ← atEnd then return .node .array [.group .bracket [Tree.commaList [first] false]]
  unless ← operator? "," do
    refuse "expected `,` or `;`"
  let (others, trailing) ← commaSeparated (parts.expression true)
  return .node .array
    [.group .bracket [Tree.commaList (first :: others) (others.isEmpty || trailing)]]

/-- Reads a condition that a pattern fits. -/
def letCondition (structures : Bool) : Reader Tree := do
  word "let"
  let pattern ← alternatives parts
  operator "="
  let first ← parts.operand structures
  return .node .letCondition [Tree.word "let", pattern, Tree.operator "=",
    ← allOperations parts structures .comparison first]

/-- Reads an operand without anything in front or behind. -/
def atom (structures : Bool) : Reader Tree := do
  let start ← ahead
  let next := afterTree start
  let kept : Reader Tree := do
    return .node .verbatim [.leaf (← readSince start)]
  if beginsWithLiteral start then literal
  else if beginsWithName "async" start && beginsWithGroup .brace next then
    plainBlockOf parts ["async"]
  else if beginsWithName "async" start && beginsWithName "move" next &&
      beginsWithGroup .brace (afterTree next) then plainBlockOf parts ["async", "move"]
  else if beginsClosure start then closure parts structures
  else if beginsBuiltin start then
    skipBuiltin
    kept
  else if beginsWithIdentifier start || beginsWithOneOf pathWords start ||
      beginsWithOperatorOf ["::", "<"] start ||
      (beginsWithName "try" start && beginsWithOperatorOf ["!", "::"] next) then
    pathOperand parts structures
  else if beginsWithGroup .parenthesis start then parenthesizedOperand parts
  else if beginsWithName "break" start then breakOperand parts structures
  else if beginsWithName "continue" start then
    skip 1
    let label ← if ← peekLifetime then Tree.lifetime <$> lifetime else pure Tree.nothing
    return .node .goOn [Tree.word "continue", label]
  else if beginsWithName "return" start then
    skip 1
    return .node .giveBack [Tree.word "return", ← optionalValue parts]
  else if beginsWithName "become" start then
    skip 1
    let _ ← parts.expression true
    kept
  else if beginsWithGroup .bracket start then group .bracket (insideArray parts)
  else if beginsWithName "let" start then letCondition parts structures
  else if beginsWithName "yield" start then
    skip 1
    return .node .handOver [Tree.word "yield", ← optionalValue parts]
  else if beginsWithOperator ".." start then
    let (dots, isInclusive) ← rangeDots
    let limit ← rangeEnd parts structures isInclusive (2 * (← listFuel))
    return .node .range [Tree.nothing, dots, limit]
  else if beginsWithName "_" start then
    skip 1
    return .node .placeholder [Tree.word "_"]
  else match ← bodied? parts with
    | some found => return found
    | none => refuse "expected an expression"

/-- Reads an operand with the signs and attributes in front of it and what is applied to it. -/
def readOperand (structures : Bool) : Reader Tree := do
  let start ← ahead
  let startPlace ← place
  let attributes ← outerAttributes parts
  let tokens ← ahead
  if beginsWithOperator "&" tokens then
    skip 1
    let next ← ahead
    if beginsWithName "raw" next && beginsWithOneOf ["mut", "const"] (afterTree next) then
      skip 1
      let change ← anyName
      return Tree.withAttributes attributes (.node .address
        [Tree.operator "&", Tree.word "raw", Tree.word change, ← parts.operand structures])
    let isMutable ← word? "mut"
    return Tree.withAttributes attributes (.node .reference
      [Tree.operator "&", Tree.wordIf isMutable "mut", ← parts.operand structures])
  match ["*", "!", "-"].find? (beginsWithOperator · tokens) with
  | some sign => do
      skip 1
      return Tree.withAttributes attributes
        (.node .unary [Tree.operator sign, ← parts.operand structures])
  | none => do
      let whole ← applications parts (← listFuel) (← atom parts structures)
      if whole.is .verbatim then return .node .verbatim [.leaf (← readSince start)]
      if !attributes.isEmpty && whole.is .range then
        refuseAt "attributes are not allowed on range expressions starting with `..`" startPlace
      return Tree.withAttributes attributes whole

/-- Reads an expression. -/
def readExpression (structures : Bool) : Reader Tree := do
  allOperations parts structures .jump (← parts.operand structures)

/-- Reads an expression that stands by itself, as a statement or an arm of a choice. -/
def readStanding : Reader Tree := do
  let attributes ← outerAttributes parts
  match ← bodied? parts with
  | some found => do
      if goesOnBehindBrace (← ahead) then
        let longer ← applications parts (← listFuel) found
        allOperations parts true .jump (Tree.withAttributes attributes longer)
      else return Tree.withAttributes attributes found
  | none => do
      let operand ← parts.operand true
      allOperations parts true .jump (Tree.withAttributes attributes operand)

end

end Recordsmith.Source
