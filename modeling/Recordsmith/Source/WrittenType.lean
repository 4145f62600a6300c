import Recordsmith.Token.Basic

/-!
Types as written in a declaration, in all their forms, the paths, bounds and parameters inside
them, and the trees of the code that a type may hold: the length of an array, a constant
argument, the value of an attribute.

A tree is a piece of code by its form and its parts in the order in which they are written. What
is absent is an empty leaf, so that a form always has its parts at the same places; only lists,
the insides of groups and attributes in front of a piece have as many parts as they need. In a
list elements and separators take turns.
-/

namespace Recordsmith.Source

/-- The forms of code. Each is described by its parts; a part in brackets may be absent. -/
inductive Form where
  /-- Elements and separators in turns. -/
  | list
  /-- Tokens that are kept as they are. -/
  | verbatim
  /-- `#`, [`!`], the group of a path, [`=`] and what follows it. -/
  | note
  /-- Attributes, then the piece that they stand in front of. -/
  | attributed
  -- Expressions, some of them patterns as well.
  /-- A literal. -/
  | literal
  /-- A type that is a path. -/
  | path
  /-- Path, `!`, [name], group. -/
  | invocation
  /-- Path and the group of a list and a base. -/
  | construct
  /-- Member, [`:`], [value]. -/
  | fieldValue
  /-- `..` and [expression]. -/
  | base
  /-- The group of a list. -/
  | tuple
  /-- The group of one piece. -/
  | parenthesized
  /-- The group of a list. -/
  | array
  /-- The group of element, `;` and count. -/
  | repeated
  /-- Function and the group of a list. -/
  | call
  /-- Receiver, `.`, name, arguments of the path, the group of a list. -/
  | methodCall
  /-- Object, `.`, member. -/
  | member
  /-- Object, `.`, `await`. -/
  | awaited
  /-- Object and the group of an index. -/
  | index
  /-- Object and `?`. -/
  | question
  /-- Sign and operand. -/
  | unary
  /-- `&`, [`mut`], operand. -/
  | reference
  /-- `&`, `raw`, `mut` or `const`, operand. -/
  | address
  /-- Left, operator, right. -/
  | binary
  /-- Left, `=`, right. -/
  | assignment
  /-- Operand, `as`, type. -/
  | cast
  /-- [Start], dots, [end]. -/
  | range
  /-- `let`, pattern, `=`, expression. -/
  | letCondition
  /-- `if`, condition, body, [`else`], [alternative]. -/
  | branch
  /-- [Label], `while`, condition, body. -/
  | whileLoop
  /-- [Label], `for`, pattern, `in`, expression, body. -/
  | forLoop
  /-- [Label], `loop`, body. -/
  | endlessLoop
  /-- `match`, subject, body of arms. -/
  | choice
  /-- Pattern, [`if`], [guard], `=>`, body, [comma]. -/
  | arm
  /-- [Label], [words], body. -/
  | block
  /-- The group of attributes and of what stands between braces. -/
  | body
  /-- [Binder], [words], `|`, list, `|`, [`->`], [type], body. -/
  | closure
  /-- `break`, [label], [value]. -/
  | breakOff
  /-- `continue`, [label]. -/
  | goOn
  /-- `return` and [value]. -/
  | giveBack
  /-- `yield` and [value]. -/
  | handOver
  /-- `_`. -/
  | placeholder
  -- Patterns.
  /-- [`ref`], [`mut`], name, [`@`], [pattern]. -/
  | binding
  /-- `..`. -/
  | remainder
  /-- `&`, [`mut`], pattern. -/
  | referencePattern
  /-- The group of a list. -/
  | tuplePattern
  /-- The group of a list. -/
  | slicePattern
  /-- Path and the group of a list. -/
  | tupleStructPattern
  /-- Path and the group of a list and a remainder. -/
  | structPattern
  /-- [Member], [`:`], pattern. -/
  | fieldPattern
  /-- [`|`] and a list. -/
  | alternatives
  /-- Pattern, `:`, type. -/
  | typedPattern
  -- Statements.
  /-- `let`, pattern, [`=`], [expression], [`else`], [body], `;`. -/
  | letStatement
  /-- [Expression] and [`;`]. -/
  | expressionStatement
  /-- Invocation and [`;`]. -/
  | invocationStatement
  -- Items.
  /-- [Visibility], [`default`], signature, body or `;`. -/
  | function
  /-- [Words], [`extern` and its text], `fn`, name, generics, the group of a list and the rest,
  [`->`], [type], [conditions]. -/
  | signature
  /-- [`&`], [lifetime], [`mut`], `self`, [`:`], [type]. -/
  | receiver
  /-- [Pattern], [`:`], `...`, [comma]. -/
  | variadic
  /-- [Visibility], [`default`], `const`, name, `:`, type, [`=`], [expression], `;`. -/
  | constantItem
  /-- [Visibility], `static`, [`mut`], name, `:`, type, [`=`], [expression], `;`. -/
  | staticItem
  /-- [Visibility], `use`, [`::`], tree, `;`. -/
  | useItem
  /-- Name, `::`, tree. -/
  | usePath
  /-- Name, `as`, name. -/
  | useRename
  /-- A name or `*`. -/
  | useName
  /-- The group of a list. -/
  | useGroup
  /-- [Visibility], [`unsafe`], `mod`, name, `;` or the group of attributes and items. -/
  | moduleItem
  /-- [`unsafe`], `extern`, [text], the group of attributes and items. -/
  | foreignModule
  /-- [Visibility], `extern`, `crate`, name, [`as`], [name], `;`. -/
  | externalName
  /-- [Visibility], `struct` or `union`, name, generics, [conditions], the group of a list. -/
  | namedStruct
  /-- [Visibility], `struct`, name, generics, the group of a list, [conditions], `;`. -/
  | tupleStruct
  /-- [Visibility], `struct`, name, generics, [conditions], `;`. -/
  | unitStruct
  /-- [Visibility], `enum`, name, generics, [conditions], the group of a list. -/
  | enumeration
  /-- Name, [the group of a list], [`=`], [expression]. -/
  | variant
  /-- [Visibility], [name], [`:`], type. -/
  | field
  /-- [Visibility], [`unsafe`], [`auto`], `trait`, name, generics, [`:`], bounds, [conditions],
  the group of attributes and items. -/
  | traitItem
  /-- [Visibility], `trait`, name, generics, `=`, bounds, [conditions], `;`. -/
  | traitAlias
  /-- [`default`], [`unsafe`], `impl`, generics, [`!`], [trait], [`for`], type, [conditions],
  the group of attributes and items. -/
  | implementation
  /-- [Visibility], [`default`], `type`, name, generics, [`:`], bounds, [conditions in front],
  [`=`], [type], [conditions behind], `;`. -/
  | typeAlias
  /-- Invocation and [`;`]. -/
  | invocationItem
  /-- `where` and a list. -/
  | conditions
  /-- [Binder], type, `:`, bounds. -/
  | typeCondition
  /-- Lifetime, `:`, bounds. -/
  | lifetimeCondition
  deriving DecidableEq, Repr

mutual

/-- A type as written. -/
inductive WrittenType where
  /-- A path such as `a::B<C>`; `leading` says whether `::` comes first. -/
  | path (leading : Bool) (segments : List PathSegment)
  /-- A path inside a type or one of its traits, such as `<A as b::C>::D`. Without a trait the
  list of its segments is empty. -/
  | projection (subject : WrittenType) (leading : Bool) (trait segments : List PathSegment)
  | parenthesized (inner : WrittenType)
  /-- A type in a group without brackets, as it comes out of an expanded macro. -/
  | grouped (inner : WrittenType)
  | tuple (elements : List WrittenType) (trailing : Bool)
  | array (element : WrittenType) (length : Tree)
  | slice (element : WrittenType)
  | reference (lifetime : Option String) (isMutable : Bool) (target : WrittenType)
  | pointer (isMutable : Bool) (target : WrittenType)
  /-- A function pointer; `words` are those between the binder and `fn`, and `rest` stands for
  arguments without a parameter. -/
  | function (binder : Binder) (words : List Token) (parameters : List Parameter)
      (trailing : Bool) (rest : Tree) (output : Option WrittenType)
  | traitObject (isDynamic : Bool) (bounds : List Bound) (trailing : Bool)
  | someTrait (bounds : List Bound) (trailing : Bool)
  | invocation (leading : Bool) (segments : List PathSegment) (delimiter : Delimiter)
      (body : List Token)
  | never
  | inferred
  /-- A type of another kind, kept as it is. -/
  | verbatim (tokens : List Token)

/-- A parameter of a function type. -/
inductive Parameter where
  | mk (attributes : List Tree) (name : Option String) (type : WrittenType)

/-- One name of a path with its arguments. -/
inductive PathSegment where
  | mk (name : String) (arguments : PathArguments)

/-- The arguments after a name of a path. -/
inductive PathArguments where
  | absent
  /-- Arguments in angle brackets; `turbofish` says whether `::` comes first. -/
  | angled (turbofish : Bool) (arguments : List GenericArgument) (trailing : Bool)
  /-- The inputs and the output of a function trait. -/
  | called (inputs : List WrittenType) (trailing : Bool) (output : Option WrittenType)

/-- An argument in angle brackets. -/
inductive GenericArgument where
  | lifetime (name : String)
  | type (type : WrittenType)
  | constant (value : Tree)
  | binding (name : String) (generics : PathArguments) (type : WrittenType)
  | constantBinding (name : String) (generics : PathArguments) (value : Tree)
  | constraint (name : String) (generics : PathArguments) (bounds : List Bound) (trailing : Bool)

/-- A bound of a trait object or a parameter. -/
inductive Bound where
  | lifetime (name : String)
  | trait (isParenthesized : Bool) (binder : Binder) (isMaybe leading : Bool)
      (segments : List PathSegment)
  /-- What an opaque type may mention: names, and whether each is one of a lifetime. -/
  | capture (names : List (Bool × String)) (trailing : Bool)
  /-- A bound of another kind, kept as it is. -/
  | verbatim (tokens : List Token)

/-- The parameters that a type or a function is taken for all of. -/
inductive Binder where
  | absent
  | given (parameters : List GenericParameter) (trailing : Bool)

/-- A generic parameter. -/
inductive GenericParameter where
  | lifetime (attributes : List Tree) (name : String) (bounds : List String) (trailing : Bool)
  | type (attributes : List Tree) (name : String) (bounds : List Bound) (trailing : Bool)
      (standard : Option WrittenType)
  | constant (attributes : List Tree) (name : String) (type : WrittenType)
      (standard : Option Tree)

/-- A piece of code. -/
inductive Tree where
  | leaf (tokens : List Token)
  | type (type : WrittenType)
  | arguments (arguments : PathArguments)
  | bounds (bounds : List Bound) (trailing : Bool)
  | generics (parameters : List GenericParameter) (trailing : Bool)
  | binder (binder : Binder)
  | group (delimiter : Delimiter) (inner : List Tree)
  | node (form : Form) (parts : List Tree)

end

/-- A path that stands by itself. -/
structure WrittenPath where
  leading : Bool
  segments : List PathSegment

namespace PathSegment

/-- The name of a segment. -/
def name : PathSegment → String
  | .mk name _ => name

/-- The arguments of a segment. -/
def arguments : PathSegment → PathArguments
  | .mk _ arguments => arguments

/-- A name without arguments. -/
def plain (name : String) : PathSegment := .mk name .absent

end PathSegment

namespace PathArguments

/-- No arguments are written. -/
def isAbsent : PathArguments → Bool
  | .absent => true
  | _ => false

/-- There is no argument, though there may be brackets for some. -/
def isEmpty : PathArguments → Bool
  | .absent => true
  | .angled _ arguments _ => arguments.isEmpty
  | .called .. => false

end PathArguments

namespace Binder

/-- No binder is written. -/
def isAbsent : Binder → Bool
  | .absent => true
  | .given .. => false

end Binder

namespace Tree

/-- What is not there. -/
def nothing : Tree := .leaf []

/-- Nothing is there. -/
def isNothing : Tree → Bool
  | .leaf [] => true
  | _ => false

/-- A word. -/
def word (text : String) : Tree := .leaf [.name text]

/-- A word that may be absent. -/
def wordIf (isThere : Bool) (text : String) : Tree := if isThere then word text else nothing

/-- An operator. -/
def operator (text : String) : Tree := .leaf (Token.operator text)

/-- An operator that may be absent. -/
def operatorIf (isThere : Bool) (text : String) : Tree :=
  if isThere then operator text else nothing

/-- The name of a lifetime. -/
def lifetime (name : String) : Tree := .leaf (Token.lifetime name)

/-- Elements with a separator between each two, and behind the last one if `trailing`. -/
def separated (separator : String) (trailing : Bool) : List Tree → List Tree
  | [] => []
  | [last] => if trailing then [last, operator separator] else [last]
  | first :: second :: rest =>
      first :: operator separator :: separated separator trailing (second :: rest)

/-- A list with commas. -/
def commaList (elements : List Tree) (trailing : Bool) : Tree :=
  .node .list (separated "," trailing elements)

/-- The form of a node. -/
def form? : Tree → Option Form
  | .node form _ => some form
  | _ => none

/-- Whether a tree is a node of the given form. -/
def is (form : Form) (tree : Tree) : Bool := tree.form? == some form

/-- A piece with more attributes in front of it. Tokens kept as they are take none. -/
def withAttributes (attributes : List Tree) (tree : Tree) : Tree :=
  if attributes.isEmpty || tree.is .verbatim then tree
  else match tree with
    | .node .attributed parts => .node .attributed (attributes ++ parts)
    | tree => .node .attributed (attributes ++ [tree])

/-- The attributes in front of a piece, and the piece without them. -/
def splitAttributes : Tree → List Tree × Tree
  | .node .attributed parts => (parts.dropLast, parts.getLast?.getD nothing)
  | tree => ([], tree)

/-- A piece without the attributes in front of it. -/
def bare (tree : Tree) : Tree := tree.splitAttributes.2

/-- The elements of a list, without its separators. -/
def elementsOf : List Tree → List Tree
  | [] => []
  | [element] => [element]
  | element :: _ :: rest => element :: elementsOf rest

/-- Whether a list ends with a separator. -/
def endsInSeparator (parts : List Tree) : Bool := !parts.isEmpty && parts.length % 2 == 0

end Tree

/-- A path of names without arguments. -/
def WrittenPath.plain (leading : Bool) (names : List String) : WrittenPath :=
  ⟨leading, names.map PathSegment.plain⟩

/-- The path with one more name at its end. -/
def WrittenPath.child (path : WrittenPath) (name : String) : WrittenPath :=
  ⟨path.leading, path.segments ++ [.plain name]⟩

/-- Exactly the one name, without arguments. -/
def WrittenPath.isName (path : WrittenPath) (name : String) : Bool :=
  match path.leading, path.segments with
  | false, [segment] => segment.name == name && segment.arguments.isAbsent
  | _, _ => false

/-- The path as a type. -/
def WrittenPath.type (path : WrittenPath) : WrittenType := .path path.leading path.segments

/-- The path as a piece of code. -/
def WrittenPath.tree (path : WrittenPath) : Tree := .node .path [.type path.type]

end Recordsmith.Source
