import Recordsmith.Code.Item
import Recordsmith.Text.Quoted

/-!
Generated items as they are written. The members of a structure each end with a comma, and so do
the members of a built value and the arguments of a call when they are marked so.
-/

namespace Recordsmith.Code

open Source (WrittenPath)
open Source.Tree (commaList nothing operator withAttributes word)

/-- The path of a called function, as a path from the root or behind the runtime path. -/
def Callee.path : Callee → WrittenPath
  | .wrap => .plain true ["core", "option", "Option", "Some"]
  | .duplicate => .plain true ["core", "clone", "Clone", "clone"]
  | .newAccessor runtime => (runtime.child accessorName).child "new"
  | .newLens runtime => (runtime.child "Lens").child "new"

/-- The name of the method that takes the first value that is there. -/
def orElseName : String := "or"

/-- The name of the method that asks whether a value is there. -/
def isPresentName : String := "is_some"

/-! ## Expressions -/

/-- A call of a method. -/
def methodTree (object : Source.Tree) (name : String) (arguments : List Source.Tree) : Source.Tree :=
  .node .methodCall [object, operator ".", word name, .arguments .absent,
    .group .parenthesis [commaList arguments false]]

/-- A parameter that is a name with its type. -/
def parameterTree (name : String) (type : CodeType) : Source.Tree :=
  .node .typedPattern [.node .binding [nothing, nothing, word name, nothing,
    nothing], operator ":", .type type.written]

mutual

/-- An expression as it is written. -/
def Expression.tree : Expression → Source.Tree
  | .variable name => (WrittenPath.plain false [name]).tree
  | .member object field =>
      .node .member [object.tree, operator ".", word field.text]
  | .borrow object => .node .reference [operator "&", nothing, object.tree]
  | .require object => .node .question [object.tree, operator "?"]
  | .orElse first second => methodTree first.tree orElseName [second.tree]
  | .isPresent object => methodTree object.tree isPresentName []
  | .both left right => .node .binary [left.tree, operator "&&", right.tree]
  | .truth => .node .literal [word "true"]
  | .text value => .node .literal [.leaf [.literal (Text.stringLiteral value)]]
  | .call callee arguments trailing =>
      .node .call [callee.path.tree,
        .group .parenthesis [commaList (expressionsTrees arguments) trailing]]
  | .construct type members trailing =>
      .node .construct [.node .path [.type type.written],
        .group .brace [commaList (initializersTrees members) trailing, nothing]]
  | .function parameters body =>
      .node .closure [.binder .absent, nothing, operator "|",
        commaList (parameters.map fun (name, type) => parameterTree name type) false,
        operator "|", nothing, nothing, body.tree]

/-- Expressions as they are written. -/
def expressionsTrees : List Expression → List Source.Tree
  | [] => []
  | expression :: rest => expression.tree :: expressionsTrees rest

/-- Initializers as they are written. -/
def initializersTrees : List Initializer → List Source.Tree
  | [] => []
  | .mk name value :: rest =>
      .node .fieldValue [word name.text, operator ":", value.tree] ::
        initializersTrees rest

end

/-! ## Attributes -/

/-- An attribute with what follows its name. -/
def noteTree (name : String) (sign value : Source.Tree) : Source.Tree :=
  .node .note [operator "#", nothing,
    .group .bracket [(WrittenPath.plain false [name]).tree, sign, value]]

/-- A doc attribute. -/
def docTree (doc : String) : Source.Tree :=
  noteTree "doc" (operator "=") (Expression.text doc).tree

/-- The attribute that names the derived traits. -/
def deriveTree (traits : List (List String)) : Source.Tree :=
  noteTree "derive" nothing (.group .parenthesis
    [commaList (traits.map fun names => (WrittenPath.plain true names).tree) false])

/-! ## Items -/

/-- No generic parameters. -/
def noGenerics : Source.Tree := .generics [] false

/-- Braces with what they hold. -/
def bodyTree (inside : List Source.Tree) : Source.Tree := .node .body [.group .brace inside]

/-- A parameter as it is written. -/
def Parameter.tree : Parameter → Source.Tree
  | .ownedSelf => .node .receiver [nothing, nothing, nothing, word "self",
      nothing, nothing]
  | .borrowedSelf => .node .receiver [operator "&", nothing, nothing,
      word "self", nothing, nothing]
  | .named name type => parameterTree name type

/-- A function as it is written. -/
def Function.tree (function : Function) : Source.Tree :=
  let parameters := commaList (function.parameters.map Parameter.tree) false
  let signature : Source.Tree := .node .signature [nothing, nothing, word "fn",
    word function.name, noGenerics, .group .parenthesis [parameters, nothing],
    operator "->", .type function.output.written, nothing]
  let body := bodyTree [.node .expressionStatement [function.body.tree, nothing]]
  withAttributes (function.doc.map docTree).toList
    (.node .function [function.visibility.tree, nothing, signature, body])

/-- What an implementation holds, as it is written. -/
def Member.tree : Member → Source.Tree
  | .typeAlias name type =>
      .node .typeAlias [nothing, nothing, word "type", word name, noGenerics,
        nothing, .bounds [] false, nothing, operator "=", .type type.written,
        nothing, operator ";"]
  | .function method => method.tree

/-- A member of a structure as it is written. -/
def FieldItem.tree (field : FieldItem) : Source.Tree :=
  withAttributes [docTree field.doc] (.node .field [field.visibility.tree,
    word field.name.text, operator ":", .type field.type.written])

/-- An item as it is written. -/
def Item.tree : Item → Source.Tree
  | .structure doc derived visibility name fields =>
      withAttributes [docTree doc, deriveTree derived] (.node .namedStruct
        [visibility.tree, word "struct", word name.text, noGenerics, nothing,
          .group .brace [commaList (fields.map FieldItem.tree) true]])
  | .implementation trait target members =>
      let (type, joint) := match trait with
        | some path => (Source.Tree.type path.type, word "for")
        | none => (nothing, nothing)
      .node .implementation [nothing, nothing, word "impl", noGenerics,
        nothing, type, joint, .type target.written, nothing,
        bodyTree (members.map Member.tree)]

/-- The tokens of an item. -/
def Item.tokens (item : Item) : List Token := item.tree.tokens

end Recordsmith.Code
