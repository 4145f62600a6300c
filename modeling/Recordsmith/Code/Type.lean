import Recordsmith.Source.Identifier
import Recordsmith.Source.TypeTokens

/-!
The types that generated code mentions, as they are written. Standard types are always named by
their full paths, so that no name in scope can change what they mean.
-/

namespace Recordsmith.Code

open Source (WrittenPath WrittenType PathSegment PathArguments GenericArgument)

/-- A type in generated code. -/
inductive CodeType where
  /-- A name with arguments. -/
  | named (name : Identifier) (arguments : List CodeType)
  /-- A value that may be missing. -/
  | optional (inner : CodeType)
  /-- A sequence of values. -/
  | sequence (element : CodeType)
  /-- A type reached through the modules it lies in. -/
  | located (names : List Identifier)
  /-- An accessor, as the runtime path names it. -/
  | accessor (runtime : WrittenPath) (arguments : List CodeType)
  /-- A reference to a value. -/
  | borrowed (target : CodeType)
  | itself
  | boolean

/-- The path of an optional type. -/
def optionPath : List String := ["core", "option", "Option"]

/-- The path of a sequence type. -/
def sequencePath : List String := ["std", "vec", "Vec"]

/-- The name of the accessor type behind the runtime path. -/
def accessorName : String := "Field"

/-- A path whose last name has arguments in angle brackets; none are written for none. -/
def applied (path : WrittenPath) (arguments : List WrittenType) : WrittenType :=
  if arguments.isEmpty then path.type
  else .path path.leading (path.segments.dropLast ++ path.segments.getLast?.toList.map fun segment =>
    .mk segment.name (.angled false (arguments.map GenericArgument.type) false))

mutual

/-- A type as it is written. -/
def CodeType.written : CodeType → WrittenType
  | .named name arguments => applied (.plain false [name.text]) (typesWritten arguments)
  | .optional inner => applied (.plain true optionPath) [inner.written]
  | .sequence element => applied (.plain true sequencePath) [element.written]
  | .located names => (WrittenPath.plain false (names.map Identifier.text)).type
  | .accessor runtime arguments => applied (runtime.child accessorName) (typesWritten arguments)
  | .borrowed target => .reference none false target.written
  | .itself => (WrittenPath.plain false ["Self"]).type
  | .boolean => (WrittenPath.plain false ["bool"]).type

/-- Types as they are written. -/
def typesWritten : List CodeType → List WrittenType
  | [] => []
  | type :: rest => type.written :: typesWritten rest

end

/-- The tokens of a type. -/
def CodeType.tokens (type : CodeType) : List Token := type.written.tokens

end Recordsmith.Code
