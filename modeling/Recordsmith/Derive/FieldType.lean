import Recordsmith.Source.TypeTokens
import Recordsmith.Token.Render

/-!
Field types as type expressions. A path is written without blanks around its signs, and its
arguments follow each other with a comma and a space; an optional type gets a question mark.
Parentheses and groups around a type mean nothing. A type that has no such form is written as its
tokens, which no type expression reads.
-/

namespace Recordsmith.Source

/-- The name that an optional type is written with. -/
def optionalName : String := "Option"

mutual

/-- The text of a field type. -/
def WrittenType.fieldText : WrittenType → String
  | .parenthesized inner => inner.fieldText
  | .grouped inner => inner.fieldText
  | .path leading segments =>
      match if leading then none else optionalText segments with
      | some text => text ++ "?"
      | none => match segmentTexts segments with
          | some texts => (if leading then "::" else "") ++ String.intercalate "::" texts
          | none => Token.render (WrittenType.path leading segments).tokens
  | other => Token.render other.tokens

/-- The text of the type inside an optional one, if the names of a path say exactly that. -/
def optionalText : List PathSegment → Option String
  | [.mk name arguments] => if name = optionalName then singleText arguments else none
  | _ => none

/-- The text of a single argument that is a type. -/
def singleText : PathArguments → Option String
  | .angled _ [.type inner] _ => some inner.fieldText
  | _ => none

/-- The texts of the names of a path, each with its arguments. -/
def segmentTexts : List PathSegment → Option (List String)
  | [] => some []
  | .mk name arguments :: rest =>
      match argumentsText arguments, segmentTexts rest with
      | some text, some texts => some ((name ++ text) :: texts)
      | _, _ => none

/-- The text of the arguments after a name; `none` if one of them is no type. -/
def argumentsText : PathArguments → Option String
  | .absent => some ""
  | .angled _ arguments _ =>
      (argumentTexts arguments).map fun texts => "<" ++ String.intercalate ", " texts ++ ">"
  | .called .. => none

/-- The texts of arguments that are types. -/
def argumentTexts : List GenericArgument → Option (List String)
  | [] => some []
  | .type type :: rest =>
      let text := type.fieldText
      (argumentTexts rest).map (text :: ·)
  | _ :: _ => none

end

end Recordsmith.Source
