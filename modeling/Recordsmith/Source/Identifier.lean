import Recordsmith.Token.Lexer

/-!
Identifiers. A text is an identifier when it reads as exactly one name that is not reserved;
blanks and comments around the name do not belong to it. A raw name keeps its mark and is
never reserved.
-/

namespace Recordsmith

/-- An identifier, by its token text. -/
structure Identifier where
  text : String
  deriving DecidableEq, Repr

namespace Identifier

/-- The names that no identifier may have. -/
def reserved : List String :=
  ["_", "abstract", "as", "async", "await", "become", "box", "break", "const", "continue",
    "crate", "do", "dyn", "else", "enum", "extern", "false", "final", "fn", "for", "if", "impl",
    "in", "let", "loop", "macro", "match", "mod", "move", "mut", "override", "priv", "pub",
    "ref", "return", "Self", "self", "static", "struct", "super", "trait", "true", "try", "type",
    "typeof", "unsafe", "unsized", "use", "virtual", "where", "while", "yield"]

/-- Reads a text as an identifier. -/
def read? (text : String) : Option Identifier :=
  match Lexer.lex text with
  | .ok [⟨.name name, _⟩] => if reserved.contains name then none else some ⟨name⟩
  | _ => none

/-- The identifier as a token. -/
def token (identifier : Identifier) : Token := .name identifier.text

end Identifier

end Recordsmith
