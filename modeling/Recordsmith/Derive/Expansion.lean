import Recordsmith.Derive.Describe
import Recordsmith.Derive.Helper
import Recordsmith.Generation.Batch

/-!
Expansions: what a declaration becomes. The tokens of its companions are gathered, or those of a
warning when it is left out. A failure makes the whole expansion a mistake, at the type of the
field at fault or else at the name of the declaration. Warnings and errors are told to the
compiler as tokens: an error stops it, a warning is the use of an item that is marked as
deprecated, in a scope of its own.
-/

namespace Recordsmith

/-- The tokens that stop the compiler with a message. -/
def errorTokens (message : String) : List Token :=
  (Source.WrittenPath.plain true ["core", "compile_error"]).tokens ++
    .mark '!' false :: Token.group .brace [.literal (Text.stringLiteral message)]

/-- An attribute with what stands between its brackets. -/
def attributeTokens (inner : List Token) : List Token :=
  .mark '#' false :: Token.group .bracket inner

/-- The name of the item that a warning uses. -/
def warningItem : String := "GenBuildableSkipped"

/-- The tokens that make the compiler warn with a message. -/
def warningTokens (message : String) : List Token :=
  [.name "const", .name "_", .mark ':' false] ++ Token.group .parenthesis [] ++
    .mark '=' false :: Token.group .brace
      (attributeTokens (.name "deprecated" :: Token.group .parenthesis
        [.name "note", .mark '=' false, .literal (Text.stringLiteral message)]) ++
        [.name "struct", .name warningItem, .mark ';' false] ++
        [.name "let", .name "_", .mark '=' false, .name warningItem, .mark ';' false]) ++
    [.mark ';' false]

/-- The tokens that tell the compiler about a diagnostic. -/
def Diagnostic.tokens (diagnostic : Diagnostic) : List Token :=
  match diagnostic.severity with
  | .warning => warningTokens diagnostic.message
  | .error => errorTokens diagnostic.message

/-- The tokens of an expansion. -/
structure Expansion where
  tokens : List Token

namespace Expansion

/-- An expansion to nothing. -/
def empty : Expansion := ⟨[]⟩

instance : Sink Expansion where
  emit artifact expansion := ⟨⟨expansion.tokens ++ artifact.tokens⟩, .ok (), []⟩
  report diagnostic expansion := ⟨expansion.tokens ++ diagnostic.tokens⟩

end Expansion

/-- The tokens that tell the compiler about a mistake. -/
def Mistake.tokens (mistake : Mistake) : List Token := errorTokens mistake.message

namespace Source.Declaration

/-- A report as a mistake in the declaration. -/
def mistake (declaration : Declaration) (report : Report) : Mistake :=
  let place := match report.fault.field?.bind declaration.field? with
    | some field => field.typePlace
    | none => declaration.namePlace
  ⟨report.describe, place, none⟩

/-- The expansion of a declaration. -/
def expand (declaration : Declaration) : Except Mistake (List Token) := do
  let path ← Helper.runtimePath declaration.attributes
  let processed := Generation.process (Helper.settings path) declaration.candidate Expansion.empty
  match processed.outcome with
  | .ok _ => return processed.store.tokens
  | .error report => throw (declaration.mistake report)

end Source.Declaration

end Recordsmith
