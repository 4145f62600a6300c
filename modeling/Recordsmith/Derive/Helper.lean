import Recordsmith.Companion.Settings
import Recordsmith.Source.Read
import Recordsmith.Text.Position
import Recordsmith.Token.Literal

/-!
The helper attribute: entries in parentheses, with commas between them. The only entry there is
names the runtime as a path in a string. An attribute of another name is none of ours; of
several entries the last one counts, and the first mistake makes all of them void.
-/

namespace Recordsmith

open Source Source.Reader

/-- A mistake in a declaration. Its place counts in the declaration, unless it was found in a
text that is written in the declaration as a literal and does not even consist of tokens: then
it counts in that text. -/
structure Mistake where
  message : String
  place : Nat
  literalText : Option String
  deriving DecidableEq, Repr

namespace Mistake

/-- A mistake at a place of the declaration. -/
def ofComplaint (complaint : Complaint) : Mistake := ⟨complaint.message, complaint.place, none⟩

/-- The position of a mistake in a declaration that is given as text. -/
def position (mistake : Mistake) (source : String) : Text.Position :=
  Text.Position.ofPlace (mistake.literalText.getD source) mistake.place

end Mistake

namespace Helper

/-- The name of the helper attribute. -/
def attributeName : String := "buildable"

/-- The key of the runtime path. -/
def runtimeKey : String := "crate"

/-- The value of an entry: a string literal with the places of its first and last character. -/
structure Entry where
  value : String
  suffix : String
  place : Nat
  lastPlace : Nat

/-- Passes over more names of a key, for as long as two colons come first; says whether there
were any. -/
def moreNames : Nat → Reader Bool
  | 0 => return false
  | fuel + 1 => do
      if ← operator? "::" then
        let _ ← anyName
        let _ ← moreNames fuel
        return true
      return false

/-- Reads a key and gives the place of its first name, and whether it is the key of the runtime
path. -/
def key : Reader (Nat × Bool) := do
  let leading ← operator? "::"
  let start ← place
  match ← ahead with
  | ⟨.name name, _⟩ :: _ => do
      skip 1
      let longer ← moreNames (← ahead).length
      return (start, !leading && !longer && name == runtimeKey)
  | [] => refuse "expected nested attribute"
  | tokens =>
      if beginsWithLiteral tokens then
        refuse "unexpected literal in nested attribute, expected ident"
      else refuse "unexpected token in nested attribute, expected ident"

/-- Reads a string literal. -/
def stringLiteral : Reader Entry := do
  let start ← place
  match ← ahead with
  | ⟨.literal text, _⟩ :: _ =>
      match Literal.stringValue? text with
      | some (value, suffix) => do
          skip 1
          return ⟨value, suffix, start, start + (text.length - 1)⟩
      | none => refuse "expected string literal"
  | _ => refuse "expected string literal"

/-- Reads an entry. -/
def entry : Reader Entry := do
  let (start, isRuntime) ← key
  if isRuntime then
    operator "="
    stringLiteral
  else refuseAt "unsupported buildable attribute" start

/-- Where a complaint about a place of the value is put: at the last character of the literal when
something is missing at the end of a group, and at the first one otherwise. -/
def Entry.blame (entry : Entry) (tokens : List Lexer.Lexeme) (complaint : Complaint) : Mistake :=
  let isGroupEnd (lexeme : Lexer.Lexeme) : Bool := lexeme.place == complaint.place &&
    match lexeme.token with
    | .closing _ => true
    | _ => false
  ⟨complaint.message, if tokens.any isGroupEnd then entry.lastPlace else entry.place, none⟩

/-- The path that an entry holds. Whatever is wrong in it is blamed on the literal. -/
def Entry.runtimePath (entry : Entry) : Except Mistake WrittenPath :=
  match Lexer.lex entry.value with
  | .error place => .error ⟨notTokens, place, some entry.value⟩
  | .ok tokens =>
      match run Source.path tokens entry.value.length with
      | .error complaint => .error (entry.blame tokens complaint)
      | .ok path =>
          if entry.suffix = "" then .ok path
          else .error ⟨"unexpected suffix `" ++ entry.suffix ++ "` on string literal",
            entry.place, none⟩

/-- One step of a reader. -/
def advance {Value : Type} (reader : Reader Value) (remaining : Remaining) :
    Except Mistake (Value × Remaining) :=
  match StateT.run reader remaining with
  | .ok result => .ok result
  | .error complaint => .error (Mistake.ofComplaint complaint)

/-- Reads at least one entry, and gives the path of the last one. Every entry is checked before
the next one is read. -/
def lastEntry : Nat → Remaining → Except Mistake (Option WrittenPath)
  | 0, _ => .ok none
  | fuel + 1, remaining => do
      let (entry, remaining) ← advance entry remaining
      let path ← entry.runtimePath
      if remaining.tokens.isEmpty then return some path
      let (_, remaining) ← advance (operator ",") remaining
      if remaining.tokens.isEmpty then return some path
      lastEntry fuel remaining

/-- The runtime path that an attribute of ours sets. -/
def attributePath (helper : Attribute) : Except Mistake (Option WrittenPath) :=
  match helper.body with
  | .absent => .error ⟨"expected attribute arguments in parentheses: #[" ++ attributeName ++
      "(...)]", helper.place, none⟩
  | .value signPlace _ =>
      .error ⟨"expected parentheses: #[" ++ attributeName ++ "(...)]", signPlace, none⟩
  | .group _ tokens groupEnd =>
      if tokens.isEmpty then .ok none
      else lastEntry tokens.length ⟨tokens, groupEnd, none⟩

/-- The runtime path that the attributes of a declaration set: the last one counts. -/
def runtimePath : List Attribute → Except Mistake (Option WrittenPath)
  | [] => .ok none
  | first :: rest => do
      let own ← if first.path.isName attributeName then attributePath first else .ok none
      let later ← runtimePath rest
      return later.or own

/-- The settings under a runtime path, or the standard ones. -/
def settings (path : Option WrittenPath) : Settings :=
  match path with
  | some path => Settings.standard.withRuntimePath path
  | none => Settings.standard

end Helper

end Recordsmith
