import Mathlib.Data.List.Basic
import Recordsmith.Derive.Expansion
import Recordsmith.Proofs.Token.Literals

/-!
Diagnostics among tokens. Each one is a block of its own, in which nothing depends on the message
but one string literal. Blocks of the two kinds differ in their first token, so they are read back
one by one, each up to the beginning of the next, with the text of its literal.
-/

namespace Recordsmith

/-! ## Blocks -/

namespace Severity

/-- The tokens of a block in front of its message. -/
def blockStart : Severity → List Token
  | .warning =>
      [.name "const", .name "_", .mark ':' false, .opening .parenthesis, .closing .parenthesis,
        .mark '=' false, .opening .brace, .mark '#' false, .opening .bracket, .name "deprecated",
        .opening .parenthesis, .name "note", .mark '=' false]
  | .error =>
      [.mark ':' true, .mark ':' false, .name "core", .mark ':' true, .mark ':' false,
        .name "compile_error", .mark '!' false, .opening .brace]

/-- The tokens of a block behind its message. -/
def blockEnd : Severity → List Token
  | .warning =>
      [.closing .parenthesis, .closing .bracket, .name "struct", .name warningItem,
        .mark ';' false, .name "let", .name "_", .mark '=' false, .name warningItem,
        .mark ';' false, .closing .brace, .mark ';' false]
  | .error => [.closing .brace]

/-- The block of a message. -/
def block (severity : Severity) (message : String) : List Token :=
  severity.blockStart ++ .literal (Text.stringLiteral message) :: severity.blockEnd

/-- How the block of a message is written: a constant that uses a deprecated item, or a call that
stops the compiler. -/
def blockText : Severity → String → String
  | .warning, message =>
      "const _ : () = \x7b # [deprecated (note = " ++ Text.stringLiteral message ++
        ")] struct GenBuildableSkipped ; let _ = GenBuildableSkipped ; \x7d ;"
  | .error, message =>
      ":: core :: compile_error ! \x7b " ++ Text.stringLiteral message ++ " \x7d"

/-- Everything in a block but its literal is fixed, the gaps beside the literal too. -/
theorem block_around (severity : Severity) (message gapBefore gapAfter : String)
    {before after : String}
    (pieces : Token.pieces (severity.block message) = Token.pieces severity.blockStart ++
      gapBefore :: Text.stringLiteral message :: gapAfter :: Token.pieces severity.blockEnd)
    (start : String.join (Token.pieces severity.blockStart) ++ gapBefore = before)
    (ending : gapAfter ++ String.join (Token.pieces severity.blockEnd) = after) :
    Token.render (severity.block message) = before ++ Text.stringLiteral message ++ after := by
  rw [Token.render, pieces, String.join_append, String.join_cons, String.join_cons,
    String.join_cons, ← start, ← ending]
  simp only [String.append_assoc]

theorem block_written (severity : Severity) (message : String) :
    Token.render (severity.block message) = severity.blockText message := by
  cases severity with
  | warning =>
      exact block_around .warning message " " "" rfl (by decide +kernel) (by decide +kernel)
  | error => exact block_around .error message " " " " rfl (by decide +kernel) (by decide +kernel)

end Severity

theorem Diagnostic.tokens_block (diagnostic : Diagnostic) :
    diagnostic.tokens = diagnostic.severity.block diagnostic.message := by
  rw [tokens]
  cases diagnostic.severity <;> rfl

/-- The groups open behind the tokens, the innermost first; `none` when the end of another group
comes before that of the innermost one. -/
def Token.groupsBehind : List Delimiter → List Token → Option (List Delimiter)
  | opened, [] => some opened
  | opened, .opening delimiter :: rest => groupsBehind (delimiter :: opened) rest
  | innermost :: opened, .closing delimiter :: rest =>
      if innermost = delimiter then groupsBehind opened rest else none
  | [], .closing _ :: _ => none
  | opened, _ :: rest => groupsBehind opened rest

/-- A block opens and closes its own groups only. -/
theorem Severity.block_closed (severity : Severity) (message : String) (opened : List Delimiter)
    (rest : List Token) :
    Token.groupsBehind opened (severity.block message ++ rest) =
      Token.groupsBehind opened rest := by
  cases severity <;> rfl

/-! ## Reading blocks back -/

/-- Reads a block of a severity: its message and what follows it. -/
def Severity.readBlock? (severity : Severity) (tokens : List Token) :
    Option (String × List Token) :=
  match tokens.dropPrefix? severity.blockStart with
  | some (.literal text :: rest) => do
      let (message, _) ← Literal.stringValue? text
      let others ← rest.dropPrefix? severity.blockEnd
      return (message, others)
  | _ => none

/-- Reads the next block, whatever its severity is. -/
def nextBlock? (tokens : List Token) : Option ((Severity × String) × List Token) :=
  match Severity.warning.readBlock? tokens with
  | some (message, rest) => some ((.warning, message), rest)
  | none => (Severity.error.readBlock? tokens).map fun (message, rest) => ((.error, message), rest)

/-- Reads blocks up to the end of the tokens. The fuel is no less than their number. -/
def readBlocks? : Nat → List Token → Option (List (Severity × String))
  | _, [] => some []
  | 0, _ => none
  | fuel + 1, tokens => do
      let (said, rest) ← nextBlock? tokens
      let others ← readBlocks? fuel rest
      return said :: others

theorem Severity.read_block (severity : Severity) (message : String) (rest : List Token) :
    severity.readBlock? (severity.block message ++ rest) = some (message, rest) := by
  have start : (severity.block message ++ rest).dropPrefix? severity.blockStart =
      some (.literal (Text.stringLiteral message) :: (severity.blockEnd ++ rest)) := by
    rw [block, List.append_assoc]
    exact List.dropPrefix?_append_of_beq _ (by simp)
  have ending : (severity.blockEnd ++ rest).dropPrefix? severity.blockEnd = some rest :=
    List.dropPrefix?_append_of_beq _ (by simp)
  rw [readBlock?, start]
  dsimp only
  rw [Literal.string_value, Option.bind_eq_bind, Option.bind_some, ending]
  rfl

/-- The block that comes next is told by its first token. -/
theorem next_block (severity : Severity) (message : String) (rest : List Token) :
    nextBlock? (severity.block message ++ rest) = some ((severity, message), rest) := by
  cases severity with
  | warning => rw [nextBlock?, Severity.read_block]
  | error =>
      have noWarning :
          Severity.warning.readBlock? (Severity.error.block message ++ rest) = none := rfl
      rw [nextBlock?, noWarning, Severity.read_block]
      rfl

/-- Blocks one after another are read back, with nothing between them to tell them apart. -/
theorem read_blocks (said : List (Severity × String)) (fuel : Nat) (enough : said.length ≤ fuel) :
    readBlocks? fuel (said.flatMap fun one => one.1.block one.2) =
      some said := by
  induction said generalizing fuel with
  | nil => cases fuel <;> rfl
  | cons first others induction =>
      obtain ⟨severity, message⟩ := first
      rw [List.length_cons] at enough
      obtain ⟨more, rfl⟩ : ∃ more, fuel = more + 1 := ⟨fuel - 1, by omega⟩
      have readOthers := induction more (by omega)
      rw [List.flatMap_cons, readBlocks?, next_block, Option.bind_eq_bind, Option.bind_some]
      · dsimp only
        rw [readOthers]
        rfl
      · cases severity <;> exact nofun

theorem blocks_length (said : List (Severity × String)) :
    said.length ≤ (said.flatMap fun one => one.1.block one.2).length := by
  induction said with
  | nil => exact Nat.le_refl 0
  | cons first others induction =>
      have filled : 0 < (first.1.block first.2).length := by
        rw [Severity.block, List.length_append, List.length_cons]
        omega
      rw [List.flatMap_cons, List.length_append, List.length_cons]
      omega

/-! ## Reports to an expansion -/

namespace Expansion

/-- The expansion after diagnostics were reported to it, one after another. -/
def reporting (diagnostics : List Diagnostic) (expansion : Expansion) : Expansion :=
  diagnostics.foldl (fun reported diagnostic => Sink.report diagnostic reported) expansion

theorem reporting_tokens (diagnostics : List Diagnostic) (expansion : Expansion) :
    (expansion.reporting diagnostics).tokens =
      expansion.tokens ++ diagnostics.flatMap fun diagnostic =>
        diagnostic.severity.block diagnostic.message := by
  induction diagnostics generalizing expansion with
  | nil => exact (List.append_nil _).symm
  | cons first others induction =>
      have reported : (Sink.report first expansion).tokens =
          expansion.tokens ++ first.severity.block first.message := by
        rw [← first.tokens_block]
        rfl
      have behind := induction (Sink.report first expansion)
      rw [reported, List.append_assoc] at behind
      rw [List.flatMap_cons]
      exact behind

end Expansion

/-- What a diagnostic says to the compiler. -/
def Diagnostic.said (diagnostic : Diagnostic) : Severity × String :=
  (diagnostic.severity, diagnostic.message)

/-- Diagnostics stay apart and in order. Each adds its own block behind the tokens that are there,
which closes what it opens; the severities and messages of all of them are read back from the
tokens, whatever the messages are, so that the tokens are the same only for the same ones. -/
theorem diagnostics_are_kept_apart :
    (∀ (diagnostics : List Diagnostic) (expansion : Expansion),
      (expansion.reporting diagnostics).tokens =
        expansion.tokens ++ diagnostics.flatMap fun diagnostic =>
          diagnostic.severity.block diagnostic.message) ∧
    (∀ (severity : Severity) (message : String),
      Token.render (severity.block message) = severity.blockText message ∧
        ∀ (opened : List Delimiter) (rest : List Token),
          Token.groupsBehind opened (severity.block message ++ rest) =
            Token.groupsBehind opened rest) ∧
    (∀ diagnostics : List Diagnostic,
      let tokens := (Expansion.empty.reporting diagnostics).tokens
      readBlocks? tokens.length tokens = some (diagnostics.map Diagnostic.said)) ∧
    ∀ first second : List Diagnostic,
      (Expansion.empty.reporting first).tokens = (Expansion.empty.reporting second).tokens ↔
        first.map Diagnostic.said = second.map Diagnostic.said := by
  have blocks : ∀ diagnostics : List Diagnostic,
      (Expansion.empty.reporting diagnostics).tokens =
        (diagnostics.map Diagnostic.said).flatMap fun one => one.1.block one.2 := by
    intro diagnostics
    rw [Expansion.reporting_tokens, List.flatMap_map]
    rfl
  have readBack : ∀ diagnostics : List Diagnostic,
      let tokens := (Expansion.empty.reporting diagnostics).tokens
      readBlocks? tokens.length tokens = some (diagnostics.map Diagnostic.said) := by
    intro diagnostics tokens
    rw [show tokens = _ from blocks diagnostics]
    exact read_blocks _ _ (blocks_length _)
  refine ⟨fun diagnostics expansion => expansion.reporting_tokens diagnostics,
    fun severity message => ⟨severity.block_written message, severity.block_closed message⟩,
    readBack, ?_⟩
  intro first second
  constructor
  · intro same
    have read := readBack first
    rw [same] at read
    exact Option.some.inj (read.symm.trans (readBack second))
  · intro same
    rw [blocks, blocks, same]

end Recordsmith
