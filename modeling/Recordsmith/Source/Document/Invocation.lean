import Recordsmith.Source.Document.Basic

/-!
Documents of invocations. What stands between their brackets is not interpreted; whether two
tokens are written with a space between them is told by the tokens themselves and by what went
before them.
-/

namespace Recordsmith.Source

open Layout

/-- What was written last. -/
inductive Trail where
  | start
  | dollar
  | dollarName
  | dollarNameColon
  /-- A group behind a dollar sign, and perhaps part of its separator. -/
  | dollarGroup
  | dollarSeparator
  | hash
  | hashMark
  | point
  | colon
  | twoColons
  | name
  | nameMark
  | group
  | other
  deriving DecidableEq, Repr

/-- The names that stand apart from what is around them. -/
def separateNames : List String :=
  ["as", "async", "await", "box", "break", "const", "continue", "crate", "dyn", "else", "enum",
    "extern", "fn", "for", "if", "impl", "in", "let", "loop", "macro", "match", "mod", "move",
    "mut", "pub", "ref", "return", "static", "struct", "trait", "type", "unsafe", "use", "where",
    "while", "yield"]

/-- Whether a space stands in front of a token of no special place, and what it leaves behind. -/
def plainTrail (isPattern : Bool) (trail : Trail) : Token → Bool × Trail
  | .opening .brace => (true, .other)
  | .opening _ => (true, .group)
  | .closing _ => (false, .other)
  | .name text =>
      if separateNames.contains text then (true, .other)
      else (trail != .point && trail != .twoColons, .name)
  | .literal _ => (trail != .point, .name)
  | .mark ',' _ => (false, .other)
  | .mark ';' _ => (false, .other)
  | .mark '.' _ =>
      if isPattern then (true, .other) else (trail != .name && trail != .group, .point)
  | .mark ':' true => (trail != .name, .colon)
  | .mark '$' _ => (true, .dollar)
  | .mark '#' _ => (true, .hash)
  | .mark _ _ => (true, .other)

/-- Whether a space stands in front of a token, and what it leaves behind. -/
def Trail.next (isPattern : Bool) (trail : Trail) (token : Token) : Bool × Trail :=
  match trail, token with
  | .dollar, .name _ => (false, if isPattern then .dollarName else .other)
  | .dollar, .opening .parenthesis => (false, .dollarGroup)
  | .dollarName, .mark ':' false => (false, .dollarNameColon)
  | .dollarNameColon, .name _ => (false, .other)
  | .dollarGroup, .name _ => (false, .dollarSeparator)
  | .dollarGroup, .literal _ => (false, .dollarSeparator)
  | .dollarGroup, .mark _ true => (false, .dollarGroup)
  | .dollarGroup, .mark character false =>
      (false, if ['+', '*', '?'].contains character then .other else .dollarSeparator)
  | .dollarSeparator, .mark '+' _ => (false, .other)
  | .dollarSeparator, .mark '*' _ => (false, .other)
  | .hash, .mark '!' _ => (false, .hashMark)
  | .hash, .opening .bracket => (false, .other)
  | .hashMark, .opening .bracket => (false, .other)
  | .name, .opening .parenthesis => (false, .group)
  | .name, .opening .bracket => (false, .group)
  | .name, .mark '!' false => (false, .nameMark)
  | .nameMark, .opening .parenthesis => (false, .other)
  | .nameMark, .opening .bracket => (false, .other)
  | .colon, .mark ':' _ => (false, .twoColons)
  | trail, token => plainTrail isPattern trail token

/-- Whether a token is written together with the one behind it. -/
def holdsTogether : Token → Bool
  | .mark character joint => joint || character == '$'
  | _ => false

/-- The document of tokens. `outer` is what each open group leaves behind, and `isJoint` says
whether nothing may come in front of the first token. -/
def sequencePieces (isPattern : Bool) (outer : List Trail) (trail : Trail) (isJoint : Bool) :
    List Token → List Piece
  | [] => []
  | .closing delimiter :: rest =>
      (if delimiter == .brace && trail != .start then [Piece.space] else []) ++
        .text (Token.closing delimiter).text ::
          sequencePieces isPattern outer.tail (outer.headD .other) false rest
  | token :: rest =>
      let (isApart, next) := trail.next isPattern token
      let gap : List Piece :=
        if isJoint then [] else if isApart then [Piece.space]
        else if token.text == "." then [Piece.softBreak] else []
      gap ++ .text token.text :: match token with
        | .opening delimiter =>
            (if delimiter == .brace && !endsAtOnce rest then [Piece.space] else []) ++
              sequencePieces isPattern (next :: outer) .start true rest
        | token => sequencePieces isPattern outer next (holdsTogether token) rest

/-- The document of tokens that fill the lines of a group. -/
def filledPieces (isPattern : Bool) (ending : Piece) (tokens : List Token) : List Piece :=
  if tokens.isEmpty then []
  else Piece.allBreaks step (Piece.outdentLast
    (ending :: Piece.someBreaks 0 (sequencePieces isPattern [] .start true tokens) ++ [ending]))

/-! ## Rules -/

/-- The tokens of a group behind its beginning, and those behind the group; `depth` groups are
open inside it. -/
def splitClosing (depth : Nat) : List Token → List Token × List Token
  | [] => ([], [])
  | token :: rest =>
      let keep (depth : Nat) : List Token × List Token :=
        let (inner, after) := splitClosing depth rest
        (token :: inner, after)
      match token with
      | .opening _ => keep (depth + 1)
      | .closing _ => match depth with
          | 0 => ([], rest)
          | outer + 1 => keep outer
      | _ => keep depth

/-- The document of rules: each a group that is matched, an arrow and a group that is written for
it. -/
def rulePieces : Nat → List Token → List Piece
  | 0, _ => []
  | _ + 1, [] => []
  | fuel + 1, .mark ';' _ :: rest => rulePieces fuel rest
  | fuel + 1, .opening delimiter :: rest =>
      let (pattern, behind) := splitClosing 0 rest
      let (body, after) := splitClosing 0 (behind.drop 3)
      .text (Token.opening delimiter).text :: filledPieces true Piece.softBreak pattern ++
        .text ((Token.closing delimiter).text ++ " => \x7b") :: Piece.noBreak ::
        filledPieces false Piece.lineEnd body ++ .text "\x7d;" :: Piece.lineEnd ::
        rulePieces fuel after
  | _ + 1, rest => flatPieces rest

/-! ## Invocations -/

/-- The document of an invocation; `isEnded` says whether a semicolon stands behind brackets that
are no braces. -/
def invocationPieces (isEnded : Bool) : Tree → List Piece
  | .node .invocation [path, _, name, .group delimiter inner] =>
      let tokens := treesTokens inner
      if path.tokens == [.name "macro_rules"] && !name.isNothing then
        .text "macro_rules! " :: name.tight ::
          Piece.braced [.text " "] (rulePieces tokens.length tokens)
      else
        let isBraced := delimiter == .brace
        path.tight :: .text "!" :: name.ifThere [.text " ", name.tight] ++
          .text ((if isBraced then " " else "") ++ (Token.opening delimiter).text) ::
          filledPieces false (if isBraced then Piece.lineEnd else Piece.softBreak) tokens ++
          .text (Token.closing delimiter).text ::
          (if isEnded && !isBraced then [.text ";"] else [])
  | tree => flatPieces tree.tokens

end Recordsmith.Source
