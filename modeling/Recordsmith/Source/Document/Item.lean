import Recordsmith.Source.Document.Statement

/-!
Documents of items. The members of a type, a trait or an implementation always stand on lines of
their own. The parameters of a function do so only when they do not fit into one line.
-/

namespace Recordsmith.Source

open Layout

section

variable (parts : Documents)

/-! ## Pieces of items -/

/-- The document of a field. -/
def fieldPieces (tree : Tree) : List Piece :=
  let (attributes, bare) := tree.splitAttributes
  notesPieces parts attributes ++ match bare with
    | .node .field [visibility, name, colon, .type type] =>
        visibilityPieces visibility ++ colon.ifThere [name.tight, .text ": "] ++ parts.type type
    | other => flatPieces other.tokens

/-- The document of fields without names. -/
def positionalFieldsPieces (group : Tree) : List Piece :=
  Piece.outdentLast (.text "(" :: Piece.softBreak ::
    Piece.commaList (group.grouped.map (fieldPieces parts))) ++ [.text ")"]

/-- The document of a variant of an enumeration. -/
def variantPieces (tree : Tree) : List Piece :=
  let (attributes, bare) := tree.splitAttributes
  notesPieces parts attributes ++ match bare with
    | .node .variant [name, fields, sign, value] =>
        name.tight :: (match fields with
          | .group .brace _ =>
              .text " \x7b" :: Piece.allBreaks step (Piece.outdentLast
                (Piece.space :: membersPieces (fields.grouped.map (fieldPieces parts)) [])) ++
                [.text "\x7d"]
          | .group _ _ => Piece.allBreaks step (positionalFieldsPieces parts fields)
          | _ => []) ++ sign.ifThere (.text " = " :: parts.expression false value)
    | other => flatPieces other.tokens

/-- The document of a parameter of a function. -/
def functionParameterPieces (tree : Tree) : List Piece :=
  let (attributes, bare) := tree.splitAttributes
  notesPieces parts attributes ++ match bare with
    | .node .receiver [sign, lifetime, change, self, colon, type] =>
        sign.tight :: lifetime.ifThere [lifetime.tight, .text " "] ++ change.spaced ++
          self.tight :: (match type with
            | .type type => colon.ifThere (.text ": " :: parts.type type)
            | _ => [])
    | other => parts.pattern other

/-- The document of a signature, up to the conditions. -/
def signaturePieces : Tree → List Piece
  | .node .signature [words, convention, _, name, generics, .group _ [.node .list found, rest], _,
      output, _] =>
      let parameters := (Tree.elementsOf found).map (functionParameterPieces parts)
      words.spaced ++ convention.spaced ++ .text "fn " :: name.tight ::
        genericsPieces parts generics ++ .text "(" :: Piece.noBreak ::
        Piece.allBreaks 0 (Piece.outdentLast (Piece.softBreak :: withRest parts rest parameters)) ++
        .text ")" :: Piece.allBreaks (-step) (match output with
          | .type type => .text " -> " :: parts.type type
          | _ => [])
  | tree => flatPieces tree.tokens

/-- The conditions of a signature. -/
def Tree.signatureConditions : Tree → Tree
  | .node .signature parts => parts.getLast?.getD nothing
  | _ => nothing

/-- The items in a body, each given its document, behind the head of what they belong to. -/
def itemsBody (head : List Piece) (body : Tree) (item : Tree → List Piece) : List Piece :=
  let (attributes, items) := body.splitBody
  Piece.braced head (notesPieces parts attributes ++ items.flatMap item) ++ [Piece.lineEnd]

/-- Whether what a declaration with `use` names ends with a group. -/
def Tree.endsInGroup : Tree → Bool
  | .node .usePath [_, _, inner] => inner.endsInGroup
  | .node .useGroup _ => true
  | _ => false

/-- Names in the braces of a declaration with `use`. A line ends behind a group among them. -/
def useListPieces : List Tree → List Piece
  | [] => []
  | [last] => parts.useTree last
  | first :: second :: rest =>
      parts.useTree first ++ .text "," ::
        (if first.endsInGroup then Piece.lineEnd else Piece.space) ::
        useListPieces (second :: rest)

/-- The document of what a declaration with `use` names. -/
def useTreePieces : Tree → List Piece
  | .node .usePath [name, colons, inner] => name.tight :: colons.tight :: parts.useTree inner
  | .node .useRename [name, _, other] => [name.tight, .text " as ", other.tight]
  | .node .useGroup [group] =>
      .text "\x7b" :: Piece.allBreaks step (Piece.outdentLast
        (Piece.softBreak :: Piece.someBreaks 0 (useListPieces parts group.grouped) ++
          Piece.comma true)) ++ [.text "\x7d"]
  | tree => [tree.tight]

/-- The value of a constant, if there is one. -/
def valuePieces (sign value : Tree) : List Piece :=
  sign.ifThere (.text " = " :: Piece.noBreak :: parts.expression false value)

/-! ## All items -/

/-- The document of a type with a name, behind its head. Its conditions stand in front of the type
or behind it. -/
def typeAliasPieces (head : List Piece) (bounds front type behind : Tree) : List Piece :=
  let bounds := match bounds with
    | .bounds bounds _ => colonBounds parts bounds
    | _ => []
  let definition (type : WrittenType) : List Piece :=
    .text "= " :: Piece.noBreak :: Piece.someBreaks (-step) (parts.type type)
  Piece.allBreaks step (head ++ bounds ++ match type with
    | .type type =>
        if front.isNothing then
          .text " " :: definition type ++ conditionsPieces parts .shared true behind
        else conditionsPieces parts .shared false front ++ definition type ++ [.text ";"]
    | _ => conditionsPieces parts .shared true behind) ++ [Piece.lineEnd]

/-- The document of an item of a form with its parts. -/
def itemOfForm : Form → List Tree → List Piece
  | .function, [visibility, word, signature, body] =>
      let head := visibilityPieces visibility ++ word.spaced ++ signaturePieces parts signature
      let conditions := signature.signatureConditions
      (if body.is .body then
        Piece.braced (head ++ conditionsPieces parts .own false conditions) (bodyLines parts body)
      else Piece.allBreaks step (head ++ conditionsPieces parts .own true conditions)) ++
        [Piece.lineEnd]
  | .constantItem, [visibility, word, keyword, name, _, .type type, sign, value, _] =>
      Piece.allBreaks step (visibilityPieces visibility ++ word.spaced ++ keyword.spaced ++
        name.tight :: .text ": " :: parts.type type ++ valuePieces parts sign value ++
        [.text ";"]) ++ [Piece.lineEnd]
  | .staticItem, [visibility, keyword, change, name, _, .type type, sign, value, _] =>
      Piece.allBreaks 0 (visibilityPieces visibility ++ keyword.spaced ++ change.spaced ++
        name.tight :: .text ": " :: parts.type type ++ valuePieces parts sign value ++
        [.text ";"]) ++ [Piece.lineEnd]
  | .useItem, [visibility, keyword, colons, tree, _] =>
      visibilityPieces visibility ++ keyword.spaced ++ colons.tight :: parts.useTree tree ++
        [.text ";", Piece.lineEnd]
  | .moduleItem, [visibility, word, keyword, name, body] =>
      let head := visibilityPieces visibility ++ word.spaced ++ keyword.spaced ++ [name.tight]
      if body.is .body then itemsBody parts (head ++ [.text " "]) body parts.item
      else Piece.allBreaks step (head ++ [.text ";"]) ++ [Piece.lineEnd]
  | .foreignModule, [word, keyword, text, body] =>
      itemsBody parts (word.spaced ++ keyword.spaced ++ text.spaced) body parts.item
  | .externalName, [visibility, first, second, name, keyword, other, _] =>
      visibilityPieces visibility ++ first.spaced ++ second.spaced ++ name.tight ::
        keyword.ifThere [.text " as ", other.tight] ++ [.text ";", Piece.lineEnd]
  | .namedStruct, [visibility, keyword, name, generics, conditions, group] =>
      Piece.braced (visibilityPieces visibility ++ keyword.spaced ++ name.tight ::
        genericsPieces parts generics ++ conditionsPieces parts .own false conditions)
        (group.grouped.flatMap fun field => fieldPieces parts field ++
          [.text ",", Piece.lineEnd]) ++ [Piece.lineEnd]
  | .tupleStruct, [visibility, keyword, name, generics, group, conditions, _] =>
      Piece.allBreaks step (visibilityPieces visibility ++ keyword.spaced ++ name.tight ::
        genericsPieces parts generics ++ positionalFieldsPieces parts group ++
        conditionsPieces parts .own true conditions) ++ [Piece.lineEnd]
  | .unitStruct, [visibility, keyword, name, generics, conditions, _] =>
      Piece.allBreaks step (visibilityPieces visibility ++ keyword.spaced ++ name.tight ::
        genericsPieces parts generics ++ conditionsPieces parts .own true conditions) ++
        [Piece.lineEnd]
  | .enumeration, [visibility, keyword, name, generics, conditions, group] =>
      Piece.braced (visibilityPieces visibility ++ keyword.spaced ++ name.tight ::
        genericsPieces parts generics ++ conditionsPieces parts .own false conditions)
        (group.grouped.flatMap fun variant => variantPieces parts variant ++
          [.text ",", Piece.lineEnd]) ++ [Piece.lineEnd]
  | .traitItem, [visibility, first, second, keyword, name, generics, _, .bounds bounds _,
      conditions, body] =>
      itemsBody parts (visibilityPieces visibility ++ first.spaced ++ second.spaced ++
        keyword.spaced ++ name.tight :: genericsPieces parts generics ++
        (if bounds.isEmpty then [] else .text ": " :: inlineBounds parts bounds) ++
        conditionsPieces parts .own false conditions) body parts.item
  | .traitAlias, [visibility, keyword, name, generics, _, .bounds bounds _, conditions, _] =>
      Piece.allBreaks step (visibilityPieces visibility ++ keyword.spaced ++ name.tight ::
        genericsPieces parts generics ++ .text " = " :: Piece.noBreak ::
        filledBounds parts bounds ++ conditionsPieces parts .own true conditions) ++
        [Piece.lineEnd]
  | .implementation, [first, second, keyword, generics, sign, trait, word, .type target,
      conditions, body] =>
      let trait := match trait with
        | .type path => sign.tight :: parts.type path ++ Piece.space :: word.spaced
        | _ => []
      itemsBody parts (Piece.someBreaks (-step) (Piece.allBreaks step
        (first.spaced ++ second.spaced ++ keyword.tight :: genericsPieces parts generics) ++
          .text " " :: trait ++ parts.type target) ++
        conditionsPieces parts .own false conditions) body parts.item
  | .typeAlias, [visibility, word, keyword, name, generics, _, bounds, front, _, type, behind, _] =>
      typeAliasPieces parts (visibilityPieces visibility ++ word.spaced ++ keyword.spaced ++
        name.tight :: genericsPieces parts generics) bounds front type behind
  | .invocationItem, [invocation, _] => invocationPieces true invocation ++ [Piece.lineEnd]
  | _, trees => flatPieces (treesTokens trees) ++ [Piece.lineEnd]

/-- The document of an item. -/
def itemPieces (tree : Tree) : List Piece :=
  let (attributes, bare) := tree.splitAttributes
  notesPieces parts attributes ++ match bare with
    | .node form trees => itemOfForm parts form trees
    | other => flatPieces other.tokens ++ [Piece.lineEnd]

end

end Recordsmith.Source
