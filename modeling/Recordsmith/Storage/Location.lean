import Recordsmith.Text.Split

/-!
Path texts. A path is a text with slashes. Adding to a path replaces it when the addition begins
at the root; otherwise one slash is put between them unless there is one. Two texts name the
same path when their parts agree: repeated slashes, a slash at the end, and dots between slashes
make no difference.
-/

namespace Recordsmith.Storage

/-- Begins at the root. -/
def isAbsolute (path : String) : Bool :=
  match path.toList with
  | '/' :: _ => true
  | _ => false

/-- A path with another one added to it. -/
def join (base addition : String) : String :=
  if isAbsolute addition then addition
  else match base.toList.getLast? with
    | none => addition
    | some last => if last = '/' then base ++ addition else base ++ "/" ++ addition

/-- The pieces of a text between slashes. -/
def pieces (path : String) : List (List Char) := Text.splitBy (· == '/') path.toList

/-- The parts of a path: its pieces but for empty ones and single dots. -/
def parts (path : String) : List String :=
  ((pieces path).map String.ofList).filter fun piece => piece != "" && piece != "."

/-- Whether a relative path begins with a single dot. -/
def beginsWithDot (path : String) : Bool :=
  (pieces path).head? == some ['.']

/-- Whether two texts name the same path. -/
def samePath (left right : String) : Bool :=
  isAbsolute left == isAbsolute right && beginsWithDot left == beginsWithDot right &&
    parts left == parts right

/-- A piece that adds nothing to a path. -/
def isGap (piece : List Char) : Bool := piece.isEmpty || piece == ['.']

/-- The path up to its last part, without the slashes and single dots between; `none` for a path
without parts. -/
def parent? (path : String) : Option String :=
  match (pieces path).reverse.dropWhile isGap with
  | [] => if beginsWithDot path then some "" else none
  | _ :: before =>
      let kept := before.reverse
      let trimmed := (before.dropWhile isGap).reverse
      if trimmed.isEmpty then
        if kept.head? == some ['.'] then some "."
        else if isAbsolute path then some "/" else some ""
      else some (String.ofList (List.intercalate ['/'] trimmed))

/-- Drops the given parts from the front of the pieces of a path, with the gaps around them. -/
def dropParts : List String → List (List Char) → Option (List (List Char))
  | [], pieces => some (pieces.dropWhile isGap)
  | part :: rest, pieces =>
      match pieces.dropWhile isGap with
      | piece :: others => if String.ofList piece = part then dropParts rest others else none
      | [] => none

/-- What is left of a path behind a directory that it begins with. -/
def relativeTo? (directory path : String) : Option String :=
  if isAbsolute directory == isAbsolute path then
    (dropParts (parts directory) (pieces path)).map fun left =>
      String.ofList (List.intercalate ['/'] left)
  else none

end Recordsmith.Storage
