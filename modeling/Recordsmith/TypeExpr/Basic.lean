/-!
Type expressions: a name, its arguments in order, and whether the type may be missing. The
written form puts arguments in angle brackets and a question mark behind a type that may be
missing.
-/

namespace Recordsmith

/-- A type expression. -/
structure TypeExpr where
  name : String
  arguments : List TypeExpr
  nullable : Bool
  deriving Repr, Inhabited

namespace TypeExpr

/-- A type without arguments. -/
def simple (name : String) : TypeExpr := ⟨name, [], false⟩

/-- A type with arguments. -/
def generic (name : String) (arguments : List TypeExpr) : TypeExpr := ⟨name, arguments, false⟩

/-- The same type, missing or not as given. -/
def withNullable (type : TypeExpr) (nullable : Bool) : TypeExpr := { type with nullable }

mutual

/-- Whether two type expressions are equal. -/
def decideEqual : (left right : TypeExpr) → Decidable (left = right)
  | ⟨leftName, leftArguments, leftNullable⟩, ⟨rightName, rightArguments, rightNullable⟩ =>
      match decEq leftName rightName, decideEqualLists leftArguments rightArguments,
          decEq leftNullable rightNullable with
      | .isTrue sameName, .isTrue sameArguments, .isTrue sameNullable =>
          .isTrue (by rw [sameName, sameArguments, sameNullable])
      | .isFalse differ, _, _ => .isFalse fun equal => differ (congrArg TypeExpr.name equal)
      | _, .isFalse differ, _ => .isFalse fun equal => differ (congrArg TypeExpr.arguments equal)
      | _, _, .isFalse differ => .isFalse fun equal => differ (congrArg TypeExpr.nullable equal)

/-- Whether two lists of type expressions are equal. -/
def decideEqualLists : (left right : List TypeExpr) → Decidable (left = right)
  | [], [] => .isTrue rfl
  | [], _ :: _ => .isFalse (by simp)
  | _ :: _, [] => .isFalse (by simp)
  | left :: lefts, right :: rights =>
      match decideEqual left right, decideEqualLists lefts rights with
      | .isTrue sameHead, .isTrue sameTail => .isTrue (by rw [sameHead, sameTail])
      | .isFalse differ, _ => .isFalse fun equal => differ (List.cons.inj equal).1
      | _, .isFalse differ => .isFalse fun equal => differ (List.cons.inj equal).2

end

instance : DecidableEq TypeExpr := decideEqual

mutual

/-- The written form of a type expression. -/
def write : TypeExpr → List Char
  | ⟨name, arguments, nullable⟩ =>
      name.toList ++ writeArguments arguments ++ (if nullable then ['?'] else [])

/-- Arguments in angle brackets; nothing for no arguments. -/
def writeArguments : List TypeExpr → List Char
  | [] => []
  | first :: rest => '<' :: (first.write ++ writeMore rest ++ ['>'])

/-- Arguments after the first, each after a comma and a space. -/
def writeMore : List TypeExpr → List Char
  | [] => []
  | next :: rest => ',' :: ' ' :: (next.write ++ writeMore rest)

end

/-- The written form of a type expression as text. -/
def render (type : TypeExpr) : String := String.ofList type.write

end TypeExpr

end Recordsmith
