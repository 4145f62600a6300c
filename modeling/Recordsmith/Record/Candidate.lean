import Recordsmith.Text.Dotted

/-!
Candidates: declarations that asked for companions, as the host found them. The types of the
fields are still text. A candidate is worked on only when it meets two preconditions; failing
one is not a fault, it only means that nothing is generated.
-/

namespace Recordsmith

/-- A place in the host's sources; lines and columns count from one. -/
structure SourceLocation where
  path : String
  line : UInt32
  column : UInt32
  deriving DecidableEq, Repr

/-- A field as the host found it. A field without a visibility takes the record's. -/
structure DeclaredField where
  name : String
  typeText : String
  isVariadic : Bool
  location : Option SourceLocation
  visibility : Option String
  deriving DecidableEq, Repr

namespace DeclaredField

/-- A field with a single value, without a location or a visibility of its own. -/
def ofText (name typeText : String) : DeclaredField := ⟨name, typeText, false, none, none⟩

/-- The field with a visibility of its own. -/
def withVisibility (field : DeclaredField) (visibility : String) : DeclaredField :=
  { field with visibility := some visibility }

/-- The field as one that takes any number of values. -/
def variadic (field : DeclaredField) : DeclaredField := { field with isVariadic := true }

end DeclaredField

/-- A declaration that asked for companions. The enclosing scopes are given from the innermost
outwards; the field list is absent when the host could not find one. -/
structure Candidate where
  isRecord : Bool
  hasCompanionScope : Bool
  qualifiedName : String
  enclosingScopes : List String
  fields : Option (List DeclaredField)
  visibility : String
  location : Option SourceLocation
  deriving DecidableEq, Repr

/-- A precondition that a candidate fails. -/
inductive Precondition where
  | isRecord
  | hasCompanionScope
  deriving DecidableEq, Repr

namespace Precondition

/-- The name of a failed precondition. -/
def label : Precondition → String
  | .isRecord => "not_a_record"
  | .hasCompanionScope => "missing_companion_scope"

/-- What the precondition asks for. -/
def requirement : Precondition → String
  | .isRecord => "structs with named fields"
  | .hasCompanionScope => "types with a companion scope (no generic parameters)"

/-- The warning for a record that fails the precondition. -/
def warning (precondition : Precondition) (record : String) : String :=
  "#[derive(GenBuildable)] can only be applied to " ++ precondition.requirement ++
    ". No sources will be generated for `" ++ record ++ "`."

end Precondition

namespace Candidate

/-- A public record that meets both preconditions. -/
def record (qualifiedName : String) (fields : List DeclaredField) : Candidate :=
  ⟨true, true, qualifiedName, [], some fields, "pub", none⟩

/-- The candidate in other scopes, the innermost first. -/
def withEnclosingScopes (candidate : Candidate) (scopes : List String) : Candidate :=
  { candidate with enclosingScopes := scopes }

/-- The candidate with another visibility. -/
def withVisibility (candidate : Candidate) (visibility : String) : Candidate :=
  { candidate with visibility }

/-- The last part of the qualified name. -/
def simpleName (candidate : Candidate) : String := Text.lastDottedPart candidate.qualifiedName

/-- The first precondition that the candidate fails. -/
def unmet? (candidate : Candidate) : Option Precondition :=
  if !candidate.isRecord then some .isRecord
  else if !candidate.hasCompanionScope then some .hasCompanionScope
  else none

/-- The location of the first field of a name, if the host gave one. -/
def fieldLocation? (candidate : Candidate) (field : String) : Option SourceLocation :=
  ((candidate.fields.getD []).find? (·.name == field)).bind (·.location)

end Candidate

end Recordsmith
