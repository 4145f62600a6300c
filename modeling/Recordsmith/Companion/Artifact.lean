import Recordsmith.Code.Written
import Recordsmith.Companion.Declarations
import Recordsmith.Source.Document
import Recordsmith.Text.SnakeCase

/-!
Artifacts: all that is generated for one record, with the file it is meant for. The file lies
under the generated root in the directories of the package, and is named after the record and
its scopes, so that records of one name in different scopes have files of their own.
-/

namespace Recordsmith

open Code

/-- One generated declaration. -/
structure GeneratedDeclaration where
  kind : DeclarationKind
  item : Item

/-- What is generated for one record. -/
structure Artifact where
  recordName : String
  partialName : String
  declarations : List GeneratedDeclaration
  targetFile : String

/-- The first line of every generated file. -/
def generatedNotice : String := "// @generated by buildable_codegen. Do not edit."

/-- The text of a declaration alone. -/
def GeneratedDeclaration.text (declaration : GeneratedDeclaration) : String :=
  Source.layoutItems [declaration.item.tree]

namespace Artifact

/-- The declaration of a kind. -/
def declaration? (artifact : Artifact) (kind : DeclarationKind) : Option GeneratedDeclaration :=
  artifact.declarations.find? (·.kind == kind)

/-- The text of one file with all declarations. -/
def text (artifact : Artifact) : String :=
  generatedNotice ++ "\n\n" ++ Source.layoutItems (artifact.declarations.map (·.item.tree))

/-- The tokens of all declarations. -/
def tokens (artifact : Artifact) : List Token :=
  artifact.declarations.flatMap (·.item.tokens)

end Artifact

/-- What every generated file's name ends with. -/
def fileEnding : String := "_buildable.rs"

namespace RecordDescriptor

/-- The name of the file, without its directories. -/
def fileName (record : RecordDescriptor) : String :=
  String.intercalate "_" (record.pathSegments.map Text.snakeCase) ++ fileEnding

/-- The file under the generated root. -/
def targetFile (record : RecordDescriptor) (settings : Settings) : String :=
  Storage.join (record.packageSegments.foldl Storage.join settings.generatedRoot) record.fileName

/-- Generates the companions of a record. -/
def synthesize (record : RecordDescriptor) (settings : Settings) : Outcome Artifact := do
  let plan ← record.plan settings
  return ⟨record.qualifiedName, plan.partialName.text,
    DeclarationKind.all.map fun kind => ⟨kind, plan.item kind⟩, record.targetFile settings⟩

end RecordDescriptor

end Recordsmith
