import Recordsmith.Fault
import Recordsmith.Source.Read
import Recordsmith.Storage.Location

/-!
Settings shared by all records: the path under which generated code reaches its runtime, and the
directory that generated files are put in.
-/

namespace Recordsmith

/-- Settings of generation. -/
structure Settings where
  runtimePath : Source.WrittenPath
  generatedRoot : String

namespace Settings

/-- The runtime under its own name, and files in the directory `generated`. -/
def standard : Settings := ⟨.plain true ["buildable"], "generated"⟩

/-- The settings with another runtime path. -/
def withRuntimePath (settings : Settings) (path : Source.WrittenPath) : Settings :=
  { settings with runtimePath := path }

/-- The settings with a runtime path given as text. -/
def withRuntimePathText (settings : Settings) (text : String) : Outcome Settings :=
  match Source.WrittenPath.read? text with
  | some path => .ok (settings.withRuntimePath path)
  | none => .error (Report.ofFault (.invalidIdentifier .runtimePath text))

/-- The settings with another directory. -/
def withGeneratedRoot (settings : Settings) (root : String) : Settings :=
  { settings with generatedRoot := root }

/-- Whether the settings are the standard ones. -/
def isStandard (settings : Settings) : Bool :=
  settings.runtimePath.tokens == standard.runtimePath.tokens &&
    Storage.samePath settings.generatedRoot standard.generatedRoot

end Settings

end Recordsmith
