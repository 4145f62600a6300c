import Recordsmith.Companion.Artifact
import Recordsmith.Generation.Diagnostic
import Recordsmith.Generation.Event

/-!
Sinks: where artifacts and diagnostics go. Taking an artifact may fail and may have events of
its own; a sink keeps what had happened to it up to a failure. Taking a diagnostic never fails.
The plainest sink collects everything in order.
-/

namespace Recordsmith

/-- What became of handing an artifact to a sink. -/
structure Emission (Store : Type) where
  store : Store
  outcome : Outcome Unit
  events : List Event

/-- A place that takes artifacts and diagnostics. -/
class Sink (Store : Type) where
  emit : Artifact → Store → Emission Store
  report : Diagnostic → Store → Store

/-- All artifacts and all diagnostics, in the order in which they came. -/
structure Collection where
  artifacts : List Artifact
  diagnostics : List Diagnostic

/-- An empty collection. -/
def Collection.empty : Collection := ⟨[], []⟩

instance : Sink Collection where
  emit artifact collection :=
    ⟨{ collection with artifacts := collection.artifacts ++ [artifact] }, .ok (), []⟩
  report diagnostic collection :=
    { collection with diagnostics := collection.diagnostics ++ [diagnostic] }

end Recordsmith
