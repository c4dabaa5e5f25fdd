import Whittle.Json.Record
import Whittle.Program.Interchange
import Whittle.Program.Node

/-!
# Options of a reduction

The texts that decide what is protected and what counts as a diagnostic.
-/

namespace Whittle

/-- The texts that the passes look for. -/
structure ReduceOptions where
  /-- Code that mentions one of these is protected from the kinds that guard it. -/
  markers : List String
  /-- Statements that begin with this are diagnostics. -/
  diagnosticStart : String
deriving Repr, DecidableEq

namespace ReduceOptions

/-- Loop counters are protected, and calls of the log function are diagnostics. -/
def standard : ReduceOptions where
  markers := ["__loopvar", "__loopSecretVar"]
  diagnosticStart := "Log("

/-- Whether the text of a node mentions a marker. -/
def mentionsMarker (options : ReduceOptions) (node : Node) : Bool :=
  options.markers.any fun marker => Text.occursIn marker.toList node.chars

/-- Whether the text of a node begins as a diagnostic does. -/
def beginsDiagnostic (options : ReduceOptions) (node : Node) : Bool :=
  options.diagnosticStart.toList.isPrefixOf node.chars

def toJson (options : ReduceOptions) : Json :=
  .obj [("protection_markers", .ofStrings options.markers),
    ("diagnostic_prefix", .str options.diagnosticStart)]

/-- Read options; both fields are required. -/
def ofJson? (json : Json) : Option ReduceOptions := do
  let [some markers, some start] ←
    json.slots? ["protection_markers", "diagnostic_prefix"] | none
  return ⟨← markers.1.strings?, ← start.1.string?⟩

end ReduceOptions

end Whittle
