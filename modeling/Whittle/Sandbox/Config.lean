import Whittle.Json.Record

/-!
# Configuration of the sandbox

What is called in a guest, and how the failures of a compiler are told from
those of a program.  Every field has a default.
-/

namespace Whittle

/-- How much the compiler of guests tries to improve their code. -/
inductive OptLevel where
  | none
  | speed
  | speedAndSize
deriving Repr, DecidableEq

namespace OptLevel

def all : List OptLevel := [.none, .speed, .speedAndSize]

def name : OptLevel → String
  | .none => "none"
  | .speed => "speed"
  | .speedAndSize => "speed_and_size"

def toJson (level : OptLevel) : Json := .str level.name

def ofJson? (json : Json) : Option OptLevel := json.choice? all name

end OptLevel

/-- The configuration of a sandbox. -/
structure SandboxConfig where
  /-- The name of the function that is called, without arguments and for one integer. -/
  entryPoint : String
  /-- The pattern of messages that report a failed assertion. -/
  assertionPattern : String
  optLevel : OptLevel
deriving Repr, DecidableEq

namespace SandboxConfig

/-- The pattern of the usual messages of failed assertions. -/
def standardPattern : String := "(?i)assertion(?: `[^`]*`)? failed"

/-- The configuration in which every field has its default. -/
def standard : SandboxConfig := ⟨"main", standardPattern, .speed⟩

def toJson (config : SandboxConfig) : Json :=
  .obj [("entry_point", .str config.entryPoint),
    ("assertion_pattern", .str config.assertionPattern), ("opt_level", config.optLevel.toJson)]

/-- Read a configuration; fields that are missing have their defaults. -/
def ofJson? (json : Json) : Option SandboxConfig := do
  let [entryPoint, assertionPattern, optLevel] ←
    json.defaultedSlots? ["entry_point", "assertion_pattern", "opt_level"] | none
  return {
    entryPoint := ← Json.orDefault Json.string? standard.entryPoint entryPoint
    assertionPattern := ← Json.orDefault Json.string? standard.assertionPattern assertionPattern
    optLevel := ← Json.orDefault OptLevel.ofJson? standard.optLevel optLevel }

end SandboxConfig

end Whittle
