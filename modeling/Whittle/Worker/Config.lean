import Whittle.Json.Words
import Whittle.Sandbox.Config

/-!
# Configuration of a worker

How often containers are replaced, how often the parent process is looked for,
and which environment variables are reported.  Every field has a default.
-/

namespace Whittle

/-- A length of time. -/
structure Interval where
  nanoseconds : Nat
deriving Repr, DecidableEq

namespace Interval

def nanosecondsPerSecond : Nat := 1000000000

def ofSeconds (seconds : Nat) : Interval := ⟨seconds * nanosecondsPerSecond⟩

def seconds (interval : Interval) : Nat := interval.nanoseconds / nanosecondsPerSecond

/-- What is left after the whole seconds. -/
def rest (interval : Interval) : Nat := interval.nanoseconds % nanosecondsPerSecond

/-- Seconds and nanoseconds together, if their seconds still fit into 64 bits. -/
def ofParts? (seconds nanoseconds : Nat) : Option Interval :=
  let interval : Interval := ⟨seconds * nanosecondsPerSecond + nanoseconds⟩
  if interval.seconds < UInt64.size then some interval else none

def toJson (interval : Interval) : Json :=
  .obj [("secs", .ofNat interval.seconds), ("nanos", .ofNat interval.rest)]

/-- Whether every member of an object has one of the given names. -/
def namesAreKnown (names : List String) : Json → Bool
  | .obj fields => fields.all fun (name, _) => names.contains name
  | _ => true

/-- Read an interval; both parts are required and nothing else is allowed. -/
def ofJson? (json : Json) : Option Interval := do
  if !namesAreKnown ["secs", "nanos"] json then none
  let [some seconds, some nanoseconds] ← json.slots? ["secs", "nanos"] | none
  ofParts? (← seconds.1.natBelow? UInt64.size) (← nanoseconds.1.natBelow? UInt32.size)

end Interval

/-- The configuration of a worker. -/
structure WorkerConfig where
  /-- How many requests one container serves before it is replaced. -/
  recycleThreshold : Nat
  /-- The time between two checks on the parent process. -/
  watchdogInterval : Interval
  sandbox : SandboxConfig
  /-- The beginnings of the names of variables that every response reports. -/
  envStarts : List String
deriving Repr, DecidableEq

namespace WorkerConfig

/-- The configuration in which every field has its default. -/
def standard : WorkerConfig where
  recycleThreshold := 100
  watchdogInterval := .ofSeconds 10
  sandbox := .standard
  envStarts := ["WASMTIME_", "CRANELIFT_", "RUST_"]

def toJson (config : WorkerConfig) : Json :=
  .obj [("recycle_threshold", .ofNat config.recycleThreshold),
    ("watchdog_interval", config.watchdogInterval.toJson), ("sandbox", config.sandbox.toJson),
    ("env_prefixes", .ofStrings config.envStarts)]

/-- Read a configuration; fields that are missing have their defaults. -/
def ofJson? (json : Json) : Option WorkerConfig := do
  let [threshold, interval, sandbox, starts] ← json.defaultedSlots?
    ["recycle_threshold", "watchdog_interval", "sandbox", "env_prefixes"] | none
  return {
    recycleThreshold :=
      ← Json.orDefault (·.natBelow? UInt64.size) standard.recycleThreshold threshold
    watchdogInterval := ← Json.orDefault Interval.ofJson? standard.watchdogInterval interval
    sandbox := ← Json.orDefault SandboxConfig.ofJson? standard.sandbox sandbox
    envStarts := ← Json.orDefault Json.strings? standard.envStarts starts }

end WorkerConfig

end Whittle
