import Whittle.Worker.Basic

/-!
# Serving a stream

Requests come as lines of bytes, and every response goes out as a line that is
followed by a line with a fixed word.  Both streams may fail; what was written
before a failure stays written.
-/

namespace Whittle

/-- How a stream fails. -/
inductive StreamError where
  | connectionReset
  | brokenPipe
deriving Repr, DecidableEq

def StreamError.name : StreamError → String
  | .connectionReset => "ConnectionReset"
  | .brokenPipe => "BrokenPipe"

/-! ## Reading -/

/-- Bytes that can be read, and the failure that comes after them instead of an end. -/
structure Inflow where
  bytes : List UInt8
  failure : Option StreamError
deriving Repr, DecidableEq

def lineFeed : UInt8 := 10

/--
The lines of some bytes, each with the byte that ends it, and what stands after
the last of these.
-/
def splitLines : List UInt8 → List (List UInt8) × List UInt8
  | [] => ([], [])
  | byte :: rest =>
      let (lines, tail) := splitLines rest
      if byte = lineFeed then ([byte] :: lines, tail)
      else
        match lines with
        | [] => ([], byte :: tail)
        | line :: lines => ((byte :: line) :: lines, tail)

/-- The lines that can be read: if reading fails, the last one is lost. -/
def Inflow.lines (inflow : Inflow) : List (List UInt8) :=
  let (lines, tail) := splitLines inflow.bytes
  if inflow.failure.isNone && !tail.isEmpty then lines ++ [tail] else lines

/-! ## Writing -/

/-- What was written, where it was flushed, and how much more can be written. -/
structure Outflow where
  written : List UInt8
  /-- How many bytes had been written at each flush. -/
  flushes : List Nat
  /-- How many bytes can be written in all, if that is limited. -/
  room : Option Nat
deriving Repr, DecidableEq

namespace Outflow

/-- Nothing was written yet. -/
def ofRoom (room : Option Nat) : Outflow := ⟨[], [], room⟩

/-- Write bytes as far as there is room; it fails if that is not far enough. -/
def write (outflow : Outflow) (bytes : List UInt8) : Option StreamError × Outflow :=
  match outflow.room with
  | none => (none, { outflow with written := outflow.written ++ bytes })
  | some room =>
      let fitting := bytes.take (room - outflow.written.length)
      (if fitting.length < bytes.length then some .brokenPipe else none,
        { outflow with written := outflow.written ++ fitting })

def flush (outflow : Outflow) : Outflow :=
  { outflow with flushes := outflow.flushes ++ [outflow.written.length] }

/-- Write bytes and flush them. -/
def send (outflow : Outflow) (bytes : List UInt8) : Option StreamError × Outflow :=
  match outflow.write bytes with
  | (none, outflow) => (none, outflow.flush)
  | failed => failed

end Outflow

/-! ## The loop -/

variable [Engine]

/-- The word after every response. -/
def sentinel : String := "Done"

def lineBytes (line : String) : List UInt8 :=
  Text.Utf8.encode line.toList ++ [lineFeed]

/-- How serving a stream ended. -/
structure Served where
  /-- The failure that ended it; without one the input was read to its end. -/
  failure : Option StreamError
  worker : Worker
  outflow : Outflow

namespace Worker

/-- Send a response and the word after it. -/
def deliver (outflow : Outflow) (response : RunResponse) : Option StreamError × Outflow :=
  match outflow.send (lineBytes response.toText) with
  | (none, outflow) => outflow.send (lineBytes sentinel)
  | failed => failed

/--
Answer lines one after the other, as long as the responses can be written.  There
is an interlude for each line; nothing goes on elsewhere once they are over.
-/
def serveLines (environment : Variables) :
    List (List UInt8) → Worker → Outflow → (interludes : List Interlude := []) → Served
  | [], worker, outflow, _ => ⟨none, worker, outflow⟩
  | line :: rest, worker, outflow, interludes =>
      match worker.respond? environment (Text.Utf8.decodeLossy line) with
      | none => serveLines environment rest worker outflow interludes.tail
      | some (response, worker) =>
          match deliver outflow response with
          | (some error, outflow) => ⟨some error, worker, outflow⟩
          | (none, outflow) =>
              serveLines environment rest (worker.finishRequest (interludes.headD .quiet))
                outflow interludes.tail

def serve (worker : Worker) (environment : Variables) (inflow : Inflow) (outflow : Outflow)
    (interludes : List Interlude := []) : Served :=
  let served := serveLines environment inflow.lines worker outflow interludes
  { served with failure := served.failure <|> inflow.failure }

end Worker

end Whittle
