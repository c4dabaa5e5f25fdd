import Whittle.Worker.Session

/-!
# The worker process

Reads the command line, the environment and the input of the process, and
writes what a session says.  While it waits for a line it looks for its parent.
-/

namespace Whittle.Process

def environment : IO Variables := do
  try
    let block ← IO.FS.readBinFile "/proc/self/environ"
    return .ofBlock block.toList
  catch _ => return .empty

/-- Whether there is a process of that number. -/
def isAlive (process : UInt32) : IO Bool := do
  try
    let _ ← IO.FS.readFile ("/proc/" ++ toString process ++ "/stat")
    return true
  catch _ => return false

/-- Read up to the end of a line, or to the end of the input. -/
partial def readLine (input : IO.FS.Stream) (begun : ByteArray) : IO ByteArray := do
  let piece ← input.read 1
  let line := begun ++ piece
  if piece.isEmpty || piece.toList = [lineFeed] then return line
  else readLine input line

/-- How long to sleep before looking again whether a line has come, in milliseconds. -/
def pause : UInt32 := 10

/--
Wait for a line, and look for the parent at the given time and from then on once
in every interval.  Nothing is returned if the parent is gone.
-/
partial def awaitLine (command : Command) (line : Task (Except IO.Error ByteArray))
    (lookAt : Nat) : IO (Option (ByteArray × Nat)) := do
  let now ← IO.monoMsNow
  if lookAt ≤ now then
    if ← isAlive command.parent then
      awaitLine command line (now + 1000 * command.watchdogSeconds)
    else return none
  else if ← IO.hasFinished line then
    return some (← IO.ofExcept line.get, lookAt)
  else
    IO.sleep pause
    awaitLine command line lookAt

/-- Answer lines until the input ends or the parent is gone. -/
partial def serve (input output : IO.FS.Stream) (environment : Variables) (command : Command)
    (worker : Worker) (lookAt : Nat) : IO UInt8 := do
  let reading ← IO.asTask (readLine input .empty) .dedicated
  match ← awaitLine command reading lookAt with
  | none =>
      IO.eprintln (orphanedNotice command.parent)
      return orphanedCode
  | some (line, lookAt) =>
      if line.isEmpty then return 0
      let served := Worker.serveLines environment [line.toList] worker (.ofRoom none)
      output.write (ByteArray.mk served.outflow.written.toArray)
      output.flush
      serve input output environment command served.worker lookAt

/-- The life of a process with the given arguments. -/
def run (arguments : List String) : IO UInt8 := do
  let environment ← environment
  match (⟨arguments, environment⟩ : Surroundings).start with
  | .error (.usage .help) =>
      IO.print (Command.helpText environment)
      return 0
  | .error error =>
      IO.eprintln error.message
      return error.exitCode
  | .ok startup =>
      try
        serve (← IO.getStdin) (← IO.getStdout) environment startup.command startup.worker 0
      catch error =>
        IO.eprintln ("I/O error: " ++ toString error)
        return 1

end Whittle.Process

/-- Run a worker; the code it ends with is that of its session. -/
def main (arguments : List String) : IO UInt32 := do
  return (← Whittle.Process.run arguments).toUInt32
