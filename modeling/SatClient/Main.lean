import SatClient.Demo.Run
import SatClient.Log.Logger
import Std.Time.DateTime.Timestamp
/-!
The command line program. Settings come from files and environment variables; the solver's reply
comes on standard input, where the shell connects the process that read the problem.
-/

namespace SatClient.Main

def usage : String := "usage: satbridge demo [--config CONFIG] [--executable EXECUTABLE] " ++
  "[--timeout TIMEOUT] [--verbose] [--stats] [--dimacs-only]"

partial def readAll (stream : IO.FS.Stream) (bytes : ByteArray) : IO ByteArray := do
  let more ← stream.read 65536
  if more.isEmpty then return bytes else readAll stream (bytes ++ more)

def readEnvironment : IO (Table String String) := do
  let mut table : Table String String := {}
  for name in [Settings.executableVariable, Settings.fileVariable] do
    if let some value ← IO.getEnv name then table := table.put name value
  return table

def readEntry? (name : String) : IO (Option Entry) := do
  try
    let content ← IO.FS.readBinFile name
    return some (.file content.toList)
  catch
    | .permissionDenied .. => return some (.locked .permissionDenied)
    | _ => return none

def readFiles (names : List String) : IO FileStore := do
  let mut files : FileStore := {}
  for name in names do
    if let some entry ← readEntry? name then files := files.install (Path.ofText name) entry
  return files

/-- The installed solver: its reply is what standard input holds. -/
def connect (host : Host) (arguments : List String) : IO Host := do
  match Demo.executable? host arguments with
  | none => return host
  | some name =>
    let reply ← readAll (← IO.getStdin) ByteArray.empty
    return host.install name (.program (.completes { stdout := reply.toList }))

def seconds : IO Int :=
  return (← Std.Time.Timestamp.now).toSecondsSinceUnixEpoch.val

def logEvents (report : Demo.Report) : IO Unit := do
  let now ← seconds
  for event in report.events do
    if Log.info ≤ event.severity then
      let message := Log.labelled report.executable (event.message fun span => span.fixed 4)
      IO.eprintln (Log.record "solver" event.severity now message)

def finish : Demo.Ending → IO UInt32
  | .finished report => do
    logEvents report
    IO.print report.stdout
    IO.eprint report.stderr
    return report.code.toUInt32
  | .refused refusal => do
    IO.eprintln usage
    IO.eprintln refusal.message
    return 2
  | .helped => do
    IO.println usage
    return 0
  | .aborted failure => do
    IO.eprintln failure.message
    return 1
  | .endless => return 1

end SatClient.Main

def main (arguments : List String) : IO UInt32 := do
  let environment ← SatClient.Main.readEnvironment
  let files ← SatClient.Main.readFiles (SatClient.Demo.settingsFiles environment arguments)
  let host ← SatClient.Main.connect { files, environment } arguments
  SatClient.Main.finish (SatClient.Demo.runArguments host false arguments)
