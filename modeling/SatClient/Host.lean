import SatClient.Failure
import SatClient.FileStore
/-!
What surrounds the program: files, environment variables, the commands of the search path, and
streams that it writes to. A command with a slash in its name is a path, any other is looked for in
the search path.
-/

namespace SatClient

inductive StreamFault
  | closed
  | system (fault : OsFault)
  deriving DecidableEq, Repr

def StreamFault.failure : StreamFault → Failure
  | closed => .closedStream
  | system fault => .system fault

/-- A stream that takes whatever is written, or no more than a count of characters. -/
inductive Sink
  | takesAll
  | fails (room : Nat) (fault : StreamFault)
  deriving DecidableEq, Repr

def Sink.take : Sink → String → String × Option StreamFault
  | takesAll, text => (text, none)
  | fails room fault, text =>
    if text.length ≤ room then (text, none)
    else (String.ofList (text.toList.take room), some fault)

structure Host where
  files : FileStore := {}
  environment : Table String String := {}
  commands : Table String Entry := {}

namespace Host

def hasSlash (name : String) : Bool :=
  name.toList.contains '/'

def install (host : Host) (executable : String) (entry : Entry) : Host :=
  if hasSlash executable then
    { host with files := host.files.install (Path.ofText executable) entry }
  else { host with commands := host.commands.put executable entry }

/-- The search path is one directory, which has itself and the one above it as `.` and `..`. -/
def startByName (host : Host) (name : String) : Behaviour :=
  if name = "." || name = ".." then Entry.directory.started
  else if FileStore.isLongName name then .refuses .nameTooLong
  else ((host.commands.get? name).map Entry.started).getD (.refuses .notFound)

def startByPath (host : Host) (name : String) : Behaviour :=
  if FileStore.pathLimit < name.utf8ByteSize then .refuses .nameTooLong
  else
    match host.files.find (Path.verbatim name) with
    | .error fault => .refuses fault
    | .ok entry => entry.started

def start (host : Host) (executable : String) : Behaviour :=
  if hasSlash executable then host.startByPath executable else host.startByName executable

end Host

end SatClient
