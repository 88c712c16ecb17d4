import SatClient.Host
import SatClient.Settings
import SatClient.Text.Newline
/-!
Where settings come from. The first source that applies decides alone: a file named by the caller,
an executable named by the environment, a file named by the environment, the file in the working
directory, the defaults.
-/

namespace SatClient.Settings

def defaultFile : Path := { parts := ["solver.cfg"] }

def executableVariable : String := "SATBRIDGE_SOLVER"

def fileVariable : String := "SATBRIDGE_CONFIG_PATH"

def ofContent (path : Path) (content : List UInt8) : Except Failure Settings :=
  match Text.Utf8.decodeStrict content with
  | .error fault => .error (.settingsFileUnreadable path.text fault)
  | .ok text => ofProperties (Properties.parse (Text.normalizeNewlines text))

def ofFile (files : FileStore) (path : Path) : Except Failure Settings :=
  match files.content? path with
  | .error fault => .error (.system fault)
  | .ok (some content) => ofContent path content
  | .ok none =>
    match files.lock? path with
    | some fault => .error (.settingsFileLocked path.text fault)
    | none => .error (.settingsFileMissing path.text)

def ofHost (host : Host) : Except Failure Settings :=
  match host.environment.get? executableVariable with
  | some executable => ofProperties (Table.ofList [("solver.executable", executable)])
  | none =>
    let named := (host.environment.get? fileVariable).getD ""
    if named ≠ "" then ofFile host.files (Path.ofText named)
    else if host.files.isFile defaultFile then ofFile host.files defaultFile
    else .ok {}

end SatClient.Settings
