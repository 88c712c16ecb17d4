import SatClient.CommandLine
import SatClient.Demo
/-!
The command `demo`: settings from the host with the options over them, then the problem itself or
the report on one attempt to solve it.
-/

namespace SatClient.Demo

open SatClient.CommandLine (DemoOptions Refusal Request)

def baseSettings (host : Host) (o : DemoOptions) : Except Failure Settings :=
  match o.config with
  | some name =>
    if name = "" then Settings.ofHost host else Settings.ofFile host.files (Path.ofText name)
  | none => Settings.ofHost host

/-- The fields that options override; an empty executable overrides nothing. -/
def overrides (o : DemoOptions) : Field.Fields :=
  (match o.executable with
    | some name => if name = "" then [] else [("executable", .text name)]
    | none => []) ++
  (if o.verbose then [("verbose", .bool true)] else []) ++
  (match o.timeout with
    | .absent => []
    | .empty => [("timeout", .list [])]
    | .seconds x => [("timeout", .number x)])

def settings (host : Host) (o : DemoOptions) : Except Failure Settings :=
  match baseSettings host o with
  | .error failure => .error failure
  | .ok base =>
    if (overrides o).isEmpty then .ok base
    else (Settings.read (overrides o ++ base.toFields)).mapError .rejectedSettings

structure Report where
  code : Nat := 0
  stdout : String := ""
  stderr : String := ""
  executable : String := ""
  events : List Solver.Event := []
  exchange : Option Solver.Exchange := none

inductive Ending
  | finished (report : Report)
  | refused (refusal : Refusal)
  | helped
  | aborted (failure : Failure)
  /-- The solver neither ends nor has a limit. -/
  | endless

/-- A failure of a reported kind ends the command with code 1, any other one aborts it. -/
def failed (report : Report) (failure : Failure) : Ending :=
  let raised := failure.raised
  if raised.kind.isReported then
    .finished { report with code := 1, stderr := "Error: " ++ raised.message ++ "\n" }
  else .aborted raised

def report (o : DemoOptions) (built : Built) (w : Workspace) (attempt : Solver.Attempt)
    (executable : String) : Ending :=
  let trace := attempt.trace
  let base : Report :=
    { stdout := trace.echo, executable, events := trace.events, exchange := trace.exchange }
  match attempt.outcome with
  | .endless => .endless
  | .error failure => failed base failure
  | .ok result =>
    .finished
      { base with
        stdout := trace.echo ++ Dimacs.joinLines (reportLines built w result) ++
          (if o.stats then result.text else "") }

def runWith (host : Host) (detailed : Bool) (o : DemoOptions) (s : Settings) : Ending :=
  let (w, registry) := Workspace.newRegistry { host }
  let (w, id) := w.newSolver s registry
  let built := build w id size
  if o.dimacsOnly then .finished { stdout := (built.workspace.problem id).text }
  else
    let (w, attempt) := built.workspace.solve id detailed none (host.start s.executable)
    report o built w attempt s.executable

def run (host : Host) (detailed : Bool) (o : DemoOptions) : Ending :=
  match settings host o with
  | .error failure => failed {} failure
  | .ok s => runWith host detailed o s

def runArguments (host : Host) (detailed : Bool) (arguments : List String) : Ending :=
  match CommandLine.parse arguments with
  | .error refusal => .refused refusal
  | .ok .help => .helped
  | .ok (.demo o) => run host detailed o

def executable? (host : Host) (arguments : List String) : Option String :=
  match CommandLine.parse arguments with
  | .ok (.demo o) =>
    if o.dimacsOnly then none
    else
      match settings host o with
      | .ok s => some s.executable
      | .error _ => none
  | _ => none

def settingsFiles (environment : Table String String) (arguments : List String) : List String :=
  let named :=
    match CommandLine.parse arguments with
    | .ok (.demo o) => o.config.toList
    | _ => []
  (named ++ (environment.get? Settings.fileVariable).toList ++ [Settings.defaultFile.text]).filter
    (· ≠ "")

end SatClient.Demo
