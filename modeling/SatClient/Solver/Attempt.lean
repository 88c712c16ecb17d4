import SatClient.Host
import SatClient.Settings
import SatClient.Solver.Event
import SatClient.Solver.Problem
import SatClient.Solver.Result
import SatClient.Text.Newline
/-!
One attempt to solve a problem. A problem that fails its check leaves everything as it was, and so
does one that cannot be echoed; any later failure leaves the registry without results, so that none
of an earlier run survives.
-/

namespace SatClient.Solver

open SatClient.Decimal (Seconds)

structure Exchange where
  arguments : List String
  received : String
  deriving DecidableEq, Repr

structure Trace where
  registry : Registry
  echo : String := ""
  events : List Event := []
  exchange : Option Exchange := none

/-- How an attempt ends, if it ever does. -/
inductive Fate (ε α : Type)
  | ok (value : α)
  | error (failure : ε)
  | endless
  deriving DecidableEq

structure Attempt where
  trace : Trace
  outcome : Fate Failure Result

def expectedStatuses : List Int := [0, 10, 20]

def decode (bytes : List UInt8) : List Char :=
  Text.normalizeNewlines (Text.Utf8.decodeLenient bytes)

def diagnosticLines (c : Completion) : List String :=
  (Text.lines (decode c.stderr)).map String.ofList

/-- The last three diagnostic lines, which accompany a missing verdict. -/
def lastDiagnostics (c : Completion) : List String :=
  (diagnosticLines c).drop ((diagnosticLines c).length - 3)

def firstLine (stdout : List Char) : Option (List Char) :=
  (Text.readLine stdout).map Prod.fst

def secondLine (stdout : List Char) : Option (List Char) :=
  (Text.readLine stdout).bind fun (_, rest) => firstLine rest

def readReply (registry : Registry) (c : Completion) : Except Failure (Bool × Registry) :=
  let stdout := decode c.stdout
  match Reply.verdict (lastDiagnostics c) (firstLine stdout) with
  | .error failure => .error failure
  | .ok false => .ok (false, registry)
  | .ok true =>
    match Result.recordReply registry (secondLine stdout) with
    | .error failure => .error failure
    | .ok registry => .ok (true, registry)

def exitEvents (c : Completion) : List Event :=
  if expectedStatuses.contains c.status then [] else [.exited c.status]

def conclude (trace : Trace) (exchange : Exchange) (c : Completion) : Attempt :=
  let ended := { trace with events := trace.events ++ exitEvents c, exchange := some exchange }
  match readReply trace.registry c with
  | .error failure => ⟨ended, .error failure⟩
  | .ok (satisfiable, registry) =>
    ⟨{ ended with registry, events := ended.events ++ [.finished c.elapsed satisfiable] },
      .ok ⟨satisfiable, registry.id, diagnosticLines c, c.elapsed, some c.status⟩⟩

def detailEvents (p : Problem) (detailed : Bool) : Except Failure (List Event) :=
  if detailed then
    match p.document with
    | .error failure => .error failure
    | .ok document => .ok [.statistics (.ofDocument document)]
  else .ok []

def Problem.echo (p : Problem) (settings : Settings) (sink : Sink) : String × Option StreamFault :=
  if settings.verbose then sink.take p.text else ("", none)

def waitOut (settings : Settings) : Option Seconds → Fate Failure Result
  | some limit => .error (.timedOut settings.executable limit)
  | none => .endless

/-- What follows once the command is to be started. A limit is looked at when the first wait is to
be bounded by it. -/
def communicate (p : Problem) (settings : Settings) (limit : Option Seconds) (trace : Trace)
    (behaviour : Behaviour) : Attempt :=
  let started :=
    { trace with events := trace.events ++ [.calculating p.variableCount p.clauses.length] }
  match behaviour, Limit.admits limit with
  | .refuses fault, _ => ⟨trace, .error (.cannotStart settings.executable fault)⟩
  | .breaks fault false, _ => ⟨started, .error (.brokenExchange settings.executable fault)⟩
  | _, .error fault => ⟨started, .error (.unusableLimit fault)⟩
  | _, .ok false => ⟨started, waitOut settings limit⟩
  | .hangs, .ok true => ⟨started, waitOut settings limit⟩
  | .breaks fault true, .ok true =>
    ⟨started, .error (.brokenExchange settings.executable fault)⟩
  | .completes completion, .ok true =>
    conclude started ⟨settings.arguments, p.text⟩ completion

def proceed (p : Problem) (settings : Settings) (registry : Registry) (detailed : Bool)
    (limit : Option Seconds) (behaviour : Behaviour) (echo : String) : Attempt :=
  match detailEvents p detailed with
  | .error failure => ⟨{ registry, echo }, .error failure⟩
  | .ok events =>
    let trace : Trace := { registry := registry.clearResults, echo, events }
    if settings.command.any Text.Utf8.hasNull then ⟨trace, .error .embeddedNull⟩
    else communicate p settings (limit.or (settings.timeout.map .fraction)) trace behaviour

/-- Runs the solver on a problem. A limit given here goes before that of the settings. -/
def solve (p : Problem) (settings : Settings) (registry : Registry) (detailed : Bool)
    (limit : Option Seconds) (behaviour : Behaviour) (sink : Sink := .takesAll) : Attempt :=
  match p.check with
  | .error failure => ⟨{ registry }, .error failure⟩
  | .ok () =>
    match p.echo settings sink with
    | (echo, some fault) => ⟨{ registry, echo }, .error fault.failure⟩
    | (echo, none) => proceed p settings registry detailed limit behaviour echo

end SatClient.Solver
