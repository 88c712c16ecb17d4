import SatClient.Log.Level
import SatClient.Log.Timestamp
import SatClient.Path
import SatClient.Table
/-!
Loggers. Setting a logger up gives it a level and one handler and ends its propagation; a level
that is refused leaves a new logger bare and an old one as it was. The root of all loggers is there
from the start, under two names.
-/

namespace SatClient.Log

structure Logger where
  level : Nat := unset
  handlers : Nat := 0
  propagates : Bool := true
  deriving DecidableEq, Repr

inductive LoggerId
  | root
  | named (name : String)
  deriving DecidableEq, Repr

namespace LoggerId

def ofName (name : String) : LoggerId :=
  if name = "" || name = "root" then .root else .named name

def text : LoggerId → String
  | root => "root"
  | named name => name

end LoggerId

structure Loggers where
  root : Logger := { level := warning }
  others : Table String Logger := {}

namespace Loggers

/-- The level name that counts: the caller's unless empty, else that of the environment. -/
def chosenName (requested environment : Option String) : String :=
  match requested with
  | some name => if name = "" then environment.getD "INFO" else name
  | none => environment.getD "INFO"

def get? (loggers : Loggers) : LoggerId → Option Logger
  | .root => some loggers.root
  | .named name => loggers.others.get? name

def put (loggers : Loggers) (logger : Logger) : LoggerId → Loggers
  | .root => { loggers with root := logger }
  | .named name => { loggers with others := loggers.others.put name logger }

def find (loggers : Loggers) (id : LoggerId) : Logger :=
  (loggers.get? id).getD {}

def logger (loggers : Loggers) (name : String) : Logger :=
  loggers.find (.ofName name)

def setUp (loggers : Loggers) (name : String) (requested environment : Option String) :
    Loggers × Except Failure Logger :=
  let current := loggers.logger name
  match level (chosenName requested environment) with
  | .error failure => (loggers.put current (.ofName name), .error failure)
  | .ok level =>
    let ready : Logger := ⟨level, max 1 current.handlers, false⟩
    (loggers.put ready (.ofName name), .ok ready)

def shorter (cs : List Char) : List Char :=
  ((cs.reverse.dropWhile (· ≠ '.')).drop 1).reverse

/-- The names of possible parents, the nearest first. The search goes on one character before the
dot that it found, so of two dots in a row only the second one counts. -/
def parentNames : Nat → List Char → List (List Char)
  | 0, _ => []
  | fuel + 1, cs =>
    match shorter cs with
    | [] => []
    | parent => parent :: parentNames fuel parent.dropLast

def parent? (loggers : Loggers) (cs : List Char) : Option (List Char) :=
  (parentNames cs.length cs).find? fun parent => loggers.others.contains (String.ofList parent)

def levels (loggers : Loggers) : Nat → List Char → List Nat
  | 0, _ => []
  | fuel + 1, cs =>
    (loggers.find (.named (String.ofList cs))).level ::
      match loggers.parent? cs with
      | some parent => levels loggers fuel parent
      | none => []

def levelsOf (loggers : Loggers) : LoggerId → List Nat
  | .root => [loggers.root.level]
  | .named name => loggers.levels (name.length + 1) name.toList ++ [loggers.root.level]

def effectiveLevel (loggers : Loggers) (name : String) : Nat :=
  ((loggers.levelsOf (.ofName name)).find? (· ≠ unset)).getD unset

def isEnabled (loggers : Loggers) (name : String) (severity : Int) : Bool :=
  0 < severity && loggers.effectiveLevel name ≤ severity

end Loggers

def record (name : String) (severity created : Int) (message : String) : String :=
  timestamp created ++ " - " ++ levelName severity ++ " - " ++ (LoggerId.ofName name).text ++
    " - " ++ message

def label (executable : String) : String :=
  let base := Path.baseName executable
  if base = "" then executable else base

def labelled (executable message : String) : String :=
  "[" ++ label executable ++ "] " ++ message

end SatClient.Log
