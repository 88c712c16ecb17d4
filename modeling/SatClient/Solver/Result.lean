import SatClient.Decimal.Written
import SatClient.Registry
import SatClient.Reply
/-!
The outcome of a run: the verdict and the diagnostic lines. Recording an assignment is all or
nothing, since every id is looked up before the first value is kept.
-/

namespace SatClient.Solver

open SatClient.Decimal (Seconds)

structure Result where
  satisfiable : Bool
  registry : RegistryId
  statistics : List String := []
  duration : Seconds := .zero
  status : Option Int := none
  deriving DecidableEq, Repr

namespace Result

def addStatistic (r : Result) (line : String) : Result :=
  { r with statistics := r.statistics ++ [line] }

def firstUnknown? (registry : Registry) (pairs : List (Nat × Bool)) : Option Nat :=
  (pairs.find? fun pair => (registry.find? pair.1).isNone).map Prod.fst

/-- Records the values of a reply, the last one for an id. -/
def recordReply (registry : Registry) (line : Option (List Char)) : Except Failure Registry :=
  match Reply.assignment line with
  | .error failure => .error failure
  | .ok pairs =>
    match firstUnknown? registry pairs with
    | some id => .error (.neverAllocated id)
    | none => registry.recordAll pairs

def addAssignment (r : Result) (registry : Registry) (line : Option (List Char)) :
    Except Failure Registry :=
  if r.satisfiable then recordReply registry line else .error .unexpectedAssignment

def text (r : Result) : String :=
  String.join (r.statistics.map (· ++ "\n"))

def boolText (b : Bool) : String :=
  if b then "True" else "False"

def shown (r : Result) : String :=
  "SolverResult(satisfiable=" ++ boolText r.satisfiable ++ ", statistics=" ++
    toString r.statistics.length ++ " lines)"

end Result

end SatClient.Solver
