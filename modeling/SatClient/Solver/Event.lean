import SatClient.Decimal.Written
import SatClient.Log.Level
import SatClient.Statistics
/-!
What a run reports while it goes on.
-/

namespace SatClient.Solver

open SatClient.Decimal (Seconds)

inductive Event
  | statistics (s : Statistics)
  | calculating (variableCount clauseCount : Nat)
  | exited (status : Int)
  | finished (elapsed : Seconds) (satisfiable : Bool)

namespace Event

def severity : Event → Nat
  | statistics _ => Log.debug
  | calculating .. => Log.info
  | exited _ => Log.warning
  | finished .. => Log.info

def message (span : Seconds → String) : Event → String
  | statistics s => "Problem stats: " ++ s.shown
  | calculating variableCount clauseCount =>
    "calculating " ++ toString variableCount ++ " variables and " ++ toString clauseCount ++
      " clauses"
  | exited status => "exited with code " ++ toString status
  | finished elapsed satisfiable =>
    "finished in " ++ span elapsed ++ "s: " ++ (if satisfiable then "SAT" else "UNSAT")

end Event

end SatClient.Solver
