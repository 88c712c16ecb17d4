import SatClient.Clause
/-!
DIMACS text of a problem: a header with the numbers of variables and clauses, then each clause on a
line of its own.
-/

namespace SatClient.Dimacs

def header (variableCount clauseCount : Int) : String :=
  "p cnf " ++ toString variableCount ++ " " ++ toString clauseCount

def lines (variableCount : Int) (clauses : List Clause) : List String :=
  header variableCount clauses.length :: clauses.map Clause.render

def joinLines (lines : List String) : String :=
  String.join (lines.map (· ++ "\n"))

def text (variableCount : Int) (clauses : List Clause) : String :=
  joinLines (lines variableCount clauses)

def numbers (variableCount : Int) (clauses : List Clause) : List Int :=
  variableCount :: clauses.flatMap Clause.signed

/-- The text, unless one of its numbers has too many digits to be written. -/
def rendered (variableCount : Int) (clauses : List Clause) : Except Failure String :=
  if (numbers variableCount clauses).all Failure.isWritable then .ok (text variableCount clauses)
  else .error .unwritableNumber

end SatClient.Dimacs
