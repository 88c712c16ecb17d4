import SatClient.Dimacs
import SatClient.Field.Reading
/-!
Problems as plain integers, checked against their number of variables. Empty clauses are allowed;
of several bad literals the first one in reading order is named.
-/

namespace SatClient

open SatClient.Field

structure Document where
  variableCount : Nat
  clauses : List (List Int)
  deriving DecidableEq, Repr

namespace Document

/-- What is wrong with one literal of a clause; nothing is too large while the number of variables
is unknown. -/
def literalCause? (count? : Option Int) (clause : Nat) (literal : Int) : Option Cause :=
  if literal = 0 then some (.zeroLiteral clause)
  else
    match count? with
    | some count =>
      if count < literal.natAbs then some (.excessLiteral literal count clause) else none
    | none => none

def clausesCause? (count? : Option Int) : Nat → List (List Int) → Option Cause
  | _, [] => none
  | index, clause :: rest =>
    match clause.findSome? (literalCause? count? index) with
    | some cause => some cause
    | none => clausesCause? count? (index + 1) rest

def checkCount (input : Value) (count : Int) : Reading Nat :=
  if count < 0 then refuse [.field "num_vars"] input .negative else .ok count.toNat

def checkClauses (count? : Option Int) (input : Value) (clauses : List (List Int)) :
    Reading (List (List Int)) :=
  match clausesCause? count? 0 clauses with
  | some cause => refuse [.field "clauses"] input cause
  | none => .ok clauses

def known? : Reading Nat → Option Int
  | .ok count => some count
  | .error _ => none

def ofReadings (countInput clausesInput : Value) (count : Reading Int)
    (clauses : Reading (List (List Int))) : Reading Document :=
  let count := count.bind (checkCount countInput)
  let clauses := clauses.bind (checkClauses (known? count) clausesInput)
  (both count clauses).map fun (count, clauses) => ⟨count, clauses⟩

def inputOf (fields : Fields) (name : String) : Value :=
  (fields.lookup name).getD .null

def ofFields (fields : Fields) : Except Failure Document :=
  (ofReadings (inputOf fields "num_vars") (inputOf fields "clauses")
    (required readInteger fields "num_vars")
    (required (readList (readList readInteger)) fields "clauses")).mapError
    (.rejectedFields Failure.documentRecord)

/-- Literals are integers already; only their count may need reading. -/
def ofClauses (count : Value) (clauses : List Clause) : Except Failure Document :=
  (ofReadings count (.list (clauses.map fun c => .list (c.signed.map .int)))
    (readInteger [.field "num_vars"] count) (.ok (clauses.map Clause.signed))).mapError
    (.rejectedFields Failure.documentRecord)

def renderClause (clause : List Int) : String :=
  String.intercalate " " ((clause ++ [0]).map toString)

def text (d : Document) : String :=
  Dimacs.joinLines
    (Dimacs.header d.variableCount d.clauses.length :: d.clauses.map renderClause)

structure Formula where
  greatest : Nat
  clauses : List (List Int)
  deriving DecidableEq, Repr

def formula (d : Document) : Formula where
  greatest := d.variableCount
  clauses := d.clauses

end Document

end SatClient
