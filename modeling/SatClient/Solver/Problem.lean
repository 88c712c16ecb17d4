import SatClient.Document
import SatClient.Registry
import SatClient.Statistics
/-!
The problem that a solver gets: clauses over the variables of one registry. It may be sent only if
every variable in it is allocated and none belongs to another registry; the first offender in
reading order is named.
-/

namespace SatClient.Solver

structure Problem where
  registry : RegistryId
  variableCount : Nat
  clauses : List Clause
  deriving DecidableEq

namespace Problem

def literalFailure? (p : Problem) (clause : Nat) (l : Literal) : Option Failure :=
  if l.registry.any (· ≠ p.registry) then some (.foreignVariable clause l.id)
  else if p.variableCount < l.id then some (.unallocatedVariable clause l.id p.variableCount)
  else none

def clausesFailure? (p : Problem) : Nat → List Clause → Option Failure
  | _, [] => none
  | index, clause :: rest =>
    match clause.literals.findSome? (p.literalFailure? index) with
    | some failure => some failure
    | none => p.clausesFailure? (index + 1) rest

def check (p : Problem) : Except Failure Unit :=
  match p.clausesFailure? 0 p.clauses with
  | some failure => .error failure
  | none => .ok ()

def lines (p : Problem) : List String :=
  Dimacs.lines p.variableCount p.clauses

def text (p : Problem) : String :=
  Dimacs.joinLines p.lines

def rendered (p : Problem) : Except Failure String :=
  Dimacs.rendered p.variableCount p.clauses

def document (p : Problem) : Except Failure Document :=
  match p.check with
  | .error failure => .error failure
  | .ok () => Document.ofClauses (.int p.variableCount) p.clauses

end Problem

end SatClient.Solver
