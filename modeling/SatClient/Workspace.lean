import SatClient.Encoding
import SatClient.FileStore.Atomic
import SatClient.Settings.Source
import SatClient.Solver.Attempt
/-!
Registries, clauses, solvers and results under handles. Clauses are shared: a solver holds handles,
so that a clause extended later changes every problem that it is part of.
-/

namespace SatClient

structure ClauseId where
  index : Nat
  deriving DecidableEq, Repr

structure SolverId where
  index : Nat
  deriving DecidableEq, Repr

structure ResultId where
  index : Nat
  deriving DecidableEq, Repr

structure Solver where
  settings : Settings := {}
  registry : RegistryId
  clauses : List ClauseId := []
  deriving DecidableEq, Repr

structure Workspace where
  registries : List Registry := []
  clauses : List Clause := []
  solvers : List Solver := []
  results : List Solver.Result := []
  host : Host := {}

namespace Workspace

def registry (w : Workspace) (id : RegistryId) : Registry :=
  (w.registries[id.index]?).getD { id }

def clause (w : Workspace) (id : ClauseId) : Clause :=
  (w.clauses[id.index]?).getD {}

def solver (w : Workspace) (id : SolverId) : Solver :=
  (w.solvers[id.index]?).getD { registry := ⟨0⟩ }

def result (w : Workspace) (id : ResultId) : Solver.Result :=
  (w.results[id.index]?).getD ⟨false, ⟨0⟩, [], .zero, none⟩

def setRegistry (w : Workspace) (r : Registry) : Workspace :=
  { w with registries := w.registries.set r.id.index r }

def newRegistry (w : Workspace) : Workspace × RegistryId :=
  let id : RegistryId := ⟨w.registries.length⟩
  ({ w with registries := w.registries ++ [{ id }] }, id)

def createVariable (w : Workspace) (id : RegistryId) : Workspace × Literal :=
  let (r, l) := (w.registry id).create
  (w.setRegistry r, l)

def createBlock (w : Workspace) (id : RegistryId) (size : Int) :
    Except Failure (Workspace × List Literal) :=
  match (w.registry id).createBlock size with
  | .error failure => .error failure
  | .ok (r, ls) => .ok (w.setRegistry r, ls)

def recordResult (w : Workspace) (id : RegistryId) (variableId : Int) (value : Bool) :
    Except Failure Workspace :=
  match (w.registry id).record variableId value with
  | .error failure => .error failure
  | .ok r => .ok (w.setRegistry r)

def clearResults (w : Workspace) (id : RegistryId) : Workspace :=
  w.setRegistry (w.registry id).clearResults

def resetRegistry (w : Workspace) (id : RegistryId) : Workspace :=
  w.setRegistry (w.registry id).reset

def literalResult (w : Workspace) (l : Literal) : Except Failure Bool :=
  match l.registry with
  | none => .error (.unattached l.id)
  | some id => (w.registry id).result l

def addClauses (w : Workspace) (clauses : List Clause) : Workspace × List ClauseId :=
  ({ w with clauses := w.clauses ++ clauses },
    (List.range clauses.length).map fun i => ⟨w.clauses.length + i⟩)

def addClause (w : Workspace) (clause : Clause) : Workspace × ClauseId :=
  ({ w with clauses := w.clauses ++ [clause] }, ⟨w.clauses.length⟩)

def extendClause (w : Workspace) (id : ClauseId) (ls : List Literal) : Workspace :=
  { w with clauses := w.clauses.modify id.index fun c => c.extend ls }

/-- Makes the clauses of an equivalence with the disjunction of a shared list of literals. The list
is read once for the first clause, and again for the others after that clause is extended. -/
def makeEquivalence (w : Workspace) (left : Literal) (source : ClauseId) :
    Workspace × List ClauseId :=
  let (w, first) := w.addClause ⟨(w.clause source).literals⟩
  let w := w.extendClause first [left.negate]
  let (w, others) := w.addClauses ((w.clause source).literals.map fun l => ⟨[l.negate, left]⟩)
  (w, first :: others)

def newSolver (w : Workspace) (settings : Settings) (registry : RegistryId) :
    Workspace × SolverId :=
  ({ w with solvers := w.solvers ++ [{ settings, registry }] }, ⟨w.solvers.length⟩)

def configure (w : Workspace) (id : SolverId) (settings : Settings) : Workspace :=
  { w with solvers := w.solvers.modify id.index fun s => { s with settings } }

def give (w : Workspace) (id : SolverId) (clauses : List ClauseId) : Workspace :=
  { w with
    solvers := w.solvers.modify id.index fun s => { s with clauses := s.clauses ++ clauses } }

/-- The problem of a solver as it stands now. -/
def problem (w : Workspace) (id : SolverId) : Solver.Problem where
  registry := (w.solver id).registry
  variableCount := (w.registry (w.solver id).registry).count
  clauses := (w.solver id).clauses.map w.clause

def addResult (w : Workspace) (result : Solver.Result) : Workspace × ResultId :=
  ({ w with results := w.results ++ [result] }, ⟨w.results.length⟩)

/-- Runs a solver. The registry is left as the attempt says, whatever its outcome. -/
def solve (w : Workspace) (id : SolverId) (detailed : Bool) (limit : Option Decimal.Seconds)
    (behaviour : Behaviour) (sink : Sink := .takesAll) : Workspace × Solver.Attempt :=
  let s := w.solver id
  let attempt :=
    Solver.solve (w.problem id) s.settings (w.registry s.registry) detailed limit behaviour sink
  (w.setRegistry attempt.trace.registry, attempt)

def addAssignment (w : Workspace) (id : ResultId) (line : Option (List Char)) :
    Except Failure Workspace :=
  let result := w.result id
  match result.addAssignment (w.registry result.registry) line with
  | .error failure => .error failure
  | .ok r => .ok (w.setRegistry r)

def addStatistic (w : Workspace) (id : ResultId) (line : String) : Workspace :=
  { w with results := w.results.modify id.index fun r => r.addStatistic line }

def writeDimacs (w : Workspace) (path : Path) (variableCount : Int) (clauses : List Clause) :
    Workspace × Except Failure Unit :=
  let (files, outcome) :=
    w.host.files.write FileStore.calm path (Dimacs.rendered variableCount clauses)
  ({ w with host := { w.host with files } }, outcome)

/-- Writes the problem of a solver to a file, also one that would fail its check. -/
def writeProblem (w : Workspace) (id : SolverId) (path : Path) :
    Workspace × Except Failure Unit :=
  w.writeDimacs path (w.problem id).variableCount (w.problem id).clauses

end Workspace

end SatClient
