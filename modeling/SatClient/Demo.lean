import SatClient.Workspace
/-!
The demonstration problem: one variable stands for the disjunction of the others, exactly one of
which holds, and the first variable is false. It has no solution, whatever its size.
-/

namespace SatClient.Demo

def size : Nat := 5

def clauses (left : Literal) (choices : List Literal) : List Clause :=
  Encoding.equivalence left choices ++ Encoding.exactlyOne choices ++ [⟨[left.negate]⟩]

structure Built where
  workspace : Workspace
  left : Literal
  choices : List Literal

def build (w : Workspace) (id : SolverId) (size : Nat) : Built :=
  let (r, left) := (w.registry (w.solver id).registry).create
  let (r, choices) := Registry.createMany size r
  let (w, ids) := (w.setRegistry r).addClauses (clauses left choices)
  ⟨w.give id ids, left, choices⟩

def shownValue (w : Workspace) (l : Literal) : String :=
  match w.literalResult l with
  | .ok value => Solver.Result.boolText value
  | .error _ => "n/a"

def variableLines (w : Workspace) : Nat → List Literal → List String
  | _, [] => []
  | index, l :: ls =>
    ("var #" ++ toString index ++ ": " ++ shownValue w l) :: variableLines w (index + 1) ls

def reportLines (built : Built) (w : Workspace) (result : Solver.Result) : List String :=
  ("satisfiable: " ++ Solver.Result.boolText result.satisfiable) ::
    ("left  : " ++ shownValue w built.left) :: variableLines w 0 built.choices

end SatClient.Demo
