import SatClient.Literal
/-!
Clauses, and their truth under a partial assignment. Literals are evaluated from left to right up
to the first true one; a variable without a value that comes before it leaves the clause undecided.
-/

namespace SatClient

structure Clause where
  literals : List Literal := []
  deriving DecidableEq

namespace Clause

def append (c : Clause) (l : Literal) : Clause :=
  ⟨c.literals ++ [l]⟩

def extend (c : Clause) (ls : List Literal) : Clause :=
  ⟨c.literals ++ ls⟩

def length (c : Clause) : Nat :=
  c.literals.length

def signed (c : Clause) : List Int :=
  c.literals.map Literal.signed

def render (c : Clause) : String :=
  String.intercalate " " (c.literals.map Literal.text ++ ["0"])

def shown (c : Clause) : String :=
  "Clause(" ++ Text.quoted c.render ++ ")"

def evaluateFrom (assignment : Nat → Option Bool) : List Literal → Except Nat Bool
  | [] => .ok false
  | l :: ls =>
    match l.value? assignment with
    | none => .error l.id
    | some true => .ok true
    | some false => evaluateFrom assignment ls

def evaluate (c : Clause) (assignment : Nat → Option Bool) : Except Nat Bool :=
  evaluateFrom assignment c.literals

end Clause

end SatClient
