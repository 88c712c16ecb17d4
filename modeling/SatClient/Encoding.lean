import SatClient.Clause
/-!
Clauses for constraints over literals. The pairs of an exclusion come in lexicographic order of
their positions, and the clause that asks for one true literal comes last.
-/

namespace SatClient.Encoding

/-- `left` holds exactly when one of `right` does: first `left` implies their disjunction, then
each of them implies `left`. -/
def equivalence (left : Literal) (right : List Literal) : List Clause :=
  ⟨right ++ [left.negate]⟩ :: right.map fun l => ⟨[l.negate, left]⟩

def atMostOne : List Literal → List Clause
  | [] => []
  | l :: ls => ls.map (fun m => ⟨[l.negate, m.negate]⟩) ++ atMostOne ls

def atLeastOne (ls : List Literal) : Clause :=
  ⟨ls⟩

def exactlyOne (ls : List Literal) : List Clause :=
  atMostOne ls ++ [atLeastOne ls]

theorem length_equivalence (left : Literal) (right : List Literal) :
    (equivalence left right).length = right.length + 1 := by
  simp [equivalence]

theorem length_exactlyOne (ls : List Literal) :
    (exactlyOne ls).length = (atMostOne ls).length + 1 := by
  simp [exactlyOne]

end SatClient.Encoding
