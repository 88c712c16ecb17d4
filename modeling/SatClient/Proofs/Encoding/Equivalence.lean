import SatClient.Proofs.Encoding
import SatClient.Proofs.Workspace.Run
/-!
Equivalences with the disjunction of any literals: which clauses they have and in which order, and
what these say when all variables in them have a value. The literals may also be those of a shared
list in a workspace. The first clause is then a copy of it that is extended, so that the list stays
as it was and the clauses are the same.
-/

namespace SatClient

namespace Workspace

theorem extendClause_addClause (w : Workspace) (c : Clause) (ls : List Literal) :
    (w.addClause c).1.extendClause (w.addClause c).2 ls = (w.addClause (c.extend ls)).1 := by
  have extended : (w.clauses ++ [c]).modify w.clauses.length (fun d => d.extend ls) =
      w.clauses ++ [c.extend ls] := by
    induction w.clauses with
    | nil => rfl
    | cons d ds ih => exact congrArg (d :: ·) ih
  rw [addClause, extendClause, addClause, extended]

theorem addClauses_cons (w : Workspace) (c : Clause) (cs : List Clause) :
    w.addClauses (c :: cs) =
      (((w.addClause c).1.addClauses cs).1,
        (w.addClause c).2 :: ((w.addClause c).1.addClauses cs).2) := by
  have clauses : w.clauses ++ c :: cs = w.clauses ++ [c] ++ cs := by
    rw [List.append_assoc, List.singleton_append]
  have places : (List.range (cs.length + 1)).map (fun i => (⟨w.clauses.length + i⟩ : ClauseId)) =
      ⟨w.clauses.length⟩ ::
        (List.range cs.length).map fun i => ⟨(w.clauses ++ [c]).length + i⟩ := by
    rw [List.range_succ_eq_map, List.map_cons, List.map_map, List.length_append]
    refine congrArg _ (List.map_congr_left fun i _ => ?_)
    exact congrArg ClauseId.mk (Nat.add_right_comm _ i 1)
  rw [addClauses, clauses, List.length_cons, places]
  rfl

/-- A list that exists is not the copy that is extended. -/
theorem makeEquivalence_eq {w : Workspace} {source : ClauseId}
    (present : source.index < w.clauses.length) (left : Literal) :
    w.makeEquivalence left source =
      w.addClauses (Encoding.equivalence left (w.clause source).literals) := by
  have kept (c : Clause) : (w.addClause c).1.clause source = w.clause source :=
    clause_addClauses_of_lt w [c] present
  rw [makeEquivalence, Encoding.equivalence, addClauses_cons]
  simp only [extendClause_addClause, kept]
  rfl

end Workspace

namespace Encoding

open Literal (valuesOf)

structure Sequence (left : Literal) (right : List Literal) : Prop where
  length : (equivalence left right).length = right.length + 1
  first : ∃ c, (equivalence left right)[0]? = some c ∧ c.literals = right ++ [left.negate] ∧
    c.signed = right.map Literal.signed ++ [-left.signed]
  later : ∀ i, ∀ (inside : i < right.length), ∃ c, (equivalence left right)[i + 1]? = some c ∧
    c.literals = [right[i].negate, left] ∧ c.signed = [-right[i].signed, left.signed]

theorem sequence (left : Literal) (right : List Literal) : Sequence left right := by
  constructor
  case length => exact length_equivalence left right
  case first =>
    refine ⟨⟨right ++ [left.negate]⟩, rfl, rfl, ?_⟩
    rw [Clause.signed, List.map_append, List.map_singleton, Literal.signed_negate]
  case later =>
    intro i inside
    refine ⟨⟨[right[i].negate, left]⟩, ?_, rfl, ?_⟩
    · rw [equivalence, List.getElem?_cons_succ, List.getElem?_map, List.getElem?_eq_getElem inside]
      rfl
    · simp only [Clause.signed, List.map_cons, List.map_nil, Literal.signed_negate]

/-- What the clauses of an equivalence say: each of them is decided, and together they make the
literal on the left as true as the disjunction of the others. -/
structure Equates (assignment : Nat → Option Bool) (left : Literal) (right : List Literal) :
    Prop where
  decided : ∀ c ∈ equivalence left right, ∃ b, c.evaluate assignment = .ok b
  satisfied : (∀ c ∈ equivalence left right, c.evaluate assignment = .ok true) ↔
    (left.IsTrue assignment ↔ ∃ l ∈ right, l.IsTrue assignment)
  nothing : right = [] → ((∀ c ∈ equivalence left right, c.evaluate assignment = .ok true) ↔
    ¬ left.IsTrue assignment)

section

variable {assignment : Nat → Option Bool} {left : Literal} {right : List Literal}
  (defined : ∀ l ∈ left :: right, (assignment l.id).isSome = true)

include defined

theorem evaluate_equivalence :
    (∀ c ∈ equivalence left right, c.evaluate assignment = .ok true) ↔
      (left.IsTrue assignment ↔ ∃ l ∈ right, l.IsTrue assignment) := by
  have target := Literal.isTrue_iff (defined left List.mem_cons_self)
  have sources : (∃ l ∈ right, l.IsTrue assignment) ↔
      ∃ l ∈ right, l.truth (valuesOf assignment) = true := by
    refine exists_congr fun l => and_congr_right fun member => ?_
    exact Literal.isTrue_iff (defined l (List.mem_cons_of_mem left member))
  rw [Clause.allTrue_of_over defined (over_operands left right), allTrue_equivalence, target,
    sources]

/-- An equivalence with any literals: its clauses, what they say of every assignment of their
variables, and how they come out of a shared list, which keeps its literals as all others do. -/
theorem equates_of_defined :
    Equates assignment left right ∧ Sequence left right ∧
      ∀ (w : Workspace) (source : ClauseId), source.index < w.clauses.length →
        (w.clause source).literals = right →
        (w.makeEquivalence left source).2.map (w.makeEquivalence left source).1.clause =
            equivalence left right ∧
          w.makeEquivalence left source = w.addClauses (equivalence left right) ∧
          ∀ id : ClauseId, id.index < w.clauses.length →
            (w.makeEquivalence left source).1.clause id = w.clause id := by
  have satisfied := evaluate_equivalence defined
  refine ⟨?_, sequence left right, ?_⟩
  · constructor
    case decided =>
      intro c member
      exact Clause.decided_of_over defined (over_operands left right c member)
    case satisfied => exact satisfied
    case nothing =>
      rintro rfl
      rw [satisfied]
      simp
  · rintro w source present rfl
    rw [Workspace.makeEquivalence_eq present]
    exact ⟨Workspace.clause_addClauses w _, rfl, fun id known =>
      Workspace.clause_addClauses_of_lt w _ known⟩

end

def knot : Literal × List Literal :=
  (⟨1, false, none, Nat.one_pos⟩,
    [⟨1, true, none, Nat.one_pos⟩, ⟨2, false, none, Nat.two_pos⟩, ⟨2, false, none, Nat.two_pos⟩])

def knotted : Workspace :=
  (Workspace.addClauses {} [⟨knot.2⟩]).1

/-- The negation on the right leaves only assignments with both variables true. The list keeps its
three literals, and the clause made of it has four. -/
theorem equates_knot :
    (∀ l ∈ knot.1 :: knot.2, (some true).isSome = true) ∧
      (∀ c ∈ equivalence knot.1 knot.2, c.evaluate (fun _ => some true) = .ok true) ∧
      ¬ (∀ c ∈ equivalence knot.1 knot.2, c.evaluate (fun id => some (id == 2)) = .ok true) ∧
      (knotted.makeEquivalence knot.1 ⟨0⟩).1.clause ⟨0⟩ = ⟨knot.2⟩ ∧
      (knotted.makeEquivalence knot.1 ⟨0⟩).1.clause ⟨1⟩ = ⟨knot.2 ++ [knot.1.negate]⟩ := by
  have both : Equates (fun _ => some true) knot.1 knot.2 ∧ _ := equates_of_defined fun _ _ => rfl
  have second : Equates (fun id => some (id == 2)) knot.1 knot.2 ∧ _ :=
    equates_of_defined fun _ _ => rfl
  obtain ⟨_, made, kept⟩ := both.2.2 knotted ⟨0⟩ (by decide) rfl
  refine ⟨fun _ _ => rfl, both.1.satisfied.mpr (by decide), ?_, kept ⟨0⟩ (by decide), ?_⟩
  · rw [second.1.satisfied]
    decide
  · rw [made]
    rfl

end Encoding

end SatClient
