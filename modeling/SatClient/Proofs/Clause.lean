import SatClient.Proofs.Dimacs.Reader
/-!
Clauses under an assignment that gives all their variables a value: evaluation succeeds, and its
answer is what the clause means as a line of DIMACS text.
-/

namespace SatClient

theorem Literal.pos_signed (l : Literal) : 0 < l.signed ↔ l.negated = false := by
  have positive := l.id_pos
  rw [signed]
  cases l.negated with
  | false => simp [positive]
  | true =>
      constructor
      · intro above
        rw [if_pos rfl] at above
        omega
      · intro absurdity
        cases absurdity

theorem Literal.holds_signed (values : Nat → Bool) (l : Literal) :
    Dimacs.Holds values l.signed ↔ (values l.id != l.negated) = true := by
  have sign := l.pos_signed
  rw [Dimacs.Holds, l.natAbs_signed]
  cases negated : l.negated <;> cases values l.id <;> simp_all

namespace Clause

theorem evaluateFrom_of_total {assignment : Nat → Option Bool} {values : Nat → Bool}
    {ls : List Literal} (total : ∀ l ∈ ls, assignment l.id = some (values l.id)) :
    evaluateFrom assignment ls = .ok (ls.any fun l => values l.id != l.negated) := by
  induction ls with
  | nil => rfl
  | cons l ls ih =>
      have first : l.value? assignment = some (values l.id != l.negated) := by
        rw [Literal.value?, total l (by simp), Option.map_some]
      have rest := ih fun m member => total m (List.mem_cons_of_mem _ member)
      rw [evaluateFrom, first, List.any_cons]
      cases values l.id != l.negated with
      | true => rfl
      | false => exact rest

theorem evaluateFrom_eq_ok {assignment : Nat → Option Bool} {values : Nat → Bool}
    {ls : List Literal} (total : ∀ l ∈ ls, assignment l.id = some (values l.id)) :
    evaluateFrom assignment ls = .ok true ↔ ∃ l ∈ ls, (values l.id != l.negated) = true := by
  rw [evaluateFrom_of_total total, Except.ok.injEq, List.any_eq_true]

theorem evaluate_eq_ok {assignment : Nat → Option Bool} {values : Nat → Bool} (c : Clause)
    (total : ∀ l ∈ c.literals, assignment l.id = some (values l.id)) :
    c.evaluate assignment = .ok true ↔ ∃ l ∈ c.signed, Dimacs.Holds values l := by
  rw [evaluate, evaluateFrom_eq_ok total]
  constructor
  · rintro ⟨l, member, holds⟩
    exact ⟨l.signed, List.mem_map_of_mem member, (l.holds_signed values).mpr holds⟩
  · rintro ⟨_, member, holds⟩
    obtain ⟨l, inside, rfl⟩ := List.mem_map.mp member
    exact ⟨l, inside, (l.holds_signed values).mp holds⟩

theorem evaluate_iff_satisfies {assignment : Nat → Option Bool} {values : Nat → Bool}
    {clauses : List Clause}
    (total : ∀ c ∈ clauses, ∀ l ∈ c.literals, assignment l.id = some (values l.id)) :
    (∀ c ∈ clauses, c.evaluate assignment = .ok true) ↔
      Dimacs.Satisfies values (clauses.map Clause.signed) := by
  rw [Dimacs.Satisfies, List.forall_mem_map]
  exact forall₂_congr fun c member => c.evaluate_eq_ok (total c member)

end Clause

end SatClient
