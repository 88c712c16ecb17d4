import SatClient.Solver.Problem
import SatClient.Proofs.Document
/-!
What a problem's check promises: every literal is of an announced variable and of no other
registry. A problem that passes therefore has a document, and the document's text, which is put
together from plain integers, is the text of the problem.
-/

namespace SatClient.Solver.Problem

def Admits (p : Problem) (l : Literal) : Prop :=
  (∀ id, l.registry = some id → id = p.registry) ∧ l.id ≤ p.variableCount

inductive Names (id : Nat) : Failure → Prop
  | foreign (clause : Nat) : Names id (.foreignVariable clause id)
  | unallocated (clause count : Nat) : Names id (.unallocatedVariable clause id count)

theorem literalFailure?_eq_none (p : Problem) (index : Nat) (l : Literal) :
    p.literalFailure? index l = none ↔ p.Admits l := by
  have foreign : l.registry.any (· ≠ p.registry) = true ↔
      ¬ ∀ id, l.registry = some id → id = p.registry := by
    cases l.registry <;> simp
  unfold literalFailure? Admits
  split
  · next other =>
      have outside := foreign.mp other
      simp [outside]
  · next own =>
      have inside : ∀ id, l.registry = some id → id = p.registry :=
        Classical.not_not.mp fun outside => own (foreign.mpr outside)
      rw [and_iff_right inside]
      split
      · next large => simp [Nat.not_le.mpr large]
      · next small => simp [Nat.not_lt.mp small]

theorem clausesFailure?_eq_none (p : Problem) (index : Nat) (clauses : List Clause) :
    p.clausesFailure? index clauses = none ↔ ∀ c ∈ clauses, ∀ l ∈ c.literals, p.Admits l := by
  induction clauses generalizing index with
  | nil => simp [clausesFailure?]
  | cons c clauses ih =>
      have first : c.literals.findSome? (p.literalFailure? index) = none ↔
          ∀ l ∈ c.literals, p.Admits l := by
        rw [List.findSome?_eq_none_iff]
        exact forall₂_congr fun l _ => p.literalFailure?_eq_none index l
      rw [clausesFailure?, List.forall_mem_cons, ← first, ← ih (index + 1)]
      cases c.literals.findSome? (p.literalFailure? index) <;> simp

theorem check_eq_ok (p : Problem) :
    p.check = .ok () ↔ ∀ c ∈ p.clauses, ∀ l ∈ c.literals, p.Admits l := by
  rw [← p.clausesFailure?_eq_none 0 p.clauses, check]
  cases p.clausesFailure? 0 p.clauses <;> simp

theorem exists_names_of_clausesFailure? {p : Problem} {index : Nat} {clauses : List Clause}
    {failure : Failure} (found : p.clausesFailure? index clauses = some failure) :
    ∃ id, Names id failure := by
  induction clauses generalizing index with
  | nil => cases found
  | cons c clauses ih =>
      rw [clausesFailure?] at found
      split at found
      · next cause here =>
          cases found
          obtain ⟨l, _, refused⟩ := List.exists_of_findSome?_eq_some here
          rw [literalFailure?] at refused
          split at refused
          · cases refused
            exact ⟨l.id, .foreign index⟩
          · split at refused
            · cases refused
              exact ⟨l.id, .unallocated index p.variableCount⟩
            · cases refused
      · exact ih found

theorem exists_names_of_check {p : Problem} {failure : Failure}
    (stopped : p.check = .error failure) : ∃ id, Names id failure := by
  rw [check] at stopped
  split at stopped
  · next cause found =>
      cases stopped
      exact exists_names_of_clausesFailure? found
  · cases stopped

theorem kind_of_check {p : Problem} {failure : Failure} (stopped : p.check = .error failure) :
    failure.kind = .unknownVariable := by
  obtain ⟨id, names⟩ := exists_names_of_check stopped
  cases names <;> rfl

theorem bounded_of_check {p : Problem} (passes : p.check = .ok ()) :
    ∀ c ∈ p.clauses, ∀ l ∈ c.literals, l.id ≤ p.variableCount := by
  intro c inside l member
  exact (p.check_eq_ok.mp passes c inside l member).2

theorem document_of_check {p : Problem} (passes : p.check = .ok ()) :
    p.document = .ok ⟨p.variableCount, p.clauses.map Clause.signed⟩ := by
  rw [document, passes]
  exact Document.ofClauses_eq_ok (bounded_of_check passes)

theorem read?_of_check {p : Problem} (passes : p.check = .ok ()) :
    Dimacs.read? p.text.toList = some (p.variableCount, p.clauses.map Clause.signed) :=
  Dimacs.read?_text (bounded_of_check passes)

end SatClient.Solver.Problem
