import SatClient.Encoding
import SatClient.Proofs.Clause
/-!
What the clauses of a constraint say when every variable has a value: an equivalence holds when its
left literal is as true as the disjunction of the right ones, and the clauses of an exactly-one
constraint hold when one position alone has a true literal.
-/

namespace SatClient

namespace Literal

def truth (values : Nat → Bool) (l : Literal) : Bool :=
  values l.id != l.negated

theorem truth_negate (values : Nat → Bool) (l : Literal) :
    l.negate.truth values = !l.truth values := by
  rw [truth, truth, negate]
  cases values l.id <;> cases l.negated <;> rfl

theorem truth_of_positive (values : Nat → Bool) {l : Literal} (positive : l.negated = false) :
    l.truth values = values l.id := by
  rw [truth, positive, Bool.bne_false]

def IsTrue (assignment : Nat → Option Bool) (l : Literal) : Prop :=
  assignment l.id = some (!l.negated)

instance (assignment : Nat → Option Bool) (l : Literal) : Decidable (l.IsTrue assignment) :=
  inferInstanceAs (Decidable (assignment l.id = some (!l.negated)))

/-- The values of an assignment; a variable without one counts as false. -/
def valuesOf (assignment : Nat → Option Bool) (id : Nat) : Bool :=
  (assignment id).getD false

theorem isTrue_iff {assignment : Nat → Option Bool} {l : Literal}
    (defined : (assignment l.id).isSome = true) :
    l.IsTrue assignment ↔ l.truth (valuesOf assignment) = true := by
  obtain ⟨b, value⟩ := Option.isSome_iff_exists.mp defined
  rw [IsTrue, truth, valuesOf, value]
  cases b <;> cases l.negated <;> decide

end Literal

namespace Clause

def AllTrue (values : Nat → Bool) (clauses : List Clause) : Prop :=
  ∀ c ∈ clauses, ∃ l ∈ c.literals, l.truth values = true

theorem allTrue_append (values : Nat → Bool) (cs ds : List Clause) :
    AllTrue values (cs ++ ds) ↔ AllTrue values cs ∧ AllTrue values ds :=
  List.forall_mem_append

theorem allTrue_singleton (values : Nat → Bool) (c : Clause) :
    AllTrue values [c] ↔ ∃ l ∈ c.literals, l.truth values = true := by
  rw [AllTrue, List.forall_mem_singleton]

def Over (ls : List Literal) (c : Clause) : Prop :=
  ∀ l ∈ c.literals, ∃ m ∈ ls, l = m ∨ l = m.negate

theorem evaluate_iff_allTrue {assignment : Nat → Option Bool} {values : Nat → Bool}
    {clauses : List Clause}
    (total : ∀ c ∈ clauses, ∀ l ∈ c.literals, assignment l.id = some (values l.id)) :
    (∀ c ∈ clauses, c.evaluate assignment = .ok true) ↔ AllTrue values clauses :=
  forall₂_congr fun c member => evaluateFrom_eq_ok (total c member)

section

open Literal (valuesOf)

variable {assignment : Nat → Option Bool} {ls : List Literal}
  (defined : ∀ l ∈ ls, (assignment l.id).isSome = true)

include defined

theorem total_of_over {c : Clause} (drawn : c.Over ls) :
    ∀ l ∈ c.literals, assignment l.id = some (valuesOf assignment l.id) := by
  intro l member
  obtain ⟨m, known, variant⟩ := drawn l member
  have place : l.id = m.id := by rcases variant with rfl | rfl <;> rfl
  obtain ⟨b, value⟩ := Option.isSome_iff_exists.mp (defined m known)
  rw [place, valuesOf, value]
  rfl

theorem decided_of_over {c : Clause} (drawn : c.Over ls) :
    ∃ b, c.evaluate assignment = .ok b :=
  ⟨_, evaluateFrom_of_total (total_of_over defined drawn)⟩

theorem allTrue_of_over {clauses : List Clause} (drawn : ∀ c ∈ clauses, c.Over ls) :
    (∀ c ∈ clauses, c.evaluate assignment = .ok true) ↔
      AllTrue (valuesOf assignment) clauses :=
  evaluate_iff_allTrue fun c member => total_of_over defined (drawn c member)

end

end Clause

namespace Encoding

open Clause (AllTrue Over)

theorem over_equivalence {ls : List Literal} {left : Literal} {right : List Literal}
    (target : left ∈ ls) (sources : ∀ l ∈ right, l ∈ ls) :
    ∀ c ∈ equivalence left right, c.Over ls := by
  intro c member
  rcases List.mem_cons.mp member with rfl | pair
  · intro l inside
    rcases List.mem_append.mp inside with source | last
    · exact ⟨l, sources l source, Or.inl rfl⟩
    · exact ⟨left, target, Or.inr (List.mem_singleton.mp last)⟩
  · obtain ⟨m, source, rfl⟩ := List.mem_map.mp pair
    intro l inside
    simp only [List.mem_cons, List.not_mem_nil, or_false] at inside
    rcases inside with rfl | rfl
    · exact ⟨m, sources m source, Or.inr rfl⟩
    · exact ⟨l, target, Or.inl rfl⟩

theorem over_operands (left : Literal) (right : List Literal) :
    ∀ c ∈ equivalence left right, c.Over (left :: right) :=
  over_equivalence List.mem_cons_self fun _ source => List.mem_cons_of_mem left source

theorem over_atMostOne {ls vs : List Literal} (known : ∀ l ∈ vs, l ∈ ls) :
    ∀ c ∈ atMostOne vs, c.Over ls := by
  induction vs with
  | nil =>
      intro c absent
      cases absent
  | cons v vs ih =>
      intro c member
      have first := known v (by simp)
      have rest : ∀ l ∈ vs, l ∈ ls := fun l inside => known l (List.mem_cons_of_mem _ inside)
      rcases List.mem_append.mp member with pair | later
      · obtain ⟨m, inside, rfl⟩ := List.mem_map.mp pair
        intro l here
        simp only [List.mem_cons, List.not_mem_nil, or_false] at here
        rcases here with rfl | rfl
        · exact ⟨v, first, Or.inr rfl⟩
        · exact ⟨m, rest m inside, Or.inr rfl⟩
      · exact ih rest c later

theorem over_exactlyOne {ls vs : List Literal} (known : ∀ l ∈ vs, l ∈ ls) :
    ∀ c ∈ exactlyOne vs, c.Over ls := by
  intro c member
  rcases List.mem_append.mp member with pair | last
  · exact over_atMostOne known c pair
  · rw [List.mem_singleton.mp last]
    intro l inside
    exact ⟨l, known l inside, Or.inl rfl⟩

section

variable (values : Nat → Bool)

theorem allTrue_equivalence (left : Literal) (right : List Literal) :
    AllTrue values (equivalence left right) ↔
      (left.truth values = true ↔ ∃ l ∈ right, l.truth values = true) := by
  have forward : (∃ l ∈ right ++ [left.negate], l.truth values = true) ↔
      (left.truth values = true → ∃ l ∈ right, l.truth values = true) := by
    simp only [List.mem_append, List.mem_singleton, or_and_right, exists_or, exists_eq_left,
      Literal.truth_negate, Bool.not_eq_true']
    cases left.truth values <;> simp
  have backward : (∀ l ∈ right, ∃ m ∈ [l.negate, left], m.truth values = true) ↔
      ((∃ l ∈ right, l.truth values = true) → left.truth values = true) := by
    simp only [List.mem_cons, List.not_mem_nil, or_false, exists_eq_or_imp, exists_eq_left,
      Literal.truth_negate, Bool.not_eq_true']
    constructor
    · rintro each ⟨l, member, holds⟩
      rcases each l member with fails | target
      · rw [holds] at fails
        cases fails
      · exact target
    · intro implies l member
      cases holds : l.truth values with
      | false => exact Or.inl rfl
      | true => exact Or.inr (implies ⟨l, member, holds⟩)
  rw [equivalence, AllTrue, List.forall_mem_cons, List.forall_mem_map]
  exact (and_congr forward backward).trans iff_def.symm

theorem allTrue_atMostOne (ls : List Literal) :
    AllTrue values (atMostOne ls) ↔
      ls.Pairwise fun l m => ¬ (l.truth values = true ∧ m.truth values = true) := by
  induction ls with
  | nil => simp [atMostOne, AllTrue]
  | cons l ls ih =>
      have first : AllTrue values (ls.map fun m => ⟨[l.negate, m.negate]⟩) ↔
          ∀ m ∈ ls, ¬ (l.truth values = true ∧ m.truth values = true) := by
        rw [AllTrue, List.forall_mem_map]
        refine forall₂_congr fun m _ => ?_
        simp only [List.mem_cons, List.not_mem_nil, or_false, exists_eq_or_imp, exists_eq_left,
          Literal.truth_negate, Bool.not_eq_true', ← Bool.not_eq_true]
        exact Classical.not_and_iff_not_or_not.symm
      rw [atMostOne, Clause.allTrue_append, List.pairwise_cons, first, ih]

theorem allTrue_exactlyOne (ls : List Literal) :
    AllTrue values (exactlyOne ls) ↔
      ∃ k : Fin ls.length, ∀ i : Fin ls.length, (ls.get i).truth values = decide (i = k) := by
  rw [exactlyOne, Clause.allTrue_append, allTrue_atMostOne, Clause.allTrue_singleton,
    List.pairwise_iff_getElem]
  constructor
  · rintro ⟨apart, l, member, holds⟩
    obtain ⟨k, inside, rfl⟩ := List.getElem_of_mem member
    refine ⟨⟨k, inside⟩, fun i => ?_⟩
    by_cases same : i = ⟨k, inside⟩
    · subst same
      rw [decide_eq_true rfl]
      exact holds
    · have differ : i.val ≠ k := fun equal => same (Fin.ext equal)
      rw [decide_eq_false same, ← Bool.not_eq_true]
      intro other
      rcases Nat.lt_or_gt_of_ne differ with before | after
      · exact apart i k i.isLt inside before ⟨other, holds⟩
      · exact apart k i inside i.isLt after ⟨holds, other⟩
  · rintro ⟨k, only⟩
    constructor
    · rintro i j inside inside' before ⟨holds, holds'⟩
      have first := (only ⟨i, inside⟩).symm.trans holds
      have second := (only ⟨j, inside'⟩).symm.trans holds'
      have same := (of_decide_eq_true first).trans (of_decide_eq_true second).symm
      exact absurd (congrArg Fin.val same) (Nat.ne_of_lt before)
    · exact ⟨ls[k], List.getElem_mem k.isLt, (only k).trans (decide_eq_true rfl)⟩

end

theorem length_atMostOne (ls : List Literal) :
    (atMostOne ls).length = ls.length * (ls.length - 1) / 2 := by
  have doubled : 2 * (atMostOne ls).length = ls.length * (ls.length - 1) := by
    induction ls with
    | nil => rfl
    | cons l ls ih =>
        rw [atMostOne, List.length_append, List.length_map, List.length_cons, Nat.mul_add, ih]
        cases ls.length with
        | zero => rfl
        | succ n =>
            calc
              2 * (n + 1) + (n + 1) * n = n * (n + 1) + 2 * (n + 1) := by
                rw [Nat.mul_comm (n + 1) n, Nat.add_comm]
              _ = (n + 2) * (n + 1) := (Nat.add_mul n 2 (n + 1)).symm
  omega

end Encoding

end SatClient
