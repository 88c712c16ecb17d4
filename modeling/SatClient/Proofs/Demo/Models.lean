import Mathlib.SetTheory.Cardinal.Finite
import SatClient.Proofs.Demo
/-!
The models of the demonstration. Without its last clause there is one for each choice, in which that
choice alone holds, and the last clause rules all of them out. The choices and the literal on the
left may be the variables of a registry in any order.
-/

namespace SatClient.Demo

open Registry (createMany)

def valueOf {n : Nat} (a : Fin n → Bool) (id : Nat) : Option Bool :=
  if inside : 0 < id ∧ id ≤ n then some (a ⟨id - 1, by omega⟩) else none

def IsModel {n : Nat} (a : Fin n → Bool) (cs : List Clause) : Prop :=
  ∀ c ∈ cs, c.evaluate (valueOf a) = .ok true

/-- Whether the literal on the left and one choice are true, and every other choice is false. -/
structure Selects (left : Literal) (choices : List Literal) (k : Fin choices.length)
    (a : Fin (choices.length + 1) → Bool) : Prop where
  left : valueOf a left.id = some true
  choice : ∀ i : Fin choices.length, valueOf a (choices.get i).id = some (decide (i = k))

/-- The demonstration without its last clause. -/
def constraints (left : Literal) (choices : List Literal) : List Clause :=
  Encoding.equivalence left choices ++ Encoding.exactlyOne choices

def clauseCount (size : Nat) : Nat :=
  (size + 1) + (size * (size - 1) / 2 + 1) + 1

def selection (left : Literal) (choices : List Literal) (k : Fin choices.length)
    (i : Fin (choices.length + 1)) : Bool :=
  decide (i.val + 1 = left.id ∨ i.val + 1 = (choices.get k).id)

theorem valueOf_of_inside {n : Nat} (a : Fin n → Bool) {id : Nat} (inside : 0 < id ∧ id ≤ n) :
    valueOf a id = some (a ⟨id - 1, by omega⟩) :=
  dif_pos inside

theorem valueOf_succ {n : Nat} (a : Fin n → Bool) (i : Fin n) :
    valueOf a (i.val + 1) = some (a i) := by
  rw [valueOf_of_inside a ⟨Nat.succ_pos i, i.isLt⟩]
  rfl

section

variable {id : RegistryId} {left : Literal} {choices : List Literal}
  (fresh : (left :: choices).Perm (createMany (choices.length + 1) { id }).2)

include fresh

theorem positive_of_mem {l : Literal} (member : l ∈ left :: choices) :
    l.negated = false ∧ 0 < l.id ∧ l.id ≤ choices.length + 1 := by
  have known := fresh.mem_iff.mp member
  rw [Registry.createMany_empty] at known
  obtain ⟨index, below, rfl⟩ := List.mem_map.mp known
  exact ⟨rfl, Nat.succ_pos index, List.mem_range.mp below⟩

theorem ids_nodup : ((left :: choices).map Literal.id).Nodup := by
  rw [(fresh.map Literal.id).nodup_iff, Registry.createMany_empty, List.map_map]
  apply List.Nodup.map_on _ List.nodup_range
  intro i _ j _ same
  exact Nat.succ.inj same

theorem exists_of_index (i : Fin (choices.length + 1)) :
    ∃ l ∈ left :: choices, l.id = i.val + 1 := by
  refine ⟨Registry.positive { id } i, ?_, rfl⟩
  rw [fresh.mem_iff, Registry.createMany_empty]
  exact List.mem_map_of_mem (List.mem_range.mpr i.isLt)

theorem choice_ne_left (k : Fin choices.length) : (choices.get k).id ≠ left.id := by
  intro same
  apply (List.nodup_cons.mp (ids_nodup fresh)).1
  rw [← same]
  exact List.mem_map_of_mem (List.getElem_mem k.isLt)

theorem choice_inj {i k : Fin choices.length}
    (same : (choices.get i).id = (choices.get k).id) : i = k := by
  have apart := List.pairwise_map.mp (List.nodup_cons.mp (ids_nodup fresh)).2
  rw [List.pairwise_iff_getElem] at apart
  rcases Nat.lt_trichotomy i.val k.val with before | equal | after
  · exact absurd same (apart i k i.isLt k.isLt before)
  · exact Fin.ext equal
  · exact absurd same.symm (apart k i k.isLt i.isLt after)

theorem selects_selection (k : Fin choices.length) :
    Selects left choices k (selection left choices k) := by
  have value {l : Literal} (member : l ∈ left :: choices) :
      valueOf (selection left choices k) l.id =
        some (decide (l.id = left.id ∨ l.id = (choices.get k).id)) := by
    have inside := (positive_of_mem fresh member).2
    have place : l.id - 1 + 1 = l.id := Nat.sub_add_cancel inside.1
    rw [valueOf_of_inside _ inside, selection, place]
  constructor
  case left =>
    rw [value List.mem_cons_self, decide_eq_true (Or.inl rfl)]
  case choice =>
    intro i
    have same : (choices.get i).id = left.id ∨ (choices.get i).id = (choices.get k).id ↔ i = k := by
      constructor
      · rintro (target | chosen)
        · exact absurd target (choice_ne_left fresh i)
        · exact choice_inj fresh chosen
      · rintro rfl
        exact Or.inr rfl
    have chosen := value (List.mem_cons_of_mem left (List.getElem_mem i.isLt))
    exact chosen.trans (congrArg some (decide_eq_decide.mpr same))

/-- Each id is that of a literal, so all values are settled. -/
theorem eq_of_selects {k : Fin choices.length} {a b : Fin (choices.length + 1) → Bool}
    (first : Selects left choices k a) (second : Selects left choices k b) : a = b := by
  funext i
  obtain ⟨l, member, place⟩ := exists_of_index fresh i
  have agree : valueOf a l.id = valueOf b l.id := by
    rcases List.mem_cons.mp member with rfl | choice
    · rw [first.left, second.left]
    · obtain ⟨j, inside, rfl⟩ := List.getElem_of_mem choice
      exact (first.choice ⟨j, inside⟩).trans (second.choice ⟨j, inside⟩).symm
  rw [place, valueOf_succ, valueOf_succ] at agree
  exact Option.some.inj agree

theorem selection_injective : Function.Injective (selection left choices) := by
  intro k j same
  have own := (selects_selection fresh k).choice k
  have other := (selects_selection fresh j).choice k
  rw [same, other] at own
  have equal : decide (k = j) = decide (k = k) := Option.some.inj own
  exact of_decide_eq_true (equal.trans (decide_eq_true rfl))

theorem isModel_iff (a : Fin (choices.length + 1) → Bool) {cs : List Clause}
    (within : ∀ c ∈ cs, c.Over (left :: choices)) :
    IsModel a cs ↔ Clause.AllTrue (fun id => (valueOf a id).getD false) cs := by
  refine Clause.allTrue_of_over (fun l known => ?_) within
  rw [valueOf_of_inside a (positive_of_mem fresh known).2]
  rfl

theorem isModel_constraints (a : Fin (choices.length + 1) → Bool) :
    IsModel a (constraints left choices) ↔ ∃ k, Selects left choices k a := by
  have within : ∀ c ∈ constraints left choices, c.Over (left :: choices) := by
    intro c member
    exact over_clauses left choices c (List.mem_append_left _ member)
  have value {l : Literal} (member : l ∈ left :: choices) (b : Bool) :
      l.truth (fun id => (valueOf a id).getD false) = b ↔ valueOf a l.id = some b := by
    obtain ⟨positive, inside⟩ := positive_of_mem fresh member
    rw [Literal.truth_of_positive _ positive, valueOf_of_inside a inside, Option.getD_some,
      Option.some_inj]
  have choice (i : Fin choices.length) (b : Bool) :=
    value (List.mem_cons_of_mem left (List.getElem_mem i.isLt)) b
  rw [isModel_iff fresh a within, constraints, Clause.allTrue_append, Encoding.allTrue_equivalence,
    Encoding.allTrue_exactlyOne]
  constructor
  · rintro ⟨equivalent, k, only⟩
    have chosen := (only k).trans (decide_eq_true rfl)
    have target := equivalent.mpr ⟨choices.get k, List.getElem_mem k.isLt, chosen⟩
    exact ⟨k, (value List.mem_cons_self true).mp target, fun i => (choice i _).mp (only i)⟩
  · rintro ⟨k, selects⟩
    have only (i : Fin choices.length) := (choice i _).mpr (selects.choice i)
    have target := (value List.mem_cons_self true).mpr selects.left
    refine ⟨iff_of_true target ?_, k, only⟩
    exact ⟨choices.get k, List.getElem_mem k.isLt, (only k).trans (decide_eq_true rfl)⟩

/-- The last clause asks for the negation of a literal that all models make true. -/
theorem not_isModel_clauses (a : Fin (choices.length + 1) → Bool) :
    ¬ IsModel a (clauses left choices) := by
  intro model
  have front : IsModel a (constraints left choices) := fun c member =>
    model c (List.mem_append_left _ member)
  obtain ⟨k, selects⟩ := (isModel_constraints fresh a).mp front
  have positive := (positive_of_mem fresh List.mem_cons_self).1
  have last := model ⟨[left.negate]⟩ (List.mem_append_right _ (List.mem_singleton.mpr rfl))
  have fails : left.negate.value? (valueOf a) = some false := by
    rw [Literal.value?, Literal.negate, selects.left, positive]
    rfl
  rw [Clause.evaluate, Clause.evaluateFrom, fails] at last
  cases last

theorem card_models :
    Nat.card { a : Fin (choices.length + 1) → Bool // IsModel a (constraints left choices) } =
      choices.length := by
  have model (k : Fin choices.length) :
      IsModel (selection left choices k) (constraints left choices) :=
    (isModel_constraints fresh _).mpr ⟨k, selects_selection fresh k⟩
  have bijective : Function.Bijective fun k : Fin choices.length =>
      (⟨selection left choices k, model k⟩ :
        { a : Fin (choices.length + 1) → Bool // IsModel a (constraints left choices) }) := by
    constructor
    · intro k j same
      exact selection_injective fresh (congrArg Subtype.val same)
    · rintro ⟨a, satisfied⟩
      obtain ⟨k, selects⟩ := (isModel_constraints fresh a).mp satisfied
      exact ⟨k, Subtype.ext (eq_of_selects fresh (selects_selection fresh k) selects)⟩
  rw [← Nat.card_congr (Equiv.ofBijective _ bijective), Nat.card_fin]

/-- The models of the constraints are told apart by the choice that they select, there are as many as
choices, and the whole demonstration has none. A solver that holds it announces its size. -/
theorem models_of_demonstration :
    (∃ models : Fin choices.length → Fin (choices.length + 1) → Bool,
      Function.Injective models ∧ (∀ k, Selects left choices k (models k)) ∧
      ∀ a, IsModel a (constraints left choices) ↔ ∃ k, a = models k) ∧
    Nat.card { a : Fin (choices.length + 1) → Bool // IsModel a (constraints left choices) } =
      choices.length ∧
    (∀ a : Fin (choices.length + 1) → Bool, ¬ IsModel a (clauses left choices)) ∧
    ∀ (w : Workspace) (s : SolverId), (w.problem s).variableCount = choices.length + 1 →
      (w.problem s).clauses = clauses left choices →
      (w.problem s).lines =
        ("p cnf " ++ toString (choices.length + 1) ++ " " ++ toString (clauseCount choices.length)) ::
          (clauses left choices).map Clause.render ∧
      ((clauses left choices).map Clause.render).length = clauseCount choices.length := by
  refine ⟨⟨selection left choices, selection_injective fresh, selects_selection fresh, ?_⟩,
    card_models fresh, not_isModel_clauses fresh, ?_⟩
  · intro a
    rw [isModel_constraints fresh]
    refine exists_congr fun k => ⟨fun selects => ?_, fun same => ?_⟩
    · exact eq_of_selects fresh selects (selects_selection fresh k)
    · rw [same]
      exact selects_selection fresh k
  · intro w s count held
    have size : (clauses left choices).length = clauseCount choices.length :=
      length_clauses left choices
    refine ⟨?_, (List.length_map _).trans size⟩
    rw [Solver.Problem.lines, Dimacs.lines, Dimacs.header, count, held, size]
    rfl

end

def bare : Workspace :=
  Workspace.run {} [.newRegistry, .newSolver {} ⟨0⟩]

/-- Three variables with the second one on the left, and the demonstration of six variables. -/
theorem models_of_three_and_six :
    (let left := Registry.positive { id := ⟨0⟩ } 1
     let choices := [Registry.positive { id := ⟨0⟩ } 2, Registry.positive { id := ⟨0⟩ } 0]
     (left :: choices).Perm (createMany 3 { id := ⟨0⟩ }).2 ∧
       Nat.card { a : Fin 3 → Bool // IsModel a (constraints left choices) } = 2) ∧
    (let built := build bare ⟨0⟩ size
     (built.left :: built.choices).Perm (createMany 6 { id := ⟨0⟩ }).2 ∧
       (∀ a : Fin 6 → Bool, ¬ IsModel a (clauses built.left built.choices)) ∧
       (built.workspace.problem ⟨0⟩).lines =
         "p cnf 6 18" :: (clauses built.left built.choices).map Clause.render) := by
  have shuffled : [Registry.positive { id := ⟨0⟩ } 1, Registry.positive { id := ⟨0⟩ } 2,
      Registry.positive { id := ⟨0⟩ } 0].Perm (createMany 3 { id := ⟨0⟩ }).2 := by decide
  have built : ((build bare ⟨0⟩ size).left :: (build bare ⟨0⟩ size).choices).Perm
      (createMany 6 { id := ⟨0⟩ }).2 := by decide
  refine ⟨⟨shuffled, (models_of_demonstration shuffled).2.1⟩, built, ?_⟩
  obtain ⟨_, _, none, totals⟩ := models_of_demonstration built
  exact ⟨none, (totals (build bare ⟨0⟩ size).workspace ⟨0⟩ rfl (by decide)).1⟩

end SatClient.Demo
