import SatClient.Proofs.Encoding
/-!
Exclusions of any length: where each of their clauses stands, and what the clauses say when all
variables in them have a value. What is counted are positions, so that a literal that stands at two
of them excludes itself, and a literal and its negation are at odds like any two.
-/

namespace SatClient.Encoding

open Literal (valuesOf)

/-- The place of a pair of positions among all pairs, in lexicographic order. -/
def place (size i j : Nat) : Nat :=
  i * (2 * size - i - 1) / 2 + (j - i - 1)

theorem place_succ {size i j : Nat} (before : i < j) (inside : j < size) :
    place (size + 1) (i + 1) (j + 1) = size + place size i j := by
  obtain ⟨d, gap⟩ : ∃ d, 2 * size - i - 1 = d := ⟨_, rfl⟩
  have wider : 2 * (size + 1) - (i + 1) - 1 = d + 1 := by omega
  have shifted : (i + 1) * (d + 1) = i * d + 2 * size := by
    calc
      (i + 1) * (d + 1) = i * d + (i + d + 1) := by
        rw [Nat.add_mul, Nat.mul_add, Nat.one_mul, Nat.mul_one]
        omega
      _ = i * d + 2 * size := by omega
  rw [place, place, wider, gap, shifted, Nat.add_mul_div_left _ _ Nat.two_pos]
  omega

theorem getElem?_atMostOne {ls : List Literal} {i j : Nat} (before : i < j)
    (inside : j < ls.length) :
    (atMostOne ls)[place ls.length i j]? = some ⟨[ls[i].negate, ls[j].negate]⟩ := by
  induction ls generalizing i j with
  | nil => cases inside
  | cons l ls ih =>
      obtain ⟨j, rfl⟩ := Nat.exists_eq_succ_of_ne_zero (Nat.ne_zero_of_lt before)
      have later : j < ls.length := Nat.lt_of_succ_lt_succ inside
      rw [atMostOne]
      cases i with
      | zero =>
          have first : place (l :: ls).length 0 (j + 1) = j := by simp [place]
          rw [first, List.getElem?_append_left (by simpa using later), List.getElem?_map,
            List.getElem?_eq_getElem later]
          rfl
      | succ i =>
          have earlier : i < j := Nat.lt_of_succ_lt_succ before
          have behind : place (l :: ls).length (i + 1) (j + 1) = ls.length + place ls.length i j :=
            place_succ earlier later
          have found := ih earlier later
          rw [behind, List.getElem?_append_right (by simp), List.length_map,
            Nat.add_sub_cancel_left]
          exact found

structure Arranged (ls : List Literal) : Prop where
  length : (exactlyOne ls).length = ls.length * (ls.length - 1) / 2 + 1
  pair : ∀ i j, ∀ (before : i < j) (inside : j < ls.length), ∃ c,
    (exactlyOne ls)[i * (2 * ls.length - i - 1) / 2 + (j - i - 1)]? = some c ∧
      c.literals = [ls[i].negate, ls[j].negate] ∧ c.signed = [-ls[i].signed, -ls[j].signed]
  last : (exactlyOne ls).getLast? = some ⟨ls⟩
  front : (exactlyOne ls).dropLast = atMostOne ls

theorem arranged (ls : List Literal) : Arranged ls := by
  constructor
  case length => rw [length_exactlyOne, length_atMostOne]
  case pair =>
    intro i j before inside
    have found := getElem?_atMostOne before inside
    have front : place ls.length i j < (atMostOne ls).length := by
      obtain ⟨present, _⟩ := List.getElem?_eq_some_iff.mp found
      exact present
    refine ⟨⟨[ls[i].negate, ls[j].negate]⟩, ?_, rfl, ?_⟩
    · exact (List.getElem?_append_left front).trans found
    · simp only [Clause.signed, List.map_cons, List.map_nil, Literal.signed_negate]
  case last => exact List.getLast?_concat
  case front => exact List.dropLast_concat

/-- What the clauses of an exclusion say: each of them is decided, and together they count the
positions with a true literal. -/
structure Counts (assignment : Nat → Option Bool) (ls : List Literal) : Prop where
  decided : ∀ c ∈ exactlyOne ls, ∃ b, c.evaluate assignment = .ok b
  atMost : (∀ c ∈ atMostOne ls, c.evaluate assignment = .ok true) ↔
    ∀ i j : Fin ls.length, ls[i].IsTrue assignment → ls[j].IsTrue assignment → i = j
  exactly : (∀ c ∈ exactlyOne ls, c.evaluate assignment = .ok true) ↔
    ∃ i : Fin ls.length, ls[i].IsTrue assignment ∧ ∀ j : Fin ls.length,
      ls[j].IsTrue assignment → j = i
  nothing : ls = [] → ¬ ∀ c ∈ exactlyOne ls, c.evaluate assignment = .ok true

section

variable {assignment : Nat → Option Bool} {ls : List Literal}
  (defined : ∀ l ∈ ls, (assignment l.id).isSome = true)

include defined

theorem evaluate_atMostOne :
    (∀ c ∈ atMostOne ls, c.evaluate assignment = .ok true) ↔
      ∀ i j : Fin ls.length, ls[i].IsTrue assignment → ls[j].IsTrue assignment → i = j := by
  have meaning (i : Fin ls.length) := Literal.isTrue_iff (defined ls[i] (List.getElem_mem i.isLt))
  rw [Clause.allTrue_of_over defined (over_atMostOne fun _ known => known), allTrue_atMostOne,
    List.pairwise_iff_getElem]
  simp only [meaning]
  constructor
  · intro apart i j first second
    rcases Nat.lt_trichotomy i.val j.val with before | same | after
    · exact absurd ⟨first, second⟩ (apart i j i.isLt j.isLt before)
    · exact Fin.ext same
    · exact absurd ⟨second, first⟩ (apart j i j.isLt i.isLt after)
  · rintro single i j inside inside' before ⟨first, second⟩
    have same := single ⟨i, inside⟩ ⟨j, inside'⟩ first second
    exact absurd (congrArg Fin.val same) (Nat.ne_of_lt before)

theorem evaluate_exactlyOne :
    (∀ c ∈ exactlyOne ls, c.evaluate assignment = .ok true) ↔
      ∃ i : Fin ls.length, ls[i].IsTrue assignment ∧ ∀ j : Fin ls.length,
        ls[j].IsTrue assignment → j = i := by
  have meaning (i : Fin ls.length) := Literal.isTrue_iff (defined ls[i] (List.getElem_mem i.isLt))
  rw [Clause.allTrue_of_over defined (over_exactlyOne fun _ known => known), allTrue_exactlyOne]
  simp only [meaning]
  refine exists_congr fun k => ?_
  constructor
  · intro only
    refine ⟨(only k).trans (decide_eq_true rfl), fun j holds => ?_⟩
    exact of_decide_eq_true ((only j).symm.trans holds)
  · rintro ⟨chosen, only⟩ i
    by_cases same : i = k
    · rw [same, decide_eq_true rfl]
      exact chosen
    · rw [decide_eq_false same, ← Bool.not_eq_true]
      exact fun holds => same (only i holds)

/-- An exclusion of any literals: its clauses, and what they say of every assignment of their
variables. -/
theorem counts_of_defined : Counts assignment ls ∧ Arranged ls := by
  refine ⟨?_, arranged ls⟩
  have exactly := evaluate_exactlyOne defined
  constructor
  case decided =>
    intro c member
    exact Clause.decided_of_over defined (over_exactlyOne (fun _ known => known) c member)
  case atMost => exact evaluate_atMostOne defined
  case exactly => exact exactly
  case nothing =>
    rintro rfl satisfied
    obtain ⟨i, _⟩ := exactly.mp satisfied
    exact i.elim0

end

def crossed : List Literal :=
  [⟨1, false, none, Nat.one_pos⟩, ⟨2, true, none, Nat.two_pos⟩, ⟨1, false, none, Nat.one_pos⟩,
    ⟨1, true, none, Nat.one_pos⟩]

/-- With the second variable alone the last literal is the only true one. With both variables the
literal that stands twice is true twice. -/
theorem counts_crossed :
    (∀ l ∈ crossed, (some (l.id == 2)).isSome = true) ∧
      (∀ c ∈ exactlyOne crossed, c.evaluate (fun id => some (id == 2)) = .ok true) ∧
      ¬ (∀ c ∈ atMostOne crossed, c.evaluate (fun _ => some true) = .ok true) ∧
      (exactlyOne crossed)[5]? =
        some ⟨[⟨1, true, none, Nat.one_pos⟩, ⟨1, false, none, Nat.one_pos⟩]⟩ := by
  have second : Counts (fun id => some (id == 2)) crossed ∧ Arranged crossed :=
    counts_of_defined fun _ _ => rfl
  have both : Counts (fun _ => some true) crossed ∧ Arranged crossed :=
    counts_of_defined fun _ _ => rfl
  refine ⟨fun _ _ => rfl, second.1.exactly.mpr ⟨⟨3, by decide⟩, rfl, by decide⟩, ?_, ?_⟩
  · intro satisfied
    exact absurd (both.1.atMost.mp satisfied ⟨0, by decide⟩ ⟨2, by decide⟩ rfl rfl) (by decide)
  · obtain ⟨c, found, literals, _⟩ := second.2.pair 2 3 (by decide) (by decide)
    exact found.trans (congrArg some (congrArg Clause.mk literals))

end SatClient.Encoding
