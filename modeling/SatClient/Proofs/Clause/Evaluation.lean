import SatClient.Proofs.Encoding
/-!
Clauses under assignments that leave variables without a value. What is decided stays decided when
more variables get values; a clause is undecided exactly at a variable without a value that no true
literal comes before; and a clause whose variables all have values is the disjunction of its
literals.
-/

namespace SatClient

def Within (a b : Nat → Option Bool) : Prop :=
  ∀ id v, a id = some v → b id = some v

def Asserts (a : Nat → Option Bool) (k : Int) : Prop :=
  a k.natAbs = some (decide (0 < k))

instance (a : Nat → Option Bool) : DecidablePred (Asserts a) := fun k =>
  inferInstanceAs (Decidable (a k.natAbs = some (decide (0 < k))))

namespace Literal

variable {a : Nat → Option Bool} {l : Literal}

theorem asserts_signed : Asserts a l.signed ↔ l.IsTrue a := by
  have sign : decide (0 < l.signed) = !l.negated := by
    simp only [l.pos_signed, Bool.decide_eq_false]
  rw [Asserts, l.natAbs_signed, sign, IsTrue]

theorem value?_eq_none : l.value? a = none ↔ a l.id = none :=
  Option.map_eq_none_iff

theorem value?_eq_true : l.value? a = some true ↔ Asserts a l.signed := by
  rw [asserts_signed, IsTrue, value?]
  cases a l.id with
  | none => simp
  | some v => cases v <;> cases l.negated <;> simp

theorem value?_eq_false :
    l.value? a = some false ↔ (a l.id).isSome = true ∧ ¬ Asserts a l.signed := by
  rw [← value?_eq_true, value?]
  cases a l.id <;> simp

theorem value?_within {b : Nat → Option Bool} (within : Within a b) {v : Bool}
    (decided : l.value? a = some v) : l.value? b = some v := by
  obtain ⟨w, value, rfl⟩ := Option.map_eq_some_iff.mp decided
  rw [value?, within l.id w value, Option.map_some]

end Literal

namespace Clause

def Covers (a : Nat → Option Bool) (c : Clause) : Prop :=
  ∀ l ∈ c.literals, (a l.id).isSome = true

/-- The first literal whose variable has no value, with no true literal before it. -/
inductive Blocked (a : Nat → Option Bool) : List Literal → Nat → Prop
  | stands {front back : List Literal} {l : Literal}
      (valued : ∀ m ∈ front, (a m.id).isSome = true)
      (untrue : ∀ m ∈ front, ¬ Asserts a m.signed)
      (missing : a l.id = none) : Blocked a (front ++ l :: back) l.id

structure Evaluates (c : Clause) : Prop where
  monotone : ∀ a b, Within a b → ∀ v, c.evaluate a = .ok v → c.evaluate b = .ok v
  undecided : ∀ a id, c.evaluate a = .error id ↔ Blocked a c.literals id
  disjunction : ∀ a, Covers a c → c.evaluate a = .ok (c.signed.any fun k => decide (Asserts a k))
  /-- Neither the order of the literals nor their repetition matters. -/
  unordered : ∀ a, Covers a c → ∀ d : Clause, (∀ k, k ∈ d.signed ↔ k ∈ c.signed) →
    d.evaluate a = c.evaluate a
  opposed : ∀ a, Covers a c → ∀ k, k ∈ c.signed → -k ∈ c.signed → c.evaluate a = .ok true

section

variable {a : Nat → Option Bool}

theorem evaluateFrom_within {b : Nat → Option Bool} (within : Within a b) {ls : List Literal}
    {v : Bool} (decided : evaluateFrom a ls = .ok v) : evaluateFrom b ls = .ok v := by
  induction ls with
  | nil => exact decided
  | cons l ls ih =>
      rw [evaluateFrom] at decided
      cases value : l.value? a with
      | none =>
          rw [value] at decided
          cases decided
      | some w =>
          rw [value] at decided
          rw [evaluateFrom, Literal.value?_within within value]
          cases w with
          | true => exact decided
          | false => exact ih decided

theorem evaluateFrom_append_of_false {front : List Literal}
    (passed : ∀ m ∈ front, m.value? a = some false) (rest : List Literal) :
    evaluateFrom a (front ++ rest) = evaluateFrom a rest := by
  induction front with
  | nil => rfl
  | cons m front ih =>
      rw [List.cons_append, evaluateFrom, passed m List.mem_cons_self]
      exact ih fun n member => passed n (List.mem_cons_of_mem _ member)

theorem evaluateFrom_of_blocked {ls : List Literal} {id : Nat} (blocked : Blocked a ls id) :
    evaluateFrom a ls = .error id := by
  cases blocked with
  | stands valued untrue missing =>
      have passed := fun m member =>
        Literal.value?_eq_false.mpr ⟨valued m member, untrue m member⟩
      rw [evaluateFrom_append_of_false passed, evaluateFrom, Literal.value?_eq_none.mpr missing]

theorem blocked_of_evaluateFrom {ls : List Literal} {id : Nat}
    (undecided : evaluateFrom a ls = .error id) : Blocked a ls id := by
  induction ls with
  | nil => cases undecided
  | cons l ls ih =>
      rw [evaluateFrom] at undecided
      cases value : l.value? a with
      | none =>
          rw [value] at undecided
          cases undecided
          have first : Blocked a ([] ++ l :: ls) l.id :=
            .stands (List.forall_mem_nil _) (List.forall_mem_nil _) (Literal.value?_eq_none.mp value)
          exact first
      | some w =>
          rw [value] at undecided
          cases w with
          | true => cases undecided
          | false =>
              obtain ⟨valued, untrue⟩ := Literal.value?_eq_false.mp value
              cases ih undecided with
              | @stands front back m rest below missing =>
                  have later : Blocked a (l :: front ++ m :: back) m.id :=
                    .stands (List.forall_mem_cons.mpr ⟨valued, rest⟩)
                      (List.forall_mem_cons.mpr ⟨untrue, below⟩) missing
                  exact later

theorem evaluate_of_covers {c : Clause} (covers : Covers a c) :
    c.evaluate a = .ok (c.signed.any fun k => decide (Asserts a k)) := by
  have total : ∀ l ∈ c.literals, a l.id = some (Literal.valuesOf a l.id) := by
    intro l member
    obtain ⟨v, value⟩ := Option.isSome_iff_exists.mp (covers l member)
    rw [Literal.valuesOf, value, Option.getD_some]
  have each : ∀ l ∈ c.literals,
      (Literal.valuesOf a l.id != l.negated) = true ↔ decide (Asserts a l.signed) = true := by
    intro l member
    rw [decide_eq_true_iff, Literal.asserts_signed, Literal.isTrue_iff (covers l member),
      Literal.truth]
  rw [evaluate, evaluateFrom_of_total total, signed, List.any_map, Except.ok.injEq,
    Bool.eq_iff_iff, List.any_eq_true, List.any_eq_true]
  exact exists_congr fun l => and_congr_right (each l)

theorem covers_of_signed {c d : Clause} (covers : Covers a c)
    (same : ∀ k, k ∈ d.signed ↔ k ∈ c.signed) : Covers a d := by
  intro l member
  obtain ⟨m, inside, equal⟩ := List.mem_map.mp ((same _).mp (List.mem_map_of_mem member))
  have id : m.id = l.id := by rw [← m.natAbs_signed, equal, l.natAbs_signed]
  rw [← id]
  exact covers m inside

theorem asserts_or_neg {c : Clause} (covers : Covers a c) {k : Int} (member : k ∈ c.signed) :
    Asserts a k ∨ Asserts a (-k) := by
  obtain ⟨l, inside, rfl⟩ := List.mem_map.mp member
  obtain ⟨v, value⟩ := Option.isSome_iff_exists.mp (covers l inside)
  rw [← l.signed_negate, Literal.asserts_signed, Literal.asserts_signed, Literal.IsTrue,
    Literal.IsTrue, Literal.negate, value]
  cases v <;> cases l.negated <;> simp

end

theorem evaluates (c : Clause) : Evaluates c := by
  constructor
  case monotone => exact fun a b within v decided => evaluateFrom_within within decided
  case undecided => exact fun a id => ⟨blocked_of_evaluateFrom, evaluateFrom_of_blocked⟩
  case disjunction => exact fun a covers => evaluate_of_covers covers
  case unordered =>
    intro a covers d same
    rw [evaluate_of_covers covers, evaluate_of_covers (covers_of_signed covers same),
      Except.ok.injEq, Bool.eq_iff_iff, List.any_eq_true, List.any_eq_true]
    exact exists_congr fun k => and_congr_left' (same k)
  case opposed =>
    intro a covers k positive negative
    rw [evaluate_of_covers covers, Except.ok.injEq, List.any_eq_true]
    rcases asserts_or_neg covers positive with holds | holds
    · exact ⟨k, positive, decide_eq_true holds⟩
    · exact ⟨-k, negative, decide_eq_true holds⟩

end Clause

end SatClient
