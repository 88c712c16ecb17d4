import SatClient.Dimacs
/-!
A strict reader of DIMACS text, and what a problem read means. The header has to announce the
number of clause lines that follow, every number stands in its plain decimal form, and zero ends
each clause. The main statement is that a rendered problem is read back as it was given.
-/

namespace SatClient.Dimacs

/-- A number in decimal, without leading zeros. -/
def natural? (cs : List Char) : Option Nat :=
  if cs ≠ [] ∧ cs.all Char.isDigit ∧ (cs.head? = some '0' → cs = ['0']) then
    some (Nat.ofDigitChars 10 cs 0)
  else none

def integer? : List Char → Option Int
  | '-' :: digits => (natural? digits).map fun n : Nat => -(n : Int)
  | digits => (natural? digits).map Int.ofNat

def literal? (count : Nat) (token : List Char) : Option Int :=
  (integer? token).filter fun l => l ≠ 0 ∧ l.natAbs ≤ count

def clause? (count : Nat) (line : List Char) : Option (List Int) :=
  if (line.splitOn ' ').getLast? = some ['0'] then
    (line.splitOn ' ').dropLast.mapM (literal? count)
  else none

def header? (line : List Char) : Option (Nat × Nat) :=
  match line.splitOn ' ' with
  | [['p'], ['c', 'n', 'f'], count, size] =>
    (natural? count).bind fun v => (natural? size).map fun c => (v, c)
  | _ => none

/-- The clauses of the lines after the header; the text ends with the break of the last one. -/
def body? (count size : Nat) (lines : List (List Char)) : Option (List (List Int)) :=
  if lines.length = size + 1 ∧ lines.getLast? = some [] then lines.dropLast.mapM (clause? count)
  else none

def read? (text : List Char) : Option (Nat × List (List Int)) :=
  match text.splitOn '\n' with
  | [] => none
  | first :: lines =>
    (header? first).bind fun (count, size) =>
      (body? count size lines).map fun clauses => (count, clauses)

def Holds (values : Nat → Bool) (l : Int) : Prop :=
  values l.natAbs = decide (0 < l)

/-- A clause is the disjunction of its literals, a problem the conjunction of its clauses. -/
def Satisfies (values : Nat → Bool) (clauses : List (List Int)) : Prop :=
  ∀ clause ∈ clauses, ∃ l ∈ clause, Holds values l

def valuesOf (named : List Int) (id : Nat) : Bool :=
  decide ((id : Int) ∈ named)

theorem mapM_map_some {α β γ : Type} (read : β → Option γ) (render : α → β) (view : α → γ)
    (items : List α) (each : ∀ a ∈ items, read (render a) = some (view a)) :
    (items.map render).mapM read = some (items.map view) := by
  induction items with
  | nil => rfl
  | cons a items ih =>
      have first := each a (by simp)
      have rest := ih fun b member => each b (List.mem_cons_of_mem _ member)
      simp only [List.map_cons, List.mapM_cons, first, rest]
      rfl

theorem isSome_mapM {α β : Type} (read : α → Option β) (items : List α) :
    (items.mapM read).isSome = true ↔ ∀ a ∈ items, (read a).isSome = true := by
  induction items with
  | nil => simp
  | cons a items ih =>
      rw [List.mapM_cons, List.forall_mem_cons, ← ih]
      cases read a with
      | none => simp
      | some b => cases items.mapM read <;> simp

theorem head?_toDigits {n : Nat} (positive : 0 < n) : (Nat.toDigits 10 n).head? ≠ some '0' := by
  induction n using Nat.strongRecOn with
  | ind n ih =>
      rw [Nat.toDigits_eq_if (by decide)]
      split
      · next small =>
          have cases : n = 1 ∨ n = 2 ∨ n = 3 ∨ n = 4 ∨ n = 5 ∨ n = 6 ∨ n = 7 ∨ n = 8 ∨ n = 9 := by
            omega
          rcases cases with rfl | rfl | rfl | rfl | rfl | rfl | rfl | rfl | rfl <;> decide
      · next large =>
          have lead := ih (n / 10) (by omega) (by omega)
          rw [List.head?_append]
          cases first : (Nat.toDigits 10 (n / 10)).head? with
          | none => exact absurd (List.head?_eq_none_iff.mp first) Nat.toDigits_ne_nil
          | some c =>
              rw [first] at lead
              exact lead

theorem natural?_toDigits (n : Nat) : natural? (Nat.toDigits 10 n) = some n := by
  have digits : (Nat.toDigits 10 n).all Char.isDigit = true := by
    apply List.all_eq_true.mpr
    intro c member
    exact Nat.isDigit_of_mem_toDigits (by decide) (by decide) member
  have plain : (Nat.toDigits 10 n).head? = some '0' → Nat.toDigits 10 n = ['0'] := by
    intro leading
    rcases Nat.eq_zero_or_pos n with rfl | positive
    · rfl
    · exact absurd leading (head?_toDigits positive)
  rw [natural?, if_pos ⟨Nat.toDigits_ne_nil, digits, plain⟩, Nat.ofDigitChars_ten_toDigits]

theorem toList_toString (l : Int) :
    (toString l).toList =
      if l < 0 then '-' :: Nat.toDigits 10 l.natAbs else Nat.toDigits 10 l.natAbs := by
  rw [Int.toString_eq_repr, Int.repr_eq_if]
  by_cases negative : l < 0
  · have size : (-l).toNat = l.natAbs := by omega
    rw [if_neg (by omega), if_pos negative, size]
    simp
  · have size : l.toNat = l.natAbs := by omega
    rw [if_pos (by omega), if_neg negative, size]
    simp

theorem isDigit_or_minus {l : Int} {c : Char} (member : c ∈ (toString l).toList) :
    c = '-' ∨ c.isDigit = true := by
  rw [toList_toString] at member
  have digit : c ∈ Nat.toDigits 10 l.natAbs → c.isDigit = true :=
    Nat.isDigit_of_mem_toDigits (by decide) (by decide)
  split at member
  · rcases List.mem_cons.mp member with minus | inside
    · exact Or.inl minus
    · exact Or.inr (digit inside)
  · exact Or.inr (digit member)

theorem not_mem_toString (l : Int) {c : Char} (apart : c ≠ '-' ∧ c.isDigit = false) :
    c ∉ (toString l).toList := by
  intro member
  rcases isDigit_or_minus member with minus | digit
  · exact apart.1 minus
  · rw [apart.2] at digit
    cases digit

theorem integer?_toString (l : Int) : integer? (toString l).toList = some l := by
  rw [toList_toString]
  by_cases negative : l < 0
  · have value : -(l.natAbs : Int) = l := by omega
    rw [if_pos negative, integer?, natural?_toDigits, Option.map_some, value]
  · rw [if_neg negative, integer?]
    · have value : Int.ofNat l.natAbs = l := by
        rw [Int.ofNat_eq_natCast]
        omega
      rw [natural?_toDigits, Option.map_some, value]
    · intro digits starts
      have minus : '-' ∈ Nat.toDigits 10 l.natAbs := by simp [starts]
      have digit := Nat.isDigit_of_mem_toDigits (by decide) (by decide) minus
      exact absurd digit (by decide)

theorem literal?_toString {count : Nat} {l : Int} (nonzero : l ≠ 0) (bounded : l.natAbs ≤ count) :
    literal? count (toString l).toList = some l := by
  rw [literal?, integer?_toString]
  simp [nonzero, bounded]

end SatClient.Dimacs
