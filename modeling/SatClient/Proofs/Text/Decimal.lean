import Mathlib.Data.List.Basic
import Mathlib.Tactic.Ring
import SatClient.Text.Digit
/-!
Decimal digits of all scripts and what runs of them write, which is less than the power of ten of
their length. The plain digits have the values that decimal text gives them.
-/

namespace SatClient.Text

theorem exists_of_digitValue? {c : Char} {n : Nat} (value : digitValue? c = some n) :
    ∃ first ∈ digitZeros, first ≤ c.toNat ∧ c.toNat < first + 10 ∧ n = c.toNat - first := by
  obtain ⟨first, member, found⟩ := List.exists_of_findSome?_eq_some value
  split at found
  · next inside =>
      simp only [Bool.and_eq_true, decide_eq_true_eq] at inside
      cases found
      exact ⟨first, member, inside.1, inside.2, rfl⟩
  · cases found

theorem lt_of_digitValue? {c : Char} {n : Nat} (value : digitValue? c = some n) : n < 10 := by
  obtain ⟨first, _, low, high, rfl⟩ := exists_of_digitValue? value
  omega

theorem foldl_digits (n : Nat) (cs : List Char) :
    cs.foldl (fun n c => 10 * n + (digitValue? c).getD 0) n =
      n * 10 ^ cs.length + digitsValue cs := by
  induction cs generalizing n with
  | nil => simp [digitsValue]
  | cons c cs ih =>
      rw [digitsValue, List.foldl_cons, List.foldl_cons, ih, ih (10 * 0 + _), List.length_cons]
      ring

theorem digitsValue_cons (c : Char) (cs : List Char) :
    digitsValue (c :: cs) = (digitValue? c).getD 0 * 10 ^ cs.length + digitsValue cs := by
  rw [digitsValue, List.foldl_cons, foldl_digits, Nat.mul_zero, Nat.zero_add]

theorem digitsValue_lt (cs : List Char) : digitsValue cs < 10 ^ cs.length := by
  induction cs with
  | nil => exact one_pos
  | cons c cs ih =>
      have digit : (digitValue? c).getD 0 < 10 := by
        cases value : digitValue? c with
        | none => decide
        | some n => exact lt_of_digitValue? value
      calc digitsValue (c :: cs) = (digitValue? c).getD 0 * 10 ^ cs.length + digitsValue cs :=
            digitsValue_cons c cs
        _ < (digitValue? c).getD 0 * 10 ^ cs.length + 10 ^ cs.length := Nat.add_lt_add_left ih _
        _ = ((digitValue? c).getD 0 + 1) * 10 ^ cs.length := (Nat.succ_mul _ _).symm
        _ ≤ 10 * 10 ^ cs.length := Nat.mul_le_mul_right _ digit
        _ = 10 ^ (cs.length + 1) := (pow_succ' 10 cs.length).symm

theorem digitValue?_of_plain {c : Char} (plain : c.isDigit = true) :
    digitValue? c = some (c.toNat - '0'.toNat) := by
  have range : '0'.toNat ≤ c.toNat ∧ c.toNat ≤ '9'.toNat := Char.isDigit_iff_toNat.mp plain
  have low : 0x30 ≤ c.toNat := range.1
  have high : c.toNat < 0x30 + 10 := Nat.lt_succ_of_le range.2
  rw [digitValue?, digitZeros, List.findSome?_cons]
  simp [low, high]

theorem isDigit_of_plain {c : Char} (plain : c.isDigit = true) : isDigit c = true := by
  rw [isDigit, digitValue?_of_plain plain]
  rfl

theorem digitsValue_of_plain {cs : List Char} (plain : ∀ c ∈ cs, c.isDigit = true) :
    digitsValue cs = Nat.ofDigitChars 10 cs 0 := by
  rw [digitsValue, Nat.ofDigitChars_eq_foldl]
  apply List.foldl_ext
  intro n c member
  rw [digitValue?_of_plain (plain c member), Option.getD_some]

theorem plain_of_mem_toDigits {n : Nat} {c : Char} (member : c ∈ Nat.toDigits 10 n) :
    c.isDigit = true :=
  Nat.isDigit_of_mem_toDigits (by decide) (by decide) member

end SatClient.Text
