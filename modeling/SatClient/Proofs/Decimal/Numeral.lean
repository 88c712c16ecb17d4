import Mathlib.Data.Nat.Log
import SatClient.Decimal.Reading
import SatClient.Proofs.Decimal.Rounding
/-!
Numerals in free text. A numeral has a sign, digits with at most one point, and an exponent, or it
is a name; it stands for an exact number, which is rounded once. Among numerals only those without
a minus are positive, and of these the ones that do not vanish when they are rounded.
-/

namespace SatClient.Decimal

open SatClient.Text

/-- A run of digits of any script, with its digits. Single low lines stand between two digits, so
one comes first only behind a digit. -/
inductive DigitRun : Bool → List Char → List Char → Prop
  | done {behind : Bool} : DigitRun behind [] []
  | digit {behind : Bool} {c : Char} {cs ds : List Char} (digit : isDigit c = true)
      (more : DigitRun true cs ds) : DigitRun behind (c :: cs) (c :: ds)
  | grouped {c : Char} {cs ds : List Char} (digit : isDigit c = true)
      (more : DigitRun true cs ds) : DigitRun true ('_' :: c :: cs) (c :: ds)

inductive Sign : List Char → Bool → Prop
  | none : Sign [] false
  | plus : Sign ['+'] false
  | minus : Sign ['-'] true

/-- Digits without a point, or a point with digits on one side at least: the digits before it and
those behind it. -/
inductive Fixed : List Char → List Char → List Char → Prop
  | whole {cs whole : List Char} (digits : DigitRun false cs whole) (some : whole ≠ []) :
      Fixed cs whole []
  | pointed {cs ds whole fraction : List Char} (before : DigitRun false cs whole)
      (behind : DigitRun false ds fraction) (some : whole ≠ [] ∨ fraction ≠ []) :
      Fixed (cs ++ '.' :: ds) whole fraction

inductive Power : List Char → Int → Prop
  | none : Power [] 0
  | some {mark : Char} {s cs ds : List Char} {negative : Bool} (marked : mark = 'e' ∨ mark = 'E')
      (sign : Sign s negative) (digits : DigitRun false cs ds) (some : ds ≠ []) :
      Power (mark :: (s ++ cs)) (if negative then -(digitsValue ds : Int) else digitsValue ds)

/-- What a numeral stands for: no number, an infinity, or `digits * 10 ^ exponent`. -/
inductive Meaning
  | nan
  | infinity (negative : Bool)
  | scaled (negative : Bool) (digits : Nat) (exponent : Int)

/-- A numeral and what it stands for. Names count in any case. -/
inductive Numeral : List Char → Meaning → Prop
  | nan {s name : List Char} {negative : Bool} (sign : Sign s negative)
      (named : name.map asciiLower = ['n', 'a', 'n']) : Numeral (s ++ name) .nan
  | infinity {s name : List Char} {negative : Bool} (sign : Sign s negative)
      (named : name.map asciiLower = ['i', 'n', 'f'] ∨
        name.map asciiLower = ['i', 'n', 'f', 'i', 'n', 'i', 't', 'y']) :
      Numeral (s ++ name) (.infinity negative)
  | scaled {s cs es whole fraction : List Char} {negative : Bool} {exponent : Int}
      (sign : Sign s negative) (fixed : Fixed cs whole fraction) (power : Power es exponent) :
      Numeral (s ++ (cs ++ es))
        (.scaled negative (digitsValue (whole ++ fraction)) (exponent - fraction.length))

/-- Whether a text is a numeral with nothing but white space around it. The information separators
are no white space. -/
inductive Spells : List Char → Meaning → Prop
  | surrounded {before cs after : List Char} {m : Meaning}
      (front : ∀ c ∈ before, isWhiteSpace c = true) (numeral : Numeral cs m)
      (back : ∀ c ∈ after, isWhiteSpace c = true) : Spells (before ++ (cs ++ after)) m

namespace Meaning

def nearest : Meaning → Binary64
  | .nan => .nan
  | .infinity negative => .infinity negative
  | .scaled negative digits exponent =>
    .ofDecimal negative digits (Nat.log 10 digits + 1) exponent

/-- Whether a numeral stands for something positive. Up to half of the least positive number it is
the numeral of a zero, and one that overflows is the numeral of an infinity. -/
def IsPositive : Meaning → Prop
  | .nan => False
  | .infinity negative => negative = false
  | .scaled negative digits exponent =>
    negative = false ∧ Binary64.halfLeast < digits * 10 ^ exponent

end Meaning

namespace Binary64

theorem hasDigits_log (digits : Nat) : HasDigits digits (Nat.log 10 digits + 1) := by
  constructor
  · exact Nat.lt_pow_succ_log_self (by decide) digits
  · intro nonzero
    rw [pow_succ']
    exact Nat.mul_le_mul_left 10 (Nat.pow_log_le_self 10 nonzero)

theorem ofDecimal_of_hasDigits {digits length : Nat} (long : HasDigits digits length)
    (negative : Bool) (exponent : Int) :
    ofDecimal negative digits length exponent =
      (Meaning.scaled negative digits exponent).nearest := by
  by_cases zero : digits = 0
  · simp [Meaning.nearest, ofDecimal, zero]
  · cases length with
    | zero => exact absurd (Nat.lt_one_iff.mp long.1) zero
    | succ n =>
        have lower : 10 ^ n ≤ digits := by
          have tenfold := long.2 zero
          rw [pow_succ'] at tenfold
          exact Nat.le_of_mul_le_mul_left tenfold (by decide)
        rw [Meaning.nearest, Nat.log_eq_of_pow_le_of_lt_pow lower long.1]

end Binary64

theorem isPositive_nearest (m : Meaning) : m.nearest.isPositive = true ↔ m.IsPositive := by
  cases m with
  | nan => exact iff_of_false Bool.false_ne_true id
  | infinity negative => simp [Meaning.nearest, Meaning.IsPositive, Binary64.isPositive]
  | scaled negative digits exponent =>
      cases negative with
      | false =>
          rw [Meaning.nearest, Binary64.isPositive_ofDecimal (Binary64.hasDigits_log digits)]
          exact (and_iff_right rfl).symm
      | true =>
          rw [Meaning.nearest, Binary64.isPositive_ofDecimal_minus]
          exact iff_of_false Bool.false_ne_true fun positive => absurd positive.1.symm Bool.false_ne_true

end SatClient.Decimal
