import SatClient.Decimal.Binary64
/-!
The fewest decimal digits that read back as a number. For each count of digits the number has two
neighbours on the grid of that many digits; the first grid with a neighbour that rounds to the
number wins, of two such neighbours the nearer one, and a tie goes to the even one.
-/

namespace SatClient.Decimal

/-- The number `0.digits * 10 ^ point`, without a zero at either end. -/
structure Digits where
  digits : List Char
  point : Int
  deriving DecidableEq, Repr

/-- The least `point` with `num / den < 10 ^ point`. -/
def pointOf (num den : Nat) : Int :=
  if den ≤ num then (Nat.toDigits 10 (num / den)).length
  else
    match (List.range 400).find? (fun zeros => den ≤ num * Nat.pow 10 (zeros + 1)) with
    | some zeros => -(zeros : Int)
    | none => -400

/-- The reals that round to `significand * 2 ^ exponent`, in quarters of that power of two: the
lower end, the number and the upper end. -/
def quarters (significand : Nat) (exponent : Int) : Nat × Nat × Nat :=
  let down :=
    if significand = Binary64.fullSignificand && Binary64.leastExponent < exponent then 1 else 2
  (4 * significand - down, 4 * significand, 4 * significand + 2)

def neighbour? (significand : Nat) (exponent point : Int) (count : Nat) : Option Nat :=
  let (low, value, high) := quarters significand exponent
  let (a, b) := scale 2 1 1 (exponent - 2)
  let (a, b) := scale 10 a b (count - point)
  let inside (x : Nat) : Bool :=
    if significand % 2 = 0 then low * a ≤ x * b && x * b ≤ high * a
    else low * a < x * b && x * b < high * a
  let below := value * a / b
  let above := below + 1
  match inside below, inside above with
  | true, false => some below
  | false, true => some above
  | false, false => none
  | true, true =>
    let toBelow := value * a - below * b
    let toAbove := above * b - value * a
    if toBelow < toAbove then some below
    else if toAbove < toBelow then some above
    else if below % 2 = 0 then some below
    else some above

def stripZeros (cs : List Char) : List Char :=
  (cs.reverse.dropWhile (· = '0')).reverse

def shortest (significand : Nat) (exponent : Int) : Digits :=
  let (num, den) := scale 2 significand 1 exponent
  let point := pointOf num den
  match (List.range 17).findSome? fun i =>
      (neighbour? significand exponent point (i + 1)).map fun n => (i + 1, n) with
  | some (count, n) =>
    let written := Nat.toDigits 10 n
    ⟨stripZeros written, point + written.length - count⟩
  | none => ⟨['0'], 1⟩

end SatClient.Decimal
