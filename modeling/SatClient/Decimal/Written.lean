import SatClient.Decimal.Shortest
/-!
The text of a number. The shortest digits are written positionally from `10 ^ -4` up to below
`10 ^ 16`, always with a point, and with a signed exponent of two digits or more elsewhere.
-/

namespace SatClient.Decimal

def zeros (n : Nat) : List Char := List.replicate n '0'

def Digits.positional (d : Digits) : List Char :=
  if d.point ≤ 0 then '0' :: '.' :: (zeros (-d.point).toNat ++ d.digits)
  else
    let whole := d.point.toNat
    if d.digits.length ≤ whole then d.digits ++ zeros (whole - d.digits.length) ++ ['.', '0']
    else d.digits.take whole ++ '.' :: d.digits.drop whole

def exponentText (exponent : Int) : List Char :=
  let digits := Nat.toDigits 10 exponent.natAbs
  (if exponent < 0 then '-' else '+') :: (zeros (2 - digits.length) ++ digits)

def Digits.scientific (d : Digits) : List Char :=
  d.digits.take 1 ++ (if d.digits.length ≤ 1 then [] else '.' :: d.digits.drop 1) ++
    'e' :: exponentText (d.point - 1)

def Digits.written (d : Digits) : List Char :=
  if -4 < d.point && d.point ≤ 16 then d.positional else d.scientific

namespace Binary64

def sign (negative : Bool) : String := if negative then "-" else ""

def text : Binary64 → String
  | .nan => "nan"
  | .infinity negative => sign negative ++ "inf"
  | .finite negative 0 _ => sign negative ++ "0.0"
  | .finite negative significand exponent =>
    sign negative ++ String.ofList (shortest significand exponent).written

def fixed (places : Nat) : Binary64 → String
  | .finite negative significand exponent =>
    let (num, den) := scale 2 significand 1 exponent
    let digits := Nat.toDigits 10 (roundDiv (num * Nat.pow 10 places) den)
    let padded := zeros (places + 1 - digits.length) ++ digits
    let whole := padded.length - places
    sign negative ++ String.ofList (padded.take whole) ++ "." ++ String.ofList (padded.drop whole)
  | x => x.text

end Binary64

/-- A span of time as its giver wrote it: an integer or a number with a point. -/
inductive Seconds
  | whole (n : Int)
  | fraction (x : Binary64)
  deriving DecidableEq, Repr

namespace Seconds

def zero : Seconds := .fraction .zero

def text : Seconds → String
  | .whole n => toString n
  | .fraction x => x.text

def fixed (places : Nat) : Seconds → String
  | .whole n => (Binary64.ofInt n).fixed places
  | .fraction x => x.fixed places

end Seconds

end SatClient.Decimal
