/-!
Binary floating-point numbers of 64 bits, held exactly. A finite number is a significand below
`2 ^ 53` times a power of two not below `2 ^ -1074`; a ratio is rounded once, to the nearest such
number, and a tie goes to the even significand.
-/

namespace SatClient.Decimal

inductive Binary64
  | nan
  | infinity (negative : Bool)
  | finite (negative : Bool) (significand : Nat) (exponent : Int)
  deriving DecidableEq, Repr

/-- The quotient rounded to the nearest integer, a tie to the even one. -/
def roundDiv (num den : Nat) : Nat :=
  let floor := num / den
  let rest := num % den
  if 2 * rest < den then floor
  else if den < 2 * rest then floor + 1
  else if floor % 2 = 0 then floor
  else floor + 1

def scale (base num den : Nat) (exponent : Int) : Nat × Nat :=
  if 0 ≤ exponent then (num * base.pow exponent.toNat, den)
  else (num, den * base.pow (-exponent).toNat)

namespace Binary64

def fullSignificand : Nat := 0x10000000000000

def leastExponent : Int := -1074
def greatestExponent : Int := 971

def zero : Binary64 := .finite false 0 leastExponent

def pack (negative : Bool) (significand : Nat) (exponent : Int) : Binary64 :=
  if greatestExponent < exponent then .infinity negative
  else .finite negative significand exponent

/-- The power of two whose multiples are the candidates next to a ratio. -/
def exponentFor (num den : Nat) : Int :=
  let estimate : Int := (num.log2 : Int) - den.log2 - 52
  let (n, d) := scale 2 num den (-estimate)
  max leastExponent (if n < d * fullSignificand then estimate - 1 else estimate)

def ofRatio (negative : Bool) (num den : Nat) : Binary64 :=
  if num = 0 then .finite negative 0 leastExponent
  else
    let exponent := exponentFor num den
    let (n, d) := scale 2 num den (-exponent)
    let significand := roundDiv n d
    if significand = 2 * fullSignificand then pack negative fullSignificand (exponent + 1)
    else pack negative significand exponent

def ofInt (n : Int) : Binary64 :=
  ofRatio (n < 0) n.natAbs 1

def ofRat (r : Rat) : Binary64 :=
  ofRatio (r.num < 0) r.num.natAbs r.den

/-- The number nearest to `digits * 10 ^ exponent`, where `digits` has `length` decimal digits. -/
def ofDecimal (negative : Bool) (digits length : Nat) (exponent : Int) : Binary64 :=
  if digits = 0 then .finite negative 0 leastExponent
  else if 310 < length + exponent then .infinity negative
  else if length + exponent < -330 then .finite negative 0 leastExponent
  else
    let (n, d) := scale 10 digits 1 exponent
    ofRatio negative n d

def isPositive : Binary64 → Bool
  | .infinity negative => !negative
  | .finite negative significand _ => !negative && significand != 0
  | .nan => false

def isFinite : Binary64 → Bool
  | .finite .. => true
  | _ => false

def integer? : Binary64 → Option Int
  | .finite negative significand exponent =>
    let (n, d) := scale 2 significand 1 exponent
    if n % d = 0 then some (if negative then -(n / d : Nat) else (n / d : Nat)) else none
  | _ => none

def signBit : Nat := 0x8000000000000000
def infinityBits : Nat := 0x7FF0000000000000
def nanBits : Nat := 0x7FF8000000000000

/-- The interchange bits; every NaN has those of the quiet one. -/
def bits : Binary64 → Nat
  | .nan => nanBits
  | .infinity negative => negative.toNat * signBit + infinityBits
  | .finite negative significand exponent =>
    let magnitude :=
      if significand < fullSignificand then significand
      else (exponent + 1075).toNat * fullSignificand + (significand - fullSignificand)
    negative.toNat * signBit + magnitude

end Binary64

end SatClient.Decimal
