import SatClient.Failure
/-!
Variables as they stand in clauses: a positive id, a sign, and the registry that allocated the id,
if one did. A variable and its negation share the id and with it the result.
-/

namespace SatClient

structure RegistryId where
  index : Nat
  deriving DecidableEq, Repr

structure Literal where
  id : Nat
  negated : Bool := false
  registry : Option RegistryId := none
  id_pos : 0 < id
  deriving DecidableEq

namespace Literal

/-- A literal of any positive id, whether or not some registry allocated it. -/
def ofId (id : Int) (negated : Bool) (registry : Option RegistryId) : Except Failure Literal :=
  if positive : 0 < id then .ok ⟨id.toNat, negated, registry, by omega⟩
  else .error (.nonPositiveId id)

def negate (l : Literal) : Literal :=
  { l with negated := !l.negated }

def signed (l : Literal) : Int :=
  if l.negated then -(l.id : Int) else l.id

def text (l : Literal) : String :=
  toString l.signed

def shown (l : Literal) : String :=
  "Variable(" ++ l.text ++ ")"

def sameVariable (l m : Literal) : Bool :=
  l.id == m.id

def hashModulus : Nat := 0x1FFFFFFFFFFFFFFF

def hashKey (l : Literal) : Nat :=
  l.id % hashModulus

def value? (assignment : Nat → Option Bool) (l : Literal) : Option Bool :=
  (assignment l.id).map (· != l.negated)

theorem negate_negate (l : Literal) : l.negate.negate = l := by
  simp [negate]

theorem signed_negate (l : Literal) : l.negate.signed = -l.signed := by
  cases h : l.negated <;> simp [signed, negate, h]

theorem natAbs_signed (l : Literal) : l.signed.natAbs = l.id := by
  cases h : l.negated <;> simp [signed, h]

theorem signed_ne_zero (l : Literal) : l.signed ≠ 0 := by
  have := l.id_pos
  have := l.natAbs_signed
  omega

end Literal

end SatClient
