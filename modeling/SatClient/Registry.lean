import SatClient.Clause
import SatClient.Table
/-!
Registries allocate variables and keep the values that a solver gave them. Ids are consecutive from
one; a value is recorded only for an allocated id, and a reset starts again at one.
-/

namespace SatClient

structure Registry where
  id : RegistryId
  nextId : Nat := 1
  allocated : List Literal := []
  results : Table Nat Bool := {}
  nextId_pos : 0 < nextId := by exact Nat.one_pos

namespace Registry

/-- The number of variables allocated so far, which is also the last id. -/
def count (r : Registry) : Nat :=
  r.nextId - 1

def fresh (r : Registry) : Literal :=
  ⟨r.nextId, false, some r.id, r.nextId_pos⟩

def create (r : Registry) : Registry × Literal :=
  ({ r with
      nextId := r.nextId + 1
      allocated := r.allocated ++ [r.fresh]
      nextId_pos := Nat.succ_pos r.nextId }, r.fresh)

def createMany : Nat → Registry → Registry × List Literal
  | 0, r => (r, [])
  | n + 1, r =>
    let (r, l) := r.create
    let (r, ls) := createMany n r
    (r, l :: ls)

def createBlock (r : Registry) (size : Int) : Except Failure (Registry × List Literal) :=
  if size < 0 then .error (.negativeCount size) else .ok (createMany size.toNat r)

def find? (r : Registry) (id : Int) : Option Literal :=
  r.allocated.find? fun l => (l.id : Int) == id

def get (r : Registry) (id : Int) : Except Failure Literal :=
  match r.find? id with
  | some l => .ok l
  | none => .error (.neverAllocated id)

def record (r : Registry) (id : Int) (value : Bool) : Except Failure Registry :=
  match r.find? id with
  | some l => .ok { r with results := r.results.put l.id value }
  | none => .error (.assignedUnknown id)

def recordAll (r : Registry) : List (Nat × Bool) → Except Failure Registry
  | [] => .ok r
  | (id, value) :: pairs =>
    match r.record id value with
    | .ok r => recordAll r pairs
    | .error failure => .error failure

def hasResult (r : Registry) (l : Literal) : Bool :=
  r.results.contains l.id

def result (r : Registry) (l : Literal) : Except Failure Bool :=
  match r.results.get? l.id with
  | some value => .ok value
  | none => .error (.noResult l.id)

def clearResults (r : Registry) : Registry :=
  { r with results := {} }

def reset (r : Registry) : Registry :=
  { id := r.id }

theorem count_add_one (r : Registry) : r.count + 1 = r.nextId :=
  Nat.succ_pred_eq_of_pos r.nextId_pos

theorem count_create (r : Registry) : r.create.1.count = r.count + 1 :=
  (count_add_one r).symm

end Registry

end SatClient
