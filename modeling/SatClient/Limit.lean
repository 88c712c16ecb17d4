import SatClient.Decimal.Written
/-!
Time limits on the wait for a process. A wait is bounded by a count of milliseconds, so a limit
beyond the longest wait cannot be used; one that is not positive is over before the process can
answer.
-/

namespace SatClient

open SatClient.Decimal

inductive LimitFault
  | notNumber
  | unbounded
  | beyondNumbers
  | beyondClock
  | beyondWait
  deriving DecidableEq, Repr

def LimitFault.message : LimitFault → String
  | notNumber => "cannot convert float NaN to integer"
  | unbounded => "cannot convert float infinity to integer"
  | beyondNumbers => "int too large to convert to float"
  | beyondClock => "timestamp too large to convert to C _PyTime_t"
  | beyondWait => "timeout is too large"

namespace Limit

/-- The longest wait and the longest span of the clock, in milliseconds. -/
def longestWait : Nat := 2147483647
def longestSpan : Nat := 9223372036854

def checkWait (num den : Nat) : Except LimitFault Unit :=
  if !(Binary64.ofRatio false num den).isFinite then .error .unbounded
  else if den * longestSpan < num then .error .beyondClock
  else if den * longestWait < num then .error .beyondWait
  else .ok ()

def leavesTime : Binary64 → Except LimitFault Bool
  | .nan => .error .notNumber
  | .infinity negative => if negative then .ok false else .error .unbounded
  | .finite negative significand exponent =>
    if negative || significand = 0 then .ok false
    else
      let (num, den) := scale 2 (1000 * significand) 1 exponent
      (checkWait num den).map fun () => true

def number (limit : Seconds) : Except LimitFault Binary64 :=
  match limit with
  | .fraction x => .ok x
  | .whole n =>
    if (Binary64.ofInt n).isFinite then .ok (.ofInt n) else .error .beyondNumbers

/-- Whether a process has any time to answer; without a limit it has. -/
def admits : Option Seconds → Except LimitFault Bool
  | none => .ok true
  | some limit => (number limit).bind leavesTime

end Limit

end SatClient
