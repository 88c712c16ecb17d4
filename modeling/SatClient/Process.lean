import SatClient.Decimal.Written
import SatClient.OsFault
/-!
External processes, as far as the program can tell them apart: what happens when one is started and
given its input.
-/

namespace SatClient

open SatClient.Decimal (Seconds)

structure Completion where
  stdout : List UInt8 := []
  stderr : List UInt8 := []
  status : Int := 0
  elapsed : Seconds := .zero
  deriving DecidableEq, Repr

inductive Behaviour
  /-- The process cannot be started. -/
  | refuses (fault : OsFault)
  /-- The process never answers, so that any limit runs out. -/
  | hangs
  /-- Reading or writing its streams fails, at once or only after a wait. -/
  | breaks (fault : OsFault) (waited : Bool := false)
  /-- The process ends by itself, before any positive limit. -/
  | completes (completion : Completion)
  deriving DecidableEq, Repr

def Behaviour.waits : Behaviour → Bool
  | refuses _ => false
  | breaks _ waited => waited
  | hangs | completes _ => true

end SatClient
