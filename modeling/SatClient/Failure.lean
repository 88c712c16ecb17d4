import SatClient.Decimal.Written
import SatClient.Field.Fault
import SatClient.Limit
import SatClient.OsFault
import SatClient.Text.Digit
import SatClient.Text.Quoted
import SatClient.Text.Utf8
/-!
Why an operation fails: one constructor for each cause, its kind and its wording. Callers tell
failures apart by kind; the kinds of the library itself are reported to the user as such. A failure
that would have to name a number of too many digits cannot be worded, and another one is raised.
-/

namespace SatClient

open SatClient.Decimal (Seconds)

inductive Failure
  | settingsFileMissing (path : String)
  | settingsFileLocked (path : String) (fault : OsFault)
  | settingsFileUnreadable (path : String) (fault : Text.Utf8.Fault)
  | unreadableTimeout (text : String)
  | rejectedSettings (faults : List Field.Fault)
  | rejectedFields (record : String) (faults : List Field.Fault)
  | cannotStart (executable : String) (fault : OsFault)
  | brokenExchange (executable : String) (fault : OsFault)
  | timedOut (executable : String) (limit : Seconds)
  | unusableLimit (fault : LimitFault)
  | noVerdict (diagnostics : List String)
  | unexpectedVerdict (line : String) (diagnostics : List String)
  | noAssignment
  | malformedLiteral (token : String)
  | unterminatedAssignment
  | unexpectedAssignment
  | neverAllocated (id : Int)
  | assignedUnknown (id : Int)
  | foreignVariable (clause id : Nat)
  | unallocatedVariable (clause id count : Nat)
  | unattached (id : Nat)
  | noResult (id : Nat)
  | nonPositiveId (id : Int)
  | negativeCount (count : Int)
  | excessDigits (count : Nat)
  | unwritableNumber
  | embeddedNull
  | closedStream
  | unknownLevel (name : String)
  | levelNotName (shown : String)
  | missingValue (id : Nat)
  | system (fault : OsFault)

namespace Failure

inductive Kind
  | configuration
  | solve
  | launch
  | timeout
  | reply
  | unknownVariable
  | resultNotAvailable
  | validation
  | value
  | overflow
  | type
  | key
  | system (fault : OsFault)
  deriving DecidableEq, Repr

def kind : Failure → Kind
  | settingsFileMissing _ => .configuration
  | settingsFileLocked .. => .configuration
  | settingsFileUnreadable .. => .configuration
  | unreadableTimeout _ => .configuration
  | rejectedSettings _ => .configuration
  | rejectedFields .. => .validation
  | cannotStart .. => .launch
  | brokenExchange .. => .solve
  | timedOut .. => .timeout
  | unusableLimit .notNumber => .value
  | unusableLimit _ => .overflow
  | noVerdict _ => .reply
  | unexpectedVerdict .. => .reply
  | noAssignment => .reply
  | malformedLiteral _ => .reply
  | unterminatedAssignment => .reply
  | unexpectedAssignment => .reply
  | neverAllocated _ => .unknownVariable
  | assignedUnknown _ => .unknownVariable
  | foreignVariable .. => .unknownVariable
  | unallocatedVariable .. => .unknownVariable
  | unattached _ => .resultNotAvailable
  | noResult _ => .resultNotAvailable
  | nonPositiveId _ => .value
  | negativeCount _ => .value
  | excessDigits _ => .value
  | unwritableNumber => .value
  | embeddedNull => .value
  | closedStream => .value
  | unknownLevel _ => .value
  | levelNotName _ => .type
  | missingValue _ => .key
  | system fault => .system fault

/-- The kinds that a command reports and survives. -/
def Kind.isReported : Kind → Bool
  | .validation | .value | .overflow | .type | .key | .system _ => false
  | _ => true

def faultReason : Text.Utf8.FaultKind → String
  | .startByte => "invalid start byte"
  | .continuationByte => "invalid continuation byte"
  | .endOfData => "unexpected end of data"

def decodingMessage (fault : Text.Utf8.Fault) : String :=
  let span :=
    match fault.bytes with
    | [b] =>
      "byte 0x" ++ String.ofList (Text.hexDigits 2 b.toNat) ++ " in position " ++
        toString fault.position
    | bytes =>
      "bytes in position " ++ toString fault.position ++ "-" ++
        toString (fault.position + bytes.length - 1)
  "'utf-8' codec can't decode " ++ span ++ ": " ++ faultReason fault.kind

def withDiagnostics (message : String) (diagnostics : List String) : String :=
  if diagnostics.isEmpty then message
  else message ++ " (solver stderr: " ++ String.intercalate " | " diagnostics ++ ")"

def settingsRecord : String := "SolverConfig"
def documentRecord : String := "CnfDocument"

def message : Failure → String
  | settingsFileMissing path => "config file not found: " ++ path
  | settingsFileLocked path fault =>
    "error reading config file " ++ path ++ ": " ++ fault.shown ++ ": " ++ Text.quoted path
  | settingsFileUnreadable path fault =>
    "error reading config file " ++ path ++ ": " ++ decodingMessage fault
  | unreadableTimeout text => "invalid solver.timeout: " ++ Text.quoted text
  | rejectedSettings faults =>
    "invalid solver configuration: " ++ Field.Fault.reports settingsRecord faults
  | rejectedFields record faults => Field.Fault.reports record faults
  | cannotStart executable fault =>
    "Cannot start solver " ++ Text.quoted executable ++ ": " ++ fault.shown ++ ": " ++
      Text.quoted executable
  | brokenExchange executable fault =>
    "I/O error while talking to solver " ++ Text.quoted executable ++ ": " ++ fault.shown
  | timedOut executable limit =>
    "Solver " ++ Text.quoted executable ++ " did not finish within " ++ limit.text ++ " seconds"
  | unusableLimit fault => fault.message
  | noVerdict diagnostics =>
    withDiagnostics "Solver closed its output before sending a verdict" diagnostics
  | unexpectedVerdict line diagnostics =>
    withDiagnostics ("Unexpected verdict line: " ++ Text.quoted line) diagnostics
  | noAssignment => "Solver reported SAT but sent no assignment line"
  | malformedLiteral token => "Malformed literal in assignment: " ++ Text.quoted token
  | unterminatedAssignment => "Assignment line ended without the terminating 0"
  | unexpectedAssignment => "Assignment received for an unsatisfiable result"
  | neverAllocated id => "Variable " ++ toString id ++ " was never allocated"
  | assignedUnknown id => "Solver assigned unknown variable " ++ toString id
  | foreignVariable clause id =>
    "Clause " ++ toString clause ++ " uses variable " ++ toString id ++ " from another registry"
  | unallocatedVariable clause id count =>
    "Clause " ++ toString clause ++ " uses variable " ++ toString id ++ " but only " ++
      toString count ++ " were allocated"
  | unattached id => "Variable " ++ toString id ++ " is not attached to a registry"
  | noResult id =>
    "No result for variable " ++ toString id ++
      ": solver not yet run or yielded no solution"
  | nonPositiveId id => "Variable id must be positive, got " ++ toString id
  | negativeCount count => "Cannot create a negative number of variables: " ++ toString count
  | excessDigits count =>
    "Exceeds the limit (4300 digits) for integer string conversion: value has " ++
      toString count ++ " digits; use sys.set_int_max_str_digits() to increase the limit"
  | unwritableNumber =>
    "Exceeds the limit (4300 digits) for integer string conversion; " ++
      "use sys.set_int_max_str_digits() to increase the limit"
  | embeddedNull => "embedded null byte"
  | closedStream => "I/O operation on closed file."
  | unknownLevel name => "Unknown level: " ++ Text.quoted name
  | levelNotName shown => "Level not an integer or a valid string: " ++ shown
  | missingValue id => toString id
  | system fault => fault.shown

/-- The numbers in the wording that a caller chose. -/
def numbers : Failure → List Int
  | neverAllocated id => [id]
  | assignedUnknown id => [id]
  | foreignVariable _ id => [id]
  | unallocatedVariable _ id _ => [id]
  | unattached id => [id]
  | noResult id => [id]
  | nonPositiveId id => [id]
  | negativeCount count => [count]
  | _ => []

def isWritable (n : Int) : Bool :=
  n.natAbs < Nat.pow 10 Text.digitLimit

/-- What is raised for a failure. -/
def raised (failure : Failure) : Failure :=
  if failure.numbers.all isWritable then failure else .unwritableNumber

theorem raised_of_writable {failure : Failure} (writable : failure.numbers.all isWritable = true) :
    failure.raised = failure :=
  if_pos writable

end Failure

end SatClient
