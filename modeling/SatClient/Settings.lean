import SatClient.Failure
import SatClient.Field.Reading
import SatClient.Properties
/-!
Settings of the external solver: how to start it, how long to wait, and whether to echo the
problem. They are read from typed fields or from properties, and both readings refuse a blank
executable and a timeout that is not positive.
-/

namespace SatClient

open SatClient.Decimal
open SatClient.Field

structure Settings where
  executable : String := "minisat"
  arguments : List String := ["/dev/stdin", "/dev/stdout"]
  verbose : Bool := false
  timeout : Option Binary64 := none
  deriving DecidableEq, Repr

namespace Settings

def command (s : Settings) : List String :=
  s.executable :: s.arguments

def readExecutable (place : List Place) (value : Value) : Reading String :=
  (readText place value).bind fun text =>
    if Text.isAllBlank text.toList then refuse place value .blankExecutable else .ok text

def readTimeout (place : List Place) : Value → Reading (Option Binary64)
  | .null => .ok none
  | value =>
    (readNumber place value).bind fun x =>
      if x.isPositive then .ok (some x) else refuse place value .notPositive

def read (fields : Fields) : Reading Settings :=
  let defaults : Settings := {}
  (both (optional readExecutable fields "executable" defaults.executable)
    (both (optional (readList readText) fields "arguments" defaults.arguments)
      (both (optional readBool fields "verbose" defaults.verbose)
        (optional readTimeout fields "timeout" defaults.timeout)))).map
    fun (executable, arguments, verbose, timeout) => ⟨executable, arguments, verbose, timeout⟩

def ofFields (fields : Fields) : Except Failure Settings :=
  (read fields).mapError (.rejectedFields Failure.settingsRecord)

def toFields (s : Settings) : Fields :=
  [("executable", .text s.executable), ("arguments", .list (s.arguments.map .text)),
   ("verbose", .bool s.verbose), ("timeout", (s.timeout.map Value.number).getD .null)]

def trimmed (text : String) : String :=
  String.ofList (Text.trim text.toList)

def wordsOf (text : String) : List String :=
  (Text.words text.toList).map String.ofList

def isTrue (text : String) : Bool :=
  (Text.trim text.toList).map asciiLower = ['t', 'r', 'u', 'e']

def executableField (properties : Properties) : Fields :=
  match properties.get? "solver.executable" with
  | some text => [("executable", .text (trimmed text))]
  | none => []

def argumentsField (properties : Properties) : Fields :=
  match properties.get? "solver.arguments" with
  | some text => [("arguments", .list ((wordsOf text).map .text))]
  | none => []

def timeoutField (properties : Properties) : Except Failure Fields :=
  match properties.get? "solver.timeout" with
  | none => .ok []
  | some text =>
    if Text.isAllBlank text.toList then .ok []
    else
      match number? text.toList with
      | some x => .ok [("timeout", .number x)]
      | none => .error (.unreadableTimeout text)

/-- Only the word `true`, in any case, switches the echo on. -/
def verboseField (properties : Properties) : Fields :=
  [("verbose", .bool (isTrue ((properties.get? "verbose").getD "false")))]

def ofProperties (properties : Properties) : Except Failure Settings :=
  match timeoutField properties with
  | .error failure => .error failure
  | .ok timeout =>
    (read (executableField properties ++ argumentsField properties ++ timeout ++
      verboseField properties)).mapError .rejectedSettings

end Settings

end SatClient
