import SatClient.Failure
import SatClient.Text.Blank
import SatClient.Text.Digit
/-!
Reading a solver's reply: a verdict line and, after `SAT`, a line of signed ids up to a zero. What
follows the zero is ignored.
-/

namespace SatClient.Reply

open SatClient.Text

/-- True for `SAT` and false for `UNSAT`; blanks around the word are ignored. -/
def verdict (diagnostics : List String) : Option (List Char) → Except Failure Bool
  | none => .error (.noVerdict diagnostics)
  | some line =>
    let word := trim line
    if word = ['S', 'A', 'T'] then .ok true
    else if word = ['U', 'N', 'S', 'A', 'T'] then .ok false
    else .error (.unexpectedVerdict (String.ofList word) diagnostics)

def splitMinus : List Char → Bool × List Char
  | '-' :: digits => (true, digits)
  | digits => (false, digits)

def literal (token : List Char) : Except Failure (Nat × Bool) :=
  let (negative, digits) := splitMinus token
  if digits.isEmpty || !digits.all isDigit then .error (.malformedLiteral (String.ofList token))
  else if digitLimit < digits.length then .error (.excessDigits digits.length)
  else .ok (digitsValue digits, !negative)

def literals : List (List Char) → Except Failure (List (Nat × Bool))
  | [] => .error .unterminatedAssignment
  | token :: tokens =>
    if token = ['0'] then .ok []
    else
      match literal token with
      | .error failure => .error failure
      | .ok pair =>
        match literals tokens with
        | .error failure => .error failure
        | .ok pairs => .ok (pair :: pairs)

def assignment : Option (List Char) → Except Failure (List (Nat × Bool))
  | none => .error .noAssignment
  | some line => literals (words line)

end SatClient.Reply
