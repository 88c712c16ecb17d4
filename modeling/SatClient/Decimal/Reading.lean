import SatClient.Decimal.Binary64
import SatClient.Text.Blank
import SatClient.Text.Digit
/-!
Numbers read from text. A free text may use the digits of any script and groups them with single
low lines between digits; the text of a typed field has ASCII digits and groups more loosely.
-/

namespace SatClient.Decimal

open SatClient.Text

/-- White space around a number is ignored, the information separators are not. -/
def trimNumber (cs : List Char) : List Char :=
  dropEndWhile isWhiteSpace (cs.dropWhile isWhiteSpace)

def asciiLower (c : Char) : Char :=
  if 0x41 ≤ c.toNat && c.toNat ≤ 0x5A then Char.ofNat (c.toNat + 32) else c

def splitSign : List Char → Bool × List Char
  | '-' :: cs => (true, cs)
  | '+' :: cs => (false, cs)
  | cs => (false, cs)

def exponent? : List Char → Option Int
  | [] => some 0
  | mark :: cs =>
    if asciiLower mark = 'e' then
      let (negative, digits) := splitSign cs
      if digits.isEmpty || !digits.all isAsciiDigit then none
      else some (if negative then -(digitsValue digits : Int) else digitsValue digits)
    else none

def finite? (negative : Bool) (cs : List Char) : Option Binary64 :=
  let whole := cs.takeWhile isAsciiDigit
  let rest := cs.dropWhile isAsciiDigit
  let (fraction, tail) :=
    match rest with
    | '.' :: after => (after.takeWhile isAsciiDigit, after.dropWhile isAsciiDigit)
    | _ => ([], rest)
  if whole.isEmpty && fraction.isEmpty then none
  else
    match exponent? tail with
    | none => none
    | some exponent =>
      let digits := (whole ++ fraction).dropWhile (· = '0')
      some (.ofDecimal negative (digitsValue digits) digits.length (exponent - fraction.length))

def plainNumber? (cs : List Char) : Option Binary64 :=
  let (negative, body) := splitSign cs
  let name := body.map asciiLower
  if name = ['n', 'a', 'n'] then some .nan
  else if name = ['i', 'n', 'f'] || name = ['i', 'n', 'f', 'i', 'n', 'i', 't', 'y'] then
    some (.infinity negative)
  else finite? negative body

/-- Drops the low lines of a text, each of which has to stand between two digits; the flag says
whether a digit stands before the text. -/
def ungroup? : Bool → List Char → Option (List Char)
  | _, [] => some []
  | afterDigit, '_' :: c :: cs =>
    if afterDigit && isAsciiDigit c then (ungroup? true cs).map (c :: ·) else none
  | _, c :: cs => if c = '_' then none else (ungroup? (isAsciiDigit c) cs).map (c :: ·)

def toAsciiDigit (c : Char) : Char :=
  match digitValue? c with
  | some n => Nat.digitChar n
  | none => c

def number? (cs : List Char) : Option Binary64 :=
  match ungroup? false ((trimNumber cs).map toAsciiDigit) with
  | some plain => plainNumber? plain
  | none => none

def hasDoubleLowLine : List Char → Bool
  | '_' :: '_' :: _ => true
  | _ :: cs => hasDoubleLowLine cs
  | [] => false

/-- Drops single low lines inside a text; none where one stands at an end or next to another. -/
def looseUngroup? (cs : List Char) : Option (List Char) :=
  if cs.head? = some '_' || cs.getLast? = some '_' || hasDoubleLowLine cs then none
  else some (cs.filter (· ≠ '_'))

/-- A number in the text of a typed field. Around a number with low lines no white space stands. -/
def fieldNumber? (cs : List Char) : Option Binary64 :=
  match plainNumber? (trimNumber cs) with
  | some x => some x
  | none => (looseUngroup? cs).bind plainNumber?

/-- What follows zeros and low lines. The character before a point or before the end stays. -/
def afterZeros? (previous : Char) : List Char → Option (List Char)
  | [] => some [previous]
  | c :: cs =>
    if c = '0' || c = '_' then afterZeros? c cs
    else if c = '-' || isAsciiDigit c then some (c :: cs)
    else if c = '.' then some (previous :: c :: cs)
    else none

/-- Drops leading zeros with the low lines among them; none where no number begins. A minus may
follow the zeros. -/
def dropLeadingZeros? : List Char → Option (List Char)
  | [] => none
  | c :: cs =>
    if c = '0' then afterZeros? c cs
    else if c = '-' || isAsciiDigit c then some (c :: cs)
    else none

def dropZeroFraction (cs : List Char) : List Char :=
  let fraction := (cs.dropWhile (· ≠ '.')).drop 1
  if !fraction.isEmpty && fraction.all (· = '0') then cs.takeWhile (· ≠ '.') else cs

def plainInteger? (cs : List Char) : Option (List Char) :=
  let (negative, body) := splitSign (trimNumber cs)
  if !negative && body.head? = some '-' then none
  else
    (dropLeadingZeros? body).map fun digits =>
      let whole := dropZeroFraction digits
      (if negative then ['-'] else []) ++ (looseUngroup? whole).getD whole

inductive IntegerFault
  | unreadable
  | oversize
  deriving DecidableEq, Repr

def integerTextLimit : Nat := 4300

def signedDigits (cs : List Char) : Except IntegerFault Int :=
  let negative := cs.head? = some '-'
  let body := if negative then cs.drop 1 else cs
  let digits := body.takeWhile isAsciiDigit
  if body.head? = some '0' then if body = ['0'] then .ok 0 else .error .unreadable
  else if digits.isEmpty then .error .unreadable
  else if integerTextLimit < digits.length + (if negative then 1 else 0) then .error .oversize
  else if digits ≠ body then .error .unreadable
  else .ok (if negative then -(digitsValue digits : Int) else digitsValue digits)

/-- An integer in the text of a typed field; a fraction of zeros is allowed. -/
def fieldInteger (cs : List Char) : Except IntegerFault Int :=
  match plainInteger? cs with
  | some plain => signedDigits plain
  | none => .error .unreadable

end SatClient.Decimal
