import SatClient.Field.Fault
import SatClient.Decimal.Reading
/-!
Typed readings of untyped fields. A reading gives a value or all the faults that it met, those of a
list in the order of its items.
-/

namespace SatClient.Field

open SatClient.Decimal

abbrev Reading (α : Type) := Except (List Fault) α

def refuse {α : Type} (place : List Place) (input : Value) (cause : Cause) : Reading α :=
  .error [⟨place, cause, input⟩]

/-- Two readings in order; the faults of both are kept. -/
def both {α β : Type} : Reading α → Reading β → Reading (α × β)
  | .ok a, .ok b => .ok (a, b)
  | .ok _, .error right => .error right
  | .error left, .ok _ => .error left
  | .error left, .error right => .error (left ++ right)

def readText (place : List Place) : Value → Reading String
  | .text s => .ok s
  | value => refuse place value .notText

def readItems {α : Type} (item : List Place → Value → Reading α) (place : List Place) :
    Nat → List Value → Reading (List α)
  | _, [] => .ok []
  | index, value :: values =>
    (both (item (place ++ [.item index]) value) (readItems item place (index + 1) values)).map
      fun (a, rest) => a :: rest

def readList {α : Type} (item : List Place → Value → Reading α) (place : List Place) :
    Value → Reading (List α)
  | .list items => readItems item place 0 items
  | value => refuse place value .notList

def boolNames : List (String × Bool) :=
  [("0", false), ("off", false), ("f", false), ("false", false), ("n", false), ("no", false),
   ("1", true), ("on", true), ("t", true), ("true", true), ("y", true), ("yes", true)]

def wordBound : Nat := 0x8000000000000000

def isWord (n : Int) : Bool :=
  -(wordBound : Int) ≤ n && n < wordBound

/-- The word that a number is, the least one apart. -/
def wordOfNumber? (x : Binary64) : Option Int :=
  x.integer?.filter fun n => n.natAbs < wordBound

def boolOfInt? (n : Int) : Option Bool :=
  if n = 0 then some false
  else if n = 1 then some true
  else none

/-- Of the words only 0 and 1 are readable; any other number has the wrong type. -/
def readBool (place : List Place) : Value → Reading Bool
  | .bool b => .ok b
  | .int n =>
    match boolOfInt? n with
    | some b => .ok b
    | none => refuse place (.int n) (if isWord n then .unreadableBool else .notBool)
  | .number x =>
    match wordOfNumber? x with
    | some n =>
      match boolOfInt? n with
      | some b => .ok b
      | none => refuse place (.number x) .unreadableBool
    | none => refuse place (.number x) .notBool
  | .text s =>
    match boolNames.lookup (String.ofList (s.toList.map asciiLower)) with
    | some b => .ok b
    | none => refuse place (.text s) .unreadableBool
  | value => refuse place value .notBool

def readNumber (place : List Place) : Value → Reading Binary64
  | .number x => .ok x
  | .bool b => .ok (.ofInt b.toInt)
  | .int n =>
    if (Binary64.ofInt n).isFinite then .ok (.ofInt n) else refuse place (.int n) .notNumber
  | .text s =>
    match fieldNumber? s.toList with
    | some x => .ok x
    | none => refuse place (.text s) .unreadableNumber
  | value => refuse place value .notNumber

def readInteger (place : List Place) : Value → Reading Int
  | .int n => .ok n
  | .bool b => .ok b.toInt
  | .number x =>
    match wordOfNumber? x with
    | some n => .ok n
    | none =>
      refuse place (.number x)
        (if !x.isFinite then .notFinite
        else if x.integer?.isNone then .fractional
        else .oversizeInteger)
  | .text s =>
    match fieldInteger s.toList with
    | .ok n => .ok n
    | .error .unreadable => refuse place (.text s) .unreadableInteger
    | .error .oversize => refuse place (.text s) .oversizeInteger
  | value => refuse place value .notInteger

/-- A field of a record; the whole record is the input of the fault where it is missing. -/
def required {α : Type} (read : List Place → Value → Reading α) (fields : Fields)
    (name : String) : Reading α :=
  match fields.lookup name with
  | some value => read [.field name] value
  | none => refuse [.field name] (.record fields) .missing

def optional {α : Type} (read : List Place → Value → Reading α) (fields : Fields)
    (name : String) (default : α) : Reading α :=
  match fields.lookup name with
  | some value => read [.field name] value
  | none => .ok default

end SatClient.Field
