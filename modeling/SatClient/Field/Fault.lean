import SatClient.Field.Value
/-!
What can be wrong with a field, where, and in which words.
-/

namespace SatClient.Field

inductive Place
  | field (name : String)
  | item (index : Nat)
  deriving DecidableEq, Repr

inductive Cause
  | missing
  | notText
  | notList
  | notBool
  | unreadableBool
  | notNumber
  | unreadableNumber
  | notPositive
  | notInteger
  | unreadableInteger
  | oversizeInteger
  | fractional
  | notFinite
  | negative
  | blankExecutable
  | zeroLiteral (clause : Nat)
  | excessLiteral (literal count : Int) (clause : Nat)
  deriving DecidableEq, Repr

namespace Cause

def rule? : Cause → Option String
  | blankExecutable => some "solver executable must not be empty"
  | zeroLiteral clause => some ("Literal 0 is invalid in clause " ++ toString clause)
  | excessLiteral literal count clause =>
    some ("Literal " ++ toString literal ++ " exceeds num_vars " ++ toString count ++
      " in clause " ++ toString clause)
  | _ => none

def tag : Cause → String
  | missing => "missing"
  | notText => "string_type"
  | notList => "list_type"
  | notBool => "bool_type"
  | unreadableBool => "bool_parsing"
  | notNumber => "float_type"
  | unreadableNumber => "float_parsing"
  | notPositive => "greater_than"
  | notInteger => "int_type"
  | unreadableInteger => "int_parsing"
  | oversizeInteger => "int_parsing_size"
  | fractional => "int_from_float"
  | notFinite => "finite_number"
  | negative => "greater_than_equal"
  | blankExecutable => "value_error"
  | zeroLiteral _ => "value_error"
  | excessLiteral .. => "value_error"

def message (cause : Cause) : String :=
  match cause.rule? with
  | some rule => "Value error, " ++ rule
  | none =>
    match cause with
    | missing => "Field required"
    | notText => "Input should be a valid string"
    | notList => "Input should be a valid list"
    | notBool => "Input should be a valid boolean"
    | unreadableBool => "Input should be a valid boolean, unable to interpret input"
    | notNumber => "Input should be a valid number"
    | unreadableNumber =>
      "Input should be a valid number, unable to parse string as a number"
    | notPositive => "Input should be greater than 0"
    | notInteger => "Input should be a valid integer"
    | unreadableInteger =>
      "Input should be a valid integer, unable to parse string as an integer"
    | oversizeInteger =>
      "Unable to parse input string as an integer, exceeded maximum size"
    | fractional => "Input should be a valid integer, got a number with a fractional part"
    | notFinite => "Input should be a finite number"
    | negative => "Input should be greater than or equal to 0"
    | _ => ""

end Cause

structure Fault where
  place : List Place
  cause : Cause
  input : Value

namespace Fault

def placeText (fault : Fault) : String :=
  String.intercalate "." (fault.place.map fun
    | .field name => name
    | .item index => toString index)

def report (fault : Fault) : String :=
  fault.placeText ++ "\n  " ++ fault.cause.message ++ " [type=" ++ fault.cause.tag ++
    ", input_value=" ++ Value.abridge fault.input.shown ++ ", input_type=" ++
    fault.input.typeName ++ "]"

def reports (title : String) (faults : List Fault) : String :=
  let count := faults.length
  toString count ++ (if count = 1 then " validation error for " else " validation errors for ") ++
    title ++ String.join (faults.map fun fault => "\n" ++ fault.report)

end Fault

end SatClient.Field
