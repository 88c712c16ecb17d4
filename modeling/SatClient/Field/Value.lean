import SatClient.Decimal.Written
import SatClient.Text.Quoted
/-!
Untyped field values, and the text that shows one in a message.
-/

namespace SatClient.Field

open SatClient.Decimal

inductive Value
  | null
  | bool (b : Bool)
  | int (n : Int)
  | number (x : Binary64)
  | text (s : String)
  | list (items : List Value)
  | record (fields : List (String × Value))
  deriving Inhabited

abbrev Fields := List (String × Value)

namespace Value

def typeName : Value → String
  | null => "NoneType"
  | bool _ => "bool"
  | int _ => "int"
  | number _ => "float"
  | text _ => "str"
  | list _ => "list"
  | record _ => "dict"

mutual

def shown : Value → String
  | null => "None"
  | bool b => if b then "True" else "False"
  | int n => toString n
  | number x => x.text
  | text s => Text.quoted s
  | list items => "[" ++ String.intercalate ", " (shownItems items) ++ "]"
  | record fields => "\x7b" ++ String.intercalate ", " (shownFields fields) ++ "\x7d"

def shownItems : List Value → List String
  | [] => []
  | item :: items => shown item :: shownItems items

def shownFields : List (String × Value) → List String
  | [] => []
  | (name, value) :: fields => (Text.quoted name ++ ": " ++ shown value) :: shownFields fields

end

def abridge (text : String) : String :=
  if text.length ≤ 50 then text
  else
    let cs := text.toList
    String.ofList (cs.take 25) ++ "..." ++ String.ofList (cs.drop (cs.length - 24))

end Value

end SatClient.Field
