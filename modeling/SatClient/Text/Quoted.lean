import SatClient.Text.Printable
/-!
Quoted text. A text stands between apostrophes, or between quotation marks where it holds an
apostrophe and no quotation mark; characters that are not shown are written by number.
-/

namespace SatClient.Text

def apostrophe : Char := Char.ofNat 0x27
def quotationMark : Char := Char.ofNat 0x22
def backslash : Char := Char.ofNat 0x5C

def hexDigits : (width : Nat) → Nat → List Char
  | 0, _ => []
  | width + 1, n => hexDigits width (n / 16) ++ [Nat.digitChar (n % 16)]

def delimiter (cs : List Char) : Char :=
  if cs.contains apostrophe && !cs.contains quotationMark then quotationMark else apostrophe

def escape (mark c : Char) : List Char :=
  if c = mark || c = backslash then [backslash, c]
  else if c = '\t' then [backslash, 't']
  else if c = '\n' then [backslash, 'n']
  else if c = '\r' then [backslash, 'r']
  else if isPrintable c then [c]
  else if c.toNat < 0x100 then backslash :: 'x' :: hexDigits 2 c.toNat
  else if c.toNat < 0x10000 then backslash :: 'u' :: hexDigits 4 c.toNat
  else backslash :: 'U' :: hexDigits 8 c.toNat

def quote (cs : List Char) : List Char :=
  delimiter cs :: cs.flatMap (escape (delimiter cs)) ++ [delimiter cs]

def quoted (text : String) : String :=
  String.ofList (quote text.toList)

end SatClient.Text
