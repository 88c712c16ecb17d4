import SatClient.Table
import SatClient.Text.Blank
/-!
Properties text: one entry a line, a key and a value with `=`, `:` or blanks between. Blank lines
and lines that start with `#` or `!` hold no entry, and the last entry for a key counts.
-/

namespace SatClient

open SatClient.Text

abbrev Properties := Table String String

namespace Properties

def isMark (c : Char) : Bool :=
  c = '=' || c = ':'

def endsKey (c : Char) : Bool :=
  isMark c || isBlank c

def isComment : List Char → Bool
  | c :: _ => c = '#' || c = '!'
  | [] => false

def dropMark : List Char → List Char
  | c :: cs => if isMark c then trimStart cs else c :: cs
  | [] => []

def splitEntry (line : List Char) : List Char × List Char :=
  (line.takeWhile fun c => !endsKey c,
    dropMark (trimStart (line.dropWhile fun c => !endsKey c)))

def pair? (line : List Char) : Option (String × String) :=
  let trimmed := trim line
  if trimmed.isEmpty || isComment trimmed then none
  else
    let (key, value) := splitEntry trimmed
    some (String.ofList key, String.ofList value)

def entries (text : List Char) : List (String × String) :=
  (lines text).filterMap pair?

def parse (text : List Char) : Properties :=
  Table.ofList (entries text)

end Properties

end SatClient
