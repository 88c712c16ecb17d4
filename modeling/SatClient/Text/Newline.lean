/-!
Streams of text. A stream's CR LF and CR are read as LF, and its lines end at LF alone.
-/

namespace SatClient.Text

def normalizeNewlines : List Char → List Char
  | [] => []
  | '\r' :: '\n' :: cs => '\n' :: normalizeNewlines cs
  | c :: cs => (if c = '\r' then '\n' else c) :: normalizeNewlines cs

/-- The next line of a stream without its break, and what follows; none at the end. -/
def readLine : List Char → Option (List Char × List Char)
  | [] => none
  | cs => some (cs.takeWhile (· ≠ '\n'), (cs.dropWhile (· ≠ '\n')).drop 1)

end SatClient.Text
