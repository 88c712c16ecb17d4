/-!
UTF-8 over arbitrary bytes. Bytes are read one at a time against the range that the next byte may
have; a sequence that breaks off is one faulty piece, and the byte that broke it is read afresh.
The lenient reading shows each faulty piece as U+FFFD, the strict one names the first.
-/

namespace SatClient.Text.Utf8

inductive FaultKind
  | startByte
  | continuationByte
  | endOfData
  deriving DecidableEq, Repr

/-- A character, or the bytes of a sequence that no character has. -/
inductive Piece
  | char (c : Char)
  | faulty (bytes : List UInt8) (kind : FaultKind)
  deriving DecidableEq, Repr

/-- A sequence that has begun: its bytes, their bits, how many are owed, and the range of the
next. -/
structure Pending where
  bytes : List UInt8
  bits : Nat
  owed : Nat
  low : UInt8 := 0x80
  high : UInt8 := 0xBF
  deriving DecidableEq, Repr

def start (b : UInt8) : List Piece × Option Pending :=
  let n := b.toNat
  if b ≤ 0x7F then ([.char (Char.ofNat n)], none)
  else if b < 0xC2 then ([.faulty [b] .startByte], none)
  else if b ≤ 0xDF then ([], some ⟨[b], n - 0xC0, 1, 0x80, 0xBF⟩)
  else if b = 0xE0 then ([], some ⟨[b], 0, 2, 0xA0, 0xBF⟩)
  else if b = 0xED then ([], some ⟨[b], 13, 2, 0x80, 0x9F⟩)
  else if b ≤ 0xEF then ([], some ⟨[b], n - 0xE0, 2, 0x80, 0xBF⟩)
  else if b = 0xF0 then ([], some ⟨[b], 0, 3, 0x90, 0xBF⟩)
  else if b ≤ 0xF3 then ([], some ⟨[b], n - 0xF0, 3, 0x80, 0xBF⟩)
  else if b = 0xF4 then ([], some ⟨[b], 4, 3, 0x80, 0x8F⟩)
  else ([.faulty [b] .startByte], none)

def advance : Option Pending → UInt8 → List Piece × Option Pending
  | none, b => start b
  | some pending, b =>
    if pending.low ≤ b && b ≤ pending.high then
      let bits := pending.bits * 64 + (b.toNat - 0x80)
      if pending.owed ≤ 1 then ([.char (Char.ofNat bits)], none)
      else ([], some ⟨pending.bytes ++ [b], bits, pending.owed - 1, 0x80, 0xBF⟩)
    else
      let (pieces, next) := start b
      (.faulty pending.bytes .continuationByte :: pieces, next)

def piecesFrom : Option Pending → List UInt8 → List Piece
  | none, [] => []
  | some pending, [] => [.faulty pending.bytes .endOfData]
  | state, b :: bs => (advance state b).1 ++ piecesFrom (advance state b).2 bs

def pieces (bytes : List UInt8) : List Piece :=
  piecesFrom none bytes

def Piece.shown : Piece → Char
  | .char c => c
  | .faulty .. => Char.ofNat 0xFFFD

def decodeLenient (bytes : List UInt8) : List Char :=
  (pieces bytes).map Piece.shown

structure Fault where
  position : Nat
  bytes : List UInt8
  kind : FaultKind
  deriving DecidableEq, Repr

def encodedLength (c : Char) : Nat :=
  if c.toNat < 0x80 then 1 else if c.toNat < 0x800 then 2 else if c.toNat < 0x10000 then 3 else 4

def charsFrom (position : Nat) : List Piece → Except Fault (List Char)
  | [] => .ok []
  | .char c :: rest =>
    match charsFrom (position + encodedLength c) rest with
    | .ok cs => .ok (c :: cs)
    | .error fault => .error fault
  | .faulty bytes kind :: _ => .error ⟨position, bytes, kind⟩

def decodeStrict (bytes : List UInt8) : Except Fault (List Char) :=
  charsFrom 0 (pieces bytes)

def encode (text : String) : List UInt8 :=
  text.toUTF8.toList

def hasNull (text : String) : Bool :=
  text.toList.contains (Char.ofNat 0)

end SatClient.Text.Utf8
