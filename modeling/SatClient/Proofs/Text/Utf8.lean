import SatClient.Text.Newline
import SatClient.Text.Utf8
/-!
The bytes of plain text. A character below 128 is one byte and reads back as itself, and a text
without CR keeps its line feeds as they are.
-/

namespace SatClient.Text

def plainBytes (cs : List Char) : List UInt8 :=
  cs.map fun c => UInt8.ofNat c.toNat

namespace Utf8

theorem start_of_small {c : Char} (small : c.toNat < 128) :
    start (UInt8.ofNat c.toNat) = ([.char c], none) := by
  have value : (UInt8.ofNat c.toNat).toNat = c.toNat := by
    rw [UInt8.toNat_ofNat']
    exact Nat.mod_eq_of_lt (by omega)
  have low : UInt8.ofNat c.toNat ≤ 0x7F := by
    rw [UInt8.le_iff_toNat_le, value]
    exact Nat.le_of_lt_succ small
  simp only [start, if_pos low, value, Char.ofNat_toNat]

theorem pieces_plainBytes {cs : List Char} (small : ∀ c ∈ cs, c.toNat < 128) :
    pieces (plainBytes cs) = cs.map .char := by
  induction cs with
  | nil => rfl
  | cons c cs ih =>
      obtain ⟨first, rest⟩ := List.forall_mem_cons.mp small
      have step : pieces (plainBytes (c :: cs)) = .char c :: pieces (plainBytes cs) := by
        simp only [pieces, plainBytes, List.map_cons, piecesFrom, advance, start_of_small first]
        rfl
      rw [step, ih rest, List.map_cons]

theorem decodeLenient_plainBytes {cs : List Char} (small : ∀ c ∈ cs, c.toNat < 128) :
    decodeLenient (plainBytes cs) = cs := by
  rw [decodeLenient, pieces_plainBytes small, List.map_map]
  exact List.map_id cs

theorem charsFrom_map_char (position : Nat) (cs : List Char) :
    charsFrom position (cs.map .char) = .ok cs := by
  induction cs generalizing position with
  | nil => rfl
  | cons c cs ih => rw [List.map_cons, charsFrom, ih]

theorem decodeStrict_plainBytes {cs : List Char} (small : ∀ c ∈ cs, c.toNat < 128) :
    decodeStrict (plainBytes cs) = .ok cs := by
  rw [decodeStrict, pieces_plainBytes small, charsFrom_map_char]

end Utf8

theorem normalizeNewlines_of_free {cs : List Char} (free : '\r' ∉ cs) :
    normalizeNewlines cs = cs := by
  induction cs with
  | nil => rfl
  | cons c cs ih =>
      have other : c ≠ '\r' := fun same => free (same ▸ List.mem_cons_self)
      have rest : '\r' ∉ cs := fun member => free (List.mem_cons_of_mem c member)
      rw [normalizeNewlines, if_neg other, ih rest]
      intro tail same
      exact absurd same other

end SatClient.Text
