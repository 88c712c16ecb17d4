import SatClient.Proofs.Text.Trim
/-!
Texts laid out as lines. Any of the recognised breaks may stand behind a line, CR LF as one of them,
and behind the last line there is none. Every text is laid out in this way, mostly in one way only:
CR LF may also be seen as two breaks with an empty line between them.
-/

namespace SatClient.Text

/-- LF, CR, CR LF, VT, FF, FS, GS, RS, NEL, and the separators of lines and of paragraphs. -/
def breaks : List (List Char) :=
  [['\n'], ['\r'], ['\r', '\n'], ['\x0b'], ['\x0c'], ['\x1c'], ['\x1d'], ['\x1e'], ['\u0085'],
   ['\u2028'], ['\u2029']]

structure Layout where
  /-- Lines, each with the break behind it. -/
  ended : List (List Char × List Char)
  last : List Char
  whole : ∀ piece ∈ ended, IsLine piece.1 ∧ piece.2 ∈ breaks
  lastWhole : IsLine last

namespace Layout

def text (layout : Layout) : List Char :=
  layout.ended.flatMap (fun piece => piece.1 ++ piece.2) ++ layout.last

def lines (layout : Layout) : List (List Char) :=
  layout.ended.map Prod.fst ++ [layout.last]

end Layout

theorem mem_breaks_iff {mark : List Char} :
    mark ∈ breaks ↔ mark = ['\r', '\n'] ∨ ∃ b, mark = [b] ∧ isLineBreak b = true := by
  constructor
  · intro member
    simp only [breaks, List.mem_cons, List.not_mem_nil, or_false] at member
    rcases member with rfl | rfl | rfl | rfl | rfl | rfl | rfl | rfl | rfl | rfl | rfl
    case inr.inr.inl => exact Or.inl rfl
    all_goals exact Or.inr ⟨_, rfl, rfl⟩
  · rintro (rfl | ⟨b, rfl, ends⟩)
    · decide
    · have number (n : Nat) (same : b.toNat = n) : b = Char.ofNat n := by
        rw [← same, Char.ofNat_toNat]
      simp only [isLineBreak, Bool.or_eq_true, Bool.and_eq_true, decide_eq_true_eq,
        beq_iff_eq] at ends
      have cases : b.toNat = 10 ∨ b.toNat = 11 ∨ b.toNat = 12 ∨ b.toNat = 13 ∨ b.toNat = 28 ∨
          b.toNat = 29 ∨ b.toNat = 30 ∨ b.toNat = 0x85 ∨ b.toNat = 0x2028 ∨ b.toNat = 0x2029 := by
        omega
      rcases cases with same | same | same | same | same | same | same | same | same | same <;>
        rw [number _ same] <;> decide

theorem exists_layout (cs : List Char) : ∃ layout : Layout, layout.text = cs := by
  induction cs with
  | nil => exact ⟨⟨[], [], nofun, nofun⟩, rfl⟩
  | cons c cs ih =>
      obtain ⟨⟨ended, last, whole, lastWhole⟩, rfl⟩ := ih
      cases ends : isLineBreak c with
      | true =>
          have mark : [c] ∈ breaks := mem_breaks_iff.mpr (Or.inr ⟨c, rfl, ends⟩)
          exact ⟨⟨([], [c]) :: ended, last, List.forall_mem_cons.mpr ⟨⟨nofun, mark⟩, whole⟩,
            lastWhole⟩, rfl⟩
      | false =>
          cases ended with
          | nil =>
              exact ⟨⟨[], c :: last, nofun, List.forall_mem_cons.mpr ⟨ends, lastWhole⟩⟩, rfl⟩
          | cons piece ended =>
              obtain ⟨⟨first, mark⟩, later⟩ := List.forall_mem_cons.mp whole
              have longer : IsLine (c :: piece.1) := List.forall_mem_cons.mpr ⟨ends, first⟩
              exact ⟨⟨(c :: piece.1, piece.2) :: ended, last,
                List.forall_mem_cons.mpr ⟨⟨longer, mark⟩, later⟩, lastWhole⟩, rfl⟩

theorem isLine_of_mem_lines {layout : Layout} {line : List Char} (member : line ∈ layout.lines) :
    IsLine line := by
  rcases List.mem_append.mp member with inside | final
  · obtain ⟨piece, present, rfl⟩ := List.mem_map.mp inside
    exact (layout.whole piece present).1
  · rw [List.mem_singleton.mp final]
    exact layout.lastWhole

end SatClient.Text
