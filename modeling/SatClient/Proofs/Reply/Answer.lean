import SatClient.Proofs.Dimacs.Reader
import SatClient.Proofs.Reply
/-!
The layout of a satisfying reply: a verdict line, and a line with literals, gaps between them and a
zero behind. Where the literals name each id of a range, and none with both signs, the line is read
as an assignment of the range.
-/

namespace SatClient.Reply

open SatClient.Text

/-- The parts of a reply: blanks before the first literal, the literals with the gaps behind them,
and everything after the zero, on that line and below. -/
structure Answer where
  lead : List Char := []
  pieces : List (List Char × List Char)
  rest : List Char := []

def IsSpacing (gap : List Char) : Prop :=
  ∀ c ∈ gap, isBlank c = true ∧ c ≠ '\n'

instance (gap : List Char) : Decidable (IsSpacing gap) :=
  List.decidableBAll (fun c => isBlank c = true ∧ c ≠ '\n') gap

def literalOf (token : List Char) : Int :=
  if signOf token then idOf token else -(idOf token : Int)

namespace Answer

def tokens (a : Answer) : List (List Char) :=
  a.pieces.map Prod.fst

def literals (a : Answer) : List Int :=
  a.tokens.map literalOf

def front (a : Answer) : List Char :=
  a.lead ++ a.pieces.flatMap fun piece => piece.1 ++ piece.2

def text (a : Answer) : List Char :=
  ['S', 'A', 'T'] ++ '\n' :: (a.front ++ '0' :: a.rest)

def line (a : Answer) : List Char :=
  a.front ++ '0' :: a.rest.takeWhile (· ≠ '\n')

/-- A reply that gives each of the first ids one sign. -/
structure Complete (a : Answer) (count : Nat) : Prop where
  lead : IsSpacing a.lead
  shapes : ∀ token ∈ a.tokens, IsLiteral token
  gaps : ∀ piece ∈ a.pieces, piece.2 ≠ [] ∧ IsSpacing piece.2
  rest : StartsApart a.rest
  named : ∀ id, (∃ token ∈ a.tokens, idOf token = id) ↔ 0 < id ∧ id ≤ count
  single : ∀ t ∈ a.tokens, ∀ u ∈ a.tokens, idOf t = idOf u → signOf t = signOf u

end Answer

namespace Answer

section

variable {a : Answer} {count : Nat} (complete : a.Complete count)

include complete

theorem newline_not_mem_front : '\n' ∉ a.front := by
  intro member
  rcases List.mem_append.mp member with leading | inside
  · exact (complete.lead _ leading).2 rfl
  · obtain ⟨piece, present, within⟩ := List.mem_flatMap.mp inside
    rcases List.mem_append.mp within with token | gap
    · have shape := complete.shapes piece.1 (List.mem_map_of_mem present)
      have visible := (solid_of_isLiteral shape).2 '\n' token
      exact absurd visible (by decide)
    · exact ((complete.gaps piece present).2 _ gap).2 rfl

theorem takeWhile_body : (a.front ++ '0' :: a.rest).takeWhile (· ≠ '\n') = a.line := by
  have each : ∀ c ∈ a.front, decide (c ≠ '\n') = true := by
    intro c member
    have differ : c ≠ '\n' := fun same => newline_not_mem_front complete (same ▸ member)
    simpa using differ
  rw [List.takeWhile_append_of_pos each, line]
  simp

theorem words_line : words a.line = a.tokens ++ ['0'] :: words (a.rest.takeWhile (· ≠ '\n')) := by
  have apart : StartsApart (a.rest.takeWhile (· ≠ '\n')) := by
    intro c first
    apply complete.rest c
    cases rest : a.rest with
    | nil =>
        rw [rest] at first
        cases first
    | cons d cs =>
        rw [rest] at first
        by_cases breaks : d = '\n'
        · simp [breaks] at first
        · simpa [List.takeWhile_cons, breaks] using first
  have solid : ∀ piece ∈ a.pieces, piece.1 ≠ [] ∧ ∀ c ∈ piece.1, isBlank c = false := by
    intro piece member
    exact solid_of_isLiteral (complete.shapes piece.1 (List.mem_map_of_mem member))
  have gaps : ∀ piece ∈ a.pieces, piece.2 ≠ [] ∧ ∀ c ∈ piece.2, isBlank c = true := by
    intro piece member
    obtain ⟨separate, gap⟩ := complete.gaps piece member
    exact ⟨separate, fun c inside => (gap c inside).1⟩
  have lead : ∀ c ∈ a.lead, isBlank c = true := fun c member => (complete.lead c member).1
  have digit : ∀ c ∈ ['0'], isBlank c = false := by
    intro c member
    rw [List.mem_singleton.mp member]
    rfl
  have zero : words (['0'] ++ a.rest.takeWhile (· ≠ '\n')) =
      ['0'] :: words (a.rest.takeWhile (· ≠ '\n')) :=
    words_append_of_solid (by simp) digit apart
  rw [line, front, List.append_assoc, words_append_of_blank lead, words_flatMap solid gaps]
  exact congrArg (a.tokens ++ ·) zero

/-- Zero is no id of the range, so no token ends the assignment early. -/
theorem ne_zero_of_mem {token : List Char} (member : token ∈ a.tokens) : token ≠ ['0'] := by
  intro zero
  have known := (complete.named (idOf token)).mp ⟨token, member, rfl⟩
  rw [zero] at known
  exact absurd known.1 (by decide)

theorem assignment_line (fits : ∀ token ∈ a.tokens, Fits token) :
    assignment (some a.line) = .ok (a.tokens.map pairOf) := by
  rw [assignment, words_line complete]
  apply literals_append
  intro token member
  exact ⟨ne_zero_of_mem complete member, complete.shapes token member, fits token member⟩

theorem assignment_line_excess (long : ∃ token ∈ a.tokens, ¬ Fits token) :
    ∃ digits, digitLimit < digits ∧ assignment (some a.line) = .error (.excessDigits digits) := by
  rw [assignment, words_line complete]
  apply literals_append_excess _ _ long
  intro token member
  exact ⟨ne_zero_of_mem complete member, complete.shapes token member⟩

theorem named_line : named a.line = a.tokens := by
  rw [named, words_line complete, List.takeWhile_append_of_pos]
  · simp
  · intro token member
    simpa using ne_zero_of_mem complete member

/-- A token decides the value of its id, since no other one disagrees with it. -/
theorem valuesOf_literals {token : List Char} (member : token ∈ a.tokens) :
    Dimacs.valuesOf a.literals (idOf token) = signOf token := by
  have positive := ((complete.named (idOf token)).mp ⟨token, member, rfl⟩).1
  cases sign : signOf token with
  | true =>
      apply decide_eq_true
      apply List.mem_map.mpr
      exact ⟨token, member, by rw [literalOf, sign, if_pos rfl]⟩
  | false =>
      apply decide_eq_false
      intro named
      obtain ⟨other, inside, same⟩ := List.mem_map.mp named
      cases positively : signOf other with
      | false =>
          rw [literalOf, positively, if_neg (by decide)] at same
          omega
      | true =>
          rw [literalOf, positively, if_pos rfl] at same
          have agree := complete.single other inside token member (Int.ofNat.inj same)
          rw [positively, sign] at agree
          cases agree

theorem lastSign_line (id : Nat) :
    lastSign a.line id =
      if 0 < id ∧ id ≤ count then some (Dimacs.valuesOf a.literals id) else none := by
  rw [lastSign, named_line complete]
  -- Whichever token of the id comes last, it has the sign that all tokens of the id have.
  cases found : a.tokens.reverse.find? fun token => idOf token == id with
  | none =>
      have absent : ¬ (0 < id ∧ id ≤ count) := by
        intro known
        obtain ⟨token, member, same⟩ := (complete.named id).mpr known
        have other := List.find?_eq_none.mp found token (List.mem_reverse.mpr member)
        exact other (beq_iff_eq.mpr same)
      rw [if_neg absent]
      rfl
  | some token =>
      have member := List.mem_reverse.mp (List.mem_of_find?_eq_some found)
      have same : idOf token = id := by simpa using List.find?_some found
      have known := (complete.named id).mp ⟨token, member, same⟩
      rw [if_pos known, ← same, valuesOf_literals complete member]
      rfl

end

end Answer

end SatClient.Reply
