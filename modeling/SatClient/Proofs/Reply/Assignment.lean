import SatClient.Proofs.Reply
/-!
The shape of an assignment line, and the ids that it names. A line with a zero and nothing but
literals before it is read, whatever stands behind the zero; any other one breaks the grammar.
-/

namespace SatClient.Reply

open SatClient.Text

/-- A line with a zero, and nothing but literals before it. -/
def IsAssignment (line : List Char) : Prop :=
  ['0'] ∈ words line ∧ ∀ token ∈ named line, IsLiteral token

def ids (line : List Char) : List Nat :=
  (named line).map idOf

def firstOutside (count : Nat) (line : List Char) : Option Nat :=
  (ids line).find? fun id => !decide (0 < id ∧ id ≤ count)

theorem firstOutside_eq_none (count : Nat) (line : List Char) :
    firstOutside count line = none ↔ ∀ id ∈ ids line, 0 < id ∧ id ≤ count := by
  simp [firstOutside, List.find?_eq_none, Nat.pos_iff_ne_zero]

theorem outside_of_firstOutside {count id : Nat} {line : List Char}
    (found : firstOutside count line = some id) : id ∈ ids line ∧ ¬ (0 < id ∧ id ≤ count) := by
  unfold firstOutside at found
  have outside := List.find?_some found
  exact ⟨List.mem_of_find?_eq_some found, of_decide_eq_false ((Bool.not_eq_true' _).mp outside)⟩

theorem lastSign_eq_none (line : List Char) (id : Nat) :
    lastSign line id = none ↔ id ∉ ids line := by
  simp [lastSign, ids]

theorem lastSign_eq_some (line : List Char) (id : Nat) (sign : Bool) :
    lastSign line id = some sign ↔ ∃ before token after, named line = before ++ token :: after ∧
      idOf token = id ∧ signOf token = sign ∧ id ∉ after.map idOf := by
  rw [lastSign, Option.map_eq_some_iff]
  simp only [List.find?_eq_some_iff_append, beq_iff_eq]
  constructor
  · rintro ⟨token, ⟨same, front, back, split, free⟩, said⟩
    refine ⟨back.reverse, token, front.reverse, ?_, same, said, ?_⟩
    · simpa using congrArg List.reverse split
    · simpa using free
  · rintro ⟨before, token, after, split, same, said, free⟩
    refine ⟨token, ⟨same, after.reverse, before.reverse, ?_, ?_⟩, said⟩
    · simp [split]
    · simpa using free

theorem assignment_of_isAssignment {line : List Char} (shape : IsAssignment line)
    (fits : ∀ token ∈ words line, IsLiteral token → Fits token) :
    assignment (some line) = .ok ((named line).map pairOf) := by
  refine (literals_eq_ok (words line) _).mpr ⟨shape.1, ?_, rfl⟩
  intro token member
  have literal := shape.2 token member
  exact ⟨literal, fits token ((List.takeWhile_prefix _).subset member) literal⟩

theorem assignment_of_broken {line : List Char} (broken : ¬ IsAssignment line)
    (fits : ∀ token ∈ words line, IsLiteral token → Fits token) :
    ∃ failure, assignment (some line) = .error failure ∧ failure.kind = .reply := by
  cases read : assignment (some line) with
  | ok pairs =>
      obtain ⟨terminated, readable, _⟩ := (literals_eq_ok (words line) pairs).mp read
      exact absurd ⟨terminated, fun token member => (readable token member).1⟩ broken
  | error failure =>
      refine ⟨failure, rfl, ?_⟩
      rcases failure_of_literals read with kind | ⟨_, _, before, token, rest, cut, _, shape, long, _⟩
      · exact kind
      · exact absurd (fits token (by simp [cut]) shape) long

theorem literals_of_terminated (before rest rest' : List (List Char)) :
    literals (before ++ ['0'] :: rest) = literals (before ++ ['0'] :: rest') := by
  induction before with
  | nil => simp [literals]
  | cons token before ih => simp [literals, ih]

end SatClient.Reply
