import Mathlib.Data.List.Forall2
import SatClient.Proofs.Reply.Assignment
import SatClient.Proofs.Text.Decimal
/-!
The grammar of assignment lines, and how far reading keeps to it. In the grammar a word before the
zero is an optional minus with plain decimal digits behind it, and it names a positive number.
Reading departs from this in two ways: it also takes digits of other scripts and spellings of zero,
and outside the grammar too a number that is too long stops it with a failure of another kind.
-/

namespace SatClient.Reply

open SatClient.Text

/-- Plain decimal digits of a positive number, with any zeros before it. -/
structure Writes (digits : List Char) (id : Nat) : Prop where
  nonempty : digits ≠ []
  plain : ∀ c ∈ digits, c.isDigit = true
  value : Nat.ofDigitChars 10 digits 0 = id
  positive : 0 < id

inductive Denotes : List Char → Nat × Bool → Prop
  | plain {digits : List Char} {id : Nat} (number : Writes digits id) : Denotes digits (id, true)
  | minus {digits : List Char} {id : Nat} (number : Writes digits id) :
      Denotes ('-' :: digits) (id, false)

/-- A line of the grammar: a zero ends it, and the words before the zero stand for the pairs. -/
def Conveys (line : List Char) (pairs : List (Nat × Bool)) : Prop :=
  ['0'] ∈ words line ∧ List.Forall₂ Denotes (named line) pairs

/-- What the grammar asks of an answer: pairs only for a line that conveys them, and a failure of
the reply for any line that conveys nothing. -/
structure Keeps (line : List Char) (answer : Except Failure (List (Nat × Bool))) : Prop where
  accepts : ∀ pairs, answer = .ok pairs → Conveys line pairs ∧ ∀ pair ∈ pairs, 1 ≤ pair.1
  refuses : (¬ ∃ pairs, Conveys line pairs) →
    ∃ failure, answer = .error failure ∧ failure.kind = .reply

/-- A literal that is none of the grammar: it spells zero, or has a digit of another script. -/
def IsLoose (token : List Char) : Prop :=
  idOf token = 0 ∨ ∃ c ∈ (splitMinus token).2, c.isDigit = false

inductive Departs (line : List Char) : Except Failure (List (Nat × Bool)) → Prop
  | lenient {token : List Char} (shape : IsAssignment line) (fits : ∀ t ∈ named line, Fits t)
      (member : token ∈ named line) (loose : IsLoose token) :
      Departs line (.ok ((named line).map pairOf))
  | stopped {digits : Nat} (other : ¬ ∃ pairs, Conveys line pairs)
      (long : Overlong (words line) digits) : Departs line (.error (.excessDigits digits))

/-- How an answer stands to the grammar: lines of it are read, as far as their numbers can be
converted, and it is kept except where reading departs from it. -/
structure Reading (line : List Char) (answer : Except Failure (List (Nat × Bool))) : Prop where
  reads : ∀ pairs, Conveys line pairs → (∀ token ∈ named line, Fits token) → answer = .ok pairs
  keeps : (¬ ∃ other, Departs line other) → Keeps line answer
  departs : ∀ other, Departs line other → answer = other ∧ ¬ Keeps line answer

theorem splitMinus_of_writes {digits : List Char} {id : Nat} (number : Writes digits id) :
    splitMinus digits = (false, digits) := by
  unfold splitMinus
  split
  · have minus : '-'.isDigit = true := number.plain '-' List.mem_cons_self
    exact absurd minus (by decide)
  · rfl

theorem isLiteral_of_denotes {token : List Char} {pair : Nat × Bool}
    (denotes : Denotes token pair) : IsLiteral token := by
  cases denotes with
  | plain number =>
      rw [IsLiteral, splitMinus_of_writes number]
      exact ⟨number.nonempty, fun c member => isDigit_of_plain (number.plain c member)⟩
  | minus number =>
      exact ⟨number.nonempty, fun c member => isDigit_of_plain (number.plain c member)⟩

theorem pairOf_of_denotes {token : List Char} {pair : Nat × Bool}
    (denotes : Denotes token pair) : pair = pairOf token ∧ 1 ≤ pair.1 ∧ ¬ IsLoose token := by
  cases denotes with
  | @plain _ id number =>
      have value : idOf token = id := by
        rw [idOf, splitMinus_of_writes number, digitsValue_of_plain number.plain, number.value]
      refine ⟨?_, number.positive, ?_⟩
      · rw [pairOf, value, signOf, splitMinus_of_writes number]
        rfl
      · rintro (zero | ⟨c, member, other⟩)
        · exact absurd (value.symm.trans zero) (Nat.ne_of_gt number.positive)
        · rw [splitMinus_of_writes number] at member
          rw [number.plain c member] at other
          cases other
  | @minus digits id number =>
      have value : idOf ('-' :: digits) = id :=
        (digitsValue_of_plain number.plain).trans number.value
      refine ⟨?_, number.positive, ?_⟩
      · rw [pairOf, value]
        rfl
      · rintro (zero | ⟨c, member, other⟩)
        · exact absurd (value.symm.trans zero) (Nat.ne_of_gt number.positive)
        · rw [number.plain c member] at other
          cases other

theorem denotes_of_isLiteral {token : List Char} (shape : IsLiteral token)
    (strict : ¬ IsLoose token) : Denotes token (pairOf token) := by
  have plain : ∀ c ∈ (splitMinus token).2, c.isDigit = true := by
    intro c member
    cases digit : c.isDigit with
    | true => rfl
    | false => exact absurd (Or.inr ⟨c, member, digit⟩) strict
  have number : Writes (splitMinus token).2 (idOf token) :=
    ⟨shape.1, plain, (digitsValue_of_plain plain).symm,
      Nat.pos_of_ne_zero fun zero => strict (Or.inl zero)⟩
  unfold splitMinus at number
  split at number
  · next digits => exact Denotes.minus number
  · next digits unsigned =>
      have sign : signOf token = true := by
        unfold signOf splitMinus
        split
        · next rest => exact absurd rfl (unsigned rest)
        · rfl
      rw [pairOf, sign]
      exact Denotes.plain number

theorem isAssignment_of_conveys {line : List Char} {pairs : List (Nat × Bool)}
    (conveys : Conveys line pairs) : IsAssignment line ∧ pairs = (named line).map pairOf ∧
      (∀ pair ∈ pairs, 1 ≤ pair.1) ∧ ∀ token ∈ named line, ¬ IsLoose token := by
  obtain ⟨terminated, denoted⟩ := conveys
  rw [IsAssignment, and_iff_right terminated]
  generalize named line = tokens at denoted ⊢
  induction denoted with
  | nil => simp
  | cons first rest ih =>
      obtain ⟨shapes, same, positive, strict⟩ := ih
      obtain ⟨pair, low, tight⟩ := pairOf_of_denotes first
      refine ⟨?_, ?_, ?_, ?_⟩
      · exact List.forall_mem_cons.mpr ⟨isLiteral_of_denotes first, shapes⟩
      · rw [List.map_cons, ← pair, ← same]
      · exact List.forall_mem_cons.mpr ⟨low, positive⟩
      · exact List.forall_mem_cons.mpr ⟨tight, strict⟩

theorem conveys_of_isAssignment {line : List Char} (shape : IsAssignment line)
    (strict : ∀ token ∈ named line, ¬ IsLoose token) :
    Conveys line ((named line).map pairOf) := by
  refine ⟨shape.1, List.forall₂_map_right_iff.mpr (List.forall₂_same.mpr ?_)⟩
  intro token member
  exact denotes_of_isLiteral (shape.2 token member) (strict token member)

theorem assignment_eq_ok (line : List Char) (pairs : List (Nat × Bool)) :
    assignment (some line) = .ok pairs ↔
      IsAssignment line ∧ (∀ token ∈ named line, Fits token) ∧ pairs = (named line).map pairOf := by
  rw [assignment, literals_eq_ok, IsAssignment]
  constructor
  · rintro ⟨terminated, readable, same⟩
    exact ⟨⟨terminated, fun token member => (readable token member).1⟩,
      fun token member => (readable token member).2, same⟩
  · rintro ⟨⟨terminated, shapes⟩, fits, same⟩
    exact ⟨terminated, fun token member => ⟨shapes token member, fits token member⟩, same⟩

theorem keeps_of_not_departs {line : List Char} (none : ¬ ∃ other, Departs line other) :
    Keeps line (assignment (some line)) := by
  have conveyed {pairs : List (Nat × Bool)} (read : assignment (some line) = .ok pairs) :
      Conveys line pairs := by
    obtain ⟨shape, fits, rfl⟩ := (assignment_eq_ok line pairs).mp read
    apply conveys_of_isAssignment shape
    intro token member loose
    exact none ⟨_, .lenient shape fits member loose⟩
  constructor
  case accepts =>
    intro pairs read
    exact ⟨conveyed read, (isAssignment_of_conveys (conveyed read)).2.2.1⟩
  case refuses =>
    intro other
    cases read : assignment (some line) with
    | ok pairs => exact absurd ⟨pairs, conveyed read⟩ other
    | error failure =>
        rcases failure_of_literals read with kind | ⟨digits, _, long⟩
        · exact ⟨failure, rfl, kind⟩
        · exact absurd ⟨_, .stopped other long⟩ none

theorem not_keeps_of_departs {line : List Char} {answer : Except Failure (List (Nat × Bool))}
    (departs : Departs line answer) : ¬ Keeps line answer := by
  intro keeps
  cases departs with
  | lenient _ _ member loose =>
      have conveys := (keeps.accepts _ rfl).1
      exact (isAssignment_of_conveys conveys).2.2.2 _ member loose
  | stopped other _ =>
      obtain ⟨failure, failed, kind⟩ := keeps.refuses other
      cases failed
      cases kind

/-- The grammar is kept except for lines with a loose literal, which are read, and for lines on
which a number that is too long comes before what breaks the grammar. -/
theorem reading_of_line (line : List Char) : Reading line (assignment (some line)) := by
  constructor
  case reads =>
    intro pairs conveys fits
    obtain ⟨shape, same, _⟩ := isAssignment_of_conveys conveys
    exact (assignment_eq_ok line pairs).mpr ⟨shape, fits, same⟩
  case keeps => exact keeps_of_not_departs
  case departs =>
    intro other departs
    have same : assignment (some line) = other := by
      cases departs with
      | lenient shape fits _ _ => exact (assignment_eq_ok line _).mpr ⟨shape, fits, rfl⟩
      | stopped _ long => exact literals_of_overlong long
    rw [same]
    exact ⟨rfl, not_keeps_of_departs departs⟩

example : assignment (some "1 -0 0".toList) = .ok [(1, true), (0, false)] := by rfl

end SatClient.Reply
