import SatClient.Reply
import SatClient.Proofs.Text.Decimal
import SatClient.Proofs.Text.Pieces
/-!
What an assignment line says, without its reading: the words before the first zero, each with an id
and a sign. Reading a line succeeds exactly when there is a zero and every word before it is a
literal that can be converted, and then gives the ids and signs in their order.
-/

namespace SatClient.Reply

open SatClient.Text

def named (line : List Char) : List (List Char) :=
  (words line).takeWhile (· ≠ ['0'])

def idOf (token : List Char) : Nat :=
  digitsValue (splitMinus token).2

def signOf (token : List Char) : Bool :=
  !(splitMinus token).1

def pairOf (token : List Char) : Nat × Bool :=
  (idOf token, signOf token)

def lastSign (line : List Char) (id : Nat) : Option Bool :=
  ((named line).reverse.find? fun token => idOf token == id).map signOf

def IsLiteral (token : List Char) : Prop :=
  (splitMinus token).2 ≠ [] ∧ ∀ c ∈ (splitMinus token).2, isDigit c = true

instance (token : List Char) : Decidable (IsLiteral token) :=
  haveI := List.decidableBAll (fun c => isDigit c = true) (splitMinus token).2
  instDecidableAnd

def Fits (token : List Char) : Prop :=
  (splitMinus token).2.length ≤ digitLimit

instance (token : List Char) : Decidable (Fits token) :=
  Nat.decLe _ _

theorem digitsOnly_iff (token : List Char) :
    ((splitMinus token).2.isEmpty || !(splitMinus token).2.all isDigit) = false ↔
      IsLiteral token := by
  rw [Bool.or_eq_false_iff, List.isEmpty_eq_false_iff, Bool.not_eq_false', List.all_eq_true]
  rfl

theorem literal_of_fits {token : List Char} (shape : IsLiteral token) (fits : Fits token) :
    literal token = .ok (pairOf token) := by
  have digits := (digitsOnly_iff token).mpr shape
  have short : ¬ digitLimit < (splitMinus token).2.length := Nat.not_lt.mpr fits
  simp only [literal, digits, Bool.false_eq_true, if_false, if_neg short]
  rfl

theorem literal_of_excess {token : List Char} (shape : IsLiteral token) (long : ¬ Fits token) :
    literal token = .error (.excessDigits (splitMinus token).2.length) := by
  have digits := (digitsOnly_iff token).mpr shape
  have excess : digitLimit < (splitMinus token).2.length := Nat.not_le.mp long
  simp only [literal, digits, Bool.false_eq_true, if_false, if_pos excess]

theorem literal_of_malformed {token : List Char} (other : ¬ IsLiteral token) :
    literal token = .error (.malformedLiteral (String.ofList token)) := by
  have mixed : ((splitMinus token).2.isEmpty || !(splitMinus token).2.all isDigit) = true := by
    rw [← Bool.not_eq_false, digitsOnly_iff]
    exact other
  simp only [literal, mixed, if_true]

theorem shape_of_literal {token : List Char} {pair : Nat × Bool}
    (read : literal token = .ok pair) : IsLiteral token ∧ Fits token := by
  simp only [literal] at read
  split at read
  · cases read
  · next digits =>
      split at read
      · cases read
      · next short =>
          exact ⟨(digitsOnly_iff token).mp (Bool.not_eq_true _ ▸ digits), Nat.not_lt.mp short⟩

theorem solid_of_isLiteral {token : List Char} (shape : IsLiteral token) :
    token ≠ [] ∧ ∀ c ∈ token, isBlank c = false := by
  obtain ⟨nonempty, digits⟩ := shape
  cases token with
  | nil => exact absurd rfl nonempty
  | cons c cs =>
      refine ⟨List.cons_ne_nil c cs, ?_⟩
      by_cases minus : c = '-'
      · subst minus
        intro d member
        rcases List.mem_cons.mp member with rfl | inside
        · decide
        · exact isBlank_of_isDigit (digits d inside)
      · have plain : (splitMinus (c :: cs)).2 = c :: cs := by
          unfold splitMinus
          split
          · next starts =>
              cases starts
              exact absurd rfl minus
          · rfl
        rw [plain] at digits
        intro d member
        exact isBlank_of_isDigit (digits d member)

def Readable (token : List Char) : Prop :=
  token ≠ ['0'] ∧ IsLiteral token ∧ Fits token

/-- Words that are read stand in front of what the rest gives, also where the rest fails. -/
theorem literals_append_of_readable {tokens : List (List Char)} (rest : List (List Char))
    (readable : ∀ token ∈ tokens, Readable token) :
    literals (tokens ++ rest) = (literals rest).map (tokens.map pairOf ++ ·) := by
  induction tokens with
  | nil =>
      rw [List.nil_append]
      cases literals rest <;> rfl
  | cons token tokens ih =>
      obtain ⟨⟨other, shape, fits⟩, later⟩ := List.forall_mem_cons.mp readable
      rw [List.cons_append, literals, if_neg other, literal_of_fits shape fits, ih later]
      cases literals rest <;> rfl

theorem literals_append {tokens : List (List Char)} (rest : List (List Char))
    (readable : ∀ token ∈ tokens, Readable token) :
    literals (tokens ++ ['0'] :: rest) = .ok (tokens.map pairOf) := by
  rw [literals_append_of_readable _ readable, literals, if_pos rfl]
  exact congrArg Except.ok (List.append_nil _)

theorem literals_append_excess {tokens : List (List Char)} (rest : List (List Char))
    (shapes : ∀ token ∈ tokens, token ≠ ['0'] ∧ IsLiteral token)
    (long : ∃ token ∈ tokens, ¬ Fits token) :
    ∃ digits, digitLimit < digits ∧
      literals (tokens ++ rest) = .error (.excessDigits digits) := by
  induction tokens with
  | nil =>
      obtain ⟨token, absent, _⟩ := long
      cases absent
  | cons token tokens ih =>
      obtain ⟨other, shape⟩ := shapes token (by simp)
      rw [List.cons_append, literals, if_neg other]
      by_cases fits : Fits token
      · have later : ∃ t ∈ tokens, ¬ Fits t := by
          obtain ⟨t, member, excess⟩ := long
          rcases List.mem_cons.mp member with rfl | inside
          · exact absurd fits excess
          · exact ⟨t, inside, excess⟩
        obtain ⟨digits, beyond, failed⟩ :=
          ih (fun t member => shapes t (List.mem_cons_of_mem _ member)) later
        refine ⟨digits, beyond, ?_⟩
        rw [literal_of_fits shape fits]
        simp [failed]
      · refine ⟨(splitMinus token).2.length, Nat.not_le.mp fits, ?_⟩
        rw [literal_of_excess shape fits]

theorem readable_of_literals {tokens : List (List Char)} {pairs : List (Nat × Bool)}
    (read : literals tokens = .ok pairs) :
    ['0'] ∈ tokens ∧ (∀ token ∈ tokens.takeWhile (· ≠ ['0']), IsLiteral token ∧ Fits token) ∧
      pairs = (tokens.takeWhile (· ≠ ['0'])).map pairOf := by
  induction tokens generalizing pairs with
  | nil => cases read
  | cons token tokens ih =>
      rw [literals] at read
      split at read
      · next ends =>
          cases read
          simp [ends]
      · next other =>
          split at read
          · cases read
          · next pair first =>
              have shape := shape_of_literal first
              rw [literal_of_fits shape.1 shape.2] at first
              cases first
              split at read
              · cases read
              · next later rest =>
                  cases read
                  obtain ⟨terminated, readable, rfl⟩ := ih rest
                  rw [List.takeWhile_cons_of_pos (by simpa using other), List.forall_mem_cons]
                  exact ⟨List.mem_cons_of_mem _ terminated, ⟨shape, readable⟩, rfl⟩

/-- Reading succeeds exactly when there is a zero and every word before it can be converted. -/
theorem literals_eq_ok (tokens : List (List Char)) (pairs : List (Nat × Bool)) :
    literals tokens = .ok pairs ↔
      ['0'] ∈ tokens ∧ (∀ token ∈ tokens.takeWhile (· ≠ ['0']), IsLiteral token ∧ Fits token) ∧
        pairs = (tokens.takeWhile (· ≠ ['0'])).map pairOf := by
  constructor
  · exact readable_of_literals
  · rintro ⟨terminated, readable, rfl⟩
    obtain ⟨before, rest, rfl, free⟩ := List.eq_append_cons_of_mem terminated
    have each : ∀ token ∈ before, token ≠ ['0'] := fun token member same => free (same ▸ member)
    have kept : (before ++ ['0'] :: rest).takeWhile (· ≠ ['0']) = before := by
      rw [List.takeWhile_append_of_pos fun token member => by simpa using each token member]
      simp
    rw [kept] at readable ⊢
    exact literals_append rest fun token member => ⟨each token member, readable token member⟩

/-- Whether reading comes to a literal that is too long, past literals that can be converted. -/
def Overlong (tokens : List (List Char)) (digits : Nat) : Prop :=
  ∃ before token rest, tokens = before ++ token :: rest ∧
    (∀ t ∈ before, t ≠ ['0'] ∧ IsLiteral t ∧ Fits t) ∧
    IsLiteral token ∧ ¬ Fits token ∧ (splitMinus token).2.length = digits

theorem literals_of_overlong {tokens : List (List Char)} {digits : Nat}
    (long : Overlong tokens digits) : literals tokens = .error (.excessDigits digits) := by
  obtain ⟨before, token, rest, rfl, readable, shape, excess, rfl⟩ := long
  have other : token ≠ ['0'] := by
    rintro rfl
    exact excess (by decide)
  rw [literals_append_of_readable _ readable, literals, if_neg other,
    literal_of_excess shape excess]
  rfl

theorem overlong_of_digits {digits : List Char} (shape : ∀ c ∈ digits, isDigit c = true)
    (long : digitLimit < digits.length) (rest : List Char) :
    Overlong (words (digits ++ ' ' :: rest)) digits.length := by
  have nonempty : digits ≠ [] := List.ne_nil_of_length_pos (Nat.zero_lt_of_lt long)
  have unsigned : (splitMinus digits).2 = digits := by
    unfold splitMinus
    split
    · have minus : isDigit '-' = true := shape '-' List.mem_cons_self
      exact absurd minus (by decide)
    · rfl
  have solid : ∀ c ∈ digits, isBlank c = false := fun c member => isBlank_of_isDigit (shape c member)
  have apart : StartsApart (' ' :: rest) := startsApart_cons (by decide) rest
  refine ⟨[], digits, _, words_append_of_solid nonempty solid apart, by simp, ?_, ?_, ?_⟩
  · rw [IsLiteral, unsigned]
    exact ⟨nonempty, shape⟩
  · rw [Fits, unsigned]
    exact Nat.not_le.mpr long
  · rw [unsigned]

inductive Breaks (tokens : List (List Char)) : Failure → Prop
  | malformed {before rest : List (List Char)} {token : List Char}
      (cut : tokens = before ++ token :: rest) (readable : ∀ t ∈ before, Readable t)
      (other : ¬ IsLiteral token) : Breaks tokens (.malformedLiteral (String.ofList token))
  | unterminated (readable : ∀ t ∈ tokens, Readable t) : Breaks tokens .unterminatedAssignment
  | overlong {digits : Nat} (long : Overlong tokens digits) :
      Breaks tokens (.excessDigits digits)

theorem breaks_cons {token : List Char} {tokens : List (List Char)} {failure : Failure}
    (first : Readable token) (breaks : Breaks tokens failure) :
    Breaks (token :: tokens) failure := by
  cases breaks with
  | malformed cut readable other =>
      exact .malformed (congrArg (token :: ·) cut) (List.forall_mem_cons.mpr ⟨first, readable⟩) other
  | unterminated readable => exact .unterminated (List.forall_mem_cons.mpr ⟨first, readable⟩)
  | overlong long =>
      obtain ⟨before, late, rest, cut, readable, excess⟩ := long
      exact .overlong ⟨token :: before, late, rest, congrArg (token :: ·) cut,
        List.forall_mem_cons.mpr ⟨first, readable⟩, excess⟩

theorem breaks_of_literals {tokens : List (List Char)} {failure : Failure}
    (failed : literals tokens = .error failure) : Breaks tokens failure := by
  induction tokens with
  | nil =>
      cases failed
      exact .unterminated nofun
  | cons token tokens ih =>
      rw [literals] at failed
      split at failed
      · cases failed
      · next other =>
          by_cases shape : IsLiteral token
          · by_cases fits : Fits token
            · rw [literal_of_fits shape fits] at failed
              cases rest : literals tokens with
              | ok pairs =>
                  simp only [rest] at failed
                  cases failed
              | error cause =>
                  simp only [rest] at failed
                  cases failed
                  exact breaks_cons ⟨other, shape, fits⟩ (ih rest)
            · rw [literal_of_excess shape fits] at failed
              cases failed
              exact .overlong ⟨[], token, tokens, rfl, nofun, shape, fits, rfl⟩
          · rw [literal_of_malformed shape] at failed
            cases failed
            exact .malformed (List.nil_append (token :: tokens)).symm (by simp) shape

/-- Reading fails exactly for one of the causes, and with the failure of that cause. -/
theorem literals_eq_error (tokens : List (List Char)) (failure : Failure) :
    literals tokens = .error failure ↔ Breaks tokens failure := by
  constructor
  · exact breaks_of_literals
  · intro breaks
    cases breaks with
    | @malformed before rest token cut readable other =>
        have nonzero : token ≠ ['0'] := by
          rintro rfl
          exact other (by decide)
        rw [cut, literals_append_of_readable _ readable, literals, if_neg nonzero,
          literal_of_malformed other]
        rfl
    | unterminated readable =>
        have failed := literals_append_of_readable [] readable
        rwa [List.append_nil] at failed
    | overlong long => exact literals_of_overlong long

theorem failure_of_literals {tokens : List (List Char)} {failure : Failure}
    (failed : literals tokens = .error failure) :
    failure.kind = .reply ∨ ∃ digits, failure = .excessDigits digits ∧ Overlong tokens digits := by
  cases breaks_of_literals failed with
  | malformed _ _ _ => exact Or.inl rfl
  | unterminated _ => exact Or.inl rfl
  | overlong long => exact Or.inr ⟨_, rfl, long⟩

theorem failure_of_assignment {line : Option (List Char)} {failure : Failure}
    (failed : assignment line = .error failure) : failure.kind = .reply ∨
      ∃ text digits, line = some text ∧ failure = .excessDigits digits ∧
        Overlong (words text) digits := by
  cases line with
  | none =>
      cases failed
      exact Or.inl rfl
  | some text =>
      rcases failure_of_literals failed with kind | ⟨digits, same, long⟩
      · exact Or.inl kind
      · exact Or.inr ⟨text, digits, rfl, same, long⟩

theorem lt_of_assignment {line : Option (List Char)} {pairs : List (Nat × Bool)}
    (read : assignment line = .ok pairs) : ∀ pair ∈ pairs, pair.1 < 10 ^ digitLimit := by
  cases line with
  | none => cases read
  | some text =>
      obtain ⟨_, readable, rfl⟩ := readable_of_literals read
      intro pair member
      obtain ⟨token, inside, rfl⟩ := List.mem_map.mp member
      have short := (readable token inside).2
      calc idOf token < 10 ^ (splitMinus token).2.length := digitsValue_lt _
        _ ≤ 10 ^ digitLimit := Nat.pow_le_pow_right (by decide) short

theorem lookup_pairs (tokens : List (List Char)) (id : Nat) :
    (tokens.map pairOf).reverse.lookup id =
      (tokens.reverse.find? fun token => idOf token == id).map signOf := by
  rw [← List.map_reverse]
  induction tokens.reverse with
  | nil => rfl
  | cons token rest ih =>
      by_cases same : idOf token = id
      · simp [pairOf, same]
      · have differ : (id == idOf token) = false := beq_false_of_ne (Ne.symm same)
        simpa [pairOf, List.lookup_cons, same, differ] using ih

theorem lookup_of_assignment {line : List Char} {pairs : List (Nat × Bool)}
    (read : assignment (some line) = .ok pairs) (id : Nat) :
    pairs.reverse.lookup id = lastSign line id := by
  rw [(readable_of_literals read).2.2]
  exact lookup_pairs (named line) id

end SatClient.Reply
