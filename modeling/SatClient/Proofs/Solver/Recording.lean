import SatClient.Proofs.Solver.Attempt
/-!
Recording a reply is all or nothing. Here the values are put down one after the other, and the
registry is kept that stands when a step fails; it is the old one, since every id is looked up
before the first value is put down and no later step can fail.
-/

namespace SatClient

namespace Registry

def recordEach (r : Registry) : List (Nat × Bool) → Registry × Except Failure Unit
  | [] => (r, .ok ())
  | (id, value) :: pairs =>
    match r.record id value with
    | .ok s => s.recordEach pairs
    | .error failure => (r, .error failure)

/-- A registry with the values of another and those of a list of pairs over them, the last pair of
an id before the others. -/
structure Overridden (r : Registry) (pairs : List (Nat × Bool)) (s : Registry) : Prop where
  identity : s.id = r.id
  allocation : s.allocated = r.allocated
  named : ∀ before id value after, pairs = before ++ (id, value) :: after →
    id ∉ after.map Prod.fst → s.results.get? id = some value
  unnamed : ∀ id, id ∉ pairs.map Prod.fst → s.results.get? id = r.results.get? id

theorem recordAll_eq_recordEach (r : Registry) (pairs : List (Nat × Bool)) :
    r.recordAll pairs = (r.recordEach pairs).2.map fun _ => (r.recordEach pairs).1 := by
  induction pairs generalizing r with
  | nil => rfl
  | cons pair pairs ih =>
      obtain ⟨id, value⟩ := pair
      rw [recordAll, recordEach]
      cases r.record id value with
      | ok s => exact ih s
      | error failure => rfl

theorem recordEach_eq {r : Registry} (sound : r.Sound) {pairs : List (Nat × Bool)}
    (known : ∀ pair ∈ pairs, r.Allocates pair.1) :
    r.recordEach pairs = ({ r with results := r.results.putAll pairs }, .ok ()) := by
  have all := recordAll_eq sound pairs known
  rw [recordAll_eq_recordEach] at all
  cases each : r.recordEach pairs with
  | mk left outcome =>
      rw [each] at all
      cases outcome with
      | error failure => cases all
      | ok done => exact congrArg (·, Except.ok done) (Except.ok.inj all)

theorem overridden_putAll (r : Registry) (pairs : List (Nat × Bool)) :
    Overridden r pairs { r with results := r.results.putAll pairs } := by
  constructor
  case identity => rfl
  case allocation => rfl
  case named =>
    rintro before id value after rfl last
    exact r.results.get?_putAll_of_last before last
  case unnamed =>
    intro id absent
    exact r.results.get?_putAll_of_not_mem absent

end Registry

namespace Solver.Result

def recordSteps (result : Result) (registry : Registry) (line : Option (List Char)) :
    Registry × Except Failure Unit :=
  if result.satisfiable then
    match Reply.assignment line with
    | .error failure => (registry, .error failure)
    | .ok pairs =>
      match firstUnknown? registry pairs with
      | some id => (registry, .error (.neverAllocated id))
      | none => registry.recordEach pairs
  else (registry, .error .unexpectedAssignment)

/-- Why nothing is recorded, each cause with its failure: a refuted problem, no line, a line that
is not read, or an id that was never allocated, of which the first is named. -/
inductive Refuses (result : Result) (registry : Registry) : Option (List Char) → Failure → Prop
  | refuted {line : Option (List Char)} (refuted : result.satisfiable = false) :
      Refuses result registry line .unexpectedAssignment
  | missing (satisfied : result.satisfiable = true) : Refuses result registry none .noAssignment
  | broken {text : List Char} {failure : Failure} (satisfied : result.satisfiable = true)
      (breaks : Reply.Breaks (Text.words text) failure) :
      Refuses result registry (some text) failure
  | unknown {text : List Char} {before rest : List (Nat × Bool)} {id : Nat} {value : Bool}
      (satisfied : result.satisfiable = true)
      (said : Reply.assignment (some text) = .ok (before ++ (id, value) :: rest))
      (known : ∀ pair ∈ before, registry.Allocates pair.1) (free : ¬ registry.Allocates id) :
      Refuses result registry (some text) (.neverAllocated id)

/-- All or nothing: a failure leaves the registry as it was, and a success puts the values of the
line over the old ones. -/
structure Records (result : Result) (registry : Registry) (line : Option (List Char))
    (left : Registry) (outcome : Except Failure Unit) : Prop where
  fails : ∀ failure, outcome = .error failure ↔ Refuses result registry line failure
  kinds : ∀ failure, outcome = .error failure → failure.kind = .reply ∨
    failure.kind = .unknownVariable ∨ ∃ digits, failure = .excessDigits digits
  unchanged : ∀ failure, outcome = .error failure → left = registry
  recorded : outcome = .ok () → ∃ pairs, Reply.assignment line = .ok pairs ∧
    (∀ pair ∈ pairs, registry.Allocates pair.1) ∧ registry.Overridden pairs left
  whole : ∀ pairs, firstUnknown? registry pairs = none → (registry.recordEach pairs).2 = .ok ()

theorem addAssignment_eq (result : Result) (registry : Registry) (line : Option (List Char)) :
    result.addAssignment registry line =
      (result.recordSteps registry line).2.map fun _ => (result.recordSteps registry line).1 := by
  unfold addAssignment recordReply recordSteps
  cases result.satisfiable with
  | false => rfl
  | true =>
      cases Reply.assignment line with
      | error failure => rfl
      | ok pairs =>
          simp only [if_true]
          cases firstUnknown? registry pairs with
          | some id => rfl
          | none => exact registry.recordAll_eq_recordEach pairs

section

variable {registry : Registry} (sound : registry.Sound)

include sound

theorem firstUnknown?_eq_some (pairs : List (Nat × Bool)) (id : Nat) :
    firstUnknown? registry pairs = some id ↔ ∃ before value rest,
      pairs = before ++ (id, value) :: rest ∧ (∀ pair ∈ before, registry.Allocates pair.1) ∧
        ¬ registry.Allocates id := by
  have allocates (pair : Nat × Bool) :
      (!(registry.find? pair.1).isNone) = true ↔ registry.Allocates pair.1 := by
    rw [Bool.not_eq_true', ← Bool.not_eq_true, Registry.find?_isNone_iff sound, Classical.not_not]
  rw [firstUnknown?, Option.map_eq_some_iff]
  simp only [List.find?_eq_some_iff_append, Registry.find?_isNone_iff sound, allocates]
  constructor
  · rintro ⟨⟨_, value⟩, ⟨free, before, rest, split, known⟩, rfl⟩
    exact ⟨before, value, rest, split, known, free⟩
  · rintro ⟨before, value, rest, split, known, free⟩
    exact ⟨(id, value), ⟨free, before, rest, split, known⟩, rfl⟩

theorem recordSteps_of_refuses {result : Result} {line : Option (List Char)} {failure : Failure}
    (refuses : Refuses result registry line failure) :
    result.recordSteps registry line = (registry, .error failure) := by
  cases refuses with
  | refuted refuted => simp [recordSteps, refuted]
  | missing satisfied => simp [recordSteps, satisfied, Reply.assignment]
  | broken satisfied breaks =>
      have failed := (Reply.literals_eq_error _ _).mpr breaks
      simp [recordSteps, satisfied, Reply.assignment, failed]
  | @unknown _ before rest id value satisfied said known free =>
      have first := (firstUnknown?_eq_some sound _ id).mpr ⟨before, value, rest, rfl, known, free⟩
      simp [recordSteps, satisfied, said, first]

theorem recordSteps_cases (result : Result) (line : Option (List Char)) :
    (∃ failure, Refuses result registry line failure) ∨
      ∃ pairs, Reply.assignment line = .ok pairs ∧ (∀ pair ∈ pairs, registry.Allocates pair.1) ∧
        result.recordSteps registry line =
          ({ registry with results := registry.results.putAll pairs }, .ok ()) := by
  cases satisfied : result.satisfiable with
  | false => exact Or.inl ⟨_, .refuted satisfied⟩
  | true =>
      cases read : Reply.assignment line with
      | error failure =>
          cases line with
          | none => exact Or.inl ⟨_, .missing satisfied⟩
          | some text => exact Or.inl ⟨_, .broken satisfied (Reply.breaks_of_literals read)⟩
      | ok pairs =>
          cases first : firstUnknown? registry pairs with
          | some id =>
              obtain ⟨before, value, rest, rfl, known, free⟩ :=
                (firstUnknown?_eq_some sound pairs id).mp first
              cases line with
              | none => cases read
              | some text => exact Or.inl ⟨_, .unknown satisfied read known free⟩
          | none =>
              have known := (firstUnknown?_eq_none sound pairs).mp first
              refine Or.inr ⟨pairs, rfl, known, ?_⟩
              simp only [recordSteps, satisfied, if_true, read, first]
              exact Registry.recordEach_eq sound known

omit sound in
theorem kind_of_refuses {result : Result} {line : Option (List Char)} {failure : Failure}
    (refuses : Refuses result registry line failure) : failure.kind = .reply ∨
      failure.kind = .unknownVariable ∨ ∃ digits, failure = .excessDigits digits := by
  cases refuses with
  | refuted _ => exact Or.inl rfl
  | missing _ => exact Or.inl rfl
  | broken _ breaks =>
      cases breaks with
      | malformed _ _ _ => exact Or.inl rfl
      | unterminated _ => exact Or.inl rfl
      | overlong _ => exact Or.inr (Or.inr ⟨_, rfl⟩)
  | unknown _ _ _ _ => exact Or.inr (Or.inl rfl)

theorem records_recordSteps (result : Result) (line : Option (List Char)) :
    Records result registry line (result.recordSteps registry line).1
      (result.recordSteps registry line).2 := by
  have whole : ∀ pairs, firstUnknown? registry pairs = none →
      (registry.recordEach pairs).2 = .ok () := by
    intro pairs first
    rw [Registry.recordEach_eq sound ((firstUnknown?_eq_none sound pairs).mp first)]
  rcases recordSteps_cases sound result line with ⟨failure, refuses⟩ | ⟨pairs, said, known, made⟩
  · rw [recordSteps_of_refuses sound refuses]
    have same {other : Failure} (failed : Except.error failure = (.error other : Except _ Unit)) :
        other = failure := (Except.error.inj failed).symm
    constructor
    case fails =>
      intro other
      constructor
      · intro failed
        rwa [same failed]
      · intro refused
        have again := recordSteps_of_refuses sound refused
        rw [recordSteps_of_refuses sound refuses] at again
        exact congrArg Prod.snd again
    case kinds =>
      intro other failed
      rw [same failed]
      exact kind_of_refuses refuses
    case unchanged => exact fun _ _ => rfl
    case recorded => exact nofun
    case whole => exact whole
  · rw [made]
    constructor
    case fails =>
      intro other
      constructor
      · exact nofun
      · intro refused
        rw [recordSteps_of_refuses sound refused] at made
        have clash := congrArg Prod.snd made
        cases clash
    case kinds => exact nofun
    case unchanged => exact nofun
    case recorded => exact fun _ => ⟨pairs, said, known, Registry.overridden_putAll registry pairs⟩
    case whole => exact whole

end

end Solver.Result

end SatClient
