import SatClient.Proofs.Solver.Classification
import SatClient.Proofs.Text.Utf8
/-!
Which failures an attempt can end with. Most are of the kinds that an attempt announces. Five causes
raise a failure of another kind: an id in the clauses that is too long to be named, a stream that
does not take the echo, a null character in the command, a limit by which no wait can be bounded,
and a literal with too many digits to be converted.
-/

namespace SatClient.Solver

open SatClient.Decimal (Seconds)

def failureKinds : List Failure.Kind :=
  [.launch, .timeout, .solve, .reply, .unknownVariable]

theorem isReported_of_mem {kind : Failure.Kind} (announced : kind ∈ failureKinds) :
    kind.isReported = true := by
  revert kind
  simp [failureKinds, Failure.Kind.isReported]

/-- The failures that an attempt raises and that are of no announced kind, each with its cause. -/
inductive Escapes (p : Problem) (settings : Settings) (limit : Option Seconds)
    (behaviour : Behaviour) (sink : Sink) : Failure → Prop
  | unwritableNumber {failure : Failure} {id : Nat} (stopped : p.check = .error failure)
      (names : Problem.Names id failure) (long : 10 ^ Text.digitLimit ≤ id) :
      Escapes p settings limit behaviour sink .unwritableNumber
  | stuckEcho {room : Nat} {fault : StreamFault} (passes : p.check = .ok ())
      (verbose : settings.verbose = true) (fails : sink = .fails room fault)
      (short : room < p.text.length) : Escapes p settings limit behaviour sink fault.failure
  | embeddedNull (passes : p.check = .ok ()) (echoes : Echoes p settings sink)
      (null : settings.command.any Text.Utf8.hasNull = true) :
      Escapes p settings limit behaviour sink .embeddedNull
  | unusableLimit {fault : LimitFault} (passes : p.check = .ok ())
      (echoes : Echoes p settings sink)
      (startable : settings.command.any Text.Utf8.hasNull = false)
      (waits : behaviour.waits = true)
      (unusable : Limit.admits (limit.or (settings.timeout.map .fraction)) = .error fault) :
      Escapes p settings limit behaviour sink (.unusableLimit fault)
  | excessDigits {c : Completion} {line : List Char} {digits : Nat} (passes : p.check = .ok ())
      (echoes : Echoes p settings sink) (runs : RunsToEnd settings limit behaviour c)
      (verdict : Announces ['S', 'A', 'T'] (decode c.stdout))
      (second : secondLine (decode c.stdout) = some line)
      (long : Reply.Overlong (Text.words line) digits) :
      Escapes p settings limit behaviour sink (.excessDigits digits)

theorem isReported_of_escapes {p : Problem} {settings : Settings} {limit : Option Seconds}
    {behaviour : Behaviour} {sink : Sink} {failure : Failure}
    (escapes : Escapes p settings limit behaviour sink failure) :
    failure.kind.isReported = false := by
  cases escapes with
  | unwritableNumber => rfl
  | @stuckEcho _ fault => cases fault <;> rfl
  | embeddedNull => rfl
  | @unusableLimit fault => cases fault <;> rfl
  | excessDigits => rfl

theorem raised_of_names {id : Nat} {failure : Failure} (names : Problem.Names id failure)
    (short : id < 10 ^ Text.digitLimit) : failure.raised = failure := by
  have writable : Failure.isWritable (id : Int) = true := Failure.isWritable_iff.mpr short
  cases names <;> exact Failure.raised_of_writable (by simp [Failure.numbers, writable])

theorem raised_of_long {id : Nat} {failure : Failure} (names : Problem.Names id failure)
    (long : 10 ^ Text.digitLimit ≤ id) : failure.raised = .unwritableNumber := by
  have unwritable : Failure.isWritable (id : Int) = false := by
    rw [← Bool.not_eq_true, Failure.isWritable_iff]
    exact Nat.not_lt.mpr long
  cases names <;> rw [Failure.raised, if_neg (by simp [Failure.numbers, unwritable])]

theorem raised_of_kind {failure : Failure} (kind : failure.kind = .reply) :
    failure.raised = failure := by
  have numbers : failure.numbers = [] := by
    cases failure <;> first | rfl | cases kind
  exact Failure.raised_of_writable (by rw [numbers, List.all_nil])

/-- The failures of recording a reply: one that breaks the grammar, one that names a variable in
digits that can be written, or too long a literal. -/
theorem failure_of_recordReply {registry : Registry} {line : Option (List Char)}
    {failure : Failure} (failed : Result.recordReply registry line = .error failure) :
    failure.kind = .reply ∨ (failure.kind = .unknownVariable ∧ failure.raised = failure) ∨
      ∃ text digits, line = some text ∧ failure = .excessDigits digits ∧
        Reply.Overlong (Text.words text) digits := by
  unfold Result.recordReply at failed
  cases read : Reply.assignment line with
  | error cause =>
      rw [read] at failed
      cases failed
      rcases Reply.failure_of_assignment read with kind | long
      · exact Or.inl kind
      · exact Or.inr (Or.inr long)
  | ok pairs =>
      rw [read] at failed
      have writable {pair : Nat × Bool} (member : pair ∈ pairs) :
          Failure.isWritable (pair.1 : Int) = true :=
        Failure.isWritable_iff.mpr (Reply.lt_of_assignment read pair member)
      refine Or.inr (Or.inl ?_)
      cases unknown : Result.firstUnknown? registry pairs with
      | some id =>
          simp only [unknown] at failed
          cases failed
          obtain ⟨pair, found, rfl⟩ := Option.map_eq_some_iff.mp unknown
          have short := writable (List.mem_of_find?_eq_some found)
          exact ⟨rfl, Failure.raised_of_writable (by simp [Failure.numbers, short])⟩
      | none =>
          simp only [unknown] at failed
          obtain ⟨pair, member, rfl⟩ := Registry.failure_of_recordAll failed
          exact ⟨rfl, Failure.raised_of_writable (by simp [Failure.numbers, writable member])⟩

theorem failure_of_readReply {registry : Registry} {c : Completion} {failure : Failure}
    (failed : readReply registry c = .error failure) :
    failure.kind = .reply ∨ (failure.kind = .unknownVariable ∧ failure.raised = failure) ∨
      ∃ line digits, Announces ['S', 'A', 'T'] (decode c.stdout) ∧
        secondLine (decode c.stdout) = some line ∧ failure = .excessDigits digits ∧
        Reply.Overlong (Text.words line) digits := by
  rcases cause_of_readReply failed with kind | ⟨satisfied, refused⟩
  · exact Or.inl kind
  · rcases failure_of_recordReply refused with kind | kind | ⟨line, digits, second, rest⟩
    · exact Or.inl kind
    · exact Or.inr (Or.inl kind)
    · exact Or.inr (Or.inr ⟨line, digits, satisfied, second, rest⟩)

theorem unknown_of_recordReply {registry : Registry} (sound : registry.Sound)
    {line : Option (List Char)} {failure : Failure}
    (failed : Result.recordReply registry line = .error failure)
    (kind : failure.kind = .unknownVariable) :
    ∃ text, line = some text ∧ Reply.IsAssignment text ∧
      ∃ id ∈ Reply.ids text, ¬ (0 < id ∧ id ≤ registry.count) := by
  cases read : Reply.assignment line with
  | error cause =>
      rw [Result.recordReply, read] at failed
      cases failed
      rcases Reply.failure_of_assignment read with other | ⟨_, _, _, rfl, _⟩
      · rw [other] at kind
        cases kind
      · cases kind
  | ok pairs =>
      cases line with
      | none => cases read
      | some text =>
          obtain ⟨terminated, readable, rfl⟩ :=
            (Reply.literals_eq_ok (Text.words text) pairs).mp read
          refine ⟨text, rfl, ⟨terminated, fun token member => (readable token member).1⟩, ?_⟩
          cases outside : Reply.firstOutside registry.count text with
          | some id => exact ⟨id, Reply.outside_of_firstOutside outside⟩
          | none =>
              obtain ⟨after, recorded⟩ := recordReply_of_inside sound read outside
              rw [recorded] at failed
              cases failed

theorem unknown_of_readReply {registry : Registry} (sound : registry.Sound) {c : Completion}
    {failure : Failure} (failed : readReply registry c = .error failure)
    (kind : failure.kind = .unknownVariable) :
    ∃ line, Assigns (decode c.stdout) line ∧
      ∃ id ∈ Reply.ids line, ¬ (0 < id ∧ id ≤ registry.count) := by
  rcases cause_of_readReply failed with other | ⟨satisfied, refused⟩
  · rw [other] at kind
    cases kind
  · obtain ⟨line, second, shape, outside⟩ := unknown_of_recordReply sound refused kind
    exact ⟨line, ⟨satisfied, second, shape⟩, outside⟩

theorem readReply_of_overlong {registry : Registry} {c : Completion} {line : List Char}
    {digits : Nat} (verdict : Announces ['S', 'A', 'T'] (decode c.stdout))
    (second : secondLine (decode c.stdout) = some line)
    (long : Reply.Overlong (Text.words line) digits) :
    readReply registry c = .error (.excessDigits digits) := by
  have failed : Reply.assignment (some line) = .error (.excessDigits digits) :=
    Reply.literals_of_overlong long
  rw [readReply_of_verdict verdict, second, Result.recordReply, failed]
  rfl

theorem decode_plainBytes {cs : List Char} (plain : ∀ c ∈ cs, c.toNat < 128 ∧ c ≠ '\r') :
    decode (Text.plainBytes cs) = cs := by
  have small : ∀ c ∈ cs, c.toNat < 128 := fun c member => (plain c member).1
  have free : '\r' ∉ cs := fun member => (plain '\r' member).2 rfl
  rw [decode, Text.Utf8.decodeLenient_plainBytes small, Text.normalizeNewlines_of_free free]

section

variable {p : Problem} {settings : Settings} {registry : Registry} {detailed : Bool}
  {limit : Option Seconds} {behaviour : Behaviour} {sink : Sink} {failure : Failure}

/-- A failure of a problem that passes and is echoed is raised as it is, and is of an announced
kind or has one of three causes. -/
theorem failure_of_passes (passes : p.check = .ok ()) (echoes : Echoes p settings sink)
    (failed : (solve p settings registry detailed limit behaviour).outcome = .error failure) :
    failure.raised = failure ∧
      (failure.kind ∈ failureKinds ∨ Escapes p settings limit behaviour sink failure) := by
  rcases cause_of_solve passes settings registry detailed limit behaviour failed with
    unanswered | ⟨c, runs, read⟩
  · refine ⟨?_, ?_⟩
    · cases unanswered <;> exact Failure.raised_of_writable rfl
    · cases unanswered with
      | null null => exact Or.inr (.embeddedNull passes echoes null)
      | refused => exact Or.inl (by simp [failureKinds, Failure.kind])
      | broken => exact Or.inl (by simp [failureKinds, Failure.kind])
      | unbounded startable waits unusable =>
          exact Or.inr (.unusableLimit passes echoes startable waits unusable)
      | late => exact Or.inl (by simp [failureKinds, Failure.kind])
      | silent => exact Or.inl (by simp [failureKinds, Failure.kind])
  · rcases failure_of_readReply read with
      kind | ⟨kind, raised⟩ | ⟨line, digits, verdict, second, rfl, long⟩
    · exact ⟨raised_of_kind kind, Or.inl (by simp [failureKinds, kind])⟩
    · exact ⟨raised, Or.inl (by simp [failureKinds, kind])⟩
    · exact ⟨Failure.raised_of_writable rfl,
        Or.inr (.excessDigits passes echoes runs verdict second long)⟩

/-- What an attempt raises is of an announced kind or has one of the five causes. -/
theorem failure_of_solve
    (failed : (solve p settings registry detailed limit behaviour sink).outcome = .error failure) :
    failure.raised.kind ∈ failureKinds ∨
      Escapes p settings limit behaviour sink failure.raised := by
  cases passes : p.check with
  | error cause =>
      rw [solve_of_check_error passes] at failed
      cases failed
      obtain ⟨id, names⟩ := Problem.exists_names_of_check passes
      by_cases short : id < 10 ^ Text.digitLimit
      · rw [raised_of_names names short, Problem.kind_of_check passes]
        exact Or.inl (by decide)
      · -- The refusal names the id, and no text can be made of so many digits.
        have long := Nat.not_lt.mp short
        rw [raised_of_long names long]
        exact Or.inr (.unwritableNumber passes names long)
  | ok _ =>
      by_cases echoes : Echoes p settings sink
      · rw [solve_of_echoes echoes] at failed
        obtain ⟨raised, causes⟩ := failure_of_passes passes echoes failed
        rwa [raised]
      · obtain ⟨room, fault, rfl, verbose, short, _⟩ := echo_of_not_echoes echoes
        rw [solve_of_not_echoes passes verbose short] at failed
        cases failed
        have raised : fault.failure.raised = fault.failure := by
          cases fault <;> exact Failure.raised_of_writable rfl
        rw [raised]
        exact Or.inr (.stuckEcho passes verbose rfl short)

/-- An attempt without an end waits for a process that hangs, and no limit bounds the wait. -/
theorem hangs_of_endless
    (lasts : (solve p settings registry detailed limit behaviour sink).outcome = .endless) :
    behaviour = .hangs ∧ limit.or (settings.timeout.map .fraction) = none := by
  rcases solve_through p settings registry detailed limit behaviour sink with
    ⟨_, _, failed⟩ | through
  · rw [failed] at lasts
    cases lasts
  rw [through] at lasts
  cases passes : p.check with
  | error failure =>
      rw [solve_of_check_error passes] at lasts
      cases lasts
  | ok _ =>
      rcases solve_cases passes settings registry detailed limit behaviour with
        ⟨unanswered, _⟩ | ⟨c, events, _, same⟩
      · rw [lasts] at unanswered
        cases unanswered with
        | endless _ hangs unlimited => exact ⟨hangs, unlimited⟩
      · rw [same, conclude] at lasts
        split at lasts <;> cases lasts

theorem unknown_of_solve (passes : p.check = .ok ()) (sound : registry.Sound)
    (failed : (solve p settings registry detailed limit behaviour).outcome = .error failure)
    (kind : failure.kind = .unknownVariable) :
    ∃ c line, behaviour = .completes c ∧ Assigns (decode c.stdout) line ∧
      ∃ id ∈ Reply.ids line, ¬ (0 < id ∧ id ≤ registry.count) := by
  rcases cause_of_solve passes settings registry detailed limit behaviour failed with
    unanswered | ⟨c, runs, read⟩
  · generalize outcome : Fate.error failure = ended at unanswered
    cases unanswered with
    | @unbounded fault =>
        cases outcome
        cases fault <;> cases kind
    | _ =>
        cases outcome
        try cases kind
  · obtain ⟨line, assigns, outside⟩ :=
      unknown_of_readReply (Registry.sound_clearResults sound) read kind
    exact ⟨c, line, runs.completes, assigns, outside⟩

theorem solve_of_escapes (escapes : Escapes p settings limit behaviour sink failure) :
    ∃ cause, (solve p settings registry detailed limit behaviour sink).outcome = .error cause ∧
      cause.raised = failure := by
  cases escapes with
  | unwritableNumber stopped names long =>
      rw [solve_of_check_error stopped]
      exact ⟨_, rfl, raised_of_long names long⟩
  | @stuckEcho room fault passes verbose fails short =>
      rw [fails, solve_of_not_echoes passes verbose short]
      refine ⟨_, rfl, ?_⟩
      cases fault <;> exact Failure.raised_of_writable rfl
  | embeddedNull passes echoes null =>
      rw [solve_of_echoes echoes, solve_of_unanswered passes registry detailed (.null null)]
      exact ⟨_, rfl, Failure.raised_of_writable rfl⟩
  | unusableLimit passes echoes startable waits unusable =>
      rw [solve_of_echoes echoes,
        solve_of_unanswered passes registry detailed (.unbounded startable waits unusable)]
      exact ⟨_, rfl, Failure.raised_of_writable rfl⟩
  | excessDigits passes echoes runs verdict second long =>
      rw [solve_of_echoes echoes, (solve_of_reply_error passes settings registry detailed limit
        behaviour runs (readReply_of_overlong verdict second long)).1]
      exact ⟨_, rfl, Failure.raised_of_writable rfl⟩

/-- A satisfying verdict and a number of too many digits, of any script, make an attempt fail. -/
theorem escapes_of_digits (passes : p.check = .ok ()) (echoes : Echoes p settings sink)
    {c : Completion} (runs : RunsToEnd settings limit behaviour c) {digits : List Char}
    (shape : ∀ d ∈ digits, Text.isDigit d = true) (long : Text.digitLimit < digits.length)
    (output : decode c.stdout = ['S', 'A', 'T'] ++ '\n' :: (digits ++ [' ', '0'])) :
    Escapes p settings limit behaviour sink (.excessDigits digits.length) := by
  have split : Text.readLine (decode c.stdout) =
      some (['S', 'A', 'T'], digits ++ [' ', '0']) := by
    rw [output]
    exact Text.readLine_append (by decide)
  have whole : '\n' ∉ digits ++ [' ', '0'] := by
    intro member
    rcases List.mem_append.mp member with digit | last
    · exact absurd (shape '\n' digit) (by decide)
    · exact absurd last (by decide)
  have verdict : firstLine (decode c.stdout) = some ['S', 'A', 'T'] := by
    rw [firstLine, split]
    rfl
  have second : secondLine (decode c.stdout) = some (digits ++ [' ', '0']) := by
    rw [secondLine, split, Option.bind_some]
    show firstLine (digits ++ [' ', '0']) = _
    rw [firstLine, Text.readLine_last (by simp) whole]
    rfl
  exact .excessDigits passes echoes runs ⟨_, verdict, rfl⟩ second
    (Reply.overlong_of_digits shape long ['0'])

end

end SatClient.Solver
