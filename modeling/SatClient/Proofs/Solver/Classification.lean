import SatClient.Proofs.Reply.Assignment
import SatClient.Proofs.Solver.Attempt
/-!
How a completed run comes out, decided by its first two lines: a refutation, an assignment of known
ids, an assignment with an unknown id, or a reply that breaks the grammar. The four cases exclude
each other and there is no fifth.
-/

namespace SatClient.Solver

open SatClient.Text
open SatClient.Decimal (Seconds)

def Announces (word stdout : List Char) : Prop :=
  ∃ line, firstLine stdout = some line ∧ trim line = word

def Refutes (stdout : List Char) : Prop :=
  Announces ['U', 'N', 'S', 'A', 'T'] stdout

structure Assigns (stdout line : List Char) : Prop where
  verdict : Announces ['S', 'A', 'T'] stdout
  second : secondLine stdout = some line
  shape : Reply.IsAssignment line

def ShortRuns (stdout : List Char) : Prop :=
  ∀ run, run <:+: stdout → (∀ c ∈ run, isDigit c = true) → run.length ≤ Text.digitLimit

/-- The four ways in which an output is classified, with a number of variables. -/
structure Classifies (stdout : List Char) (count : Nat) (outcome : Fate Failure Result) :
    Prop where
  refuted : observed outcome = .ok false ↔ Refutes stdout
  satisfied : observed outcome = .ok true ↔
    ∃ line, Assigns stdout line ∧ ∀ id ∈ Reply.ids line, 0 < id ∧ id ≤ count
  unknown : observed outcome = .error .unknownVariable ↔
    ∃ line, Assigns stdout line ∧ ∃ id ∈ Reply.ids line, ¬ (0 < id ∧ id ≤ count)
  malformed : observed outcome = .error .reply ↔
    ¬ Refutes stdout ∧ ¬ ∃ line, Assigns stdout line
  total : observed outcome = .ok false ∨ observed outcome = .ok true ∨
    observed outcome = .error .unknownVariable ∨ observed outcome = .error .reply
  first : ∀ failure, outcome = .error failure → failure.kind = .unknownVariable →
    ∃ line id, Assigns stdout line ∧ Reply.firstOutside count line = some id ∧
      failure.message = "Variable " ++ toString id ++ " was never allocated"

theorem infix_of_secondLine {stdout line : List Char} (second : secondLine stdout = some line) :
    line <:+: stdout := by
  unfold secondLine firstLine at second
  cases outer : readLine stdout with
  | none =>
      rw [outer] at second
      cases second
  | some pair =>
      obtain ⟨front, rest⟩ := pair
      rw [outer, Option.bind_some] at second
      obtain ⟨⟨_, after⟩, inner, rfl⟩ := Option.map_eq_some_iff.mp second
      exact (infix_of_readLine inner).1.isInfix.trans (infix_of_readLine outer).2.isInfix

/-- The digits of a literal are a run of digits of the output. -/
theorem fits_of_shortRuns {stdout line : List Char} (short : ShortRuns stdout)
    (second : secondLine stdout = some line) {token : List Char} (member : token ∈ words line)
    (shape : Reply.IsLiteral token) : Reply.Fits token := by
  have suffix : (Reply.splitMinus token).2 <:+ token := by
    unfold Reply.splitMinus
    split
    · exact List.suffix_cons _ _
    · exact List.suffix_refl _
  have inside := (suffix.isInfix.trans (infix_of_mem_words member)).trans
    (infix_of_secondLine second)
  exact short _ inside shape.2

theorem not_assigns_of_refutes {stdout line : List Char} (refutes : Refutes stdout) :
    ¬ Assigns stdout line := by
  rintro ⟨⟨first, starts, word⟩, _, _⟩
  obtain ⟨other, same, refuted⟩ := refutes
  rw [starts] at same
  cases same
  rw [word] at refuted
  cases refuted

theorem assigns_unique {stdout line other : List Char} (first : Assigns stdout line)
    (second : Assigns stdout other) : line = other :=
  Option.some.inj (first.second.symm.trans second.second)

theorem classifies_of_cases {stdout : List Char} {count : Nat} {outcome : Fate Failure Result}
    (refuted : Refutes stdout → observed outcome = .ok false)
    (inside : ∀ line, Assigns stdout line → Reply.firstOutside count line = none →
      observed outcome = .ok true)
    (outside : ∀ line id, Assigns stdout line → Reply.firstOutside count line = some id →
      outcome = .error (.neverAllocated id))
    (neither : ¬ Refutes stdout → (¬ ∃ line, Assigns stdout line) →
      observed outcome = .error .reply) : Classifies stdout count outcome := by
  have kindOf {failure : Failure} (failed : outcome = .error failure) :
      observed outcome = .error failure.kind := by
    rw [failed]
    rfl
  by_cases refutes : Refutes stdout
  · have answer := refuted refutes
    have free (line : List Char) : ¬ Assigns stdout line := not_assigns_of_refutes refutes
    constructor
    case first =>
      intro failure failed _
      rw [kindOf failed] at answer
      cases answer
    all_goals simp [answer, refutes, free]
  by_cases assigned : ∃ line, Assigns stdout line
  · obtain ⟨line, assigns⟩ := assigned
    have only (other : List Char) : Assigns stdout other ↔ other = line :=
      ⟨fun second => assigns_unique second assigns, fun same => same ▸ assigns⟩
    cases out : Reply.firstOutside count line with
    | none =>
        have answer := inside line assigns out
        have known := (Reply.firstOutside_eq_none count line).mp out
        constructor
        case first =>
          intro failure failed _
          rw [kindOf failed] at answer
          cases answer
        all_goals simp [answer, refutes, only]
        all_goals simpa using known
    | some id =>
        have failed := outside line id assigns out
        have answer : observed outcome = .error .unknownVariable := kindOf failed
        have strange : ∃ id ∈ Reply.ids line, ¬ (0 < id ∧ id ≤ count) :=
          ⟨id, Reply.outside_of_firstOutside out⟩
        constructor
        case first =>
          intro failure same _
          rw [failed] at same
          cases same
          exact ⟨line, id, assigns, out, rfl⟩
        all_goals simp [answer, refutes, only]
        all_goals simpa using strange
  · have answer := neither refutes assigned
    have free (line : List Char) : ¬ Assigns stdout line := fun assigns => assigned ⟨line, assigns⟩
    constructor
    case first =>
      intro failure failed kind
      rw [kindOf failed, kind] at answer
      cases answer
    all_goals simp [answer, refutes, free]

section

variable {registry : Registry} {c : Completion}

theorem readReply_of_refutes (refutes : Refutes (decode c.stdout)) :
    readReply registry c = .ok (false, registry) := by
  obtain ⟨line, starts, word⟩ := refutes
  simp [readReply, starts, Reply.verdict, word]

theorem readReply_of_verdict (satisfied : Announces ['S', 'A', 'T'] (decode c.stdout)) :
    readReply registry c =
      (Result.recordReply registry (secondLine (decode c.stdout))).map (true, ·) := by
  obtain ⟨line, starts, word⟩ := satisfied
  cases recorded : Result.recordReply registry (secondLine (decode c.stdout)) <;>
    simp [readReply, starts, Reply.verdict, word, recorded, Except.map]

variable (registry) in
theorem readReply_of_other (unrefuted : ¬ Refutes (decode c.stdout))
    (unsatisfied : ¬ Announces ['S', 'A', 'T'] (decode c.stdout)) :
    ∃ failure, readReply registry c = .error failure ∧ failure.kind = .reply := by
  cases first : firstLine (decode c.stdout) with
  | none =>
      refine ⟨.noVerdict (lastDiagnostics c), ?_, rfl⟩
      simp [readReply, first, Reply.verdict]
  | some line =>
      have satisfying : trim line ≠ ['S', 'A', 'T'] := fun word => unsatisfied ⟨line, first, word⟩
      have refuting : trim line ≠ ['U', 'N', 'S', 'A', 'T'] := fun word =>
        unrefuted ⟨line, first, word⟩
      refine ⟨.unexpectedVerdict (String.ofList (trim line)) (lastDiagnostics c), ?_, rfl⟩
      simp [readReply, first, Reply.verdict, satisfying, refuting]

theorem cause_of_readReply {failure : Failure} (failed : readReply registry c = .error failure) :
    failure.kind = .reply ∨ Announces ['S', 'A', 'T'] (decode c.stdout) ∧
      Result.recordReply registry (secondLine (decode c.stdout)) = .error failure := by
  by_cases satisfied : Announces ['S', 'A', 'T'] (decode c.stdout)
  · rw [readReply_of_verdict satisfied] at failed
    cases recorded : Result.recordReply registry (secondLine (decode c.stdout)) with
    | ok after =>
        rw [recorded] at failed
        cases failed
    | error cause =>
        rw [recorded] at failed
        cases failed
        exact Or.inr ⟨satisfied, rfl⟩
  · by_cases refutes : Refutes (decode c.stdout)
    · rw [readReply_of_refutes refutes] at failed
      cases failed
    · obtain ⟨cause, same, kind⟩ := readReply_of_other registry refutes satisfied
      rw [same] at failed
      cases failed
      exact Or.inl kind

theorem firstUnknown?_named (sound : registry.Sound) (line : List Char) :
    Result.firstUnknown? registry ((Reply.named line).map Reply.pairOf) =
      Reply.firstOutside registry.count line := by
  have same : (fun pair : Nat × Bool => (registry.find? pair.1).isNone) ∘ Reply.pairOf =
      (fun id : Nat => !decide (0 < id ∧ id ≤ registry.count)) ∘ Reply.idOf := by
    funext token
    apply Bool.eq_iff_iff.mpr
    simp only [Function.comp_apply, Reply.pairOf, Registry.find?_isNone_iff sound,
      Registry.Allocates, Bool.not_eq_true', decide_eq_false_iff_not]
    omega
  rw [Result.firstUnknown?, Reply.firstOutside, Reply.ids, List.find?_map, List.find?_map, same,
    Option.map_map]
  rfl

theorem recordReply_of_inside (sound : registry.Sound) {line : List Char}
    (read : Reply.assignment (some line) = .ok ((Reply.named line).map Reply.pairOf))
    (inside : Reply.firstOutside registry.count line = none) :
    ∃ after, Result.recordReply registry (some line) = .ok after := by
  have unknown := (firstUnknown?_named sound line).trans inside
  have known := (Result.firstUnknown?_eq_none sound _).mp unknown
  exact ⟨_, (Result.recordReply_eq_ok sound _ _).mpr ⟨_, read, known, rfl⟩⟩

theorem recordReply_of_outside (sound : registry.Sound) {line : List Char} {id : Nat}
    (read : Reply.assignment (some line) = .ok ((Reply.named line).map Reply.pairOf))
    (outside : Reply.firstOutside registry.count line = some id) :
    Result.recordReply registry (some line) = .error (.neverAllocated id) := by
  have unknown := (firstUnknown?_named sound line).trans outside
  simp only [Result.recordReply, read, unknown]

variable (registry) in
theorem readReply_of_neither (short : ShortRuns (decode c.stdout))
    (unrefuted : ¬ Refutes (decode c.stdout))
    (unassigned : ¬ ∃ line, Assigns (decode c.stdout) line) :
    ∃ failure, readReply registry c = .error failure ∧ failure.kind = .reply := by
  by_cases satisfied : Announces ['S', 'A', 'T'] (decode c.stdout)
  · rw [readReply_of_verdict satisfied]
    cases second : secondLine (decode c.stdout) with
    | none => exact ⟨.noAssignment, rfl, rfl⟩
    | some line =>
        have broken : ¬ Reply.IsAssignment line := fun shape =>
          unassigned ⟨line, satisfied, second, shape⟩
        obtain ⟨failure, failed, kind⟩ := Reply.assignment_of_broken broken
          fun token member => fits_of_shortRuns short second member
        refine ⟨failure, ?_, kind⟩
        rw [Result.recordReply, failed]
        rfl
  · exact readReply_of_other registry unrefuted satisfied

end

/-- The outcome of a run to the end, for every output without too long a number. -/
theorem classifies_solve {p : Problem} (passes : p.check = .ok ()) (settings : Settings)
    {registry : Registry} (sound : registry.Sound) (detailed : Bool) (limit : Option Seconds)
    {behaviour : Behaviour} {c : Completion} (runs : RunsToEnd settings limit behaviour c)
    (short : ShortRuns (decode c.stdout)) :
    Classifies (decode c.stdout) registry.count
      (solve p settings registry detailed limit behaviour).outcome := by
  have clean := Registry.sound_clearResults sound
  have reading {line : List Char} (assigns : Assigns (decode c.stdout) line) :=
    Reply.assignment_of_isAssignment assigns.shape
      fun token member => fits_of_shortRuns short assigns.second member
  have answered {satisfiable : Bool} {after : Registry}
      (read : readReply registry.clearResults c = .ok (satisfiable, after)) :
      observed (solve p settings registry detailed limit behaviour).outcome = .ok satisfiable := by
    obtain ⟨⟨result, outcome, verdict⟩, _⟩ :=
      solve_of_reply_ok passes settings registry detailed limit behaviour runs read
    rw [outcome]
    exact congrArg Fate.ok verdict
  apply classifies_of_cases
  case refuted =>
    intro refutes
    exact answered (readReply_of_refutes refutes)
  case inside =>
    intro line assigns inside
    obtain ⟨after, recorded⟩ := recordReply_of_inside clean (reading assigns) inside
    have read : readReply registry.clearResults c = .ok (true, after) := by
      rw [readReply_of_verdict assigns.verdict, assigns.second, recorded]
      rfl
    exact answered read
  case outside =>
    intro line id assigns outside
    have failed := recordReply_of_outside clean (reading assigns) outside
    refine (solve_of_reply_error passes settings registry detailed limit behaviour runs ?_).1
    rw [readReply_of_verdict assigns.verdict, assigns.second, failed]
    rfl
  case neither =>
    intro unrefuted unassigned
    obtain ⟨failure, failed, kind⟩ :=
      readReply_of_neither registry.clearResults short unrefuted unassigned
    rw [(solve_of_reply_error passes settings registry detailed limit behaviour runs failed).1]
    exact congrArg Fate.error kind

structure Tells (stdout : List Char) (satisfiable : Bool) (sign : Nat → Option Bool) : Prop where
  verdict : Announces (if satisfiable then ['S', 'A', 'T'] else ['U', 'N', 'S', 'A', 'T']) stdout
  named : ∀ id b, sign id = some b ↔ ∃ line before token after, Assigns stdout line ∧
    Reply.named line = before ++ token :: after ∧ Reply.idOf token = id ∧
    Reply.signOf token = b ∧ id ∉ after.map Reply.idOf
  unnamed : ∀ id, sign id = none ↔
    Refutes stdout ∨ ∃ line, Assigns stdout line ∧ id ∉ Reply.ids line

theorem tells_of_refutes {stdout : List Char} (refutes : Refutes stdout) :
    Tells stdout false fun _ => none := by
  have free (line : List Char) : ¬ Assigns stdout line := not_assigns_of_refutes refutes
  exact ⟨refutes, by simp [free], by simp [refutes]⟩

theorem tells_of_assigns {stdout line : List Char} (assigns : Assigns stdout line) :
    Tells stdout true (Reply.lastSign line) := by
  have unrefuted : ¬ Refutes stdout := fun refutes => not_assigns_of_refutes refutes assigns
  constructor
  case verdict => exact assigns.verdict
  case named =>
    intro id b
    rw [Reply.lastSign_eq_some]
    constructor
    · rintro ⟨before, token, after, split⟩
      exact ⟨line, before, token, after, assigns, split⟩
    · rintro ⟨other, before, token, after, same, split⟩
      rw [assigns_unique assigns same]
      exact ⟨before, token, after, split⟩
  case unnamed =>
    intro id
    rw [Reply.lastSign_eq_none]
    constructor
    · exact fun absent => Or.inr ⟨line, assigns, absent⟩
    · rintro (refutes | ⟨other, same, absent⟩)
      · exact absurd refutes unrefuted
      · rwa [assigns_unique assigns same]

theorem tells_unique {stdout : List Char} {satisfiable satisfiable' : Bool}
    {sign sign' : Nat → Option Bool} (tells : Tells stdout satisfiable sign)
    (tells' : Tells stdout satisfiable' sign') : satisfiable' = satisfiable ∧ sign' = sign := by
  constructor
  · obtain ⟨line, starts, word⟩ := tells.verdict
    obtain ⟨other, same, word'⟩ := tells'.verdict
    rw [starts] at same
    cases same
    rw [word] at word'
    cases satisfiable <;> cases satisfiable' <;> simp at word' ⊢
  · funext id
    apply Option.ext
    intro b
    rw [tells.named, tells'.named]

theorem answer_of_readReply {registry after : Registry} {c : Completion} (sound : registry.Sound)
    {satisfiable : Bool} (read : readReply registry c = .ok (satisfiable, after)) :
    (satisfiable = false ∧ Refutes (decode c.stdout)) ∨
      (satisfiable = true ∧ ∃ line, Assigns (decode c.stdout) line) := by
  by_cases refutes : Refutes (decode c.stdout)
  · rw [readReply_of_refutes refutes] at read
    cases read
    exact Or.inl ⟨rfl, refutes⟩
  by_cases satisfied : Announces ['S', 'A', 'T'] (decode c.stdout)
  · have positive : satisfiable = true := by
      rw [readReply_of_verdict satisfied] at read
      cases recorded : Result.recordReply registry (secondLine (decode c.stdout)) with
      | error failure =>
          rw [recorded] at read
          cases read
      | ok kept =>
          rw [recorded] at read
          cases read
          rfl
    rcases readReply_cases sound read with ⟨refuted, _⟩ | ⟨_, line, pairs, second, said, _⟩
    · rw [positive] at refuted
      cases refuted
    · obtain ⟨terminated, readable, _⟩ := (Reply.literals_eq_ok _ pairs).mp said
      refine Or.inr ⟨positive, line, satisfied, second, terminated, fun token member => ?_⟩
      exact (readable token member).1
  · obtain ⟨failure, failed, _⟩ := readReply_of_other registry refutes satisfied
    rw [failed] at read
    cases read

theorem tells_solve {p : Problem} {settings : Settings} {registry : Registry}
    (sound : registry.Sound) {detailed : Bool} {limit : Option Seconds} {behaviour : Behaviour}
    {result : Result}
    (returns : (solve p settings registry detailed limit behaviour).outcome = .ok result) :
    ∃ c, behaviour = .completes c ∧
      Tells (decode c.stdout) result.satisfiable (saidOf (.ok result) behaviour) ∧
      result.statistics = diagnosticLines c := by
  obtain ⟨c, after, runs, read, made⟩ := reply_of_solve returns
  refine ⟨c, runs.completes, ?_, congrArg Result.statistics made⟩
  rw [runs.completes]
  rcases answer_of_readReply (Registry.sound_clearResults sound) read with
    ⟨refuted, refutes⟩ | ⟨satisfied, line, assigns⟩
  · have signs : saidOf (.ok result) (.completes c) = fun _ => none := by
      funext id
      simp only [saidOf, refuted, Bool.false_eq_true, if_false]
    rw [refuted, signs]
    exact tells_of_refutes refutes
  · have signs : saidOf (.ok result) (.completes c) = Reply.lastSign line := by
      funext id
      simp only [saidOf, satisfied, assigns.second, Option.bind_some, if_true]
    rw [satisfied, signs]
    exact tells_of_assigns assigns

structure SameToZero (c d : Completion) : Prop where
  first : firstLine (decode c.stdout) = firstLine (decode d.stdout)
  second : ∃ line line' before rest rest',
    secondLine (decode c.stdout) = some line ∧ secondLine (decode d.stdout) = some line' ∧
      words line = before ++ ['0'] :: rest ∧ words line' = before ++ ['0'] :: rest'

theorem announces_congr {stdout stdout' : List Char} (first : firstLine stdout = firstLine stdout')
    (word : List Char) : Announces word stdout ↔ Announces word stdout' := by
  rw [Announces, Announces, first]

theorem recordReply_of_sameToZero {c d : Completion} (same : SameToZero c d)
    (registry : Registry) :
    Result.recordReply registry (secondLine (decode c.stdout)) =
      Result.recordReply registry (secondLine (decode d.stdout)) := by
  obtain ⟨line, line', before, rest, rest', second, second', cut, cut'⟩ := same.second
  have read : Reply.assignment (some line) = Reply.assignment (some line') := by
    rw [Reply.assignment, Reply.assignment, cut, cut']
    exact Reply.literals_of_terminated before rest rest'
  rw [second, second', Result.recordReply, Result.recordReply, read]

theorem readReply_of_sameToZero {c d : Completion} (same : SameToZero c d) (registry : Registry) :
    (∃ answer, readReply registry c = .ok answer ∧ readReply registry d = .ok answer) ∨
      ∃ failure other, readReply registry c = .error failure ∧
        readReply registry d = .error other ∧ failure.kind = other.kind := by
  by_cases satisfied : Announces ['S', 'A', 'T'] (decode c.stdout)
  · have satisfied' := (announces_congr same.first _).mp satisfied
    rw [readReply_of_verdict satisfied, readReply_of_verdict satisfied',
      recordReply_of_sameToZero same]
    cases Result.recordReply registry (secondLine (decode d.stdout)) with
    | ok after => exact Or.inl ⟨_, rfl, rfl⟩
    | error failure => exact Or.inr ⟨_, _, rfl, rfl, rfl⟩
  · by_cases refutes : Refutes (decode c.stdout)
    · have refutes' := (announces_congr same.first _).mp refutes
      exact Or.inl ⟨_, readReply_of_refutes refutes, readReply_of_refutes refutes'⟩
    · obtain ⟨failure, failed, kind⟩ := readReply_of_other registry refutes satisfied
      have refutes' := fun r => refutes ((announces_congr same.first _).mpr r)
      have satisfied' := fun r => satisfied ((announces_congr same.first _).mpr r)
      obtain ⟨other, failed', kind'⟩ := readReply_of_other registry refutes' satisfied'
      exact Or.inr ⟨failure, other, failed, failed', kind.trans kind'.symm⟩

end SatClient.Solver
