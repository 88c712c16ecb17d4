import SatClient.Solver.Attempt
import SatClient.Proofs.Registry
import SatClient.Proofs.Reply
import SatClient.Proofs.Solver.Problem
/-!
What an attempt can do. A problem that fails its check is left alone. Otherwise the results of the
registry are cleared, and either the attempt fails before any reply is read or the process runs to
its end and its reply decides; a reply is recorded as a whole or not at all.
-/

namespace SatClient.Solver

open SatClient.Decimal (Seconds)

structure RunsToEnd (settings : Settings) (limit : Option Seconds) (behaviour : Behaviour)
    (c : Completion) : Prop where
  startable : settings.command.any Text.Utf8.hasNull = false
  completes : behaviour = .completes c
  admitted : Limit.admits (limit.or (settings.timeout.map .fraction)) = .ok true

/-- How an attempt ends before any reply is read, each way with the exit that it stands for. -/
inductive Unanswered (settings : Settings) (limit : Option Seconds) (behaviour : Behaviour) :
    Fate Failure Result → Prop
  | null (null : settings.command.any Text.Utf8.hasNull = true) :
      Unanswered settings limit behaviour (.error .embeddedNull)
  | refused {fault : OsFault} (startable : settings.command.any Text.Utf8.hasNull = false)
      (refuses : behaviour = .refuses fault) :
      Unanswered settings limit behaviour (.error (.cannotStart settings.executable fault))
  | broken {fault : OsFault} {waited : Bool}
      (startable : settings.command.any Text.Utf8.hasNull = false)
      (breaks : behaviour = .breaks fault waited)
      (admitted : waited = true →
        Limit.admits (limit.or (settings.timeout.map .fraction)) = .ok true) :
      Unanswered settings limit behaviour (.error (.brokenExchange settings.executable fault))
  | unbounded {fault : LimitFault}
      (startable : settings.command.any Text.Utf8.hasNull = false)
      (waits : behaviour.waits = true)
      (unusable : Limit.admits (limit.or (settings.timeout.map .fraction)) = .error fault) :
      Unanswered settings limit behaviour (.error (.unusableLimit fault))
  | late {given : Seconds} (startable : settings.command.any Text.Utf8.hasNull = false)
      (waits : behaviour.waits = true)
      (limited : limit.or (settings.timeout.map .fraction) = some given)
      (expired : Limit.admits (some given) = .ok false) :
      Unanswered settings limit behaviour (.error (.timedOut settings.executable given))
  | silent {given : Seconds} (startable : settings.command.any Text.Utf8.hasNull = false)
      (hangs : behaviour = .hangs)
      (limited : limit.or (settings.timeout.map .fraction) = some given)
      (admitted : Limit.admits (some given) = .ok true) :
      Unanswered settings limit behaviour (.error (.timedOut settings.executable given))
  | endless (startable : settings.command.any Text.Utf8.hasNull = false)
      (hangs : behaviour = .hangs)
      (unlimited : limit.or (settings.timeout.map .fraction) = none) :
      Unanswered settings limit behaviour .endless

/-- Each of these exits lacks one of the three parts of a run to the end. -/
theorem not_runsToEnd_of_unanswered {settings : Settings} {limit : Option Seconds}
    {behaviour : Behaviour} {outcome : Fate Failure Result}
    (unanswered : Unanswered settings limit behaviour outcome) (c : Completion) :
    ¬ RunsToEnd settings limit behaviour c := by
  rintro ⟨startable, completes, admitted⟩
  cases unanswered with
  | null null => simp [startable] at null
  | refused _ refuses => simp [completes] at refuses
  | broken _ breaks => simp [completes] at breaks
  | unbounded _ _ unusable => simp [admitted] at unusable
  | late _ _ limited expired => simp [limited, expired] at admitted
  | silent _ hangs => simp [completes] at hangs
  | endless _ hangs => simp [completes] at hangs

def echoOf (p : Problem) (settings : Settings) : String :=
  if settings.verbose then p.text else ""

def Echoes (p : Problem) (settings : Settings) : Sink → Prop
  | .takesAll => True
  | .fails room _ => settings.verbose = true → p.text.length ≤ room

instance (p : Problem) (settings : Settings) (sink : Sink) : Decidable (Echoes p settings sink) :=
  match sink with
  | .takesAll => inferInstanceAs (Decidable True)
  | .fails room _ => inferInstanceAs (Decidable (settings.verbose = true → p.text.length ≤ room))

/-- What the outcome of an attempt says about an id: the sign with which the reply named it last,
and nothing without a satisfying reply. -/
def saidOf (outcome : Fate Failure Result) (behaviour : Behaviour) (id : Nat) : Option Bool :=
  match outcome, behaviour with
  | .ok result, .completes c =>
    if result.satisfiable then (secondLine (decode c.stdout)).bind (Reply.lastSign · id) else none
  | _, _ => none

def observed (outcome : Fate Failure Result) : Fate Failure.Kind Bool :=
  match outcome with
  | .ok result => .ok result.satisfiable
  | .error failure => .error failure.kind
  | .endless => .endless

namespace Result

theorem firstUnknown?_eq_none {registry : Registry} (sound : registry.Sound)
    (pairs : List (Nat × Bool)) :
    firstUnknown? registry pairs = none ↔ ∀ pair ∈ pairs, registry.Allocates pair.1 := by
  rw [firstUnknown?, Option.map_eq_none_iff, List.find?_eq_none]
  refine forall₂_congr fun pair _ => ?_
  rw [Registry.find?_isNone_iff sound, Classical.not_not]

/-- Recording succeeds exactly when the line can be read and all its ids are known. -/
theorem recordReply_eq_ok {registry : Registry} (sound : registry.Sound)
    (line : Option (List Char)) (after : Registry) :
    recordReply registry line = .ok after ↔
      ∃ pairs, Reply.assignment line = .ok pairs ∧ (∀ pair ∈ pairs, registry.Allocates pair.1) ∧
        after = { registry with results := registry.results.putAll pairs } := by
  unfold recordReply
  cases Reply.assignment line with
  | error failure => simp
  | ok pairs =>
      have unknown := firstUnknown?_eq_none sound pairs
      dsimp only
      cases first : firstUnknown? registry pairs with
      | none =>
          have known := unknown.mp first
          simp only [Registry.recordAll_eq sound pairs known]
          constructor
          · intro recorded
            cases recorded
            exact ⟨pairs, rfl, known, rfl⟩
          · rintro ⟨_, ⟨⟩, _, rfl⟩
            rfl
      | some id =>
          constructor
          · intro recorded
            cases recorded
          · rintro ⟨_, ⟨⟩, known, _⟩
            rw [unknown.mpr known] at first
            cases first

end Result

/-- Every reading of a reply that succeeds: a refutation, or an assignment of known ids. -/
theorem readReply_cases {registry after : Registry} (sound : registry.Sound) {c : Completion}
    {satisfiable : Bool} (read : readReply registry c = .ok (satisfiable, after)) :
    (satisfiable = false ∧ after = registry) ∨
      (satisfiable = true ∧ ∃ line pairs, secondLine (decode c.stdout) = some line ∧
        Reply.assignment (some line) = .ok pairs ∧
        (∀ pair ∈ pairs, registry.Allocates pair.1) ∧
        after = { registry with results := registry.results.putAll pairs }) := by
  simp only [readReply] at read
  split at read
  · cases read
  · cases read
    exact Or.inl ⟨rfl, rfl⟩
  · split at read
    · cases read
    · next recorded success =>
        cases read
        obtain ⟨pairs, said, known, rfl⟩ := (Result.recordReply_eq_ok sound _ _).mp success
        cases second : secondLine (decode c.stdout) with
        | none =>
            rw [second] at said
            cases said
        | some line =>
            rw [second] at said
            exact Or.inr ⟨rfl, line, pairs, rfl, said, known, rfl⟩

theorem conclude_of_error (trace : Trace) (exchange : Exchange) {c : Completion}
    {failure : Failure} (failed : readReply trace.registry c = .error failure) :
    (conclude trace exchange c).outcome = .error failure ∧
      (conclude trace exchange c).trace.registry = trace.registry := by
  unfold conclude
  rw [failed]
  exact ⟨rfl, rfl⟩

theorem conclude_of_ok (trace : Trace) (exchange : Exchange) {c : Completion}
    {satisfiable : Bool} {after : Registry}
    (read : readReply trace.registry c = .ok (satisfiable, after)) :
    (∃ result, (conclude trace exchange c).outcome = .ok result ∧
      result.satisfiable = satisfiable) ∧
      (conclude trace exchange c).trace.registry = after := by
  unfold conclude
  rw [read]
  exact ⟨⟨_, rfl, rfl⟩, rfl⟩

theorem conclude_trace (trace : Trace) (exchange : Exchange) (c : Completion) :
    (conclude trace exchange c).trace.exchange = some exchange ∧
      (conclude trace exchange c).trace.echo = trace.echo := by
  unfold conclude
  split <;> exact ⟨rfl, rfl⟩

theorem waits_of_ne {behaviour : Behaviour} (starts : ∀ fault, behaviour ≠ .refuses fault)
    (holds : ∀ fault, behaviour ≠ .breaks fault false) : behaviour.waits = true := by
  cases behaviour with
  | refuses fault => exact absurd rfl (starts fault)
  | breaks fault waited =>
      cases waited with
      | false => exact absurd rfl (holds fault)
      | true => rfl
  | hangs => rfl
  | completes c => rfl

/-- What a command that can be started comes to: an end before any reply, or a run to the end. -/
theorem communicate_cases (p : Problem) {settings : Settings} {limit effective : Option Seconds}
    (given : limit.or (settings.timeout.map .fraction) = effective)
    (startable : settings.command.any Text.Utf8.hasNull = false) (trace : Trace)
    (behaviour : Behaviour) :
    (Unanswered settings limit behaviour
        (communicate p settings effective trace behaviour).outcome ∧
      (communicate p settings effective trace behaviour).trace.registry = trace.registry ∧
      (communicate p settings effective trace behaviour).trace.echo = trace.echo) ∨
    ∃ c events, RunsToEnd settings limit behaviour c ∧
      communicate p settings effective trace behaviour =
        conclude { trace with events } ⟨settings.arguments, p.text⟩ c := by
  unfold communicate
  dsimp only
  split
  · exact Or.inl ⟨.refused startable rfl, rfl, rfl⟩
  · exact Or.inl ⟨.broken startable rfl nofun, rfl, rfl⟩
  · next starts holds unusable =>
      exact Or.inl ⟨.unbounded startable (waits_of_ne starts holds) (given ▸ unusable), rfl, rfl⟩
  · next starts holds expired =>
      cases effective with
      | none => cases expired
      | some span =>
          exact Or.inl ⟨.late startable (waits_of_ne starts holds) given expired, rfl, rfl⟩
  · next admitted =>
      cases effective with
      | none => exact Or.inl ⟨.endless startable rfl given, rfl, rfl⟩
      | some span => exact Or.inl ⟨.silent startable rfl given admitted, rfl, rfl⟩
  · next admitted =>
      exact Or.inl ⟨.broken startable rfl fun _ => given ▸ admitted, rfl, rfl⟩
  · next admitted => exact Or.inr ⟨_, _, ⟨startable, rfl, given ▸ admitted⟩, rfl⟩

theorem solve_of_check_error {p : Problem} {failure : Failure} (stopped : p.check = .error failure)
    (settings : Settings) (registry : Registry) (detailed : Bool) (limit : Option Seconds)
    (behaviour : Behaviour) (sink : Sink) :
    solve p settings registry detailed limit behaviour sink = ⟨{ registry }, .error failure⟩ := by
  rw [solve, stopped]

theorem echo_of_echoes {p : Problem} {settings : Settings} {sink : Sink}
    (echoes : Echoes p settings sink) : p.echo settings sink = (echoOf p settings, none) := by
  rw [Problem.echo, echoOf]
  split
  · next verbose =>
      cases sink with
      | takesAll => rfl
      | fails room fault => exact if_pos (echoes verbose)
  · rfl

theorem echo_of_not_echoes {p : Problem} {settings : Settings} {sink : Sink}
    (stuck : ¬ Echoes p settings sink) :
    ∃ room fault, sink = .fails room fault ∧ settings.verbose = true ∧ room < p.text.length ∧
      p.echo settings sink = (String.ofList (p.text.toList.take room), some fault) := by
  cases sink with
  | takesAll => exact absurd trivial stuck
  | fails room fault =>
      obtain ⟨verbose, long⟩ := Classical.not_imp.mp stuck
      refine ⟨room, fault, rfl, verbose, Nat.not_le.mp long, ?_⟩
      rw [Problem.echo, if_pos verbose]
      exact if_neg long

/-- A stream that fails ends the attempt before the results of the registry are cleared. -/
theorem solve_of_not_echoes {p : Problem} (passes : p.check = .ok ()) {settings : Settings}
    {room : Nat} (verbose : settings.verbose = true) (short : room < p.text.length)
    (fault : StreamFault) (registry : Registry) (detailed : Bool) (limit : Option Seconds)
    (behaviour : Behaviour) :
    solve p settings registry detailed limit behaviour (.fails room fault) =
      ⟨{ registry, echo := String.ofList (p.text.toList.take room) }, .error fault.failure⟩ := by
  have stuck : ¬ Echoes p settings (.fails room fault) := fun echoes =>
    Nat.not_le.mpr short (echoes verbose)
  obtain ⟨_, _, same, _, _, echo⟩ := echo_of_not_echoes stuck
  cases same
  rw [solve, passes, echo]

theorem solve_of_echoes {p : Problem} {settings : Settings} {sink : Sink}
    (echoes : Echoes p settings sink) (registry : Registry) (detailed : Bool)
    (limit : Option Seconds) (behaviour : Behaviour) :
    solve p settings registry detailed limit behaviour sink =
      solve p settings registry detailed limit behaviour := by
  have free : Echoes p settings .takesAll := trivial
  rw [solve, solve, echo_of_echoes echoes, echo_of_echoes free]

/-- Through whatever stream a problem is echoed, the attempt fails with the registry as it was or
goes as with a stream that takes all. -/
theorem solve_through (p : Problem) (settings : Settings) (registry : Registry) (detailed : Bool)
    (limit : Option Seconds) (behaviour : Behaviour) (sink : Sink) :
    (∃ echo failure, solve p settings registry detailed limit behaviour sink =
      ⟨{ registry, echo }, .error failure⟩) ∨
    solve p settings registry detailed limit behaviour sink =
      solve p settings registry detailed limit behaviour := by
  by_cases echoes : Echoes p settings sink
  · exact Or.inr (solve_of_echoes echoes registry detailed limit behaviour)
  · cases checked : p.check with
    | error failure =>
        have stopped (sink : Sink) :=
          solve_of_check_error checked settings registry detailed limit behaviour sink
        exact Or.inr ((stopped sink).trans (stopped .takesAll).symm)
    | ok _ =>
        -- The echo comes before the results are cleared, so the registry is given back as it was.
        obtain ⟨room, fault, rfl, verbose, short, _⟩ := echo_of_not_echoes echoes
        rw [solve_of_not_echoes checked verbose short]
        exact Or.inl ⟨_, _, rfl⟩

theorem detailEvents_of_check {p : Problem} (passes : p.check = .ok ()) (detailed : Bool) :
    ∃ events, detailEvents p detailed = .ok events := by
  unfold detailEvents
  rw [Problem.document_of_check passes]
  cases detailed
  · exact ⟨_, rfl⟩
  · exact ⟨_, rfl⟩

section

variable {p : Problem} (passes : p.check = .ok ()) (settings : Settings) (registry : Registry)
  (detailed : Bool) (limit : Option Seconds) (behaviour : Behaviour)

include passes

/-- An attempt on a problem that passes: an end before any reply, or a run to the end. -/
theorem solve_cases :
    (Unanswered settings limit behaviour
        (solve p settings registry detailed limit behaviour).outcome ∧
      (solve p settings registry detailed limit behaviour).trace.registry =
        registry.clearResults ∧
      (solve p settings registry detailed limit behaviour).trace.echo = echoOf p settings) ∨
    (∃ c events, RunsToEnd settings limit behaviour c ∧
      solve p settings registry detailed limit behaviour =
        conclude { registry := registry.clearResults, echo := echoOf p settings, events }
          ⟨settings.arguments, p.text⟩ c) := by
  obtain ⟨events, detail⟩ := detailEvents_of_check passes detailed
  have free : Echoes p settings .takesAll := trivial
  simp only [solve, passes, echo_of_echoes free, proceed, detail]
  cases null : settings.command.any Text.Utf8.hasNull with
  | true => exact Or.inl ⟨.null null, rfl, rfl⟩
  | false => exact communicate_cases p rfl null _ behaviour

variable {settings limit behaviour} in
theorem solve_of_unanswered {outcome : Fate Failure Result}
    (unanswered : Unanswered settings limit behaviour outcome) :
    (solve p settings registry detailed limit behaviour).outcome = outcome := by
  obtain ⟨events, detail⟩ := detailEvents_of_check passes detailed
  have free : Echoes p settings .takesAll := trivial
  simp only [solve, passes, echo_of_echoes free, proceed, detail]
  cases unanswered with
  | null null => simp only [null, if_true]
  | refused startable refuses => simp [startable, refuses, communicate]
  | @broken _ waited startable breaks admitted =>
      cases waited with
      | false => simp [startable, breaks, communicate]
      | true => simp [startable, breaks, communicate, admitted]
  | unbounded startable waits unusable =>
      rcases behaviour with fault | _ | ⟨fault, _ | _⟩ | c
      · cases waits
      · simp [startable, communicate, unusable]
      · cases waits
      · simp [startable, communicate, unusable]
      · simp [startable, communicate, unusable]
  | late startable waits limited expired =>
      rcases behaviour with fault | _ | ⟨fault, _ | _⟩ | c
      · cases waits
      · simp [startable, communicate, limited, expired, waitOut]
      · cases waits
      · simp [startable, communicate, limited, expired, waitOut]
      · simp [startable, communicate, limited, expired, waitOut]
  | silent startable hangs limited admitted =>
      simp [startable, hangs, communicate, limited, admitted, waitOut]
  | endless startable hangs unlimited =>
      simp [startable, hangs, communicate, unlimited, Limit.admits, waitOut]

theorem solve_of_runsToEnd {c : Completion} (runs : RunsToEnd settings limit behaviour c) :
    ∃ events, solve p settings registry detailed limit behaviour =
      conclude { registry := registry.clearResults, echo := echoOf p settings, events }
        ⟨settings.arguments, p.text⟩ c := by
  rcases solve_cases passes settings registry detailed limit behaviour with
    ⟨unanswered, _⟩ | ⟨d, events, other, same⟩
  · exact absurd runs (not_runsToEnd_of_unanswered unanswered c)
  · have ended : Behaviour.completes d = Behaviour.completes c :=
      other.completes.symm.trans runs.completes
    cases ended
    exact ⟨events, same⟩

theorem exchange_of_runsToEnd {c : Completion} (runs : RunsToEnd settings limit behaviour c) :
    (solve p settings registry detailed limit behaviour).trace.exchange =
      some ⟨settings.arguments, p.text⟩ := by
  obtain ⟨events, same⟩ := solve_of_runsToEnd passes settings registry detailed limit behaviour runs
  rw [same]
  exact (conclude_trace _ _ c).1

theorem solve_of_reply_error {c : Completion} (runs : RunsToEnd settings limit behaviour c)
    {failure : Failure} (failed : readReply registry.clearResults c = .error failure) :
    (solve p settings registry detailed limit behaviour).outcome = .error failure ∧
      (solve p settings registry detailed limit behaviour).trace.registry =
        registry.clearResults := by
  obtain ⟨events, same⟩ := solve_of_runsToEnd passes settings registry detailed limit behaviour runs
  rw [same]
  exact conclude_of_error _ _ failed

theorem solve_of_reply_ok {c : Completion} (runs : RunsToEnd settings limit behaviour c)
    {satisfiable : Bool} {after : Registry}
    (read : readReply registry.clearResults c = .ok (satisfiable, after)) :
    (∃ result, (solve p settings registry detailed limit behaviour).outcome = .ok result ∧
      result.satisfiable = satisfiable) ∧
      (solve p settings registry detailed limit behaviour).trace.registry = after := by
  obtain ⟨events, same⟩ := solve_of_runsToEnd passes settings registry detailed limit behaviour runs
  rw [same]
  exact conclude_of_ok _ _ read

theorem cause_of_solve {failure : Failure}
    (failed : (solve p settings registry detailed limit behaviour).outcome = .error failure) :
    Unanswered settings limit behaviour (.error failure) ∨
      ∃ c, RunsToEnd settings limit behaviour c ∧
        readReply registry.clearResults c = .error failure := by
  rcases solve_cases passes settings registry detailed limit behaviour with
    ⟨unanswered, _⟩ | ⟨c, events, runs, same⟩
  · rw [failed] at unanswered
    exact Or.inl unanswered
  · rw [same, conclude] at failed
    split at failed
    · next cause read =>
        cases failed
        exact Or.inr ⟨c, runs, read⟩
    · cases failed

theorem echo_solve :
    (solve p settings registry detailed limit behaviour).trace.echo = echoOf p settings := by
  rcases solve_cases passes settings registry detailed limit behaviour with
    ⟨_, _, echo⟩ | ⟨c, events, _, same⟩
  · exact echo
  · rw [same]
    exact (conclude_trace _ _ c).2

/-- What an attempt leaves in its registry: nothing without a reply, after a failure or after a
refutation, and after a satisfying reply what the reply's line says. -/
theorem solve_leaves (sound : registry.Sound) {attempt : Attempt}
    (made : solve p settings registry detailed limit behaviour = attempt) :
    ((∀ result, attempt.outcome ≠ .ok result) ∧
      attempt.trace.registry = registry.clearResults) ∨
    (∃ c result, behaviour = .completes c ∧ attempt.outcome = .ok result ∧
      ((result.satisfiable = false ∧ attempt.trace.registry = registry.clearResults) ∨
        (result.satisfiable = true ∧ ∃ line pairs, secondLine (decode c.stdout) = some line ∧
          Reply.assignment (some line) = .ok pairs ∧
          registry.clearResults.recordAll pairs = .ok attempt.trace.registry))) := by
  rcases solve_cases passes settings registry detailed limit behaviour with
    ⟨unanswered, cleared, _⟩ | ⟨c, events, runs, same⟩
  · rw [made] at unanswered cleared
    refine Or.inl ⟨fun result returns => ?_, cleared⟩
    rw [returns] at unanswered
    cases unanswered
  · rw [made] at same
    rw [same]
    cases read : readReply registry.clearResults c with
    | error failure =>
        obtain ⟨failed, cleared⟩ := conclude_of_error
          { registry := registry.clearResults, echo := echoOf p settings, events }
          ⟨settings.arguments, p.text⟩ read
        rw [failed]
        exact Or.inl ⟨nofun, cleared⟩
    | ok answer =>
        obtain ⟨satisfiable, after⟩ := answer
        obtain ⟨⟨result, outcome, verdict⟩, kept⟩ := conclude_of_ok
          { registry := registry.clearResults, echo := echoOf p settings, events }
          ⟨settings.arguments, p.text⟩ read
        refine Or.inr ⟨c, result, runs.completes, outcome, ?_⟩
        rw [kept, verdict]
        have clean := Registry.sound_clearResults sound
        rcases readReply_cases clean read with
          ⟨refuted, unchanged⟩ | ⟨satisfied, line, pairs, second, said, known, recorded⟩
        · exact Or.inl ⟨refuted, unchanged⟩
        · refine Or.inr ⟨satisfied, line, pairs, second, said, ?_⟩
          rw [recorded]
          exact Registry.recordAll_eq clean pairs known

theorem results_solve (sound : registry.Sound) (id : Nat) :
    (solve p settings registry detailed limit behaviour).trace.registry.results.get? id =
      saidOf (solve p settings registry detailed limit behaviour).outcome behaviour id := by
  rcases solve_leaves passes settings registry detailed limit behaviour sound rfl with
    ⟨silent, cleared⟩ | ⟨c, result, completes, outcome, refuted | satisfied⟩
  · have nothing : saidOf (solve p settings registry detailed limit behaviour).outcome behaviour id =
        none := by
      unfold saidOf
      split
      · next returns => exact absurd returns (silent _)
      · rfl
    rw [cleared, nothing]
    rfl
  · rw [outcome, refuted.2, completes]
    simp only [saidOf, refuted.1]
    rfl
  · obtain ⟨verdict, line, pairs, second, said, recorded⟩ := satisfied
    subst completes
    rw [outcome]
    simp only [saidOf, verdict, if_true, second, Option.bind_some]
    rw [Registry.results_recordAll (Registry.sound_clearResults sound) recorded,
      Table.get?_putAll, Reply.lookup_of_assignment said id]
    exact Option.or_none

end

theorem reply_of_solve {p : Problem} {settings : Settings} {registry : Registry} {detailed : Bool}
    {limit : Option Seconds} {behaviour : Behaviour} {sink : Sink} {result : Result}
    (returns : (solve p settings registry detailed limit behaviour sink).outcome = .ok result) :
    ∃ c after, RunsToEnd settings limit behaviour c ∧
      readReply registry.clearResults c = .ok (result.satisfiable, after) ∧
      result = ⟨result.satisfiable, after.id, diagnosticLines c, c.elapsed, some c.status⟩ := by
  rcases solve_through p settings registry detailed limit behaviour sink with
    ⟨_, _, failed⟩ | through
  · rw [failed] at returns
    cases returns
  rw [through] at returns
  cases checked : p.check with
  | error failure =>
      rw [solve_of_check_error checked] at returns
      cases returns
  | ok _ =>
      rcases solve_cases checked settings registry detailed limit behaviour with
        ⟨unanswered, _⟩ | ⟨c, events, runs, same⟩
      · rw [returns] at unanswered
        cases unanswered
      · rw [same, conclude] at returns
        split at returns
        · cases returns
        · next satisfiable after read =>
            cases returns
            exact ⟨c, after, runs, read, rfl⟩

theorem sound_solve (p : Problem) (settings : Settings) {registry : Registry}
    (sound : registry.Sound) (detailed : Bool) (limit : Option Seconds) (behaviour : Behaviour)
    (sink : Sink) :
    (solve p settings registry detailed limit behaviour sink).trace.registry.Sound := by
  have clean := Registry.sound_clearResults sound
  rcases solve_through p settings registry detailed limit behaviour sink with
    ⟨_, _, kept⟩ | through
  · rw [kept]
    exact sound
  · rw [through]
    cases checked : p.check with
    | error failure =>
        rw [solve_of_check_error checked]
        exact sound
    | ok _ =>
        rcases solve_leaves checked settings registry detailed limit behaviour sound rfl with
          ⟨_, cleared⟩ | ⟨_, _, _, _, ⟨_, cleared⟩ | ⟨_, _, _, _, _, recorded⟩⟩
        · exact cleared ▸ clean
        · exact cleared ▸ clean
        · exact Registry.sound_recordAll clean recorded

theorem allocation_solve (p : Problem) (settings : Settings) {registry : Registry}
    (sound : registry.Sound) (detailed : Bool) (limit : Option Seconds) (behaviour : Behaviour)
    (sink : Sink) :
    (solve p settings registry detailed limit behaviour sink).trace.registry.id = registry.id ∧
      (solve p settings registry detailed limit behaviour sink).trace.registry.allocated =
        registry.allocated := by
  rcases solve_through p settings registry detailed limit behaviour sink with
    ⟨_, _, kept⟩ | through
  · rw [kept]
    exact ⟨rfl, rfl⟩
  · rw [through]
    cases checked : p.check with
    | error failure =>
        rw [solve_of_check_error checked]
        exact ⟨rfl, rfl⟩
    | ok _ =>
        rcases solve_leaves checked settings registry detailed limit behaviour sound rfl with
          ⟨_, cleared⟩ | ⟨_, _, _, _, ⟨_, cleared⟩ | ⟨_, _, _, _, _, recorded⟩⟩
        · rw [cleared]
          exact ⟨rfl, rfl⟩
        · rw [cleared]
          exact ⟨rfl, rfl⟩
        · have kept := Registry.allocation_recordAll recorded
          exact kept

end SatClient.Solver
