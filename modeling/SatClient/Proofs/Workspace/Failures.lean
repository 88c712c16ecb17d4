import SatClient.Proofs.Demo.Run
import SatClient.Proofs.Solver.Failures
import SatClient.Proofs.Workspace.Noninterference
/-!
The failures of solving in a workspace, and what the command makes of them: it reports those of the
announced kinds and is aborted by the others.
-/

namespace SatClient.Workspace

open SatClient.CommandLine (DemoOptions)
open SatClient.Decimal (Seconds)

/-- What a solve raises is of an announced kind or has one of five causes, each of which does raise
its failure; a solve that neither returns nor raises waits for a hanging process without a limit.
The command reports the announced kinds and is aborted by the others. -/
theorem solve_failures (w : Workspace) (s : SolverId) (detailed : Bool) (limit : Option Seconds)
    (behaviour : Behaviour) (sink : Sink) :
    (∀ failure, (w.solve s detailed limit behaviour sink).2.outcome = .error failure →
      failure.raised.kind ∈ Solver.failureKinds ∨
        Solver.Escapes (w.problem s) (w.solver s).settings limit behaviour sink failure.raised) ∧
    (∀ failure, Solver.Escapes (w.problem s) (w.solver s).settings limit behaviour sink failure →
      (∃ cause, (w.solve s detailed limit behaviour sink).2.outcome = .error cause ∧
        cause.raised = failure) ∧ failure.kind.isReported = false) ∧
    ((w.solve s detailed limit behaviour sink).2.outcome = .endless →
      behaviour = .hangs ∧ limit.or ((w.solver s).settings.timeout.map .fraction) = none) ∧
    ∀ (host : Host) (o : DemoOptions) (settings : Settings),
      Demo.settings host o = .ok settings → o.dimacsOnly = false →
      ((Demo.attempt host detailed settings).outcome = .endless →
        Demo.run host detailed o = .endless) ∧
      ∀ failure, (Demo.attempt host detailed settings).outcome = .error failure →
        (failure.kind ∈ Solver.failureKinds →
          ∃ report, Demo.run host detailed o = .finished report ∧ report.code = 1 ∧
            report.stderr = "Error: " ++ failure.message ++ "\n") ∧
        (Demo.run host detailed o = .aborted failure ↔
          Solver.Escapes ((Demo.loaded host settings).problem ⟨0⟩) settings none
            (host.start settings.executable) .takesAll failure) := by
  refine ⟨?_, ?_, ?_, ?_⟩
  · intro failure failed
    exact Solver.failure_of_solve failed
  · intro failure escapes
    exact ⟨Solver.solve_of_escapes escapes, Solver.isReported_of_escapes escapes⟩
  · intro lasts
    exact Solver.hangs_of_endless lasts
  · intro host o settings accepted solves
    refine ⟨Demo.run_of_endless accepted solves, fun failure failed => ?_⟩
    have reported (announced : failure.kind ∈ Solver.failureKinds) :=
      Demo.run_of_reported accepted solves failed (Solver.isReported_of_mem announced)
    refine ⟨reported, ?_⟩
    constructor
    · intro aborted
      have raised := Demo.raised_attempt failed
      rw [Demo.attempt_eq] at failed
      rcases Solver.failure_of_solve failed with announced | escapes
      · rw [raised] at announced
        obtain ⟨report, finished, _⟩ := reported announced
        rw [aborted] at finished
        cases finished
      · rwa [raised] at escapes
    · intro escapes
      exact Demo.run_of_unreported accepted solves failed (Solver.isReported_of_escapes escapes)

def cut : Settings := { executable := "mini\x00sat" }

def cutHost : Host :=
  { files := FileStore.install {} Settings.defaultFile
      (.file (Text.Utf8.encode "solver.executable=mini\x00sat\n")) }

def boundless : Settings := { timeout := some (.infinity false) }

def stray (id : Nat) (positive : 0 < id) : Clause :=
  ⟨[⟨id, false, none, positive⟩]⟩

def longEnd (digits : Nat) : Completion :=
  { stdout := Text.plainBytes
      (['S', 'A', 'T'] ++ '\n' :: (List.replicate digits '1' ++ [' ', '0'])) }

theorem decode_longEnd (digits : Nat) : Solver.decode (longEnd digits).stdout =
    ['S', 'A', 'T'] ++ '\n' :: (List.replicate digits '1' ++ [' ', '0']) := by
  have plain : ∀ c ∈ ['S', 'A', 'T', '\n', '1', ' ', '0'], c.toNat < 128 ∧ c ≠ '\r' := by simp
  apply Solver.decode_plainBytes
  intro c member
  refine plain c ?_
  simp only [List.mem_append, List.mem_cons, List.mem_replicate] at member ⊢
  grind

theorem escapes_longEnd {digits : Nat} (long : Text.digitLimit < digits) :
    Solver.Escapes ((holding 1 [] {}).problem ⟨0⟩) {} none (.completes (longEnd digits)) .takesAll
      (.excessDigits digits) := by
  have ones : ∀ d ∈ List.replicate digits '1', Text.isDigit d = true := by
    intro d member
    rw [List.eq_of_mem_replicate member]
    decide
  have runs : Solver.RunsToEnd {} none (.completes (longEnd digits)) (longEnd digits) :=
    ⟨by decide, rfl, rfl⟩
  have length : (List.replicate digits '1').length = digits := List.length_replicate
  rw [← length] at long
  have passes : ((holding 1 [] {}).problem ⟨0⟩).check = .ok () := rfl
  have echoes : Solver.Echoes ((holding 1 [] {}).problem ⟨0⟩) {} .takesAll := trivial
  have escapes :=
    Solver.escapes_of_digits passes echoes runs ones long (decode_longEnd digits)
  rwa [length] at escapes

theorem check_stray {id : Nat} (positive : 0 < id) (far : 1 < id) :
    ((holding 1 [stray id positive] {}).problem ⟨0⟩).check =
      .error (.unallocatedVariable 0 id 1) := by
  have problem : (holding 1 [stray id positive] {}).problem ⟨0⟩ =
      ⟨⟨0⟩, 1, [stray id positive]⟩ := rfl
  rw [problem]
  simp [Solver.Problem.check, Solver.Problem.clausesFailure?, Solver.Problem.literalFailure?, stray,
    far]

theorem failures_of_causes :
    (Demo.settings cutHost {} = .ok cut ∧ Demo.run cutHost false {} = .aborted .embeddedNull) ∧
    (Settings.ofFields [("timeout", .number (.infinity false))] = .ok boundless ∧
      ∃ cause, ((holding 1 [] boundless).solve ⟨0⟩ false none .hangs).2.outcome = .error cause ∧
        cause.raised = .unusableLimit .unbounded) ∧
    (∃ cause, ((holding 1 [] {}).solve ⟨0⟩ false none (.completes (longEnd 4301))).2.outcome =
        .error cause ∧ cause.raised = .excessDigits 4301) ∧
    (∃ cause, ((holding 1 [] { verbose := true }).solve ⟨0⟩ false none .hangs
        (.fails 0 .closed)).2.outcome = .error cause ∧ cause.raised = .closedStream) ∧
    ∃ (positive : 0 < 10 ^ Text.digitLimit) (cause : Failure),
      ((holding 1 [stray (10 ^ Text.digitLimit) positive] {}).solve ⟨0⟩ false none .hangs).2.outcome =
        .error cause ∧ cause.raised = .unwritableNumber := by
  refine ⟨?_, ⟨rfl, ?_⟩, ?_, ?_, ?_⟩
  · have read : (Demo.settings cutHost {}).toOption = some cut := by decide +kernel
    have accepted : Demo.settings cutHost {} = .ok cut := by
      cases given : Demo.settings cutHost {} with
      | error failure =>
          rw [given] at read
          cases read
      | ok s =>
          rw [given] at read
          exact congrArg Except.ok (Option.some.inj read)
    have escapes : Solver.Escapes ((Demo.loaded cutHost cut).problem ⟨0⟩) cut none
        (cutHost.start cut.executable) .takesAll .embeddedNull :=
      .embeddedNull (Demo.check_loaded cutHost cut) trivial (by decide)
    obtain ⟨cause, outcome, raised⟩ := Solver.solve_of_escapes escapes
    have failed : (Demo.attempt cutHost false cut).outcome = .error cause := by
      rw [Demo.attempt_eq]
      exact outcome
    rw [Demo.raised_attempt failed] at raised
    rw [raised] at failed
    have failures := solve_failures {} ⟨0⟩ false none .hangs .takesAll
    have command := (failures.2.2.2 cutHost {} cut accepted rfl).2 _ failed
    exact ⟨accepted, command.2.mpr escapes⟩
  · have failures := solve_failures (holding 1 [] boundless) ⟨0⟩ false none .hangs .takesAll
    exact (failures.2.1 _ (.unusableLimit rfl trivial (by decide) rfl rfl)).1
  · have failures :=
      solve_failures (holding 1 [] {}) ⟨0⟩ false none (.completes (longEnd 4301)) .takesAll
    exact (failures.2.1 _ (escapes_longEnd (by decide))).1
  · have failures :=
      solve_failures (holding 1 [] { verbose := true }) ⟨0⟩ false none .hangs (.fails 0 .closed)
    exact (failures.2.1 StreamFault.closed.failure (.stuckEcho rfl rfl rfl (by decide))).1
  · have positive : 0 < 10 ^ Text.digitLimit := Nat.pow_pos (by decide)
    have far : 1 < 10 ^ Text.digitLimit := Nat.one_lt_pow (by decide) (by decide)
    have failures := solve_failures (holding 1 [stray (10 ^ Text.digitLimit) positive] {}) ⟨0⟩ false
      none .hangs .takesAll
    exact ⟨positive, (failures.2.1 _ (.unwritableNumber (check_stray positive far)
      (.unallocated 0 1) (Nat.le_refl _))).1⟩

end SatClient.Workspace
