import SatClient.Demo.Run
import SatClient.Proofs.Demo
import SatClient.Proofs.Solver.Failures
/-!
The command on the demonstration: it solves the demonstration's problem in a workspace of its own,
and how it ends follows from the outcome of that attempt alone. Its problem always passes the check.
-/

namespace SatClient.Demo

open SatClient.CommandLine (DemoOptions)

def opened (host : Host) (s : Settings) : Workspace :=
  ((Workspace.newRegistry { host }).1.newSolver s (Workspace.newRegistry { host }).2).1

def loaded (host : Host) (s : Settings) : Workspace :=
  (build (opened host s) ⟨0⟩ size).workspace

def attempt (host : Host) (detailed : Bool) (s : Settings) : Solver.Attempt :=
  ((loaded host s).solve ⟨0⟩ detailed none (host.start s.executable)).2

def attempted (host : Host) (detailed : Bool) (s : Settings) : Workspace :=
  ((loaded host s).solve ⟨0⟩ detailed none (host.start s.executable)).1

theorem unused_opened (host : Host) (s : Settings) : Unused (opened host s) ⟨0⟩ := by
  constructor
  case sound => exact Workspace.sound_newRegistry (Workspace.sound_start host)
  case solver => exact Nat.one_pos
  case registry => exact Nat.one_pos
  case allocated => rfl
  case clauses => rfl

theorem check_loaded (host : Host) (s : Settings) :
    ((loaded host s).problem ⟨0⟩).check = .ok () :=
  check_build (unused_opened host s) size

theorem settings_loaded (host : Host) (s : Settings) :
    ((loaded host s).solver ⟨0⟩).settings = s := by
  rw [loaded, solver_build (unused_opened host s)]
  rfl

theorem attempt_eq (host : Host) (detailed : Bool) (s : Settings) :
    attempt host detailed s =
      Solver.solve ((loaded host s).problem ⟨0⟩) s
        ((loaded host s).registry ((loaded host s).solver ⟨0⟩).registry) detailed none
        (host.start s.executable) := by
  have made (w : Workspace) (id : SolverId) (behaviour : Behaviour) :
      (w.solve id detailed none behaviour).2 = Solver.solve (w.problem id) (w.solver id).settings
        (w.registry (w.solver id).registry) detailed none behaviour := rfl
  rw [attempt, made, settings_loaded]

/-- The ids of the demonstration are short, and so are those of a reply that can be read. -/
theorem raised_attempt {host : Host} {detailed : Bool} {s : Settings} {failure : Failure}
    (failed : (attempt host detailed s).outcome = .error failure) : failure.raised = failure := by
  rw [attempt_eq] at failed
  have echoes : Solver.Echoes ((loaded host s).problem ⟨0⟩) s .takesAll := trivial
  exact (Solver.failure_of_passes (check_loaded host s) echoes failed).1

section

variable {host : Host} {detailed : Bool} {o : DemoOptions} {s : Settings} {failure : Failure}
  (accepted : settings host o = .ok s) (solves : o.dimacsOnly = false)

include accepted solves

theorem run_of_settings :
    run host detailed o =
      report o (build (opened host s) ⟨0⟩ size) (attempted host detailed s)
        (attempt host detailed s) s.executable := by
  have first : ((Workspace.newRegistry { host }).1.newSolver s
      (Workspace.newRegistry { host }).2).2 = ⟨0⟩ := rfl
  simp only [run, accepted, runWith, solves, Bool.false_eq_true, if_false, first]
  rfl

theorem run_of_failure (failed : (attempt host detailed s).outcome = .error failure) :
    run host detailed o =
      Demo.failed
        { stdout := (attempt host detailed s).trace.echo, executable := s.executable
          events := (attempt host detailed s).trace.events
          exchange := (attempt host detailed s).trace.exchange } failure := by
  rw [run_of_settings accepted solves, report, failed]

theorem run_of_reported (failed : (attempt host detailed s).outcome = .error failure)
    (reported : failure.kind.isReported = true) :
    ∃ report, run host detailed o = .finished report ∧ report.code = 1 ∧
      report.stderr = "Error: " ++ failure.message ++ "\n" := by
  simp only [run_of_failure accepted solves failed, Demo.failed, raised_attempt failed, reported,
    if_true]
  exact ⟨_, rfl, rfl, rfl⟩

theorem run_of_unreported (failed : (attempt host detailed s).outcome = .error failure)
    (unreported : failure.kind.isReported = false) : run host detailed o = .aborted failure := by
  simp only [run_of_failure accepted solves failed, Demo.failed, raised_attempt failed, unreported,
    Bool.false_eq_true, if_false]

theorem run_of_endless (lasts : (attempt host detailed s).outcome = .endless) :
    run host detailed o = .endless := by
  simp only [run_of_settings accepted solves, report, lasts]

end

end SatClient.Demo
