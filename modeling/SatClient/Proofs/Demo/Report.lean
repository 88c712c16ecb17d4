import SatClient.Proofs.Demo.Run
import SatClient.Proofs.Solver.Classification
import SatClient.Proofs.Workspace.Solving
/-!
What the command prints about an attempt. The first variable stands for the disjunction and the five
after it for its members, so that the table has the signs with which the reply named them last.
-/

namespace SatClient.Demo

open SatClient.CommandLine (DemoOptions)
open SatClient.Solver (Tells decode diagnosticLines saidOf)
open SatClient.Solver.Result (boolText)

def shownSign : Option Bool → String
  | some sign => boolText sign
  | none => "n/a"

/-- The lines of a report, without those of the statistics. -/
def table (satisfiable : Bool) (sign : Nat → Option Bool) : List String :=
  ["satisfiable: " ++ boolText satisfiable,
    "left  : " ++ shownSign (sign 1),
    "var #0: " ++ shownSign (sign 2),
    "var #1: " ++ shownSign (sign 3),
    "var #2: " ++ shownSign (sign 4),
    "var #3: " ++ shownSign (sign 5),
    "var #4: " ++ shownSign (sign 6)]

def problemLines : List String :=
  ["p cnf 6 18", "2 3 4 5 6 -1 0", "-2 1 0", "-3 1 0", "-4 1 0", "-5 1 0", "-6 1 0", "-2 -3 0",
    "-2 -4 0", "-2 -5 0", "-2 -6 0", "-3 -4 0", "-3 -5 0", "-3 -6 0", "-4 -5 0", "-4 -6 0",
    "-5 -6 0", "2 3 4 5 6 0", "-1 0"]

def echoed (s : Settings) : String :=
  if s.verbose then Dimacs.joinLines problemLines else ""

def literalAt (index : Nat) : Literal :=
  Registry.positive { id := ⟨0⟩ } index

section

variable (host : Host) (detailed : Bool) (s : Settings)

theorem literals_opened :
    (build (opened host s) ⟨0⟩ size).left = literalAt 0 ∧
      (build (opened host s) ⟨0⟩ size).choices =
        [literalAt 1, literalAt 2, literalAt 3, literalAt 4, literalAt 5] := by
  have made := literals_build (unused_opened host s) size
  rw [Registry.createMany_empty] at made
  exact List.cons.inj made

theorem lines_loaded : ((loaded host s).problem ⟨0⟩).lines = problemLines := by
  have made := problem_build (unused_opened host s) size
  rw [(literals_opened host s).1, (literals_opened host s).2] at made
  have lines : Dimacs.lines (size + 1 : Nat) (clauses (literalAt 0)
      [literalAt 1, literalAt 2, literalAt 3, literalAt 4, literalAt 5]) = problemLines := by
    decide +kernel
  rw [loaded, made]
  exact lines

theorem echo_attempt : (attempt host detailed s).trace.echo = echoed s := by
  rw [attempt_eq, Solver.echo_solve (check_loaded host s), Solver.echoOf, Solver.Problem.text,
    lines_loaded, echoed]

theorem sound_loaded : (loaded host s).Sound := by
  have first := (unused_opened host s).sound
  have own := Workspace.registry_sound first ⟨0⟩
  exact Workspace.sound_setRegistry first (Registry.sound_createMany (size + 1) own.2)

theorem sound_registry_loaded :
    ((loaded host s).registry ((loaded host s).solver ⟨0⟩).registry).Sound :=
  (Workspace.registry_sound (sound_loaded host s) _).2

theorem registry_loaded : ((loaded host s).solver ⟨0⟩).registry = ⟨0⟩ := by
  rw [loaded, solver_build (unused_opened host s)]
  rfl

theorem results_attempted (id : Nat) :
    ((attempted host detailed s).registry ⟨0⟩).results.get? id =
      saidOf (attempt host detailed s).outcome (host.start s.executable) id := by
  have left := Workspace.registry_solve (sound_loaded host s) ⟨0⟩ detailed none
    (host.start s.executable) .takesAll
  have values := Solver.results_solve (check_loaded host s) s _ detailed none
    (host.start s.executable) (sound_registry_loaded host s) id
  rw [registry_loaded] at left
  rw [← attempt_eq] at values
  rw [← values, attempted, left, attempt]

theorem shownValue_attempted (index : Nat) :
    shownValue (attempted host detailed s) (literalAt index) =
      shownSign
        (saidOf (attempt host detailed s).outcome (host.start s.executable) (index + 1)) := by
  have found : (attempted host detailed s).literalResult (literalAt index) =
      ((attempted host detailed s).registry ⟨0⟩).result (literalAt index) := rfl
  have id : (literalAt index).id = index + 1 := rfl
  rw [shownValue, found, Registry.result, id, results_attempted]
  cases saidOf (attempt host detailed s).outcome (host.start s.executable) (index + 1) <;> rfl

theorem reportLines_attempted (result : Solver.Result) :
    reportLines (build (opened host s) ⟨0⟩ size) (attempted host detailed s) result =
      table result.satisfiable
        (saidOf (attempt host detailed s).outcome (host.start s.executable)) := by
  rw [reportLines, (literals_opened host s).1, (literals_opened host s).2]
  simp only [variableLines, shownValue_attempted, table]
  rfl

end

/-- How a command ends that is not aborted, without what it tells of the solver that it ran. -/
def Ends (ending : Ending) (code : Nat) (stdout stderr : String) : Prop :=
  ∃ report, ending = .finished report ∧ report.code = code ∧ report.stdout = stdout ∧
    report.stderr = stderr

section

variable {host : Host} {detailed : Bool} {o : DemoOptions} {s : Settings}
  (accepted : settings host o = .ok s) (solves : o.dimacsOnly = false)

include accepted solves

theorem ends_of_error {failure : Failure}
    (failed : (attempt host detailed s).outcome = .error failure)
    (reported : failure.kind.isReported = true) :
    Ends (run host detailed o) 1 (echoed s) ("Error: " ++ failure.message ++ "\n") := by
  simp only [run_of_failure accepted solves failed, Demo.failed, raised_attempt failed, reported,
    if_true, echo_attempt]
  exact ⟨_, rfl, rfl, rfl, rfl⟩

theorem ends_of_ok {result : Solver.Result}
    (returns : (attempt host detailed s).outcome = .ok result) :
    Ends (run host detailed o) 0
      (echoed s ++ Dimacs.joinLines (table result.satisfiable
        (saidOf (.ok result) (host.start s.executable))) ++ (if o.stats then result.text else ""))
      "" := by
  rw [run_of_settings accepted solves, report]
  simp only [returns, echo_attempt, reportLines_attempted]
  exact ⟨_, rfl, rfl, rfl, rfl⟩

/-- A report tells what the process wrote, and a failure is told with nothing of a report. -/
theorem run_reports :
    (∀ result, (attempt host detailed s).outcome = .ok result →
      ∃ c sign, host.start s.executable = .completes c ∧
        Tells (decode c.stdout) result.satisfiable sign ∧
        Ends (run host detailed o) 0
          (echoed s ++ Dimacs.joinLines (table result.satisfiable sign) ++
            (if o.stats then Dimacs.joinLines (diagnosticLines c) else "")) "") ∧
    ∀ failure, (attempt host detailed s).outcome = .error failure →
      failure.kind.isReported = true →
      Ends (run host detailed o) 1 (echoed s) ("Error: " ++ failure.message ++ "\n") := by
  refine ⟨fun result returns => ?_, fun failure => ends_of_error accepted solves⟩
  have outcome := returns
  rw [attempt_eq] at outcome
  obtain ⟨c, completes, tells, statistics⟩ :=
    Solver.tells_solve (sound_registry_loaded host s) outcome
  refine ⟨c, _, completes, tells, ?_⟩
  have text : result.text = Dimacs.joinLines (diagnosticLines c) := by
    rw [Solver.Result.text, statistics, Dimacs.joinLines]
  rw [← text]
  exact ends_of_ok accepted solves returns

end

def fluent : Completion where
  stdout := Text.Utf8.encode "SAT\n-1 2 3 -2 0 4\n"
  stderr := Text.Utf8.encode "c one\nc two"
  status := 10

def fluentHost : Host where
  commands := Table.ofList [("minisat", .program (.completes fluent))]

theorem tells_fluent :
    Tells (decode fluent.stdout) true (Reply.lastSign "-1 2 3 -2 0 4".toList) := by
  have first : Solver.firstLine (decode fluent.stdout) = some "SAT".toList := by decide +kernel
  have second : Solver.secondLine (decode fluent.stdout) = some "-1 2 3 -2 0 4".toList := by
    decide +kernel
  have shape : Reply.IsAssignment "-1 2 3 -2 0 4".toList := ⟨by decide +kernel, by decide +kernel⟩
  exact Solver.tells_of_assigns ⟨⟨_, first, rfl⟩, second, shape⟩

/-- A report with a variable of either sign and others that are not named, and a command that cannot
be started after the problem is echoed. -/
theorem reports_fluent :
    settings fluentHost { stats := true } = .ok {} ∧
      Ends (run fluentHost false { stats := true }) 0
        ("satisfiable: True\nleft  : False\nvar #0: False\nvar #1: True\nvar #2: n/a\n" ++
          "var #3: n/a\nvar #4: n/a\nc one\nc two\n") "" ∧
      settings {} { verbose := true } = .ok { verbose := true } ∧
      Ends (run {} false { verbose := true }) 1 (Dimacs.joinLines problemLines)
        ("Error: Cannot start solver 'minisat': [Errno 2] No such file or directory: " ++
          "'minisat'\n") := by
  have plain : settings fluentHost { stats := true } = .ok {} := rfl
  have verbose : settings {} { verbose := true } = .ok { verbose := true } := rfl
  refine ⟨plain, ?_, verbose, ?_⟩
  · have answered : Solver.observed (attempt fluentHost false {}).outcome = .ok true := by
      decide +kernel
    cases returns : (attempt fluentHost false {}).outcome with
    | error failure =>
        rw [returns] at answered
        cases answered
    | endless =>
        rw [returns] at answered
        cases answered
    | ok result =>
        obtain ⟨c, sign, completes, tells, ends⟩ := (run_reports plain rfl).1 result returns
        cases completes
        obtain ⟨satisfied, rfl⟩ := Solver.tells_unique tells tells_fluent
        rw [← satisfied] at ends
        have printed : echoed {} ++
              Dimacs.joinLines (table true (Reply.lastSign "-1 2 3 -2 0 4".toList)) ++
              Dimacs.joinLines (diagnosticLines fluent) =
            "satisfiable: True\nleft  : False\nvar #0: False\nvar #1: True\nvar #2: n/a\n" ++
              "var #3: n/a\nvar #4: n/a\nc one\nc two\n" := by
          decide +kernel
        rw [← printed]
        exact ends
  · have failed : (attempt {} false { verbose := true }).outcome =
        .error (.cannotStart "minisat" .notFound) := rfl
    have message : "Error: " ++ (Failure.cannotStart "minisat" .notFound).message ++ "\n" =
        ("Error: Cannot start solver 'minisat': [Errno 2] No such file or directory: " ++
          "'minisat'\n") := by
      decide +kernel
    rw [← message]
    exact (run_reports verbose rfl).2 _ failed rfl

end SatClient.Demo
