import SatClient.Proofs.Clause
import SatClient.Proofs.Reply.Answer
import SatClient.Proofs.Workspace.Solving
/-!
From a reply to a model of the caller's clauses. A complete reply is recorded as the assignment that
it names, and under it the clauses are true exactly when the text that was sent is satisfied. Only a
literal with more digits than are converted keeps a complete reply from being recorded.
-/

namespace SatClient.Solver

open SatClient.Reply

section

variable {registry : Registry} (sound : registry.Sound) {c : Completion} {a : Answer}
  (complete : a.Complete registry.count) (output : decode c.stdout = a.text)

include output

theorem firstLine_of_answer : firstLine (decode c.stdout) = some ['S', 'A', 'T'] := by
  rw [output, Answer.text, firstLine, Text.readLine_append (by decide)]
  rfl

include complete

theorem secondLine_of_answer : secondLine (decode c.stdout) = some a.line := by
  rw [output, Answer.text, secondLine, Text.readLine_append (by decide)]
  show firstLine (a.front ++ '0' :: a.rest) = _
  rw [firstLine, Text.fst_readLine (by simp), Answer.takeWhile_body complete]

theorem readReply_of_answer :
    readReply registry c = (Result.recordReply registry (some a.line)).map (true, ·) := by
  have verdict (diagnostics : List String) :
      Reply.verdict diagnostics (some ['S', 'A', 'T']) = .ok true := rfl
  have first := firstLine_of_answer output
  have second := secondLine_of_answer complete output
  cases recorded : Result.recordReply registry (some a.line) <;>
    simp [readReply, first, second, verdict, recorded, Except.map]

theorem readReply_of_excess (long : ∃ token ∈ a.tokens, ¬ Fits token) :
    ∃ digits, Text.digitLimit < digits ∧ readReply registry c = .error (.excessDigits digits) := by
  obtain ⟨digits, beyond, failed⟩ := Answer.assignment_line_excess complete long
  refine ⟨digits, beyond, ?_⟩
  rw [readReply_of_answer complete output, Result.recordReply, failed]
  rfl

include sound

theorem readReply_of_fits (fits : ∀ token ∈ a.tokens, Fits token) :
    ∃ after, readReply registry c = .ok (true, after) := by
  have known : ∀ pair ∈ a.tokens.map pairOf, registry.Allocates pair.1 := by
    intro pair member
    obtain ⟨token, inside, rfl⟩ := List.mem_map.mp member
    have range := (complete.named (idOf token)).mp ⟨token, inside, rfl⟩
    exact ⟨Int.natCast_pos.mpr range.1, Int.ofNat_le.mpr range.2⟩
  have recorded := (Result.recordReply_eq_ok sound (some a.line) _).mpr
    ⟨_, Answer.assignment_line complete fits, known, rfl⟩
  rw [readReply_of_answer complete output, recorded]
  exact ⟨_, rfl⟩

end

end SatClient.Solver

namespace SatClient.Workspace

open SatClient.Decimal (Seconds)

/-- The registry of a solver holds the named value of each of its variables and no other, and the
clauses as they stand in the workspace are true under these values exactly when the named literals
satisfy the text that was sent. -/
structure Models (w : Workspace) (s : SolverId) (attempt : Solver.Attempt) (named : List Int) :
    Prop where
  satisfiable : ∃ result, attempt.outcome = .ok result ∧ result.satisfiable = true
  values : ∀ id, (w.registry (w.solver s).registry).results.get? id =
    if 0 < id ∧ id ≤ (w.problem s).variableCount then some (Dimacs.valuesOf named id) else none
  agrees : ∃ exchange count sent, attempt.trace.exchange = some exchange ∧
    Dimacs.read? exchange.received.toList = some (count, sent) ∧
    ((∀ clause ∈ (w.problem s).clauses,
      clause.evaluate (w.registry (w.solver s).registry).results.get? = .ok true) ↔
      Dimacs.Satisfies (Dimacs.valuesOf named) sent)

section

variable {w : Workspace} (sound : w.Sound) {s : SolverId} (passes : (w.problem s).check = .ok ())
  (detailed : Bool) {limit : Option Seconds} {behaviour : Behaviour} {c : Completion}
  (runs : Solver.RunsToEnd (w.solver s).settings limit behaviour c) {a : Reply.Answer}
  (complete : a.Complete (w.problem s).variableCount) (output : Solver.decode c.stdout = a.text)

include sound passes runs complete output

theorem solve_of_fits (fits : ∀ token ∈ a.tokens, Reply.Fits token) :
    (∃ result, (w.solve s detailed limit behaviour).2.outcome = .ok result ∧
      result.satisfiable = true) ∧
    ∀ id, ((w.solve s detailed limit behaviour).1.registry (w.solver s).registry).results.get? id =
      if 0 < id ∧ id ≤ (w.problem s).variableCount then some (Dimacs.valuesOf a.literals id)
      else none := by
  have own := (registry_sound sound (w.solver s).registry).2
  obtain ⟨after, read⟩ := Solver.readReply_of_fits (Registry.sound_clearResults own) complete
    output fits
  obtain ⟨⟨result, outcome, verdict⟩, _⟩ := Solver.solve_of_reply_ok passes (w.solver s).settings
    (w.registry (w.solver s).registry) detailed limit behaviour runs read
  refine ⟨⟨result, outcome, verdict⟩, ?_⟩
  intro id
  have said : Solver.saidOf (.ok result) (.completes c) id = Reply.lastSign a.line id := by
    simp only [Solver.saidOf, verdict, if_true, Solver.secondLine_of_answer complete output,
      Option.bind_some]
  have left := Solver.results_solve passes (w.solver s).settings
    (w.registry (w.solver s).registry) detailed limit behaviour own id
  rw [registry_solve sound, ← Reply.Answer.lastSign_line complete id, ← said]
  exact left.trans (by rw [outcome, runs.completes])

theorem models_of_fits (fits : ∀ token ∈ a.tokens, Reply.Fits token) :
    (w.solve s detailed limit behaviour).1.Models s (w.solve s detailed limit behaviour).2
      a.literals := by
  obtain ⟨satisfiable, values⟩ := solve_of_fits sound passes detailed runs complete output fits
  have total : ∀ clause ∈ (w.problem s).clauses, ∀ l ∈ clause.literals,
      ((w.solve s detailed limit behaviour).1.registry (w.solver s).registry).results.get? l.id =
        some (Dimacs.valuesOf a.literals l.id) := by
    intro clause inside l member
    have bound := Solver.Problem.bounded_of_check passes clause inside l member
    rw [values, if_pos ⟨l.id_pos, bound⟩]
  have count : ((w.solve s detailed limit behaviour).1.problem s).variableCount =
      (w.problem s).variableCount :=
    congrArg (· - 1) (preserves_solve sound s detailed limit behaviour .takesAll).counted
  have sent := Solver.exchange_of_runsToEnd passes (w.solver s).settings
    (w.registry (w.solver s).registry) detailed limit behaviour runs
  constructor
  case satisfiable => exact satisfiable
  case values =>
    rw [count]
    exact values
  case agrees =>
    exact ⟨_, _, _, sent, Solver.Problem.read?_of_check passes,
      Clause.evaluate_iff_satisfies total⟩

theorem fails_of_excess (long : ∃ token ∈ a.tokens, ¬ Reply.Fits token) :
    (∃ digits, Text.digitLimit < digits ∧
      (w.solve s detailed limit behaviour).2.outcome = .error (.excessDigits digits)) ∧
    ((w.solve s detailed limit behaviour).1.registry (w.solver s).registry).results = {} := by
  have excess : ∃ digits, Text.digitLimit < digits ∧
      Solver.readReply (w.registry (w.solver s).registry).clearResults c =
        .error (.excessDigits digits) := Solver.readReply_of_excess complete output long
  obtain ⟨digits, beyond, failed⟩ := excess
  obtain ⟨outcome, kept⟩ := Solver.solve_of_reply_error passes (w.solver s).settings
    (w.registry (w.solver s).registry) detailed limit behaviour runs failed
  rw [registry_solve sound]
  exact ⟨⟨digits, beyond, outcome⟩, congrArg Registry.results kept⟩

end

/-- A completed run with a complete reply, in any state that calls lead to: a model where all
literals can be converted, and otherwise a failure that leaves no values. -/
theorem solve_of_answer {w : Workspace} (reached : w.Reachable) {s : SolverId}
    (passes : (w.problem s).check = .ok ()) (detailed : Bool) {limit : Option Seconds}
    {behaviour : Behaviour} {sink : Sink} {c : Completion}
    (echoes : Solver.Echoes (w.problem s) (w.solver s).settings sink)
    (runs : Solver.RunsToEnd (w.solver s).settings limit behaviour c) {a : Reply.Answer}
    (complete : a.Complete (w.problem s).variableCount)
    (output : Solver.decode c.stdout = a.text) :
    ((∀ token ∈ a.tokens, Reply.Fits token) →
      (w.solve s detailed limit behaviour sink).1.Models s
        (w.solve s detailed limit behaviour sink).2 a.literals) ∧
    ((∃ token ∈ a.tokens, ¬ Reply.Fits token) →
      (∃ digits, Text.digitLimit < digits ∧
        (w.solve s detailed limit behaviour sink).2.outcome = .error (.excessDigits digits)) ∧
      ((w.solve s detailed limit behaviour sink).1.registry (w.solver s).registry).results =
        {}) := by
  rw [solve_of_echoes s detailed limit behaviour sink echoes]
  have sound := sound_of_reachable reached
  constructor
  · exact models_of_fits sound passes detailed runs complete output
  · exact fails_of_excess sound passes detailed runs complete output

def linked : Workspace :=
  holding 2 [⟨[⟨1, true, some ⟨0⟩, Nat.one_pos⟩, ⟨2, false, some ⟨0⟩, Nat.two_pos⟩]⟩,
    ⟨[⟨1, false, none, Nat.one_pos⟩, ⟨2, true, none, Nat.two_pos⟩, ⟨1, false, none, Nat.one_pos⟩]⟩,
    ⟨[⟨2, true, none, Nat.two_pos⟩]⟩] {}

def spread : Reply.Answer :=
  { lead := [' ']
    pieces := [(['-', '2'], ['\t']), (['-', '1'], [' ', ' ']), (['-', '0', '1'], [' '])]
    rest := [' ', '7', '\n', '5'] }

def spreadEnd : Completion :=
  { stdout := Text.Utf8.encode "SAT\n -2\t-1  -01 0 7\n5" }

theorem complete_spread : spread.Complete 2 := by
  constructor
  case lead => decide
  case shapes => decide
  case gaps => decide
  case rest =>
    intro c first
    cases first
    decide
  case named =>
    intro id
    constructor
    · rintro ⟨token, member, rfl⟩
      revert token
      decide
    · rintro ⟨positive, small⟩
      have range : id = 1 ∨ id = 2 := by omega
      rcases range with rfl | rfl
      · exact ⟨['-', '1'], by decide, by decide⟩
      · exact ⟨['-', '2'], by decide, by decide⟩
  case single => decide

theorem models_linked :
    linked.Reachable ∧ spread.Complete (linked.problem ⟨0⟩).variableCount ∧
      Solver.decode spreadEnd.stdout = spread.text ∧
      (linked.solve ⟨0⟩ true none (.completes spreadEnd)).1.Models ⟨0⟩
        (linked.solve ⟨0⟩ true none (.completes spreadEnd)).2 [-2, -1, -1] := by
  have reached : linked.Reachable := ⟨{}, _, rfl⟩
  have complete : spread.Complete (linked.problem ⟨0⟩).variableCount := complete_spread
  have fits : ∀ token ∈ spread.tokens, Reply.Fits token := by decide
  have output : Solver.decode spreadEnd.stdout = spread.text := by decide +kernel
  have echoes : Solver.Echoes (linked.problem ⟨0⟩) (linked.solver ⟨0⟩).settings .takesAll := trivial
  exact ⟨reached, complete, output,
    (solve_of_answer reached rfl true echoes ⟨by decide, rfl, rfl⟩ complete output).1 fits⟩

end SatClient.Workspace
