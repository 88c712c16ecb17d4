import SatClient.Proofs.Workspace.Serialization
import SatClient.Proofs.Workspace.Solving
/-!
Writing the problem of a solver to a file, next to solving it. A run and a document check the
problem first, but writing does not: the file may hold a problem that is refused everywhere else,
and then it is not the text of any problem that was sent.
-/

namespace SatClient.Workspace

open SatClient.Decimal (Seconds)
open SatClient.Text.Utf8 (encode)

structure Refuses (w : Workspace) (s : SolverId) (failure : Failure) : Prop where
  kind : failure.kind = .unknownVariable
  document : (w.problem s).document = .error failure
  outcome : ∀ detailed limit behaviour sink,
    (w.solve s detailed limit behaviour sink).2.outcome = .error failure
  unsent : ∀ detailed limit behaviour sink,
    (w.solve s detailed limit behaviour sink).2.trace.exchange = none
  unchanged : ∀ detailed limit behaviour sink, (w.solve s detailed limit behaviour sink).1 = w

/-- What is written for a solver, and how far that is what a run sends. -/
structure WritesUnchecked (w : Workspace) (s : SolverId) : Prop where
  /-- If the text can be rendered, the path and the files decide whether the problem is written, as
  they do for any text. -/
  indifferent : ∀ path text, (w.writeProblem s path).2 =
    (w.host.files.write FileStore.calm path ((w.problem s).rendered.map fun _ => text)).2
  rendered : (∀ n ∈ Dimacs.numbers (w.problem s).variableCount (w.problem s).clauses,
    n.natAbs < 10 ^ Text.digitLimit) → (w.problem s).rendered = .ok (w.problem s).text
  failures : ∀ path failure, (w.writeProblem s path).2 = .error failure →
    failure.kind ≠ .unknownVariable
  content : ∀ path left, w.writeProblem s path = (left, .ok ()) →
    left.host.files.content? path = .ok (some (encode (w.problem s).text))
  readable : (Dimacs.read? (w.problem s).text.toList).isSome = true ↔
    ∀ c ∈ (w.problem s).clauses, ∀ l ∈ c.literals, l.id ≤ (w.problem s).variableCount
  /-- With no variable out of place the text is the one that every other way out gives. -/
  admitted : (∀ c ∈ (w.problem s).clauses, ∀ l ∈ c.literals, (w.problem s).Admits l) →
    w.Serialises s (w.problem s).text
  refused : ∀ c ∈ (w.problem s).clauses, ∀ l ∈ c.literals, ¬ (w.problem s).Admits l →
    ∃ failure, w.Refuses s failure

theorem kind_of_writeProblem {w : Workspace} {s : SolverId} {path : Path} {failure : Failure}
    (refused : (w.writeProblem s path).2 = .error failure) : failure.kind ≠ .unknownVariable := by
  have outcome : (w.host.files.write FileStore.calm path (w.problem s).rendered).2 =
      .error failure := refused
  rcases FileStore.kind_of_write outcome with kind | unwritten | ⟨fault, kind⟩
  · rw [kind]
    decide
  · rw [Dimacs.kind_of_rendered unwritten]
    decide
  · rw [kind]
    exact Failure.Kind.noConfusion

/-- A check that fails is the failure of the document and of the run, before anything starts. -/
theorem refuses_of_check {w : Workspace} (sound : w.Sound) {s : SolverId} {failure : Failure}
    (stopped : (w.problem s).check = .error failure) : w.Refuses s failure := by
  have attempt (detailed : Bool) (limit : Option Seconds) (behaviour : Behaviour) (sink : Sink) :=
    solve_of_check_error sound s detailed limit behaviour sink stopped
  constructor
  case kind => exact Solver.Problem.kind_of_check stopped
  case document => rw [Solver.Problem.document, stopped]
  case outcome =>
    intro detailed limit behaviour sink
    rw [attempt]
  case unsent =>
    intro detailed limit behaviour sink
    rw [attempt]
  case unchanged =>
    intro detailed limit behaviour sink
    rw [attempt]

/-- Of every problem, whether it passes its check or not. -/
theorem writesUnchecked_of_reachable {w : Workspace} (reached : w.Reachable) (s : SolverId) :
    w.WritesUnchecked s := by
  have sound := sound_of_reachable reached
  constructor
  case indifferent =>
    intro path text
    exact FileStore.outcome_write w.host.files FileStore.calm path _ text
  case rendered =>
    intro short
    exact Dimacs.rendered_of_digits _ (Nat.le_refl _) short
  case failures =>
    intro path failure refused
    exact kind_of_writeProblem refused
  case content =>
    intro path left written
    exact content?_of_writeProblem written
  case readable => exact Dimacs.isSome_read?_text _ _
  case admitted =>
    intro admits
    exact (serialises_of_check ((w.problem s).check_eq_ok.mpr admits)).1
  case refused =>
    intro c inside l member outside
    cases checked : (w.problem s).check with
    | ok _ => exact absurd ((w.problem s).check_eq_ok.mp checked c inside l member) outside
    | error failure => exact ⟨failure, refuses_of_check sound checked⟩

def beyond : Workspace :=
  holding 1 [⟨[⟨1, false, some ⟨0⟩, Nat.one_pos⟩, ⟨2, true, none, Nat.two_pos⟩]⟩] {}

/-- The problem is refused by every run, and yet it is written; no strict reader takes the file. -/
theorem written_beyond :
    beyond.Reachable ∧ (∃ failure, beyond.Refuses ⟨0⟩ failure) ∧
      ∃ left, beyond.writeProblem ⟨0⟩ (Path.ofText "p.cnf") = (left, .ok ()) ∧
        left.host.files.content? (Path.ofText "p.cnf") =
          .ok (some (encode "p cnf 1 1\n1 -2 0\n")) ∧
        Dimacs.read? "p cnf 1 1\n1 -2 0\n".toList = none := by
  have reached : beyond.Reachable := ⟨{}, _, rfl⟩
  have unchecked := writesUnchecked_of_reachable reached ⟨0⟩
  have text : (beyond.problem ⟨0⟩).text = "p cnf 1 1\n1 -2 0\n" := by decide
  have large : ¬ (beyond.problem ⟨0⟩).Admits ⟨2, true, none, Nat.two_pos⟩ := fun admits =>
    absurd admits.2 (by decide)
  have rendered : Dimacs.rendered (beyond.problem ⟨0⟩).variableCount (beyond.problem ⟨0⟩).clauses =
      .ok (beyond.problem ⟨0⟩).text :=
    Dimacs.rendered_of_digits 1 (by decide) (by decide)
  have written : beyond.writeProblem ⟨0⟩ (Path.ofText "p.cnf") =
      ((beyond.writeProblem ⟨0⟩ (Path.ofText "p.cnf")).1, .ok ()) := by
    rw [writeProblem, writeDimacs, rendered]
    rfl
  refine ⟨reached, ?_, _, written, ?_, ?_⟩
  · exact unchecked.refused _ List.mem_cons_self _ (List.mem_cons_of_mem _ List.mem_cons_self) large
  · rw [unchecked.content _ _ written, text]
  · rw [← text, ← Option.not_isSome_iff_eq_none]
    intro read
    have bounded := unchecked.readable.mp read _ List.mem_cons_self _
      (List.mem_cons_of_mem _ List.mem_cons_self)
    exact absurd bounded (by decide)

end SatClient.Workspace
