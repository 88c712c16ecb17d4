import SatClient.Proofs.FileStore
import SatClient.Proofs.Workspace.Solving
/-!
The ways in which a problem leaves a workspace: sent to a process, line by line, written to a file,
through its document, and echoed. All give one text, and the text is read back as the problem.
-/

namespace SatClient.Workspace

open SatClient.Text.Utf8 (encode)

/-- Whether every way out gives this text for the problem of a solver. -/
structure Serialises (w : Workspace) (id : SolverId) (text : String) : Prop where
  sent : ∀ detailed limit behaviour sink c,
    Solver.RunsToEnd (w.solver id).settings limit behaviour c →
    Solver.Echoes (w.problem id) (w.solver id).settings sink →
      (w.solve id detailed limit behaviour sink).2.trace.exchange =
        some ⟨(w.solver id).settings.arguments, text⟩
  lines : Dimacs.joinLines (w.problem id).lines = text
  rendered : Dimacs.text (w.problem id).variableCount (w.problem id).clauses = text
  written : ∀ path left, w.writeProblem id path = (left, .ok ()) →
    left.host.files.content? path = .ok (some (encode text))
  document : ∃ document, (w.problem id).document = .ok document ∧ document.text = text
  echoed : (w.solver id).settings.verbose = true → ∀ detailed limit behaviour sink,
    Solver.Echoes (w.problem id) (w.solver id).settings sink →
      (w.solve id detailed limit behaviour sink).2.trace.echo = text

theorem content?_of_writeProblem {w left : Workspace} {id : SolverId} {path : Path}
    (written : w.writeProblem id path = (left, .ok ())) :
    left.host.files.content? path = .ok (some (encode (w.problem id).text)) := by
  have files : (w.host.files.write FileStore.calm path (w.problem id).rendered).1 =
      left.host.files := congrArg (fun made => made.1.host.files) written
  have outcome : (w.host.files.write FileStore.calm path (w.problem id).rendered).2 = .ok () :=
    congrArg Prod.snd written
  obtain ⟨text, whole, content⟩ := FileStore.content?_of_write (Prod.ext files outcome)
  rw [Dimacs.rendered_eq_ok whole] at content
  exact content

/-- The clauses may be empty, repeat literals or use variables of no registry: once the check
passes, all texts are one, and a strict reader gets the literals back in their order. -/
theorem serialises_of_check {w : Workspace} {id : SolverId}
    (passes : (w.problem id).check = .ok ()) :
    w.Serialises id (w.problem id).text ∧
      Dimacs.read? (w.problem id).text.toList =
        some ((w.problem id).variableCount, (w.problem id).clauses.map Clause.signed) := by
  refine ⟨?_, Solver.Problem.read?_of_check passes⟩
  constructor
  case sent =>
    intro detailed limit behaviour sink c runs echoes
    rw [solve_of_echoes id detailed limit behaviour sink echoes]
    exact Solver.exchange_of_runsToEnd passes _ _ detailed limit behaviour runs
  case lines => rfl
  case rendered => rfl
  case written =>
    intro path left written
    exact content?_of_writeProblem written
  case document =>
    exact ⟨_, Solver.Problem.document_of_check passes, Document.text_signed _ _⟩
  case echoed =>
    intro verbose detailed limit behaviour sink echoes
    rw [solve_of_echoes id detailed limit behaviour sink echoes]
    have echo := Solver.echo_solve passes (w.solver id).settings
      (w.registry (w.solver id).registry) detailed limit behaviour
    rw [Solver.echoOf, verbose] at echo
    exact echo

def mixed : Workspace :=
  holding 2 [⟨[⟨1, true, some ⟨0⟩, Nat.one_pos⟩, ⟨2, false, some ⟨0⟩, Nat.two_pos⟩]⟩, {},
    ⟨[⟨2, false, none, Nat.two_pos⟩, ⟨2, false, none, Nat.two_pos⟩]⟩] { verbose := true }

theorem serialises_mixed :
    (mixed.problem ⟨0⟩).check = .ok () ∧
      mixed.Serialises ⟨0⟩ "p cnf 2 3\n-1 2 0\n0\n2 2 0\n" ∧
      (mixed.writeProblem ⟨0⟩ (Path.ofText "p.cnf")).2 = .ok () := by
  have passes : (mixed.problem ⟨0⟩).check = .ok () := rfl
  have text : (mixed.problem ⟨0⟩).text = "p cnf 2 3\n-1 2 0\n0\n2 2 0\n" := by decide
  have rendered : Dimacs.rendered (mixed.problem ⟨0⟩).variableCount (mixed.problem ⟨0⟩).clauses =
      .ok (mixed.problem ⟨0⟩).text :=
    Dimacs.rendered_of_digits 1 (by decide) (by decide)
  refine ⟨passes, text ▸ (serialises_of_check passes).1, ?_⟩
  rw [writeProblem, writeDimacs, rendered]
  rfl

end SatClient.Workspace
