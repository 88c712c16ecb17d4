import SatClient.Proofs.Solver.Classification
import SatClient.Proofs.Workspace.Noninterference
/-!
The classification of completed runs in a workspace. A line without a zero, or with a word before the
zero that is no literal, breaks the grammar whatever ids it names; of a line that keeps to the
grammar the first id outside the range is reported.
-/

namespace SatClient.Workspace

open SatClient.Decimal (Seconds)

/-- Every run to the end is classified by its first two lines. A line that breaks the grammar is
refused as such even if it names an unknown id first, and nothing behind the zero matters. -/
theorem solve_classified {w : Workspace} (reached : w.Reachable) {s : SolverId}
    (passes : (w.problem s).check = .ok ()) (detailed : Bool) {limit : Option Seconds}
    {behaviour : Behaviour} {sink : Sink} {c : Completion}
    (echoes : Solver.Echoes (w.problem s) (w.solver s).settings sink)
    (runs : Solver.RunsToEnd (w.solver s).settings limit behaviour c)
    (short : Solver.ShortRuns (Solver.decode c.stdout)) :
    Solver.Classifies (Solver.decode c.stdout) (w.problem s).variableCount
      (w.solve s detailed limit behaviour sink).2.outcome ∧
    (∀ line, Solver.Announces ['S', 'A', 'T'] (Solver.decode c.stdout) →
      Solver.secondLine (Solver.decode c.stdout) = some line →
      (['0'] ∉ Text.words line ∨ ∃ token ∈ Reply.named line, ¬ Reply.IsLiteral token) →
      Solver.observed (w.solve s detailed limit behaviour sink).2.outcome = .error .reply) ∧
    ∀ detailed' limit' behaviour' sink' d,
      Solver.Echoes (w.problem s) (w.solver s).settings sink' →
      Solver.RunsToEnd (w.solver s).settings limit' behaviour' d → Solver.SameToZero c d →
      Solver.observed (w.solve s detailed limit behaviour sink).2.outcome =
          Solver.observed (w.solve s detailed' limit' behaviour' sink').2.outcome ∧
        ((w.solve s detailed limit behaviour sink).1.registry (w.solver s).registry).results =
          ((w.solve s detailed' limit' behaviour' sink').1.registry
            (w.solver s).registry).results := by
  rw [solve_of_echoes s detailed limit behaviour sink echoes]
  have sound := sound_of_reachable reached
  have own := (registry_sound sound (w.solver s).registry).2
  have classified := Solver.classifies_solve passes (w.solver s).settings own detailed limit runs
    short
  refine ⟨classified, ?_, ?_⟩
  · intro line verdict second broken
    apply classified.malformed.mpr
    constructor
    · rintro ⟨first, starts, refuted⟩
      obtain ⟨other, starts', satisfied⟩ := verdict
      rw [starts] at starts'
      cases starts'
      rw [satisfied] at refuted
      cases refuted
    · rintro ⟨other, _, second', terminated, shapes⟩
      rw [second] at second'
      cases second'
      rcases broken with unterminated | ⟨token, member, malformed⟩
      · exact unterminated terminated
      · exact malformed (shapes token member)
  · intro detailed' limit' behaviour' sink' d echoes' runs' same
    rw [solve_of_echoes s detailed' limit' behaviour' sink' echoes']
    rw [registry_solve sound, registry_solve sound]
    simp only [solve]
    rcases Solver.readReply_of_sameToZero same (w.registry (w.solver s).registry).clearResults with
      ⟨⟨satisfiable, after⟩, here, there⟩ | ⟨failure, other, here, there, kind⟩
    · obtain ⟨⟨result, outcome, verdict⟩, left⟩ :=
        Solver.solve_of_reply_ok passes _ _ detailed _ _ runs here
      obtain ⟨⟨result', outcome', verdict'⟩, right⟩ :=
        Solver.solve_of_reply_ok passes _ _ detailed' _ _ runs' there
      rw [outcome, outcome', left, right]
      exact ⟨congrArg Solver.Fate.ok (verdict.trans verdict'.symm), rfl⟩
    · obtain ⟨outcome, left⟩ := Solver.solve_of_reply_error passes _ _ detailed _ _ runs here
      obtain ⟨outcome', right⟩ := Solver.solve_of_reply_error passes _ _ detailed' _ _ runs' there
      rw [outcome, outcome', left, right]
      exact ⟨congrArg Solver.Fate.error kind, rfl⟩

def strayEnd : Completion :=
  { stdout := Text.Utf8.encode "SAT\n-1 ٢ 07 -5 0 x" }

theorem classified_strayEnd :
    plain.Reachable ∧ Solver.ShortRuns (Solver.decode strayEnd.stdout) ∧
      ∃ failure, (plain.solve ⟨0⟩ false none (.completes strayEnd)).2.outcome = .error failure ∧
        failure.kind = .unknownVariable ∧ failure.message = "Variable 7 was never allocated" := by
  have reached : plain.Reachable := ⟨{}, _, rfl⟩
  have runs : Solver.RunsToEnd (plain.solver ⟨0⟩).settings none (.completes strayEnd) strayEnd :=
    ⟨by decide, rfl, rfl⟩
  have short : Solver.ShortRuns (Solver.decode strayEnd.stdout) := by
    intro run inside _
    have few : (Solver.decode strayEnd.stdout).length ≤ Text.digitLimit := by decide +kernel
    exact Nat.le_trans inside.length_le few
  have line : Solver.secondLine (Solver.decode strayEnd.stdout) = some "-1 ٢ 07 -5 0 x".toList := by
    decide +kernel
  have assigns : Solver.Assigns (Solver.decode strayEnd.stdout) "-1 ٢ 07 -5 0 x".toList :=
    ⟨⟨['S', 'A', 'T'], by decide +kernel, rfl⟩, line, by decide +kernel, by decide +kernel⟩
  have ids : Reply.ids "-1 ٢ 07 -5 0 x".toList = [1, 2, 7, 5] := by decide +kernel
  have echoes : Solver.Echoes (plain.problem ⟨0⟩) (plain.solver ⟨0⟩).settings .takesAll := trivial
  have classified := (solve_classified reached rfl false echoes runs short).1
  have named : 7 ∈ Reply.ids "-1 ٢ 07 -5 0 x".toList := by
    rw [ids]
    decide
  have unknown := classified.unknown.mpr ⟨_, assigns, 7, named, by decide⟩
  refine ⟨reached, short, ?_⟩
  cases outcome : (plain.solve ⟨0⟩ false none (.completes strayEnd)).2.outcome with
  | ok result =>
      rw [outcome] at unknown
      cases unknown
  | endless =>
      rw [outcome] at unknown
      cases unknown
  | error failure =>
      rw [outcome] at unknown
      have kind : failure.kind = .unknownVariable := Solver.Fate.error.inj unknown
      obtain ⟨other, id, assigns', first, message⟩ := classified.first failure outcome kind
      have same := Solver.assigns_unique assigns' assigns
      rw [same, Reply.firstOutside, ids] at first
      have seven : id = 7 := (Option.some.inj first).symm
      rw [seven] at message
      exact ⟨failure, rfl, kind, message⟩

end SatClient.Workspace
