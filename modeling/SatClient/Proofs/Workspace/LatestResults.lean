import SatClient.Proofs.Workspace.Solving
/-!
Whose values a registry holds. In a run that touches them only by solving they are those of the
latest solve on the registry that passed its check and echoed its problem, whichever solver made it
and however it ended. A solve that fails at its echo leaves the values of an earlier one.
-/

namespace SatClient

def Action.sparesResults : Action → Bool
  | recordResult .. | clearResults _ | resetRegistry _ | addAssignment .. => false
  | _ => true

structure Visit where
  behaviour : Behaviour
  outcome : Solver.Fate Failure Solver.Result

/-- The values of a visit: without a satisfying reply none, and otherwise for each id the sign of
its last occurrence before the zero. -/
def Visit.said (v : Visit) (id : Nat) : Option Bool :=
  Solver.saidOf v.outcome v.behaviour id

namespace Workspace

/-- The solve that an action makes on a registry, unless it stops at the check of the problem or at
its echo. -/
def visit? (w : Workspace) (id : RegistryId) : Action → Option Visit
  | .solve s detailed limit behaviour sink =>
    match (w.problem s).check with
    | .error _ => none
    | .ok () =>
      if (w.solver s).registry = id ∧ Solver.Echoes (w.problem s) (w.solver s).settings sink then
        some ⟨behaviour, (w.solve s detailed limit behaviour sink).2.outcome⟩
      else none
  | _ => none

def latest? (w : Workspace) (id : RegistryId) : List Action → Option Visit
  | [] => none
  | action :: actions => ((w.step action).latest? id actions).or (w.visit? id action)

theorem results_createBlock {w next : Workspace} (sound : w.Sound) {id : RegistryId} {size : Int}
    {ls : List Literal} (created : w.createBlock id size = .ok (next, ls)) (other : RegistryId) :
    (next.registry other).results = (w.registry other).results := by
  unfold createBlock at created
  split at created
  · cases created
  · next r made block =>
      cases created
      obtain ⟨place, kept⟩ := Registry.keeps_createBlock block
      exact view_setRegistry Registry.results w (place.trans (registry_sound sound id).1) kept other

/-- One action: a solve that counts sets the values of its registry, and any other that spares them
leaves all values as they were. -/
theorem results_step {w : Workspace} (sound : w.Sound) {action : Action}
    (spares : action.sparesResults = true) (id : RegistryId) (key : Nat) :
    ((w.step action).registry id).results.get? key =
      match w.visit? id action with
      | some visit => visit.said key
      | none => (w.registry id).results.get? key := by
  cases action with
  | solve s detailed limit behaviour sink =>
      show ((w.solve s detailed limit behaviour sink).1.registry id).results.get? key = _
      cases checked : (w.problem s).check with
      | error failure => simp [visit?, checked, solve_of_check_error sound _ _ _ _ _ checked]
      | ok passed =>
          by_cases echoes : Solver.Echoes (w.problem s) (w.solver s).settings sink
          · rw [solve_of_echoes s detailed limit behaviour sink echoes]
            by_cases own : (w.solver s).registry = id
            · subst own
              rw [registry_solve sound]
              simp only [visit?, checked, echoes, and_self, if_true,
                solve_of_echoes s detailed limit behaviour sink echoes]
              exact Solver.results_solve checked _ _ detailed limit behaviour
                (registry_sound sound _).2 key
            -- On a registry that is not the solver's, even a solve that counts changes nothing.
            · have other := (preserves_solve sound s detailed limit behaviour .takesAll).others id
                (Ne.symm own)
              simp [visit?, checked, own, other]
          · obtain ⟨_, _, _, left⟩ :=
              solve_of_not_echoes sound s detailed limit behaviour sink checked echoes
            simp [visit?, checked, echoes, left]
  | newRegistry => exact congrArg (fun r => r.results.get? key) (registry_newRegistry w id)
  | createVariable r =>
      have kept := view_setRegistry Registry.results w (r := (w.registry r).create.1)
        (registry_sound sound r).1 rfl id
      exact congrArg (Table.get? · key) kept
  | createBlock r size =>
      show ((w.after ((w.createBlock r size).map Prod.fst)).registry id).results.get? key =
        (w.registry id).results.get? key
      cases block : w.createBlock r size with
      | error failure => rfl
      | ok pair => exact congrArg (Table.get? · key) (results_createBlock sound block id)
  | addClauses clauses => rfl
  | extendClause c literals => rfl
  | newSolver settings r => rfl
  | configure s settings => rfl
  | give s clauses => rfl
  | addResult result => rfl
  | addStatistic r line => rfl
  | writeDimacs path variableCount clauses => rfl
  | writeProblem s path => rfl
  | recordResult r variableId value => cases spares
  | clearResults r => cases spares
  | resetRegistry r => cases spares
  | addAssignment r line => cases spares

theorem results_run {w : Workspace} (sound : w.Sound) {actions : List Action}
    (spare : ∀ action ∈ actions, action.sparesResults = true) (id : RegistryId) (key : Nat) :
    ((w.run actions).registry id).results.get? key =
      match w.latest? id actions with
      | some visit => visit.said key
      | none => (w.registry id).results.get? key := by
  induction actions generalizing w with
  | nil => rfl
  | cons action actions ih =>
      have first := results_step sound (spare action (by simp)) id key
      have rest := ih (sound_step sound action) fun a member => spare a (by simp [member])
      show (((w.step action).run actions).registry id).results.get? key = _
      -- A solve in the rest of the run is later than the first action.
      rw [rest, latest?]
      cases (w.step action).latest? id actions with
      | some visit => rfl
      | none => exact first

/-- After every part of a run: whose values the registries hold, what solving there would change,
that a solve which stops at its check or at its echo changes nothing, and what a look-up answers. -/
theorem results_of_latest {host : Host} {actions before : List Action} {w : Workspace}
    (spare : ∀ action ∈ actions, action.sparesResults = true) (part : before <+: actions)
    (ends : run { host } before = w) :
    (∀ id key, (w.registry id).results.get? key =
      (latest? { host } id before).bind (·.said key)) ∧
    (∀ s detailed limit behaviour sink,
      w.Preserves (w.solve s detailed limit behaviour sink).1 (w.solver s).registry) ∧
    (∀ s failure, (w.problem s).check = .error failure → ∀ detailed limit behaviour sink,
      w.solve s detailed limit behaviour sink =
        (w, ⟨{ registry := w.registry (w.solver s).registry }, .error failure⟩)) ∧
    (∀ s sink, (w.problem s).check = .ok () →
      ¬ Solver.Echoes (w.problem s) (w.solver s).settings sink → ∀ detailed limit behaviour,
      (w.solve s detailed limit behaviour sink).1 = w ∧
        ∃ failure, (w.solve s detailed limit behaviour sink).2.outcome = .error failure) ∧
    ∀ id l, (w.registry id).result l.negate = (w.registry id).result l ∧
      ∀ value, (w.registry id).result l = .ok value ↔
        (w.registry id).results.get? l.id = some value := by
  subst ends
  have sound : (run { host } before).Sound := sound_run (sound_start host) before
  refine ⟨?_, ?_, ?_, ?_, ?_⟩
  · intro id key
    rw [results_run (sound_start host) fun action member => spare action (part.subset member)]
    cases latest? { host } id before <;> rfl
  · intro s detailed limit behaviour sink
    exact preserves_solve sound s detailed limit behaviour sink
  · intro s failure stopped detailed limit behaviour sink
    exact solve_of_check_error sound s detailed limit behaviour sink stopped
  · intro s sink passes stuck detailed limit behaviour
    obtain ⟨_, fault, _, left⟩ :=
      solve_of_not_echoes sound s detailed limit behaviour sink passes stuck
    rw [left]
    exact ⟨rfl, fault.failure, rfl⟩
  · intro id l
    exact ⟨Registry.result_negate _ l, Registry.result_eq_ok _ l⟩

def sharedRun : List Action :=
  [.newRegistry, .createBlock ⟨0⟩ 2, .newSolver {} ⟨0⟩, .newSolver {} ⟨0⟩,
    .solve ⟨0⟩ false none (.completes { stdout := Text.Utf8.encode "SAT\n1 -2 -1 0 2\n" }),
    .solve ⟨1⟩ true none (.completes { stdout := Text.Utf8.encode "UNSAT\n" })]

theorem results_sharedRun :
    (∀ action ∈ sharedRun, action.sparesResults = true) ∧ sharedRun.take 5 <+: sharedRun ∧
      ((run {} (sharedRun.take 5)).registry ⟨0⟩).results.get? 1 = some false ∧
      ((run {} sharedRun).registry ⟨0⟩).results.get? 1 = none := by
  have spare : ∀ action ∈ sharedRun, action.sparesResults = true := by decide
  have part : sharedRun.take 5 <+: sharedRun := List.take_prefix 5 sharedRun
  have first : run { host := {} } (sharedRun.take 5) = run {} (sharedRun.take 5) := rfl
  have second : run { host := {} } sharedRun = run {} sharedRun := rfl
  have satisfied : (latest? {} ⟨0⟩ (sharedRun.take 5)).bind (·.said 1) = some false := by
    decide +kernel
  have refuted : (latest? {} ⟨0⟩ sharedRun).bind (·.said 1) = none := by decide +kernel
  refine ⟨spare, part, ?_, ?_⟩
  · rw [← satisfied]
    exact (results_of_latest spare part first).1 ⟨0⟩ 1
  · rw [← refuted]
    exact (results_of_latest spare (List.prefix_refl _) second).1 ⟨0⟩ 1

def satisfiedOnce : Workspace :=
  run {} [.newRegistry, .createBlock ⟨0⟩ 1, .newSolver {} ⟨0⟩,
    .solve ⟨0⟩ false none (.completes { stdout := Text.Utf8.encode "SAT\n1 0\n" }),
    .configure ⟨0⟩ { verbose := true }]

/-- The second solve passes its check and fails, because the stream of its echo is closed, and the
value of the first is still there. -/
theorem results_closedEcho :
    (satisfiedOnce.problem ⟨0⟩).check = .ok () ∧
      (satisfiedOnce.solve ⟨0⟩ false none .hangs (.fails 0 .closed)).2.outcome =
        .error .closedStream ∧
      ((satisfiedOnce.solve ⟨0⟩ false none .hangs (.fails 0 .closed)).1.registry ⟨0⟩).results.get? 1 =
        some true := by
  have sound : satisfiedOnce.Sound := sound_run (sound_start {}) _
  have passes : (satisfiedOnce.problem ⟨0⟩).check = .ok () := rfl
  have stuck : ¬ Solver.Echoes (satisfiedOnce.problem ⟨0⟩) (satisfiedOnce.solver ⟨0⟩).settings
      (.fails 0 .closed) := by decide +kernel
  have kept : (satisfiedOnce.registry ⟨0⟩).results.get? 1 = some true := by decide +kernel
  obtain ⟨_, _, same, left⟩ :=
    solve_of_not_echoes sound ⟨0⟩ false none .hangs (.fails 0 .closed) passes stuck
  cases same
  rw [left]
  exact ⟨passes, rfl, kept⟩

end Workspace

end SatClient
