import SatClient.Proofs.Workspace.Run
/-!
Solving inside a workspace. It is a change of one registry, and there of the values alone; a problem
that fails its check is not even that.
-/

namespace SatClient.Workspace

open SatClient.Decimal (Seconds)

/-- Everything that solving leaves as it was, besides the values of one registry. -/
structure Preserves (w next : Workspace) (id : RegistryId) : Prop where
  clauses : next.clauses = w.clauses
  solvers : next.solvers = w.solvers
  results : next.results = w.results
  others : ∀ other, other ≠ id → next.registry other = w.registry other
  numbered : (next.registry id).id = (w.registry id).id
  counted : (next.registry id).nextId = (w.registry id).nextId
  allocated : (next.registry id).allocated = (w.registry id).allocated

theorem registry_setRegistry_of_le {w : Workspace} {r : Registry}
    (missing : w.registries.length ≤ r.id.index) : w.setRegistry r = w := by
  rw [setRegistry, List.set_eq_of_length_le missing]

/-- Every registry after one is put in its place; where none stands there is nothing to replace. -/
theorem registry_setRegistry (w : Workspace) (r : Registry) (id : RegistryId) :
    (w.setRegistry r).registry id =
      if id = r.id ∧ r.id.index < w.registries.length then r else w.registry id := by
  by_cases same : id = r.id
  · subst same
    by_cases present : r.id.index < w.registries.length
    · rw [if_pos ⟨rfl, present⟩, registry_setRegistry_self present]
    · rw [if_neg fun both => present both.2, registry_setRegistry_of_le (Nat.not_lt.mp present)]
  · rw [if_neg fun both => same both.1, registry_setRegistry_of_ne w same]

/-- A registry that keeps its variables is found where it was put, also where no registry stands:
such a registry has no variables, and so no values either. -/
theorem registry_setRegistry_of_kept (w : Workspace) {r : Registry} {id : RegistryId}
    (fine : r.Sound) (place : r.id = id) (kept : r.allocated = (w.registry id).allocated) :
    (w.setRegistry r).registry id = r := by
  subst place
  by_cases present : r.id.index < w.registries.length
  · exact registry_setRegistry_self present
  · have missing := Nat.not_lt.mp present
    rw [registry_eq_of_le missing] at kept
    rw [registry_setRegistry_of_le missing, registry_eq_of_le missing,
      ← Registry.eq_empty_of_unused fine kept]

theorem preserves_setRegistry {w : Workspace} (sound : w.Sound) {r : Registry} {id : RegistryId}
    (fine : r.Sound) (place : r.id = id) (kept : r.allocated = (w.registry id).allocated) :
    w.Preserves (w.setRegistry r) id := by
  have found := registry_setRegistry_of_kept w fine place kept
  constructor
  case clauses => rfl
  case solvers => rfl
  case results => rfl
  case others =>
    intro other apart
    rw [← place] at apart
    exact registry_setRegistry_of_ne w apart
  case numbered => rw [found, place, (registry_sound sound id).1]
  case counted =>
    rw [found, fine.counted, (registry_sound sound id).2.counted, kept]
  case allocated => rw [found, kept]

theorem view_setRegistry {α : Type} (view : Registry → α) (w : Workspace) {r : Registry}
    {id : RegistryId} (place : r.id = id) (kept : view r = view (w.registry id))
    (other : RegistryId) : view ((w.setRegistry r).registry other) = view (w.registry other) := by
  subst place
  rw [registry_setRegistry]
  split
  · next here => rw [here.1, kept]
  · rfl

theorem registry_newRegistry (w : Workspace) (id : RegistryId) :
    w.newRegistry.1.registry id = w.registry id := by
  simp only [registry, newRegistry, List.getElem?_append]
  split
  · rfl
  · next beyond =>
      rw [List.getElem?_eq_none (Nat.not_lt.mp beyond)]
      cases rest : id.index - w.registries.length with
      | zero =>
          have place : w.registries.length = id.index := by omega
          rw [place]
          rfl
      | succ n => rfl

section

variable {w : Workspace} (sound : w.Sound) (id : SolverId) (detailed : Bool)
  (limit : Option Seconds) (behaviour : Behaviour) (sink : Sink)

include sound

theorem allocation_attempt :
    (w.solve id detailed limit behaviour sink).2.trace.registry.id = (w.solver id).registry ∧
      (w.solve id detailed limit behaviour sink).2.trace.registry.allocated =
        (w.registry (w.solver id).registry).allocated := by
  have own := registry_sound sound (w.solver id).registry
  have kept := Solver.allocation_solve (w.problem id) (w.solver id).settings own.2 detailed limit
    behaviour sink
  exact ⟨kept.1.trans own.1, kept.2⟩

theorem sound_attempt : (w.solve id detailed limit behaviour sink).2.trace.registry.Sound :=
  Solver.sound_solve (w.problem id) (w.solver id).settings (registry_sound sound _).2 detailed
    limit behaviour sink

theorem registry_solve :
    (w.solve id detailed limit behaviour sink).1.registry (w.solver id).registry =
      (w.solve id detailed limit behaviour sink).2.trace.registry := by
  obtain ⟨place, allocation⟩ := allocation_attempt sound id detailed limit behaviour sink
  exact registry_setRegistry_of_kept w (sound_attempt sound id detailed limit behaviour sink) place
    allocation

theorem preserves_solve :
    w.Preserves (w.solve id detailed limit behaviour sink).1 (w.solver id).registry := by
  obtain ⟨place, allocation⟩ := allocation_attempt sound id detailed limit behaviour sink
  exact preserves_setRegistry sound (sound_attempt sound id detailed limit behaviour sink) place
    allocation

/-- A problem that fails its check starts nothing and changes nothing. -/
theorem solve_of_check_error {failure : Failure} (stopped : (w.problem id).check = .error failure) :
    w.solve id detailed limit behaviour sink =
      (w, ⟨{ registry := w.registry (w.solver id).registry }, .error failure⟩) := by
  have attempt := Solver.solve_of_check_error stopped (w.solver id).settings
    (w.registry (w.solver id).registry) detailed limit behaviour sink
  show (w.setRegistry (Solver.solve _ _ _ _ _ _ _).trace.registry, Solver.solve _ _ _ _ _ _ _) = _
  rw [attempt, setRegistry_registry sound]

/-- A stream that fails under the echo keeps the process from being started and the values of
earlier runs from being cleared. -/
theorem solve_of_not_echoes (passes : (w.problem id).check = .ok ())
    (stuck : ¬ Solver.Echoes (w.problem id) (w.solver id).settings sink) :
    ∃ room fault, sink = .fails room fault ∧
      w.solve id detailed limit behaviour sink =
        (w, ⟨{ registry := w.registry (w.solver id).registry
               echo := String.ofList ((w.problem id).text.toList.take room) },
          .error fault.failure⟩) := by
  obtain ⟨room, fault, same, verbose, short, _⟩ := Solver.echo_of_not_echoes stuck
  subst same
  have attempt := Solver.solve_of_not_echoes passes verbose short fault
    (w.registry (w.solver id).registry) detailed limit behaviour
  refine ⟨room, fault, rfl, ?_⟩
  show (w.setRegistry (Solver.solve _ _ _ _ _ _ _).trace.registry, Solver.solve _ _ _ _ _ _ _) = _
  rw [attempt, setRegistry_registry sound]

omit sound

theorem solve_of_echoes (echoes : Solver.Echoes (w.problem id) (w.solver id).settings sink) :
    w.solve id detailed limit behaviour sink = w.solve id detailed limit behaviour := by
  simp only [solve, Solver.solve_of_echoes echoes]

end

end SatClient.Workspace
