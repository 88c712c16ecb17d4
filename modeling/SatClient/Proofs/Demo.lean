import SatClient.Demo
import SatClient.Proofs.Encoding
import SatClient.Proofs.Workspace.Run
/-!
The demonstration as it stands in a workspace. Building it on an unused solver allocates the first
variables of the registry, and the solver's problem is then the clauses over them, which pass the
check whatever their number.
-/

namespace SatClient

namespace Workspace

theorem solver_give_self (w : Workspace) {s : SolverId} (present : s.index < w.solvers.length)
    (ids : List ClauseId) :
    (w.give s ids).solver s = { w.solver s with clauses := (w.solver s).clauses ++ ids } := by
  simp [give, solver, present]

end Workspace

namespace Demo

open Registry (createMany)

structure Unused (w : Workspace) (s : SolverId) : Prop where
  sound : w.Sound
  solver : s.index < w.solvers.length
  registry : (w.solver s).registry.index < w.registries.length
  allocated : (w.registry (w.solver s).registry).allocated = []
  clauses : (w.solver s).clauses = []

theorem over_clauses (left : Literal) (choices : List Literal) :
    ∀ c ∈ clauses left choices, c.Over (left :: choices) := by
  have target : left ∈ left :: choices := List.mem_cons_self
  have sources : ∀ l ∈ choices, l ∈ left :: choices := fun l => List.mem_cons_of_mem left
  intro c member
  rcases List.mem_append.mp member with encoded | last
  · rcases List.mem_append.mp encoded with equivalent | exclusive
    · exact Encoding.over_equivalence target sources c equivalent
    · exact Encoding.over_exactlyOne sources c exclusive
  · rw [List.mem_singleton.mp last]
    intro l inside
    exact ⟨left, target, Or.inr (List.mem_singleton.mp inside)⟩

theorem length_clauses (left : Literal) (choices : List Literal) :
    (clauses left choices).length =
      (choices.length + 1) + (choices.length * (choices.length - 1) / 2 + 1) + 1 := by
  rw [clauses, List.length_append, List.length_append, Encoding.length_equivalence,
    Encoding.length_exactlyOne, Encoding.length_atMostOne]
  rfl

def stocked (w : Workspace) (s : SolverId) (size : Nat) : Workspace × List ClauseId :=
  (w.setRegistry (createMany (size + 1) (w.registry (w.solver s).registry)).1).addClauses
    (clauses (build w s size).left (build w s size).choices)

theorem workspace_build (w : Workspace) (s : SolverId) (size : Nat) :
    (build w s size).workspace = (stocked w s size).1.give s (stocked w s size).2 := rfl

section

variable {w : Workspace} {s : SolverId} (unused : Unused w s) (size : Nat)

include unused

theorem registry_of_unused :
    w.registry (w.solver s).registry = { id := (w.solver s).registry } := by
  have own := Workspace.registry_sound unused.sound (w.solver s).registry
  rw [Registry.eq_empty_of_unused own.2 unused.allocated, own.1]

theorem literals_build :
    (build w s size).left :: (build w s size).choices =
      (createMany (size + 1) { id := (w.solver s).registry }).2 := by
  rw [← registry_of_unused unused]
  rfl

theorem solver_build :
    (build w s size).workspace.solver s =
      { w.solver s with clauses := (stocked w s size).2 } := by
  have given := Workspace.solver_give_self (stocked w s size).1 unused.solver (stocked w s size).2
  have before : (stocked w s size).1.solver s = w.solver s := rfl
  rw [workspace_build, given, before, unused.clauses, List.nil_append]

theorem registry_build :
    (build w s size).workspace.registry (w.solver s).registry =
      (createMany (size + 1) { id := (w.solver s).registry }).1 := by
  have identity : (createMany (size + 1) { id := (w.solver s).registry }).1.id =
      (w.solver s).registry := (Registry.keeps_createMany (size + 1) _).1
  have present := unused.registry
  rw [← identity] at present
  have kept := Workspace.registry_setRegistry_self present
  rw [identity] at kept
  have stored : (build w s size).workspace.registry (w.solver s).registry =
      (w.setRegistry (createMany (size + 1) (w.registry (w.solver s).registry)).1).registry
        (w.solver s).registry := rfl
  rw [stored, registry_of_unused unused]
  exact kept

theorem problem_build :
    (build w s size).workspace.problem s =
      { registry := (w.solver s).registry, variableCount := size + 1
        clauses := clauses (build w s size).left (build w s size).choices } := by
  have count : (createMany (size + 1) { id := (w.solver s).registry }).1.count = size + 1 := by
    have sound := Registry.sound_createMany (size + 1) (Registry.sound_empty (w.solver s).registry)
    rw [Registry.count_eq_length sound, Registry.allocated_createMany, List.nil_append,
      Registry.length_createMany]
  have given : (stocked w s size).2.map (build w s size).workspace.clause =
      clauses (build w s size).left (build w s size).choices :=
    Workspace.clause_addClauses _ _
  simp only [Workspace.problem, solver_build unused, registry_build unused, count, given]

theorem check_build : ((build w s size).workspace.problem s).check = .ok () := by
  rw [problem_build unused, Solver.Problem.check_eq_ok]
  intro c member l inside
  obtain ⟨m, known, variant⟩ := over_clauses _ _ c member l inside
  rw [literals_build unused, Registry.createMany_empty] at known
  obtain ⟨index, below, rfl⟩ := List.mem_map.mp known
  have bound := List.mem_range.mp below
  have place : l.registry = some (w.solver s).registry ∧ l.id = index + 1 := by
    rcases variant with rfl | rfl <;> exact ⟨rfl, rfl⟩
  refine ⟨?_, ?_⟩
  · intro id attached
    rw [place.1] at attached
    exact (Option.some.inj attached).symm
  · rw [place.2]
    exact Nat.succ_le_of_lt bound

end

end Demo

end SatClient
