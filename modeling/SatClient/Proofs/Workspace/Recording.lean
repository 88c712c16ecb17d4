import SatClient.Proofs.Solver.Recording
import SatClient.Proofs.Workspace.Solving
/-!
Adding an assignment to a result of a workspace. Whether its line is recorded or refused, only the
values of one registry can change, and they are those that stand where the recording stops.
-/

namespace SatClient.Workspace

/-- What adding an assignment comes to: how the recording went, the answer, and the workspace. -/
structure AddsAssignment (w : Workspace) (id : ResultId) (line : Option (List Char))
    (left : Registry) (outcome : Except Failure Unit) : Prop where
  records : (w.result id).Records (w.registry (w.result id).registry) line left outcome
  answer : w.addAssignment id line = outcome.map fun _ => w.setRegistry left
  registry : (w.step (.addAssignment id line)).registry (w.result id).registry = left
  preserves : w.Preserves (w.step (.addAssignment id line)) (w.result id).registry

theorem addAssignment_eq (w : Workspace) (id : ResultId) (line : Option (List Char)) :
    w.addAssignment id line =
      ((w.result id).recordSteps (w.registry (w.result id).registry) line).2.map fun _ =>
        w.setRegistry ((w.result id).recordSteps (w.registry (w.result id).registry) line).1 := by
  unfold addAssignment
  simp only [Solver.Result.addAssignment_eq]
  cases ((w.result id).recordSteps (w.registry (w.result id).registry) line).2 <;> rfl

section

variable {w : Workspace} (sound : w.Sound) (id : ResultId) (line : Option (List Char))

include sound

theorem kept_recordSteps {left : Registry} {outcome : Except Failure Unit}
    (made : (w.result id).recordSteps (w.registry (w.result id).registry) line = (left, outcome)) :
    left.Sound ∧ left.id = (w.result id).registry ∧
      left.allocated = (w.registry (w.result id).registry).allocated := by
  obtain ⟨place, own⟩ := registry_sound sound (w.result id).registry
  rcases Solver.Result.recordSteps_cases own (w.result id) line with
    ⟨failure, refuses⟩ | ⟨pairs, _, known, steps⟩
  · rw [Solver.Result.recordSteps_of_refuses own refuses] at made
    cases made
    exact ⟨own, place, rfl⟩
  · rw [steps] at made
    cases made
    exact ⟨Registry.sound_recordAll own (Registry.recordAll_eq own pairs known), place, rfl⟩

theorem step_addAssignment {left : Registry} {outcome : Except Failure Unit}
    (made : (w.result id).recordSteps (w.registry (w.result id).registry) line = (left, outcome)) :
    w.step (.addAssignment id line) = w.setRegistry left := by
  have records := Solver.Result.records_recordSteps
    (registry_sound sound (w.result id).registry).2 (w.result id) line
  rw [made] at records
  show w.after (w.addAssignment id line) = _
  rw [addAssignment_eq, made]
  cases outcome with
  | error failure =>
      have same : left = w.registry (w.result id).registry := records.unchanged failure rfl
      rw [same, setRegistry_registry sound]
      rfl
  | ok done => rfl

/-- A line is recorded as a whole or not at all, step by step as well as in the answer, and nothing
but the values of the result's registry changes. -/
theorem addsAssignment_recordSteps :
    w.AddsAssignment id line
      ((w.result id).recordSteps (w.registry (w.result id).registry) line).1
      ((w.result id).recordSteps (w.registry (w.result id).registry) line).2 := by
  obtain ⟨fine, place, kept⟩ := kept_recordSteps sound id line rfl
  have next := step_addAssignment sound id line rfl
  constructor
  case records =>
    exact Solver.Result.records_recordSteps (registry_sound sound _).2 (w.result id) line
  case answer => exact addAssignment_eq w id line
  case registry =>
    rw [next]
    exact registry_setRegistry_of_kept w fine place kept
  case preserves =>
    rw [next]
    exact preserves_setRegistry sound fine place kept

end

def valued : Workspace :=
  run {} [.newRegistry, .createBlock ⟨0⟩ 3, .recordResult ⟨0⟩ 1 true, .recordResult ⟨0⟩ 3 true,
    .addResult ⟨true, ⟨0⟩, ["c kept"], .zero, none⟩]

theorem addsAssignment_valued :
    valued.Sound ∧
      (let w := valued.step (.addAssignment ⟨0⟩ (some "-1 2 1 -1 0 9".toList))
      (w.registry ⟨0⟩).results.get? 1 = some false ∧ (w.registry ⟨0⟩).results.get? 2 = some true ∧
        (w.registry ⟨0⟩).results.get? 3 = some true ∧ w.results = valued.results) ∧
      valued.addAssignment ⟨0⟩ (some "2 -3 9 0".toList) = .error (.neverAllocated 9) ∧
      (valued.step (.addAssignment ⟨0⟩ (some "2 -3 9 0".toList))).registry ⟨0⟩ =
        valued.registry ⟨0⟩ := by
  have sound : valued.Sound := sound_run (sound_start {}) _
  have place : (valued.result ⟨0⟩).registry = ⟨0⟩ := by decide +kernel
  have satisfied : (valued.result ⟨0⟩).satisfiable = true := by decide +kernel
  have three : (valued.registry (valued.result ⟨0⟩).registry).count = 3 := by decide +kernel
  have old : (valued.registry (valued.result ⟨0⟩).registry).results.get? 3 = some true := by
    decide +kernel
  refine ⟨sound, ?_, ?_⟩
  · have line : Reply.assignment (some "-1 2 1 -1 0 9".toList) =
        .ok [(1, false), (2, true), (1, true), (1, false)] := rfl
    have adds := addsAssignment_recordSteps sound ⟨0⟩ (some "-1 2 1 -1 0 9".toList)
    have known : Solver.Result.firstUnknown? (valued.registry (valued.result ⟨0⟩).registry)
        [(1, false), (2, true), (1, true), (1, false)] = none := by decide +kernel
    have success : ((valued.result ⟨0⟩).recordSteps (valued.registry (valued.result ⟨0⟩).registry)
        (some "-1 2 1 -1 0 9".toList)).2 = .ok () := by
      rw [Solver.Result.recordSteps, satisfied, if_pos rfl, line]
      simp only [known]
      exact adds.records.whole _ known
    obtain ⟨pairs, said, _, overridden⟩ := adds.records.recorded success
    rw [line] at said
    cases said
    rw [← adds.registry, place] at overridden
    refine ⟨?_, ?_, ?_, adds.preserves.results⟩
    · exact overridden.named [(1, false), (2, true), (1, true)] 1 false [] rfl (by decide)
    · exact overridden.named [(1, false)] 2 true [(1, true), (1, false)] rfl (by decide)
    · exact (overridden.unnamed 3 (by decide)).trans old
  · have line : Reply.assignment (some "2 -3 9 0".toList) =
        .ok ([(2, true), (3, false)] ++ (9, true) :: []) := rfl
    have adds := addsAssignment_recordSteps sound ⟨0⟩ (some "2 -3 9 0".toList)
    have failed := (adds.records.fails (.neverAllocated 9)).mpr
      (.unknown satisfied line (by simp [Registry.Allocates, three])
        (by simp [Registry.Allocates, three]))
    have same := adds.registry.trans (adds.records.unchanged _ failed)
    rw [place] at same
    refine ⟨?_, same⟩
    rw [adds.answer, failed]
    rfl

end SatClient.Workspace
