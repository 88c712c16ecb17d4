import SatClient.Workspace
import SatClient.Proofs.Solver.Attempt
/-!
Runs of a workspace: any calls in any order, on any handles. The invariant of a run is that every
registry stands at its own place and is sound in itself; a call that fails changes nothing.
-/

namespace SatClient

open SatClient.Decimal (Seconds)

inductive Action
  | newRegistry
  | createVariable (id : RegistryId)
  | createBlock (id : RegistryId) (size : Int)
  | recordResult (id : RegistryId) (variableId : Int) (value : Bool)
  | clearResults (id : RegistryId)
  | resetRegistry (id : RegistryId)
  | addClauses (clauses : List Clause)
  | extendClause (id : ClauseId) (literals : List Literal)
  | newSolver (settings : Settings) (registry : RegistryId)
  | configure (id : SolverId) (settings : Settings)
  | give (id : SolverId) (clauses : List ClauseId)
  | solve (id : SolverId) (detailed : Bool) (limit : Option Seconds) (behaviour : Behaviour)
    (sink : Sink := .takesAll)
  | addResult (result : Solver.Result)
  | addAssignment (id : ResultId) (line : Option (List Char))
  | addStatistic (id : ResultId) (line : String)
  | writeDimacs (path : Path) (variableCount : Int) (clauses : List Clause)
  | writeProblem (id : SolverId) (path : Path)

namespace Workspace

/-- What a call leaves, which is everything as it was where the call fails. -/
def after (w : Workspace) : Except Failure Workspace → Workspace
  | .ok next => next
  | .error _ => w

def step (w : Workspace) : Action → Workspace
  | .newRegistry => w.newRegistry.1
  | .createVariable id => (w.createVariable id).1
  | .createBlock id size => w.after ((w.createBlock id size).map Prod.fst)
  | .recordResult id variableId value => w.after (w.recordResult id variableId value)
  | .clearResults id => w.clearResults id
  | .resetRegistry id => w.resetRegistry id
  | .addClauses clauses => (w.addClauses clauses).1
  | .extendClause id literals => w.extendClause id literals
  | .newSolver settings registry => (w.newSolver settings registry).1
  | .configure id settings => w.configure id settings
  | .give id clauses => w.give id clauses
  | .solve id detailed limit behaviour sink => (w.solve id detailed limit behaviour sink).1
  | .addResult result => (w.addResult result).1
  | .addAssignment id line => w.after (w.addAssignment id line)
  | .addStatistic id line => w.addStatistic id line
  | .writeDimacs path variableCount clauses => (w.writeDimacs path variableCount clauses).1
  | .writeProblem id path => (w.writeProblem id path).1

def run (w : Workspace) (actions : List Action) : Workspace :=
  actions.foldl step w

def Reachable (w : Workspace) : Prop :=
  ∃ host actions, run { host } actions = w

def Sound (w : Workspace) : Prop :=
  ∀ (index : Nat) (r : Registry), w.registries[index]? = some r → r.id = ⟨index⟩ ∧ r.Sound

def holding (size : Int) (clauses : List Clause) (settings : Settings) : Workspace :=
  run {} [.newRegistry, .createBlock ⟨0⟩ size, .addClauses clauses, .newSolver settings ⟨0⟩,
    .give ⟨0⟩ ((List.range clauses.length).map ClauseId.mk)]

theorem registry_eq_of_le {w : Workspace} {id : RegistryId}
    (missing : w.registries.length ≤ id.index) : w.registry id = { id } := by
  rw [registry, List.getElem?_eq_none missing]
  rfl

theorem registry_sound {w : Workspace} (sound : w.Sound) (id : RegistryId) :
    (w.registry id).id = id ∧ (w.registry id).Sound := by
  unfold registry
  cases kept : w.registries[id.index]? with
  | none => exact ⟨rfl, Registry.sound_empty id⟩
  | some r => exact sound id.index r kept

theorem registry_setRegistry_self {w : Workspace} {r : Registry}
    (present : r.id.index < w.registries.length) : (w.setRegistry r).registry r.id = r := by
  simp [registry, setRegistry, present]

theorem registry_setRegistry_of_ne (w : Workspace) {r : Registry} {id : RegistryId}
    (other : id ≠ r.id) : (w.setRegistry r).registry id = w.registry id := by
  have apart : r.id.index ≠ id.index := by
    intro same
    apply other
    cases id
    cases here : r.id
    rw [here] at same
    exact congrArg RegistryId.mk same.symm
  simp [registry, setRegistry, apart]

theorem setRegistry_registry {w : Workspace} (sound : w.Sound) (id : RegistryId) :
    w.setRegistry (w.registry id) = w := by
  have place := (registry_sound sound id).1
  have same : w.registries.set id.index (w.registry id) = w.registries := by
    apply List.ext_getElem?
    intro index
    rw [List.getElem?_set]
    split
    · next here =>
        subst here
        split
        · next present => rw [registry, List.getElem?_eq_getElem present, Option.getD_some]
        · next missing => rw [List.getElem?_eq_none (Nat.not_lt.mp missing)]
    · rfl
  rw [setRegistry, place, same]

theorem clause_addClauses (w : Workspace) (clauses : List Clause) :
    (w.addClauses clauses).2.map (w.addClauses clauses).1.clause = clauses := by
  apply List.ext_getElem
  · simp [addClauses]
  · intro index inside inside'
    simp [addClauses, clause, inside']

theorem clause_addClauses_of_lt (w : Workspace) (clauses : List Clause) {id : ClauseId}
    (present : id.index < w.clauses.length) : (w.addClauses clauses).1.clause id = w.clause id := by
  rw [clause, clause, addClauses, List.getElem?_append_left present]

theorem sound_setRegistry {w : Workspace} (sound : w.Sound) {r : Registry} (fine : r.Sound) :
    (w.setRegistry r).Sound := by
  intro index s kept
  rw [setRegistry, List.getElem?_set] at kept
  split at kept
  · next here =>
      split at kept
      · cases kept
        exact ⟨by rw [← here], fine⟩
      · cases kept
  · exact sound index s kept

theorem sound_newRegistry {w : Workspace} (sound : w.Sound) : w.newRegistry.1.Sound := by
  intro index r kept
  have found : (w.registries ++ [{ id := ⟨w.registries.length⟩ }])[index]? = some r := kept
  rw [List.getElem?_append] at found
  split at found
  · exact sound index r found
  · next beyond =>
      cases rest : index - w.registries.length with
      | zero =>
          rw [rest] at found
          cases found
          have place : w.registries.length = index := by omega
          exact ⟨by rw [place], Registry.sound_empty _⟩
      | succ n =>
          rw [rest] at found
          cases found

theorem sound_start (host : Host) : Sound { host } := by
  intro index r kept
  cases kept

theorem sound_createBlock {w next : Workspace} (sound : w.Sound) {id : RegistryId} {size : Int}
    {ls : List Literal} (created : w.createBlock id size = .ok (next, ls)) : next.Sound := by
  unfold createBlock at created
  split at created
  · cases created
  · next r made block =>
      cases created
      exact sound_setRegistry sound (Registry.sound_createBlock (registry_sound sound id).2 block)

theorem sound_recordResult {w next : Workspace} (sound : w.Sound) {id : RegistryId}
    {variableId : Int} {value : Bool} (recorded : w.recordResult id variableId value = .ok next) :
    next.Sound := by
  unfold recordResult at recorded
  split at recorded
  · cases recorded
  · next r change =>
      cases recorded
      exact sound_setRegistry sound (Registry.sound_record (registry_sound sound id).2 change)

theorem sound_addAssignment {w next : Workspace} (sound : w.Sound) {id : ResultId}
    {line : Option (List Char)} (added : w.addAssignment id line = .ok next) : next.Sound := by
  unfold addAssignment at added
  simp only at added
  split at added
  · cases added
  · next r change =>
      cases added
      have own := (registry_sound sound (w.result id).registry).2
      unfold Solver.Result.addAssignment at change
      split at change
      · obtain ⟨pairs, _, known, rfl⟩ := (Solver.Result.recordReply_eq_ok own line r).mp change
        exact sound_setRegistry sound
          (Registry.sound_recordAll own (Registry.recordAll_eq own pairs known))
      · cases change

theorem sound_after {w : Workspace} (sound : w.Sound) (outcome : Except Failure Workspace)
    (kept : ∀ next, outcome = .ok next → next.Sound) : (w.after outcome).Sound := by
  cases outcome with
  | error failure => exact sound
  | ok next => exact kept next rfl

theorem sound_step {w : Workspace} (sound : w.Sound) (action : Action) : (w.step action).Sound := by
  have own (id : RegistryId) := (registry_sound sound id).2
  cases action with
  | newRegistry => exact sound_newRegistry sound
  | createVariable id => exact sound_setRegistry sound (Registry.sound_create (own id))
  | createBlock id size =>
      apply sound_after sound
      intro next made
      cases block : w.createBlock id size with
      | error failure =>
          rw [block] at made
          cases made
      | ok pair =>
          rw [block] at made
          cases made
          exact sound_createBlock sound block
  | recordResult id variableId value =>
      exact sound_after sound _ fun next made => sound_recordResult sound made
  | clearResults id => exact sound_setRegistry sound (Registry.sound_clearResults (own id))
  | resetRegistry id => exact sound_setRegistry sound (Registry.sound_reset _)
  | addClauses clauses => exact sound
  | extendClause id literals => exact sound
  | newSolver settings registry => exact sound
  | configure id settings => exact sound
  | give id clauses => exact sound
  | solve id detailed limit behaviour sink =>
      exact sound_setRegistry sound (Solver.sound_solve _ _ (own _) detailed limit behaviour sink)
  | addResult result => exact sound
  | addAssignment id line =>
      exact sound_after sound _ fun next made => sound_addAssignment sound made
  | addStatistic id line => exact sound
  | writeDimacs path variableCount clauses => exact sound
  | writeProblem id path => exact sound

theorem sound_run {w : Workspace} (sound : w.Sound) (actions : List Action) :
    (w.run actions).Sound := by
  induction actions generalizing w with
  | nil => exact sound
  | cons action actions ih => exact ih (sound_step sound action)

theorem sound_of_reachable {w : Workspace} (reached : w.Reachable) : w.Sound := by
  obtain ⟨host, actions, rfl⟩ := reached
  exact sound_run (sound_start host) actions

end Workspace

end SatClient
