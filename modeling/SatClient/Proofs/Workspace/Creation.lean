import SatClient.Proofs.Registry.Calls
import SatClient.Proofs.Workspace.Solving
/-!
What creation hands out in the course of a run. Literals stay with clauses and callers when a reset
makes their registry forget them; those handed out since then are, for each registry, the ones that
it keeps.
-/

namespace SatClient

namespace Literal

def isOf (id : RegistryId) (l : Literal) : Bool :=
  decide (l.registry = some id)

def GivenBy (id : RegistryId) (l : Literal) : Prop :=
  l.registry = some id ∧ l.negated = false

theorem isOf_eq_true {id : RegistryId} {l : Literal} : l.isOf id = true ↔ l.registry = some id :=
  decide_eq_true_iff

end Literal

namespace Registry

theorem given_createMany (n : Nat) (r : Registry) : ∀ l ∈ (createMany n r).2, l.GivenBy r.id := by
  induction n generalizing r with
  | zero =>
      intro l absent
      cases absent
  | succ n ih =>
      intro l member
      rcases List.mem_cons.mp member with rfl | later
      · exact ⟨rfl, rfl⟩
      · exact ih r.create.1 l later

theorem given_createBlock {r s : Registry} {size : Int} {ls : List Literal}
    (created : r.createBlock size = .ok (s, ls)) : ∀ l ∈ ls, l.GivenBy r.id := by
  unfold createBlock at created
  split at created
  · cases created
  · have made : (createMany size.toNat r).2 = ls := congrArg Prod.snd (Except.ok.inj created)
    exact made ▸ given_createMany size.toNat r

theorem mem_allocated {r : Registry} (sound : r.Sound) (l : Literal) :
    l ∈ r.allocated ↔ l.GivenBy r.id ∧ l.id ≤ r.count := by
  rw [sound.numbered, List.mem_map]
  constructor
  · rintro ⟨index, inside, rfl⟩
    exact ⟨⟨rfl, rfl⟩, List.mem_range.mp inside⟩
  · rintro ⟨⟨own, positive⟩, bound⟩
    obtain ⟨id, negated, registry, above⟩ := l
    cases own
    cases positive
    obtain ⟨index, rfl⟩ : ∃ index, id = index + 1 := ⟨id - 1, by omega⟩
    exact ⟨index, List.mem_range.mpr bound, rfl⟩

end Registry

namespace Solver.Result

theorem allocation_addAssignment {result : Result} {r s : Registry} {line : Option (List Char)}
    (added : result.addAssignment r line = .ok s) : s.id = r.id ∧ s.allocated = r.allocated := by
  unfold addAssignment recordReply at added
  split at added
  · split at added
    · cases added
    · split at added
      · cases added
      · exact Registry.allocation_recordAll added
  · cases added

end Solver.Result

namespace Workspace

/-- The literals that an action creates. Where no registry stands there is none to create them. -/
def handed (w : Workspace) : Action → List Literal
  | .createVariable id =>
    if id.index < w.registries.length then [(w.createVariable id).2] else []
  | .createBlock id size =>
    match w.createBlock id size with
    | .ok (_, ls) => if id.index < w.registries.length then ls else []
    | .error _ => []
  | _ => []

theorem allocated_setRegistry (w : Workspace) {r : Registry} {id : RegistryId} (place : r.id = id)
    {ls : List Literal} (grown : r.allocated = (w.registry id).allocated ++ ls)
    (own : ∀ l ∈ ls, l.GivenBy id) (other : RegistryId) :
    ((w.setRegistry r).registry other).allocated = (w.registry other).allocated ++
      (if id.index < w.registries.length then ls else []).filter (Literal.isOf other) := by
  subst place
  rw [registry_setRegistry]
  by_cases present : r.id.index < w.registries.length
  · rw [if_pos present]
    by_cases same : other = r.id
    · have kept : ls.filter (Literal.isOf r.id) = ls :=
        List.filter_eq_self.mpr fun l member => Literal.isOf_eq_true.mpr (own l member).1
      rw [if_pos ⟨same, present⟩, same, kept, grown]
    · have dropped : ls.filter (Literal.isOf other) = [] := by
        apply List.filter_eq_nil_iff.mpr
        intro l member
        rw [Literal.isOf_eq_true, (own l member).1]
        exact fun equal => same (Option.some.inj equal).symm
      rw [if_neg fun both => same both.1, dropped, List.append_nil]
  · rw [if_neg present, if_neg fun both => present both.2, List.filter_nil, List.append_nil]

theorem createBlock_eq_ok {w next : Workspace} (sound : w.Sound) {id : RegistryId} {size : Int}
    {ls : List Literal} (created : w.createBlock id size = .ok (next, ls)) :
    ∃ r, next = w.setRegistry r ∧ r.id = id ∧
      r.allocated = (w.registry id).allocated ++ ls ∧ ∀ l ∈ ls, l.GivenBy id := by
  have place := (registry_sound sound id).1
  unfold createBlock at created
  split at created
  · cases created
  · next r made block =>
      cases created
      have own := Registry.given_createBlock block
      rw [place] at own
      exact ⟨r, rfl, (Registry.keeps_createBlock block).1.trans place,
        Registry.allocated_createBlock block, own⟩

theorem given_handed {w : Workspace} (sound : w.Sound) (action : Action) :
    ∀ l ∈ w.handed action, ∃ id, l.GivenBy id := by
  intro l member
  cases action with
  | createVariable id =>
      simp only [handed] at member
      split at member
      · rw [List.mem_singleton.mp member]
        exact ⟨_, rfl, rfl⟩
      · cases member
  | createBlock id size =>
      simp only [handed] at member
      cases made : w.createBlock id size with
      | error failure =>
          rw [made] at member
          cases member
      | ok pair =>
          obtain ⟨_, _, _, _, given⟩ := createBlock_eq_ok sound made
          simp only [made] at member
          split at member
          · exact ⟨id, given l member⟩
          · cases member
  | _ => cases member

theorem registry_resetRegistry {w : Workspace} (sound : w.Sound) (id : RegistryId) :
    (w.resetRegistry id).registry id = { id } := by
  have place := (registry_sound sound id).1
  rw [resetRegistry, registry_setRegistry]
  split
  · exact congrArg (fun own => ({ id := own } : Registry)) place
  · next missing =>
      apply registry_eq_of_le
      apply Nat.not_lt.mp
      intro present
      exact missing ⟨place.symm, by rwa [← place] at present⟩

theorem registry_resetRegistry_of_ne {w : Workspace} (sound : w.Sound) {id other : RegistryId}
    (apart : other ≠ id) : (w.resetRegistry id).registry other = w.registry other := by
  have place := (registry_sound sound id).1
  apply registry_setRegistry_of_ne
  rw [← place] at apart
  exact apart

/-- Every action but the reset of a registry adds to it what the action hands out of its own. -/
theorem allocated_step {w : Workspace} (sound : w.Sound) (id : RegistryId) {action : Action}
    (keeps : action ≠ .resetRegistry id) :
    ((w.step action).registry id).allocated =
      (w.registry id).allocated ++ (w.handed action).filter (Literal.isOf id) := by
  have place (r : RegistryId) := (registry_sound sound r).1
  have unchanged (v : Workspace) (same : (v.registry id).allocated = (w.registry id).allocated) :
      (v.registry id).allocated = (w.registry id).allocated ++ [] := by
    rw [same, List.append_nil]
  have replaced {r : Registry} (owner : RegistryId) (same : r.id = owner)
      (kept : r.allocated = (w.registry owner).allocated) :=
    unchanged _ (view_setRegistry Registry.allocated w same kept id)
  cases action with
  | newRegistry => exact unchanged _ (congrArg Registry.allocated (registry_newRegistry w id))
  | createVariable r =>
      have own : ∀ l ∈ [(w.registry r).fresh], l.GivenBy r := by
        intro l member
        rw [List.mem_singleton.mp member]
        exact ⟨congrArg some (place r), rfl⟩
      exact allocated_setRegistry w (r := (w.registry r).create.1) (place r) rfl own id
  | createBlock r size =>
      show ((w.after ((w.createBlock r size).map Prod.fst)).registry id).allocated = _
      simp only [handed]
      cases made : w.createBlock r size with
      | error failure => exact unchanged _ rfl
      | ok pair =>
          obtain ⟨s, left, owner, grown, given⟩ := createBlock_eq_ok sound made
          show (pair.1.registry id).allocated = _
          rw [left]
          exact allocated_setRegistry w owner grown given id
  | recordResult r variableId value =>
      show ((w.after (w.recordResult r variableId value)).registry id).allocated = _
      unfold recordResult
      cases recorded : (w.registry r).record variableId value with
      | error failure => exact unchanged _ rfl
      | ok s =>
          obtain ⟨same, kept⟩ := Registry.allocation_record recorded
          exact replaced r (same.trans (place r)) kept
  | clearResults r =>
      exact replaced (r := (w.registry r).clearResults) r (place r) rfl
  | resetRegistry r =>
      have apart : id ≠ r := fun same => keeps (congrArg Action.resetRegistry same.symm)
      exact unchanged _ (congrArg Registry.allocated (registry_resetRegistry_of_ne sound apart))
  | solve s detailed limit behaviour sink =>
      obtain ⟨owner, kept⟩ := allocation_attempt sound s detailed limit behaviour sink
      exact replaced _ owner kept
  | addAssignment result line =>
      show ((w.after (w.addAssignment result line)).registry id).allocated = _
      unfold addAssignment
      dsimp only
      cases added :
          (w.result result).addAssignment (w.registry (w.result result).registry) line with
      | error failure => exact unchanged _ rfl
      | ok s =>
          obtain ⟨same, kept⟩ := Solver.Result.allocation_addAssignment added
          exact replaced _ (same.trans (place _)) kept
  | addClauses clauses => exact unchanged _ rfl
  | extendClause c literals => exact unchanged _ rfl
  | newSolver settings r => exact unchanged _ rfl
  | configure s settings => exact unchanged _ rfl
  | give s clauses => exact unchanged _ rfl
  | addResult result => exact unchanged _ rfl
  | addStatistic r line => exact unchanged _ rfl
  | writeDimacs path variableCount clauses => exact unchanged _ rfl
  | writeProblem s path => exact unchanged _ rfl

end Workspace

/-- A workspace, with the literals that its registries have handed out since their last resets and
those that they handed out before. -/
structure Chronicle where
  workspace : Workspace
  forgotten : List Literal := []
  current : List Literal := []

namespace Chronicle

def step (h : Chronicle) (action : Action) : Chronicle :=
  match action with
  | .resetRegistry id =>
    ⟨h.workspace.step action, h.forgotten ++ h.current.filter (Literal.isOf id),
      h.current.filter fun l => !l.isOf id⟩
  | _ => ⟨h.workspace.step action, h.forgotten, h.current ++ h.workspace.handed action⟩

def run (h : Chronicle) (actions : List Action) : Chronicle :=
  actions.foldl step h

def ofRun (host : Host) (actions : List Action) : Chronicle :=
  run { workspace := { host } } actions

structure Sound (h : Chronicle) : Prop where
  workspace : h.workspace.Sound
  kept : ∀ id, h.current.filter (Literal.isOf id) = (h.workspace.registry id).allocated
  positive : ∀ l ∈ h.forgotten ++ h.current, ∃ id, l.GivenBy id

theorem workspace_step (h : Chronicle) (action : Action) :
    (h.step action).workspace = h.workspace.step action := by
  cases action <;> rfl

theorem workspace_run (h : Chronicle) (actions : List Action) :
    (h.run actions).workspace = h.workspace.run actions := by
  induction actions generalizing h with
  | nil => rfl
  | cons action actions ih => exact (ih (h.step action)).trans (by rw [workspace_step]; rfl)

theorem step_of_keeps (h : Chronicle) {action : Action}
    (keeps : ∀ id, action ≠ .resetRegistry id) :
    h.step action =
      ⟨h.workspace.step action, h.forgotten, h.current ++ h.workspace.handed action⟩ := by
  cases action with
  | resetRegistry id => exact absurd rfl (keeps id)
  | _ => rfl

theorem sound_start (host : Host) : Sound { workspace := { host } } := by
  constructor
  case workspace => exact Workspace.sound_start host
  case kept =>
    intro id
    rfl
  case positive =>
    intro l absent
    cases absent

theorem sound_reset {h : Chronicle} (sound : h.Sound) (id : RegistryId) :
    (h.step (.resetRegistry id)).Sound := by
  constructor
  case workspace => exact Workspace.sound_step sound.workspace (.resetRegistry id)
  case kept =>
    intro other
    show (h.current.filter fun l => !l.isOf id).filter (Literal.isOf other) =
      ((h.workspace.resetRegistry id).registry other).allocated
    rw [List.filter_filter]
    by_cases same : other = id
    · subst same
      rw [Workspace.registry_resetRegistry sound.workspace, List.filter_eq_nil_iff]
      intro l _
      simp
    · rw [Workspace.registry_resetRegistry_of_ne sound.workspace same, ← sound.kept other]
      apply List.filter_congr
      intro l _
      simp only [Literal.isOf, Bool.and_eq_left_iff_imp, Bool.not_eq_true', decide_eq_true_eq,
        decide_eq_false_iff_not]
      intro own foreign
      exact same (Option.some.inj (own.symm.trans foreign))
  case positive =>
    intro l member
    apply sound.positive l
    simp only [step, List.mem_append, List.mem_filter] at member ⊢
    rcases member with (old | ⟨given, _⟩) | ⟨given, _⟩
    · exact Or.inl old
    · exact Or.inr given
    · exact Or.inr given

theorem sound_step {h : Chronicle} (sound : h.Sound) (action : Action) : (h.step action).Sound := by
  by_cases reset : ∃ id, action = .resetRegistry id
  · obtain ⟨id, rfl⟩ := reset
    exact sound_reset sound id
  · have keeps : ∀ id, action ≠ .resetRegistry id := fun id same => reset ⟨id, same⟩
    rw [step_of_keeps h keeps]
    constructor
    case workspace => exact Workspace.sound_step sound.workspace action
    case kept =>
      intro id
      rw [List.filter_append, sound.kept id]
      exact (Workspace.allocated_step sound.workspace id (keeps id)).symm
    case positive =>
      intro l member
      rw [← List.append_assoc, List.mem_append] at member
      rcases member with old | handed
      · exact sound.positive l old
      · exact Workspace.given_handed sound.workspace action l handed

theorem sound_run {h : Chronicle} (sound : h.Sound) (actions : List Action) :
    (h.run actions).Sound := by
  induction actions generalizing h with
  | nil => exact sound
  | cons action actions ih => exact ih (sound_step sound action)

theorem sound_ofRun (host : Host) (actions : List Action) : (ofRun host actions).Sound :=
  sound_run (sound_start host) actions

/-- A literal is current as long as its number has been given out since the last reset. -/
theorem mem_current {h : Chronicle} (sound : h.Sound) {id : RegistryId} {l : Literal}
    (given : l.GivenBy id) : l ∈ h.current ↔ l.id ≤ (h.workspace.registry id).count := by
  obtain ⟨place, fine⟩ := Workspace.registry_sound sound.workspace id
  have kept : l ∈ h.current ↔ l ∈ (h.workspace.registry id).allocated := by
    rw [← sound.kept id, List.mem_filter, Literal.isOf_eq_true, and_iff_left given.1]
  rw [kept, Registry.mem_allocated fine, place, and_iff_right given]

end Chronicle

end SatClient
