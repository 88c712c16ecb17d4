import SatClient.Proofs.Construction
import SatClient.Proofs.Solver.Failures
import SatClient.Proofs.Workspace.Creation
/-!
Solvers that are given only clauses over the variables of their registries. As long as no registry
is reset, clauses stay what their solvers may hold, whoever else holds them and however they are
extended, and so every problem passes its check.
-/

namespace SatClient

namespace Workspace

def Owns (w : Workspace) (id : RegistryId) (l : Literal) : Prop :=
  l.registry = some id ∧ l.id ≤ (w.registry id).count

/-- Whether solvers hold only clauses that exist, over variables that their registries have. -/
def Owned (w : Workspace) : Prop :=
  ∀ s, ∀ c ∈ (w.solver s).clauses,
    c.index < w.clauses.length ∧ ∀ l ∈ (w.clause c).literals, w.Owns (w.solver s).registry l

def Grows (w next : Workspace) : Prop :=
  ∀ id, (w.registry id).count ≤ (next.registry id).count

theorem owned_start (host : Host) : Owned { host } := by
  intro s c absent
  cases absent

theorem owns_of_grows {w next : Workspace} (grows : w.Grows next) {id : RegistryId} {l : Literal}
    (owns : w.Owns id l) : next.Owns id l :=
  ⟨owns.1, Nat.le_trans owns.2 (grows id)⟩

theorem grows_step {w : Workspace} (sound : w.Sound) {action : Action}
    (keeps : ∀ id, action ≠ .resetRegistry id) : w.Grows (w.step action) := by
  intro id
  have grown := congrArg List.length (allocated_step sound id (keeps id))
  rw [List.length_append] at grown
  rw [Registry.count_eq_length (registry_sound sound id).2,
    Registry.count_eq_length (registry_sound (sound_step sound action) id).2]
  omega

/-- Nothing is lost where solvers hold no clauses but their old ones, and these stay the same. -/
theorem owned_of_kept {w next : Workspace} (owned : w.Owned) (grows : w.Grows next)
    (held : ∀ s, ∀ c ∈ (next.solver s).clauses,
      c ∈ (w.solver s).clauses ∧ (next.solver s).registry = (w.solver s).registry)
    (kept : ∀ c : ClauseId, c.index < w.clauses.length →
      c.index < next.clauses.length ∧ next.clause c = w.clause c) : next.Owned := by
  intro s c member
  obtain ⟨before, registry⟩ := held s c member
  obtain ⟨present, fine⟩ := owned s c before
  obtain ⟨still, same⟩ := kept c present
  refine ⟨still, fun l inside => ?_⟩
  rw [same] at inside
  rw [registry]
  exact owns_of_grows grows (fine l inside)

theorem owned_of_same {w next : Workspace} (owned : w.Owned) (grows : w.Grows next)
    (solvers : next.solvers = w.solvers) (clauses : next.clauses = w.clauses) : next.Owned := by
  apply owned_of_kept owned grows
  case held =>
    intro s c member
    rw [solver, solvers] at member
    exact ⟨member, by rw [solver, solver, solvers]⟩
  case kept =>
    intro c present
    exact ⟨clauses ▸ present, by rw [clause, clause, clauses]⟩

theorem owned_after {w : Workspace} (owned : w.Owned) {outcome : Except Failure Workspace}
    (grows : w.Grows (w.after outcome))
    (replaced : ∀ next, outcome = .ok next → ∃ r, next = w.setRegistry r) :
    (w.after outcome).Owned := by
  cases outcome with
  | error failure => exact owned
  | ok next =>
      obtain ⟨r, rfl⟩ := replaced next rfl
      exact owned_of_same owned grows rfl rfl

theorem owned_addClauses {w : Workspace} (owned : w.Owned) (cs : List Clause) :
    (w.addClauses cs).1.Owned := by
  apply owned_of_kept owned
  case grows => exact fun id => Nat.le_refl _
  case held => exact fun s c member => ⟨member, rfl⟩
  case kept =>
    intro c present
    have found : (w.clauses ++ cs)[c.index]? = w.clauses[c.index]? :=
      List.getElem?_append_left present
    constructor
    · show c.index < (w.clauses ++ cs).length
      rw [List.length_append]
      omega
    · show ((w.clauses ++ cs)[c.index]?).getD {} = _
      rw [found]
      rfl

theorem owned_newSolver {w : Workspace} (owned : w.Owned) (settings : Settings)
    (id : RegistryId) : (w.newSolver settings id).1.Owned := by
  apply owned_of_kept owned
  case grows => exact fun id => Nat.le_refl _
  case held =>
    intro s c member
    have place : (w.newSolver settings id).1.solver s =
        ((w.solvers ++ [{ settings, registry := id }])[s.index]?).getD { registry := ⟨0⟩ } := rfl
    by_cases present : s.index < w.solvers.length
    · rw [List.getElem?_append_left present] at place
      rw [place] at member ⊢
      exact ⟨member, rfl⟩
    · rw [place, List.getElem?_append_right (Nat.not_lt.mp present)] at member
      cases rest : s.index - w.solvers.length with
      | zero =>
          rw [rest] at member
          cases member
      | succ n =>
          rw [rest] at member
          cases member
  case kept => exact fun c present => ⟨present, rfl⟩

theorem solver_modify (w : Workspace) (id s : SolverId) (change : Solver → Solver) :
    solver { w with solvers := w.solvers.modify id.index change } s = w.solver s ∨
      s = id ∧ solver { w with solvers := w.solvers.modify id.index change } s =
        change (w.solver s) := by
  simp only [solver, List.getElem?_modify]
  cases found : w.solvers[s.index]? with
  | none => exact Or.inl rfl
  | some here =>
      by_cases same : id.index = s.index
      · refine Or.inr ⟨?_, ?_⟩
        · cases id
          cases s
          exact congrArg SolverId.mk same.symm
        · simp [same]
      · exact Or.inl (by simp [same])

theorem owned_configure {w : Workspace} (owned : w.Owned) (id : SolverId) (settings : Settings) :
    (w.configure id settings).Owned := by
  apply owned_of_kept owned
  case grows => exact fun id => Nat.le_refl _
  case held =>
    intro s c member
    rcases w.solver_modify id s fun old => { old with settings } with same | ⟨_, changed⟩
    · rw [configure, same] at member ⊢
      exact ⟨member, rfl⟩
    · rw [configure, changed] at member ⊢
      exact ⟨member, rfl⟩
  case kept => exact fun c present => ⟨present, rfl⟩

theorem owned_give {w : Workspace} (owned : w.Owned) {id : SolverId} {cs : List ClauseId}
    (given : ∀ c ∈ cs, c.index < w.clauses.length ∧
      ∀ l ∈ (w.clause c).literals, w.Owns (w.solver id).registry l) : (w.give id cs).Owned := by
  intro s c member
  rcases w.solver_modify id s fun old => { old with clauses := old.clauses ++ cs } with
    same | ⟨rfl, changed⟩
  · rw [give, same] at member ⊢
    exact owned s c member
  · rw [give, changed] at member ⊢
    rcases List.mem_append.mp member with held | new
    · exact owned s c held
    · exact given c new

theorem owned_extendClause {w : Workspace} (owned : w.Owned) {id : ClauseId} {ls : List Literal}
    (fits : ∀ s, id ∈ (w.solver s).clauses → ∀ l ∈ ls, w.Owns (w.solver s).registry l) :
    (w.extendClause id ls).Owned := by
  intro s c member
  obtain ⟨present, fine⟩ := owned s c member
  refine ⟨by simpa [extendClause] using present, fun l inside => ?_⟩
  simp only [clause, extendClause, List.getElem?_modify] at inside
  by_cases same : id.index = c.index
  · have handle : id = c := by
      cases id
      cases c
      exact congrArg ClauseId.mk same
    rw [List.getElem?_eq_getElem present] at inside
    simp only [same, if_true, Option.map_eq_map, Option.map_some, Option.getD_some, Clause.extend,
      List.mem_append] at inside
    rcases inside with old | new
    · apply fine l
      rwa [clause, List.getElem?_eq_getElem present, Option.getD_some]
    · exact fits s (handle ▸ member) l new
  · simp only [same, if_false, Option.map_eq_map, Option.map_id'] at inside
    exact fine l inside

structure Accepts (w : Workspace) (s : SolverId) : Prop where
  passes : (w.problem s).check = .ok ()
  document : ∃ document, (w.problem s).document = .ok document
  unknown : ∀ detailed limit behaviour failure,
    (w.solve s detailed limit behaviour).2.outcome = .error failure →
      failure.kind = .unknownVariable →
        ∃ c line, behaviour = .completes c ∧ Solver.Assigns (Solver.decode c.stdout) line ∧
          ∃ id ∈ Reply.ids line, ¬ (0 < id ∧ id ≤ (w.problem s).variableCount)

theorem check_of_owned {w : Workspace} (owned : w.Owned) (s : SolverId) :
    (w.problem s).check = .ok () := by
  apply (w.problem s).check_eq_ok.mpr
  intro c inside l member
  obtain ⟨handle, held, rfl⟩ := List.mem_map.mp inside
  obtain ⟨registry, bound⟩ := (owned s handle held).2 l member
  exact ⟨fun id same => Option.some.inj (same.symm.trans registry), bound⟩

theorem accepts_of_owned {w : Workspace} (sound : w.Sound) (owned : w.Owned) (s : SolverId) :
    w.Accepts s := by
  have passes := check_of_owned owned s
  constructor
  case passes => exact passes
  case document => exact ⟨_, Solver.Problem.document_of_check passes⟩
  case unknown =>
    intro detailed limit behaviour failure failed kind
    exact Solver.unknown_of_solve passes (registry_sound sound _).2 failed kind

end Workspace

namespace Chronicle

def Created (h : Chronicle) (s : SolverId) (v : Literal) : Prop :=
  v ∈ h.current ∧ v.registry = some (h.workspace.solver s).registry

/-- Whether an action resets nothing and gives solvers only what is made of variables of their
registries. Extending a clause gives to every solver that holds it. -/
def Proper (h : Chronicle) : Action → Prop
  | .resetRegistry _ => False
  | .give s clauses => ∀ c ∈ clauses, c.index < h.workspace.clauses.length ∧
      (h.workspace.clause c).Built (h.Created s)
  | .extendClause c literals => ∀ s, c ∈ (h.workspace.solver s).clauses →
      ∀ l ∈ literals, l.Drawn (h.Created s)
  | _ => True

def ProperRun (h : Chronicle) : List Action → Prop
  | [] => True
  | action :: actions => h.Proper action ∧ (h.step action).ProperRun actions

theorem owns_of_drawn {h : Chronicle} (sound : h.Sound) {s : SolverId} {l : Literal}
    (drawn : l.Drawn (h.Created s)) :
    h.workspace.Owns (h.workspace.solver s).registry l := by
  obtain ⟨v, ⟨member, own⟩, id, registry⟩ := Literal.variable_of_drawn drawn
  obtain ⟨_, given⟩ := sound.positive v (List.mem_append_right _ member)
  refine ⟨registry.trans own, ?_⟩
  rw [id]
  exact (mem_current sound ⟨own, given.2⟩).mp member

theorem owned_step {h : Chronicle} (sound : h.Sound) (owned : h.workspace.Owned) {action : Action}
    (proper : h.Proper action) : (h.step action).workspace.Owned := by
  have keeps : ∀ id, action ≠ .resetRegistry id := by
    rintro id rfl
    exact proper
  have grows := Workspace.grows_step sound.workspace keeps
  rw [workspace_step]
  cases action with
  | addClauses clauses => exact Workspace.owned_addClauses owned clauses
  | extendClause c literals =>
      apply Workspace.owned_extendClause owned
      intro s held l member
      exact owns_of_drawn sound (proper s held l member)
  | newSolver settings registry => exact Workspace.owned_newSolver owned settings registry
  | configure s settings => exact Workspace.owned_configure owned s settings
  | give s clauses =>
      apply Workspace.owned_give owned
      intro c member
      obtain ⟨present, built⟩ := proper c member
      exact ⟨present, fun l inside => owns_of_drawn sound (Clause.drawn_of_built built l inside)⟩
  | resetRegistry id => exact absurd rfl (keeps id)
  | createBlock id size =>
      apply Workspace.owned_after owned grows
      intro next made
      cases block : h.workspace.createBlock id size with
      | error failure =>
          rw [block] at made
          cases made
      | ok pair =>
          obtain ⟨r, left, _⟩ := Workspace.createBlock_eq_ok sound.workspace block
          rw [block] at made
          cases made
          exact ⟨r, left⟩
  | recordResult id variableId value =>
      apply Workspace.owned_after owned grows
      intro next made
      unfold Workspace.recordResult at made
      split at made
      · cases made
      · exact ⟨_, (Except.ok.inj made).symm⟩
  | addAssignment result line =>
      apply Workspace.owned_after owned grows
      intro next made
      unfold Workspace.addAssignment at made
      dsimp only at made
      split at made
      · cases made
      · exact ⟨_, (Except.ok.inj made).symm⟩
  | newRegistry => exact Workspace.owned_of_same owned grows rfl rfl
  | createVariable id => exact Workspace.owned_of_same owned grows rfl rfl
  | clearResults id => exact Workspace.owned_of_same owned grows rfl rfl
  | solve s detailed limit behaviour sink => exact Workspace.owned_of_same owned grows rfl rfl
  | addResult result => exact Workspace.owned_of_same owned grows rfl rfl
  | addStatistic result line => exact Workspace.owned_of_same owned grows rfl rfl
  | writeDimacs path variableCount clauses => exact Workspace.owned_of_same owned grows rfl rfl
  | writeProblem s path => exact Workspace.owned_of_same owned grows rfl rfl

theorem owned_run {h : Chronicle} (sound : h.Sound) (owned : h.workspace.Owned)
    {actions : List Action} (proper : h.ProperRun actions) : (h.run actions).workspace.Owned := by
  induction actions generalizing h with
  | nil => exact owned
  | cons action actions ih =>
      exact ih (sound_step sound action) (owned_step sound owned proper.1) proper.2

theorem properRun_of_front {h : Chronicle} {before actions : List Action}
    (front : before <+: actions) (proper : h.ProperRun actions) : h.ProperRun before := by
  obtain ⟨rest, rfl⟩ := front
  induction before generalizing h with
  | nil => trivial
  | cons action before ih => exact ⟨proper.1, ih proper.2⟩

/-- In every state of such a run no solver is refused for its clauses. -/
theorem accepts_of_properRun {host : Host} {actions : List Action}
    (proper : ProperRun { workspace := { host } } actions) :
    (∀ before, before <+: actions → ∀ s, (Workspace.run { host } before).Accepts s) ∧
      ∀ (g : Construction), ∀ c ∈ g.clauses, ∀ l ∈ c.literals, ∃ m ∈ g.arguments, l.id = m.id := by
  constructor
  · intro before front s
    have sound := sound_ofRun host before
    have owned := owned_run (sound_start host) (Workspace.owned_start host)
      (properRun_of_front front proper)
    have accepts := Workspace.accepts_of_owned sound.workspace owned s
    rwa [ofRun, workspace_run] at accepts
  · intro g c made l inside
    obtain ⟨m, given, id, _⟩ := Construction.argument_of_mem made inside
    exact ⟨m, given, id⟩

def numbered (n : Nat) : Literal :=
  ⟨n + 1, false, some ⟨0⟩, Nat.succ_pos n⟩

def sharing : List Action :=
  [.newRegistry, .newSolver {} ⟨0⟩, .newSolver {} ⟨0⟩, .createBlock ⟨0⟩ 2,
    .addClauses (Encoding.equivalence (numbered 0) [(numbered 1).negate]),
    .give ⟨0⟩ [⟨0⟩, ⟨1⟩], .give ⟨1⟩ [⟨1⟩], .solve ⟨0⟩ false none .hangs,
    .createVariable ⟨0⟩, .extendClause ⟨1⟩ [(numbered 2).negate.negate]]

theorem accepts_sharing :
    ProperRun { workspace := {} } sharing ∧ (Workspace.run {} sharing).Accepts ⟨1⟩ ∧
      ((Workspace.run {} sharing).problem ⟨1⟩).text = "p cnf 3 1\n2 1 3 0\n" := by
  have drawn {known : Literal → Prop} (first : known (numbered 0)) (second : known (numbered 1)) :
      ∀ c ∈ Encoding.equivalence (numbered 0) [(numbered 1).negate], c.Built known := by
    intro c member
    refine ⟨.equivalence (numbered 0) [(numbered 1).negate], fun l given => ?_, member⟩
    simp only [Construction.arguments, List.mem_cons, List.not_mem_nil, or_false] at given
    rcases given with rfl | rfl
    · exact .known first
    · exact .negated (.known second)
  have proper : ProperRun { workspace := {} } sharing := by
    refine ⟨trivial, trivial, trivial, trivial, trivial, ?_, ?_, trivial, trivial, ?_, trivial⟩
    · intro c member
      simp only [List.mem_cons, List.not_mem_nil, or_false] at member
      rcases member with rfl | rfl
      · exact ⟨by decide, drawn ⟨by decide, rfl⟩ ⟨by decide, rfl⟩ _ (by decide)⟩
      · exact ⟨by decide, drawn ⟨by decide, rfl⟩ ⟨by decide, rfl⟩ _ (by decide)⟩
    · intro c member
      rw [List.mem_singleton.mp member]
      exact ⟨by decide, drawn ⟨by decide, rfl⟩ ⟨by decide, rfl⟩ _ (by decide)⟩
    · intro s held l member
      rw [List.mem_singleton.mp member]
      refine .negated (.negated (.known ⟨by decide, ?_⟩))
      -- Every solver is of the first registry.
      obtain ⟨_ | _ | n⟩ := s
      · rfl
      · rfl
      · rfl
  exact ⟨proper, (accepts_of_properRun proper).1 sharing List.prefix_rfl ⟨1⟩, by decide⟩

end Chronicle

end SatClient
