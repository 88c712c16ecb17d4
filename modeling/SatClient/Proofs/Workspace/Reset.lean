import SatClient.Proofs.Workspace.Creation
/-!
What becomes of variables when their registry is reset. A variable is known by its number alone: as
long as the number is free no problem with it passes and it has no value, and once the number is
given out again the forgotten variable cannot be told from the newer one.
-/

namespace SatClient

namespace Literal

theorem eq_of_given {id : RegistryId} {l m : Literal} (left : l.GivenBy id) (right : m.GivenBy id)
    (number : l.id = m.id) : l = m := by
  obtain ⟨lid, lnegated, lregistry, labove⟩ := l
  obtain ⟨mid, mnegated, mregistry, mabove⟩ := m
  cases left.1
  cases left.2
  cases right.1
  cases right.2
  cases number
  rfl

def underlying (l : Literal) : Literal :=
  { l with negated := false }

theorem eq_underlying_or_negate (l : Literal) : l = l.underlying ∨ l = l.underlying.negate := by
  obtain ⟨id, negated, registry, above⟩ := l
  cases negated
  · exact Or.inl rfl
  · exact Or.inr rfl

end Literal

namespace Chronicle

/-- What a state tells of the variables of a registry, also of those that a reset made it forget. -/
structure KnowsByNumber (h : Chronicle) : Prop where
  /-- Whatever its own age, a variable in a problem that passes is like one given out since. -/
  passing : ∀ s, (h.workspace.problem s).check = .ok () →
    ∀ c ∈ (h.workspace.problem s).clauses, ∀ l ∈ c.literals,
      l.registry = some (h.workspace.solver s).registry → ∃ v ∈ h.current, l = v ∨ l = v.negate
  /-- A forgotten variable is no other than the newer one of its number. -/
  same : ∀ v ∈ h.forgotten, ∀ m ∈ h.current, m.registry = v.registry → m.id = v.id → v = m
  refused : ∀ v ∈ h.forgotten, v ∉ h.current →
    ∀ s, v.registry = some (h.workspace.solver s).registry →
      (∃ c ∈ (h.workspace.problem s).clauses, v ∈ c.literals ∨ v.negate ∈ c.literals) →
        ∃ failure, (h.workspace.problem s).check = .error failure ∧
          failure.kind = .unknownVariable
  silent : ∀ v ∈ h.forgotten, v ∉ h.current → ∀ l, l = v ∨ l = v.negate →
    h.workspace.literalResult l = .error (.noResult l.id)
  cleared : ∀ id l, l.registry = some id →
    (h.step (.resetRegistry id)).workspace.literalResult l = .error (.noResult l.id)

section

variable {h : Chronicle} (sound : h.Sound)

include sound

/-- The number of a variable that is not current is beyond those given out since the reset. -/
theorem count_lt_of_forgotten {v : Literal} {id : RegistryId} (given : v.GivenBy id)
    (gone : v ∉ h.current) : (h.workspace.registry id).count < v.id := by
  rw [mem_current sound given] at gone
  exact Nat.not_le.mp gone

theorem given_of_forgotten {v : Literal} (old : v ∈ h.forgotten) : ∃ id, v.GivenBy id :=
  sound.positive v (List.mem_append_left _ old)

theorem current_of_check {s : SolverId} (passes : (h.workspace.problem s).check = .ok ())
    {c : Clause} (inside : c ∈ (h.workspace.problem s).clauses) {l : Literal}
    (member : l ∈ c.literals) (own : l.registry = some (h.workspace.solver s).registry) :
    ∃ v ∈ h.current, l = v ∨ l = v.negate := by
  have bound := Solver.Problem.bounded_of_check passes c inside l member
  have given : l.underlying.GivenBy (h.workspace.solver s).registry := ⟨own, rfl⟩
  exact ⟨l.underlying, (mem_current sound given).mpr bound, l.eq_underlying_or_negate⟩

theorem refused_of_gone {v : Literal} {s : SolverId}
    (given : v.GivenBy (h.workspace.solver s).registry) (gone : v ∉ h.current) {c : Clause}
    (inside : c ∈ (h.workspace.problem s).clauses) {l : Literal} (member : l ∈ c.literals)
    (number : l.id = v.id) :
    ∃ failure, (h.workspace.problem s).check = .error failure ∧
      failure.kind = .unknownVariable := by
  cases checked : (h.workspace.problem s).check with
  | error failure => exact ⟨failure, rfl, Solver.Problem.kind_of_check checked⟩
  | ok passed =>
      have bound := Solver.Problem.bounded_of_check checked c inside l member
      have beyond := count_lt_of_forgotten sound given gone
      rw [← number] at beyond
      exact absurd bound (Nat.not_le.mpr beyond)

theorem silent_of_gone {v l : Literal} {id : RegistryId} (given : v.GivenBy id)
    (gone : v ∉ h.current) (own : l.registry = some id) (number : l.id = v.id) :
    h.workspace.literalResult l = .error (.noResult l.id) := by
  have fine := (Workspace.registry_sound sound.workspace id).2
  have absent : (h.workspace.registry id).results.get? l.id = none := by
    cases kept : (h.workspace.registry id).results.get? l.id with
    | none => rfl
    | some value =>
        have bound := (fine.known l.id value kept).2
        have beyond := count_lt_of_forgotten sound given gone
        omega
  rw [Workspace.literalResult, own]
  simp only [Registry.result, absent]

theorem literalResult_reset {id : RegistryId} {l : Literal} (own : l.registry = some id) :
    (h.workspace.resetRegistry id).literalResult l = .error (.noResult l.id) := by
  rw [Workspace.literalResult, own]
  simp only [Workspace.registry_resetRegistry sound.workspace]
  rfl

end

/-- In every run, whichever registries are reset in it and whenever. -/
theorem knowsByNumber_ofRun (host : Host) (actions : List Action) :
    (ofRun host actions).KnowsByNumber := by
  have sound := sound_ofRun host actions
  constructor
  case passing =>
    intro s passes c inside l member own
    exact current_of_check sound passes inside member own
  case same =>
    intro v old m newer registry number
    obtain ⟨id, given⟩ := given_of_forgotten sound old
    obtain ⟨other, given'⟩ := sound.positive m (List.mem_append_right _ newer)
    exact Literal.eq_of_given given ⟨registry.trans given.1, given'.2⟩ number.symm
  case refused =>
    rintro v old gone s own ⟨c, inside, member⟩
    obtain ⟨id, given⟩ := given_of_forgotten sound old
    have ours : v.GivenBy ((ofRun host actions).workspace.solver s).registry := ⟨own, given.2⟩
    rcases member with here | here
    · exact refused_of_gone sound ours gone inside here rfl
    · exact refused_of_gone sound ours gone inside here rfl
  case silent =>
    intro v old gone l view
    obtain ⟨id, given⟩ := given_of_forgotten sound old
    rcases view with rfl | rfl
    · exact silent_of_gone sound given gone given.1 rfl
    · exact silent_of_gone sound given gone given.1 rfl
  case cleared =>
    intro id l own
    exact literalResult_reset sound own

def single : List Action :=
  [.newRegistry, .createVariable ⟨0⟩, .newSolver {} ⟨0⟩,
    .addClauses [⟨[⟨1, false, some ⟨0⟩, Nat.one_pos⟩]⟩], .give ⟨0⟩ [⟨0⟩]]

def renewal : List Action :=
  [.resetRegistry ⟨0⟩, .createVariable ⟨0⟩, .recordResult ⟨0⟩ 1 true]

/-- The clause held since before the reset passes, and its variable has the value of the newer. -/
theorem forgotten_stands_for_newer :
    ∃ v, (ofRun {} single).current = [v] ∧ (ofRun {} (single ++ renewal)).forgotten = [v] ∧
      ((ofRun {} single).workspace.problem ⟨0⟩).clauses = [⟨[v]⟩] ∧
      ((ofRun {} (single ++ renewal)).workspace.problem ⟨0⟩).clauses = [⟨[v]⟩] ∧
      ((ofRun {} (single ++ renewal)).workspace.problem ⟨0⟩).check = .ok () ∧
      (ofRun {} (single ++ renewal)).workspace.literalResult v = .ok true :=
  ⟨⟨1, false, some ⟨0⟩, Nat.one_pos⟩, rfl, rfl, rfl, rfl, rfl, rfl⟩

end Chronicle

end SatClient
