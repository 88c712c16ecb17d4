import SatClient.Proofs.Registry
/-!
One registry under any calls, failed ones among them. The literals that allocation handed out since
the last reset are those that the registry keeps, so their ids run from one without a gap; no call
that fails and no look-up changes anything.
-/

namespace SatClient

inductive Call
  | create
  | createBlock (size : Int)
  | negate (l : Literal)
  | get (id : Int)
  | record (id : Int) (value : Bool)
  | result (l : Literal)
  | hasResult (l : Literal)
  | clearResults
  | reset

namespace Call

inductive Answer
  | nothing
  | literals (ls : List Literal)
  | value (b : Bool)

def isQuery : Call → Bool
  | negate _ | get _ | result _ | hasResult _ => true
  | _ => false

def failureKind : Call → Failure.Kind
  | createBlock _ => .value
  | get _ | record .. => .unknownVariable
  | _ => .resultNotAvailable

inductive Fails (r : Registry) : Call → Failure → Prop
  | negative {size : Int} (below : size < 0) : Fails r (createBlock size) (.negativeCount size)
  | unknown {id : Int} (free : ¬ r.Allocates id) : Fails r (get id) (.neverAllocated id)
  | unrecorded {id : Int} {value : Bool} (free : ¬ r.Allocates id) :
      Fails r (record id value) (.assignedUnknown id)
  | unavailable {l : Literal} (missing : r.results.get? l.id = none) :
      Fails r (result l) (.noResult l.id)

end Call

namespace Registry

open Call (Answer)

def perform (r : Registry) : Call → Registry × Except Failure Answer
  | .create => (r.create.1, .ok (.literals [r.create.2]))
  | .createBlock size =>
    match r.createBlock size with
    | .ok (s, ls) => (s, .ok (.literals ls))
    | .error failure => (r, .error failure)
  | .negate l => (r, .ok (.literals [l.negate]))
  | .get id => (r, (r.get id).map fun l => .literals [l])
  | .record id value =>
    match r.record id value with
    | .ok s => (s, .ok .nothing)
    | .error failure => (r, .error failure)
  | .result l => (r, (r.result l).map .value)
  | .hasResult l => (r, .ok (.value (r.hasResult l)))
  | .clearResults => (r.clearResults, .ok .nothing)
  | .reset => (r.reset, .ok .nothing)

/-- A registry, and the literals that allocation handed out since its last reset. -/
structure History where
  registry : Registry
  given : List Literal := []

def given (earlier : List Literal) : Call → Except Failure Answer → List Literal
  | .create, .ok (.literals ls) => earlier ++ ls
  | .createBlock _, .ok (.literals ls) => earlier ++ ls
  | .reset, _ => []
  | _, _ => earlier

def History.step (h : History) (call : Call) : History :=
  ⟨(h.registry.perform call).1, Registry.given h.given call (h.registry.perform call).2⟩

def History.run (h : History) (calls : List Call) : History :=
  calls.foldl step h

structure History.Sound (h : History) (id : RegistryId) : Prop where
  owner : h.registry.id = id
  sound : h.registry.Sound
  given : h.given = h.registry.allocated

/-- What the state of a registry stands for, and what calls can do to it. -/
structure History.Represents (h : History) (id : RegistryId) : Prop where
  counted : h.registry.nextId = h.registry.allocated.length + 1
  registered : ∀ key, (∃ l, h.registry.get key = .ok l) ↔ 0 < key ∧ key ≤ h.registry.count
  entry : ∀ key l, h.registry.get key = .ok l →
    (l.id : Int) = key ∧ l.negated = false ∧ l.registry = some id
  known : ∀ (key : Nat) value, h.registry.results.get? key = some value →
    ∃ l, h.registry.get key = .ok l
  consecutive : h.given.map Literal.id = List.range' 1 h.registry.count
  distinct : (h.given.map Literal.id).Nodup
  quiet : ∀ call, call.isQuery = true → (h.registry.perform call).1 = h.registry
  fails : ∀ call failure,
    (h.registry.perform call).2 = .error failure ↔ call.Fails h.registry failure
  unchanged : ∀ call failure, (h.registry.perform call).2 = .error failure →
    (h.registry.perform call).1 = h.registry ∧ failure.kind = call.failureKind

theorem allocated_createBlock {r s : Registry} {size : Int} {ls : List Literal}
    (created : r.createBlock size = .ok (s, ls)) : s.allocated = r.allocated ++ ls := by
  unfold createBlock at created
  split at created
  · cases created
  · have made := allocated_createMany size.toNat r
    rw [Except.ok.inj created] at made
    exact made

theorem get_eq_ok {r : Registry} (sound : r.Sound) (id : Int) (l : Literal) :
    r.get id = .ok l ↔ r.Allocates id ∧ l = r.positive (id.toNat - 1) := by
  unfold get
  by_cases allocates : r.Allocates id
  · rw [find?_eq_some sound allocates, and_iff_right allocates]
    constructor
    · intro same
      exact (Except.ok.inj same).symm
    · rintro rfl
      rfl
  · rw [find?_eq_none sound allocates]
    constructor
    · intro failed
      cases failed
    · intro known
      exact absurd known.1 allocates

theorem get_eq_error {r : Registry} (sound : r.Sound) (id : Int) (failure : Failure) :
    r.get id = .error failure ↔ ¬ r.Allocates id ∧ failure = .neverAllocated id := by
  unfold get
  by_cases allocates : r.Allocates id
  · rw [find?_eq_some sound allocates]
    constructor
    · intro failed
      cases failed
    · intro free
      exact absurd allocates free.1
  · rw [find?_eq_none sound allocates, and_iff_right allocates]
    constructor
    · intro same
      exact (Except.error.inj same).symm
    · rintro rfl
      rfl

theorem map_id_allocated {r : Registry} (sound : r.Sound) :
    r.allocated.map Literal.id = List.range' 1 r.count := by
  rw [sound.numbered, List.map_map, List.range'_eq_map_range]
  apply List.map_congr_left
  intro index _
  exact Nat.add_comm index 1

theorem perform_of_isQuery (r : Registry) {call : Call} (query : call.isQuery = true) :
    (r.perform call).1 = r := by
  cases call with
  | negate l => rfl
  | get id => rfl
  | result l => rfl
  | hasResult l => rfl
  | create => cases query
  | createBlock size => cases query
  | record id value => cases query
  | clearResults => cases query
  | reset => cases query

theorem perform_of_error {r : Registry} {call : Call} {failure : Failure}
    (failed : (r.perform call).2 = .error failure) : (r.perform call).1 = r := by
  cases call with
  | createBlock size =>
      cases made : r.createBlock size with
      | ok pair =>
          simp only [perform, made] at failed
          cases failed
      | error cause => simp only [perform, made]
  | record id value =>
      cases made : r.record id value with
      | ok s =>
          simp only [perform, made] at failed
          cases failed
      | error cause => simp only [perform, made]
  | get id => rfl
  | result l => rfl
  | negate l => rfl
  | hasResult l => rfl
  | create => cases failed
  | clearResults => cases failed
  | reset => cases failed

/-- Every failure of a call, with the condition under which it comes. -/
theorem perform_eq_error {r : Registry} (sound : r.Sound) (call : Call) (failure : Failure) :
    (r.perform call).2 = .error failure ↔ call.Fails r failure := by
  constructor
  · intro failed
    cases call with
    | createBlock size =>
        by_cases below : size < 0
        · simp only [perform, createBlock, if_pos below] at failed
          cases failed
          exact .negative below
        · simp only [perform, createBlock, if_neg below] at failed
          cases failed
    | get id =>
        cases found : r.get id with
        | ok l =>
            simp only [perform, found] at failed
            cases failed
        | error cause =>
            obtain ⟨free, rfl⟩ := (get_eq_error sound id cause).mp found
            simp only [perform, found] at failed
            cases failed
            exact .unknown free
    | record id value =>
        by_cases allocates : r.Allocates id
        · obtain ⟨n, rfl⟩ : ∃ n : Nat, id = n := Int.eq_ofNat_of_zero_le (Int.le_of_lt allocates.1)
          simp only [perform, record_eq sound value allocates] at failed
          cases failed
        · simp only [perform, record_eq_error sound value allocates] at failed
          cases failed
          exact .unrecorded allocates
    | result l =>
        cases kept : r.results.get? l.id with
        | some value =>
            simp only [perform, result, kept] at failed
            cases failed
        | none =>
            simp only [perform, result, kept] at failed
            cases failed
            exact .unavailable kept
    | create => cases failed
    | negate l => cases failed
    | hasResult l => cases failed
    | clearResults => cases failed
    | reset => cases failed
  · intro fails
    cases fails with
    | negative below => simp only [perform, createBlock, if_pos below]
    | @unknown id free =>
        have missing := (get_eq_error sound id _).mpr ⟨free, rfl⟩
        simp only [perform, missing]
        rfl
    | unrecorded free => simp only [perform, record_eq_error sound _ free]
    | unavailable missing =>
        simp only [perform, result, missing]
        rfl

theorem kind_of_fails {r : Registry} {call : Call} {failure : Failure}
    (fails : call.Fails r failure) : failure.kind = call.failureKind := by
  cases fails <;> rfl

theorem History.sound_step {h : History} {id : RegistryId} (fine : h.Sound id) (call : Call) :
    (h.step call).Sound id := by
  obtain ⟨owner, sound, given⟩ := fine
  cases call with
  | create => exact ⟨owner, sound_create sound, congrArg (· ++ [h.registry.fresh]) given⟩
  | createBlock size =>
      cases made : h.registry.createBlock size with
      | error failure =>
          simp only [step, perform, made]
          exact ⟨owner, sound, given⟩
      | ok pair =>
          -- What is handed out is what the registry keeps in addition, so both lists grow alike.
          obtain ⟨s, ls⟩ := pair
          have grown := allocated_createBlock made
          simp only [step, perform, made, Registry.given, given, ← grown]
          exact ⟨(keeps_createBlock made).1.trans owner, sound_createBlock sound made, rfl⟩
  | record key value =>
      cases made : h.registry.record key value with
      | error failure =>
          simp only [step, perform, made]
          exact ⟨owner, sound, given⟩
      | ok s =>
          obtain ⟨same, kept⟩ := allocation_record made
          simp only [step, perform, made, Registry.given, given, ← kept]
          exact ⟨same.trans owner, sound_record sound made, rfl⟩
  | clearResults => exact ⟨owner, sound_clearResults sound, given⟩
  | reset => exact ⟨owner, sound_reset h.registry, rfl⟩
  | negate l => exact ⟨owner, sound, given⟩
  | get key => exact ⟨owner, sound, given⟩
  | result l => exact ⟨owner, sound, given⟩
  | hasResult l => exact ⟨owner, sound, given⟩

theorem History.sound_run {h : History} {id : RegistryId} (fine : h.Sound id)
    (calls : List Call) : (h.run calls).Sound id := by
  induction calls generalizing h with
  | nil => exact fine
  | cons call calls ih => exact ih (sound_step fine call)

theorem History.represents_of_sound {h : History} {id : RegistryId} (fine : h.Sound id) :
    h.Represents id := by
  obtain ⟨owner, sound, given⟩ := fine
  constructor
  case counted => exact sound.counted
  case registered =>
    intro key
    constructor
    · rintro ⟨l, found⟩
      exact ((get_eq_ok sound key l).mp found).1
    · intro allocates
      exact ⟨_, (get_eq_ok sound key _).mpr ⟨allocates, rfl⟩⟩
  case entry =>
    intro key l found
    obtain ⟨⟨positive, _⟩, rfl⟩ := (get_eq_ok sound key l).mp found
    have place : ((key.toNat - 1 + 1 : Nat) : Int) = key := by omega
    exact ⟨place, rfl, congrArg some owner⟩
  case known =>
    intro key value kept
    exact ⟨_, (get_eq_ok sound key _).mpr ⟨sound.known key value kept, rfl⟩⟩
  case consecutive =>
    rw [given]
    exact map_id_allocated sound
  case distinct =>
    rw [given, map_id_allocated sound]
    exact List.nodup_range'
  case quiet =>
    intro call query
    exact h.registry.perform_of_isQuery query
  case fails =>
    intro call failure
    exact perform_eq_error sound call failure
  case unchanged =>
    intro call failure failed
    exact ⟨perform_of_error failed, kind_of_fails ((perform_eq_error sound call failure).mp failed)⟩

/-- From an empty registry on, whatever is called and whichever calls fail. -/
theorem represents_run (id : RegistryId) (calls : List Call) :
    (History.run { registry := { id } } calls).Represents id :=
  History.represents_of_sound (History.sound_run ⟨rfl, sound_empty id, rfl⟩ calls)

end Registry

end SatClient
