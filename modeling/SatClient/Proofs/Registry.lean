import SatClient.Registry
import SatClient.Proofs.Table
/-!
The invariant of a registry: its counter is one ahead of its variables, these are numbered from one
without a gap, and values are kept only for numbers that were given out. Look-ups and recording are
decided by the count alone.
-/

namespace SatClient.Registry

def Allocates (r : Registry) (id : Int) : Prop :=
  0 < id ∧ id ≤ r.count

def positive (r : Registry) (index : Nat) : Literal :=
  ⟨index + 1, false, some r.id, Nat.succ_pos index⟩

structure Sound (r : Registry) : Prop where
  counted : r.nextId = r.allocated.length + 1
  numbered : r.allocated = (List.range r.count).map r.positive
  known : ∀ id value, r.results.get? id = some value → r.Allocates id

theorem count_eq_length {r : Registry} (sound : r.Sound) : r.count = r.allocated.length := by
  rw [count, sound.counted, Nat.add_sub_cancel]

theorem sound_empty (id : RegistryId) : Sound { id } := by
  constructor
  case counted => rfl
  case numbered => rfl
  case known =>
    intro key value kept
    cases kept

theorem fresh_eq (r : Registry) : r.fresh = r.positive r.count := by
  simp only [fresh, positive, count_add_one]

theorem sound_create {r : Registry} (sound : r.Sound) : r.create.1.Sound := by
  constructor
  case counted =>
    show r.nextId + 1 = (r.allocated ++ [r.fresh]).length + 1
    rw [List.length_append, List.length_singleton, sound.counted]
  case numbered =>
    rw [count_create, List.range_succ, List.map_append]
    show r.allocated ++ [r.fresh] = (List.range r.count).map r.positive ++ [r.positive r.count]
    rw [← sound.numbered, fresh_eq]
  case known =>
    intro id value kept
    have old := sound.known id value kept
    have grown := r.count_create
    exact ⟨old.1, by have := old.2; omega⟩

theorem sound_createMany (n : Nat) {r : Registry} (sound : r.Sound) :
    (createMany n r).1.Sound := by
  induction n generalizing r with
  | zero => exact sound
  | succ n ih => exact ih (sound_create sound)

theorem sound_createBlock {r s : Registry} (sound : r.Sound) {size : Int} {ls : List Literal}
    (created : r.createBlock size = .ok (s, ls)) : s.Sound := by
  unfold createBlock at created
  split at created
  · cases created
  · have made : (createMany size.toNat r).1 = s := congrArg Prod.fst (Except.ok.inj created)
    exact made ▸ sound_createMany size.toNat sound

theorem keeps_createMany (n : Nat) (r : Registry) :
    (createMany n r).1.id = r.id ∧ (createMany n r).1.results = r.results := by
  induction n generalizing r with
  | zero => exact ⟨rfl, rfl⟩
  | succ n ih => exact ih r.create.1

theorem allocated_createMany (n : Nat) (r : Registry) :
    (createMany n r).1.allocated = r.allocated ++ (createMany n r).2 := by
  induction n generalizing r with
  | zero => simp [createMany]
  | succ n ih =>
      have rest := ih r.create.1
      simpa [createMany, create] using rest

theorem length_createMany (n : Nat) (r : Registry) : (createMany n r).2.length = n := by
  induction n generalizing r with
  | zero => rfl
  | succ n ih => exact congrArg (· + 1) (ih r.create.1)

theorem createMany_empty (n : Nat) (id : RegistryId) :
    (createMany n { id }).2 = (List.range n).map (positive { id }) := by
  have sound := sound_createMany n (sound_empty id)
  have numbered := sound.numbered
  have identity := (keeps_createMany n { id }).1
  rw [count_eq_length sound, allocated_createMany, List.nil_append, length_createMany] at numbered
  rw [numbered]
  apply List.map_congr_left
  intro index _
  rw [positive, positive, identity]

theorem keeps_createBlock {r s : Registry} {size : Int} {ls : List Literal}
    (created : r.createBlock size = .ok (s, ls)) : s.id = r.id ∧ s.results = r.results := by
  unfold createBlock at created
  split at created
  · cases created
  · have made : (createMany size.toNat r).1 = s := congrArg Prod.fst (Except.ok.inj created)
    exact made ▸ keeps_createMany size.toNat r

theorem sound_clearResults {r : Registry} (sound : r.Sound) : r.clearResults.Sound := by
  refine ⟨sound.counted, sound.numbered, ?_⟩
  intro id value kept
  cases kept

theorem sound_reset (r : Registry) : r.reset.Sound :=
  sound_empty r.id

theorem find?_eq_some {r : Registry} (sound : r.Sound) {id : Int} (allocates : r.Allocates id) :
    r.find? id = some (r.positive (id.toNat - 1)) := by
  obtain ⟨low, high⟩ := allocates
  rw [find?, sound.numbered, List.find?_map]
  have found : (List.range r.count).find? ((fun l : Literal => (l.id : Int) == id) ∘ r.positive) =
      some (id.toNat - 1) := by
    apply List.find?_range_eq_some.mpr
    refine ⟨?_, ?_, ?_⟩
    · simp only [Function.comp_apply, positive, beq_iff_eq]
      omega
    · rw [List.mem_range]
      omega
    · intro j before
      simp only [Function.comp_apply, positive, Bool.not_eq_true', beq_eq_false_iff_ne]
      omega
  rw [found]
  rfl

theorem find?_eq_none {r : Registry} (sound : r.Sound) {id : Int} (free : ¬ r.Allocates id) :
    r.find? id = none := by
  apply List.find?_eq_none.mpr
  intro l member
  rw [sound.numbered] at member
  obtain ⟨index, inside, rfl⟩ := List.mem_map.mp member
  have bound := List.mem_range.mp inside
  intro same
  apply free
  have equal : ((index + 1 : Nat) : Int) = id := by simpa [positive] using same
  constructor <;> omega

theorem find?_isNone_iff {r : Registry} (sound : r.Sound) (id : Int) :
    (r.find? id).isNone = true ↔ ¬ r.Allocates id := by
  constructor
  · intro absent allocates
    rw [find?_eq_some sound allocates] at absent
    cases absent
  · intro free
    rw [find?_eq_none sound free]
    rfl

/-- Recording is a change of one value, for an id that was given out. -/
theorem record_eq {r : Registry} (sound : r.Sound) {id : Nat} (value : Bool)
    (allocates : r.Allocates id) :
    r.record id value = .ok { r with results := r.results.put id value } := by
  have index : id - 1 + 1 = id := by
    have := allocates.1
    omega
  rw [record, find?_eq_some sound allocates]
  simp [positive, index]

theorem record_eq_error {r : Registry} (sound : r.Sound) {id : Int} (value : Bool)
    (free : ¬ r.Allocates id) : r.record id value = .error (.assignedUnknown id) := by
  rw [record, find?_eq_none sound free]

theorem sound_put {r : Registry} (sound : r.Sound) {id : Nat} (value : Bool)
    (allocates : r.Allocates id) : Sound { r with results := r.results.put id value } := by
  refine ⟨sound.counted, sound.numbered, ?_⟩
  intro key kept here
  rw [Table.get?_put] at here
  by_cases same : key = id
  · subst key
    exact allocates
  · rw [if_neg (by simpa using same)] at here
    exact sound.known key kept here

theorem sound_record {r s : Registry} (sound : r.Sound) {id : Int} {value : Bool}
    (recorded : r.record id value = .ok s) : s.Sound := by
  by_cases allocates : r.Allocates id
  · obtain ⟨n, rfl⟩ : ∃ n : Nat, id = n := Int.eq_ofNat_of_zero_le (Int.le_of_lt allocates.1)
    rw [record_eq sound value allocates] at recorded
    cases recorded
    exact sound_put sound value allocates
  · rw [record_eq_error sound value allocates] at recorded
    cases recorded

/-- Recording a list of values cannot fail midway once all its ids are known. -/
theorem recordAll_eq {r : Registry} (sound : r.Sound) (pairs : List (Nat × Bool))
    (known : ∀ pair ∈ pairs, r.Allocates pair.1) :
    r.recordAll pairs = .ok { r with results := r.results.putAll pairs } := by
  induction pairs generalizing r with
  | nil => rfl
  | cons pair pairs ih =>
      obtain ⟨id, value⟩ := pair
      have first : r.Allocates id := known (id, value) (by simp)
      have rest : ∀ pair ∈ pairs, r.Allocates pair.1 := by
        intro pair member
        exact known pair (List.mem_cons_of_mem _ member)
      rw [recordAll, record_eq sound value first]
      exact ih (sound_put sound value first) rest

theorem allocation_record {r s : Registry} {id : Int} {value : Bool}
    (recorded : r.record id value = .ok s) : s.id = r.id ∧ s.allocated = r.allocated := by
  unfold record at recorded
  split at recorded
  · cases recorded
    exact ⟨rfl, rfl⟩
  · cases recorded

theorem allocation_recordAll {r s : Registry} {pairs : List (Nat × Bool)}
    (recorded : r.recordAll pairs = .ok s) : s.id = r.id ∧ s.allocated = r.allocated := by
  induction pairs generalizing r with
  | nil =>
      cases recorded
      exact ⟨rfl, rfl⟩
  | cons pair pairs ih =>
      obtain ⟨id, value⟩ := pair
      rw [recordAll] at recorded
      split at recorded
      · next t first =>
          have now := allocation_record first
          have later := ih recorded
          exact ⟨later.1.trans now.1, later.2.trans now.2⟩
      · cases recorded

theorem allocates_of_record {r s : Registry} (sound : r.Sound) {id : Int} {value : Bool}
    (recorded : r.record id value = .ok s) : r.Allocates id := by
  by_cases allocates : r.Allocates id
  · exact allocates
  · rw [record_eq_error sound value allocates] at recorded
    cases recorded

theorem results_recordAll {r s : Registry} (sound : r.Sound) {pairs : List (Nat × Bool)}
    (recorded : r.recordAll pairs = .ok s) : s.results = r.results.putAll pairs := by
  induction pairs generalizing r with
  | nil =>
      cases recorded
      rfl
  | cons pair pairs ih =>
      obtain ⟨id, value⟩ := pair
      rw [recordAll] at recorded
      split at recorded
      · next t first =>
          rw [ih (sound_record sound first) recorded]
          rw [record_eq sound value (allocates_of_record sound first)] at first
          cases first
          rfl
      · cases recorded

theorem sound_recordAll {r s : Registry} (sound : r.Sound) {pairs : List (Nat × Bool)}
    (recorded : r.recordAll pairs = .ok s) : s.Sound := by
  induction pairs generalizing r with
  | nil =>
      cases recorded
      exact sound
  | cons pair pairs ih =>
      obtain ⟨id, value⟩ := pair
      rw [recordAll] at recorded
      split at recorded
      · next t first => exact ih (sound_record sound first) recorded
      · cases recorded

theorem failure_of_recordAll {r : Registry} {pairs : List (Nat × Bool)} {failure : Failure}
    (failed : r.recordAll pairs = .error failure) :
    ∃ pair ∈ pairs, failure = .assignedUnknown pair.1 := by
  induction pairs generalizing r with
  | nil => cases failed
  | cons pair pairs ih =>
      obtain ⟨id, value⟩ := pair
      rw [recordAll, record] at failed
      cases found : r.find? id with
      | none =>
          rw [found] at failed
          cases failed
          exact ⟨_, List.mem_cons_self, rfl⟩
      | some l =>
          rw [found] at failed
          obtain ⟨named, member, same⟩ := ih failed
          exact ⟨named, List.mem_cons_of_mem _ member, same⟩

theorem eq_empty_of_unused {r : Registry} (sound : r.Sound) (unused : r.allocated = []) :
    r = { id := r.id } := by
  have absent : r.results = {} := by
    apply Table.eq_empty_of_get?
    intro key
    cases kept : r.results.get? key with
    | none => rfl
    | some value =>
        obtain ⟨low, high⟩ := sound.known key value kept
        rw [count_eq_length sound, unused, List.length_nil] at high
        omega
  have first : r.nextId = 1 := by rw [sound.counted, unused, List.length_nil]
  obtain ⟨id, nextId, allocated, results, _⟩ := r
  cases unused
  cases absent
  cases first
  rfl

theorem result_eq_ok (r : Registry) (l : Literal) (value : Bool) :
    r.result l = .ok value ↔ r.results.get? l.id = some value := by
  unfold result
  cases r.results.get? l.id <;> simp

theorem result_negate (r : Registry) (l : Literal) : r.result l.negate = r.result l := rfl

end SatClient.Registry
