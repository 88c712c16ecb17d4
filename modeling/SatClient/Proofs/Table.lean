import Mathlib.Data.List.Perm.Subperm
import SatClient.Table
/-!
Tables through their view `get?`. Every operation changes the view at the keys it names and
nowhere else, and putting a list of pairs keeps the last value of each key.
-/

namespace SatClient.Table

variable {κ α : Type} [BEq κ] [LawfulBEq κ]

theorem get?_put (t : Table κ α) (key other : κ) (value : α) :
    (t.put key value).get? other = if other == key then some value else t.get? other := by
  by_cases same : other = key
  · subst other
    simp [get?_put_self]
  · have differ : key ≠ other := fun h => same h.symm
    simp [same, get?_put_of_ne t value differ]

theorem get?_putAll (t : Table κ α) (pairs : List (κ × α)) (key : κ) :
    (t.putAll pairs).get? key = (pairs.reverse.lookup key).or (t.get? key) := by
  induction pairs generalizing t with
  | nil => rfl
  | cons pair pairs ih =>
      obtain ⟨k, a⟩ := pair
      have step : t.putAll ((k, a) :: pairs) = (t.put k a).putAll pairs := rfl
      rw [step, ih, get?_put, List.reverse_cons, List.lookup_append]
      cases pairs.reverse.lookup key with
      | some b => rfl
      | none =>
          by_cases same : key = k
          · simp [same]
          · have differ : (key == k) = false := beq_false_of_ne same
            simp [List.lookup_cons, differ]

theorem get?_ofList (pairs : List (κ × α)) (key : κ) :
    (ofList pairs).get? key = pairs.reverse.lookup key := by
  rw [ofList, get?_putAll]
  exact Option.or_none

theorem get?_putAll_of_not_mem (t : Table κ α) {pairs : List (κ × α)} {key : κ}
    (absent : key ∉ pairs.map Prod.fst) : (t.putAll pairs).get? key = t.get? key := by
  induction pairs generalizing t with
  | nil => rfl
  | cons pair pairs ih =>
      obtain ⟨differ, later⟩ := not_or.mp (mt List.mem_cons.mpr absent)
      exact (ih (t.put pair.1 pair.2) later).trans (get?_put_of_ne t pair.2 (Ne.symm differ))

theorem get?_putAll_of_last (t : Table κ α) (before : List (κ × α)) {after : List (κ × α)}
    {key : κ} {value : α} (last : key ∉ after.map Prod.fst) :
    (t.putAll (before ++ (key, value) :: after)).get? key = some value := by
  have split : t.putAll (before ++ (key, value) :: after) =
      ((t.putAll before).put key value).putAll after := by
    rw [putAll, List.foldl_append]
    rfl
  rw [split, get?_putAll_of_not_mem _ last, get?_put_self]

theorem get?_erase (t : Table κ α) (key other : κ) :
    (t.erase key).get? other = if other == key then none else t.get? other := by
  obtain ⟨entries⟩ := t
  show lookup other (entries.filter fun entry => !(entry.1 == key)) =
    if other == key then none else lookup other entries
  induction entries with
  | nil => simp [lookup]
  | cons entry rest ih =>
      obtain ⟨k, a⟩ := entry
      by_cases dropped : k = key
      · subst k
        by_cases same : key = other
        · subst other
          simpa [lookup] using ih
        · have differ : other ≠ key := fun h => same h.symm
          simpa [lookup, same, differ] using ih
      · by_cases same : k = other
        · subst other
          simp [lookup, dropped]
        · simpa [List.filter_cons, lookup, dropped, same] using ih

theorem eq_empty_of_get? (t : Table κ α) (absent : ∀ key, t.get? key = none) : t = {} := by
  obtain ⟨entries⟩ := t
  cases entries with
  | nil => rfl
  | cons entry rest =>
      have first := absent entry.1
      simp [get?, lookup] at first

theorem mem_keys_of_get? (t : Table κ α) {key : κ} (present : t.get? key ≠ none) :
    key ∈ t.entries.map Prod.fst := by
  obtain ⟨entries⟩ := t
  induction entries with
  | nil => exact absurd rfl present
  | cons entry rest ih =>
      by_cases same : entry.1 = key
      · simp [same]
      · have later : get? ⟨rest⟩ key ≠ none := by
          simpa [get?, lookup, same] using present
        exact List.mem_cons_of_mem _ (ih later)

/-- Of more keys than there are entries, one has no value. -/
theorem exists_get?_eq_none (t : Table κ α) {keys : List κ} (distinct : keys.Nodup)
    (more : t.entries.length < keys.length) : ∃ key ∈ keys, t.get? key = none := by
  refine Classical.byContradiction fun taken => ?_
  have known : keys ⊆ t.entries.map Prod.fst := by
    intro key member
    apply t.mem_keys_of_get?
    exact fun free => taken ⟨key, member, free⟩
  have bound := (distinct.subperm known).length_le
  rw [List.length_map] at bound
  omega

theorem entries_put_of_mem {t : Table κ α} {key : κ} (value : α)
    (known : key ∈ t.entries.map Prod.fst) :
    (t.put key value).entries.map Prod.fst = t.entries.map Prod.fst := by
  obtain ⟨entries⟩ := t
  show (replace key value entries).map Prod.fst = entries.map Prod.fst
  induction entries with
  | nil => cases known
  | cons entry rest ih =>
      by_cases same : entry.1 = key
      · simp [replace, same]
      · have later : key ∈ rest.map Prod.fst := by
          rw [List.map_cons, List.mem_cons] at known
          exact known.resolve_left (Ne.symm same)
        simp [replace, same, ih later]

theorem entries_put_of_not_mem {t : Table κ α} {key : κ} (value : α)
    (fresh : key ∉ t.entries.map Prod.fst) :
    (t.put key value).entries = t.entries ++ [(key, value)] := by
  obtain ⟨entries⟩ := t
  show replace key value entries = entries ++ [(key, value)]
  induction entries with
  | nil => rfl
  | cons entry rest ih =>
      rw [List.map_cons, List.mem_cons, not_or] at fresh
      simp [replace, Ne.symm fresh.1, ih fresh.2]

theorem nodup_keys_put {t : Table κ α} (distinct : (t.entries.map Prod.fst).Nodup) (key : κ)
    (value : α) : ((t.put key value).entries.map Prod.fst).Nodup := by
  by_cases known : key ∈ t.entries.map Prod.fst
  · rw [entries_put_of_mem value known]
    exact distinct
  · rw [entries_put_of_not_mem value known, List.map_append]
    apply List.nodup_append.mpr
    refine ⟨distinct, List.pairwise_singleton _ key, ?_⟩
    intro k member l last
    rw [List.mem_singleton.mp last]
    rintro rfl
    exact known member

theorem nodup_keys_putAll {t : Table κ α} (distinct : (t.entries.map Prod.fst).Nodup)
    (pairs : List (κ × α)) : ((t.putAll pairs).entries.map Prod.fst).Nodup := by
  induction pairs generalizing t with
  | nil => exact distinct
  | cons pair pairs ih => exact ih (nodup_keys_put distinct pair.1 pair.2)

theorem get?_eq_some {t : Table κ α} (distinct : (t.entries.map Prod.fst).Nodup) {key : κ}
    {value : α} : t.get? key = some value ↔ (key, value) ∈ t.entries := by
  obtain ⟨entries⟩ := t
  show lookup key entries = some value ↔ (key, value) ∈ entries
  induction entries with
  | nil => simp [lookup]
  | cons entry rest ih =>
      obtain ⟨k, a⟩ := entry
      rw [List.map_cons, List.nodup_cons] at distinct
      by_cases same : k = key
      · subst same
        have absent : (k, value) ∉ rest := fun member =>
          distinct.1 (List.mem_map.mpr ⟨_, member, rfl⟩)
        simp [lookup, absent, eq_comm]
      · simp [lookup, same, Ne.symm same, ih distinct.2]

theorem mem_of_mem_ofList {pairs : List (κ × α)} {entry : κ × α}
    (member : entry ∈ (ofList pairs).entries) : entry ∈ pairs := by
  have distinct := nodup_keys_putAll (t := (empty : Table κ α)) List.nodup_nil pairs
  have put : pairs.reverse.lookup entry.1 = some entry.2 := by
    rw [← get?_ofList]
    exact (get?_eq_some distinct).mpr member
  obtain ⟨before, after, cut, _⟩ := List.lookup_eq_some_iff.mp put
  rw [← List.mem_reverse, cut]
  exact List.mem_append_right before List.mem_cons_self

theorem entries_putAll {t : Table κ α} {pairs : List (κ × α)}
    (distinct : ((t.entries ++ pairs).map Prod.fst).Nodup) :
    (t.putAll pairs).entries = t.entries ++ pairs := by
  induction pairs generalizing t with
  | nil => exact (List.append_nil _).symm
  | cons pair pairs ih =>
      have fresh : pair.1 ∉ t.entries.map Prod.fst := by
        intro known
        rw [List.map_append] at distinct
        exact (List.nodup_append.mp distinct).2.2 _ known _ List.mem_cons_self rfl
      have put := entries_put_of_not_mem pair.2 fresh
      have rest := ih (t := t.put pair.1 pair.2)
      rw [put, List.append_assoc] at rest
      exact rest distinct

/-- With keys that are all different, the view does not depend on the order of the entries. -/
theorem get?_of_perm {t u : Table κ α} (distinct : (t.entries.map Prod.fst).Nodup)
    (perm : t.entries.Perm u.entries) (key : κ) : t.get? key = u.get? key := by
  have other : (u.entries.map Prod.fst).Nodup := (perm.map Prod.fst).nodup_iff.mp distinct
  apply Option.ext
  intro value
  rw [get?_eq_some distinct, get?_eq_some other, perm.mem_iff]

end SatClient.Table
