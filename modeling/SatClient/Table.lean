/-!
Finite maps as lists of entries, one per key, in the order in which the keys were first put. The
view is `get?`; a later value for a key replaces the earlier one in place.
-/

namespace SatClient

structure Table (κ α : Type) where
  entries : List (κ × α) := []
  deriving DecidableEq, Repr

namespace Table

variable {κ α : Type} [BEq κ]

def empty : Table κ α := {}

def lookup (key : κ) : List (κ × α) → Option α
  | [] => none
  | (k, a) :: rest => if k == key then some a else lookup key rest

def replace (key : κ) (value : α) : List (κ × α) → List (κ × α)
  | [] => [(key, value)]
  | (k, a) :: rest => if k == key then (k, value) :: rest else (k, a) :: replace key value rest

def get? (t : Table κ α) (key : κ) : Option α :=
  lookup key t.entries

def contains (t : Table κ α) (key : κ) : Bool :=
  (t.get? key).isSome

def put (t : Table κ α) (key : κ) (value : α) : Table κ α :=
  ⟨replace key value t.entries⟩

def erase (t : Table κ α) (key : κ) : Table κ α :=
  ⟨t.entries.filter fun entry => !(entry.1 == key)⟩

def putAll (t : Table κ α) (pairs : List (κ × α)) : Table κ α :=
  pairs.foldl (fun t (key, value) => t.put key value) t

def ofList (pairs : List (κ × α)) : Table κ α :=
  empty.putAll pairs

def sorted (before : κ → κ → Bool) (t : Table κ α) : List (κ × α) :=
  t.entries.mergeSort fun a b => !before b.1 a.1

theorem get?_put_self [LawfulBEq κ] (t : Table κ α) (key : κ) (value : α) :
    (t.put key value).get? key = some value := by
  obtain ⟨entries⟩ := t
  show lookup key (replace key value entries) = some value
  induction entries with
  | nil => simp [replace, lookup]
  | cons entry rest ih =>
    obtain ⟨k, a⟩ := entry
    by_cases same : k == key <;> simp [replace, lookup, same, ih]

theorem get?_put_of_ne [LawfulBEq κ] (t : Table κ α) {key other : κ} (value : α)
    (differ : key ≠ other) : (t.put key value).get? other = t.get? other := by
  obtain ⟨entries⟩ := t
  show lookup other (replace key value entries) = lookup other entries
  induction entries with
  | nil => simp [replace, lookup, differ]
  | cons entry rest ih =>
    obtain ⟨k, a⟩ := entry
    by_cases same : k = key
    · simp [replace, lookup, same, differ]
    · simp [replace, lookup, same, ih]

end Table

end SatClient
