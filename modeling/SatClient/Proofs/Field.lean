import SatClient.Field.Reading
/-!
Readings put together: two of them, a list of them, and fields that may be left out.
-/

namespace SatClient.Field

theorem both_eq_ok {α β : Type} (left : Reading α) (right : Reading β) (pair : α × β) :
    both left right = .ok pair ↔ left = .ok pair.1 ∧ right = .ok pair.2 := by
  obtain ⟨a, b⟩ := pair
  cases left <;> cases right <;> simp [both]

theorem readItems_map {α : Type} (item : List Place → Value → Reading α) (view : α → Value)
    (each : ∀ place a, item place (view a) = .ok a) (place : List Place) (index : Nat)
    (items : List α) : readItems item place index (items.map view) = .ok items := by
  induction items generalizing index with
  | nil => rfl
  | cons a items ih =>
      rw [List.map_cons, readItems, each, ih]
      rfl

theorem optional_of_lookup {α : Type} (read : List Place → Value → Reading α) {fields : Fields}
    {name : String} {value : Value} (given : fields.lookup name = some value) (default : α) :
    optional read fields name default = read [.field name] value := by
  rw [optional, given]

theorem optional_of_absent {α : Type} (read : List Place → Value → Reading α) {fields : Fields}
    {name : String} (absent : fields.lookup name = none) (default : α) :
    optional read fields name default = .ok default := by
  rw [optional, absent]

theorem of_optional {α : Type} (holds : α → Prop) {read : List Place → Value → Reading α}
    {fields : Fields} {name : String} {default a : α} (usual : holds default)
    (each : ∀ place value, read place value = .ok a → holds a)
    (given : optional read fields name default = .ok a) : holds a := by
  unfold optional at given
  split at given
  · exact each _ _ given
  · cases given
    exact usual

end SatClient.Field
