import Mathlib

/-!
# The changes of a value

A value that is seen again and again: `latest` is what it is after a list of sightings, and
`changes` counts the sightings at which it was another one than before. The count tells histories
apart where the values do not: it is what it was before only if the value never was another one
meanwhile (`changes_append_eq_iff`), so that a value which goes away and comes back has a new count.
A counter of limited range that stays at its last value tells the same as long as it has not passed
its range (`min_changes_append_eq_iff`).
-/

namespace PlaybackConnector

variable {α β : Type*} {first : α} {value : α} {seen later : List α}

/-- What a value is that was `first` and then was seen as `seen`, in this order. -/
def latest : α → List α → α
  | first, [] => first
  | _, value :: seen => latest value seen

theorem latest_append : ∀ (first : α) (seen later : List α),
    latest first (seen ++ later) = latest (latest first seen) later
  | _, [], _ => rfl
  | _, value :: seen, later => latest_append value seen later

@[simp] theorem latest_concat : latest first (seen ++ [value]) = value := by
  rw [latest_append]
  rfl

theorem latest_map (f : α → β) : ∀ (first : α) (seen : List α),
    latest (f first) (seen.map f) = f (latest first seen)
  | _, [] => rfl
  | _, value :: seen => latest_map f value seen

variable [DecidableEq α] [DecidableEq β]

/-- How often a value changed that was `first` and then was seen as `seen`. -/
def changes : α → List α → Nat
  | _, [] => 0
  | first, value :: seen => (if value = first then 0 else 1) + changes value seen

theorem changes_append : ∀ (first : α) (seen later : List α),
    changes first (seen ++ later) = changes first seen + changes (latest first seen) later
  | _, [], _ => (Nat.zero_add _).symm
  | first, value :: seen, later => by
    simp only [List.cons_append, changes, latest, changes_append value seen later]
    omega

theorem changes_concat :
    changes first (seen ++ [value]) =
      changes first seen + if value = latest first seen then 0 else 1 := by
  rw [changes_append]
  rfl

/-- Nothing has changed exactly if the value was the first one at every sighting. -/
theorem changes_eq_zero_iff : ∀ {first : α} {seen : List α},
    changes first seen = 0 ↔ ∀ value ∈ seen, value = first
  | _, [] => by simp [changes]
  | first, value :: seen => by
    by_cases hvalue : value = first
    · subst hvalue
      simp [changes, changes_eq_zero_iff]
    · simp [changes, hvalue]

/-- The count is what it was exactly if the value has been the same ever since. -/
theorem changes_append_eq_iff :
    changes first (seen ++ later) = changes first seen ↔
      ∀ value ∈ later, value = latest first seen := by
  rw [changes_append, ← changes_eq_zero_iff]
  omega

theorem changes_le_append : changes first seen ≤ changes first (seen ++ later) := by
  rw [changes_append]
  exact Nat.le_add_right _ _

/-- A counter that stays at its last value, as long as it has not passed it. -/
theorem min_changes_append_eq_iff {last : Nat} (hrange : changes first (seen ++ later) ≤ last) :
    min (changes first (seen ++ later)) last = min (changes first seen) last ↔
      ∀ value ∈ later, value = latest first seen := by
  have hle : changes first seen ≤ changes first (seen ++ later) := changes_le_append
  rw [Nat.min_eq_left hrange, Nat.min_eq_left (Nat.le_trans hle hrange)]
  exact changes_append_eq_iff

/-- What is read off a value changes only when the value does. -/
theorem changes_map_le (f : α → β) : ∀ {first : α} {seen : List α},
    changes (f first) (seen.map f) ≤ changes first seen
  | _, [] => Nat.le_refl 0
  | first, value :: seen => by
    have hrest : changes (f value) (seen.map f) ≤ changes value seen := changes_map_le f
    by_cases hvalue : value = first
    · subst hvalue
      simpa [changes] using hrest
    · simp only [List.map_cons, changes, hvalue, if_false]
      split <;> omega

end PlaybackConnector
