import Mathlib

/-!
# Lists and options that are alike

Two lists of keys have the same pattern if two positions hold one key in the first list exactly when
they do in the second one. A search for a key in lists that are alike then finds elements that are
alike (`find?_forall₂`).
-/

namespace PlaybackConnector

variable {α β γ κ : Type*} {R : α → β → Prop} {left : List α} {right : List β}
  {keys keys' : List κ}

/-- Two positions hold one key in the first list exactly when they do in the second one. -/
def SamePattern (keys keys' : List κ) : Prop :=
  ∀ pair ∈ keys.zip keys', ∀ other ∈ keys.zip keys', pair.1 = other.1 ↔ pair.2 = other.2

theorem map_eq_of_forall₂ (h : List.Forall₂ R left right) {f : α → γ} {g : β → γ}
    (hfg : ∀ x y, R x y → f x = g y) : left.map f = right.map g := by
  have heq : List.Forall₂ (· = ·) (left.map f) (right.map g) :=
    List.forall₂_map_left_iff.2 (List.forall₂_map_right_iff.2 (h.imp hfg))
  rwa [List.forall₂_eq_eq_eq] at heq

theorem flatMap_eq_of_forall₂ (h : List.Forall₂ R left right) {f : α → List γ} {g : β → List γ}
    (hfg : ∀ x y, R x y → f x = g y) : left.flatMap f = right.flatMap g := by
  rw [List.flatMap_def, List.flatMap_def, map_eq_of_forall₂ h hfg]

theorem filter_forall₂ (h : List.Forall₂ R left right) {p : α → Bool} {q : β → Bool}
    (hpq : ∀ x y, R x y → p x = q y) : List.Forall₂ R (left.filter p) (right.filter q) :=
  List.rel_filter (fun x y hxy => iff_of_eq (congrArg (· = true) (hpq x y hxy))) h

theorem eq_nil_of_forall₂ (h : List.Forall₂ R left right) : left = [] ↔ right = [] := by
  rw [← List.length_eq_zero_iff, h.length_eq, List.length_eq_zero_iff]

/-- What is found in two lists that are alike. -/
theorem find?_forall₂ (h : List.Forall₂ R left right) {p : α → Bool} {q : β → Bool}
    (hpq : ∀ x y, (x, y) ∈ left.zip right → p x = q y) :
    Option.Rel R (left.find? p) (right.find? q) := by
  induction h with
  | nil => exact .none
  | @cons x y left right hxy _ ih =>
    have hhead := hpq x y List.mem_cons_self
    rw [List.find?_cons, List.find?_cons, ← hhead]
    split
    · exact .some hxy
    · exact ih fun x y hmem => hpq x y (List.mem_cons_of_mem _ hmem)

/-- A pair of elements gives a pair of their keys. -/
theorem mem_zip_map {key : α → κ} {key' : β → κ} {x : α} {y : β} (h : (x, y) ∈ left.zip right) :
    (key x, key' y) ∈ (left.map key).zip (right.map key') := by
  rw [List.zip_map]
  exact List.mem_map_of_mem h

theorem rel_getD {x : Option α} {y : Option β} {a : α} {b : β} (h : Option.Rel R x y)
    (hdefault : R a b) : R (x.getD a) (y.getD b) := by
  cases h with
  | none => exact hdefault
  | some hxy => exact hxy

theorem rel_map_eq {x : Option α} {y : Option β} (h : Option.Rel R x y) {f : α → γ}
    {g : β → γ} (hfg : ∀ x y, R x y → f x = g y) : x.map f = y.map g := by
  cases h with
  | none => rfl
  | some hxy => exact congrArg some (hfg _ _ hxy)

theorem rel_any_eq {x : Option α} {y : Option β} (h : Option.Rel R x y) {p : α → Bool}
    {q : β → Bool} (hpq : ∀ x y, R x y → p x = q y) : x.any p = y.any q := by
  cases h with
  | none => rfl
  | some hxy => exact hpq _ _ hxy

theorem rel_isSome {x : Option α} {y : Option β} (h : Option.Rel R x y) :
    x.isSome = y.isSome := by
  cases h <;> rfl

end PlaybackConnector
