import Mathlib

/-!
# Histories

A component that notes what happens to it has a history of occurrences, the latest first. A property
of an occurrence and of what happened before it holds `Throughout` a history if it holds of each of
its occurrences.
-/

namespace PlaybackConnector

variable {α : Type*} {P Q : α → List α → Prop} {history earlier : List α} {occurrence : α}

/-- Every occurrence has the property, together with what happened before it. -/
def Throughout (P : α → List α → Prop) : List α → Prop
  | [] => True
  | occurrence :: earlier => P occurrence earlier ∧ Throughout P earlier

@[simp] theorem throughout_nil : Throughout P [] := trivial

@[simp] theorem throughout_cons :
    Throughout P (occurrence :: history) ↔ P occurrence history ∧ Throughout P history := Iff.rfl

/-- The property read at one occurrence. -/
theorem Throughout.at (h : Throughout P history) (hsuffix : (occurrence :: earlier) <:+ history) :
    P occurrence earlier := by
  induction history with
  | nil => cases List.eq_nil_of_suffix_nil hsuffix
  | cons latest history ih =>
    rcases List.suffix_cons_iff.1 hsuffix with heq | hsuffix
    · obtain ⟨rfl, rfl⟩ := List.cons.inj heq
      exact h.1
    · exact ih h.2 hsuffix

end PlaybackConnector
