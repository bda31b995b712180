import Mathlib

/-!
# Computations that may fail

A loop whose body may throw, as a fold in `Except`: what a run of it that ends without an exception
has established.
-/

namespace PlaybackConnector

universe u v w

variable {ε : Type u} {α : Type v} {β : Type v} {γ : Type w}

/-- A sequence of two computations succeeds if both do. -/
theorem bind_eq_ok {first : Except ε α} {next : α → Except ε β} {result : β} :
    first >>= next = .ok result ↔ ∃ value, first = .ok value ∧ next value = .ok result := by
  cases first with
  | error e => exact ⟨nofun, nofun⟩
  | ok value => exact ⟨fun h => ⟨value, rfl, h⟩, fun ⟨_, heq, h⟩ => by cases heq; exact h⟩

/-- What holds at the start of a loop and is kept by each of its steps holds at the end of a loop
that does not throw, of all its items. -/
theorem foldlM_establishes {motive : List γ → α → Prop} {step : α → γ → Except ε α}
    {items : List γ} {start result : α} (hstart : motive [] start)
    (hstep : ∀ before item state after, item ∈ items → motive before state →
      step state item = .ok after → motive (before ++ [item]) after)
    (h : items.foldlM step start = .ok result) : motive items result := by
  induction items using List.reverseRecOn generalizing result with
  | nil =>
    cases h
    exact hstart
  | append_singleton before item ih =>
    rw [List.foldlM_append, bind_eq_ok] at h
    obtain ⟨state, hbefore, h⟩ := h
    rw [List.foldlM_cons, bind_eq_ok] at h
    obtain ⟨after, hafter, h⟩ := h
    cases h
    have hmem : item ∈ before ++ [item] := List.mem_append_right _ List.mem_cons_self
    refine hstep before item state _ hmem (ih ?_ hbefore) hafter
    intro before' item' state' after' hmem
    exact hstep before' item' state' after' (List.mem_append_left _ hmem)

end PlaybackConnector
