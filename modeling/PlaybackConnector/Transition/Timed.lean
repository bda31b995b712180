import Mathlib

/-!
# Timed histories

A component that is called at times of a clock has a history of calls, the latest first. What it
has observed of them since some instant is `HeldSince`: a property of the calls which held in every
one of them, back to a call at that instant, without the clock going backward in between.
-/

namespace PlaybackConnector

variable {α τ : Type*} [Preorder τ] {time : α → τ} {P Q : α → Prop} {history : List α} {since : τ}
  {call : α}

/-- `P` held in every one of the latest calls, which go back to a call at `since`, and along which
the time did not decrease. -/
def HeldSince (time : α → τ) (P : α → Prop) (history : List α) (since : τ) : Prop :=
  ∃ latest first earlier, history = latest ++ first :: earlier ∧ time first = since ∧
    (∀ call ∈ latest ++ [first], P call) ∧
    (latest ++ [first]).Pairwise fun later call => time call ≤ time later

/-- The observation begins with a call. -/
theorem HeldSince.begin (h : P call) : HeldSince time P (call :: history) (time call) :=
  ⟨[], call, history, rfl, rfl, by simpa using h, by simp⟩

/-- The observation goes on with a call that is not earlier than the one before it. -/
theorem HeldSince.extend (hs : HeldSince time P history since) (h : P call)
    (hle : ∀ last, history.head? = some last → time last ≤ time call) :
    HeldSince time P (call :: history) since := by
  obtain ⟨latest, first, earlier, rfl, hfirst, hall, hsorted⟩ := hs
  refine ⟨call :: latest, first, earlier, rfl, hfirst, ?_, ?_⟩
  · simpa using ⟨h, by simpa using hall⟩
  · refine List.pairwise_cons.2 ⟨fun other hother => ?_, hsorted⟩
    cases latest with
    | nil =>
      obtain rfl := List.mem_singleton.1 hother
      exact hle _ rfl
    | cons last latest =>
      have hlast : time last ≤ time call := hle last rfl
      rcases List.mem_cons.1 hother with rfl | hother
      · exact hlast
      · exact ((List.pairwise_cons.1 hsorted).1 other hother).trans hlast

theorem HeldSince.imp (h : HeldSince time P history since) (hPQ : ∀ call, P call → Q call) :
    HeldSince time Q history since := by
  obtain ⟨latest, first, earlier, hsplit, hfirst, hall, hsorted⟩ := h
  exact ⟨latest, first, earlier, hsplit, hfirst, fun call hcall => hPQ call (hall call hcall),
    hsorted⟩

/-- The observation begins with the latest call, or goes back over the one before it. -/
theorem HeldSince.now_or_last (h : HeldSince time P (call :: history) since) :
    since = time call ∨ ∃ last, history.head? = some last ∧ time last ≤ time call := by
  obtain ⟨latest, first, earlier, hsplit, hfirst, -, hsorted⟩ := h
  cases latest with
  | nil =>
    obtain ⟨rfl, -⟩ := List.cons.inj hsplit
    exact .inl hfirst.symm
  | cons _ latest =>
    obtain ⟨rfl, rfl⟩ := List.cons.inj hsplit
    have hle := (List.pairwise_cons.1 hsorted).1
    refine .inr ?_
    cases latest with
    | nil => exact ⟨first, rfl, hle first (by simp)⟩
    | cons last latest => exact ⟨last, rfl, hle last (by simp)⟩

end PlaybackConnector
