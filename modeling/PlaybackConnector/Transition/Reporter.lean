import Mathlib

/-!
# Components that report their state

A component that tells others what it looks like numbers its reports: `live` is what there is to
tell, `reported` is what the latest report told, and `count` is the number of reports. What it does
is told if it either ends in a report of the state it leaves, or changes nothing that there is to
tell (`Told`). What is told one after the other is told (`Told.trans`), a report makes up for
everything before it (`Since.of_grows`), and where nothing but told steps happen the latest report
is true (`Told.current`).
-/

namespace PlaybackConnector

/-- A component that reports its state. -/
structure Reporter (σ ρ : Type*) where
  /-- What there is to report. -/
  live : σ → ρ
  /-- What the latest report told. -/
  reported : σ → ρ
  /-- The number of reports. -/
  count : σ → Nat

namespace Reporter

variable {σ ρ : Type*} (R : Reporter σ ρ) {s t u : σ}

/-- The latest report is true. -/
def Current (s : σ) : Prop := R.reported s = R.live s

/-- The state `t` was reported, after `s`. -/
structure Since (s t : σ) : Prop where
  later : R.count s < R.count t
  current : R.Current t

/-- Nothing was reported, and there is nothing to report. -/
structure Same (s t : σ) : Prop where
  live : R.live t = R.live s
  reported : R.reported t = R.reported s
  count : R.count t = R.count s

/-- Whatever happened from `s` to `t`, there is nothing left of it to report. -/
def Told (s t : σ) : Prop := R.Since s t ∨ R.Same s t

/-- No report is taken back. -/
def Grows (s t : σ) : Prop := R.count s ≤ R.count t

variable {R}

theorem Same.refl (s : σ) : R.Same s s := ⟨rfl, rfl, rfl⟩

theorem Same.trans (h : R.Same s t) (h' : R.Same t u) : R.Same s u :=
  ⟨h'.live.trans h.live, h'.reported.trans h.reported, h'.count.trans h.count⟩

theorem Same.current (h : R.Same s t) (hs : R.Current s) : R.Current t :=
  h.reported.trans (hs.trans h.live.symm)

theorem Since.same (h : R.Since s t) (h' : R.Same t u) : R.Since s u :=
  ⟨Nat.lt_of_lt_of_eq h.later h'.count.symm, h'.current h.current⟩

/-- A report makes up for everything before it. -/
theorem Since.of_grows (h : R.Grows s t) (h' : R.Since t u) : R.Since s u :=
  ⟨Nat.lt_of_le_of_lt h h'.later, h'.current⟩

theorem Told.refl (s : σ) : R.Told s s := .inr (.refl s)

theorem Told.grows (h : R.Told s t) : R.Grows s t := by
  rcases h with h | h
  · exact Nat.le_of_lt h.later
  · exact Nat.le_of_eq h.count.symm

theorem Since.told (h : R.Since s t) (h' : R.Told t u) : R.Since s u := by
  rcases h' with h' | h'
  · exact .of_grows (Nat.le_of_lt h.later) h'
  · exact h.same h'

theorem Told.since (h : R.Told s t) (h' : R.Since t u) : R.Since s u := .of_grows h.grows h'

theorem Told.trans (h : R.Told s t) (h' : R.Told t u) : R.Told s u := by
  rcases h with h | h
  · exact .inl (h.told h')
  · rcases h' with h' | h'
    · exact .inl (.of_grows (Nat.le_of_eq h.count.symm) h')
    · exact .inr (h.trans h')

theorem Told.current (h : R.Told s t) (hs : R.Current s) : R.Current t := by
  rcases h with h | h
  · exact h.current
  · exact h.current hs

/-- What changed was reported. -/
theorem Told.later (h : R.Told s t) (hne : R.live t ≠ R.live s) : R.count s < R.count t := by
  rcases h with h | h
  · exact h.later
  · exact absurd h.live hne

/-- A loop whose rounds are told is told. -/
theorem Told.foldl {α : Type*} {body : σ → α → σ} {as : List α}
    (h : ∀ s, ∀ a ∈ as, R.Told s (body s a)) : R.Told s (as.foldl body s) := by
  induction as generalizing s with
  | nil => exact .refl s
  | cons a as ih =>
    refine (h s a List.mem_cons_self).trans (ih fun t b hb => ?_)
    exact h t b (List.mem_cons_of_mem _ hb)

end Reporter

end PlaybackConnector
