import Mathlib

/-!
# Admission

A component that is closed while other threads use it counts its users under a lock: a thread enters
unless the gate is closed, and leaves when it is done; the one who closes the gate waits until it is
drained. The threads are the list of the points at which they stand, and `inside` says at which of
them a thread has entered. The count is right (`Gate.Counts`) whatever the threads do; a gate that
is drained has nobody inside (`Gate.Counts.none_inside`) and stays drained (`Gate.Drained.enter`).
-/

namespace PlaybackConnector

/-- A gate that counts the threads inside. -/
structure Gate where
  closed : Bool := false
  active : Nat := 0
deriving Repr, DecidableEq

namespace Gate

/-- A thread enters, unless the gate is closed. -/
def enter (gate : Gate) : Bool × Gate :=
  if gate.closed then (false, gate) else (true, { gate with active := gate.active + 1 })

def leave (gate : Gate) : Gate := { gate with active := gate.active - 1 }

def close (gate : Gate) : Gate := { gate with closed := true }

/-- The gate is closed and its last user has left. -/
def Drained (gate : Gate) : Prop := gate.closed = true ∧ gate.active = 0

instance (gate : Gate) : Decidable gate.Drained := inferInstanceAs (Decidable (_ ∧ _))

variable {gate : Gate}

@[simp] theorem closed_leave : gate.leave.closed = gate.closed := rfl
@[simp] theorem closed_close : gate.close.closed = true := rfl
@[simp] theorem active_close : gate.close.active = gate.active := rfl

@[simp] theorem closed_enter : gate.enter.2.closed = gate.closed := by
  unfold enter
  split <;> rfl

theorem enter_of_closed (h : gate.closed = true) : gate.enter = (false, gate) := if_pos h

theorem enter_of_open (h : gate.closed = false) :
    gate.enter = (true, { gate with active := gate.active + 1 }) := by
  rw [enter, h]
  rfl

/-! ## A drained gate -/

theorem Drained.enter (h : gate.Drained) : gate.enter = (false, gate) := enter_of_closed h.1

theorem Drained.leave (h : gate.Drained) : gate.leave.Drained := by
  obtain ⟨hclosed, hactive⟩ := h
  exact ⟨hclosed, by simp [Gate.leave, hactive]⟩

theorem Drained.close (h : gate.Drained) : gate.close.Drained := ⟨rfl, h.2⟩

/-! ## The count -/

section
variable {P : Type*} {inside : P → Bool} {threads : List P} {point point' : P}

/-- The gate counts the threads inside. -/
def Counts (inside : P → Bool) (gate : Gate) (threads : List P) : Prop :=
  gate.active = threads.countP inside

theorem Counts.close (h : gate.Counts inside threads) : gate.close.Counts inside threads := h

/-- A drained gate has nobody inside. -/
theorem Counts.none_inside (h : gate.Counts inside threads) (hdrained : gate.Drained) :
    ∀ point ∈ threads, inside point = false := by
  have hzero : threads.countP inside = 0 := h.symm.trans hdrained.2
  intro point hpoint
  exact Bool.eq_false_iff.2 (List.countP_eq_zero.1 hzero point hpoint)

/-- A thread outside comes. -/
theorem Counts.cons (h : gate.Counts inside threads) (hpoint : inside point = false) :
    gate.Counts inside (point :: threads) := by
  rw [Counts, List.countP_cons_of_neg (by simp [hpoint])]
  exact h

/-- A thread outside enters. -/
theorem Counts.enter (h : gate.Counts inside threads) (point : P)
    (hentered : gate.enter.1 = true) (hpoint : inside point = true) :
    gate.enter.2.Counts inside (point :: threads) := by
  have hopen : gate.closed = false := by
    unfold Gate.enter at hentered
    split at hentered
    · cases hentered
    · next hopen => exact Bool.eq_false_iff.2 hopen
  rw [enter_of_open hopen, Counts, List.countP_cons_of_pos hpoint]
  exact congrArg (· + 1) h

variable [BEq P] [LawfulBEq P]

/-- A thread outside goes. -/
theorem Counts.erase (h : gate.Counts inside threads) (hpoint : inside point = false) :
    gate.Counts inside (threads.erase point) := by
  rw [Counts, List.countP_erase, if_neg (by simp [hpoint]), Nat.sub_zero]
  exact h

/-- A thread inside leaves. -/
theorem Counts.leave (h : gate.Counts inside threads) (hmem : point ∈ threads)
    (hpoint : inside point = true) : gate.leave.Counts inside (threads.erase point) := by
  rw [Counts, List.countP_erase, if_pos ⟨hmem, hpoint⟩]
  exact congrArg (· - 1) h

/-- A thread goes on, inside as it was inside, or outside as it was outside. -/
theorem Counts.move (h : gate.Counts inside threads) (hmem : point ∈ threads)
    (hpoint' : inside point' = inside point) :
    gate.Counts inside (point' :: threads.erase point) := by
  rcases hpoint : inside point with _ | _
  · exact (h.erase hpoint).cons (hpoint'.trans hpoint)
  · have hpositive : 0 < threads.countP inside := List.countP_pos_iff.2 ⟨point, hmem, hpoint⟩
    rw [Counts, List.countP_cons_of_pos (hpoint'.trans hpoint), List.countP_erase,
      if_pos ⟨hmem, hpoint⟩]
    have hcount : gate.active = threads.countP inside := h
    omega

end

end Gate

end PlaybackConnector
