import Mathlib

/-!
# A ring of slots

A ring keeps the last elements that were put into it: each goes into the next slot, in which the
oldest one is overwritten once every slot is taken. `Holds` describes a ring by all that was ever
put into it, and `Holds.elements`: the elements from the oldest on are the last of those.
-/

namespace PlaybackConnector

/-- Slots, the one that is written next, and how many are taken. -/
structure Ring (α : Type) (capacity : Nat) where
  slots : Vector α capacity
  next : Nat
  count : Nat

namespace Ring

variable {α : Type} {capacity : Nat} {ring : Ring α capacity} {history : List α}

/-- An element goes into the next slot. -/
def put (ring : Ring α capacity) (element : α) : Ring α capacity where
  slots := ring.slots.setIfInBounds ring.next element
  next := (ring.next + 1) % capacity
  count := min (ring.count + 1) capacity

@[simp] theorem slots_put (ring : Ring α capacity) (element : α) :
    (ring.put element).slots = ring.slots.setIfInBounds ring.next element := rfl

@[simp] theorem next_put (ring : Ring α capacity) (element : α) :
    (ring.put element).next = (ring.next + 1) % capacity := rfl

@[simp] theorem count_put (ring : Ring α capacity) (element : α) :
    (ring.put element).count = min (ring.count + 1) capacity := rfl

/-- The slot of the oldest element. -/
def first (ring : Ring α capacity) : Nat := if ring.count = capacity then ring.next else 0

/-- The elements, the oldest one first. -/
def elements (ring : Ring α capacity) : List α :=
  (List.range ring.count).filterMap fun index => ring.slots[(ring.first + index) % capacity]?

/-- The ring has had these elements put into it: each of the last ones is in the slot that its
number has on the ring. -/
structure Holds (ring : Ring α capacity) (history : List α) : Prop where
  next : ring.next = history.length % capacity
  count : ring.count = min history.length capacity
  recent : ∀ index < history.length, history.length ≤ index + capacity →
    ring.slots[index % capacity]? = history[index]?

theorem Holds.next_lt (hcapacity : 0 < capacity) (h : ring.Holds history) :
    ring.next < capacity := by
  rw [h.next]
  exact Nat.mod_lt _ hcapacity

/-- Fewer than a whole round apart, two numbers have different slots. -/
theorem mod_ne {first second : Nat} (hlt : first < second) (hround : second < first + capacity) :
    first % capacity ≠ second % capacity := by
  intro heq
  have hdvd : capacity ∣ second - first :=
    Nat.dvd_of_mod_eq_zero (Nat.sub_mod_eq_zero_of_mod_eq heq.symm)
  have hle := Nat.le_of_dvd (by omega) hdvd
  omega

theorem Holds.empty (slots : Vector α capacity) : Holds ⟨slots, 0, 0⟩ ([] : List α) where
  next := (Nat.zero_mod _).symm
  count := (Nat.zero_min _).symm
  recent _ h := absurd h (Nat.not_lt_zero _)

/-- What is put in becomes the last element of the history. -/
theorem Holds.put (hcapacity : 0 < capacity) (h : ring.Holds history) (element : α) :
    (ring.put element).Holds (history ++ [element]) where
  next := by
    rw [next_put, h.next, Nat.mod_add_mod, List.length_append, List.length_singleton]
  count := by
    rw [count_put, h.count, List.length_append, List.length_singleton]
    omega
  recent index hindex hrecent := by
    rw [List.length_append, List.length_singleton] at hindex hrecent
    obtain rfl | hlt := Nat.eq_or_lt_of_le (Nat.le_of_lt_succ hindex)
    · -- the element itself
      rw [slots_put, ← h.next, Vector.getElem?_setIfInBounds_self_of_lt (h.next_lt hcapacity),
        List.getElem?_concat_length]
    · have hne : ring.next ≠ index % capacity := by
        rw [h.next]
        exact (mod_ne hlt (by omega)).symm
      rw [slots_put, Vector.getElem?_setIfInBounds_ne hne, List.getElem?_append_left hlt]
      exact h.recent index hlt (by omega)

theorem filterMap_range (list : List α) : ∀ count : Nat,
    (List.range count).filterMap (fun index => list[index]?) = list.take count
  | 0 => rfl
  | count + 1 => by
    rw [List.range_succ, List.filterMap_append, filterMap_range list count, List.take_add_one]
    rfl

/-- The elements are the last ones of the history, in its order. -/
theorem Holds.elements (hcapacity : 0 < capacity) (h : ring.Holds history) :
    ring.elements = history.drop (history.length - capacity) := by
  have hslot : ∀ index < ring.count, ring.slots[(ring.first + index) % capacity]? =
      (history.drop (history.length - capacity))[index]? := by
    intro index hindex
    have hcount := h.count
    rw [List.getElem?_drop, ← h.recent _ (by omega) (by omega), Ring.first]
    split
    · -- every slot is taken
      next hfull =>
      rw [h.next, Nat.mod_add_mod]
      have hsum : history.length + index =
        history.length - capacity + index + capacity := by omega
      rw [hsum, Nat.add_mod_right]
    · next hfree =>
      rw [show history.length - capacity = 0 by omega]
  have hcount : (history.drop (history.length - capacity)).length ≤ ring.count := by
    rw [List.length_drop, h.count]
    omega
  rw [Ring.elements, ← List.take_of_length_le hcount, ← filterMap_range]
  refine List.filterMap_congr fun index hindex => hslot index (List.mem_range.1 hindex)

end Ring

end PlaybackConnector
