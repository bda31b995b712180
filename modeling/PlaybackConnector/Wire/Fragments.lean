import Mathlib

/-!
# Streams that arrive in fragments

A stream is read in pieces: a read returns what has arrived, no more than was asked for, and what
does not fit is left for the next one. The sequence of elements does not depend on the pieces.
-/

namespace PlaybackConnector.Wire

variable {α : Type*} {fragments rest : List (List α)} {part : List α} {count : Nat}

/-- One read of at most `count` elements. -/
def readFragment (count : Nat) : List (List α) → Option (List α × List (List α))
  | [] => none
  | fragment :: rest =>
    if fragment.length ≤ count then some (fragment, rest)
    else some (fragment.take count, fragment.drop count :: rest)

/-- A read takes a prefix of the stream. -/
theorem readFragment_flatten (h : readFragment count fragments = some (part, rest)) :
    part ++ rest.flatten = fragments.flatten ∧ part.length ≤ count := by
  cases fragments with
  | nil => cases h
  | cons fragment others =>
    simp only [readFragment] at h
    split at h
    · next hfits =>
      cases h
      exact ⟨rfl, hfits⟩
    · next hexceeds =>
      cases h
      constructor
      · rw [List.flatten_cons, ← List.append_assoc, List.take_append_drop, List.flatten_cons]
      · exact List.length_take_le _ _

/-- A stream whose fragments all hold something: a read of it is never empty. -/
def Proper (fragments : List (List α)) : Prop := ∀ fragment ∈ fragments, fragment ≠ []

/-- A proper stream stays proper. -/
theorem Proper.read (hproper : Proper fragments) (hcount : 0 < count)
    (h : readFragment count fragments = some (part, rest)) : part ≠ [] ∧ Proper rest := by
  cases fragments with
  | nil => cases h
  | cons fragment others =>
    have hothers : Proper others := fun other hmem => hproper other (List.mem_cons_of_mem _ hmem)
    have hfragment := hproper fragment List.mem_cons_self
    simp only [readFragment] at h
    split at h
    · cases h
      exact ⟨hfragment, hothers⟩
    · next hexceeds =>
      cases h
      constructor
      · intro hnil
        rcases List.take_eq_nil_iff.1 hnil with hzero | hempty
        · omega
        · exact hfragment hempty
      · intro other hmem
        rcases List.mem_cons.1 hmem with rfl | hmem
        · intro hnil
          have hlength := List.drop_eq_nil_iff.1 hnil
          omega
        · exact hothers other hmem

/-- A stream that still has elements can be read. -/
theorem readFragment_eq_none (h : readFragment count fragments = none) :
    fragments.flatten = [] := by
  cases fragments with
  | nil => rfl
  | cons fragment others =>
    simp only [readFragment] at h
    split at h <;> cases h

end PlaybackConnector.Wire
