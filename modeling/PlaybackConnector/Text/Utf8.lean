import Mathlib

/-!
# Cutting UTF-8

Bytes that encode characters. `IsUtf8.take`: what is before a byte that does not continue a
character encodes characters as well.
-/

namespace PlaybackConnector

/-- The encoding of some characters. -/
def IsUtf8 (bytes : List UInt8) : Prop :=
  ∃ chars : List Char, bytes = chars.flatMap String.utf8EncodeChar

/-- A byte that is not the first one of a character. -/
def isContinuation (byte : UInt8) : Bool := byte &&& 0xC0 = 0x80

variable {bytes front : List UInt8}

theorem isContinuation_ofNat : ∀ n < 64, isContinuation (UInt8.ofNat (n + 0x80)) = true := by
  decide

/-- All bytes of a character but its first one continue it. -/
theorem isContinuation_tail (c : Char) :
    (String.utf8EncodeChar c).tail.all isContinuation = true := by
  have hcontinuation : ∀ n, isContinuation (UInt8.ofNat (n % 64 + 0x80)) = true := fun n =>
    isContinuation_ofNat _ (Nat.mod_lt _ (by decide))
  rw [String.utf8EncodeChar]
  split
  · rfl
  · split
    · simp only [List.tail_cons, List.all_cons, List.all_nil, hcontinuation, Bool.and_self]
    · split
      · simp only [List.tail_cons, List.all_cons, List.all_nil, hcontinuation, Bool.and_self]
      · simp only [List.tail_cons, List.all_cons, List.all_nil, hcontinuation, Bool.and_self]

theorem IsUtf8.append (hfront : IsUtf8 front) (h : IsUtf8 bytes) : IsUtf8 (front ++ bytes) := by
  obtain ⟨chars, rfl⟩ := hfront
  obtain ⟨others, rfl⟩ := h
  exact ⟨chars ++ others, List.flatMap_append.symm⟩

/-- What is before a byte that does not continue a character encodes characters. -/
theorem take_flatMap_utf8 : ∀ (chars : List Char) (count : Nat),
    (∀ byte ∈ (chars.flatMap String.utf8EncodeChar)[count]?, isContinuation byte = false) →
    IsUtf8 ((chars.flatMap String.utf8EncodeChar).take count)
  | [], count, _ => ⟨[], List.take_nil⟩
  | c :: chars, 0, _ => ⟨[], rfl⟩
  | c :: chars, count + 1, hnext => by
    rw [List.flatMap_cons] at hnext ⊢
    obtain hlt | hle := Nat.lt_or_ge (count + 1) (String.utf8EncodeChar c).length
    · -- the next byte is one of the first character's, but not its first one
      rw [List.getElem?_append_left hlt, List.getElem?_eq_getElem hlt] at hnext
      have htail : (String.utf8EncodeChar c)[count + 1] ∈ (String.utf8EncodeChar c).tail := by
        rw [List.mem_iff_getElem]
        exact ⟨count, by rw [List.length_tail]; omega, List.getElem_tail _⟩
      have hcontinuation := List.all_eq_true.1 (isContinuation_tail c) _ htail
      rw [hnext _ rfl] at hcontinuation
      cases hcontinuation
    · rw [List.getElem?_append_right hle] at hnext
      rw [List.take_append, List.take_of_length_le hle]
      exact IsUtf8.append ⟨[c], (List.append_nil _).symm⟩ (take_flatMap_utf8 chars _ hnext)

/-- What is before a byte that does not continue a character encodes characters. -/
theorem IsUtf8.take (h : IsUtf8 bytes) (count : Nat)
    (hnext : ∀ byte ∈ bytes[count]?, isContinuation byte = false) : IsUtf8 (bytes.take count) := by
  obtain ⟨chars, rfl⟩ := h
  exact take_flatMap_utf8 chars count hnext

theorem IsUtf8.of_append {rest : List UInt8} (h : IsUtf8 (front ++ rest))
    (hrest : ∀ byte ∈ rest.head?, isContinuation byte = false) : IsUtf8 front := by
  have htake := h.take front.length fun byte hbyte => hrest byte (by
    rwa [List.getElem?_append_right (Nat.le_refl _), Nat.sub_self, ← List.head?_eq_getElem?]
      at hbyte)
  rwa [List.take_left] at htake

end PlaybackConnector
