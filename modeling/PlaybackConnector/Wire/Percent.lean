import Mathlib

/-!
# Percent-encoding

Bytes as text of 16-bit units: an unreserved ASCII character stands for itself, and every byte may
be written as `%` and its two hexadecimal digits (`IsEscaped`). `percentDecode_percentEncode`: what
is encoded is decoded.
-/

namespace PlaybackConnector

/-- The character `%`. -/
def percentSign : UInt16 := 37

/-- A letter, a digit, or one of `-._~`. -/
def isUnreserved (unit : UInt16) : Bool :=
  (48 ≤ unit && unit ≤ 57) || (65 ≤ unit && unit ≤ 90) || (97 ≤ unit && unit ≤ 122) ||
    unit == 45 || unit == 46 || unit == 95 || unit == 126

/-- A hexadecimal digit. -/
def hexDigit (value : Nat) : UInt16 :=
  (if value < 10 then 48 + value else 55 + value).toUInt16

/-- The value of a hexadecimal digit. -/
def hexDigitValue (unit : UInt16) : Option Nat :=
  if 48 ≤ unit ∧ unit ≤ 57 then some (unit.toNat - 48)
  else if 65 ≤ unit ∧ unit ≤ 70 then some (unit.toNat - 55)
  else if 97 ≤ unit ∧ unit ≤ 102 then some (unit.toNat - 87)
  else none

/-- Nothing but unreserved characters and `%` with two hexadecimal digits. -/
inductive IsEscaped : List UInt16 → Prop
  | nil : IsEscaped []
  | unreserved {unit : UInt16} {rest : List UInt16} (hunit : isUnreserved unit = true)
    (hrest : IsEscaped rest) : IsEscaped (unit :: rest)
  | percent {high low : UInt16} {rest : List UInt16} (hhigh : (hexDigitValue high).isSome)
    (hlow : (hexDigitValue low).isSome) (hrest : IsEscaped rest) :
    IsEscaped (percentSign :: high :: low :: rest)

/-- A byte as an unreserved character, if it is one, or by its digits. -/
def percentEncodeByte (byte : UInt8) : List UInt16 :=
  if isUnreserved byte.toUInt16 then [byte.toUInt16]
  else [percentSign, hexDigit (byte.toNat / 16), hexDigit (byte.toNat % 16)]

/-- Bytes as text. -/
def percentEncode (bytes : List UInt8) : List UInt16 := bytes.flatMap percentEncodeByte

/-- The bytes of a text, if it is ASCII and its escapes are complete. -/
def percentDecode : List UInt16 → Option (List UInt8)
  | [] => some []
  | unit :: rest =>
    if unit = percentSign then
      match rest with
      | high :: low :: rest => do
        let high ← hexDigitValue high
        let low ← hexDigitValue low
        let bytes ← percentDecode rest
        return (high * 16 + low).toUInt8 :: bytes
      | _ => none
    else if unit < 128 then (percentDecode rest).map (unit.toUInt8 :: ·)
    else none

section
variable {unit : UInt16} {text : List UInt16}

theorem hexDigitValue_hexDigit : ∀ value < 16, hexDigitValue (hexDigit value) = some value := by
  decide

theorem isUnreserved_bounds (h : isUnreserved unit = true) :
    unit.toNat < 128 ∧ unit.toNat ≠ 37 ∧ unit.toNat ≠ 38 ∧ unit.toNat ≠ 43 ∧ unit.toNat ≠ 61 := by
  simp only [isUnreserved, Bool.or_eq_true, Bool.and_eq_true, decide_eq_true_eq, beq_iff_eq,
    UInt16.le_iff_toNat_le, ← UInt16.toNat_inj] at h
  simp only [UInt16.reduceToNat] at h
  omega

theorem hexDigitValue_bounds (h : (hexDigitValue unit).isSome) :
    unit.toNat ≠ 38 ∧ unit.toNat ≠ 43 ∧ unit.toNat ≠ 61 := by
  unfold hexDigitValue at h
  simp only [UInt16.le_iff_toNat_le, UInt16.reduceToNat] at h
  split_ifs at h
  · omega
  · omega
  · omega
  · cases h

/-- There is none of `&`, `+` and `=` in an escaped text. -/
theorem IsEscaped.plain (h : IsEscaped text) :
    ∀ unit ∈ text, unit ≠ 38 ∧ unit ≠ 43 ∧ unit ≠ 61 := by
  have hplain : ∀ {unit : UInt16}, unit.toNat ≠ 38 ∧ unit.toNat ≠ 43 ∧ unit.toNat ≠ 61 →
      unit ≠ 38 ∧ unit ≠ 43 ∧ unit ≠ 61 := by
    rintro unit ⟨hamp, hplus, heq⟩
    refine ⟨?_, ?_, ?_⟩ <;> rintro rfl
    · exact hamp rfl
    · exact hplus rfl
    · exact heq rfl
  induction h with
  | nil => simp
  | unreserved hunit _ ih =>
    obtain ⟨-, -, hbounds⟩ := isUnreserved_bounds hunit
    exact List.forall_mem_cons.2 ⟨hplain hbounds, ih⟩
  | percent hhigh hlow _ ih =>
    exact List.forall_mem_cons.2 ⟨by decide, List.forall_mem_cons.2
      ⟨hplain (hexDigitValue_bounds hhigh), List.forall_mem_cons.2
        ⟨hplain (hexDigitValue_bounds hlow), ih⟩⟩⟩

theorem isEscaped_percentEncode (bytes : List UInt8) : IsEscaped (percentEncode bytes) := by
  induction bytes with
  | nil => exact .nil
  | cons byte bytes ih =>
    have hlt := byte.toNat_lt
    rw [percentEncode, List.flatMap_cons, percentEncodeByte]
    split_ifs with hunreserved
    · exact .unreserved hunreserved ih
    · refine .percent ?_ ?_ ih
      · rw [hexDigitValue_hexDigit _ (by omega)]
        rfl
      · rw [hexDigitValue_hexDigit _ (by omega)]
        rfl

theorem percentDecode_plain (text : List UInt16) (hne : unit ≠ percentSign)
    (hascii : unit < 128) :
    percentDecode (unit :: text) = (percentDecode text).map (unit.toUInt8 :: ·) := by
  rw [percentDecode.eq_def]
  simp [hne, hascii]

theorem percentDecode_digits (text : List UInt16) {high low : UInt16} {highValue lowValue : Nat}
    (hhigh : hexDigitValue high = some highValue) (hlow : hexDigitValue low = some lowValue) :
    percentDecode (percentSign :: high :: low :: text) =
      (percentDecode text).map ((highValue * 16 + lowValue).toUInt8 :: ·) := by
  rw [percentDecode.eq_def]
  dsimp only
  rw [if_pos rfl, hhigh, hlow]
  cases percentDecode text <;> rfl

/-- What is encoded is decoded. -/
theorem percentDecode_percentEncode (bytes : List UInt8) :
    percentDecode (percentEncode bytes) = some bytes := by
  induction bytes with
  | nil => rfl
  | cons byte bytes ih =>
    have hlt := byte.toNat_lt
    rw [percentEncode, List.flatMap_cons, percentEncodeByte]
    split_ifs with hunreserved
    · obtain ⟨hascii, hpercent, -⟩ := isUnreserved_bounds hunreserved
      have hne : byte.toUInt16 ≠ percentSign := fun heq => hpercent (by rw [heq]; rfl)
      have hstep := percentDecode_plain (percentEncode bytes) hne
        (UInt16.lt_iff_toNat_lt.2 hascii)
      rw [ih] at hstep
      simpa [percentEncode] using hstep
    · have hstep := percentDecode_digits (percentEncode bytes)
        (hexDigitValue_hexDigit (byte.toNat / 16) (by omega))
        (hexDigitValue_hexDigit (byte.toNat % 16) (by omega))
      have hbyte : byte.toNat / 16 * 16 + byte.toNat % 16 = byte.toNat := by omega
      rw [ih, hbyte] at hstep
      simpa [percentEncode] using hstep

end

end PlaybackConnector
