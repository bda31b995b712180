import PlaybackConnector.Json.Text
import PlaybackConnector.Settings.Codec
import Mathlib

/-!
# The libraries of the codec, as functions

`textLibraries` does what the conversions and the JSON library are documented to do: UTF-16 is read
and written by its surrogate pairs, a unit that stands for no character is replaced by U+FFFD, and
the document is the compact text of `Json.write`. `lawful_textLibraries` is that the codec may rely
on it.
-/

namespace PlaybackConnector.Settings

variable {value : WString}

/-! ## UTF-16 -/

/-- The character of a surrogate pair. -/
def combine (high low : UInt16) : Char :=
  Char.ofNat (0x10000 + (high.toNat - 0xD800) * 0x400 + (low.toNat - 0xDC00))

/-- The characters of a text in UTF-16. -/
def decodeUtf16 : WString → List Char
  | [] => []
  | unit :: rest =>
    if 0xD800 ≤ unit ∧ unit ≤ 0xDBFF then
      match rest with
      | [] => [Char.ofNat 0xFFFD]
      | low :: rest =>
        if low < 0xDC00 ∨ low > 0xDFFF then Char.ofNat 0xFFFD :: decodeUtf16 rest
        else combine unit low :: decodeUtf16 rest
    else if 0xDC00 ≤ unit ∧ unit ≤ 0xDFFF then Char.ofNat 0xFFFD :: decodeUtf16 rest
    else Char.ofNat unit.toNat :: decodeUtf16 rest

/-- The units of a character. -/
def encodeChar (c : Char) : WString :=
  if c.toNat < 0x10000 then [c.toNat.toUInt16]
  else [(0xD800 + (c.toNat - 0x10000) / 0x400).toUInt16,
    (0xDC00 + (c.toNat - 0x10000) % 0x400).toUInt16]

theorem toNat_ofNat {n : Nat} (h : n.isValidChar) : (Char.ofNat n).toNat = n := by
  rw [Char.ofNat, dif_pos h]
  rfl

theorem encodeChar_unit {unit : UInt16} (hhigh : ¬ (0xD800 ≤ unit ∧ unit ≤ 0xDBFF))
    (hlow : ¬ (0xDC00 ≤ unit ∧ unit ≤ 0xDFFF)) :
    encodeChar (Char.ofNat unit.toNat) = [unit] := by
  have hlt := unit.toNat_lt
  have hvalid : unit.toNat.isValidChar := by
    simp only [UInt16.le_iff_toNat_le, UInt16.reduceToNat] at hhigh hlow
    unfold Nat.isValidChar
    omega
  rw [encodeChar, toNat_ofNat hvalid, if_pos (by omega)]
  simp

theorem encodeChar_combine {high low : UInt16} (hhigh : 0xD800 ≤ high ∧ high ≤ 0xDBFF)
    (hlow : ¬ (low < 0xDC00 ∨ low > 0xDFFF)) :
    encodeChar (combine high low) = [high, low] := by
  simp only [UInt16.le_iff_toNat_le, UInt16.lt_iff_toNat_lt, UInt16.reduceToNat, gt_iff_lt]
    at hhigh hlow
  have hvalid : (0x10000 + (high.toNat - 0xD800) * 0x400 + (low.toNat - 0xDC00)).isValidChar := by
    unfold Nat.isValidChar
    omega
  have hfirst : 0xD800 + (0x10000 + (high.toNat - 0xD800) * 0x400 + (low.toNat - 0xDC00) -
      0x10000) / 0x400 = high.toNat := by
    omega
  have hsecond : 0xDC00 + (0x10000 + (high.toNat - 0xD800) * 0x400 + (low.toNat - 0xDC00) -
      0x10000) % 0x400 = low.toNat := by
    omega
  rw [encodeChar, combine, toNat_ofNat hvalid, if_neg (by omega), hfirst, hsecond]
  simp

/-- Valid UTF-16 is read and written back. -/
theorem encode_decodeUtf16 : ∀ {value : WString}, isValidUtf16 value = true →
    (decodeUtf16 value).flatMap encodeChar = value
  | [], _ => rfl
  | unit :: rest, h => by
    unfold isValidUtf16 at h
    unfold decodeUtf16
    split
    · rename_i hhigh
      rw [if_pos hhigh] at h
      cases rest with
      | nil => cases h
      | cons low rest =>
        simp only at h ⊢
        split
        · rename_i hlow
          rw [if_pos hlow] at h
          cases h
        · rename_i hlow
          rw [if_neg hlow] at h
          rw [List.flatMap_cons, encodeChar_combine hhigh hlow, encode_decodeUtf16 h]
          rfl
    · rename_i hhigh
      rw [if_neg hhigh] at h
      split
      · rename_i hlow
        rw [if_pos hlow] at h
        cases h
      · rename_i hlow
        rw [if_neg hlow] at h
        rw [List.flatMap_cons, encodeChar_unit hhigh hlow, encode_decodeUtf16 h]
        rfl

theorem length_decodeUtf16 : ∀ value : WString, (decodeUtf16 value).length ≤ value.length
  | [] => Nat.le_refl _
  | unit :: rest => by
    unfold decodeUtf16
    split
    · cases rest with
      | nil => simp
      | cons low rest =>
        have hrest := length_decodeUtf16 rest
        simp only
        split <;> (simp only [List.length_cons]; omega)
    · have hrest := length_decodeUtf16 rest
      split <;> (simp only [List.length_cons]; omega)

theorem flatMap_encodeChar_ascii {text : List Char} (h : ∀ c ∈ text, c.toNat < 128) :
    text.flatMap encodeChar = text.map fun c => c.toNat.toUInt16 := by
  induction text with
  | nil => rfl
  | cons c text ih =>
    have hc := h c List.mem_cons_self
    rw [List.flatMap_cons, ih fun c hc => h c (List.mem_cons_of_mem _ hc), encodeChar,
      if_pos (by omega)]
    rfl

/-! ## The libraries -/

/-- The conversions and the JSON library, as they are documented. -/
def textLibraries : TextLibraries where
  toString value := some (String.ofList (decodeUtf16 value))
  toHstring text := text.toList.flatMap encodeChar
  dump json := some (String.ofList json.write).toByteArray
  parse bytes := (String.fromUTF8? bytes).bind fun text => Json.read text.toList

theorem lawful_textLibraries : textLibraries.Lawful where
  toString_isSome _ _ := rfl
  toHstring_toString value text hvalid h := by
    cases h
    show (String.ofList (decodeUtf16 value)).toList.flatMap encodeChar = value
    rw [String.toList_ofList, encode_decodeUtf16 hvalid]
  toString_length value text _ h := by
    cases h
    rw [String.length_ofList]
    exact length_decodeUtf16 value
  toHstring_ascii text h := by
    exact flatMap_encodeChar_ascii h
  dump_isSome _ _ := rfl
  dump_size json bytes hjson h := by
    cases h
    rw [String.toByteArray_ofList, Json.size_utf8Encode]
    exact Json.utf8Size_write json hjson
  parse_dump json bytes hjson h := by
    cases h
    have htext : String.fromUTF8? (String.ofList json.write).toByteArray =
        some (String.ofList json.write) := by
      rw [String.fromUTF8?, dif_pos (String.ofList json.write).isValidUTF8]
      rfl
    show (String.fromUTF8? _).bind _ = some json
    rw [htext, Option.bind_some, String.toList_ofList, Json.read_write hjson]
  parse_empty bytes h := by
    rw [ByteArray.size_eq_zero_iff.1 h]
    rfl

end PlaybackConnector.Settings
