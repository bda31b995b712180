import Mathlib

/-!
# Fixed-width layouts

A layout says how the values of a type lie in memory: in exactly `width` bytes, every sequence of
that many bytes being some value. Integers lie least significant byte first, a structure is the
sequence of its fields without padding, and an array is the sequence of its elements.
-/

namespace PlaybackConnector.Wire

/-! ## Little-endian numbers -/

/-- The `width` bytes of a number, the least significant one first. -/
def leBytes : Nat → Nat → List UInt8
  | 0, _ => []
  | width + 1, value => UInt8.ofNat value :: leBytes width (value / 256)

/-- The number that bytes stand for, the least significant one first. -/
def leValue : List UInt8 → Nat
  | [] => 0
  | byte :: rest => byte.toNat + 256 * leValue rest

@[simp] theorem length_leBytes (width value : Nat) : (leBytes width value).length = width := by
  induction width generalizing value with
  | zero => rfl
  | succ width ih => exact congrArg (· + 1) (ih _)

/-- A number that `width` bytes can hold is read back. -/
theorem leValue_leBytes {width value : Nat} (h : value < 256 ^ width) :
    leValue (leBytes width value) = value := by
  induction width generalizing value with
  | zero =>
    have hzero : value = 0 := by simpa using h
    rw [hzero]
    rfl
  | succ width ih =>
    have hrest : value / 256 < 256 ^ width := by
      rw [pow_succ] at h
      exact Nat.div_lt_of_lt_mul (by rwa [mul_comm])
    have hbyte : (UInt8.ofNat value).toNat = value % 256 := UInt8.toNat_ofNat'
    rw [leBytes, leValue, ih hrest, hbyte]
    omega

/-- The bytes of the number that bytes stand for are these bytes. -/
theorem leBytes_leValue (bytes : List UInt8) : leBytes bytes.length (leValue bytes) = bytes := by
  induction bytes with
  | nil => rfl
  | cons byte rest ih =>
    have hbyte : byte.toNat < 256 := byte.toNat_lt
    have hfirst : UInt8.ofNat (byte.toNat + 256 * leValue rest) = byte := by
      apply UInt8.toNat_inj.1
      rw [UInt8.toNat_ofNat']
      omega
    have hrest : (byte.toNat + 256 * leValue rest) / 256 = leValue rest := by omega
    rw [List.length_cons, leValue, leBytes, hfirst, hrest, ih]

theorem leValue_lt (bytes : List UInt8) : leValue bytes < 256 ^ bytes.length := by
  induction bytes with
  | nil => exact Nat.one_pos
  | cons byte rest ih =>
    have hbyte : byte.toNat < 256 := byte.toNat_lt
    rw [leValue, List.length_cons, pow_succ]
    omega

/-! ## Layouts -/

/-- How the values of a type lie in `width` bytes: each of them in one way, and every `width`
bytes are one of them. -/
structure Layout (α : Type*) where
  /-- The bytes that a value takes. -/
  width : Nat
  /-- The bytes of a value. -/
  encode : α → List UInt8
  /-- The value that bytes are read as. -/
  decode : List UInt8 → α
  length_encode : ∀ value, (encode value).length = width
  decode_encode : ∀ value, decode (encode value) = value
  encode_decode : ∀ bytes, bytes.length = width → encode (decode bytes) = bytes

namespace Layout

variable {α β : Type*}

attribute [simp] length_encode decode_encode

/-- An unsigned integer of 16 bits. -/
def uint16 : Layout UInt16 where
  width := 2
  encode value := leBytes 2 value.toNat
  decode bytes := UInt16.ofNat (leValue bytes)
  length_encode value := length_leBytes 2 value.toNat
  decode_encode value := by rw [leValue_leBytes value.toNat_lt, UInt16.ofNat_toNat]
  encode_decode bytes h := by
    have hlt : leValue bytes < 2 ^ 16 := by simpa [h] using leValue_lt bytes
    rw [UInt16.toNat_ofNat_of_lt' hlt, ← h, leBytes_leValue]

/-- An unsigned integer of 32 bits. -/
def uint32 : Layout UInt32 where
  width := 4
  encode value := leBytes 4 value.toNat
  decode bytes := UInt32.ofNat (leValue bytes)
  length_encode value := length_leBytes 4 value.toNat
  decode_encode value := by rw [leValue_leBytes value.toNat_lt, UInt32.ofNat_toNat]
  encode_decode bytes h := by
    have hlt : leValue bytes < 2 ^ 32 := by simpa [h] using leValue_lt bytes
    rw [UInt32.toNat_ofNat_of_lt' hlt, ← h, leBytes_leValue]

/-- An unsigned integer of 64 bits. -/
def uint64 : Layout UInt64 where
  width := 8
  encode value := leBytes 8 value.toNat
  decode bytes := UInt64.ofNat (leValue bytes)
  length_encode value := length_leBytes 8 value.toNat
  decode_encode value := by rw [leValue_leBytes value.toNat_lt, UInt64.ofNat_toNat]
  encode_decode bytes h := by
    have hlt : leValue bytes < 2 ^ 64 := by simpa [h] using leValue_lt bytes
    rw [UInt64.toNat_ofNat_of_lt' hlt, ← h, leBytes_leValue]

/-- One field after another. -/
def prod (first : Layout α) (second : Layout β) : Layout (α × β) where
  width := first.width + second.width
  encode value := first.encode value.1 ++ second.encode value.2
  decode bytes := (first.decode (bytes.take first.width), second.decode (bytes.drop first.width))
  length_encode value := by simp
  decode_encode value := by
    rw [List.take_left' (first.length_encode _), List.drop_left' (first.length_encode _)]
    simp
  encode_decode bytes h := by
    have htake : (bytes.take first.width).length = first.width := by simp [h]
    have hdrop : (bytes.drop first.width).length = second.width := by simp [h]
    rw [first.encode_decode _ htake, second.encode_decode _ hdrop, List.take_append_drop]

/-- The same bytes as values of another type. -/
def map (layout : Layout α) (e : α ≃ β) : Layout β where
  width := layout.width
  encode value := layout.encode (e.symm value)
  decode bytes := e (layout.decode bytes)
  length_encode value := layout.length_encode _
  decode_encode value := by simp
  encode_decode bytes h := by simp [layout.encode_decode bytes h]

/-! ## Arrays -/

variable (layout : Layout α)

/-- The bytes of an array. -/
def encodeAll (values : List α) : List UInt8 := values.flatMap layout.encode

/-- The array of `count` elements that bytes are read as. -/
def decodeAll : Nat → List UInt8 → List α
  | 0, _ => []
  | count + 1, bytes =>
    layout.decode (bytes.take layout.width) :: decodeAll count (bytes.drop layout.width)

@[simp] theorem length_encodeAll (values : List α) :
    (layout.encodeAll values).length = values.length * layout.width := by
  induction values with
  | nil => simp [encodeAll]
  | cons value rest ih =>
    rw [encodeAll, List.flatMap_cons, List.length_append, length_encode, ← encodeAll, ih,
      List.length_cons]
    ring

@[simp] theorem length_decodeAll (count : Nat) (bytes : List UInt8) :
    (layout.decodeAll count bytes).length = count := by
  induction count generalizing bytes with
  | zero => rfl
  | succ count ih => exact congrArg (· + 1) (ih _)

/-- An array is read back. -/
@[simp] theorem decodeAll_encodeAll (values : List α) :
    layout.decodeAll values.length (layout.encodeAll values) = values := by
  induction values with
  | nil => rfl
  | cons value rest ih =>
    have hlength := layout.length_encode value
    rw [List.length_cons, decodeAll, encodeAll, List.flatMap_cons, List.take_left' hlength,
      List.drop_left' hlength, decode_encode, ← encodeAll, ih]

/-- The bytes of the array that bytes are read as are these bytes. -/
theorem encodeAll_decodeAll {count : Nat} {bytes : List UInt8}
    (h : bytes.length = count * layout.width) :
    layout.encodeAll (layout.decodeAll count bytes) = bytes := by
  induction count generalizing bytes with
  | zero =>
    have hnil : bytes = [] := List.length_eq_zero_iff.1 (by simpa using h)
    exact hnil ▸ rfl
  | succ count ih =>
    rw [Nat.add_one_mul] at h
    have htake : (bytes.take layout.width).length = layout.width := by simp [h]
    have hdrop : (bytes.drop layout.width).length = count * layout.width := by simp [h]
    rw [decodeAll, encodeAll, List.flatMap_cons, layout.encode_decode _ htake, ← encodeAll,
      ih hdrop, List.take_append_drop]

end Layout

end PlaybackConnector.Wire
