import PlaybackConnector.Json.Value
import Mathlib

/-!
# The compact text of a JSON value

`write` is the text without blanks, its strings escaped, and `read` the recursive-descent reader of
such texts. `read_write`: a canonical value is read back as it was written. Every text ends where
the reader can see it, a number excepted, which must not be followed by a digit (`Ends`); the
length of the text is fuel enough, since each call of the reader consumes a character.

`utf8Size_write`: the text has at most `textBound` bytes of UTF-8.
-/

namespace PlaybackConnector.Json

/-! ## Strings -/

/-- The character `"`. -/
def quote : Char := Char.ofNat 34

/-- The character `\`. -/
def backslash : Char := Char.ofNat 92

/-- The escapes of two characters: each character with the letter that stands for it. -/
def shortEscapes : List (Char × Char) :=
  [(quote, quote), (backslash, backslash), (Char.ofNat 8, 'b'), (Char.ofNat 12, 'f'),
    (Char.ofNat 10, 'n'), (Char.ofNat 13, 'r'), (Char.ofNat 9, 't')]

/-- A character of a string: a control character is written by its number. -/
def writeChar (c : Char) : List Char :=
  match shortEscapes.lookup c with
  | some letter => [backslash, letter]
  | none =>
    if c.toNat < 32 then
      [backslash, 'u', '0', '0', Nat.digitChar (c.toNat / 16), Nat.digitChar (c.toNat % 16)]
    else [c]

/-- The value of a hexadecimal digit. -/
def hexValue (c : Char) : Nat :=
  if c.toNat < 58 then c.toNat - 48 else c.toNat - 87

/-- The character that a letter stands for after a backslash. -/
def unescape (letter : Char) : Option Char :=
  (shortEscapes.find? fun escape => escape.2 = letter).map Prod.fst

/-- The characters of a string, from after its opening quote. -/
def readChars : List Char → Option (List Char × List Char)
  | [] => none
  | c :: rest =>
    if c = quote then some ([], rest)
    else if c = backslash then
      match rest with
      | [] => none
      | letter :: rest =>
        match unescape letter with
        | some c => (readChars rest).map fun read => (c :: read.1, read.2)
        | none =>
          match rest with
          | _ :: _ :: a :: b :: rest => (readChars rest).map fun read =>
            (Char.ofNat (hexValue a * 16 + hexValue b) :: read.1, read.2)
          | _ => none
    else (readChars rest).map fun read => (c :: read.1, read.2)

/-- A string with its quotes. -/
def writeString (text : String) : List Char :=
  quote :: (text.toList.flatMap writeChar ++ [quote])

theorem unescape_escape : ∀ escape ∈ shortEscapes, unescape escape.2 = some escape.1 := by
  decide

theorem hexValue_digitChar : ∀ n < 16, hexValue (Nat.digitChar n) = n := by
  decide

theorem backslash_ne_quote : backslash ≠ quote := by decide

theorem readChars_quote (rest : List Char) : readChars (quote :: rest) = some ([], rest) := by
  rw [readChars.eq_def]
  simp

theorem readChars_plain {c : Char} (hquote : c ≠ quote) (hbackslash : c ≠ backslash)
    (rest : List Char) :
    readChars (c :: rest) = (readChars rest).map fun read => (c :: read.1, read.2) := by
  rw [readChars.eq_def]
  simp [hquote, hbackslash]

theorem readChars_escape {c letter : Char} (h : unescape letter = some c) (rest : List Char) :
    readChars (backslash :: letter :: rest) =
      (readChars rest).map fun read => (c :: read.1, read.2) := by
  rw [readChars.eq_def]
  simp [backslash_ne_quote, h]

theorem readChars_writeChar (c : Char) (rest : List Char) :
    readChars (writeChar c ++ rest) = (readChars rest).map fun read => (c :: read.1, read.2) := by
  unfold writeChar
  split
  · rename_i letter hletter
    obtain ⟨before, after, heq, -⟩ := List.lookup_eq_some_iff.1 hletter
    have hback : unescape letter = some c := unescape_escape (c, letter) (by simp [heq])
    exact readChars_escape hback rest
  · rename_i hnone
    have hplain := List.lookup_eq_none_iff.1 hnone
    have hquote : c ≠ quote := by simpa using hplain (quote, quote) (by simp [shortEscapes])
    have hbackslash : c ≠ backslash := by
      simpa using hplain (backslash, backslash) (by simp [shortEscapes])
    split
    · rename_i hcontrol
      have hhigh := hexValue_digitChar (c.toNat / 16) (by omega)
      have hlow := hexValue_digitChar (c.toNat % 16) (by omega)
      have hcode : c.toNat / 16 * 16 + c.toNat % 16 = c.toNat := by omega
      have hletter : unescape 'u' = none := by decide
      simp [readChars, backslash_ne_quote, hletter, hhigh, hlow, hcode]
    · exact readChars_plain hquote hbackslash rest

theorem readChars_write (text rest : List Char) :
    readChars (text.flatMap writeChar ++ quote :: rest) = some (text, rest) := by
  induction text with
  | nil => exact readChars_quote rest
  | cons c text ih =>
    rw [List.flatMap_cons, List.append_assoc, readChars_writeChar, ih]
    rfl

/-! ## Numbers -/

/-- An integer in decimal. -/
def writeInteger (value : Int) : List Char :=
  if value < 0 then '-' :: Nat.toDigits 10 value.natAbs else Nat.toDigits 10 value.natAbs

/-- A text that does not go on with a digit. -/
def Ends (rest : List Char) : Prop := ∀ c ∈ rest.head?, c.isDigit = false

/-- The digits at the head of a text, as a number, and what comes after them. -/
def readDigits (text : List Char) : Option (Nat × List Char) :=
  if text.takeWhile Char.isDigit = [] then none
  else some (Nat.ofDigitChars 10 (text.takeWhile Char.isDigit) 0, text.dropWhile Char.isDigit)

/-- An integer. -/
def readInteger (text : List Char) : Option (Int × List Char) :=
  match text with
  | '-' :: rest => (readDigits rest).map fun read => (-(read.1 : Int), read.2)
  | _ => (readDigits text).map fun read => ((read.1 : Int), read.2)

theorem readDigits_toDigits (n : Nat) {rest : List Char} (h : Ends rest) :
    readDigits (Nat.toDigits 10 n ++ rest) = some (n, rest) := by
  have hdigits : ∀ c ∈ Nat.toDigits 10 n, c.isDigit = true := fun c hc =>
    Nat.isDigit_of_mem_toDigits (by omega) (by omega) hc
  have htake : rest.takeWhile Char.isDigit = [] := by
    cases rest with
    | nil => rfl
    | cons c rest => simp [h c rfl]
  have hdrop : rest.dropWhile Char.isDigit = rest := by
    cases rest with
    | nil => rfl
    | cons c rest => simp [h c rfl]
  have hne : Nat.toDigits 10 n ≠ [] := Nat.toDigits_ne_nil
  simp [readDigits, List.takeWhile_append_of_pos hdigits, List.dropWhile_append_of_pos hdigits,
    htake, hdrop, hne]

theorem readInteger_write (value : Int) {rest : List Char} (h : Ends rest) :
    readInteger (writeInteger value ++ rest) = some (value, rest) := by
  unfold writeInteger
  split
  · rename_i hnegative
    have hvalue : -(value.natAbs : Int) = value := by omega
    simp only [List.cons_append, readInteger, readDigits_toDigits _ h, Option.map_some, hvalue]
  · rename_i hnonneg
    have hhead : ∀ digits, Nat.toDigits 10 value.natAbs ++ rest ≠ '-' :: digits := by
      intro digits heq
      cases hlist : Nat.toDigits 10 value.natAbs with
      | nil => exact Nat.toDigits_ne_nil hlist
      | cons c cs =>
        have hdigit : c.isDigit = true :=
          Nat.isDigit_of_mem_toDigits (by omega) (by omega) (hlist ▸ List.mem_cons_self)
        rw [hlist, List.cons_append, List.cons.injEq] at heq
        rw [heq.1] at hdigit
        exact absurd hdigit (by decide)
    unfold readInteger
    split
    · rename_i heq
      exact absurd heq (hhead _)
    · simp [readDigits_toDigits _ h]
      omega

/-! ## Values -/

mutual

/-- The compact text of a value. A number that is not an integer is written as one that is not
finite is. -/
def write : Json → List Char
  | null => "null".toList
  | bool true => "true".toList
  | bool false => "false".toList
  | integer value => writeInteger value
  | float _ => "null".toList
  | string text => writeString text
  | array [] => ['[', ']']
  | array (element :: rest) => '[' :: (write element ++ writeElements rest)
  | object [] => [Char.ofNat 123, Char.ofNat 125]
  | object ((key, value) :: rest) =>
    Char.ofNat 123 :: (writeString key ++ ':' :: (write value ++ writeMembers rest))

/-- The elements after the first, and the closing bracket. -/
def writeElements : List Json → List Char
  | [] => [']']
  | element :: rest => ',' :: (write element ++ writeElements rest)

/-- The members after the first, and the closing brace. -/
def writeMembers : List (String × Json) → List Char
  | [] => [Char.ofNat 125]
  | (key, value) :: rest => ',' :: (writeString key ++ ':' :: (write value ++ writeMembers rest))

end

mutual

/-- The value at the head of a text, and what comes after it. -/
def readValue : Nat → List Char → Option (Json × List Char)
  | 0, _ => none
  | _, [] => none
  | fuel + 1, c :: rest =>
    if c = quote then (readChars rest).map fun read => (string (String.ofList read.1), read.2)
    else if c = '[' then
      if rest.head? = some ']' then some (array [], rest.tail)
      else (readElements fuel rest).map fun read => (array read.1, read.2)
    else if c = Char.ofNat 123 then
      if rest.head? = some (Char.ofNat 125) then some (object [], rest.tail)
      else (readMembers fuel rest).map fun read => (object read.1, read.2)
    else if c = 'n' then some (null, rest.drop 3)
    else if c = 't' then some (bool true, rest.drop 3)
    else if c = 'f' then some (bool false, rest.drop 4)
    else (readInteger (c :: rest)).map fun read => (integer read.1, read.2)

/-- The elements of an array up to the closing bracket. -/
def readElements : Nat → List Char → Option (List Json × List Char)
  | 0, _ => none
  | fuel + 1, text =>
    match readValue fuel text with
    | some (element, ',' :: rest) =>
      (readElements fuel rest).map fun read => (element :: read.1, read.2)
    | some (element, ']' :: rest) => some ([element], rest)
    | _ => none

/-- The members of an object up to the closing brace. -/
def readMembers : Nat → List Char → Option (List (String × Json) × List Char)
  | 0, _ => none
  | fuel + 1, text =>
    match readChars text.tail with
    | some (key, ':' :: rest) =>
      match readValue fuel rest with
      | some (value, c :: rest) =>
        if c = ',' then
          (readMembers fuel rest).map fun read => ((String.ofList key, value) :: read.1, read.2)
        else if c = Char.ofNat 125 then some ([(String.ofList key, value)], rest)
        else none
      | _ => none
    | _ => none

end

theorem ends_cons {c : Char} (rest : List Char) (h : c.isDigit = false) : Ends (c :: rest) := by
  rintro _ ⟨⟩
  exact h

theorem writeInteger_head (value : Int) :
    ∃ c rest, writeInteger value = c :: rest ∧ (c = '-' ∨ c.isDigit = true) := by
  unfold writeInteger
  split
  · exact ⟨_, _, rfl, .inl rfl⟩
  · cases hdigits : Nat.toDigits 10 value.natAbs with
    | nil => exact absurd hdigits Nat.toDigits_ne_nil
    | cons c rest =>
      refine ⟨c, rest, rfl, .inr ?_⟩
      exact Nat.isDigit_of_mem_toDigits (b := 10) (n := value.natAbs) (by omega) (by omega)
        (hdigits ▸ List.mem_cons_self)

/-- No value starts with a closing bracket. -/
theorem write_head (value : Json) (rest : List Char) :
    (write value ++ rest).head? ≠ some ']' := by
  cases value with
  | bool enabled => cases enabled <;> simp [write]
  | integer value =>
    obtain ⟨c, digits, heq, hc⟩ := writeInteger_head value
    rw [write, heq]
    rintro ⟨⟩
    exact absurd hc (by decide)
  | array elements => cases elements <;> simp [write]
  | object members =>
    rcases members with - | ⟨⟨key, value⟩, members⟩ <;> simp [write]
  | string text => simp [write, writeString, quote]
  | null | float => simp [write]

theorem tail_writeString (text : String) (rest : List Char) :
    (writeString text ++ rest).tail = text.toList.flatMap writeChar ++ quote :: rest := by
  simp [writeString]

theorem readValue_string (text : String) (fuel : Nat) (rest : List Char) :
    readValue (fuel + 1) (writeString text ++ rest) = some (string text, rest) := by
  have hchars := readChars_write text.toList rest
  simp [writeString, readValue, hchars]

theorem readValue_integer (value : Int) (fuel : Nat) {rest : List Char} (h : Ends rest) :
    readValue (fuel + 1) (writeInteger value ++ rest) = some (integer value, rest) := by
  have hread := readInteger_write value h
  obtain ⟨c, digits, heq, hc⟩ := writeInteger_head value
  rw [heq] at hread ⊢
  have hne {c' : Char} (h' : c' ≠ '-' ∧ c'.isDigit = false) : c ≠ c' := by
    rintro rfl
    simp [h'] at hc
  rw [List.cons_append, readValue, if_neg (hne (by decide)), if_neg (hne (by decide)),
    if_neg (hne (by decide)), if_neg (hne (by decide)), if_neg (hne (by decide)),
    if_neg (hne (by decide)), ← List.cons_append, hread]
  rfl

mutual

/-- A canonical value is read back as it was written, whatever comes after it. -/
theorem readValue_write : ∀ (value : Json) (fuel : Nat) (rest : List Char), value.Canonical →
    (write value).length < fuel → Ends rest →
    readValue fuel (write value ++ rest) = some (value, rest)
  | _, 0, _, _, hfuel, _ => by omega
  | null, fuel + 1, rest, _, _, _ => by simp [write, readValue, quote]
  | bool true, fuel + 1, rest, _, _, _ => by simp [write, readValue, quote]
  | bool false, fuel + 1, rest, _, _, _ => by simp [write, readValue, quote]
  | integer value, fuel + 1, rest, _, _, hrest => by
    rw [write]
    exact readValue_integer value fuel hrest
  | float _, _ + 1, _, h, _, _ => h.elim
  | string text, fuel + 1, rest, _, _, _ => by
    rw [write]
    exact readValue_string text fuel rest
  | array [], fuel + 1, rest, _, _, _ => by simp [write, readValue, quote]
  | array (element :: elements), fuel + 1, rest, h, hfuel, _ => by
    have hhead := write_head element (writeElements elements ++ rest)
    have hread := readElements_write element elements fuel rest h.1 h.2
      (by simp only [write, List.length_cons] at hfuel; omega)
    rw [List.append_assoc] at hread
    rw [write, List.cons_append, List.append_assoc, readValue]
    simp only [hhead, hread]
    simp [quote]
  | object [], fuel + 1, rest, _, _, _ => by simp [write, readValue, quote]
  | object ((key, value) :: members), fuel + 1, rest, h, hfuel, _ => by
    have hread := readMembers_write key value members fuel rest h.2.1 h.2.2
      (by simp only [write, List.length_cons] at hfuel; omega)
    have hhead : (writeString key ++ ':' :: (write value ++ writeMembers members) ++ rest).head? ≠
        some (Char.ofNat 125) := by
      simp [writeString, quote]
    rw [write, List.cons_append, readValue]
    simp only [hhead, hread]
    simp [quote]

theorem readElements_write : ∀ (element : Json) (elements : List Json) (fuel : Nat)
    (rest : List Char), element.Canonical → CanonicalElements elements →
    (write element ++ writeElements elements).length < fuel →
    readElements fuel (write element ++ writeElements elements ++ rest) =
      some (element :: elements, rest)
  | _, _, 0, _, _, _, hfuel => by omega
  | element, [], fuel + 1, rest, h, _, hfuel => by
    have hread := readValue_write element fuel (']' :: rest) h
      (by simp only [writeElements, List.length_append, List.length_singleton] at hfuel; omega)
      (ends_cons rest (by decide))
    simp [readElements, writeElements, hread]
  | element, next :: elements, fuel + 1, rest, h, hnext, hfuel => by
    simp only [writeElements, List.length_append, List.length_cons] at hfuel
    have hread := readValue_write element fuel
      (',' :: (write next ++ writeElements elements ++ rest)) h (by omega)
      (ends_cons _ (by decide))
    have hrest := readElements_write next elements fuel rest hnext.1 hnext.2
      (by simp only [List.length_append]; omega)
    rw [List.append_assoc] at hread hrest
    simp [readElements, writeElements, hread, hrest]

theorem readMembers_write : ∀ (key : String) (value : Json) (members : List (String × Json))
    (fuel : Nat) (rest : List Char), value.Canonical → CanonicalMembers members →
    (writeString key ++ ':' :: (write value ++ writeMembers members)).length < fuel →
    readMembers fuel (writeString key ++ ':' :: (write value ++ writeMembers members) ++ rest) =
      some ((key, value) :: members, rest)
  | _, _, _, 0, _, _, _, hfuel => by omega
  | key, value, [], fuel + 1, rest, h, _, hfuel => by
    simp only [writeMembers, List.length_append, List.length_cons] at hfuel
    have hchars := readChars_write key.toList (':' :: (write value ++ Char.ofNat 125 :: rest))
    have hread := readValue_write value fuel (Char.ofNat 125 :: rest) h (by omega)
      (ends_cons rest (by decide))
    simp [readMembers, writeMembers, writeString, hchars, hread]
  | key, value, (key', next) :: members, fuel + 1, rest, h, hnext, hfuel => by
    simp only [writeMembers, List.length_append, List.length_cons] at hfuel
    have hread := readValue_write value fuel
      (',' :: (writeString key' ++ ':' :: (write next ++ writeMembers members) ++ rest)) h
      (by omega) (ends_cons _ (by decide))
    have hchars := readChars_write key.toList (':' :: (write value ++
      ',' :: (writeString key' ++ ':' :: (write next ++ writeMembers members) ++ rest)))
    have hrest := readMembers_write key' next members fuel rest hnext.1 hnext.2
      (by simp only [List.length_append, List.length_cons]; omega)
    simp only [List.append_assoc, List.cons_append] at hread hchars hrest
    simp only [readMembers, writeMembers, List.append_assoc, List.cons_append, tail_writeString,
      hchars, hread, hrest]
    simp

end

/-- The value that a text is. -/
def read (text : List Char) : Option Json :=
  match readValue (text.length + 1) text with
  | some (value, []) => some value
  | _ => none

/-- A canonical value is read back as it was written. -/
theorem read_write {value : Json} (h : value.Canonical) : read (write value) = some value := by
  have hread := readValue_write value ((write value).length + 1) [] h (by omega) (by simp [Ends])
  rw [List.append_nil] at hread
  simp [read, hread]

/-! ## The size of the text -/

/-- The bytes of a text in UTF-8. -/
def utf8Size (text : List Char) : Nat := (text.map Char.utf8Size).sum

@[simp] theorem utf8Size_nil : utf8Size [] = 0 := rfl

@[simp] theorem utf8Size_cons (c : Char) (text : List Char) :
    utf8Size (c :: text) = c.utf8Size + utf8Size text := by
  simp [utf8Size]

@[simp] theorem utf8Size_append (left right : List Char) :
    utf8Size (left ++ right) = utf8Size left + utf8Size right := by
  simp [utf8Size]

theorem size_utf8Encode (text : List Char) : text.utf8Encode.size = utf8Size text := by
  induction text with
  | nil => simp
  | cons c text ih =>
    rw [List.utf8Encode_cons, ByteArray.size_append, ih, List.utf8Encode_singleton]
    simp

theorem utf8Size_ascii {text : List Char} (h : ∀ c ∈ text, c.toNat < 128) :
    utf8Size text = text.length := by
  induction text with
  | nil => rfl
  | cons c text ih =>
    have hc : c.utf8Size = 1 := by
      rw [Char.utf8Size_eq_one_iff, UInt32.le_iff_toNat_le]
      exact Nat.le_of_lt_succ (h c List.mem_cons_self)
    rw [utf8Size_cons, hc, ih fun c hc => h c (List.mem_cons_of_mem _ hc), List.length_cons]
    omega

theorem utf8Size_writeChar (c : Char) : utf8Size (writeChar c) ≤ 6 := by
  unfold writeChar
  split
  · rename_i letter hletter
    have hback : backslash.utf8Size = 1 := by decide
    have hle := letter.utf8Size_le_four
    simp only [utf8Size_cons, utf8Size_nil, hback]
    omega
  · split
    · rename_i hcontrol
      rw [utf8Size_ascii]
      · simp
      · have hdigit : ∀ n < 16, (Nat.digitChar n).toNat < 128 := by decide
        have hhigh := hdigit (c.toNat / 16) (by omega)
        have hlow := hdigit (c.toNat % 16) (by omega)
        have hback : backslash.toNat < 128 := by decide
        simp [hhigh, hlow, hback]
    · have hle := c.utf8Size_le_four
      simp only [utf8Size_cons, utf8Size_nil]
      omega

theorem utf8Size_writeString (text : String) :
    utf8Size (writeString text) ≤ 6 * text.length + 2 := by
  have hchars (text : List Char) : utf8Size (text.flatMap writeChar) ≤ 6 * text.length := by
    induction text with
    | nil => simp
    | cons c text ih =>
      have hc := utf8Size_writeChar c
      simp only [List.flatMap_cons, utf8Size_append, List.length_cons]
      omega
  have hquote : quote.utf8Size = 1 := by decide
  have hle := hchars text.toList
  rw [String.length_toList] at hle
  simp only [writeString, utf8Size_cons, utf8Size_append, utf8Size_nil, hquote]
  omega

theorem utf8Size_writeInteger {value : Int} (hmin : -2 ^ 63 ≤ value) (hmax : value < 2 ^ 64) :
    utf8Size (writeInteger value) ≤ 20 := by
  have hascii : ∀ c ∈ Nat.toDigits 10 value.natAbs, c.toNat < 128 := by
    intro c hc
    have hdigit := Nat.isDigit_of_mem_toDigits (b := 10) (by omega) (by omega) hc
    have hrange := Char.isDigit_iff_toNat.1 hdigit
    have hnine : '9'.toNat < 128 := by decide
    omega
  unfold writeInteger
  split
  · have hdigits : (Nat.toDigits 10 value.natAbs).length ≤ 19 :=
      (Nat.length_toDigits_le_iff (by omega) (by omega)).2 (by omega)
    have hminus : '-'.utf8Size = 1 := by decide
    rw [utf8Size_cons, utf8Size_ascii hascii, hminus]
    omega
  · rw [utf8Size_ascii hascii]
    exact (Nat.length_toDigits_le_iff (by omega) (by omega)).2 (by omega)

mutual

/-- The text of a canonical value has at most `textBound` bytes. -/
theorem utf8Size_write : ∀ value : Json, value.Canonical → utf8Size (write value) ≤ textBound value
  | null, _ => by decide
  | bool true, _ => by decide
  | bool false, _ => by decide
  | integer _, h => by
    rw [write, textBound]
    exact utf8Size_writeInteger h.1 h.2
  | float _, h => h.elim
  | string text, _ => by
    rw [write, textBound]
    exact utf8Size_writeString text
  | array [], _ => by decide
  | array (element :: elements), h => by
    have hhead := utf8Size_write element h.1
    have htail := utf8Size_writeElements elements h.2
    have hopen : '['.utf8Size = 1 := by decide
    simp only [write, textBound, textBoundElements, utf8Size_cons, utf8Size_append, hopen]
    omega
  | object [], _ => by decide
  | object ((key, value) :: members), h => by
    have hkey := utf8Size_writeString key
    have hvalue := utf8Size_write value h.2.1
    have htail := utf8Size_writeMembers members h.2.2
    have hopen : (Char.ofNat 123).utf8Size = 1 := by decide
    have hcolon : ':'.utf8Size = 1 := by decide
    simp only [write, textBound, textBoundMembers, utf8Size_cons, utf8Size_append, hopen, hcolon]
    omega

theorem utf8Size_writeElements : ∀ elements : List Json, CanonicalElements elements →
    utf8Size (writeElements elements) ≤ textBoundElements elements + 1
  | [], _ => by decide
  | element :: elements, h => by
    have hhead := utf8Size_write element h.1
    have htail := utf8Size_writeElements elements h.2
    have hcomma : ','.utf8Size = 1 := by decide
    simp only [writeElements, textBoundElements, utf8Size_cons, utf8Size_append, hcomma]
    omega

theorem utf8Size_writeMembers : ∀ members : List (String × Json), CanonicalMembers members →
    utf8Size (writeMembers members) ≤ textBoundMembers members + 1
  | [], _ => by decide
  | (key, value) :: members, h => by
    have hkey := utf8Size_writeString key
    have hvalue := utf8Size_write value h.1
    have htail := utf8Size_writeMembers members h.2
    have hcomma : ','.utf8Size = 1 := by decide
    have hcolon : ':'.utf8Size = 1 := by decide
    simp only [writeMembers, textBoundMembers, utf8Size_cons, utf8Size_append, hcomma, hcolon]
    omega

end

end PlaybackConnector.Json
