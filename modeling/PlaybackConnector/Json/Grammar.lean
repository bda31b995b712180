import PlaybackConnector.Wire.Percent
import Mathlib

/-!
# The grammar of JSON texts over 16-bit units

The texts of RFC 8259 with what they denote. `Reads input value rest`: the input begins with a value
and the rest follows it; a string denotes the units that it has or escapes, a surrogate like any
other unit, a number its numeral, and an object its members in their order. `Document.unique`: a
text denotes one value.
-/

namespace PlaybackConnector.JsonGrammar

/-- What a text denotes. -/
inductive Value
  | null
  | bool (value : Bool)
  | number (numeral : List UInt16)
  | string (text : List UInt16)
  | array (elements : List Value)
  | object (members : List (List UInt16 × Value))

/-! ## Spaces, numbers and strings -/

/-- A unit of `ws`. -/
def isSpace (unit : UInt16) : Bool := unit = 32 ∨ unit = 9 ∨ unit = 10 ∨ unit = 13

/-- What follows the spaces. -/
def skipSpace (input : List UInt16) : List UInt16 := input.dropWhile isSpace

/-- `DIGIT`. -/
def IsDigit (unit : UInt16) : Prop := 48 ≤ unit ∧ unit ≤ 57

/-- `1*DIGIT`. -/
def IsDigits (text : List UInt16) : Prop := text ≠ [] ∧ ∀ unit ∈ text, IsDigit unit

/-- `int`: a zero, or digits of which the first is none. -/
def IsInteger (text : List UInt16) : Prop :=
  text = [48] ∨ (IsDigits text ∧ text.head? ≠ some 48)

/-- `[ frac ]`. -/
def IsFraction (text : List UInt16) : Prop :=
  text = [] ∨ ∃ digits, IsDigits digits ∧ text = 46 :: digits

/-- `[ exp ]`. -/
def IsExponent (text : List UInt16) : Prop :=
  text = [] ∨ ∃ letter sign digits, (letter = 101 ∨ letter = 69) ∧
    (sign = [] ∨ sign = [43] ∨ sign = [45]) ∧ IsDigits digits ∧ text = letter :: (sign ++ digits)

/-- `number`. -/
def IsNumber (text : List UInt16) : Prop :=
  ∃ minus integer fraction exponent, (minus = [] ∨ minus = [45]) ∧ IsInteger integer ∧
    IsFraction fraction ∧ IsExponent exponent ∧ text = minus ++ integer ++ fraction ++ exponent

/-- A unit that numbers are made of. -/
def IsNumberUnit (unit : UInt16) : Prop :=
  IsDigit unit ∨ unit = 45 ∨ unit = 43 ∨ unit = 46 ∨ unit = 101 ∨ unit = 69

instance (unit : UInt16) : Decidable (IsDigit unit) := inferInstanceAs (Decidable (_ ∧ _))

instance (unit : UInt16) : Decidable (IsNumberUnit unit) := inferInstanceAs (Decidable (_ ∨ _))

/-- The short escapes: the letter after the backslash and the unit. -/
def shortEscapes : List (UInt16 × UInt16) :=
  [(34, 34), (92, 92), (47, 47), (98, 8), (102, 12), (110, 10), (114, 13), (116, 9)]

/-- `*char quotation-mark`: what follows the quotation mark that opens a string, with the units that
the string denotes. -/
inductive Characters : List UInt16 → List UInt16 → List UInt16 → Prop
  | close (rest : List UInt16) : Characters (34 :: rest) [] rest
  | unescaped {unit : UInt16} {input text rest : List UInt16} (hcontrol : 32 ≤ unit)
    (hquote : unit ≠ 34) (hbackslash : unit ≠ 92) (hinput : Characters input text rest) :
    Characters (unit :: input) (unit :: text) rest
  | short {letter unit : UInt16} {input text rest : List UInt16}
    (hescape : shortEscapes.lookup letter = some unit) (hinput : Characters input text rest) :
    Characters (92 :: letter :: input) (unit :: text) rest
  | hex {a b c d : UInt16} {i j k l : Nat} {input text rest : List UInt16}
    (ha : hexDigitValue a = some i) (hb : hexDigitValue b = some j) (hc : hexDigitValue c = some k)
    (hd : hexDigitValue d = some l) (hinput : Characters input text rest) :
    Characters (92 :: 117 :: a :: b :: c :: d :: input)
      ((((i * 16 + j) * 16 + k) * 16 + l).toUInt16 :: text) rest

/-! ## Values -/

mutual

/-- `value`: what an input begins with and what follows it. A number ends where no unit of one
follows, as it does before every delimiter. -/
inductive Reads : List UInt16 → Value → List UInt16 → Prop
  | null (rest : List UInt16) : Reads (110 :: 117 :: 108 :: 108 :: rest) .null rest
  | true (rest : List UInt16) : Reads (116 :: 114 :: 117 :: 101 :: rest) (.bool true) rest
  | false (rest : List UInt16) : Reads (102 :: 97 :: 108 :: 115 :: 101 :: rest) (.bool false) rest
  | number {input numeral rest : List UInt16} (hnumeral : IsNumber numeral)
    (hrest : ∀ unit ∈ rest.head?, ¬ IsNumberUnit unit) (hinput : input = numeral ++ rest) :
    Reads input (.number numeral) rest
  | string {input text rest : List UInt16} (htext : Characters input text rest) :
    Reads (34 :: input) (.string text) rest
  | emptyArray {input rest : List UInt16} (hend : skipSpace input = 93 :: rest) :
    Reads (91 :: input) (.array []) rest
  | array {input rest : List UInt16} {elements : List Value}
    (helements : Elements input elements rest) : Reads (91 :: input) (.array elements) rest
  | emptyObject {input rest : List UInt16} (hend : skipSpace input = 125 :: rest) :
    Reads (123 :: input) (.object []) rest
  | object {input rest : List UInt16} {members : List (List UInt16 × Value)}
    (hmembers : Members input members rest) : Reads (123 :: input) (.object members) rest

/-- The elements of an array, up to its end. -/
inductive Elements : List UInt16 → List Value → List UInt16 → Prop
  | last {input after rest : List UInt16} {value : Value}
    (hvalue : Reads (skipSpace input) value after) (hend : skipSpace after = 93 :: rest) :
    Elements input [value] rest
  | more {input after others rest : List UInt16} {value : Value} {elements : List Value}
    (hvalue : Reads (skipSpace input) value after) (hcomma : skipSpace after = 44 :: others)
    (hothers : Elements others elements rest) : Elements input (value :: elements) rest

/-- `member`: a key, a colon and a value. -/
inductive Member : List UInt16 → List UInt16 × Value → List UInt16 → Prop
  | mk {input characters key colon content rest : List UInt16} {value : Value}
    (hquote : skipSpace input = 34 :: characters) (hkey : Characters characters key colon)
    (hcolon : skipSpace colon = 58 :: content) (hvalue : Reads (skipSpace content) value rest) :
    Member input (key, value) rest

/-- The members of an object, up to its end. -/
inductive Members : List UInt16 → List (List UInt16 × Value) → List UInt16 → Prop
  | last {input after rest : List UInt16} {member : List UInt16 × Value}
    (hmember : Member input member after) (hend : skipSpace after = 125 :: rest) :
    Members input [member] rest
  | more {input after others rest : List UInt16} {member : List UInt16 × Value}
    {members : List (List UInt16 × Value)} (hmember : Member input member after)
    (hcomma : skipSpace after = 44 :: others) (hothers : Members others members rest) :
    Members input (member :: members) rest

end

/-- `JSON-text`: a value between spaces, and nothing else. -/
def Document (text : List UInt16) (value : Value) : Prop :=
  ∃ rest, Reads (skipSpace text) value rest ∧ skipSpace rest = []

/-! ## A text denotes one value -/

/-- Where a run of elements ends is determined, if what follows does not go on with it. -/
theorem append_unique {p : UInt16 → Prop} : ∀ {first second rest rest' : List UInt16},
    (∀ unit ∈ first, p unit) → (∀ unit ∈ second, p unit) → (∀ unit ∈ rest.head?, ¬ p unit) →
    (∀ unit ∈ rest'.head?, ¬ p unit) → first ++ rest = second ++ rest' →
    first = second ∧ rest = rest'
  | [], [], _, _, _, _, _, _, h => ⟨rfl, h⟩
  | [], unit :: _, _, _, _, hsecond, hrest, _, h => by
    subst h
    exact absurd (hsecond unit List.mem_cons_self) (hrest unit rfl)
  | unit :: _, [], _, _, hfirst, _, _, hrest', h => by
    subst h
    exact absurd (hfirst unit List.mem_cons_self) (hrest' unit rfl)
  | _ :: _, _ :: _, _, _, hfirst, hsecond, hrest, hrest', h => by
    obtain ⟨rfl, htail⟩ := List.cons.inj h
    have htails := append_unique (fun unit hunit => hfirst unit (List.mem_cons_of_mem _ hunit))
      (fun unit hunit => hsecond unit (List.mem_cons_of_mem _ hunit)) hrest hrest' htail
    exact ⟨congrArg _ htails.1, htails.2⟩

section
variable {input text text' rest rest' numeral : List UInt16} {unit : UInt16}

theorem IsInteger.digits (h : IsInteger text) : IsDigits text := by
  obtain rfl | ⟨hdigits, -⟩ := h
  · exact ⟨List.cons_ne_nil _ _, fun unit hunit => by cases List.mem_singleton.1 hunit; decide⟩
  · exact hdigits

theorem IsFraction.units (h : IsFraction text) : ∀ unit ∈ text, IsNumberUnit unit := by
  obtain rfl | ⟨digits, hdigits, rfl⟩ := h
  · exact fun _ hunit => by cases hunit
  · exact List.forall_mem_cons.2 ⟨by decide, fun unit hunit => .inl (hdigits.2 unit hunit)⟩

theorem IsExponent.units (h : IsExponent text) : ∀ unit ∈ text, IsNumberUnit unit := by
  obtain rfl | ⟨letter, sign, digits, hletter, hsign, hdigits, rfl⟩ := h
  · exact fun _ hunit => by cases hunit
  · have hsign' : ∀ unit ∈ sign, IsNumberUnit unit := by
      obtain rfl | rfl | rfl := hsign
      · exact fun _ hunit => by cases hunit
      · exact fun _ hunit => by cases List.mem_singleton.1 hunit; decide
      · exact fun _ hunit => by cases List.mem_singleton.1 hunit; decide
    refine List.forall_mem_cons.2 ⟨?_, List.forall_mem_append.2 ⟨hsign', ?_⟩⟩
    · obtain rfl | rfl := hletter <;> decide
    · exact fun unit hunit => .inl (hdigits.2 unit hunit)

/-- A numeral is made of units of numbers. -/
theorem IsNumber.units (h : IsNumber numeral) : ∀ unit ∈ numeral, IsNumberUnit unit := by
  obtain ⟨minus, integer, fraction, exponent, hminus, hinteger, hfraction, hexponent, rfl⟩ := h
  have hminus' : ∀ unit ∈ minus, IsNumberUnit unit := by
    obtain rfl | rfl := hminus
    · exact fun _ hunit => by cases hunit
    · exact fun _ hunit => by cases List.mem_singleton.1 hunit; decide
  have hinteger' : ∀ unit ∈ integer, IsNumberUnit unit := fun unit hunit =>
    .inl (hinteger.digits.2 unit hunit)
  simp only [List.forall_mem_append]
  exact ⟨⟨⟨hminus', hinteger'⟩, hfraction.units⟩, hexponent.units⟩

theorem IsNumber.ne_nil (h : IsNumber numeral) : numeral ≠ [] := by
  obtain ⟨minus, integer, fraction, exponent, -, hinteger, -, -, rfl⟩ := h
  have hne := hinteger.digits.1
  simp [hne]

/-- What a number begins with. -/
theorem IsNumber.head (h : IsNumber numeral) (hinput : unit :: input = numeral ++ rest) :
    IsNumberUnit unit := by
  cases numeral with
  | nil => exact absurd rfl h.ne_nil
  | cons first _ =>
    rw [(List.cons.inj hinput).1]
    exact h.units first List.mem_cons_self

/-- A string denotes one text. -/
theorem Characters.unique (h : Characters input text rest) (h' : Characters input text' rest') :
    text = text' ∧ rest = rest' := by
  induction h generalizing text' rest' with
  | close =>
    cases h' with
    | close => exact ⟨rfl, rfl⟩
    | unescaped _ hquote _ _ => exact absurd rfl hquote
  | unescaped hcontrol hquote hbackslash _ ih =>
    cases h' with
    | close => exact absurd rfl hquote
    | unescaped _ _ _ hinput =>
      obtain ⟨rfl, rfl⟩ := ih hinput
      exact ⟨rfl, rfl⟩
    | short => exact absurd rfl hbackslash
    | hex => exact absurd rfl hbackslash
  | short hescape _ ih =>
    cases h' with
    | unescaped _ _ hbackslash _ => exact absurd rfl hbackslash
    | short hescape' hinput =>
      obtain ⟨rfl, rfl⟩ := ih hinput
      cases hescape.symm.trans hescape'
      exact ⟨rfl, rfl⟩
    | hex => cases hescape
  | hex ha hb hc hd _ ih =>
    cases h' with
    | unescaped _ _ hbackslash _ => exact absurd rfl hbackslash
    | short hescape' hinput => cases hescape'
    | hex ha' hb' hc' hd' hinput =>
      obtain ⟨rfl, rfl⟩ := ih hinput
      cases ha.symm.trans ha'
      cases hb.symm.trans hb'
      cases hc.symm.trans hc'
      cases hd.symm.trans hd'
      exact ⟨rfl, rfl⟩

/-! ### Values -/

variable {value value' : Value} {elements elements' : List Value}
  {member member' : List UInt16 × Value} {members members' : List (List UInt16 × Value)}

/-- No value begins with the end of an array. -/
theorem not_reads_close : ¬ Reads (93 :: input) value rest := by
  intro h
  cases h with
  | number hnumeral _ hinput => exact absurd (hnumeral.head hinput) (by decide)

theorem not_elements_of_end (h : skipSpace input = 93 :: rest) :
    ¬ Elements input elements rest' := by
  rintro (⟨hvalue, -⟩ | ⟨hvalue, -, -⟩)
  · exact not_reads_close (h ▸ hvalue)
  · exact not_reads_close (h ▸ hvalue)

theorem not_members_of_end (h : skipSpace input = 125 :: rest) :
    ¬ Members input members rest' := by
  rintro (⟨⟨hquote, -, -, -⟩, -⟩ | ⟨⟨hquote, -, -, -⟩, -, -⟩)
  · cases h.symm.trans hquote
  · cases h.symm.trans hquote

mutual

/-- What an input begins with is one value. -/
theorem Reads.unique : ∀ {input : List UInt16} {value value' : Value} {rest rest' : List UInt16},
    Reads input value rest → Reads input value' rest' → value = value' ∧ rest = rest'
  | _, _, _, _, _, .null _, h' => by
    cases h' with
    | null => exact ⟨rfl, rfl⟩
    | number hnumeral _ hinput => exact absurd (hnumeral.head hinput) (by decide)
  | _, _, _, _, _, .true _, h' => by
    cases h' with
    | true => exact ⟨rfl, rfl⟩
    | number hnumeral _ hinput => exact absurd (hnumeral.head hinput) (by decide)
  | _, _, _, _, _, .false _, h' => by
    cases h' with
    | false => exact ⟨rfl, rfl⟩
    | number hnumeral _ hinput => exact absurd (hnumeral.head hinput) (by decide)
  | _, _, _, _, _, .number hnumeral hrest hinput, h' => by
    cases h' with
    | number hnumeral' hrest' hinput' =>
      have hunique := append_unique hnumeral.units hnumeral'.units hrest hrest'
        (hinput.symm.trans hinput')
      exact ⟨congrArg Value.number hunique.1, hunique.2⟩
    | _ => exact absurd (hnumeral.head hinput) (by decide)
  | _, _, _, _, _, .string htext, h' => by
    cases h' with
    | string htext' =>
      obtain ⟨rfl, rfl⟩ := htext.unique htext'
      exact ⟨rfl, rfl⟩
    | number hnumeral _ hinput => exact absurd (hnumeral.head hinput) (by decide)
  | _, _, _, _, _, .emptyArray hend, h' => by
    cases h' with
    | emptyArray hend' =>
      cases hend.symm.trans hend'
      exact ⟨rfl, rfl⟩
    | array helements => exact absurd helements (not_elements_of_end hend)
    | number hnumeral _ hinput => exact absurd (hnumeral.head hinput) (by decide)
  | _, _, _, _, _, .array helements, h' => by
    cases h' with
    | emptyArray hend => exact absurd helements (not_elements_of_end hend)
    | array helements' =>
      obtain ⟨rfl, rfl⟩ := Elements.unique helements helements'
      exact ⟨rfl, rfl⟩
    | number hnumeral _ hinput => exact absurd (hnumeral.head hinput) (by decide)
  | _, _, _, _, _, .emptyObject hend, h' => by
    cases h' with
    | emptyObject hend' =>
      cases hend.symm.trans hend'
      exact ⟨rfl, rfl⟩
    | object hmembers => exact absurd hmembers (not_members_of_end hend)
    | number hnumeral _ hinput => exact absurd (hnumeral.head hinput) (by decide)
  | _, _, _, _, _, .object hmembers, h' => by
    cases h' with
    | emptyObject hend => exact absurd hmembers (not_members_of_end hend)
    | object hmembers' =>
      obtain ⟨rfl, rfl⟩ := Members.unique hmembers hmembers'
      exact ⟨rfl, rfl⟩
    | number hnumeral _ hinput => exact absurd (hnumeral.head hinput) (by decide)

theorem Elements.unique : ∀ {input : List UInt16} {elements elements' : List Value}
    {rest rest' : List UInt16}, Elements input elements rest → Elements input elements' rest' →
    elements = elements' ∧ rest = rest'
  | _, _, _, _, _, .last hvalue hend, .last hvalue' hend' => by
    obtain ⟨rfl, rfl⟩ := Reads.unique hvalue hvalue'
    cases hend.symm.trans hend'
    exact ⟨rfl, rfl⟩
  | _, _, _, _, _, .last hvalue hend, .more hvalue' hcomma' _ => by
    obtain ⟨-, rfl⟩ := Reads.unique hvalue hvalue'
    cases hend.symm.trans hcomma'
  | _, _, _, _, _, .more hvalue hcomma _, .last hvalue' hend' => by
    obtain ⟨-, rfl⟩ := Reads.unique hvalue hvalue'
    cases hcomma.symm.trans hend'
  | _, _, _, _, _, .more hvalue hcomma hothers, .more hvalue' hcomma' hothers' => by
    obtain ⟨rfl, rfl⟩ := Reads.unique hvalue hvalue'
    cases hcomma.symm.trans hcomma'
    obtain ⟨rfl, rfl⟩ := Elements.unique hothers hothers'
    exact ⟨rfl, rfl⟩

theorem Member.unique : ∀ {input : List UInt16} {member member' : List UInt16 × Value}
    {rest rest' : List UInt16}, Member input member rest → Member input member' rest' →
    member = member' ∧ rest = rest'
  | _, _, _, _, _, .mk hquote hkey hcolon hvalue, .mk hquote' hkey' hcolon' hvalue' => by
    cases hquote.symm.trans hquote'
    obtain ⟨rfl, rfl⟩ := hkey.unique hkey'
    cases hcolon.symm.trans hcolon'
    obtain ⟨rfl, rfl⟩ := Reads.unique hvalue hvalue'
    exact ⟨rfl, rfl⟩

theorem Members.unique : ∀ {input : List UInt16} {members members' : List (List UInt16 × Value)}
    {rest rest' : List UInt16}, Members input members rest → Members input members' rest' →
    members = members' ∧ rest = rest'
  | _, _, _, _, _, .last hmember hend, .last hmember' hend' => by
    obtain ⟨rfl, rfl⟩ := Member.unique hmember hmember'
    cases hend.symm.trans hend'
    exact ⟨rfl, rfl⟩
  | _, _, _, _, _, .last hmember hend, .more hmember' hcomma' _ => by
    obtain ⟨-, rfl⟩ := Member.unique hmember hmember'
    cases hend.symm.trans hcomma'
  | _, _, _, _, _, .more hmember hcomma _, .last hmember' hend' => by
    obtain ⟨-, rfl⟩ := Member.unique hmember hmember'
    cases hcomma.symm.trans hend'
  | _, _, _, _, _, .more hmember hcomma hothers, .more hmember' hcomma' hothers' => by
    obtain ⟨rfl, rfl⟩ := Member.unique hmember hmember'
    cases hcomma.symm.trans hcomma'
    obtain ⟨rfl, rfl⟩ := Members.unique hothers hothers'
    exact ⟨rfl, rfl⟩

end

/-- A text denotes one value. -/
theorem Document.unique (h : Document text value) (h' : Document text value') : value = value' := by
  obtain ⟨_, hvalue, -⟩ := h
  obtain ⟨_, hvalue', -⟩ := h'
  exact (hvalue.unique hvalue').1

end

/-! ## Writing -/

/-- The decimal digits of a number. -/
def decimal (n : Nat) : List UInt16 := (Nat.toDigits 10 n).map fun c => c.toNat.toUInt16

theorem toUInt16_digitChar : ∀ n < 10, n.digitChar.toNat.toUInt16 = (48 + n).toUInt16 := by decide

theorem isDigit_toUInt16 : ∀ n < 10, IsDigit (48 + n).toUInt16 := by decide

theorem toUInt16_ne_zero : ∀ n < 10, n ≠ 0 → (48 + n).toUInt16 ≠ 48 := by decide

theorem decimal_digit {n : Nat} (h : n < 10) : decimal n = [(48 + n).toUInt16] := by
  rw [decimal, Nat.toDigits_of_lt_base h, List.map_singleton, toUInt16_digitChar n h]

theorem decimal_more {n : Nat} (h : 10 ≤ n) :
    decimal n = decimal (n / 10) ++ [(48 + n % 10).toUInt16] := by
  have hlt : n % 10 < 10 := Nat.mod_lt _ (by decide)
  rw [decimal, Nat.toDigits_of_base_le (by decide) h, List.map_append, List.map_singleton,
    toUInt16_digitChar _ hlt, decimal]

theorem isDigits_decimal (n : Nat) : IsDigits (decimal n) := by
  induction n using Nat.strongRecOn with
  | _ n ih =>
    obtain h | h := Nat.lt_or_ge n 10
    · rw [decimal_digit h]
      refine ⟨List.cons_ne_nil _ _, fun unit hunit => ?_⟩
      rw [List.mem_singleton.1 hunit]
      exact isDigit_toUInt16 n h
    · rw [decimal_more h]
      refine ⟨by simp, List.forall_mem_append.2 ⟨(ih _ (by omega)).2, fun unit hunit => ?_⟩⟩
      rw [List.mem_singleton.1 hunit]
      exact isDigit_toUInt16 _ (Nat.mod_lt _ (by decide))

/-- There are no leading zeros. -/
theorem head_decimal {n : Nat} (hn : n ≠ 0) : (decimal n).head? ≠ some 48 := by
  induction n using Nat.strongRecOn with
  | _ n ih =>
    obtain h | h := Nat.lt_or_ge n 10
    · rw [decimal_digit h, List.head?_cons]
      exact fun heq => toUInt16_ne_zero n h hn (Option.some.inj heq)
    · rw [decimal_more h, List.head?_append_of_ne_nil _ (isDigits_decimal _).1]
      exact ih _ (by omega) (by omega)

theorem isNumber_decimal (n : Nat) : IsNumber (decimal n) := by
  refine ⟨[], decimal n, [], [], .inl rfl, ?_, .inl rfl, .inl rfl, by simp⟩
  by_cases hn : n = 0
  · exact .inl (by rw [hn]; decide)
  · exact .inr ⟨isDigits_decimal n, head_decimal hn⟩

section
variable {key input rest : List UInt16} {value : Value}

/-- Units that need no escape are written as they are. -/
theorem Characters.plain
    (h : key.all fun unit => decide (32 ≤ unit) && unit != 34 && unit != 92) (rest : List UInt16) :
    Characters (key ++ 34 :: rest) key rest := by
  induction key with
  | nil => exact .close rest
  | cons unit key ih =>
    simp only [List.all_cons, Bool.and_eq_true, decide_eq_true_eq, bne_iff_ne] at h
    obtain ⟨⟨⟨hcontrol, hquote⟩, hbackslash⟩, hkey⟩ := h
    exact .unescaped hcontrol hquote hbackslash (ih hkey)

/-- A member that is written without spaces. -/
theorem Member.plain (hkey : key.all fun unit => decide (32 ≤ unit) && unit != 34 && unit != 92)
    (hinput : skipSpace input = input) (hvalue : Reads input value rest) :
    Member (34 :: (key ++ 34 :: 58 :: input)) (key, value) rest :=
  .mk rfl (.plain hkey _) rfl (hinput.symm ▸ hvalue)

/-- A number in the midst of a text. -/
theorem reads_decimal (n : Nat) (h : ∀ unit ∈ rest.head?, ¬ IsNumberUnit unit) :
    Reads (decimal n ++ rest) (.number (decimal n)) rest :=
  .number (isNumber_decimal n) h rfl

/-- A number does not begin with a space. -/
theorem skipSpace_decimal (n : Nat) (rest : List UInt16) :
    skipSpace (decimal n ++ rest) = decimal n ++ rest := by
  obtain ⟨hne, hdigits⟩ := isDigits_decimal n
  cases hdecimal : decimal n with
  | nil => exact absurd hdecimal hne
  | cons unit digits =>
    have hunit : IsDigit unit := hdigits unit (hdecimal ▸ List.mem_cons_self)
    refine List.dropWhile_cons_of_neg fun hspace => ?_
    obtain rfl | rfl | rfl | rfl := of_decide_eq_true hspace <;> exact absurd hunit (by decide)

end

end PlaybackConnector.JsonGrammar
