import Mathlib

/-!
# Character data of XML 1.0 in UTF-16

A document's text is a list of 16-bit units. `IsText`: it consists of characters that XML allows,
every surrogate in its pair. `IsEscaped`: no character of markup is in it but the `&` of a reference
to one of the five predefined entities. `decode` is the text that the references stand for, and
`replaceInvalid` has U+FFFD for every unit that stands for no character where it is.
-/

namespace PlaybackConnector.Xml

/-! ## Characters -/

/-- The first unit of a pair. -/
def IsHighSurrogate (unit : UInt16) : Prop := 0xD800 ≤ unit ∧ unit ≤ 0xDBFF

/-- The second unit of a pair. -/
def IsLowSurrogate (unit : UInt16) : Prop := 0xDC00 ≤ unit ∧ unit ≤ 0xDFFF

/-- A unit that is a character: `Char` of XML 1.0 up to U+FFFF. -/
def IsCharacter (unit : UInt16) : Prop :=
  unit = 9 ∨ unit = 10 ∨ unit = 13 ∨ (0x20 ≤ unit ∧ unit ≤ 0xD7FF) ∨ (0xE000 ≤ unit ∧ unit ≤ 0xFFFD)

instance (unit : UInt16) : Decidable (IsHighSurrogate unit) :=
  inferInstanceAs (Decidable (_ ∧ _))

instance (unit : UInt16) : Decidable (IsLowSurrogate unit) :=
  inferInstanceAs (Decidable (_ ∧ _))

instance (unit : UInt16) : Decidable (IsCharacter unit) :=
  inferInstanceAs (Decidable (_ ∨ _))

/-- Text of characters. A pair of surrogates is one from U+10000 on, all of which are allowed. -/
inductive IsText : List UInt16 → Prop
  | nil : IsText []
  | character {unit : UInt16} {rest : List UInt16} (hunit : IsCharacter unit)
    (hrest : IsText rest) : IsText (unit :: rest)
  | pair {high low : UInt16} {rest : List UInt16} (hhigh : IsHighSurrogate high)
    (hlow : IsLowSurrogate low) (hrest : IsText rest) : IsText (high :: low :: rest)

/-- U+FFFD. -/
def replacement : UInt16 := 0xFFFD

/-- Whether a unit stands for a character, or for its half of one, between its neighbours. -/
def Stands (previous : Option UInt16) (unit : UInt16) (following : Option UInt16) : Prop :=
  IsCharacter unit ∨ (IsHighSurrogate unit ∧ ∃ low ∈ following, IsLowSurrogate low) ∨
    (IsLowSurrogate unit ∧ ∃ high ∈ previous, IsHighSurrogate high)

instance (previous : Option UInt16) (unit : UInt16) (following : Option UInt16) :
    Decidable (Stands previous unit following) :=
  inferInstanceAs (Decidable (_ ∨ _))

/-- Every unit that stands for nothing is replaced, after the given one. -/
def replaceFrom : Option UInt16 → List UInt16 → List UInt16
  | _, [] => []
  | previous, unit :: rest =>
    (if Stands previous unit rest.head? then unit else replacement) :: replaceFrom (some unit) rest

/-- Every unit that stands for nothing is replaced. -/
def replaceInvalid (text : List UInt16) : List UInt16 := replaceFrom none text

/-! ## Entities -/

/-- The predefined entities. -/
inductive Entity
  | amp | lt | gt | quot | apos
deriving Repr, DecidableEq

/-- The character that an entity is. -/
def Entity.character : Entity → UInt16
  | .amp => 38
  | .lt => 60
  | .gt => 62
  | .quot => 34
  | .apos => 39

/-- The name of an entity. -/
def Entity.name : Entity → String
  | .amp => "amp"
  | .lt => "lt"
  | .gt => "gt"
  | .quot => "quot"
  | .apos => "apos"

/-- The reference to an entity: `&`, its name and `;`. -/
def Entity.reference (entity : Entity) : List UInt16 :=
  38 :: (entity.name.toList.map fun c => c.toNat.toUInt16) ++ [59]

/-- All of them. -/
def Entity.all : List Entity := [.amp, .lt, .gt, .quot, .apos]

/-- `<`, `>` and the quotation marks. -/
def IsMarkup (unit : UInt16) : Prop := unit = 60 ∨ unit = 62 ∨ unit = 34 ∨ unit = 39

instance (unit : UInt16) : Decidable (IsMarkup unit) := inferInstanceAs (Decidable (_ ∨ _))

/-- No character of markup, and no `&` but where a reference to a predefined entity begins. -/
def IsEscaped (text : List UInt16) : Prop :=
  ∀ unit rest, unit :: rest <:+ text →
    ¬ IsMarkup unit ∧ (unit = 38 → ∃ entity : Entity, entity.reference <+: unit :: rest)

/-- The entity whose reference a text begins with. -/
def entityAt (text : List UInt16) : Option Entity :=
  Entity.all.find? fun entity => entity.reference.isPrefixOf text

/-- The characters of a text after its first units, which belong to a reference. -/
def decodeFrom : Nat → List UInt16 → List UInt16
  | _, [] => []
  | skip + 1, _ :: rest => decodeFrom skip rest
  | 0, unit :: rest =>
    match entityAt (unit :: rest) with
    | some entity => entity.character :: decodeFrom (entity.reference.length - 1) rest
    | none => unit :: decodeFrom 0 rest

/-- The text that a text with references stands for. -/
def decode (text : List UInt16) : List UInt16 := decodeFrom 0 text

variable {unit : UInt16} {rest text : List UInt16}

/-! ## Replacing -/

theorem IsHighSurrogate.not_character (h : IsHighSurrogate unit) : ¬ IsCharacter unit := by
  simp only [IsHighSurrogate, IsCharacter, UInt16.le_iff_toNat_le, ← UInt16.toNat_inj,
    UInt16.reduceToNat] at *
  omega

theorem IsLowSurrogate.not_character (h : IsLowSurrogate unit) : ¬ IsCharacter unit := by
  simp only [IsLowSurrogate, IsCharacter, UInt16.le_iff_toNat_le, ← UInt16.toNat_inj,
    UInt16.reduceToNat] at *
  omega

theorem IsLowSurrogate.not_high (h : IsLowSurrogate unit) : ¬ IsHighSurrogate unit := by
  simp only [IsLowSurrogate, IsHighSurrogate, UInt16.le_iff_toNat_le, UInt16.reduceToNat] at *
  omega

theorem IsHighSurrogate.ne_amp (h : IsHighSurrogate unit) : unit ≠ 38 := by
  rintro rfl
  exact absurd h (by decide)

theorem IsLowSurrogate.ne_amp (h : IsLowSurrogate unit) : unit ≠ 38 := by
  rintro rfl
  exact absurd h (by decide)

/-- A surrogate is no markup. -/
theorem not_isMarkup_surrogate (h : IsHighSurrogate unit ∨ IsLowSurrogate unit) :
    ¬ IsMarkup unit := by
  rintro (rfl | rfl | rfl | rfl) <;> exact absurd h (by decide)

theorem isCharacter_replacement : IsCharacter replacement := by decide

/-- A high surrogate stands for its half of a character before a low one, and nowhere else. -/
theorem stands_high (previous following : Option UInt16) (h : IsHighSurrogate unit) :
    Stands previous unit following ↔ ∃ low ∈ following, IsLowSurrogate low := by
  refine ⟨?_, fun hlow => .inr (.inl ⟨h, hlow⟩)⟩
  rintro (hcharacter | ⟨-, hlow⟩ | ⟨hlow, -⟩)
  · exact absurd hcharacter h.not_character
  · exact hlow
  · exact absurd h hlow.not_high

/-- A low surrogate stands for its half of a character after a high one, and nowhere else. -/
theorem stands_low (previous following : Option UInt16) (h : IsLowSurrogate unit) :
    Stands previous unit following ↔ ∃ high ∈ previous, IsHighSurrogate high := by
  refine ⟨?_, fun hhigh => .inr (.inr ⟨h, hhigh⟩)⟩
  rintro (hcharacter | ⟨hhigh, -⟩ | ⟨-, hhigh⟩)
  · exact absurd hcharacter h.not_character
  · exact absurd hhigh h.not_high
  · exact hhigh

/-- Any other unit stands for a character everywhere or nowhere. -/
theorem stands_other (previous following : Option UInt16) (hhigh : ¬ IsHighSurrogate unit)
    (hlow : ¬ IsLowSurrogate unit) : Stands previous unit following ↔ IsCharacter unit :=
  ⟨fun h => h.resolve_right (by tauto), .inl⟩

theorem replaceFrom_stands {previous : Option UInt16} (h : Stands previous unit rest.head?) :
    replaceFrom previous (unit :: rest) = unit :: replaceFrom (some unit) rest := by
  rw [replaceFrom, if_pos h]

theorem replaceFrom_not_stands {previous : Option UInt16}
    (h : ¬ Stands previous unit rest.head?) :
    replaceFrom previous (unit :: rest) = replacement :: replaceFrom (some unit) rest := by
  rw [replaceFrom, if_neg h]

/-- Both units of a pair are kept. -/
theorem replaceFrom_pair (previous : Option UInt16) {high low : UInt16}
    (hhigh : IsHighSurrogate high) (hlow : IsLowSurrogate low) :
    replaceFrom previous (high :: low :: rest) = high :: low :: replaceFrom (some low) rest := by
  rw [replaceFrom_stands ((stands_high previous _ hhigh).2 ⟨low, rfl, hlow⟩),
    replaceFrom_stands ((stands_low _ _ hlow).2 ⟨high, rfl, hhigh⟩)]

/-- In text of characters there is nothing to replace. -/
theorem replaceFrom_of_isText (h : IsText text) (previous : Option UInt16) :
    replaceFrom previous text = text := by
  induction h generalizing previous with
  | nil => rfl
  | character hunit _ ih => rw [replaceFrom_stands (.inl hunit), ih]
  | pair hhigh hlow _ ih => rw [replaceFrom_pair previous hhigh hlow, ih]

/-! ## References -/

theorem Entity.mem_all (entity : Entity) : entity ∈ Entity.all := by cases entity <;> decide

/-- No reference begins another one. -/
theorem Entity.reference_inj {first second : Entity} (hfirst : first.reference <+: text)
    (hsecond : second.reference <+: text) : first = second := by
  have h := List.prefix_or_prefix_of_prefix hfirst hsecond
  revert h
  cases first <;> cases second <;> decide

theorem entityAt_reference (entity : Entity) (rest : List UInt16) :
    entityAt (entity.reference ++ rest) = some entity := by
  have hself : entity.reference <+: entity.reference ++ rest := List.prefix_append _ _
  cases hfind : entityAt (entity.reference ++ rest) with
  | none =>
    have h := List.find?_eq_none.1 hfind entity entity.mem_all
    exact absurd (List.isPrefixOf_iff_prefix.2 hself) h
  | some found =>
    have h := List.find?_some hfind
    rw [Entity.reference_inj (List.isPrefixOf_iff_prefix.1 h) hself]

theorem entityAt_unit (h : unit ≠ 38) (rest : List UInt16) : entityAt (unit :: rest) = none := by
  refine List.find?_eq_none.2 fun entity _ hbegins => h ?_
  obtain ⟨after, hafter⟩ := List.isPrefixOf_iff_prefix.1 hbegins
  exact ((List.cons.inj hafter).1).symm

theorem decodeFrom_append (skipped rest : List UInt16) :
    decodeFrom skipped.length (skipped ++ rest) = decode rest := by
  induction skipped with
  | nil => rfl
  | cons unit skipped ih => exact ih

/-- A reference is decoded to its character. -/
theorem decode_reference (entity : Entity) (rest : List UInt16) :
    decode (entity.reference ++ rest) = entity.character :: decode rest := by
  have hentity := entityAt_reference entity rest
  rw [Entity.reference, List.cons_append, List.cons_append] at hentity ⊢
  rw [decode, decodeFrom, hentity]
  exact congrArg _ (decodeFrom_append _ rest)

/-- Any other unit is decoded to itself. -/
theorem decode_unit (h : unit ≠ 38) (rest : List UInt16) :
    decode (unit :: rest) = unit :: decode rest := by
  rw [decode, decodeFrom, entityAt_unit h]
  rfl

theorem IsEscaped.nil : IsEscaped [] := fun unit rest h => by
  cases List.suffix_nil.1 h

theorem IsEscaped.cons (hmarkup : ¬ IsMarkup unit)
    (hreference : unit = 38 → ∃ entity : Entity, entity.reference <+: unit :: rest)
    (hrest : IsEscaped rest) : IsEscaped (unit :: rest) := by
  intro other after h
  obtain heq | h := List.suffix_cons_iff.1 h
  · cases heq
    exact ⟨hmarkup, hreference⟩
  · exact hrest other after h

/-- Units that are neither markup nor `&` may stand before an escaped text. -/
theorem IsEscaped.append_plain {plain : List UInt16}
    (hplain : ∀ unit ∈ plain, ¬ IsMarkup unit ∧ unit ≠ 38) (hrest : IsEscaped rest) :
    IsEscaped (plain ++ rest) := by
  induction plain with
  | nil => exact hrest
  | cons unit plain ih =>
    have hunit := hplain unit List.mem_cons_self
    refine IsEscaped.cons hunit.1 (fun h => absurd h hunit.2) (ih fun other hother => ?_)
    exact hplain other (List.mem_cons_of_mem _ hother)

/-- A surrogate may stand before an escaped text. -/
theorem IsEscaped.cons_surrogate (hunit : IsHighSurrogate unit ∨ IsLowSurrogate unit)
    (hrest : IsEscaped rest) : IsEscaped (unit :: rest) := by
  have hamp : unit ≠ 38 := hunit.elim IsHighSurrogate.ne_amp IsLowSurrogate.ne_amp
  exact IsEscaped.cons (not_isMarkup_surrogate hunit) (fun h => absurd h hamp) hrest

/-- A reference may stand before an escaped text. -/
theorem IsEscaped.reference (entity : Entity) (hrest : IsEscaped rest) :
    IsEscaped (entity.reference ++ rest) := by
  have hall : (entity.reference.tail.all fun unit => decide (¬ IsMarkup unit ∧ unit ≠ 38)) := by
    cases entity <;> decide
  have hname : ∀ unit ∈ entity.reference.tail, ¬ IsMarkup unit ∧ unit ≠ 38 :=
    fun unit hunit => of_decide_eq_true (List.all_eq_true.1 hall unit hunit)
  have hamp : ¬ IsMarkup 38 := by decide
  exact IsEscaped.cons hamp (fun _ => ⟨entity, List.prefix_append _ _⟩) (hrest.append_plain hname)

theorem isText_append {front : List UInt16} (hfront : ∀ unit ∈ front, IsCharacter unit)
    (hrest : IsText rest) : IsText (front ++ rest) := by
  induction front with
  | nil => exact hrest
  | cons unit front ih =>
    refine IsText.character (hfront unit List.mem_cons_self) (ih fun other hother => ?_)
    exact hfront other (List.mem_cons_of_mem _ hother)

theorem isCharacter_reference (entity : Entity) : ∀ unit ∈ entity.reference, IsCharacter unit := by
  have hall : (entity.reference.all fun unit => decide (IsCharacter unit)) := by
    cases entity <;> decide
  exact fun unit hunit => of_decide_eq_true (List.all_eq_true.1 hall unit hunit)

end PlaybackConnector.Xml
