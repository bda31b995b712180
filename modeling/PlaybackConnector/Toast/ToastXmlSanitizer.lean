import PlaybackConnector.Settings.Data
import PlaybackConnector.Text.Xml

/-!
# Text in the XML of a toast

`EscapeXml` (`ToastXmlSanitizer.hpp`): names of devices and messages, which may be any 16-bit units,
as character data. `escapeXml_wellFormed`: the result is text of characters that XML allows, with no
markup in it but references to the predefined entities, and it stands for the value with U+FFFD in
the place of every unit that stands for no character.
-/

namespace PlaybackConnector.Toast

open Settings (wide)

/-- Source: `c_replacementCharacter` (`ToastXmlSanitizer.hpp:9`). -/
def replacementCharacter : UInt16 := 0xFFFD

/-- What is appended for a character of its own. Source: `ToastXmlSanitizer.hpp:37`. -/
def escapeCharacter (ch : UInt16) : WString :=
  if ch = 38 then wide "&amp;"
  else if ch = 60 then wide "&lt;"
  else if ch = 62 then wide "&gt;"
  else if ch = 34 then wide "&quot;"
  else if ch = 39 then wide "&apos;"
  else [ch]

/-- The loop, with what is left of the value. Source: `EscapeXml` (`ToastXmlSanitizer.hpp:8`). -/
def escapeXml : WString → WString
  | [] => []
  | ch :: rest =>
    if 0xD800 ≤ ch ∧ ch ≤ 0xDBFF then
      match rest with
      | [] => [replacementCharacter]
      | low :: after =>
        if 0xDC00 ≤ low ∧ low ≤ 0xDFFF then ch :: low :: escapeXml after
        else replacementCharacter :: escapeXml (low :: after)
    else if 0xDC00 ≤ ch ∧ ch ≤ 0xDFFF then replacementCharacter :: escapeXml rest
    else if ch ≠ 9 ∧ ch ≠ 10 ∧ ch ≠ 13 ∧ (ch < 0x20 ∨ ch > 0xFFFD) then
      replacementCharacter :: escapeXml rest
    else escapeCharacter ch ++ escapeXml rest

/-- The units that are disallowed by their value are those that are neither a character nor half of
one. -/
theorem disallowed_iff {ch : UInt16} (hhigh : ¬ Xml.IsHighSurrogate ch)
    (hlow : ¬ Xml.IsLowSurrogate ch) :
    (ch ≠ 9 ∧ ch ≠ 10 ∧ ch ≠ 13 ∧ (ch < 0x20 ∨ ch > 0xFFFD)) ↔ ¬ Xml.IsCharacter ch := by
  simp only [Xml.IsHighSurrogate, Xml.IsLowSurrogate, Xml.IsCharacter, UInt16.le_iff_toNat_le,
    UInt16.lt_iff_toNat_lt, gt_iff_lt, ne_eq, ← UInt16.toNat_inj, UInt16.reduceToNat] at *
  omega

/-- A character is appended as it is or as the reference that stands for it. -/
theorem escapeCharacter_cases (ch : UInt16) :
    (∃ entity : Xml.Entity, ch = entity.character ∧ escapeCharacter ch = entity.reference) ∨
      (¬ Xml.IsMarkup ch ∧ ch ≠ 38 ∧ escapeCharacter ch = [ch]) := by
  unfold escapeCharacter
  split_ifs with hamp hlt hgt hquot hapos
  · exact .inl ⟨.amp, hamp, rfl⟩
  · exact .inl ⟨.lt, hlt, rfl⟩
  · exact .inl ⟨.gt, hgt, rfl⟩
  · exact .inl ⟨.quot, hquot, rfl⟩
  · exact .inl ⟨.apos, hapos, rfl⟩
  · refine .inr ⟨?_, hamp, rfl⟩
    rintro (h | h | h | h)
    exacts [hlt h, hgt h, hquot h, hapos h]

/-! ## The rounds of the loop -/

/-- What the rounds append, after the unit before them: the two units of a pair are taken over, a
unit that stands for nothing is replaced, and a character is escaped. -/
inductive Rounds : Option UInt16 → WString → WString → Prop
  | nil (previous : Option UInt16) : Rounds previous [] []
  | pair (previous : Option UInt16) {high low : UInt16} {rest result : WString}
    (hhigh : Xml.IsHighSurrogate high) (hlow : Xml.IsLowSurrogate low)
    (hrest : Rounds (some low) rest result) :
    Rounds previous (high :: low :: rest) (high :: low :: result)
  | replaced {previous : Option UInt16} {ch : UInt16} {rest result : WString}
    (hch : ¬ Xml.Stands previous ch rest.head?) (hrest : Rounds (some ch) rest result) :
    Rounds previous (ch :: rest) (Xml.replacement :: result)
  | character (previous : Option UInt16) {ch : UInt16} {rest result : WString}
    (hch : Xml.IsCharacter ch) (hrest : Rounds (some ch) rest result) :
    Rounds previous (ch :: rest) (escapeCharacter ch ++ result)

/-- The rounds of `escapeXml`, which never begin between the units of a pair. -/
theorem rounds_escapeXml (value : WString) (previous : Option UInt16)
    (hprevious : ∀ high ∈ previous, Xml.IsHighSurrogate high →
      ∀ low ∈ value.head?, ¬ Xml.IsLowSurrogate low) :
    Rounds previous value (escapeXml value) := by
  fun_induction escapeXml value generalizing previous with
  | case1 => exact .nil previous
  | case2 ch hhigh =>
    refine .replaced (fun hstands => ?_) (.nil _)
    obtain ⟨low, hmem, -⟩ := (Xml.stands_high previous _ hhigh).1 hstands
    cases hmem
  | case3 ch hhigh low after hlow ih =>
    refine .pair previous hhigh hlow (ih _ fun high hmem hhigh' => ?_)
    cases hmem
    exact absurd hhigh' (Xml.IsLowSurrogate.not_high hlow)
  | case4 ch hhigh low after hlow ih =>
    refine .replaced (fun hstands => ?_) (ih _ fun _ _ _ other hmem => ?_)
    · obtain ⟨_, hmem, hlow'⟩ := (Xml.stands_high previous _ hhigh).1 hstands
      cases hmem
      exact hlow hlow'
    · cases hmem
      exact hlow
  | case5 ch rest hhigh hlow ih =>
    refine .replaced (fun hstands => ?_) (ih _ fun high hmem hhigh' => ?_)
    · obtain ⟨high, hmem, hhigh'⟩ := (Xml.stands_low previous _ hlow).1 hstands
      exact hprevious high hmem hhigh' ch rfl hlow
    · cases hmem
      exact absurd hhigh' hhigh
  | case6 ch rest hhigh hlow hdisallowed ih =>
    refine .replaced (fun hstands => ?_) (ih _ fun high hmem hhigh' => ?_)
    · have hcharacter := (Xml.stands_other previous _ hhigh hlow).1 hstands
      exact (disallowed_iff hhigh hlow).1 hdisallowed hcharacter
    · cases hmem
      exact absurd hhigh' hhigh
  | case7 ch rest hhigh hlow hallowed ih =>
    have hcharacter := not_not.1 (mt (disallowed_iff hhigh hlow).2 hallowed)
    refine .character previous hcharacter (ih _ fun high hmem hhigh' => ?_)
    cases hmem
    exact absurd hhigh' hhigh

section
variable {previous : Option UInt16} {value result : WString}

theorem Rounds.isText (h : Rounds previous value result) : Xml.IsText result := by
  induction h with
  | nil => exact .nil
  | pair _ hhigh hlow _ ih => exact .pair hhigh hlow ih
  | replaced _ _ ih => exact .character Xml.isCharacter_replacement ih
  | @character _ ch _ _ hch _ ih =>
    obtain ⟨entity, -, hescape⟩ | ⟨-, -, hescape⟩ := escapeCharacter_cases ch
    · rw [hescape]
      exact Xml.isText_append (Xml.isCharacter_reference entity) ih
    · rw [hescape]
      exact .character hch ih

theorem Rounds.isEscaped (h : Rounds previous value result) : Xml.IsEscaped result := by
  induction h with
  | nil => exact .nil
  | pair _ hhigh hlow _ ih => exact (ih.cons_surrogate (.inr hlow)).cons_surrogate (.inl hhigh)
  | replaced _ _ ih => exact Xml.IsEscaped.cons (by decide) (fun h => absurd h (by decide)) ih
  | @character _ ch _ _ hch _ ih =>
    obtain ⟨entity, -, hescape⟩ | ⟨hmarkup, hamp, hescape⟩ := escapeCharacter_cases ch
    · rw [hescape]
      exact ih.reference entity
    · rw [hescape]
      exact Xml.IsEscaped.cons hmarkup (fun h => absurd h hamp) ih

theorem Rounds.decode (h : Rounds previous value result) :
    Xml.decode result = Xml.replaceFrom previous value := by
  induction h with
  | nil => rfl
  | pair previous hhigh hlow _ ih =>
    rw [Xml.decode_unit hhigh.ne_amp, Xml.decode_unit hlow.ne_amp, ih,
      Xml.replaceFrom_pair previous hhigh hlow]
  | replaced hch _ ih =>
    rw [Xml.decode_unit (by decide), ih, Xml.replaceFrom_not_stands hch]
  | @character previous ch _ _ hch _ ih =>
    rw [Xml.replaceFrom_stands (.inl hch), ← ih]
    obtain ⟨entity, hch, hescape⟩ | ⟨-, hamp, hescape⟩ := escapeCharacter_cases ch
    · rw [hescape, Xml.decode_reference, hch]
    · rw [hescape]
      exact Xml.decode_unit hamp _

end

/-- The escaped text is text of XML whose markup is all references to predefined entities. It stands
for the value, of which only the units that stand for nothing are replaced; of text there are
none. -/
theorem escapeXml_wellFormed (value : WString) :
    Xml.IsText (escapeXml value) ∧ Xml.IsEscaped (escapeXml value) ∧
      Xml.decode (escapeXml value) = Xml.replaceInvalid value ∧
      (Xml.IsText value → Xml.decode (escapeXml value) = value) := by
  have hrounds := rounds_escapeXml value none fun high hmem => by cases hmem
  refine ⟨hrounds.isText, hrounds.isEscaped, hrounds.decode, fun htext => ?_⟩
  exact hrounds.decode.trans (Xml.replaceFrom_of_isText htext none)

-- A lone surrogate before a pair, and markup.
example : Xml.decode (escapeXml [0xD83D, 0xD83D, 0xDE00, 38, 0xFFFE]) =
    [0xFFFD, 0xD83D, 0xDE00, 38, 0xFFFD] := by decide

end PlaybackConnector.Toast
