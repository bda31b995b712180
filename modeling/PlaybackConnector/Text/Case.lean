import PlaybackConnector.Session.State
import Mathlib

/-!
# Letter case and hexadecimal digits

The helpers of `Text.hpp`. `std::towlower` is the C library's, whose mapping depends on the locale:
it is a parameter, of which nothing is assumed but what `ToLower.Documented` says, where it says so.
-/

namespace PlaybackConnector

/-- What `std::towlower` does. -/
abbrev ToLower := UInt16 → UInt16

/-- `std::towlower` in the C locale, which maps the ASCII letters. -/
def asciiToLower : ToLower := fun character =>
  if 65 ≤ character ∧ character ≤ 90 then character + 32 else character

/-- What is documented of `std::towlower` in the locale that a program starts in: it maps the ASCII
characters as the C locale does, and to `-`, which is no letter, only itself. -/
structure ToLower.Documented (toLower : ToLower) : Prop where
  /-- The ASCII letters, and nothing else in ASCII. -/
  ascii : ∀ character < 128, toLower character = asciiToLower character
  /-- Nothing else becomes `-`. -/
  dash : ∀ character, toLower character = 45 → character = 45

theorem asciiToLower_documented : ToLower.Documented asciiToLower where
  ascii _ _ := rfl
  dash character h := by
    unfold asciiToLower at h
    split at h
    · next hletter =>
      obtain ⟨hlow, hhigh⟩ := hletter
      rw [UInt16.le_iff_toNat_le] at hlow hhigh
      have hsum := congrArg UInt16.toNat h
      rw [UInt16.toNat_add] at hsum
      have h65 : (65 : UInt16).toNat = 65 := rfl
      have h90 : (90 : UInt16).toNat = 90 := rfl
      have h32 : (32 : UInt16).toNat = 32 := rfl
      have h45 : (45 : UInt16).toNat = 45 := rfl
      omega
    · exact h

namespace Text

variable (toLower : ToLower)

/-- Source: `LowerInvariant` (`Text.hpp:13`). -/
def lowerInvariant (value : WString) : WString := value.map toLower

/-- Source: `EqualsIgnoreCase` (`Text.hpp:22`). -/
def equalsIgnoreCase (lhs rhs : WString) : Bool :=
  lhs.length == rhs.length && lowerInvariant toLower lhs == lowerInvariant toLower rhs

/-- Source: `ContainsIgnoreCase` (`Text.hpp:26`). -/
def containsIgnoreCase (value query : WString) : Bool :=
  !query.isEmpty && decide (lowerInvariant toLower query <:+: lowerInvariant toLower value)

/-- Source: `NormalizeHex` (`Text.hpp:34`). -/
def isHexDigit (character : UInt16) : Bool :=
  (48 ≤ character && character ≤ 57) || (97 ≤ character && character ≤ 102) ||
    (65 ≤ character && character ≤ 70)

/-- Source: `NormalizeHex` (`Text.hpp:30`). -/
def normalizeHex (value : WString) : WString := (value.filter isHexDigit).map toLower

variable {toLower} {value lhs rhs : WString}

theorem equalsIgnoreCase_iff : equalsIgnoreCase toLower lhs rhs = true ↔
    lowerInvariant toLower lhs = lowerInvariant toLower rhs := by
  unfold equalsIgnoreCase
  rw [Bool.and_eq_true, beq_iff_eq, beq_iff_eq]
  refine ⟨And.right, fun h => ⟨?_, h⟩⟩
  simpa [lowerInvariant] using congrArg List.length h

theorem equalsIgnoreCase_refl : equalsIgnoreCase toLower value value = true :=
  equalsIgnoreCase_iff.2 rfl

/-- Only `-` begins what equals a word that begins with it. -/
theorem head_of_equalsIgnoreCase (hlaw : toLower.Documented) (hhead : rhs.head? = some 45)
    (h : equalsIgnoreCase toLower lhs rhs = true) : lhs.head? = some 45 := by
  have hlower := congrArg List.head? (equalsIgnoreCase_iff.1 h)
  simp only [lowerInvariant, List.head?_map, hhead, Option.map_some, Option.map_eq_some_iff]
    at hlower
  obtain ⟨character, hcharacter, heq⟩ := hlower
  have hdash : toLower 45 = 45 := hlaw.ascii 45 (by decide)
  rw [hcharacter, hlaw.dash character (heq.trans hdash)]

/-- The lower case of an ASCII text. -/
theorem lowerInvariant_ascii (hlaw : toLower.Documented)
    (h : ∀ character ∈ value, character < 128) : lowerInvariant toLower value = lowerInvariant asciiToLower value :=
  List.map_congr_left fun character hmem => hlaw.ascii character (h character hmem)

end Text

end PlaybackConnector
