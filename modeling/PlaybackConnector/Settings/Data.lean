import PlaybackConnector.Session.State
import Mathlib

/-!
# The settings and their limits

The settings of the application (`SettingsData.hpp`) and the limits that every text and list in
them keeps (`SettingsLimits.hpp`). Numbers have the width of the source; `IsPersistable` is what a
document must be to be written, `RatingPromptData.Valid` what its rating prompt must be to be read
back, and `SettingsData.Valid` is both.
-/

namespace PlaybackConnector.Settings

/-! ## Limits -/

/-- Source: `c_maxSettingsFileBytes` (`SettingsLimits.hpp:11`). -/
def maxSettingsFileBytes : Nat := 4 * 1024 * 1024

/-- Source: `c_maxPersistedDeviceCount` (`SettingsLimits.hpp:12`). -/
def maxPersistedDeviceCount : Nat := 384

/-- Source: `c_maxDeviceIdCharacters` (`SettingsLimits.hpp:13`). -/
def maxDeviceIdCharacters : Nat := 512

/-- Source: `c_maxDeviceNameCharacters` (`SettingsLimits.hpp:14`). -/
def maxDeviceNameCharacters : Nat := 256

/-- Source: `c_maxDeviceAliasCharacters` (`SettingsLimits.hpp:15`). -/
def maxDeviceAliasCharacters : Nat := 128

/-- Source: `c_minWindowDpi` (`SettingsLimits.hpp:17`). -/
def minWindowDpi : UInt32 := 48

/-- Source: `c_maxWindowDpi` (`SettingsLimits.hpp:18`). -/
def maxWindowDpi : UInt32 := 960

/-- An ASCII literal `L"…"` of the source. -/
def wide (text : String) : WString := text.toList.map fun c => c.toNat.toUInt16

/-- Source: `IsValidUtf16` (`SettingsLimits.hpp:30`). -/
def isValidUtf16 : WString → Bool
  | [] => true
  | character :: rest =>
    if 0xD800 ≤ character ∧ character ≤ 0xDBFF then
      match rest with
      | [] => false
      | low :: rest => if low < 0xDC00 ∨ low > 0xDFFF then false else isValidUtf16 rest
    else if 0xDC00 ≤ character ∧ character ≤ 0xDFFF then false
    else isValidUtf16 rest

/-- Source: `IsBoundedUtf16` (`SettingsLimits.hpp:48`). -/
def IsBoundedUtf16 (value : WString) (limit : Nat) : Prop :=
  value.length ≤ limit ∧ 0 ∉ value ∧ isValidUtf16 value = true

instance (value : WString) (limit : Nat) : Decidable (IsBoundedUtf16 value limit) :=
  inferInstanceAs (Decidable (_ ∧ _ ∧ _))

/-- Source: `TruncateUtf16` (`SettingsLimits.hpp:57`). -/
def truncateUtf16 (value : WString) (limit : Nat) : WString :=
  if 0 ∈ value ∨ isValidUtf16 value = false then []
  else
    let length := min value.length limit
    if length ≠ value.length ∧ length ≠ 0 ∧
        0xD800 ≤ value.getD (length - 1) 0 ∧ value.getD (length - 1) 0 ≤ 0xDBFF then
      value.take (length - 1)
    else value.take length

/-- Source: `IsSupportedLanguage` (`SettingsLimits.hpp:52`). -/
def supportedLanguages : List WString :=
  ["system", "en", "de", "fr", "es", "ja", "ko", "zh_hans", "zh_hant"].map wide

/-! ## Data -/

/-- Source: `DeviceSettings` (`SettingsData.hpp:10`). -/
structure DeviceSettings where
  id : WString
  name : WString
  deviceAlias : WString
  connectOnStartup : Bool
  reconnectOnConnectionLoss : Bool
deriving Repr, DecidableEq

/-- Source: `DefaultDeviceMode` (`SettingsData.hpp:20`). -/
inductive DefaultDeviceMode
  | lastConnected | specificDevice
deriving Repr, DecidableEq

/-- Source: `RatingPromptData` (`SettingsData.hpp:24`). -/
structure RatingPromptData where
  firstLaunchDate : WString := []
  usageDays : Int32 := 0
  lastUsageDate : WString := []
  asked : Bool := false
deriving DecidableEq

/-- Source: `PersistedWindowBounds` (`SettingsData.hpp:33`). -/
structure PersistedWindowBounds where
  x : Int32
  y : Int32
  width : Int32
  height : Int32
  dpi : UInt32
deriving DecidableEq

/-- Source: `SettingsData` (`SettingsData.hpp:43`). -/
structure SettingsData where
  globalConnectOnStartup : Bool := false
  globalReconnectOnConnectionLoss : Bool := false
  allowIncomingConnections : Bool := false
  startWithWindows : Bool := false
  showNotifications : Bool := true
  useSystemBackdropEffects : Bool := true
  language : WString := wide "system"
  settingsWindowBounds : Option PersistedWindowBounds := none
  privacyModeEnabled : Bool := false
  defaultDevice : DefaultDeviceMode := .lastConnected
  defaultDeviceId : WString := []
  devices : List DeviceSettings := []
  lastConnectedIds : List WString := []
  ratingPrompt : RatingPromptData := {}
deriving DecidableEq

/-! ## Validation -/

/-- The limits on the window bounds. Source: `IsPersistable` (`SettingsCodec.cpp:122`). -/
structure PersistedWindowBounds.IsPersistable (bounds : PersistedWindowBounds) : Prop where
  width : 0 < bounds.width
  height : 0 < bounds.height
  minDpi : minWindowDpi ≤ bounds.dpi
  maxDpi : bounds.dpi ≤ maxWindowDpi

instance (bounds : PersistedWindowBounds) : Decidable bounds.IsPersistable :=
  decidable_of_iff
    (0 < bounds.width ∧ 0 < bounds.height ∧ minWindowDpi ≤ bounds.dpi ∧ bounds.dpi ≤ maxWindowDpi)
    ⟨fun ⟨h₁, h₂, h₃, h₄⟩ => ⟨h₁, h₂, h₃, h₄⟩, fun ⟨h₁, h₂, h₃, h₄⟩ => ⟨h₁, h₂, h₃, h₄⟩⟩

/-- A device id that the settings take: not empty and within its limit. -/
def IsDeviceId (id : WString) : Prop := id ≠ [] ∧ IsBoundedUtf16 id maxDeviceIdCharacters

instance (id : WString) : Decidable (IsDeviceId id) := inferInstanceAs (Decidable (_ ∧ _))

/-- The limits on one row of the devices. Source: `IsPersistable` (`SettingsCodec.cpp:130`). -/
structure DeviceSettings.IsPersistable (device : DeviceSettings) : Prop where
  id : IsDeviceId device.id
  name : IsBoundedUtf16 device.name maxDeviceNameCharacters
  deviceAlias : IsBoundedUtf16 device.deviceAlias maxDeviceAliasCharacters

instance (device : DeviceSettings) : Decidable device.IsPersistable :=
  decidable_of_iff
    (IsDeviceId device.id ∧ IsBoundedUtf16 device.name maxDeviceNameCharacters ∧
      IsBoundedUtf16 device.deviceAlias maxDeviceAliasCharacters)
    ⟨fun ⟨h₁, h₂, h₃⟩ => ⟨h₁, h₂, h₃⟩, fun ⟨h₁, h₂, h₃⟩ => ⟨h₁, h₂, h₃⟩⟩

/-- What can be written. Source: `IsPersistable` (`SettingsCodec.cpp:112`). -/
structure IsPersistable (data : SettingsData) : Prop where
  deviceCount : data.devices.length ≤ maxPersistedDeviceCount
  connectedCount : data.lastConnectedIds.length ≤ maxPersistedDeviceCount
  language : data.language ∈ supportedLanguages
  defaultDeviceId : IsBoundedUtf16 data.defaultDeviceId maxDeviceIdCharacters
  defaultDevice : data.defaultDevice = .specificDevice ↔ data.defaultDeviceId ≠ []
  bounds : ∀ bounds ∈ data.settingsWindowBounds, bounds.IsPersistable
  devices : ∀ device ∈ data.devices, device.IsPersistable
  deviceIds : (data.devices.map DeviceSettings.id).Nodup
  connected : ∀ id ∈ data.lastConnectedIds, IsDeviceId id
  connectedIds : data.lastConnectedIds.Nodup

instance (data : SettingsData) : Decidable (IsPersistable data) :=
  decidable_of_iff
    (data.devices.length ≤ maxPersistedDeviceCount ∧
      data.lastConnectedIds.length ≤ maxPersistedDeviceCount ∧
      data.language ∈ supportedLanguages ∧
      IsBoundedUtf16 data.defaultDeviceId maxDeviceIdCharacters ∧
      (data.defaultDevice = .specificDevice ↔ data.defaultDeviceId ≠ []) ∧
      (∀ bounds ∈ data.settingsWindowBounds, bounds.IsPersistable) ∧
      (∀ device ∈ data.devices, device.IsPersistable) ∧
      (data.devices.map DeviceSettings.id).Nodup ∧
      (∀ id ∈ data.lastConnectedIds, IsDeviceId id) ∧ data.lastConnectedIds.Nodup)
    ⟨fun ⟨h₁, h₂, h₃, h₄, h₅, h₆, h₇, h₈, h₉, h₁₀⟩ => ⟨h₁, h₂, h₃, h₄, h₅, h₆, h₇, h₈, h₉, h₁₀⟩,
      fun ⟨h₁, h₂, h₃, h₄, h₅, h₆, h₇, h₈, h₉, h₁₀⟩ =>
        ⟨h₁, h₂, h₃, h₄, h₅, h₆, h₇, h₈, h₉, h₁₀⟩⟩

/-! ## Dates -/

/-- The days of a month of the Gregorian calendar. -/
def lastDay (year month : Nat) : Nat :=
  if month = 2 then if year % 4 = 0 ∧ (year % 100 ≠ 0 ∨ year % 400 = 0) then 29 else 28
  else if month = 4 ∨ month = 6 ∨ month = 9 ∨ month = 11 then 30
  else 31

/-- `std::chrono::year_month_day::ok` for a year of four digits. -/
def isCalendarDay (year month day : Nat) : Bool :=
  decide (1 ≤ month ∧ month ≤ 12 ∧ 1 ≤ day ∧ day ≤ lastDay year month)

/-- The digit at a place of a date. -/
def digit (date : WString) (i : Nat) : Nat := (date.getD i 0).toNat - 48

/-- A date `YYYY-MM-DD` of the calendar. Source: `Decode` (`SettingsCodec.cpp:201`). -/
def isIsoDate (date : WString) : Bool :=
  date.length == 10 && date.getD 4 0 == 45 && date.getD 7 0 == 45 &&
    (List.range 10).all (fun i => i == 4 || i == 7 ||
      (decide (48 ≤ date.getD i 0) && decide (date.getD i 0 ≤ 57))) &&
    isCalendarDay
      (digit date 0 * 1000 + digit date 1 * 100 + digit date 2 * 10 + digit date 3)
      (digit date 5 * 10 + digit date 6) (digit date 8 * 10 + digit date 9)

/-- A date of the rating prompt: empty until it is set. -/
def IsDate (date : WString) : Prop := date = [] ∨ isIsoDate date = true

instance (date : WString) : Decidable (IsDate date) := inferInstanceAs (Decidable (_ ∨ _))

/-- What the decoder asks of the rating prompt. Source: `Decode` (`SettingsCodec.cpp:199`). -/
structure RatingPromptData.Valid (prompt : RatingPromptData) : Prop where
  usageDays : 0 ≤ prompt.usageDays
  firstLaunchDate : IsDate prompt.firstLaunchDate
  lastUsageDate : IsDate prompt.lastUsageDate

instance (prompt : RatingPromptData) : Decidable prompt.Valid :=
  decidable_of_iff
    (0 ≤ prompt.usageDays ∧ IsDate prompt.firstLaunchDate ∧ IsDate prompt.lastUsageDate)
    ⟨fun ⟨h₁, h₂, h₃⟩ => ⟨h₁, h₂, h₃⟩, fun ⟨h₁, h₂, h₃⟩ => ⟨h₁, h₂, h₃⟩⟩

/-- Settings that can be written and read back. -/
structure SettingsData.Valid (data : SettingsData) : Prop where
  persistable : IsPersistable data
  ratingPrompt : data.ratingPrompt.Valid

/-! ## Valid text -/

theorem isValidUtf16_of_lt {value : WString} (h : ∀ unit ∈ value, unit < 0xD800) :
    isValidUtf16 value = true := by
  induction value with
  | nil => rfl
  | cons unit rest ih =>
    have hunit := UInt16.lt_iff_toNat_lt.1 (h unit List.mem_cons_self)
    have hhigh : ¬ (0xD800 ≤ unit ∧ unit ≤ 0xDBFF) := fun hle => by
      have hlow := UInt16.le_iff_toNat_le.1 hle.1
      omega
    have hlow : ¬ (0xDC00 ≤ unit ∧ unit ≤ 0xDFFF) := fun hle => by
      have hlow := UInt16.le_iff_toNat_le.1 hle.1
      simp at hlow hunit
      omega
    unfold isValidUtf16
    rw [if_neg hhigh, if_neg hlow]
    exact ih fun unit hunit => h unit (List.mem_cons_of_mem _ hunit)

/-- Valid text can be cut anywhere but between the units of a pair. -/
theorem isValidUtf16_take {value : WString} (hvalid : isValidUtf16 value = true) {n : Nat}
    (hn : n ≠ 0 → n < value.length →
      ¬ (0xD800 ≤ value.getD (n - 1) 0 ∧ value.getD (n - 1) 0 ≤ 0xDBFF)) :
    isValidUtf16 (value.take n) = true := by
  fun_induction isValidUtf16 value generalizing n with
  | case1 => simp [isValidUtf16]
  | case2 | case3 | case5 => exact absurd hvalid Bool.false_ne_true
  | case4 character hhigh low rest hlow ih =>
    match n with
    | 0 => rfl
    | 1 => exact absurd hhigh (hn Nat.one_ne_zero (by simp))
    | n + 2 =>
      have hrest : isValidUtf16 (rest.take n) = true := by
        refine ih hvalid fun hne hlt => ?_
        obtain ⟨n, rfl⟩ := Nat.exists_eq_succ_of_ne_zero hne
        exact hn (Nat.succ_ne_zero _) (Nat.succ_lt_succ (Nat.succ_lt_succ hlt))
      simp [isValidUtf16, hhigh, hlow, hrest]
  | case6 character rest hhigh hlow ih =>
    cases n with
    | zero => rfl
    | succ n =>
      have hrest : isValidUtf16 (rest.take n) = true := by
        refine ih hvalid fun hne hlt => ?_
        obtain ⟨n, rfl⟩ := Nat.exists_eq_succ_of_ne_zero hne
        exact hn (Nat.succ_ne_zero _) (Nat.succ_lt_succ hlt)
      rw [List.take_succ_cons]
      unfold isValidUtf16
      rw [if_neg hhigh, if_neg hlow]
      exact hrest

/-- A first unit of a pair is not followed by another one. -/
theorem not_high_of_high {value : WString} (hvalid : isValidUtf16 value = true) {n : Nat}
    (hn : 0xD800 ≤ value.getD n 0 ∧ value.getD n 0 ≤ 0xDBFF) :
    ¬ (0xD800 ≤ value.getD (n + 1) 0 ∧ value.getD (n + 1) 0 ≤ 0xDBFF) := by
  fun_induction isValidUtf16 value generalizing n with
  | case1 => simp
  | case2 | case3 | case5 => exact absurd hvalid Bool.false_ne_true
  | case4 character hhigh low rest hlow ih =>
    match n with
    | 0 =>
      intro hnext
      have hbad : low < 0xDC00 := UInt16.lt_of_le_of_lt hnext.2 (by decide)
      exact hlow (.inl hbad)
    | 1 =>
      have hbad : low < 0xDC00 := UInt16.lt_of_le_of_lt hn.2 (by decide)
      exact absurd (.inl hbad) hlow
    | n + 2 => exact ih hvalid hn
  | case6 character rest hhigh hlow ih =>
    cases n with
    | zero => exact absurd hn hhigh
    | succ n => exact ih hvalid hn

/-- A text is cut to one that can be stored. -/
theorem truncateUtf16_bounded (value : WString) (limit : Nat) :
    IsBoundedUtf16 (truncateUtf16 value limit) limit := by
  unfold truncateUtf16
  split
  next => exact ⟨Nat.zero_le _, List.not_mem_nil, rfl⟩
  next hgood =>
    obtain ⟨hzero, hvalid⟩ := not_or.1 hgood
    rw [Bool.not_eq_false] at hvalid
    have hnul (n : Nat) : 0 ∉ value.take n := fun hmem => hzero (List.mem_of_mem_take hmem)
    dsimp only
    split
    next hcut =>
      obtain ⟨-, -, hhigh⟩ := hcut
      refine ⟨?_, hnul _, isValidUtf16_take hvalid fun hne _ hbefore => ?_⟩
      · rw [List.length_take]
        omega
      · refine not_high_of_high hvalid hbefore ?_
        rwa [Nat.sub_add_cancel (Nat.one_le_iff_ne_zero.2 hne)]
    next hkept =>
      refine ⟨?_, hnul _, isValidUtf16_take hvalid fun hne hlt hhigh => ?_⟩
      · rw [List.length_take]
        omega
      · exact hkept ⟨Nat.ne_of_lt hlt, hne, hhigh⟩

/-- A date is written with digits and dashes. -/
theorem IsDate.isValidUtf16 {date : WString} (h : IsDate date) : isValidUtf16 date = true := by
  rcases h with rfl | h
  · rfl
  · refine isValidUtf16_of_lt fun unit hunit => ?_
    simp only [isIsoDate, Bool.and_eq_true, beq_iff_eq, List.all_eq_true, List.mem_range,
      Bool.or_eq_true, decide_eq_true_eq] at h
    obtain ⟨⟨⟨⟨hlength, hfour⟩, hseven⟩, hdigits⟩, -⟩ := h
    obtain ⟨i, hi, rfl⟩ := List.getElem_of_mem hunit
    have hget : date.getD i 0 = date[i] := by simp [hi]
    rw [← hget]
    rcases hdigits i (by omega) with (rfl | rfl) | hdigit
    · rw [hfour]
      decide
    · rw [hseven]
      decide
    · have hle := UInt16.le_iff_toNat_le.1 hdigit.2
      rw [UInt16.lt_iff_toNat_lt]
      simp at hle ⊢
      omega

/-- The settings of a store that has not loaded or changed anything. -/
theorem valid_default : ({} : SettingsData).Valid := by
  refine ⟨by decide, by decide⟩

end PlaybackConnector.Settings
