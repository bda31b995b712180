import PlaybackConnector.Settings.Libraries
import PlaybackConnector.Settings.RoundTrip
import Mathlib

/-!
# The size of the settings document

`encode` returns text for all settings that are persistable and whose rating dates can be converted
(`encode_isSome`): the limits on the texts and lists keep the document within the size that loading
accepts (`document_isSome`). `decode_encode_iff` says which of them are read back, and
`decoded_written_back` that all those that were read are.
-/

namespace PlaybackConnector.Settings

variable {lib : TextLibraries} {data : SettingsData} {json value : Json} {bytes : ByteArray}

/-! ## Texts -/

/-- A text that the conversions take, of a bounded length. -/
def IsText (limit : Nat) (text : WString) : Prop :=
  isValidUtf16 text = true ∧ text.length ≤ limit

theorem IsBoundedUtf16.isText {text : WString} {limit : Nat} (h : IsBoundedUtf16 text limit) :
    IsText limit text :=
  ⟨h.2.2, h.1⟩

theorem IsDate.isText {date : WString} (h : IsDate date) : IsText 10 date := by
  refine ⟨h.isValidUtf16, ?_⟩
  rcases h with rfl | h
  · simp
  · simp only [isIsoDate, Bool.and_eq_true, beq_iff_eq] at h
    omega

theorem isText_language {language : WString} (h : language ∈ supportedLanguages) :
    IsText 7 language := by
  refine ⟨isValidUtf16_language h, ?_⟩
  simp only [supportedLanguages, wide, List.map_cons, List.map_nil, List.mem_cons,
    List.not_mem_nil, or_false] at h
  rcases h with rfl | rfl | rfl | rfl | rfl | rfl | rfl | rfl | rfl
  all_goals simp

/-- A text is converted, to no more characters than it has units. -/
theorem toString_of_isText (hlib : lib.Lawful) {limit : Nat} {text : WString}
    (h : IsText limit text) : ∃ s, lib.toString text = some s ∧ s.length ≤ limit := by
  obtain ⟨s, hs⟩ := Option.isSome_iff_exists.1 (hlib.toString_isSome text h.1)
  exact ⟨s, hs, Nat.le_trans (hlib.toString_length text s h.1 hs) h.2⟩

theorem mapM_isSome {α β : Type} {f : α → Option β} {P : β → Prop} {l : List α}
    (h : ∀ a ∈ l, ∃ b, f a = some b ∧ P b) : ∃ r, l.mapM f = some r ∧ ∀ b ∈ r, P b := by
  induction l with
  | nil => exact ⟨[], rfl, by simp⟩
  | cons a l ih =>
    obtain ⟨b, hb, hPb⟩ := h a List.mem_cons_self
    obtain ⟨r, hr, hPr⟩ := ih fun a ha => h a (List.mem_cons_of_mem _ ha)
    exact ⟨b :: r, mapM_cons_eq_some.2 ⟨b, r, hb, hr, rfl⟩, List.forall_mem_cons.2 ⟨hPb, hPr⟩⟩

/-! ## The parts of a document -/

theorem textBound_encodeBounds (bounds : PersistedWindowBounds) :
    (encodeBounds bounds).textBound ≤ 218 := by
  have hmembers := Json.textBoundMembers_ofMembers
    [("x", .integer bounds.x.toInt), ("y", .integer bounds.y.toInt),
      ("width", .integer bounds.width.toInt), ("height", .integer bounds.height.toInt),
      ("dpi", .integer bounds.dpi.toNat)]
  have hx : "x".length = 1 := rfl
  have hy : "y".length = 1 := rfl
  have hwidth : "width".length = 5 := rfl
  have hheight : "height".length = 6 := rfl
  have hdpi : "dpi".length = 3 := rfl
  simp only [Json.textBoundMembers, Json.textBound, hx, hy, hwidth, hheight, hdpi] at hmembers
  simp only [encodeBounds, Json.textBound]
  omega

theorem encodeDevice_isSome (hlib : lib.Lawful) {device : DeviceSettings}
    (hdevice : device.IsPersistable) :
    ∃ value, encodeDevice lib device = some value ∧ value.textBound ≤ 5726 := by
  obtain ⟨id, hid, hidLength⟩ := toString_of_isText hlib hdevice.id.2.isText
  obtain ⟨name, hname, hnameLength⟩ := toString_of_isText hlib hdevice.name.isText
  obtain ⟨deviceAlias, halias, haliasLength⟩ := toString_of_isText hlib hdevice.deviceAlias.isText
  refine ⟨_, by simp only [encodeDevice, hid, hname, halias]; rfl, ?_⟩
  have hmembers := Json.textBoundMembers_ofMembers
    [("id", .string id), ("name", .string name), ("alias", .string deviceAlias),
      ("connectOnStartup", .bool device.connectOnStartup),
      ("reconnectOnConnectionLoss", .bool device.reconnectOnConnectionLoss)]
  have h₁ : "id".length = 2 := rfl
  have h₂ : "name".length = 4 := rfl
  have h₃ : "alias".length = 5 := rfl
  have h₄ : "connectOnStartup".length = 16 := rfl
  have h₅ : "reconnectOnConnectionLoss".length = 25 := rfl
  simp only [Json.textBoundMembers, Json.textBound, h₁, h₂, h₃, h₄, h₅] at hmembers
  simp only [maxDeviceIdCharacters, maxDeviceNameCharacters, maxDeviceAliasCharacters]
    at hidLength hnameLength haliasLength
  simp only [Json.textBound]
  omega

theorem encodeConnectedId_isSome (hlib : lib.Lawful) {id : WString} (hid : IsDeviceId id) :
    ∃ value, encodeConnectedId lib id = some value ∧ value.textBound ≤ 3074 := by
  obtain ⟨text, htext, hlength⟩ := toString_of_isText hlib hid.2.isText
  refine ⟨_, by simp only [encodeConnectedId, htext]; rfl, ?_⟩
  simp only [maxDeviceIdCharacters] at hlength
  simp only [Json.textBound]
  omega

theorem encodeRating_isSome (hlib : lib.Lawful) {prompt : RatingPromptData}
    (hfirst : IsText 10 prompt.firstLaunchDate) (hlast : IsText 10 prompt.lastUsageDate) :
    ∃ rating, encodeRating lib prompt = some rating ∧ ∀ value ∈ rating, value.textBound ≤ 419 := by
  unfold encodeRating
  split
  · exact ⟨none, rfl, by simp⟩
  · obtain ⟨firstText, hfirstText, hfirstLength⟩ := toString_of_isText hlib hfirst
    obtain ⟨lastText, hlastText, hlastLength⟩ := toString_of_isText hlib hlast
    refine ⟨_, by simp only [encodeRatingPrompt, hfirstText, hlastText]; rfl, ?_⟩
    rintro _ ⟨⟩
    have hmembers := Json.textBoundMembers_ofMembers
      [("firstLaunchDate", .string firstText), ("usageDays", .integer prompt.usageDays.toInt),
        ("lastUsageDate", .string lastText), ("asked", .bool prompt.asked)]
    have h₁ : "firstLaunchDate".length = 15 := rfl
    have h₂ : "usageDays".length = 9 := rfl
    have h₃ : "lastUsageDate".length = 13 := rfl
    have h₄ : "asked".length = 5 := rfl
    simp only [Json.textBoundMembers, Json.textBound, h₁, h₂, h₃, h₄] at hmembers
    simp only [Json.textBound]
    omega

/-! ## The document -/

theorem textBound_fixedMembers (language defaultDeviceId : String) (data : SettingsData) :
    Json.textBoundMembers (fixedMembers language defaultDeviceId data) ≤
      6 * language.length + 6 * defaultDeviceId.length + 2000 := by
  have h₁ : "schemaVersion".length = 13 := rfl
  have h₂ : "globalConnectOnStartup".length = 22 := rfl
  have h₃ : "globalReconnectOnConnectionLoss".length = 31 := rfl
  have h₄ : "allowIncomingConnections".length = 24 := rfl
  have h₅ : "startWithWindows".length = 16 := rfl
  have h₆ : "showNotifications".length = 17 := rfl
  have h₇ : "useSystemBackdropEffects".length = 24 := rfl
  have h₈ : "privacyModeEnabled".length = 18 := rfl
  have h₉ : "language".length = 8 := rfl
  have h₁₀ : "defaultDeviceMode".length = 17 := rfl
  have h₁₁ : "defaultDeviceId".length = 15 := rfl
  have h₁₂ : "devices".length = 7 := rfl
  have h₁₃ : "lastConnectedIds".length = 16 := rfl
  have hmode : (if data.defaultDevice = .specificDevice then "specificDevice"
      else "lastConnected").length ≤ 14 := by
    cases data.defaultDevice <;> decide
  simp only [fixedMembers, Json.textBoundMembers, Json.textBound, Json.textBoundElements, h₁, h₂,
    h₃, h₄, h₅, h₆, h₇, h₈, h₉, h₁₀, h₁₁, h₁₂, h₁₃]
  omega

/-- The members of a document: the two lists, the rating prompt, the window bounds, and what every
document has. -/
theorem textBound_documentMembers (language defaultDeviceId : String) {rating : Option Json}
    (devices ids : List Json) (data : SettingsData)
    (hrating : ∀ value ∈ rating, value.textBound ≤ 419) :
    Json.textBoundMembers (documentMembers language defaultDeviceId rating devices ids data) ≤
      Json.textBoundElements ids + Json.textBoundElements devices + 6 * language.length +
        6 * defaultDeviceId.length + 5000 := by
  have hbounds : ∀ value ∈ data.settingsWindowBounds.map encodeBounds, value.textBound ≤ 218 := by
    intro value hvalue
    obtain ⟨bounds, -, rfl⟩ := Option.map_eq_some_iff.1 hvalue
    exact textBound_encodeBounds bounds
  have h₁ : "settingsWindowBounds".length = 20 := rfl
  have h₂ : "ratingPrompt".length = 12 := rfl
  have h₃ : "devices".length = 7 := rfl
  have h₄ : "lastConnectedIds".length = 16 := rfl
  have hfixed := textBound_fixedMembers language defaultDeviceId data
  have hmembers := Json.textBoundMembers_ofMembers (fixedMembers language defaultDeviceId data)
  have hwindow := Json.textBoundMembers_setOption "settingsWindowBounds" _ 218 hbounds
    (Json.ofMembers (fixedMembers language defaultDeviceId data))
  have hprompt := Json.textBoundMembers_setOption "ratingPrompt" rating 419 hrating
    (Json.setOption "settingsWindowBounds" (data.settingsWindowBounds.map encodeBounds)
      (Json.ofMembers (fixedMembers language defaultDeviceId data)))
  have hrows := Json.textBoundMembers_set "devices" (.array devices) (Json.setOption "ratingPrompt"
    rating (Json.setOption "settingsWindowBounds" (data.settingsWindowBounds.map encodeBounds)
      (Json.ofMembers (fixedMembers language defaultDeviceId data))))
  refine Nat.le_trans (Json.textBoundMembers_set "lastConnectedIds" (.array ids) _) ?_
  simp only [Json.textBound, h₁, h₂, h₃, h₄] at hwindow hprompt hrows ⊢
  omega

theorem document_isSome (hlib : lib.Lawful) (hdata : IsPersistable data)
    (hfirst : IsText 10 data.ratingPrompt.firstLaunchDate)
    (hlast : IsText 10 data.ratingPrompt.lastUsageDate) :
    ∃ json, document lib data = some json ∧ json.textBound ≤ maxSettingsFileBytes := by
  obtain ⟨language, hlanguage, hlanguageLength⟩ :=
    toString_of_isText hlib (isText_language hdata.language)
  obtain ⟨defaultDeviceId, hdefault, hdefaultLength⟩ :=
    toString_of_isText hlib hdata.defaultDeviceId.isText
  obtain ⟨rating, hrating, hratingBound⟩ := encodeRating_isSome hlib hfirst hlast
  obtain ⟨devices, hdevices, hdevicesBound⟩ := mapM_isSome fun device hdevice =>
    encodeDevice_isSome hlib (hdata.devices device hdevice)
  obtain ⟨ids, hids, hidsBound⟩ := mapM_isSome fun id hid =>
    encodeConnectedId_isSome hlib (hdata.connected id hid)
  refine ⟨.object (documentMembers language defaultDeviceId rating devices ids data),
    by simp only [document, hlanguage, hdefault, hrating, hdevices, hids]; rfl, ?_⟩
  have hmembers := textBound_documentMembers language defaultDeviceId devices ids data hratingBound
  have hrows := Json.textBoundElements_le hdevicesBound
  have hconnected := Json.textBoundElements_le hidsBound
  have hrowCount := Nat.mul_le_mul_left 5727 hdata.deviceCount
  have hidCount := Nat.mul_le_mul_left 3075 hdata.connectedCount
  rw [length_mapM hdevices] at hrows
  rw [length_mapM hids] at hconnected
  simp only [maxPersistedDeviceCount, maxDeviceIdCharacters] at hrowCount hidCount hdefaultLength
  simp only [Json.textBound, maxSettingsFileBytes]
  omega

/-- Persistable settings are encoded, if the conversions take their rating dates. -/
theorem encode_isSome (hlib : lib.Lawful) (hdata : IsPersistable data)
    (hfirst : IsText 10 data.ratingPrompt.firstLaunchDate)
    (hlast : IsText 10 data.ratingPrompt.lastUsageDate) : ∃ bytes, encode lib data = some bytes := by
  obtain ⟨json, hjson, hbound⟩ := document_isSome hlib hdata hfirst hlast
  have hcanonical := (writable_document hjson).1
  obtain ⟨bytes, hbytes⟩ := Option.isSome_iff_exists.1 (hlib.dump_isSome json hcanonical)
  have hsize := hlib.dump_size json bytes hcanonical hbytes
  exact ⟨bytes, encode_eq_some.2 ⟨hdata, json, hjson, hbytes, Nat.le_trans hsize hbound⟩⟩

theorem SettingsData.Valid.encode_isSome (hlib : lib.Lawful) (hdata : data.Valid) :
    ∃ bytes, encode lib data = some bytes :=
  Settings.encode_isSome hlib hdata.persistable hdata.ratingPrompt.firstLaunchDate.isText
    hdata.ratingPrompt.lastUsageDate.isText

/-! ## Settings that are not read back -/

/-- Settings with a first launch on 30 February 2026. -/
def noSuchDay : SettingsData :=
  { ratingPrompt := { firstLaunchDate := [50, 48, 50, 54, 45, 48, 50, 45, 51, 48] } }

/-- The encoder writes the date, and the decoder does not read it back. -/
theorem noSuchDay_not_decoded : ∃ bytes, encode textLibraries noSuchDay = some bytes ∧
    decode textLibraries bytes ≠ some noSuchDay := by
  have hpersistable : IsPersistable noSuchDay := by decide
  have hfirst : IsText 10 noSuchDay.ratingPrompt.firstLaunchDate := ⟨by decide, by decide⟩
  have hlast : IsText 10 noSuchDay.ratingPrompt.lastUsageDate := ⟨by decide, by decide⟩
  obtain ⟨bytes, hbytes⟩ := encode_isSome lawful_textLibraries hpersistable hfirst hlast
  refine ⟨bytes, hbytes, fun hdecode => ?_⟩
  exact absurd (valid_of_decode hdecode).ratingPrompt (by decide)

/-- Settings are read back as they were written exactly when their rating prompt is one that the
decoder accepts, which the encoder does not check. -/
theorem decode_encode_iff (hlib : lib.Lawful) (h : encode lib data = some bytes) :
    decode lib bytes = some data ↔ data.ratingPrompt.Valid := by
  refine ⟨fun hdecode => (valid_of_decode hdecode).ratingPrompt, fun hprompt => ?_⟩
  exact decode_of_encode hlib ⟨(encode_eq_some.1 h).1, hprompt⟩ h

/-- Settings of a used store: a default device with an alias, and a rating prompt since
29 February 2024. -/
def usedSettings : SettingsData where
  settingsWindowBounds := some { x := -8, y := 0, width := 640, height := 480, dpi := 96 }
  defaultDevice := .specificDevice
  defaultDeviceId := [97, 50, 100, 112]
  devices := [{ id := [97, 50, 100, 112], name := [34], deviceAlias := [0xD83D, 0xDCF1],
                connectOnStartup := true, reconnectOnConnectionLoss := false }]
  lastConnectedIds := [[97, 50, 100, 112]]
  ratingPrompt := {
    firstLaunchDate := [50, 48, 50, 52, 45, 48, 50, 45, 50, 57]
    usageDays := 3 }

theorem decode_encode_iff_used : ∃ bytes, encode textLibraries usedSettings = some bytes ∧
    (decode textLibraries bytes = some usedSettings ↔ usedSettings.ratingPrompt.Valid) := by
  have hvalid : usedSettings.Valid := ⟨by decide, by decide⟩
  obtain ⟨bytes, hbytes⟩ := hvalid.encode_isSome lawful_textLibraries
  exact ⟨bytes, hbytes, decode_encode_iff lawful_textLibraries hbytes⟩

/-! ## Settings that were read -/

/-- Settings that were read from any text, that of version 0.9.1 too, can be written, and are read
back as they are. -/
theorem decoded_written_back (hlib : lib.Lawful)
    (h : decode lib bytes = some data ∨
      ∃ needsRewrite, decodePersisted lib bytes = some { data, needsRewrite }) :
    ∃ text, encode lib data = some text ∧ decode lib text = some data ∧
      decodePersisted lib text = some { data, needsRewrite := false } := by
  have hvalid : data.Valid := by
    rcases h with h | ⟨needsRewrite, h⟩
    · exact valid_of_decode h
    · exact valid_of_decodePersisted h
  obtain ⟨text, htext⟩ := hvalid.encode_isSome hlib
  exact ⟨text, htext, decode_of_encode hlib hvalid htext,
    decodePersisted_of_encode hlib hvalid htext⟩

/-- A document of version 0.9.1. -/
def legacyDocument : Json := .object [("globalAutoReconnect", .bool true)]

/-- The same document in the present version. -/
def upgradedDocument : Json :=
  .object [("globalConnectOnStartup", .bool true), ("globalReconnectOnConnectionLoss", .bool true),
    ("schemaVersion", .integer 2)]

/-- The settings of both. -/
def upgradedSettings : SettingsData where
  globalConnectOnStartup := true
  globalReconnectOnConnectionLoss := true

theorem writable_legacyDocument : Writable 1 legacyDocument := by
  refine writable_object (List.pairwise_singleton _ _) ?_
  simp [writable_bool]

theorem writable_upgradedDocument : Writable 1 upgradedDocument := by
  refine writable_object ?_ ?_
  · simp only [Json.Sorted, List.pairwise_cons]
    decide
  · simpa [writable_bool] using writable_int32 0 2

/-- A small document is parsed as it was written. -/
theorem parseJson_small (hlib : lib.Lawful) (hjson : Writable 1 json)
    (hsize : json.textBound ≤ 1000) :
    ∃ bytes, lib.dump json = some bytes ∧ parseJson lib bytes = some json := by
  obtain ⟨bytes, hbytes⟩ := Option.isSome_iff_exists.1 (hlib.dump_isSome _ hjson.1)
  have hle := hlib.dump_size json bytes hjson.1 hbytes
  refine ⟨bytes, hbytes, parseJson_dump hlib hjson (by omega) hbytes ?_⟩
  simp only [maxSettingsFileBytes]
  omega

/-- The old document is read. -/
theorem decodePersisted_legacy : ∃ bytes, decodePersisted textLibraries bytes =
    some { data := upgradedSettings, needsRewrite := true } := by
  obtain ⟨bytes, -, hparse⟩ := parseJson_small lawful_textLibraries writable_legacyDocument
    (by decide)
  obtain ⟨upgraded, hupgraded, hparsed⟩ :=
    parseJson_small lawful_textLibraries writable_upgradedDocument (by decide)
  have hdecode : decode textLibraries upgraded = some upgradedSettings := by
    rw [decode, hparsed]
    decide
  have hkeys : object legacyTopLevelKeys legacyDocument = some () := by decide
  have hflags : replaceOldFlag "globalAutoReconnect" "globalConnectOnStartup"
      "globalReconnectOnConnectionLoss" [("globalAutoReconnect", .bool true)] =
        some [("globalConnectOnStartup", .bool true),
          ("globalReconnectOnConnectionLoss", .bool true)] := rfl
  have hversion : Json.object (Json.set "schemaVersion" (.integer schemaVersion.toInt)
      [("globalConnectOnStartup", .bool true),
        ("globalReconnectOnConnectionLoss", .bool true)]) = upgradedDocument := rfl
  refine ⟨bytes, ?_⟩
  rw [legacyDocument] at hparse hkeys
  simp [decodePersisted, hparse, hkeys, hflags, upgradeDevices, erase, hversion, hupgraded, hdecode,
    List.lookup]

theorem decoded_written_back_legacy :
    ∃ bytes, decodePersisted textLibraries bytes = some ⟨upgradedSettings, true⟩ ∧
      ∃ text, encode textLibraries upgradedSettings = some text ∧
        decode textLibraries text = some upgradedSettings ∧
        decodePersisted textLibraries text = some ⟨upgradedSettings, false⟩ := by
  obtain ⟨bytes, hbytes⟩ := decodePersisted_legacy
  exact ⟨bytes, hbytes, decoded_written_back lawful_textLibraries (.inr ⟨true, hbytes⟩)⟩

end PlaybackConnector.Settings
