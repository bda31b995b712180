import PlaybackConnector.Json.Same
import PlaybackConnector.Settings.Size
import Mathlib

/-!
# Documents of version 0.9.1

`decodePersisted` rewrites a document without a schema version to one of the present version, writes
it and decodes what it has written. `migrates` says what the settings are in terms of the document
that was read: an explicit field decides, and where it is absent the old flag that stood for it.
-/

namespace PlaybackConnector.Settings

/-- What the migration relies on beyond `Lawful`: what is read has the numbers of a value in memory,
and a value in memory that is written is read back, the members of its objects in any order. -/
structure TextLibraries.Faithful (lib : TextLibraries) : Prop where
  parse_isStorable : ∀ bytes json, lib.parse bytes = some json → json.isStorable = true
  parse_dump_same : ∀ (json : Json) bytes read, json.IsSound → lib.dump json = some bytes →
    lib.parse bytes = some read → read.Same json

variable {lib : TextLibraries} {json left right row : Json} {bytes : ByteArray} {key : String}
  {members result : List (String × Json)}

/-! ## What a document says -/

/-- The settings that a document says: a field that is present decides, and one that is absent has
its default. The two reconnect flags have another default, and a device its own reader, in a
document of another version. -/
structure Says (lib : TextLibraries) (keys : List String) (old : Bool)
    (device : Json → DeviceSettings → Prop) (json : Json) (data : SettingsData) : Prop where
  keys : object keys json = some ()
  globalConnectOnStartup :
    flag json "globalConnectOnStartup" old = some data.globalConnectOnStartup
  globalReconnectOnConnectionLoss :
    flag json "globalReconnectOnConnectionLoss" old = some data.globalReconnectOnConnectionLoss
  allowIncomingConnections :
    flag json "allowIncomingConnections" false = some data.allowIncomingConnections
  startWithWindows : flag json "startWithWindows" false = some data.startWithWindows
  showNotifications : flag json "showNotifications" true = some data.showNotifications
  useSystemBackdropEffects :
    flag json "useSystemBackdropEffects" true = some data.useSystemBackdropEffects
  privacyModeEnabled : flag json "privacyModeEnabled" false = some data.privacyModeEnabled
  language : text lib json "language" (wide "system") = some data.language
  defaultDevice : text lib json "defaultDeviceMode" (wide "lastConnected") = some (wide
    (if data.defaultDevice = .specificDevice then "specificDevice" else "lastConnected"))
  defaultDeviceId : text lib json "defaultDeviceId" [] = some data.defaultDeviceId
  settingsWindowBounds : decodeBounds json = some data.settingsWindowBounds
  devices : ∃ rows, array json "devices" = some rows ∧ List.Forall₂ device rows data.devices
  lastConnectedIds : ∃ ids, array json "lastConnectedIds" = some ids ∧
    ids.mapM (decodeConnectedId lib) = some data.lastConnectedIds
  ratingPrompt : decodeRatingPrompt lib json = some data.ratingPrompt

theorem forall₂_of_mapM {α β : Type} {f : α → Option β} {l : List α} {r : List β}
    (h : l.mapM f = some r) : List.Forall₂ (fun a b => f a = some b) l r := by
  induction l generalizing r with
  | nil =>
    cases h
    exact .nil
  | cons a l ih =>
    obtain ⟨b, r, hb, hr, rfl⟩ := mapM_cons_eq_some.1 h
    exact .cons hb (ih hr)

theorem exists_of_forall₂ {α β : Type} {relation : α → β → Prop} {l : List α} {r : List β}
    (h : List.Forall₂ relation l r) {a : α} (ha : a ∈ l) : ∃ b ∈ r, relation a b := by
  induction h with
  | nil => cases ha
  | cons hab _ ih =>
    obtain rfl | ha := List.mem_cons.1 ha
    · exact ⟨_, List.mem_cons_self, hab⟩
    · obtain ⟨b, hb, hrelation⟩ := ih ha
      exact ⟨b, List.mem_cons_of_mem _ hb, hrelation⟩

/-- What the decoder returns is what the document says. -/
theorem says_of_decodeDocument {data : SettingsData} (h : decodeDocument lib json = some data) :
    Says lib topLevelKeys false (fun row device => decodeDevice lib row = some device) json
      data := by
  unfold decodeDocument at h
  dsimp only [Option.bind_eq_bind] at h
  obtain ⟨_, hkeys, h⟩ := Option.bind_eq_some_iff.1 h
  obtain ⟨_, _, h⟩ := Option.bind_eq_some_iff.1 h
  obtain ⟨_, _, h⟩ := Option.bind_eq_some_iff.1 h
  obtain ⟨_, hconnect, h⟩ := Option.bind_eq_some_iff.1 h
  obtain ⟨_, hreconnect, h⟩ := Option.bind_eq_some_iff.1 h
  obtain ⟨_, hincoming, h⟩ := Option.bind_eq_some_iff.1 h
  obtain ⟨_, hstart, h⟩ := Option.bind_eq_some_iff.1 h
  obtain ⟨_, hnotify, h⟩ := Option.bind_eq_some_iff.1 h
  obtain ⟨_, hbackdrop, h⟩ := Option.bind_eq_some_iff.1 h
  obtain ⟨_, hprivacy, h⟩ := Option.bind_eq_some_iff.1 h
  obtain ⟨_, hlanguage, h⟩ := Option.bind_eq_some_iff.1 h
  obtain ⟨mode, hmode, h⟩ := Option.bind_eq_some_iff.1 h
  obtain ⟨_, hknown, h⟩ := Option.bind_eq_some_iff.1 h
  obtain ⟨_, hid, h⟩ := Option.bind_eq_some_iff.1 h
  obtain ⟨_, hbounds, h⟩ := Option.bind_eq_some_iff.1 h
  obtain ⟨rows, hrows, h⟩ := Option.bind_eq_some_iff.1 h
  obtain ⟨_, hdevices, h⟩ := Option.bind_eq_some_iff.1 h
  obtain ⟨ids, hids, h⟩ := Option.bind_eq_some_iff.1 h
  obtain ⟨_, hconnected, h⟩ := Option.bind_eq_some_iff.1 h
  obtain ⟨_, hrating, h⟩ := Option.bind_eq_some_iff.1 h
  obtain ⟨_, _, h⟩ := Option.bind_eq_some_iff.1 h
  rw [Option.pure_def] at h
  cases h
  refine ⟨hkeys, hconnect, hreconnect, hincoming, hstart, hnotify, hbackdrop, hprivacy, hlanguage,
    ?_, hid, hbounds, ⟨rows, hrows, forall₂_of_mapM hdevices⟩, ⟨ids, hids, hconnected⟩, hrating⟩
  have hdistinct : wide "lastConnected" ≠ wide "specificDevice" := by decide
  obtain rfl | rfl := require_eq_some.1 hknown
  · rw [hmode, if_neg hdistinct]
    rfl
  · rw [hmode, if_pos rfl]
    rfl

/-! ## Readers of the same value -/

section

variable (h : Option.Rel Json.Same (left.find key) (right.find key))
include h

theorem flag_same (fallback : Bool) : flag left key fallback = flag right key fallback := by
  unfold flag
  generalize left.find key = found at h ⊢
  generalize right.find key = found' at h ⊢
  cases h with
  | none => rfl
  | some hsame => cases hsame <;> rfl

theorem text_same (fallback : WString) :
    text lib left key fallback = text lib right key fallback := by
  unfold text
  generalize left.find key = found at h ⊢
  generalize right.find key = found' at h ⊢
  cases h with
  | none => rfl
  | some hsame => cases hsame <;> rfl

theorem integer_same (fallback : Int32) :
    integer left key fallback = integer right key fallback := by
  unfold integer
  generalize left.find key = found at h ⊢
  generalize right.find key = found' at h ⊢
  cases h with
  | none => rfl
  | some hsame => cases hsame <;> rfl

theorem array_same {rows : List Json} (hrows : array left key = some rows) :
    ∃ rows', array right key = some rows' ∧ List.Forall₂ Json.Same rows rows' := by
  unfold array at hrows ⊢
  generalize left.find key = found at h hrows
  generalize right.find key = found' at h ⊢
  cases h with
  | none =>
    cases hrows
    exact ⟨[], rfl, .nil⟩
  | some hsame =>
    cases hsame with
    | @array elements elements' hsame =>
      simp only [Option.bind_eq_bind, Option.bind_eq_some_iff, require_eq_some, Option.pure_def,
        Option.some.injEq] at hrows ⊢
      obtain ⟨_, hlength, rfl⟩ := hrows
      exact ⟨elements', ⟨(), hsame.length_eq ▸ hlength, rfl⟩, hsame⟩
    | _ => cases hrows

end

theorem object_same (h : left.Same right) (keys : List String) :
    object keys left = object keys right := by
  cases h with
  | @object left right h =>
    have hiff : (∀ member ∈ left, member.1 ∈ keys) ↔ ∀ member ∈ right, member.1 ∈ keys := by
      rw [Json.keys_subset_iff, Json.keys_subset_iff]
      refine forall_congr' fun key => ?_
      have hkey := h key
      generalize left.lookup key = found at hkey
      generalize right.lookup key = found' at hkey
      cases hkey <;> rfl
    unfold object require
    simp only [hiff]
  | _ => rfl

theorem decodeDevice_same (h : left.Same right) :
    decodeDevice lib left = decodeDevice lib right := by
  unfold decodeDevice
  rw [object_same h, text_same (h.find "id"), text_same (h.find "name"), text_same (h.find "alias"),
    flag_same (h.find "connectOnStartup"), flag_same (h.find "reconnectOnConnectionLoss")]

theorem decodeConnectedId_same (h : left.Same right) :
    decodeConnectedId lib left = decodeConnectedId lib right := by
  cases h <;> rfl

theorem decodeBounds_same (h : Option.Rel Json.Same (left.find "settingsWindowBounds")
    (right.find "settingsWindowBounds")) : decodeBounds left = decodeBounds right := by
  unfold decodeBounds
  generalize left.find "settingsWindowBounds" = found at h ⊢
  generalize right.find "settingsWindowBounds" = found' at h ⊢
  cases h with
  | none => rfl
  | some hsame =>
    dsimp only
    rw [object_same hsame, integer_same (hsame.find "dpi"), integer_same (hsame.find "x"),
      integer_same (hsame.find "y"), integer_same (hsame.find "width"),
      integer_same (hsame.find "height")]

theorem decodeRatingPrompt_same (h : Option.Rel Json.Same (left.find "ratingPrompt")
    (right.find "ratingPrompt")) : decodeRatingPrompt lib left = decodeRatingPrompt lib right := by
  unfold decodeRatingPrompt
  generalize left.find "ratingPrompt" = found at h ⊢
  generalize right.find "ratingPrompt" = found' at h ⊢
  cases h with
  | none => rfl
  | some hsame =>
    dsimp only
    rw [object_same hsame, text_same (hsame.find "firstLaunchDate"),
      text_same (hsame.find "lastUsageDate"), integer_same (hsame.find "usageDays"),
      flag_same (hsame.find "asked")]

/-- What is the same is decoded to the same. -/
theorem mapM_same {rows rows' : List Json} (h : List.Forall₂ Json.Same rows rows') :
    rows.mapM (decodeConnectedId lib) = rows'.mapM (decodeConnectedId lib) := by
  induction h with
  | nil => rfl
  | cons hvalue _ ih => rw [List.mapM_cons, List.mapM_cons, decodeConnectedId_same hvalue, ih]

/-! ## What the upgrade leaves -/

theorem lookup_erase (key key' : String) (members : List (String × Json)) :
    (erase key' members).lookup key = if key = key' then none else members.lookup key := by
  induction members with
  | nil => simp [erase]
  | cons member rest ih =>
    unfold erase at ih ⊢
    by_cases hmember : member.1 = key'
    · rw [List.filter_cons_of_neg (by simpa using hmember), ih, Json.lookup_cons, hmember]
      split <;> rfl
    · rw [List.filter_cons_of_pos (by simpa using hmember), Json.lookup_cons, ih, Json.lookup_cons]
      by_cases hkey : key = member.1
      · rw [if_pos hkey, if_pos hkey, if_neg (hkey ▸ hmember)]
      · rw [if_neg hkey, if_neg hkey]

theorem lookup_adopt (key key' : String) (old : Json) (members : List (String × Json)) :
    (adopt key' old members).lookup key =
      if key = key' then (members.lookup key).or (some old) else members.lookup key := by
  unfold adopt
  by_cases hkey : key = key'
  · subst hkey
    rw [if_pos rfl]
    cases hfound : members.lookup key with
    | some value =>
      rw [Option.isSome_some, if_pos rfl, hfound]
      rfl
    | none =>
      rw [Option.isSome_none, if_neg Bool.false_ne_true, Json.lookup_set, if_pos rfl]
      rfl
  · rw [if_neg hkey]
    split
    · rfl
    · rw [Json.lookup_set, if_neg hkey]

/-- After an old flag is replaced, each of the two flags has its own value, or else the old one's;
everything else is as it was. -/
theorem replaceOldFlag_spec {oldKey connectKey reconnectKey : String}
    (h : replaceOldFlag oldKey connectKey reconnectKey members = some result) :
    ∃ old : Option Bool, members.lookup oldKey = old.map Json.bool ∧
      ∀ key, key ≠ oldKey → result.lookup key =
        if key = connectKey ∨ key = reconnectKey then
          (members.lookup key).or (old.map Json.bool)
        else members.lookup key := by
  unfold replaceOldFlag at h
  split at h
  · next hnone =>
    cases h
    refine ⟨none, hnone, fun key _ => ?_⟩
    rw [Option.map_none, Option.or_none, ite_self]
  · next old hold =>
    cases h
    refine ⟨some old, hold, fun key hkey => ?_⟩
    rw [lookup_erase, if_neg hkey, lookup_adopt, lookup_adopt]
    by_cases hconnect : key = connectKey
    · rw [if_pos hconnect, if_pos (Or.inl hconnect)]
      split
      · cases members.lookup key <;> rfl
      · rfl
    · rw [if_neg hconnect]
      exact if_congr (by rw [or_iff_right hconnect]) rfl rfl
  · cases h

theorem upgradeDevices_spec (h : upgradeDevices members = some result) :
    (members.lookup "devices" = none ∧ result = members) ∨
      ∃ rows upgraded, members.lookup "devices" = some (.array rows) ∧
        rows.mapM upgradeDevice = some upgraded ∧
        result = Json.set "devices" (.array upgraded) members := by
  unfold upgradeDevices at h
  split at h
  · next hnone =>
    cases h
    exact .inl ⟨hnone, rfl⟩
  · next rows hrows =>
    obtain ⟨upgraded, hupgraded, h⟩ := Option.bind_eq_some_iff.1 h
    cases h
    exact .inr ⟨rows, upgraded, hrows, hupgraded, rfl⟩
  · cases h

/-! ## Devices -/

/-- What a device of an old document becomes: an explicit flag decides, and where it is absent the
old one. -/
structure MigratesDevice (lib : TextLibraries) (row : Json) (device : DeviceSettings) : Prop where
  keys : object ("autoReconnect" :: deviceKeys) row = some ()
  id : text lib row "id" [] = some device.id
  name : text lib row "name" [] = some device.name
  deviceAlias : text lib row "alias" [] = some device.deviceAlias
  flags : ∃ old, flag row "autoReconnect" false = some old ∧
    flag row "connectOnStartup" old = some device.connectOnStartup ∧
    flag row "reconnectOnConnectionLoss" old = some device.reconnectOnConnectionLoss

theorem rel_of_eq (h : left.find key = right.find key) :
    Option.Rel Json.Same (left.find key) (right.find key) := by
  rw [h]
  cases right.find key with
  | none => exact .none
  | some value => exact .some (.refl value)

/-- A flag that falls back on the old one. -/
theorem flag_or {old : Option Bool} (h : left.find key = (right.find key).or (old.map Json.bool)) :
    flag left key false = flag right key (old.getD false) := by
  unfold flag
  rw [h]
  cases right.find key with
  | some value =>
    rw [Option.some_or]
    cases value <;> rfl
  | none => cases old <;> rfl

/-- The old flag itself. -/
theorem flag_old {old : Option Bool} (h : json.find key = old.map Json.bool) :
    flag json key false = some (old.getD false) := by
  unfold flag
  rw [h]
  cases old <;> rfl

/-- The reader of the present version reads of an upgraded device what it becomes. -/
theorem migratesDevice {upgraded : Json} {device : DeviceSettings}
    (h : upgradeDevice row = some upgraded) (hdevice : decodeDevice lib upgraded = some device) :
    MigratesDevice lib row device := by
  unfold upgradeDevice at h
  split at h
  · next members =>
    obtain ⟨result, hreplace, h⟩ := Option.bind_eq_some_iff.1 h
    cases h
    obtain ⟨old, hold, hother⟩ := replaceOldFlag_spec hreplace
    simp only [decodeDevice, Option.bind_eq_bind, Option.bind_eq_some_iff, Option.pure_def,
      Option.some.injEq] at hdevice
    obtain ⟨_, hkeys, id, hid, name, hname, deviceAlias, halias, connect, hconnect, reconnect,
      hreconnect, rfl⟩ := hdevice
    have hplain {key : String} (hkey : key ≠ "autoReconnect")
        (hnew : ¬(key = "connectOnStartup" ∨ key = "reconnectOnConnectionLoss")) :
        Option.Rel Json.Same (Json.find key (.object members))
          (Json.find key (.object result)) :=
      rel_of_eq ((hother key hkey).trans (if_neg hnew)).symm
    have hnew {key : String} (hkey : key = "connectOnStartup" ∨ key = "reconnectOnConnectionLoss") :
        Json.find key (.object result) =
          (Json.find key (.object members)).or (old.map Json.bool) := by
      have hne : key ≠ "autoReconnect" := by
        obtain rfl | rfl := hkey <;> decide
      exact (hother key hne).trans (if_pos hkey)
    refine
      { keys := require_pos (Json.keys_subset_iff.2 fun key hfound => ?_)
        id := (text_same (hplain (by decide) (by decide)) []).trans hid
        name := (text_same (hplain (by decide) (by decide)) []).trans hname
        deviceAlias := (text_same (hplain (by decide) (by decide)) []).trans halias
        flags := ⟨old.getD false, flag_old hold, ?_, ?_⟩ }
    · by_cases hkey : key = "autoReconnect"
      · exact hkey ▸ List.mem_cons_self
      · have hresult : (result.lookup key).isSome = true := by
          rw [hother key hkey]
          split
          · rw [Option.isSome_or, hfound, Bool.true_or]
          · exact hfound
        exact List.mem_cons_of_mem _ (Json.keys_subset_iff.1 (require_eq_some.1 hkeys) key hresult)
    · exact (flag_or (hnew (.inl rfl))).symm.trans hconnect
    · exact (flag_or (hnew (.inr rfl))).symm.trans hreconnect
  · cases h

/-! ## The upgrade keeps a value sound -/

theorem isSound_replaceOldFlag {oldKey connectKey reconnectKey : String}
    (hmembers : (Json.object members).IsSound)
    (h : replaceOldFlag oldKey connectKey reconnectKey members = some result) :
    (Json.object result).IsSound := by
  have hadopt {key : String} {old : Bool} {members : List (String × Json)}
      (hmembers : (Json.object members).IsSound) :
      (Json.object (adopt key (.bool old) members)).IsSound := by
    unfold adopt
    split
    · exact hmembers
    · exact Json.isSound_set hmembers ⟨rfl, rfl⟩
  unfold replaceOldFlag at h
  split at h
  · cases h
    exact hmembers
  · cases h
    exact Json.isSound_filter (hadopt (hadopt hmembers)) _
  · cases h

theorem isSound_upgradeDevice {upgraded : Json} (hrow : row.IsSound)
    (h : upgradeDevice row = some upgraded) : upgraded.IsSound := by
  unfold upgradeDevice at h
  split at h
  · obtain ⟨result, hreplace, h⟩ := Option.bind_eq_some_iff.1 h
    cases h
    exact isSound_replaceOldFlag hrow hreplace
  · cases h

theorem isSound_upgradeDevices (hmembers : (Json.object members).IsSound)
    (h : upgradeDevices members = some result) : (Json.object result).IsSound := by
  obtain ⟨-, rfl⟩ | ⟨rows, upgraded, hrows, hupgraded, rfl⟩ := upgradeDevices_spec h
  · exact hmembers
  · have hdevices : (Json.array rows).IsSound :=
      (Json.isSound_object.1 hmembers).2 _ (Json.mem_of_lookup hrows)
    refine Json.isSound_set hmembers (Json.isSound_array.2 fun value hvalue => ?_)
    obtain ⟨row, hrow, hvalue⟩ := mem_mapM hupgraded hvalue
    exact isSound_upgradeDevice (Json.isSound_array.1 hdevices row hrow) hvalue

/-! ## The migration -/

/-- What the settings of an old document are, in terms of the document. -/
def Migrates (lib : TextLibraries) (json : Json) (data : SettingsData) : Prop :=
  ∃ old, flag json "globalAutoReconnect" false = some old ∧
    Says lib legacyTopLevelKeys old (MigratesDevice lib) json data

/-- Every key is one that the version knows, and no object has one twice. -/
structure WellKeyed (json : Json) : Prop where
  distinct : json.keysDistinct = true
  document : object legacyTopLevelKeys json = some ()
  devices : ∀ rows, json.find "devices" = some (.array rows) →
    ∀ row ∈ rows, object ("autoReconnect" :: deviceKeys) row = some ()
  bounds : ∀ bounds, json.find "settingsWindowBounds" = some bounds →
    object windowBoundsKeys bounds = some ()

/-- The keys of a document that says some settings. -/
theorem Says.wellKeyed {old : Bool} {data : SettingsData}
    (h : Says lib legacyTopLevelKeys old (MigratesDevice lib) json data)
    (hdistinct : json.keysDistinct = true) : WellKeyed json where
  distinct := hdistinct
  document := h.keys
  devices rows hrows row hrow := by
    obtain ⟨found, hfound, hdevices⟩ := h.devices
    rw [array, hrows] at hfound
    simp only [Option.bind_eq_bind, Option.bind_eq_some_iff, Option.pure_def, Option.some.injEq]
      at hfound
    obtain ⟨_, _, rfl⟩ := hfound
    obtain ⟨device, -, hdevice⟩ := exists_of_forall₂ hdevices hrow
    exact hdevice.keys
  bounds bounds hbounds := by
    have hread := h.settingsWindowBounds
    rw [decodeBounds, hbounds] at hread
    obtain ⟨_, hkeys, -⟩ := Option.bind_eq_some_iff.1 hread
    exact hkeys

/-- The members of the document that is written. -/
def upgraded (members : List (String × Json)) : List (String × Json) :=
  Json.set "schemaVersion" (.integer schemaVersion.toInt)
    (erase "lastNotifiedUpdateVersion" (erase "lastUpdateCheckUnixSeconds" members))

theorem parseJson_eq_some (h : parseJson lib bytes = some json) :
    lib.parse bytes = some json ∧ json.keysDistinct = true := by
  simp only [parseJson, Option.bind_eq_bind, Option.bind_eq_some_iff, require_eq_some,
    Option.pure_def, Option.some.injEq] at h
  obtain ⟨-, -, _, hparse, -, -, -, hdistinct, rfl⟩ := h
  exact ⟨hparse, hdistinct⟩

/-- The steps of reading a document without a schema version. -/
theorem decodePersisted_old {decoded : DecodedSettings} (hparse : lib.parse bytes = some json)
    (hold : json.find "schemaVersion" = none) (h : decodePersisted lib bytes = some decoded) :
    ∃ members flags devices text read, json = .object members ∧ json.keysDistinct = true ∧
      object legacyTopLevelKeys json = some () ∧
      replaceOldFlag "globalAutoReconnect" "globalConnectOnStartup"
        "globalReconnectOnConnectionLoss" members = some flags ∧
      upgradeDevices flags = some devices ∧
      lib.dump (.object (upgraded devices)) = some text ∧ lib.parse text = some read ∧
      decodeDocument lib read = some decoded.data ∧ decoded.needsRewrite = true := by
  simp only [decodePersisted, Option.bind_eq_bind, Option.bind_eq_some_iff] at h
  obtain ⟨parsed, hparsed, h⟩ := h
  obtain ⟨hsame, hdistinct⟩ := parseJson_eq_some hparsed
  cases hsame.symm.trans hparse
  split at h
  · next members =>
    have hnone : (List.lookup "schemaVersion" members).isSome = false := by
      rw [← Json.find_object, hold]
      rfl
    rw [hnone, if_neg Bool.false_ne_true] at h
    simp only [Option.bind_eq_some_iff, Option.pure_def, Option.some.injEq] at h
    obtain ⟨_, hkeys, flags, hflags, devices, hdevices, text, htext, data, hdata, rfl⟩ := h
    simp only [decode, Option.bind_eq_bind, Option.bind_eq_some_iff] at hdata
    obtain ⟨read, hread, hdocument⟩ := hdata
    exact ⟨members, flags, devices, text, read, rfl, hdistinct, hkeys, hflags, hdevices, htext,
      (parseJson_eq_some hread).1, hdocument, rfl⟩
  · cases h

theorem lookup_upgraded (key : String) (members : List (String × Json)) :
    (upgraded members).lookup key =
      if key = "schemaVersion" then some (.integer schemaVersion.toInt)
      else if key = "lastNotifiedUpdateVersion" ∨ key = "lastUpdateCheckUnixSeconds" then none
      else members.lookup key := by
  rw [upgraded, Json.lookup_set, lookup_erase, lookup_erase]
  refine if_congr Iff.rfl rfl ?_
  by_cases hnotified : key = "lastNotifiedUpdateVersion"
  · rw [if_pos hnotified, if_pos (Or.inl hnotified)]
  · rw [if_neg hnotified]
    exact if_congr (by rw [or_iff_right hnotified]) rfl rfl

/-- The rows that are read back, each the same as an upgraded one, are those of the old devices. -/
theorem migrates_rows {rows upgraded read : List Json} {devices : List DeviceSettings}
    (hupgraded : List.Forall₂ (fun row value => upgradeDevice row = some value) rows upgraded)
    (hsame : List.Forall₂ Json.Same read upgraded)
    (hdevices : List.Forall₂ (fun row device => decodeDevice lib row = some device) read
      devices) :
    List.Forall₂ (MigratesDevice lib) rows devices := by
  induction hupgraded generalizing read devices with
  | nil =>
    cases hsame
    cases hdevices
    exact .nil
  | cons hrow _ ih =>
    cases hsame with
    | cons hvalue hsame =>
      cases hdevices with
      | cons hdevice hdevices =>
        exact .cons (migratesDevice hrow ((decodeDevice_same hvalue).symm.trans hdevice))
          (ih hsame hdevices)

/-- The devices of the settings. -/
theorem migrates_devices {old : Option Bool} {flags devices : List (String × Json)} {read : Json}
    {settings : List DeviceSettings}
    (hflags : ∀ key, key ≠ "globalAutoReconnect" → flags.lookup key =
      if key = "globalConnectOnStartup" ∨ key = "globalReconnectOnConnectionLoss" then
        (members.lookup key).or (old.map Json.bool)
      else members.lookup key)
    (hdevices : upgradeDevices flags = some devices)
    (hsame : read.Same (.object (upgraded devices)))
    (h : ∃ rows, array read "devices" = some rows ∧
      List.Forall₂ (fun row device => decodeDevice lib row = some device) rows settings) :
    ∃ rows, array (.object members) "devices" = some rows ∧
      List.Forall₂ (MigratesDevice lib) rows settings := by
  obtain ⟨rows, hrows, hsettings⟩ := h
  obtain ⟨written, hwritten, hvalues⟩ := array_same (hsame.find "devices") hrows
  have hmembers : flags.lookup "devices" = members.lookup "devices" :=
    (hflags _ (by decide)).trans (if_neg (by decide))
  have hlookup : (upgraded devices).lookup "devices" = devices.lookup "devices" :=
    (lookup_upgraded _ _).trans ((if_neg (by decide)).trans (if_neg (by decide)))
  unfold array at hwritten ⊢
  rw [Json.find_object, hlookup] at hwritten
  rw [Json.find_object, ← hmembers]
  obtain ⟨hnone, rfl⟩ | ⟨old, upgradedRows, hold, hupgraded, rfl⟩ := upgradeDevices_spec hdevices
  · rw [hnone] at hwritten ⊢
    cases hwritten
    cases hvalues
    cases hsettings
    exact ⟨[], rfl, .nil⟩
  · rw [Json.lookup_set, if_pos rfl] at hwritten
    rw [hold]
    simp only [Option.bind_eq_bind, Option.bind_eq_some_iff, require_eq_some, Option.pure_def,
      Option.some.injEq] at hwritten ⊢
    obtain ⟨_, hlength, rfl⟩ := hwritten
    refine ⟨old, ⟨(), length_mapM hupgraded ▸ hlength, rfl⟩, ?_⟩
    exact migrates_rows (forall₂_of_mapM hupgraded) hvalues hsettings

/-- What the upgrade adds, drops or rewrites. -/
def rewrittenKeys : List String :=
  ["schemaVersion", "lastNotifiedUpdateVersion", "lastUpdateCheckUnixSeconds", "devices",
    "globalAutoReconnect"]

/-- A key that is none of these and neither of the two flags. -/
abbrev IsUntouched (key : String) : Prop :=
  key ∉ rewrittenKeys ∧
    ¬(key = "globalConnectOnStartup" ∨ key = "globalReconnectOnConnectionLoss")

/-- A key that is neither dropped nor rewritten is as it was after the old flag. -/
theorem lookup_kept {flags devices : List (String × Json)}
    (hdevices : upgradeDevices flags = some devices)
    (hkey : key ∉ rewrittenKeys) : (upgraded devices).lookup key = flags.lookup key := by
  simp only [rewrittenKeys, List.mem_cons, List.not_mem_nil, or_false, not_or] at hkey
  obtain ⟨hversion, hnotified, hcheck, hrows, -⟩ := hkey
  rw [lookup_upgraded, if_neg hversion, if_neg (not_or.2 ⟨hnotified, hcheck⟩)]
  obtain ⟨-, rfl⟩ | ⟨rows, upgradedRows, -, -, rfl⟩ := upgradeDevices_spec hdevices
  · rfl
  · rw [Json.lookup_set, if_neg hrows]

/-- What the old document becomes. -/
theorem migrates_of_decodePersisted (hjson : lib.Faithful) {decoded : DecodedSettings}
    (hparse : lib.parse bytes = some json) (hold : json.find "schemaVersion" = none)
    (h : decodePersisted lib bytes = some decoded) :
    decoded.needsRewrite = true ∧ WellKeyed json ∧ Migrates lib json decoded.data := by
  obtain ⟨members, flags, devices, text, read, rfl, hdistinct, hkeys, hflags, hdevices, htext,
    hread, hdocument, hrewrite⟩ := decodePersisted_old hparse hold h
  have hsound : (Json.object members).IsSound := ⟨hdistinct, hjson.parse_isStorable _ _ hparse⟩
  have hupgraded : (Json.object (upgraded devices)).IsSound := by
    have hkept := isSound_upgradeDevices (isSound_replaceOldFlag hsound hflags) hdevices
    refine Json.isSound_set (Json.isSound_filter (Json.isSound_filter hkept _) _) ⟨rfl, ?_⟩
    decide
  have hsame := hjson.parse_dump_same _ _ _ hupgraded htext hread
  have hmeans := says_of_decodeDocument hdocument
  obtain ⟨old, hauto, hother⟩ := replaceOldFlag_spec hflags
  -- A key that the upgrade does not touch, and one of the two flags.
  have hplain {key : String} (hkey : IsUntouched key) :
      Option.Rel Json.Same (read.find key) (Json.find key (.object members)) := by
    have hne : key ≠ "globalAutoReconnect" := by
      rintro rfl
      exact hkey.1 (by decide)
    have hrel := hsame.find key
    rwa [Json.find_object, lookup_kept hdevices hkey.1, hother key hne, if_neg hkey.2,
      ← Json.find_object] at hrel
  have hflag {key : String} (hkey : key = "globalConnectOnStartup" ∨
      key = "globalReconnectOnConnectionLoss") :
      flag read key false = flag (.object members) key (old.getD false) := by
    have hkept : (upgraded devices).lookup key = flags.lookup key := by
      obtain rfl | rfl := hkey <;> exact lookup_kept hdevices (by decide)
    have hne : key ≠ "globalAutoReconnect" := by
      obtain rfl | rfl := hkey <;> decide
    refine (flag_same (hsame.find key) false).trans (flag_or ?_)
    rw [Json.find_object, Json.find_object, hkept, hother key hne, if_pos hkey]
  have hrows := migrates_devices hother hdevices hsame hmeans.devices
  have hbounds : decodeBounds (.object members) = some decoded.data.settingsWindowBounds :=
    (decodeBounds_same (hplain (by decide))).symm.trans hmeans.settingsWindowBounds
  have hids : ∃ ids, array (.object members) "lastConnectedIds" = some ids ∧
      ids.mapM (decodeConnectedId lib) = some decoded.data.lastConnectedIds := by
    obtain ⟨ids, hids, hconnected⟩ := hmeans.lastConnectedIds
    obtain ⟨ids', hids', hvalues⟩ := array_same (hplain (by decide)) hids
    exact ⟨ids', hids', (mapM_same hvalues).symm.trans hconnected⟩
  have hreads (key : String) (fallback : Bool) {enabled : Bool} (hkey : IsUntouched key)
      (h : flag read key fallback = some enabled) :
      flag (.object members) key fallback = some enabled :=
    (flag_same (hplain hkey) fallback).symm.trans h
  have htexts (key : String) (fallback : WString) {value : WString} (hkey : IsUntouched key)
      (h : Settings.text lib read key fallback = some value) :
      Settings.text lib (.object members) key fallback = some value :=
    (text_same (hplain hkey) fallback).symm.trans h
  have hsettings : Says lib legacyTopLevelKeys (old.getD false) (MigratesDevice lib)
      (.object members) decoded.data :=
    { keys := hkeys
      globalConnectOnStartup := (hflag (.inl rfl)).symm.trans hmeans.globalConnectOnStartup
      globalReconnectOnConnectionLoss :=
        (hflag (.inr rfl)).symm.trans hmeans.globalReconnectOnConnectionLoss
      allowIncomingConnections := hreads _ _ (by decide) hmeans.allowIncomingConnections
      startWithWindows := hreads _ _ (by decide) hmeans.startWithWindows
      showNotifications := hreads _ _ (by decide) hmeans.showNotifications
      useSystemBackdropEffects := hreads _ _ (by decide) hmeans.useSystemBackdropEffects
      privacyModeEnabled := hreads _ _ (by decide) hmeans.privacyModeEnabled
      language := htexts _ _ (by decide) hmeans.language
      defaultDevice := htexts _ _ (by decide) hmeans.defaultDevice
      defaultDeviceId := htexts _ _ (by decide) hmeans.defaultDeviceId
      settingsWindowBounds := hbounds
      devices := hrows
      lastConnectedIds := hids
      ratingPrompt := (decodeRatingPrompt_same (hplain (by decide))).symm.trans
        hmeans.ratingPrompt }
  exact ⟨hrewrite, hsettings.wellKeyed hdistinct, old.getD false, flag_old hauto, hsettings⟩

/-! ## Documents of version 0.9.1 -/

/-- A document without a schema version is rejected if it has an unknown key, or one twice. What one
that is accepted becomes is what it says: each explicit field decides, and an old flag stands for
the two that replaced it where they are absent. The settings are to be written again, and are then
read as they are. -/
theorem migrates (hlib : lib.Lawful) (hjson : lib.Faithful) (hparse : lib.parse bytes = some json)
    (hold : json.find "schemaVersion" = none) :
    (¬WellKeyed json → decodePersisted lib bytes = none) ∧
      ∀ decoded, decodePersisted lib bytes = some decoded →
        decoded.needsRewrite = true ∧ Migrates lib json decoded.data ∧
          ∃ text, encode lib decoded.data = some text ∧
            decodePersisted lib text = some { data := decoded.data, needsRewrite := false } := by
  constructor
  · intro hkeyed
    cases h : decodePersisted lib bytes with
    | none => rfl
    | some decoded => exact absurd (migrates_of_decodePersisted hjson hparse hold h).2.1 hkeyed
  · rintro ⟨data, needsRewrite⟩ h
    obtain ⟨hrewrite, -, hmigrates⟩ := migrates_of_decodePersisted hjson hparse hold h
    obtain ⟨text, htext, -, hread⟩ := decoded_written_back hlib (.inr ⟨needsRewrite, h⟩)
    exact ⟨hrewrite, hmigrates, text, htext, hread⟩

/-! ## A document that is migrated -/

/-- The conversions and the JSON library, where only a sorted value is written. -/
def sortedLibraries : TextLibraries :=
  { textLibraries with
    dump := fun json => if json.Canonical then textLibraries.dump json else none
    parse := fun bytes => (textLibraries.parse bytes).filter Json.isStorable }

theorem dump_sortedLibraries (h : json.Canonical) :
    sortedLibraries.dump json = textLibraries.dump json := if_pos h

theorem parse_sortedLibraries (h : textLibraries.parse bytes = some json) (hjson : json.Canonical) :
    sortedLibraries.parse bytes = some json := by
  show (textLibraries.parse bytes).filter Json.isStorable = some json
  rw [h]
  exact if_pos hjson.isStorable

theorem lawful_sortedLibraries : sortedLibraries.Lawful where
  toString_isSome := lawful_textLibraries.toString_isSome
  toHstring_toString := lawful_textLibraries.toHstring_toString
  toString_length := lawful_textLibraries.toString_length
  toHstring_ascii := lawful_textLibraries.toHstring_ascii
  dump_isSome json hjson := by
    rw [dump_sortedLibraries hjson]
    exact lawful_textLibraries.dump_isSome json hjson
  dump_size json bytes hjson h :=
    lawful_textLibraries.dump_size json bytes hjson ((dump_sortedLibraries hjson).symm.trans h)
  parse_dump json bytes hjson h := by
    rw [dump_sortedLibraries hjson] at h
    exact parse_sortedLibraries (lawful_textLibraries.parse_dump json bytes hjson h) hjson
  parse_empty bytes h := by
    show (textLibraries.parse bytes).filter Json.isStorable = none
    rw [lawful_textLibraries.parse_empty bytes h]
    rfl

theorem faithful_sortedLibraries : sortedLibraries.Faithful where
  parse_isStorable bytes json h := (Option.filter_eq_some_iff.1 h).2
  parse_dump_same json bytes read _ h hread := by
    by_cases hjson : json.Canonical
    · cases (lawful_sortedLibraries.parse_dump json bytes hjson h).symm.trans hread
      exact .refl json
    · exact absurd ((if_neg hjson).symm.trans h) nofun

/-- A user of version 0.9.1 who has reconnected automatically, and has turned connecting on startup
off. -/
def explicitDocument : Json :=
  .object [("globalAutoReconnect", .bool true), ("globalConnectOnStartup", .bool false)]

/-- The same document in the present version. -/
def explicitUpgraded : Json :=
  .object [("globalConnectOnStartup", .bool false),
    ("globalReconnectOnConnectionLoss", .bool true), ("schemaVersion", .integer 2)]

/-- The settings of both. -/
def explicitSettings : SettingsData where
  globalConnectOnStartup := false
  globalReconnectOnConnectionLoss := true

theorem writable_explicitDocument : Writable 1 explicitDocument := by
  refine writable_object ?_ ?_
  · simp only [Json.Sorted, List.pairwise_cons]
    decide
  · simp [writable_bool]

theorem writable_explicitUpgraded : Writable 1 explicitUpgraded := by
  refine writable_object ?_ ?_
  · simp only [Json.Sorted, List.pairwise_cons]
    decide
  · simpa [writable_bool] using writable_int32 0 2

/-- The old document is read. -/
theorem decodePersisted_explicit : ∃ bytes,
    sortedLibraries.parse bytes = some explicitDocument ∧
      decodePersisted sortedLibraries bytes = some ⟨explicitSettings, true⟩ := by
  obtain ⟨bytes, -, hparse⟩ :=
    parseJson_small lawful_sortedLibraries writable_explicitDocument (by decide)
  obtain ⟨text, htext, hparsed⟩ :=
    parseJson_small lawful_sortedLibraries writable_explicitUpgraded (by decide)
  have hdecode : decode sortedLibraries text = some explicitSettings := by
    rw [decode, hparsed]
    decide
  have hkeys : object legacyTopLevelKeys explicitDocument = some () := by decide
  have hflags : replaceOldFlag "globalAutoReconnect" "globalConnectOnStartup"
      "globalReconnectOnConnectionLoss"
        [("globalAutoReconnect", .bool true), ("globalConnectOnStartup", .bool false)] =
          some [("globalConnectOnStartup", .bool false),
            ("globalReconnectOnConnectionLoss", .bool true)] := rfl
  have hversion : Json.object (Json.set "schemaVersion" (.integer schemaVersion.toInt)
      [("globalConnectOnStartup", .bool false),
        ("globalReconnectOnConnectionLoss", .bool true)]) = explicitUpgraded := rfl
  refine ⟨bytes, (parseJson_eq_some hparse).1, ?_⟩
  rw [explicitDocument] at hparse hkeys
  simp [decodePersisted, hparse, hkeys, hflags, upgradeDevices, erase, hversion, htext, hdecode,
    List.lookup]

/-- What was turned off stays off. -/
theorem migrates_explicit : ∃ bytes,
    decodePersisted sortedLibraries bytes = some ⟨explicitSettings, true⟩ ∧
      Migrates sortedLibraries explicitDocument explicitSettings ∧
      ∃ text, encode sortedLibraries explicitSettings = some text ∧
        decodePersisted sortedLibraries text = some ⟨explicitSettings, false⟩ := by
  obtain ⟨bytes, hparse, hread⟩ := decodePersisted_explicit
  have hmigrates := (migrates lawful_sortedLibraries faithful_sortedLibraries hparse rfl).2 _ hread
  exact ⟨bytes, hread, hmigrates.2⟩

end PlaybackConnector.Settings
