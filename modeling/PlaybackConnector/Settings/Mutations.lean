import PlaybackConnector.Settings.Size
import Mathlib

/-!
# Mutations of the settings

The setters of `SettingsStore` (`SettingsStore.cpp:684`): which arguments each of them takes
(`Mutation.admitted`) and what it does to the settings, with whether it changed them
(`Mutation.change`). A setter that is rejected, for its arguments or because the store takes no
changes, leaves the settings as they are.

`change_valid`: every setter keeps the settings valid, and so does every sequence of them.
-/

namespace PlaybackConnector.Settings

variable {data : SettingsData} {deviceId : WString}

/-! ## Devices -/

/-- Source: `FindDevice` (`SettingsStore.cpp:685`). -/
def findDevice (data : SettingsData) (id : WString) : Option DeviceSettings :=
  data.devices.find? fun device => device.id = id

/-- Change the device that `findDevice` finds. -/
def updateDevice (id : WString) (update : DeviceSettings → DeviceSettings) :
    List DeviceSettings → List DeviceSettings
  | [] => []
  | device :: rest =>
    if device.id = id then update device :: rest else device :: updateDevice id update rest

/-- A device that was not configured before. -/
def newDevice (data : SettingsData) (id name deviceAlias : WString) : DeviceSettings where
  id
  name
  deviceAlias
  connectOnStartup := data.globalConnectOnStartup
  reconnectOnConnectionLoss := data.globalReconnectOnConnectionLoss

/-! ## Setters -/

/-- Source: `SettingsStore::RecordRatingPromptFirstLaunch` (`SettingsStore.cpp:722`). -/
def recordRatingPromptFirstLaunch (today : WString) (data : SettingsData) : Bool × SettingsData :=
  if today = [] ∨ data.ratingPrompt.firstLaunchDate ≠ [] then (false, data)
  else (true, { data with ratingPrompt.firstLaunchDate := today })

/-- Source: `SettingsStore::RememberDevice` (`SettingsStore.cpp:740`). -/
def rememberDevice (deviceId deviceName : WString) (data : SettingsData) : Bool × SettingsData :=
  if (findDevice data deviceId).isSome ∨ data.devices.length = maxPersistedDeviceCount then
    (false, data)
  else (true, { data with devices := data.devices ++ [newDevice data deviceId deviceName []] })

/-- Source: `SettingsStore::SetDeviceConnectOnStartup` (`SettingsStore.cpp:753`). -/
def setDeviceConnectOnStartup (deviceId : WString) (enabled : Bool) (data : SettingsData) :
    Bool × SettingsData :=
  match findDevice data deviceId with
  | none => (false, data)
  | some device =>
    (device.connectOnStartup != enabled,
      { data with
        devices := updateDevice deviceId
          (fun device => { device with connectOnStartup := enabled }) data.devices })

/-- Source: `SettingsStore::SetDeviceReconnectOnConnectionLoss` (`SettingsStore.cpp:762`). -/
def setDeviceReconnectOnConnectionLoss (deviceId : WString) (enabled : Bool)
    (data : SettingsData) : Bool × SettingsData :=
  match findDevice data deviceId with
  | none => (false, data)
  | some device =>
    (device.reconnectOnConnectionLoss != enabled,
      { data with
        devices := updateDevice deviceId
          (fun device => { device with reconnectOnConnectionLoss := enabled }) data.devices })

/-- Source: `SettingsStore::SetDeviceAlias` (`SettingsStore.cpp:771`). -/
def setDeviceAlias (deviceId newAlias : WString) (deviceName : Option WString)
    (data : SettingsData) : Bool × SettingsData :=
  match findDevice data deviceId with
  | none =>
    if newAlias = [] ∨ data.devices.length = maxPersistedDeviceCount then (false, data)
    else (true, { data with
      devices := data.devices ++ [newDevice data deviceId (deviceName.getD []) newAlias] })
  | some device =>
    let name := (deviceName.filter fun name => name ≠ []).getD device.name
    (device.deviceAlias != newAlias || device.name != name,
      { data with
        devices := updateDevice deviceId
          (fun device => { device with deviceAlias := newAlias, name }) data.devices })

/-- Source: `SettingsStore::SetDefaultDevice` (`SettingsStore.cpp:804`). -/
def setDefaultDevice (deviceId : WString) (data : SettingsData) : Bool × SettingsData :=
  (data.defaultDevice != .specificDevice || data.defaultDeviceId != deviceId,
    { data with defaultDevice := .specificDevice, defaultDeviceId := deviceId })

/-- Source: `SettingsStore::ClearDefaultDevice` (`SettingsStore.cpp:815`). -/
def clearDefaultDevice (data : SettingsData) : Bool × SettingsData :=
  (data.defaultDevice != .lastConnected || data.defaultDeviceId != [],
    { data with defaultDevice := .lastConnected, defaultDeviceId := [] })

/-- Source: `SettingsStore::ForgetDevice` (`SettingsStore.cpp:823`). -/
def forgetDevice (deviceId : WString) (data : SettingsData) : Bool × SettingsData :=
  let before := data.devices.length + data.lastConnectedIds.length
  let defaultWasRemoved := data.defaultDeviceId == deviceId
  let devices := data.devices.filter fun device => device.id ≠ deviceId
  let lastConnectedIds := data.lastConnectedIds.filter fun id => id ≠ deviceId
  let data := { data with devices, lastConnectedIds }
  (defaultWasRemoved || before != devices.length + lastConnectedIds.length,
    if defaultWasRemoved then { data with defaultDevice := .lastConnected, defaultDeviceId := [] }
    else data)

/-- The device of a connection, configured if there is room and with its present name.
Source: `SettingsStore::RecordConnectedDevice` (`SettingsStore.cpp:848`). -/
def recordDevice (deviceId deviceName : WString) (data : SettingsData) : Bool × SettingsData :=
  match findDevice data deviceId with
  | none =>
    if data.devices.length < maxPersistedDeviceCount then
      (true, { data with devices := data.devices ++ [newDevice data deviceId deviceName []] })
    else (false, data)
  | some device =>
    if deviceName ≠ [] ∧ device.name ≠ deviceName then
      (true, { data with
        devices := updateDevice deviceId
          (fun device => { device with name := deviceName }) data.devices })
    else (false, data)

/-- The device of a connection, moved to the front of the list.
Source: `SettingsStore::RecordConnectedDevice` (`SettingsStore.cpp:858`). -/
def recordConnectedId (deviceId : WString) (ids : List WString) : List WString :=
  let ids := deviceId :: ids.filter fun id => id ≠ deviceId
  if ids.length > maxPersistedDeviceCount then ids.dropLast else ids

/-- One more day on which the application was used.
Source: `SettingsStore::RecordConnectedDevice` (`SettingsStore.cpp:863`). -/
def recordUsageDay (usageDay : WString) (prompt : RatingPromptData) : Bool × RatingPromptData :=
  if prompt.asked = false ∧ usageDay ≠ [] ∧ prompt.lastUsageDate ≠ usageDay ∧
      prompt.usageDays < Int32.maxValue then
    (true, { prompt with lastUsageDate := usageDay, usageDays := prompt.usageDays + 1 })
  else (false, prompt)

/-- Source: `SettingsStore::RecordConnectedDevice` (`SettingsStore.cpp:839`). -/
def recordConnectedDevice (deviceId deviceName usageDay : WString) (data : SettingsData) :
    Bool × SettingsData :=
  let (deviceChanged, data) := recordDevice deviceId deviceName data
  let lastConnectedIds := recordConnectedId deviceId data.lastConnectedIds
  let (dayAdded, ratingPrompt) := recordUsageDay usageDay data.ratingPrompt
  (deviceChanged || lastConnectedIds != data.lastConnectedIds || dayAdded,
    { data with lastConnectedIds, ratingPrompt })

/-! ## Mutations -/

/-- A call of a setter. -/
inductive Mutation
  | setGlobalConnectOnStartup (enabled : Bool)
  | setGlobalReconnectOnConnectionLoss (enabled : Bool)
  | setAllowIncomingConnections (enabled : Bool)
  | setStartWithWindows (enabled : Bool)
  | setShowNotifications (enabled : Bool)
  | setUseSystemBackdropEffects (enabled : Bool)
  | setLanguage (language : WString)
  | setPrivacyModeEnabled (enabled : Bool)
  | recordRatingPromptFirstLaunch (today : WString)
  | markRatingPromptAsked
  | setSettingsWindowBounds (bounds : Option PersistedWindowBounds)
  | rememberDevice (deviceId deviceName : WString)
  | setDeviceConnectOnStartup (deviceId : WString) (enabled : Bool)
  | setDeviceReconnectOnConnectionLoss (deviceId : WString) (enabled : Bool)
  | setDeviceAlias (deviceId newAlias : WString) (deviceName : Option WString)
  | setDefaultDevice (deviceId : WString)
  | clearDefaultDevice
  | forgetDevice (deviceId : WString)
  | recordConnectedDevice (deviceId deviceName usageDay : WString)
deriving DecidableEq

namespace Mutation

/-- The arguments that a setter takes; it rejects all others. -/
def admitted : Mutation → Prop
  | setLanguage language => language ∈ supportedLanguages
  | setSettingsWindowBounds bounds => ∀ value ∈ bounds, PersistedWindowBounds.IsPersistable value
  | rememberDevice deviceId deviceName | recordConnectedDevice deviceId deviceName _ =>
    IsDeviceId deviceId ∧ IsBoundedUtf16 deviceName maxDeviceNameCharacters
  | setDeviceConnectOnStartup deviceId _ | setDeviceReconnectOnConnectionLoss deviceId _
  | setDefaultDevice deviceId | forgetDevice deviceId => IsDeviceId deviceId
  | setDeviceAlias deviceId newAlias deviceName =>
    IsDeviceId deviceId ∧ IsBoundedUtf16 newAlias maxDeviceAliasCharacters ∧
      ∀ name ∈ deviceName, IsBoundedUtf16 name maxDeviceNameCharacters
  | _ => True

instance : DecidablePred admitted := fun mutation => by
  cases mutation <;> (unfold admitted; infer_instance)

/-- What a setter does to the settings it is applied to, and whether it changes them. -/
def change : Mutation → SettingsData → Bool × SettingsData
  | setGlobalConnectOnStartup enabled, data =>
    (data.globalConnectOnStartup != enabled, { data with globalConnectOnStartup := enabled })
  | setGlobalReconnectOnConnectionLoss enabled, data =>
    (data.globalReconnectOnConnectionLoss != enabled,
      { data with globalReconnectOnConnectionLoss := enabled })
  | setAllowIncomingConnections enabled, data =>
    (data.allowIncomingConnections != enabled, { data with allowIncomingConnections := enabled })
  | setStartWithWindows enabled, data =>
    (data.startWithWindows != enabled, { data with startWithWindows := enabled })
  | setShowNotifications enabled, data =>
    (data.showNotifications != enabled, { data with showNotifications := enabled })
  | setUseSystemBackdropEffects enabled, data =>
    (data.useSystemBackdropEffects != enabled, { data with useSystemBackdropEffects := enabled })
  | setLanguage language, data => (data.language != language, { data with language })
  | setPrivacyModeEnabled enabled, data =>
    (data.privacyModeEnabled != enabled, { data with privacyModeEnabled := enabled })
  | recordRatingPromptFirstLaunch today, data => Settings.recordRatingPromptFirstLaunch today data
  | markRatingPromptAsked, data =>
    (!data.ratingPrompt.asked, { data with ratingPrompt.asked := true })
  | setSettingsWindowBounds bounds, data =>
    (data.settingsWindowBounds != bounds, { data with settingsWindowBounds := bounds })
  | rememberDevice deviceId deviceName, data => Settings.rememberDevice deviceId deviceName data
  | setDeviceConnectOnStartup deviceId enabled, data =>
    Settings.setDeviceConnectOnStartup deviceId enabled data
  | setDeviceReconnectOnConnectionLoss deviceId enabled, data =>
    Settings.setDeviceReconnectOnConnectionLoss deviceId enabled data
  | setDeviceAlias deviceId newAlias deviceName, data =>
    Settings.setDeviceAlias deviceId newAlias deviceName data
  | setDefaultDevice deviceId, data => Settings.setDefaultDevice deviceId data
  | clearDefaultDevice, data => Settings.clearDefaultDevice data
  | forgetDevice deviceId, data => Settings.forgetDevice deviceId data
  | recordConnectedDevice deviceId deviceName usageDay, data =>
    Settings.recordConnectedDevice deviceId deviceName usageDay data

/-- The dates that the callers take from the local clock. -/
def DatesValid : Mutation → Prop
  | recordRatingPromptFirstLaunch today => IsDate today
  | recordConnectedDevice _ _ usageDay => IsDate usageDay
  | _ => True

instance : DecidablePred DatesValid := fun mutation => by
  cases mutation <;> (unfold DatesValid; infer_instance)

/-- The settings after a call of a setter. -/
def apply (data : SettingsData) (mutation : Mutation) : SettingsData :=
  if mutation.admitted ∧ (mutation.change data).1 = true then (mutation.change data).2 else data

end Mutation

/-! ## What a setter keeps -/

theorem mem_updateDevice {update : DeviceSettings → DeviceSettings}
    {devices : List DeviceSettings} {device : DeviceSettings}
    (h : device ∈ updateDevice deviceId update devices) :
    device ∈ devices ∨ ∃ old ∈ devices, device = update old := by
  induction devices with
  | nil => cases h
  | cons head rest ih =>
    unfold updateDevice at h
    split at h
    · rcases List.mem_cons.1 h with h | h
      · exact .inr ⟨head, List.mem_cons_self, h⟩
      · exact .inl (List.mem_cons_of_mem _ h)
    · rcases List.mem_cons.1 h with rfl | h
      · exact .inl List.mem_cons_self
      · rcases ih h with h | ⟨old, hold, h⟩
        · exact .inl (List.mem_cons_of_mem _ h)
        · exact .inr ⟨old, List.mem_cons_of_mem _ hold, h⟩

theorem map_id_updateDevice {update : DeviceSettings → DeviceSettings}
    (hid : ∀ device, (update device).id = device.id) (devices : List DeviceSettings) :
    (updateDevice deviceId update devices).map DeviceSettings.id =
      devices.map DeviceSettings.id := by
  induction devices with
  | nil => rfl
  | cons head rest ih =>
    unfold updateDevice
    split
    · rw [List.map_cons, List.map_cons, hid]
    · rw [List.map_cons, List.map_cons, ih]

theorem length_updateDevice (update : DeviceSettings → DeviceSettings)
    (devices : List DeviceSettings) :
    (updateDevice deviceId update devices).length = devices.length := by
  induction devices with
  | nil => rfl
  | cons head rest ih =>
    unfold updateDevice
    split
    · rfl
    · rw [List.length_cons, List.length_cons, ih]

/-- A change to one device that keeps its id and its limits. -/
theorem SettingsData.Valid.updateDevice (h : data.Valid)
    {update : DeviceSettings → DeviceSettings} (hid : ∀ device, (update device).id = device.id)
    (hupdate : ∀ device ∈ data.devices, (update device).IsPersistable) :
    ({ data with devices := updateDevice deviceId update data.devices } : SettingsData).Valid := by
  refine ⟨{ h.persistable with
    deviceCount := ?_
    devices := ?_
    deviceIds := ?_ }, h.ratingPrompt⟩
  · rw [length_updateDevice]
    exact h.persistable.deviceCount
  · intro device hdevice
    rcases mem_updateDevice hdevice with hold | ⟨old, hold, rfl⟩
    · exact h.persistable.devices device hold
    · exact hupdate old hold
  · rw [map_id_updateDevice hid]
    exact h.persistable.deviceIds

theorem findDevice_eq_none (h : findDevice data deviceId = none) :
    deviceId ∉ data.devices.map DeviceSettings.id := by
  intro hmem
  obtain ⟨device, hdevice, hid⟩ := List.mem_map.1 hmem
  exact absurd hid (by simpa using List.find?_eq_none.1 h device hdevice)

/-- A device that is not yet there, if there is room for it. -/
theorem SettingsData.Valid.addDevice (h : data.Valid) (hnone : findDevice data deviceId = none)
    (hroom : data.devices.length < maxPersistedDeviceCount) {name deviceAlias : WString}
    (hid : IsDeviceId deviceId) (hname : IsBoundedUtf16 name maxDeviceNameCharacters)
    (halias : IsBoundedUtf16 deviceAlias maxDeviceAliasCharacters) :
    ({ data with devices := data.devices ++ [newDevice data deviceId name deviceAlias] } :
      SettingsData).Valid := by
  refine ⟨{ h.persistable with
    deviceCount := ?_
    devices := ?_
    deviceIds := ?_ }, h.ratingPrompt⟩
  · rw [List.length_append]
    exact hroom
  · intro device hdevice
    rcases List.mem_append.1 hdevice with hdevice | hdevice
    · exact h.persistable.devices device hdevice
    · rw [List.mem_singleton.1 hdevice]
      exact ⟨hid, hname, halias⟩
  · rw [List.map_append, List.nodup_append]
    refine ⟨h.persistable.deviceIds, by simp, ?_⟩
    intro id hold id' hnew heq
    have hnew : id' = deviceId := by simpa [newDevice] using hnew
    rw [heq, hnew] at hold
    exact findDevice_eq_none hnone hold

theorem isBoundedUtf16_nil (limit : Nat) : IsBoundedUtf16 [] limit :=
  ⟨Nat.zero_le _, by simp, rfl⟩

theorem recordDevice_valid {deviceName : WString} (h : data.Valid) (hid : IsDeviceId deviceId)
    (hname : IsBoundedUtf16 deviceName maxDeviceNameCharacters) :
    (recordDevice deviceId deviceName data).2.Valid := by
  unfold recordDevice
  split
  · rename_i hnone
    split
    · rename_i hroom
      exact h.addDevice hnone hroom hid hname (isBoundedUtf16_nil _)
    · exact h
  · split
    · refine h.updateDevice (fun _ => rfl) fun device hdevice => ?_
      have hold := h.persistable.devices device hdevice
      exact ⟨hold.id, hname, hold.deviceAlias⟩
    · exact h

theorem recordConnectedId_spec {ids : List WString} (hid : IsDeviceId deviceId)
    (hids : ∀ id ∈ ids, IsDeviceId id) (hnodup : ids.Nodup)
    (hlength : ids.length ≤ maxPersistedDeviceCount) :
    (∀ id ∈ recordConnectedId deviceId ids, IsDeviceId id) ∧
      (recordConnectedId deviceId ids).Nodup ∧
      (recordConnectedId deviceId ids).length ≤ maxPersistedDeviceCount := by
  have hmem : ∀ id ∈ deviceId :: ids.filter (fun id => id ≠ deviceId), IsDeviceId id := by
    intro id h
    rcases List.mem_cons.1 h with rfl | h
    · exact hid
    · exact hids id (List.mem_filter.1 h).1
  have hnodup : (deviceId :: ids.filter fun id => id ≠ deviceId).Nodup :=
    List.nodup_cons.2 ⟨by simp, hnodup.filter _⟩
  have hfilter := List.length_filter_le (fun id => decide (id ≠ deviceId)) ids
  simp only [recordConnectedId]
  split
  · refine ⟨fun id h => hmem id ((List.dropLast_sublist _).subset h), ?_, ?_⟩
    · exact hnodup.sublist (List.dropLast_sublist _)
    · simp only [List.length_dropLast, List.length_cons]
      omega
  · rename_i hroom
    exact ⟨hmem, hnodup, Nat.le_of_not_lt hroom⟩

theorem recordUsageDay_valid {prompt : RatingPromptData} {usageDay : WString}
    (h : prompt.Valid) (hday : IsDate usageDay) : (recordUsageDay usageDay prompt).2.Valid := by
  unfold recordUsageDay
  split
  · rename_i hguard
    refine ⟨?_, h.firstLaunchDate, hday⟩
    have hmax := Int32.lt_iff_toInt_lt.1 hguard.2.2.2
    have hmin := Int32.le_iff_toInt_le.1 h.usageDays
    simp only [Int32.toInt_maxValue, Int32.toInt_zero] at hmax hmin
    have hadd : (prompt.usageDays + 1).toInt = prompt.usageDays.toInt + 1 := by
      rw [Int32.toInt_add, Int32.toInt_one]
      exact Int.bmod_eq_of_le (by omega) (by omega)
    rw [Int32.le_iff_toInt_le, hadd, Int32.toInt_zero]
    omega
  · exact h

theorem setDeviceAlias_valid {newAlias : WString} {deviceName : Option WString} (h : data.Valid)
    (hadmitted : (Mutation.setDeviceAlias deviceId newAlias deviceName).admitted) :
    (setDeviceAlias deviceId newAlias deviceName data).2.Valid := by
  obtain ⟨hid, halias, hname⟩ := hadmitted
  unfold setDeviceAlias
  split
  · rename_i hnone
    split
    · exact h
    · rename_i hnew
      rw [not_or] at hnew
      refine h.addDevice hnone (Nat.lt_of_le_of_ne h.persistable.deviceCount hnew.2) hid ?_ halias
      cases deviceName with
      | none => exact isBoundedUtf16_nil _
      | some name => exact hname name rfl
  · rename_i device hdevice
    have hfound := h.persistable.devices device (List.mem_of_find?_eq_some hdevice)
    refine h.updateDevice (fun _ => rfl) fun device hdevice => ?_
    refine { h.persistable.devices device hdevice with name := ?_, deviceAlias := halias }
    cases hgiven : deviceName.filter fun name => name ≠ [] with
    | none => simpa [hgiven] using hfound.name
    | some name => simpa [hgiven] using hname name (Option.mem_filter_iff.1 hgiven).1

theorem forgetDevice_valid (h : data.Valid) (deviceId : WString) :
    (forgetDevice deviceId data).2.Valid := by
  have hrest : ({ data with
      devices := data.devices.filter fun device => device.id ≠ deviceId
      lastConnectedIds := data.lastConnectedIds.filter fun id => id ≠ deviceId } :
      SettingsData).Valid := by
    refine ⟨{ h.persistable with
      deviceCount := Nat.le_trans (List.length_filter_le _ _) h.persistable.deviceCount
      connectedCount := Nat.le_trans (List.length_filter_le _ _) h.persistable.connectedCount
      devices := fun device hdevice => h.persistable.devices device (List.mem_filter.1 hdevice).1
      deviceIds := ?_
      connected := fun id hid => h.persistable.connected id (List.mem_filter.1 hid).1
      connectedIds := h.persistable.connectedIds.filter _ }, h.ratingPrompt⟩
    exact h.persistable.deviceIds.sublist (List.filter_sublist.map _)
  simp only [forgetDevice]
  split
  · refine ⟨{ hrest.persistable with
      defaultDeviceId := isBoundedUtf16_nil _
      defaultDevice := ?_ }, h.ratingPrompt⟩
    simp
  · exact hrest

theorem change_valid {mutation : Mutation} (h : data.Valid) (hadmitted : mutation.admitted)
    (hdates : mutation.DatesValid) : (mutation.change data).2.Valid := by
  cases mutation with
  | setGlobalConnectOnStartup | setGlobalReconnectOnConnectionLoss | setAllowIncomingConnections
  | setStartWithWindows | setShowNotifications | setUseSystemBackdropEffects
  | setPrivacyModeEnabled =>
    exact ⟨{ h.persistable with }, h.ratingPrompt⟩
  | setLanguage language => exact ⟨{ h.persistable with language := hadmitted }, h.ratingPrompt⟩
  | setSettingsWindowBounds bounds =>
    exact ⟨{ h.persistable with bounds := hadmitted }, h.ratingPrompt⟩
  | recordRatingPromptFirstLaunch today =>
    simp only [Mutation.change, recordRatingPromptFirstLaunch]
    split
    · exact h
    · exact ⟨{ h.persistable with }, { h.ratingPrompt with firstLaunchDate := hdates }⟩
  | markRatingPromptAsked => exact ⟨{ h.persistable with }, { h.ratingPrompt with }⟩
  | rememberDevice deviceId deviceName =>
    simp only [Mutation.change, rememberDevice]
    split
    · exact h
    · rename_i hnew
      rw [not_or, Option.not_isSome_iff_eq_none] at hnew
      exact h.addDevice hnew.1 (Nat.lt_of_le_of_ne h.persistable.deviceCount hnew.2) hadmitted.1
        hadmitted.2 (isBoundedUtf16_nil _)
  | setDeviceConnectOnStartup deviceId enabled =>
    simp only [Mutation.change, setDeviceConnectOnStartup]
    split
    · exact h
    · refine h.updateDevice (fun _ => rfl) fun device hdevice => ?_
      exact { h.persistable.devices device hdevice with }
  | setDeviceReconnectOnConnectionLoss deviceId enabled =>
    simp only [Mutation.change, setDeviceReconnectOnConnectionLoss]
    split
    · exact h
    · refine h.updateDevice (fun _ => rfl) fun device hdevice => ?_
      exact { h.persistable.devices device hdevice with }
  | setDeviceAlias deviceId newAlias deviceName => exact setDeviceAlias_valid h hadmitted
  | setDefaultDevice deviceId =>
    refine ⟨{ h.persistable with defaultDeviceId := hadmitted.2, defaultDevice := ?_ },
      h.ratingPrompt⟩
    exact iff_of_true rfl hadmitted.1
  | clearDefaultDevice =>
    refine ⟨{ h.persistable with
      defaultDeviceId := isBoundedUtf16_nil _
      defaultDevice := ?_ }, h.ratingPrompt⟩
    simp [Mutation.change, clearDefaultDevice]
  | forgetDevice deviceId => exact forgetDevice_valid h deviceId
  | recordConnectedDevice deviceId deviceName usageDay =>
    have hdevice := recordDevice_valid h hadmitted.1 hadmitted.2
    obtain ⟨hids, hnodup, hlength⟩ := recordConnectedId_spec hadmitted.1
      hdevice.persistable.connected hdevice.persistable.connectedIds
      hdevice.persistable.connectedCount
    exact ⟨{ hdevice.persistable with
      connectedCount := hlength
      connected := hids
      connectedIds := hnodup }, recordUsageDay_valid hdevice.ratingPrompt hdates⟩

theorem apply_valid {mutation : Mutation} (h : data.Valid) (hdates : mutation.DatesValid) :
    (Mutation.apply data mutation).Valid := by
  unfold Mutation.apply
  split
  · rename_i happlied
    exact change_valid h happlied.1 hdates
  · exact h

/-- Every sequence of setters keeps the settings valid. -/
theorem foldl_apply_valid {mutations : List Mutation} (h : data.Valid)
    (hdates : ∀ mutation ∈ mutations, mutation.DatesValid) :
    (mutations.foldl Mutation.apply data).Valid := by
  induction mutations generalizing data with
  | nil => exact h
  | cons mutation mutations ih =>
    exact ih (apply_valid h (hdates mutation List.mem_cons_self)) fun mutation hmutation =>
      hdates mutation (List.mem_cons_of_mem _ hmutation)

/-- Whatever the setters are called with, and in whatever order, from the default settings or from
what was loaded, the settings can be saved and fit into the file. -/
theorem reachable_settings_saved {lib : TextLibraries} (hlib : lib.Lawful) (data : SettingsData)
    (hdata : data = {} ∨ ∃ bytes decoded, decodePersisted lib bytes = some decoded ∧
      decoded.data = data)
    (mutations : List Mutation) (hdates : ∀ mutation ∈ mutations, mutation.DatesValid) :
    IsPersistable (mutations.foldl Mutation.apply data) ∧
      ∃ bytes, encode lib (mutations.foldl Mutation.apply data) = some bytes ∧
        bytes.size ≤ maxSettingsFileBytes := by
  have hstart : data.Valid := by
    rcases hdata with rfl | ⟨bytes, decoded, hdecoded, rfl⟩
    · exact valid_default
    · exact valid_of_decodePersisted hdecoded
  have hvalid := foldl_apply_valid hstart hdates
  obtain ⟨bytes, hbytes⟩ := hvalid.encode_isSome hlib
  obtain ⟨-, json, -, -, hsize⟩ := encode_eq_some.1 hbytes
  exact ⟨hvalid.persistable, bytes, hbytes, hsize⟩

/-- From the default settings: a device is connected on 29 February 2024, gets an alias and becomes
the default device; a second alias is too long and rejected. -/
theorem reachable_settings_saved_connected :
    let mutations : List Mutation :=
      [.recordConnectedDevice [97] [80] [50, 48, 50, 52, 45, 48, 50, 45, 50, 57],
        .setDeviceAlias [97] [0xD83D, 0xDCF1] none, .setDefaultDevice [97],
        .setDeviceAlias [97] (List.replicate 129 65) none]
    IsPersistable (mutations.foldl Mutation.apply {}) ∧
      ∃ bytes, encode textLibraries (mutations.foldl Mutation.apply {}) = some bytes ∧
        bytes.size ≤ maxSettingsFileBytes :=
  reachable_settings_saved lawful_textLibraries {} (.inl rfl) _ (by decide)

end PlaybackConnector.Settings
