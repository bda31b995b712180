import PlaybackConnector.App.PresentedSnapshot

/-!
# The rows of the device picker

`BuildDevicePickerViewState` (`DevicePickerViewState.cpp:8`) projects a snapshot of the application
to the rows of the picker, and `BuildDeviceOptionsViewState` (`DevicePickerViewState.cpp:48`) to the
options of one device. A device has a row if it is available or saved; a default device that is
neither keeps a row of its own, so that it can be reset (`picker_rows_exact`).
-/

namespace PlaybackConnector

open TargetResolution Settings

/-! ## View states -/

/-- Source: `DeviceSnapshotItem` (`DevicePickerTypes.hpp:20`). -/
structure DeviceSnapshotItem where
  id : WString
  name : WString
  deviceAlias : WString
  displayName : WString
  isConnected : Bool
  isBusy : Bool
  isAvailable : Bool
  isDefault : Bool
deriving Repr, DecidableEq

/-- Source: `DevicePickerViewState` (`DevicePickerViewState.hpp:17`). -/
structure DevicePickerViewState where
  generation : Nat
  connectedDeviceCount : Nat
  inventoryComplete : Bool
  items : List DeviceSnapshotItem
deriving Repr, DecidableEq

/-- Source: `SettingsDeviceViewModel` (`SettingsDeviceViewModel.hpp:5`). -/
structure SettingsDeviceViewModel where
  id : WString := []
  deviceAlias : WString := []
  displayName : WString := []
  connectOnStartup : Bool := false
  reconnectOnConnectionLoss : Bool := false
  isDefaultDevice : Bool := false
deriving Repr, DecidableEq

/-- Source: `DeviceOptionsViewModel` (`DevicePickerViewState.hpp:10`). -/
structure DeviceOptionsViewModel where
  device : SettingsDeviceViewModel := {}
  globalConnectOnStartup : Bool := false
  globalReconnectOnConnectionLoss : Bool := false
  canForget : Bool := false
deriving Repr, DecidableEq

namespace PresentedSnapshot

variable (snapshot : PresentedSnapshot) (privateDeviceName : WString)

/-- The settings store the device. Source: `saved` (`DevicePickerViewState.cpp:15`). -/
def saved (id : WString) : Option DeviceSettings := snapshot.settings.devices.find? (·.id = id)

/-- Source: `DevicePickerViewState.cpp:27`. -/
def isDefaultId (id : WString) : Bool :=
  snapshot.settings.defaultDevice = .specificDevice && snapshot.settings.defaultDeviceId = id

/-- The name of a device that is shown: its alias, or the private name in privacy mode. -/
def shownName (deviceAlias name : WString) : WString :=
  if deviceAlias ≠ [] then deviceAlias
  else if snapshot.privacyModeEnabled then privateDeviceName
  else name

/-- The row of a device, if it has one. Source: `BuildDevicePickerViewState`
(`DevicePickerViewState.cpp:14`). -/
def item (device : DeviceSnapshot) : Option DeviceSnapshotItem :=
  if !device.isAvailable ∧ (snapshot.saved device.id.value).isNone then none
  else
    let name := if device.name = [] then device.id.value else device.name
    some
      { id := device.id.value
        name
        deviceAlias := device.deviceAlias
        displayName := snapshot.shownName privateDeviceName device.deviceAlias name
        isConnected := device.isConnected
        isBusy := device.isBusy
        isAvailable := device.isAvailable
        isDefault := snapshot.isDefaultId device.id.value }

/-- The rows of the devices. Source: `BuildDevicePickerViewState`
(`DevicePickerViewState.cpp:14`). -/
def deviceItems : List DeviceSnapshotItem :=
  snapshot.devices.filterMap (snapshot.item privateDeviceName)

/-- The row of a default device that has none otherwise. Source: `BuildDevicePickerViewState`
(`DevicePickerViewState.cpp:32`). -/
def defaultItem : List DeviceSnapshotItem :=
  let id := snapshot.settings.defaultDeviceId
  if snapshot.settings.defaultDevice = .specificDevice ∧ id ≠ [] ∧
      (snapshot.deviceItems privateDeviceName).all (·.id ≠ id) then
    [{ id
       name := id
       deviceAlias := []
       displayName := if snapshot.privacyModeEnabled then privateDeviceName else id
       isConnected := false
       isBusy := false
       isAvailable := false
       isDefault := true }]
  else []

/-- Source: `BuildDevicePickerViewState` (`DevicePickerViewState.cpp:8`). -/
def buildDevicePickerViewState : DevicePickerViewState :=
  if !snapshot.isRunning then
    ⟨snapshot.generation, 0, snapshot.inventoryComplete, []⟩
  else
    { generation := snapshot.generation
      connectedDeviceCount := (snapshot.deviceItems privateDeviceName).countP (·.isConnected)
      inventoryComplete := snapshot.inventoryComplete
      items := snapshot.deviceItems privateDeviceName ++ snapshot.defaultItem privateDeviceName }

/-- The options of a default device that is in no list. Source: `BuildDeviceOptionsViewState`
(`DevicePickerViewState.cpp:54`). -/
def defaultOptions (id : WString) : DeviceOptionsViewModel where
  device :=
    { id
      displayName := if snapshot.privacyModeEnabled then privateDeviceName else id
      isDefaultDevice := true }
  globalConnectOnStartup := snapshot.settings.globalConnectOnStartup
  globalReconnectOnConnectionLoss := snapshot.settings.globalReconnectOnConnectionLoss

/-- The options of a listed device. Source: `BuildDeviceOptionsViewState`
(`DevicePickerViewState.cpp:68`). -/
def deviceOptions (device : DeviceSnapshot) (id : WString) : DeviceOptionsViewModel where
  device :=
    { id
      deviceAlias := device.deviceAlias
      displayName := snapshot.shownName privateDeviceName device.deviceAlias
        (if device.name = [] then device.id.value else device.name)
      connectOnStartup := (snapshot.saved id).any (·.connectOnStartup)
      reconnectOnConnectionLoss := (snapshot.saved id).any (·.reconnectOnConnectionLoss)
      isDefaultDevice := snapshot.isDefaultId id }
  globalConnectOnStartup := snapshot.settings.globalConnectOnStartup
  globalReconnectOnConnectionLoss := snapshot.settings.globalReconnectOnConnectionLoss
  canForget := (snapshot.saved id).isSome && !device.isConnected && !device.isBusy

/-- Source: `BuildDeviceOptionsViewState` (`DevicePickerViewState.cpp:48`). -/
def buildDeviceOptionsViewState (id : WString) : Option DeviceOptionsViewModel :=
  if !snapshot.isRunning ∨ id = [] then none
  else
    match snapshot.devices.find? (·.id.value = id) with
    | none => if snapshot.isDefaultId id then some (snapshot.defaultOptions privateDeviceName id)
      else none
    | some device =>
      if !device.isAvailable ∧ (snapshot.saved id).isNone ∧ !snapshot.isDefaultId id then none
      else some (snapshot.deviceOptions privateDeviceName device id)

variable {snapshot privateDeviceName} {device : DeviceSnapshot} {row : DeviceSnapshotItem}
  {id : WString} {toLower : ToLower} {deviceState : DeviceServiceSnapshot}
  {settings : SettingsData} {generation : Nat}

/-! ## Rows of devices -/

/-- The device has a row of its own. -/
def Listed (snapshot : PresentedSnapshot) (device : DeviceSnapshot) : Prop :=
  device.isAvailable = true ∨ (snapshot.saved device.id.value).isSome = true

theorem item_eq_some_iff : snapshot.item privateDeviceName device = some row ↔
    snapshot.Listed device ∧ row =
      { id := device.id.value
        name := if device.name = [] then device.id.value else device.name
        deviceAlias := device.deviceAlias
        displayName := snapshot.shownName privateDeviceName device.deviceAlias
          (if device.name = [] then device.id.value else device.name)
        isConnected := device.isConnected
        isBusy := device.isBusy
        isAvailable := device.isAvailable
        isDefault := snapshot.isDefaultId device.id.value } := by
  unfold item Listed
  by_cases hlisted : device.isAvailable = true ∨ (snapshot.saved device.id.value).isSome = true
  · rw [if_neg ?_]
    · simp only [Option.some.injEq, hlisted, true_and]
      exact eq_comm
    · rcases hlisted with h | h
      · simp [h]
      · simp [Option.isSome_iff_ne_none.1 h]
  · rw [if_pos ?_]
    · simp [hlisted]
    · simpa using hlisted

theorem mem_deviceItems : row ∈ snapshot.deviceItems privateDeviceName ↔
    ∃ device ∈ snapshot.devices, snapshot.item privateDeviceName device = some row :=
  List.mem_filterMap

theorem mem_ids_deviceItems : id ∈ (snapshot.deviceItems privateDeviceName).map (·.id) ↔
    ∃ device ∈ snapshot.devices, snapshot.Listed device ∧ device.id.value = id := by
  simp only [List.mem_map, mem_deviceItems, item_eq_some_iff]
  constructor
  · rintro ⟨row, ⟨device, hmem, hlisted, rfl⟩, rfl⟩
    exact ⟨device, hmem, hlisted, rfl⟩
  · rintro ⟨device, hmem, hlisted, rfl⟩
    exact ⟨_, ⟨device, hmem, hlisted, rfl⟩, rfl⟩

/-- The rows keep the order of the devices. -/
theorem ids_deviceItems_sublist : ((snapshot.deviceItems privateDeviceName).map (·.id)).Sublist
    (snapshot.devices.map (·.id.value)) := by
  unfold deviceItems
  induction snapshot.devices with
  | nil => exact .slnil
  | cons device devices ih =>
    cases hitem : snapshot.item privateDeviceName device with
    | none =>
      rw [List.filterMap_cons_none hitem]
      exact ih.cons _
    | some row =>
      rw [List.filterMap_cons_some hitem]
      obtain ⟨-, rfl⟩ := item_eq_some_iff.1 hitem
      exact ih.cons_cons _

/-! ## The row of the default device -/

theorem isDefaultId_iff : snapshot.isDefaultId id = true ↔
    snapshot.settings.defaultDevice = .specificDevice ∧ snapshot.settings.defaultDeviceId = id := by
  simp [isDefaultId]

theorem mem_defaultItem : row ∈ snapshot.defaultItem privateDeviceName ↔
    snapshot.isDefaultId row.id = true ∧ row.id ≠ [] ∧
      row.id ∉ (snapshot.deviceItems privateDeviceName).map (·.id) ∧
      row = ⟨row.id, row.id, [], if snapshot.privacyModeEnabled then privateDeviceName else row.id,
        false, false, false, true⟩ := by
  unfold defaultItem
  dsimp only
  rw [isDefaultId_iff]
  split
  · next h =>
    obtain ⟨hmode, hne, hnone⟩ := h
    rw [List.mem_singleton]
    constructor
    · rintro rfl
      exact ⟨⟨hmode, rfl⟩, hne, by simpa using hnone, rfl⟩
    · rintro ⟨⟨-, hid⟩, -, -, hrow⟩
      rw [hid]
      exact hrow
  · next h =>
    refine iff_of_false List.not_mem_nil ?_
    rintro ⟨⟨hmode, hid⟩, hne, hnone, -⟩
    refine h ⟨hmode, hid ▸ hne, ?_⟩
    rw [hid]
    simpa using hnone

/-! ## Main results -/

/-- The rows and the options of a snapshot that was captured from `deviceState` and `settings`. -/
structure RowsExact (deviceState : DeviceServiceSnapshot) (snapshot : PresentedSnapshot)
    (privateDeviceName : WString) : Prop where
  /-- There is one row for each identity. -/
  distinct : ((snapshot.buildDevicePickerViewState privateDeviceName).items.map (·.id)).Nodup
  /-- The rows are those of the devices that are available or saved, and that of the default
  device. -/
  listed : ∀ id, id ∈ (snapshot.buildDevicePickerViewState privateDeviceName).items.map (·.id) ↔
    (∃ device ∈ snapshot.devices, snapshot.Listed device ∧ device.id.value = id) ∨
      snapshot.isDefaultId id = true ∧ id ≠ []
  /-- No device of the inventory or of the settings is left out that can be named at all. -/
  covers : ∀ id, (ExternalDeviceId.tryCreate id).isSome = true →
    id ∈ deviceState.inventory.devices.map DeviceIdentity.id ∨
      id ∈ snapshot.settings.devices.map DeviceSettings.id →
    id ∈ (snapshot.buildDevicePickerViewState privateDeviceName).items.map (·.id)
  /-- The row of the default device, and no other one, says so. -/
  default : ∀ row ∈ (snapshot.buildDevicePickerViewState privateDeviceName).items,
    row.isDefault = snapshot.isDefaultId row.id
  /-- The options can be opened of the devices that have a row, and of no others. -/
  options : ∀ id, (snapshot.buildDeviceOptionsViewState privateDeviceName id).isSome = true ↔
    id ∈ (snapshot.buildDevicePickerViewState privateDeviceName).items.map (·.id)
  /-- The options of a device that is available or saved show what its row shows. -/
  agrees : ∀ row ∈ snapshot.deviceItems privateDeviceName, ∃ options,
    snapshot.buildDeviceOptionsViewState privateDeviceName row.id = some options ∧
      options.device.displayName = row.displayName ∧
      options.device.deviceAlias = row.deviceAlias ∧
      options.device.isDefaultDevice = row.isDefault ∧
      (options.canForget = true ↔ row.isConnected = false ∧ row.isBusy = false ∧
        row.id ∈ snapshot.settings.devices.map DeviceSettings.id)
  /-- The connected devices are counted, and are those of the tray. -/
  connected : (snapshot.buildDevicePickerViewState privateDeviceName).connectedDeviceCount =
      snapshot.connectedDevices.length ∧
    (snapshot.buildDevicePickerViewState privateDeviceName).connectedDeviceCount =
      (snapshot.buildDevicePickerViewState privateDeviceName).items.countP (·.isConnected)
  /-- In privacy mode a row shows an alias, or the private name. -/
  privacy : snapshot.privacyModeEnabled = true →
    ∀ row ∈ (snapshot.buildDevicePickerViewState privateDeviceName).items,
      row.displayName = if row.deviceAlias ≠ [] then row.deviceAlias else privateDeviceName

section
variable (hrun : snapshot.isRunning = true)
include hrun

theorem items_eq : (snapshot.buildDevicePickerViewState privateDeviceName).items =
    snapshot.deviceItems privateDeviceName ++ snapshot.defaultItem privateDeviceName := by
  unfold buildDevicePickerViewState
  rw [if_neg (by simp [hrun])]

theorem ids_items : id ∈ (snapshot.buildDevicePickerViewState privateDeviceName).items.map (·.id) ↔
    (∃ device ∈ snapshot.devices, snapshot.Listed device ∧ device.id.value = id) ∨
      snapshot.isDefaultId id = true ∧ id ≠ [] := by
  rw [items_eq hrun, List.map_append, List.mem_append, mem_ids_deviceItems]
  refine or_congr_right' fun hnot => ?_
  rw [List.mem_map]
  constructor
  · rintro ⟨row, hrow, rfl⟩
    obtain ⟨hdefault, hne, -, -⟩ := mem_defaultItem.1 hrow
    exact ⟨hdefault, hne⟩
  · rintro ⟨hdefault, hne⟩
    refine ⟨⟨id, id, [], if snapshot.privacyModeEnabled then privateDeviceName else id, false,
      false, false, true⟩, mem_defaultItem.2 ⟨hdefault, hne, ?_, rfl⟩, rfl⟩
    exact fun hmem => hnot (mem_ids_deviceItems.1 hmem)

theorem nodup_items (hnodup : (snapshot.devices.map (·.id.value)).Nodup) :
    ((snapshot.buildDevicePickerViewState privateDeviceName).items.map (·.id)).Nodup := by
  rw [items_eq hrun, List.map_append]
  refine List.nodup_append.2 ⟨hnodup.sublist ids_deviceItems_sublist, ?_, ?_⟩
  · unfold defaultItem
    dsimp only
    split <;> simp
  · rintro id hid other hother rfl
    obtain ⟨row, hrow, rfl⟩ := List.mem_map.1 hother
    exact (mem_defaultItem.1 hrow).2.2.1 hid

/-- What the options of a device are, when it is listed under its identity only. -/
theorem options_of_mem (hnodup : (snapshot.devices.map (·.id.value)).Nodup)
    (hmem : device ∈ snapshot.devices) :
    snapshot.buildDeviceOptionsViewState privateDeviceName device.id.value =
      if !device.isAvailable ∧ (snapshot.saved device.id.value).isNone ∧
          !snapshot.isDefaultId device.id.value then none
      else some (snapshot.deviceOptions privateDeviceName device device.id.value) := by
  have hfind : findKey (fun device : DeviceSnapshot => device.id.value) device.id.value
      snapshot.devices = some device := findKey_eq_some hnodup hmem
  unfold findKey at hfind
  unfold buildDeviceOptionsViewState
  rw [if_neg (by simp [hrun, device.id.nonempty]), hfind]

theorem isSome_options (hnodup : (snapshot.devices.map (·.id.value)).Nodup) :
    (snapshot.buildDeviceOptionsViewState privateDeviceName id).isSome = true ↔
      id ∈ (snapshot.buildDevicePickerViewState privateDeviceName).items.map (·.id) := by
  rw [ids_items hrun]
  by_cases hmem : ∃ device ∈ snapshot.devices, device.id.value = id
  · obtain ⟨device, hmem, rfl⟩ := hmem
    have hone : (∃ other ∈ snapshot.devices, snapshot.Listed other ∧
        other.id.value = device.id.value) ↔ snapshot.Listed device := by
      refine ⟨?_, fun h => ⟨device, hmem, h, rfl⟩⟩
      rintro ⟨other, hother, hlisted, hid⟩
      rwa [← List.inj_on_of_nodup_map hnodup hother hmem hid]
    rw [options_of_mem hrun hnodup hmem, hone]
    unfold Listed
    cases device.isAvailable <;> cases snapshot.saved device.id.value <;>
      cases snapshot.isDefaultId device.id.value <;> simp [device.id.nonempty]
  · have hfind : snapshot.devices.find? (·.id.value = id) = none := by
      refine List.find?_eq_none.2 fun device hdevice hid => hmem ⟨device, hdevice, ?_⟩
      exact of_decide_eq_true hid
    have hnone : ¬ ∃ device ∈ snapshot.devices, snapshot.Listed device ∧ device.id.value = id :=
      fun ⟨device, hdevice, _, hid⟩ => hmem ⟨device, hdevice, hid⟩
    unfold buildDeviceOptionsViewState
    rw [hfind]
    by_cases hid : id = []
    · refine iff_of_false (by simp [hid]) ?_
      rintro (hlisted | ⟨-, hne⟩)
      · exact hnone hlisted
      · exact hne hid
    · cases hdefault : snapshot.isDefaultId id <;> simp [hrun, hid, hnone]

end

/-! ## The captured snapshot -/

theorem devices_captured :
    (capturedSnapshot toLower deviceState settings generation).devices =
      ((buildDevicesWithoutRefresh toLower deviceState settings).filterMap toSnapshot).map
        (markAvailable deviceState.inventory.devices) := rfl

theorem toSnapshot_eq_some {record : DeviceRecord} (h : toSnapshot record = some device) :
    device.id.value = record.id ∧ device.isConnected = record.isConnected := by
  obtain ⟨external, hexternal, rfl⟩ := Option.map_eq_some_iff.1 h
  exact ⟨ExternalDeviceId.value_of_tryCreate hexternal, rfl⟩

theorem ids_toSnapshot_sublist (records : List DeviceRecord) :
    ((records.filterMap toSnapshot).map (·.id.value)).Sublist (records.map DeviceRecord.id) := by
  induction records with
  | nil => exact .slnil
  | cons record records ih =>
    cases hsnapshot : toSnapshot record with
    | none =>
      rw [List.filterMap_cons_none hsnapshot]
      exact ih.cons _
    | some device =>
      rw [List.filterMap_cons_some hsnapshot, List.map_cons, (toSnapshot_eq_some hsnapshot).1]
      exact ih.cons_cons _

theorem nodup_captured (toLower : ToLower) (deviceState : DeviceServiceSnapshot)
    (settings : SettingsData) (generation : Nat) :
    ((capturedSnapshot toLower deviceState settings generation).devices.map
      (·.id.value)).Nodup := by
  have hids : (capturedSnapshot toLower deviceState settings generation).devices.map (·.id.value) =
      ((buildDevicesWithoutRefresh toLower deviceState settings).filterMap toSnapshot).map
        (·.id.value) := by
    rw [devices_captured, List.map_map]
    rfl
  rw [hids]
  refine List.Nodup.sublist (ids_toSnapshot_sublist _) ?_
  exact keys_mergeDevices.nodup_iff.2 (nodup_gather id_combine _)

/-- A device that the inventory or the settings have is among those that are presented. -/
theorem mem_captured (toLower : ToLower) (generation : Nat) {external : ExternalDeviceId}
    (hid : ExternalDeviceId.tryCreate id = some external)
    (h : id ∈ deviceState.inventory.devices.map DeviceIdentity.id ∨
      id ∈ settings.devices.map DeviceSettings.id) :
    ∃ device ∈ (capturedSnapshot toLower deviceState settings generation).devices,
      device.id.value = id := by
  have hvalue := ExternalDeviceId.value_of_tryCreate hid
  have hne : id ≠ [] := hvalue ▸ external.nonempty
  have hmerged : id ∈ (buildDevicesWithoutRefresh toLower deviceState settings).map
      DeviceRecord.id := by
    refine mem_mergeDevices_ids.2 (mem_sources_ids.2 ⟨hne, ?_⟩)
    rcases h with h | h
    · obtain ⟨known, hknown, rfl⟩ := List.mem_map.1 h
      refine .inl (List.mem_map.2 ⟨_, List.mem_map.2 ⟨known, hknown, rfl⟩, rfl⟩)
    · exact .inr (.inr h)
  obtain ⟨record, hrecord, rfl⟩ := List.mem_map.1 hmerged
  obtain ⟨device, hdevice, hexternal⟩ : ∃ device, toSnapshot record = some device ∧
      device.id = external := by
    unfold toSnapshot
    rw [hid]
    exact ⟨_, rfl, rfl⟩
  have hpresented := List.mem_filterMap.2 ⟨record, hrecord, hdevice⟩
  rw [devices_captured]
  refine ⟨_, List.mem_map.2 ⟨device, hpresented, rfl⟩, ?_⟩
  rw [← hvalue, ← hexternal]
  rfl

theorem isAvailable_of_mem (hmem :
      device ∈ (capturedSnapshot toLower deviceState settings generation).devices) :
    device.isAvailable = (device.isConnected || device.isBusy ||
      deviceState.inventory.devices.any fun known => known.id = device.id.value) := by
  rw [devices_captured] at hmem
  obtain ⟨source, -, rfl⟩ := List.mem_map.1 hmem
  rfl

/-- The connected devices of the tray are those that are presented. -/
theorem connectedDevices_captured :
    (capturedSnapshot toLower deviceState settings generation).connectedDevices.length =
      (capturedSnapshot toLower deviceState settings generation).devices.countP
        (·.isConnected) := by
  rw [devices_captured, List.countP_map, List.countP_eq_length_filter]
  rfl

/-- A connected device has a row. -/
theorem countP_deviceItems
    (h : ∀ device ∈ snapshot.devices, device.isConnected = true → snapshot.Listed device) :
    (snapshot.deviceItems privateDeviceName).countP (·.isConnected) =
      snapshot.devices.countP (·.isConnected) := by
  unfold deviceItems
  rw [List.countP_filterMap]
  refine List.countP_congr fun device hmem => ?_
  cases hitem : snapshot.item privateDeviceName device with
  | none =>
    refine ⟨fun hfalse => by simp at hfalse, fun hconnected => ?_⟩
    have hrow : snapshot.item privateDeviceName device = some _ :=
      item_eq_some_iff.2 ⟨h device hmem hconnected, rfl⟩
    rw [hitem] at hrow
    cases hrow
  | some row =>
    obtain ⟨-, rfl⟩ := item_eq_some_iff.1 hitem
    rfl

end PresentedSnapshot

end PlaybackConnector
