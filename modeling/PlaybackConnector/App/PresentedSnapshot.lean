import PlaybackConnector.App.DeviceMerge
import PlaybackConnector.App.Results

/-!
# What the application presents

`CaptureSnapshot` (`AppControllerUseCases.cpp:123`) merges the devices of the service and of the
settings, has `BuildSnapshot` (`AppControllerUseCases.cpp:960`) present them, and then says which of
them are available. The tray, the device picker and the notifications read nothing else.
-/

namespace PlaybackConnector

open TargetResolution

/-- The fields of `AppSnapshot` that the tray, the picker and the notifications read. Source:
`AppSnapshot` (`AppModels.hpp:266`), with those of `TraySnapshot` (`AppModels.hpp:257`). -/
structure PresentedSnapshot where
  generation : Nat := 0
  isRunning : Bool := true
  privacyModeEnabled : Bool := false
  devices : List DeviceSnapshot := []
  /-- `Tray.ConnectedDevices`. -/
  connectedDevices : List DeviceSnapshot := []
  /-- `Tray.HasBusyOperations`. -/
  hasBusyOperations : Bool := false
  settings : Settings.SettingsData := {}
  inventoryComplete : Bool := false
deriving DecidableEq

/-- Source: `IsBusyState` (`AppControllerUseCases.cpp:38`). -/
def isBusyState : AppConnectionState → Bool
  | .connecting | .disconnecting | .waitingForReconnect => true
  | _ => false

/-- Source: `ToSnapshot` (`AppControllerUseCases.cpp:1073`). -/
def toSnapshot (record : DeviceRecord) : Option DeviceSnapshot :=
  (ExternalDeviceId.tryCreate record.id).map fun id =>
    { id
      name := record.name
      deviceAlias := record.deviceAlias
      displayName := deviceName record
      state := record.state
      isKnown := record.isKnown
      isConnected := record.isConnected
      isBusy := isBusyState record.state }

/-- Source: `BuildSnapshot` (`AppControllerUseCases.cpp:960`). -/
def buildSnapshot (devices : List DeviceRecord) (settings : Settings.SettingsData)
    (generation : Nat) (isRunning : Bool) : PresentedSnapshot where
  generation := generation
  isRunning := isRunning
  privacyModeEnabled := settings.privacyModeEnabled
  devices := devices.filterMap toSnapshot
  connectedDevices := (devices.filterMap toSnapshot).filter (·.isConnected)
  hasBusyOperations := devices.any fun device => isBusyState device.state
  settings := settings

/-- The device is connected, busy or in the inventory. Source: `CaptureSnapshot`
(`AppControllerUseCases.cpp:179`). -/
def markAvailable (inventory : List DeviceIdentity) (device : DeviceSnapshot) : DeviceSnapshot :=
  { device with
    isAvailable := device.isConnected || device.isBusy ||
      inventory.any fun known => known.id = device.id.value }

/-- The snapshot that is presented, from what the owners held. Source: `CaptureSnapshot`
(`AppControllerUseCases.cpp:140`). -/
def capturedSnapshot (toLower : ToLower) (deviceState : DeviceServiceSnapshot)
    (settings : Settings.SettingsData) (generation : Nat) : PresentedSnapshot :=
  let records := buildDevicesWithoutRefresh toLower deviceState settings
  let snapshot := buildSnapshot records settings generation true
  { snapshot with
    inventoryComplete := deviceState.inventory.enumerationComplete
    devices := snapshot.devices.map (markAvailable deviceState.inventory.devices) }

/-- What is presented when there is no snapshot. Source: `CaptureSnapshot`
(`AppControllerUseCases.cpp:186`). -/
def unavailableSnapshot : PresentedSnapshot := { isRunning := false }

end PlaybackConnector
