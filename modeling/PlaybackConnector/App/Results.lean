import PlaybackConnector.App.Models
import PlaybackConnector.App.ResourcePressureState

/-!
# Results of application commands

What the application controller answers (`AppModels.hpp`): the snapshots of the devices and of the
application, as far as they are presented, and the result of a command.
-/

namespace PlaybackConnector

/-! ## Identities -/

/-- An identity that can be stored. Source: `DeviceId` (`DeviceId.hpp:17`). -/
structure DeviceId where
  value : WString
  nonempty : value ≠ []
  bounded : Settings.IsBoundedUtf16 value Settings.maxDeviceIdCharacters

instance : DecidableEq DeviceId := fun a b =>
  decidable_of_iff (a.value = b.value)
    ⟨fun h => by cases a; cases b; cases h; rfl, fun h => by rw [h]⟩

/-- Source: `ExternalDeviceId` (`AppModels.hpp:43`). -/
def DeviceId.toExternal (id : DeviceId) : ExternalDeviceId where
  value := id.value
  nonempty := id.nonempty
  bounded := Nat.le_trans id.bounded.1 (by decide)
  nulFree := id.bounded.2.1

/-! ## Commands -/

/-- Source: `AppCommandKind` (`AppModels.hpp:124`). -/
inductive AppCommandKind
  | showDevicePicker | showSettings | listDevices | status | showDefault | setDefault
  | clearDefault | listAliases | setAlias | clearAlias | connect | disconnect | reconnect
  | toggleLast | disconnectAll | reconnectAll
deriving Repr, DecidableEq

/-- Source: `AppDispatchPhase` (`AppModels.hpp:167`). -/
inductive AppDispatchPhase
  | notStarted | started
deriving Repr, DecidableEq

/-! ## Snapshots -/

/-- Source: `DeviceSnapshot` (`AppModels.hpp:209`). -/
structure DeviceSnapshot where
  id : ExternalDeviceId
  name : WString := []
  deviceAlias : WString := []
  displayName : WString := []
  state : AppConnectionState := .idle
  isKnown : Bool := false
  isConnected : Bool := false
  isBusy : Bool := false
  isAvailable : Bool := false
deriving DecidableEq

/-- Source: `DefaultDeviceSnapshot` (`AppModels.hpp:244`). -/
structure DefaultDeviceSnapshot where
  mode : Settings.DefaultDeviceMode := .lastConnected
  id : Option DeviceId := none
  displayName : WString := []
  isResolved : Bool := false
  isConnected : Bool := false
deriving DecidableEq

/-- Source: `TraySnapshot` (`AppModels.hpp:257`). -/
structure TraySnapshot where
  devicePickerOpenedGeneration : UInt64 := 0
deriving DecidableEq

/-- Source: `ResourceStatusSnapshot::Residency` (`AppModels.hpp:275`). -/
inductive ResourceResidency
  | cold | warm | hot
deriving Repr, DecidableEq

/-- Source: `ResourceStatusSnapshot` (`AppModels.hpp:274`). -/
structure ResourceStatusSnapshot where
  evaluated : Bool := false
  foregroundResidency : ResourceResidency := .warm
  backgroundResidency : ResourceResidency := .warm
  snapshotFresh : Bool := false
  positiveAuthorizationCurrent : Bool := false
  preloadAllowed : Bool := false
  uiResourcesLoaded : Bool := false
  uiResourcesInitialized : Bool := false
  memory : MemoryPressureState := .unknown
  activity : UserActivityState := .unknown
  energySaver : Option Bool := none
deriving Repr, DecidableEq

/-- Source: `AppSnapshot` (`AppModels.hpp:266`). -/
structure AppSnapshot where
  isRunning : Bool := true
  privacyModeEnabled : Bool := false
  devices : List DeviceSnapshot := []
  lastConnectedDeviceIds : List DeviceId := []
  defaultDevice : Option DefaultDeviceSnapshot := none
  tray : TraySnapshot := {}
  adaptiveResources : ResourceStatusSnapshot := {}
deriving DecidableEq

/-- Source: `AppResult` (`AppModels.hpp:316`). -/
structure AppResult where
  code : AppResultCode := .success
  command : AppCommandKind := .status
  device : Option DeviceSnapshot := none
  devices : List DeviceSnapshot := []
  defaultDevice : Option DefaultDeviceSnapshot := none
  tray : Option TraySnapshot := none
  reason : AppOutcomeReason := .none
  deviceAlias : WString := []
  snapshot : Option AppSnapshot := none
  target : Option AppTargetSnapshot := none
  requestedTarget : WString := []
  privacyModeEnabled : Option Bool := none
  dispatchPhase : AppDispatchPhase := .notStarted
deriving DecidableEq

end PlaybackConnector
