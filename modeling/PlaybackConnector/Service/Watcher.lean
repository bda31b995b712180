import PlaybackConnector.Session.State
import Mathlib

/-!
# The device watcher

`DeviceWatcher` (`DeviceWatcher.cpp`): the inventory of the devices that Windows reports, and the
generations that tell a late callback from a live one. Every member function and every posted
callback runs as part of a task of the device service, so they are functions of the watcher's
state; those that publish also return the facts, in the order in which they are published.

The inventory is a map from device ids to names; here it is a list whose ids are distinct. Only
what the watcher hands to the platform is left out: its registrations and its log.
-/

namespace PlaybackConnector

/-- Source: `DeviceIdentity` (`DevicePickerTypes.hpp:9`). -/
structure DeviceIdentity where
  id : WString
  name : WString
deriving Repr, DecidableEq

/-- Source: `DeviceInventorySnapshot` (`DevicePickerTypes.hpp:14`). -/
structure DeviceInventorySnapshot where
  generation : Nat
  enumerationComplete : Bool
  devices : List DeviceIdentity
deriving Repr, DecidableEq

/-- Source: `DeviceWatcherFactKind` (`DeviceWatcher.hpp:49`). -/
inductive DeviceWatcherFactKind
  | deviceAdded | deviceRemoved | enumerationCompleted | inventoryChanged
deriving Repr, DecidableEq

/-- Source: `DeviceWatcherFact` (`DeviceWatcher.hpp:51`). -/
structure DeviceWatcherFact where
  kind : DeviceWatcherFactKind
  watcherGeneration : Nat
  inventory : DeviceInventorySnapshot
  deviceId : WString
  deviceName : WString
deriving Repr, DecidableEq

/-- Source: the data members of `DeviceWatcher::State` (`DeviceWatcher.cpp:129`). -/
structure Watcher where
  devices : List DeviceIdentity
  watcherGeneration : Nat
  inventoryVersion : Nat
  inventoryGeneration : Nat
  isWatcherRunning : Bool
  isEnumerationComplete : Bool
  isShutdown : Bool
deriving Repr, DecidableEq

namespace Watcher

/-- Source: the member initializers of `DeviceWatcher::State` (`DeviceWatcher.cpp:135`). -/
def initial : Watcher := ⟨[], 0, 0, 0, false, false, false⟩

/-! ## The inventory -/

/-- The order of the devices in a snapshot: by name, or id where the name is empty, and then by id.
Source: `BuildSnapshot` (`DeviceWatcher.cpp:24`). -/
def precedes (left right : DeviceIdentity) : Bool :=
  let leftName := if left.name = [] then left.id else left.name
  let rightName := if right.name = [] then right.id else right.name
  if leftName = rightName then left.id ≤ right.id else leftName < rightName

/-- Source: `BuildSnapshot` (`DeviceWatcher.cpp:14`). -/
def buildSnapshot (inventoryGeneration : Nat) (enumerationComplete : Bool)
    (devices : List DeviceIdentity) : DeviceInventorySnapshot where
  generation := inventoryGeneration
  enumerationComplete := enumerationComplete
  devices := devices.insertionSort (precedes · ·)

/-- What the service sees. A watcher that is shut down has given its state away. Source:
`DeviceWatcher::Snapshot` (`DeviceWatcher.cpp:370`). -/
def snapshot (w : Watcher) : DeviceInventorySnapshot :=
  if w.isShutdown then ⟨0, false, []⟩
  else buildSnapshot w.inventoryGeneration w.isEnumerationComplete w.devices

/-- The fact that `Publish` sends. Source: `DeviceWatcher::State::Publish`
(`DeviceWatcher.cpp:147`). -/
def fact (kind : DeviceWatcherFactKind) (deviceId deviceName : WString) (w : Watcher) :
    DeviceWatcherFact where
  kind := kind
  watcherGeneration := w.watcherGeneration
  inventory := buildSnapshot w.inventoryGeneration w.isEnumerationComplete w.devices
  deviceId := deviceId
  deviceName := deviceName

/-- `devices[device.Id] = device.Name`. -/
def assign (device : DeviceIdentity) : List DeviceIdentity → List DeviceIdentity
  | [] => [device]
  | d :: devices => if d.id = device.id then device :: devices else d :: assign device devices

/-- `Devices.erase(deviceId)`. -/
def erase (deviceId : WString) (devices : List DeviceIdentity) : List DeviceIdentity :=
  devices.filter (·.id ≠ deviceId)

/-! ## Callbacks -/

/-- Source: `Accepts` (`DeviceWatcher.cpp:210`). -/
def accepts (callbackGeneration : Nat) (w : Watcher) : Bool :=
  !w.isShutdown && w.isWatcherRunning && callbackGeneration = w.watcherGeneration

/-- Source: `OnDeviceAdded` (`DeviceWatcher.cpp:179`). -/
def onDeviceAdded (callbackGeneration : Nat) (device : DeviceIdentity) (w : Watcher) :
    Watcher × List DeviceWatcherFact :=
  if !w.accepts callbackGeneration then (w, [])
  else
    let inventoryChanged := device ∉ w.devices
    let w := { w with
      inventoryVersion := w.inventoryVersion + 1
      devices := assign device w.devices
      inventoryGeneration := w.inventoryGeneration + if inventoryChanged then 1 else 0 }
    (w, w.fact .deviceAdded device.id device.name ::
      if inventoryChanged then [w.fact .inventoryChanged [] []] else [])

/-- Source: `OnDeviceRemoved` (`DeviceWatcher.cpp:192`). -/
def onDeviceRemoved (callbackGeneration : Nat) (deviceId : WString) (w : Watcher) :
    Watcher × List DeviceWatcherFact :=
  if !w.accepts callbackGeneration then (w, [])
  else
    let inventoryChanged := deviceId ∈ w.devices.map (·.id)
    let w := { w with
      inventoryVersion := w.inventoryVersion + 1
      devices := erase deviceId w.devices
      inventoryGeneration := w.inventoryGeneration + if inventoryChanged then 1 else 0 }
    (w, w.fact .deviceRemoved deviceId [] ::
      if inventoryChanged then [w.fact .inventoryChanged [] []] else [])

/-- Source: `OnEnumerationCompleted` (`DeviceWatcher.cpp:201`). -/
def onEnumerationCompleted (callbackGeneration : Nat) (w : Watcher) :
    Watcher × List DeviceWatcherFact :=
  if !w.accepts callbackGeneration ∨ w.isEnumerationComplete then (w, [])
  else
    let w := { w with
      isEnumerationComplete := true
      inventoryVersion := w.inventoryVersion + 1
      inventoryGeneration := w.inventoryGeneration + 1 }
    (w, [w.fact .enumerationCompleted [] [], w.fact .inventoryChanged [] []])

/-- The task that `RefreshAsync` posts: the refresh was begun under `watcherGeneration` and
`inventoryVersion`, and found `inventory`. Source: `DeviceWatcher.cpp:346`. -/
def onRefreshed (watcherGeneration inventoryVersion : Nat) (inventory : List DeviceIdentity)
    (w : Watcher) : Watcher × List DeviceWatcherFact :=
  let refreshed := inventory.foldl (fun devices device => assign device devices) []
  if w.isShutdown ∨ watcherGeneration ≠ w.watcherGeneration ∨ inventoryVersion ≠ w.inventoryVersion
  then (w, [])
  else if w.devices.Perm refreshed ∧ w.isEnumerationComplete then (w, [])
  else
    let w := { w with
      devices := refreshed
      isEnumerationComplete := true
      inventoryVersion := w.inventoryVersion + 1
      inventoryGeneration := w.inventoryGeneration + 1 }
    (w, [w.fact .inventoryChanged [] []])

/-! ## The service's calls -/

/-- `Start` does not return at once. Source: `DeviceWatcher.cpp:241`. -/
def canStart (w : Watcher) : Bool := !w.isShutdown && !w.isWatcherRunning

/-- The assignments of `Start`. Source: `DeviceWatcher.cpp:246`. -/
def prepareStart (w : Watcher) : Watcher :=
  { w with
    watcherGeneration := w.watcherGeneration + 1
    isWatcherRunning := true
    isEnumerationComplete := false
    devices := []
    inventoryVersion := w.inventoryVersion + 1
    inventoryGeneration := w.inventoryGeneration + 1 }

/-- The registration could not be created or started. Source: `DeviceWatcher.cpp:293`. -/
def failStart (w : Watcher) : Watcher :=
  { w with
    isWatcherRunning := false
    isEnumerationComplete := false
    watcherGeneration := w.watcherGeneration + 1 }

/-- The watcher that `Start` leaves; `registers` says whether the platform creates and starts a
registration. What it returns is `starts`. Source: `DeviceWatcher::Start`
(`DeviceWatcher.cpp:239`). -/
def start (registers : Bool) (w : Watcher) : Watcher × List DeviceWatcherFact :=
  if !w.canStart then (w, [])
  else
    let w := if registers then w.prepareStart else w.prepareStart.failStart
    (w, [w.fact .inventoryChanged [] []])

/-- What `Start` returns. Source: `DeviceWatcher::Start` (`DeviceWatcher.cpp:239`). -/
def starts (registers : Bool) (w : Watcher) : Bool := w.canStart && registers

/-- Source: `DeviceWatcher::Stop` (`DeviceWatcher.cpp:306`). -/
def stop (w : Watcher) : Watcher :=
  if w.isShutdown ∨ !w.isWatcherRunning then w
  else
    { w with
      isWatcherRunning := false
      isEnumerationComplete := false
      watcherGeneration := w.watcherGeneration + 1
      inventoryGeneration := w.inventoryGeneration + 1 }

/-- Source: `DeviceWatcher::Shutdown` (`DeviceWatcher.cpp:317`). -/
def shutdown (w : Watcher) : Watcher :=
  if w.isShutdown then w
  else
    { w with
      isShutdown := true
      isWatcherRunning := false
      isEnumerationComplete := false
      watcherGeneration := w.watcherGeneration + 1 }

end Watcher

end PlaybackConnector
