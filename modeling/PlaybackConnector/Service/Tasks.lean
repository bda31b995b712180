import PlaybackConnector.Service.State

/-!
# The tasks of the device service

The public operations of `DeviceService`, each of which posts one task, and the tasks that the
watcher, the sessions and `WaitForCompletion` post. The executor runs one task at a time
(`Service.Executor`), so the service is an `EventSystem` whose events are its tasks.
-/

namespace PlaybackConnector

namespace DeviceService

/-! ## Subscriptions, and the watcher -/

/-- Source: `Subscribe` (`DeviceService.cpp:372`). -/
def subscribe (s : DeviceService) : DeviceService :=
  if s.isShutdown then s
  else
    { s with
      publication := { s.publication with
        subscriber := some s.publication.nextSubscription
        nextSubscription := s.publication.nextSubscription + 1 } }

/-- Source: `Unsubscribe` (`DeviceService.cpp:385`). -/
def unsubscribe (subscription : Nat) (s : DeviceService) : DeviceService :=
  if s.publication.subscriber ≠ some subscription then s
  else { s with publication := { s.publication with subscriber := none } }

/-- Source: `Start` (`DeviceService.cpp:395`). -/
def start (p : ServicePlatform) (s : DeviceService) : DeviceService :=
  if s.isShutdown then s.result .start .rejected []
  else if s.isRunning then s.result .start .coalesced []
  else
    let s := s.startWatcher p
    (s.result .start (if s.isRunning then .accepted else .rejected) []).publish .inventoryChanged []

/-- Source: `Stop` (`DeviceService.cpp:418`). -/
def stop (s : DeviceService) : DeviceService :=
  if s.isShutdown then s.result .stop .rejected []
  else if !s.isRunning then s.result .stop .coalesced []
  else
    ({ s with watcher := s.watcher.stop, isRunning := false }.result .stop .accepted []).publish
      .inventoryChanged []

/-! ## Commands for one device -/

/-- `PowerTransitionRecoveryEpochs.erase(deviceId)`. -/
def eraseRecovery (deviceId : WString) (s : DeviceService) : DeviceService :=
  { s with
    powerTransitionRecoveryEpochs :=
      s.powerTransitionRecoveryEpochs.filter (·.1 ≠ deviceId) }

/-- The session still ends an operation that the command does not supersede. Source: `Connect`
(`DeviceService.cpp:454`) and `Reconnect` (`DeviceService.cpp:513`). -/
def isDisconnecting (session : Session) : Bool :=
  Session.isBusy session.toSessionState && session.lifecycle = .disconnecting &&
    !session.isSuspended

/-- The session is asked to connect; the command was accepted if that began an epoch. Source:
`Connect` (`DeviceService.cpp:463`) and `Reconnect` (`DeviceService.cpp:518`). -/
def request (p : ServicePlatform) (command : DeviceCommandKind) (operation : DeviceOperationKind)
    (deviceId : WString) (session : Session) (s : DeviceService) : DeviceService :=
  let s := s.operate p deviceId (.connect operation true)
  let coalesced : Bool := (s.find deviceId).map (·.operationEpoch) = some session.operationEpoch
  s.result command (if coalesced then .coalesced else .accepted) deviceId

/-- Source: `Connect` (`DeviceService.cpp:440`). -/
def connect (p : ServicePlatform) (deviceId : WString) (s : DeviceService) : DeviceService :=
  if deviceId = [] then s.result .connect .rejected []
  else if s.isShutdown ∨ s.isSuspended then s.result .connect .rejected deviceId
  else
    let s := (s.getOrCreateSession p deviceId).eraseRecovery deviceId
    match s.find deviceId with
    | none => s
    | some session =>
      if isDisconnecting session then s.result .connect .rejected deviceId
      else if session.lifecycle = .connected then s.result .connect .coalesced deviceId
      else s.request p .connect .manualConnect deviceId session

/-- What `Disconnect` of the session returns. Source: `Disconnect` (`DeviceService.cpp:488`). -/
def acceptsDisconnect (deviceId : WString) (s : DeviceService) : Bool :=
  (s.find deviceId).any (Session.acceptsDisconnect ·.toSessionState)

/-- Source: `Disconnect` (`DeviceService.cpp:477`). -/
def disconnect (p : ServicePlatform) (deviceId : WString) (s : DeviceService) : DeviceService :=
  if deviceId = [] then s.result .disconnect .rejected []
  else if s.isShutdown ∨ s.isSuspended then s.result .disconnect .rejected deviceId
  else
    let s := s.getOrCreateSession p deviceId
    let kind : DeviceCommandResultKind :=
      if s.acceptsDisconnect deviceId then .accepted else .coalesced
    (s.operate p deviceId (.disconnect s.isIncomingEnabled)).result .disconnect kind deviceId

/-- Source: `Reconnect` (`DeviceService.cpp:500`). -/
def reconnect (p : ServicePlatform) (deviceId : WString) (s : DeviceService) : DeviceService :=
  if deviceId = [] then s.result .reconnect .rejected []
  else if s.isShutdown ∨ s.isSuspended then s.result .reconnect .rejected deviceId
  else
    let s := (s.getOrCreateSession p deviceId).eraseRecovery deviceId
    match s.find deviceId with
    | none => s
    | some session =>
      if isDisconnecting session then s.result .reconnect .rejected deviceId
      else s.request p .reconnect .manualReconnect deviceId session

/-- Source: `CancelReconnect` (`DeviceService.cpp:533`). -/
def cancelReconnect (p : ServicePlatform) (deviceId : WString) (s : DeviceService) :
    DeviceService :=
  if deviceId = [] then s.result .reconnect .rejected []
  else if s.isShutdown then s.result .reconnect .rejected deviceId
  else if deviceId ∈ s.ids then
    (s.operate p deviceId .cancelReconnect).result .reconnect .cancelled deviceId
  else s.result .reconnect .coalesced deviceId

/-- Source: `CancelOperation` (`DeviceService.cpp:319`). -/
def cancelSessionOperation (p : ServicePlatform) (deviceId : WString) (operationEpoch : Nat)
    (s : DeviceService) : DeviceService :=
  if s.isShutdown ∨ (s.find deviceId).map (·.operationEpoch) ≠ some operationEpoch then s
  else
    let s := s.operate p deviceId .cancelReconnect
    s.operate p deviceId (.disconnect s.isIncomingEnabled)

/-- The task that `WaitForCompletion` posts when it gives up. Source: `WaitForCompletion`
(`DeviceService.cpp:780`). -/
def cancelOperation (p : ServicePlatform) (operation : Nat) (s : DeviceService) : DeviceService :=
  match s.publication.operations[operation]? with
  | none => s
  | some completion =>
    if completion.status.isSome then s
    else s.cancelSessionOperation p completion.deviceId completion.epoch

/-! ## Commands for all devices -/

/-- Source: `CancelPendingReconnects` (`DeviceService.cpp:556`). -/
def cancelPendingReconnects (p : ServicePlatform) (s : DeviceService) : DeviceService :=
  if s.isShutdown then s.result .reconnectAll .rejected []
  else
    (s.forEachSession fun deviceId s => s.operate p deviceId .cancelReconnect).result .reconnectAll
      .cancelled []

/-- Source: `DisconnectAll` (`DeviceService.cpp:576`). -/
def disconnectAll (p : ServicePlatform) (s : DeviceService) : DeviceService :=
  if s.isShutdown ∨ s.isSuspended then s.result .disconnectAll .rejected []
  else
    (s.forEachSession fun deviceId s =>
      s.operate p deviceId (.disconnect s.isIncomingEnabled)).result .disconnectAll .accepted []

/-- The body of the loop of `ReconnectAll`. Source: `DeviceService.cpp:607`. -/
def reconnectConnected (p : ServicePlatform) (deviceId : WString) (s : DeviceService) :
    DeviceService :=
  if (s.find deviceId).any (·.lifecycle = .connected) then
    s.operate p deviceId (.connect .manualReconnect true)
  else s

/-- Source: `ReconnectAll` (`DeviceService.cpp:596`). -/
def reconnectAll (p : ServicePlatform) (s : DeviceService) : DeviceService :=
  if s.isShutdown ∨ s.isSuspended then s.result .reconnectAll .rejected []
  else (s.forEachSession (reconnectConnected p)).result .reconnectAll .accepted []

/-- Source: `ConnectStartupTargets` (`DeviceService.cpp:650`). -/
def connectStartupTargets (p : ServicePlatform) (deviceIds : List WString) (s : DeviceService) :
    DeviceService :=
  if s.isShutdown ∨ s.isSuspended then s
  else
    deviceIds.foldl
      (fun s deviceId =>
        if deviceId = [] then s
        else (s.getOrCreateSession p deviceId).operate p deviceId (.connect .startup true)) s

/-! ## Settings -/

/-- The policy is processed: the service is not shut down, the policy's stop token was not
requested, and no newer policy was processed. Source: `ApplySettingsPolicy`
(`DeviceService.cpp:623`). -/
def acceptsPolicy (policy : DeviceSettingsPolicy) (stopRequested : Bool) (s : DeviceService) :
    Bool :=
  !s.isShutdown && !stopRequested && s.settingsPolicyRevision.all (· < policy.revision)

/-- Source: `ApplySettingsPolicy` (`DeviceService.cpp:628`). -/
def reconnectChanged (policy : DeviceSettingsPolicy) (s : DeviceService) : Bool :=
  s.isGlobalReconnectEnabled ≠ policy.globalReconnectOnConnectionLoss ||
    s.individuallyReconnectEnabled ≠ policy.reconnectDeviceIds.toFinset

/-- Source: `ApplySettingsPolicy` (`DeviceService.cpp:630`). -/
def incomingChanged (policy : DeviceSettingsPolicy) (s : DeviceService) : Bool :=
  s.isIncomingEnabled ≠ policy.allowIncomingConnections

/-- The assignments of `ApplySettingsPolicy`. Source: `DeviceService.cpp:631`. -/
def adoptPolicy (policy : DeviceSettingsPolicy) (s : DeviceService) : DeviceService :=
  { s with
    settingsPolicyRevision := some policy.revision
    isGlobalReconnectEnabled := policy.globalReconnectOnConnectionLoss
    individuallyReconnectEnabled := policy.reconnectDeviceIds.toFinset
    isIncomingEnabled := policy.allowIncomingConnections }

/-- The body of the loop of `ApplySettingsPolicy`. Source: `DeviceService.cpp:635`. -/
def applyFlags (p : ServicePlatform) (reconnectChanged incomingChanged : Bool)
    (deviceId : WString) (s : DeviceService) : DeviceService :=
  let s :=
    if reconnectChanged then
      s.operate p deviceId (.setReconnectEnabled (s.isReconnectEnabledFor deviceId))
    else s
  if incomingChanged then s.operate p deviceId (.setIncomingEnabled s.isIncomingEnabled) else s

/-- Incoming connections cover the inventory. Source: `ApplySettingsPolicy`
(`DeviceService.cpp:641`). -/
def createInventorySessions (p : ServicePlatform) (s : DeviceService) : DeviceService :=
  s.watcher.snapshot.devices.foldl (fun s device => s.getOrCreateSession p device.id) s

/-- Source: `ApplySettingsPolicy` (`DeviceService.cpp:618`). -/
def applySettingsPolicy (p : ServicePlatform) (policy : DeviceSettingsPolicy)
    (stopRequested : Bool) (s : DeviceService) : DeviceService :=
  if !s.acceptsPolicy policy stopRequested then s
  else
    let reconnectChanged := s.reconnectChanged policy
    let incomingChanged := s.incomingChanged policy
    let s := (s.adoptPolicy policy).forEachSession (applyFlags p reconnectChanged incomingChanged)
    if incomingChanged ∧ s.isIncomingEnabled then s.createInventorySessions p else s

/-! ## Suspension -/

/-- Source: `RequiresPowerTransitionRecovery` (`DeviceService.cpp:327`). -/
def requiresPowerTransitionRecovery (snapshot : DeviceSessionSnapshot) : Bool :=
  snapshot.state = .connected || snapshot.isIncomingEnabled || snapshot.state = .connecting ||
    snapshot.state = .disconnecting || snapshot.state = .waitingForReconnect

/-- What `CapturePowerTransitionRecoveryAndSuspend` returns. Source: `DeviceService.cpp:338`. -/
def recoveryDeviceIds (s : DeviceService) : List WString :=
  if s.isShutdown ∨ s.isSuspended then []
  else
    (s.sessions.filter fun entry =>
      requiresPowerTransitionRecovery (Session.snapshot entry.2.toSessionState)).map Prod.fst

/-- `IsSuspended = true`, and the watcher stops. Source: `DeviceService.cpp:342`. -/
def enterSuspension (s : DeviceService) : DeviceService :=
  { s with isSuspended := true, watcher := s.watcher.stop }

/-- The operation epochs that the recovery will compare. Source: `DeviceService.cpp:349`. -/
def captureRecovery (recoveryDeviceIds : List WString) (s : DeviceService) : DeviceService :=
  { s with
    powerTransitionRecoveryEpochs := recoveryDeviceIds.filterMap fun deviceId =>
      (s.find deviceId).map fun session => (deviceId, session.operationEpoch) }

/-- Source: `CapturePowerTransitionRecoveryAndSuspend` (`DeviceService.cpp:334`). -/
def capturePowerTransitionRecoveryAndSuspend (p : ServicePlatform) (s : DeviceService) :
    DeviceService :=
  if s.isShutdown ∨ s.isSuspended then s
  else
    ((s.enterSuspension.forEachSession fun deviceId s =>
      s.operate p deviceId .suspend).captureRecovery s.recoveryDeviceIds).publish .sessionChanged []

/-- Source: `Suspend` (`DeviceService.cpp:662`). -/
def suspend (p : ServicePlatform) (s : DeviceService) : DeviceService :=
  s.capturePowerTransitionRecoveryAndSuspend p

/-- Source: `SuspendForPowerTransition` (`DeviceService.cpp:702`). -/
def suspendForPowerTransition (p : ServicePlatform) (s : DeviceService) : DeviceService :=
  { s.capturePowerTransitionRecoveryAndSuspend p with
    ledger := { (s.capturePowerTransitionRecoveryAndSuspend p).ledger with
      recoveryTargets := s.recoveryDeviceIds ++ s.ledger.recoveryTargets } }

/-- Source: `Resume` (`DeviceService.cpp:668`). -/
def resume (p : ServicePlatform) (s : DeviceService) : DeviceService :=
  if s.isShutdown ∨ !s.isSuspended then s
  else
    let s := { s with isSuspended := false, powerTransitionRecoveryEpochs := [] }
    let s := if s.isRunning then s.startWatcher p else s
    (s.forEachSession fun deviceId s => s.operate p deviceId .resume).publish .sessionChanged []

/-- Source: `ResumeAfterPowerTransition` (`DeviceService.cpp:711`). -/
def resumeAfterPowerTransition (p : ServicePlatform) (s : DeviceService) : DeviceService :=
  if s.isShutdown then s
  else
    let wasSuspended := s.isSuspended
    let s := { s with isSuspended := false }
    let s :=
      if s.isRunning then
        { s with watcher := if wasSuspended then s.watcher else s.watcher.stop }.startWatcher p
      else s
    let s :=
      if wasSuspended then
        s.forEachSession fun deviceId s => s.operate p deviceId .resumeIdleAfterPowerTransition
      else s
    s.publish .sessionChanged []

/-- The body of the loop of `ResumeSuspendedSessions`. Source: `DeviceService.cpp:738`. -/
def resumeSuspendedSession (p : ServicePlatform) (deviceId : WString) (s : DeviceService) :
    DeviceService :=
  if deviceId = [] then s
  else
    match s.powerTransitionRecoveryEpochs.find? (·.1 = deviceId) with
    | none => s
    | some (_, recoveryEpoch) =>
      let isCurrent : Bool := (s.find deviceId).map (·.operationEpoch) = some recoveryEpoch
      (s.operate p deviceId
        (if isCurrent then .resume else .cancelPowerTransitionRecovery)).eraseRecovery deviceId

/-- Source: `ResumeSuspendedSessions` (`DeviceService.cpp:732`). -/
def resumeSuspendedSessions (p : ServicePlatform) (deviceIds : List WString) (s : DeviceService) :
    DeviceService :=
  if s.isShutdown ∨ s.isSuspended then s
  else
    (deviceIds.dedup.foldl (fun s deviceId => s.resumeSuspendedSession p deviceId) s).publish
      .sessionChanged []

/-! ## Shutdown -/

/-- Source: `StopAndReleaseSessions` (`DeviceService.cpp:310`). -/
def stopAndReleaseSessions (p : ServicePlatform) (s : DeviceService) : DeviceService :=
  { { s with watcher := s.watcher.shutdown }.forEachSession fun deviceId s =>
      s.operate p deviceId .shutdown with sessions := [] }

/-- `Subscriber = {}`. Source: `Shutdown` (`DeviceService.cpp:693`). -/
def releaseSubscriber (s : DeviceService) : DeviceService :=
  { s with publication := { s.publication with subscriber := none } }

/-- Source: `Shutdown` (`DeviceService.cpp:684`). -/
def shutdown (p : ServicePlatform) (s : DeviceService) : DeviceService :=
  if s.isShutdown then s
  else
    (({ s with isShutdown := true, isRunning := false }.stopAndReleaseSessions p).publish .shutdown
      []).releaseSubscriber

end DeviceService

/-! ## The service as an event system -/

/-- The tasks that can reach the executor: those of the public operations, in the order of
`DeviceService.hpp`, and those that `WaitForCompletion`, the watcher's callbacks and the sessions'
callbacks post. -/
inductive ServiceTask
  | subscribe
  | unsubscribe (subscription : Nat)
  | start
  | stop
  | connect (deviceId : WString)
  | disconnect (deviceId : WString)
  | reconnect (deviceId : WString)
  | cancelReconnect (deviceId : WString)
  | cancelPendingReconnects
  | disconnectAll
  | reconnectAll
  | applySettingsPolicy (policy : DeviceSettingsPolicy) (stopRequested : Bool)
  | connectStartupTargets (deviceIds : List WString)
  | suspend
  | resume
  | shutdown
  | suspendForPowerTransition
  | resumeAfterPowerTransition
  | resumeSuspendedSessions (deviceIds : List WString)
  | cancelOperation (operation : Nat)
  | deviceAdded (watcherGeneration : Nat) (device : DeviceIdentity)
  | deviceRemoved (watcherGeneration : Nat) (deviceId : WString)
  | enumerationCompleted (watcherGeneration : Nat)
  | refreshed (watcherGeneration inventoryVersion : Nat) (inventory : List DeviceIdentity)
  | callback (deviceId : WString) (event : Event)
deriving Repr, DecidableEq

namespace DeviceService

variable (p : ServicePlatform)

/-- The service after a task. -/
def run : ServiceTask → DeviceService → DeviceService
  | .subscribe => subscribe
  | .unsubscribe subscription => unsubscribe subscription
  | .start => start p
  | .stop => stop
  | .connect deviceId => connect p deviceId
  | .disconnect deviceId => disconnect p deviceId
  | .reconnect deviceId => reconnect p deviceId
  | .cancelReconnect deviceId => cancelReconnect p deviceId
  | .cancelPendingReconnects => cancelPendingReconnects p
  | .disconnectAll => disconnectAll p
  | .reconnectAll => reconnectAll p
  | .applySettingsPolicy policy stopRequested => applySettingsPolicy p policy stopRequested
  | .connectStartupTargets deviceIds => connectStartupTargets p deviceIds
  | .suspend => suspend p
  | .resume => resume p
  | .shutdown => shutdown p
  | .suspendForPowerTransition => suspendForPowerTransition p
  | .resumeAfterPowerTransition => resumeAfterPowerTransition p
  | .resumeSuspendedSessions deviceIds => resumeSuspendedSessions p deviceIds
  | .cancelOperation operation => cancelOperation p operation
  | .deviceAdded watcherGeneration device =>
    callWatcher p (Watcher.onDeviceAdded watcherGeneration device)
  | .deviceRemoved watcherGeneration deviceId =>
    callWatcher p (Watcher.onDeviceRemoved watcherGeneration deviceId)
  | .enumerationCompleted watcherGeneration =>
    callWatcher p (Watcher.onEnumerationCompleted watcherGeneration)
  | .refreshed watcherGeneration inventoryVersion inventory =>
    callWatcher p (Watcher.onRefreshed watcherGeneration inventoryVersion inventory)
  | .callback deviceId event => act p deviceId event

/-- The task can come: a watcher's callback belongs to a generation that was begun, a session's
callback was given to the platform, and a wait that gives up has a completion of its own. -/
def Enabled (s : DeviceService) : ServiceTask → Prop
  | .deviceAdded watcherGeneration _ | .deviceRemoved watcherGeneration _
  | .enumerationCompleted watcherGeneration => watcherGeneration ≤ s.watcher.watcherGeneration
  | .refreshed watcherGeneration inventoryVersion _ =>
    watcherGeneration ≤ s.watcher.watcherGeneration ∧
      inventoryVersion ≤ s.watcher.inventoryVersion
  | .callback deviceId event =>
    event.continuation.isSome = true ∧
      (s.find deviceId).any (fun session => session.Enabled event) = true
  | .cancelOperation operation =>
    s.publication.operations[operation]?.any (·.ownsCancellation) = true
  | _ => True

instance (s : DeviceService) : DecidablePred (Enabled s)
  | .deviceAdded .. | .deviceRemoved .. | .enumerationCompleted _ =>
    inferInstanceAs (Decidable (_ ≤ _))
  | .refreshed .. | .callback .. => inferInstanceAs (Decidable (_ ∧ _))
  | .cancelOperation _ => inferInstanceAs (Decidable (_ = true))
  | .subscribe | .unsubscribe _ | .start | .stop | .connect _ | .disconnect _ | .reconnect _
  | .cancelReconnect _ | .cancelPendingReconnects | .disconnectAll | .reconnectAll
  | .applySettingsPolicy .. | .connectStartupTargets _ | .suspend | .resume | .shutdown
  | .suspendForPowerTransition | .resumeAfterPowerTransition | .resumeSuspendedSessions _ =>
    isTrue trivial

end DeviceService

/-- The device service over the platforms `p`, one task a step. Source: `DeviceService`
(`DeviceService.hpp:84`). -/
def deviceService (p : ServicePlatform) : EventSystem DeviceService ServiceTask where
  enabled := DeviceService.Enabled
  step s task := s.run p task

instance (p : ServicePlatform) (s : DeviceService) (task : ServiceTask) :
    Decidable ((deviceService p).enabled s task) :=
  inferInstanceAs (Decidable (s.Enabled task))

end PlaybackConnector
