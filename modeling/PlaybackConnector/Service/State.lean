import PlaybackConnector.Service.Watcher
import PlaybackConnector.Session.Operations
import Mathlib

/-!
# The state of the device service

The fields of `DeviceService::State` (`DeviceService.cpp:38`), what it publishes, and the tasks of
one session as the service sees them: a session publishes its facts while its task runs, and each
of them makes the service rebuild its snapshot and tell its subscriber.

A task of a session changes nothing of the service but the session and the publication, so the
task is run first (`act`), and its facts are published after it, each with the snapshot that the
session had when it published the fact. The sessions of the map are listed in the order in which
the map's iterators visit them. The subscriber and the log are the environment: neither throws.
-/

namespace PlaybackConnector

/-! ## Commands, facts and snapshots -/

/-- Source: `DeviceCommandKind` (`DeviceService.hpp:22`). -/
inductive DeviceCommandKind
  | connect | disconnect | reconnect | disconnectAll | reconnectAll | start | stop | suspend | resume
  | shutdown
deriving Repr, DecidableEq

/-- Source: `DeviceCommandResultKind` (`DeviceService.hpp:34`). -/
inductive DeviceCommandResultKind
  | accepted | coalesced | rejected | cancelled
deriving Repr, DecidableEq

/-- Source: `DeviceOperationStatus` (`DeviceService.hpp:35`). -/
inductive DeviceOperationStatus
  | succeeded | failed | cancelled | timedOut | rejected
deriving Repr, DecidableEq

/-- Source: `DeviceFactKind` (`DeviceService.hpp:36`). -/
inductive DeviceFactKind
  | inventoryChanged | sessionChanged | operationFailed | shutdown
deriving Repr, DecidableEq

/-- Source: `DeviceOperationCompletion` (`DeviceService.cpp:19`). -/
structure DeviceOperationCompletion where
  deviceId : WString
  epoch : Nat
  ownsCancellation : Bool
  status : Option DeviceOperationStatus
deriving Repr, DecidableEq

/-- Source: `DeviceCommandResult` (`DeviceService.hpp:40`). A completion is known by its place in
`Publication.operations`. -/
structure DeviceCommandResult where
  command : DeviceCommandKind
  kind : DeviceCommandResultKind
  deviceId : WString
  operationEpoch : Nat
  completion : Option Nat
deriving Repr, DecidableEq

/-- Source: `DeviceServiceSnapshot` (`DeviceService.hpp:48`). -/
structure DeviceServiceSnapshot where
  generation : Nat
  isRunning : Bool
  isSuspended : Bool
  isShutdown : Bool
  inventory : DeviceInventorySnapshot
  sessions : List DeviceSessionSnapshot
deriving Repr, DecidableEq

/-- Source: `DeviceFact` (`DeviceService.hpp:57`). -/
structure DeviceFact where
  kind : DeviceFactKind
  snapshot : DeviceServiceSnapshot
  deviceId : WString
  connectionResult : DeviceConnectionResult
  operation : DeviceOperationKind
  isTerminalFailure : Bool
  disconnectReason : DeviceDisconnectReason
deriving Repr, DecidableEq

/-- Source: `DeviceSettingsPolicy` (`DeviceService.hpp:74`); whether its stop token was requested is
asked when the policy is processed. -/
structure DeviceSettingsPolicy where
  revision : Nat
  allowIncomingConnections : Bool
  globalReconnectOnConnectionLoss : Bool
  reconnectDeviceIds : List WString
deriving Repr, DecidableEq

/-! ## Publication -/

/-- What the service has published. Source: `PublishedSnapshot`, `Generation`, `Subscriber`,
`ActiveSubscription`, `NextSubscription` and `PendingOperations` (`DeviceService.cpp:72`). -/
structure Publication where
  publishedSnapshot : DeviceServiceSnapshot
  generation : Nat
  /-- The subscription whose sink is the subscriber. -/
  subscriber : Option Nat
  nextSubscription : Nat
  /-- The completions of the accepted commands; those without a status are pending. -/
  operations : List DeviceOperationCompletion
  /-- The facts that were delivered, each with the subscription it was delivered to, the latest
  first. -/
  facts : List (Nat × DeviceFact)
deriving Repr, DecidableEq

namespace Publication

/-- The status that an operation has come to. Source: `ResolveOperation`
(`DeviceService.cpp:184`). -/
def operationStatus (view : DeviceServiceSnapshot) (completion : DeviceOperationCompletion) :
    Option DeviceOperationStatus :=
  if view.isShutdown then some .cancelled
  else
    match view.sessions.find? (·.deviceId = completion.deviceId) with
    | none => some .cancelled
    | some snapshot =>
      if snapshot.operationEpoch ≠ completion.epoch ∨ snapshot.state = .idle then some .cancelled
      else if snapshot.state = .connected then some .succeeded
      else if snapshot.state = .failed then some .failed
      else none

/-- The first status of an operation is its last. Source: `DeviceOperationCompletion::Resolve`
(`DeviceService.cpp:28`). -/
def resolveOperation (view : DeviceServiceSnapshot) (completion : DeviceOperationCompletion) :
    DeviceOperationCompletion :=
  { completion with
    status := match completion.status with
      | some status => some status
      | none => operationStatus view completion }

/-- Source: `UpdatePublishedSnapshot` (`DeviceService.cpp:161`). -/
def updatePublishedSnapshot (view : DeviceServiceSnapshot) (pub : Publication) : Publication :=
  { pub with
    publishedSnapshot := { view with generation := pub.generation }
    operations := pub.operations.map (resolveOperation view) }

/-- Source: `Publish` (`DeviceService.cpp:206`). -/
def publish (view : DeviceServiceSnapshot) (kind : DeviceFactKind) (deviceId : WString)
    (result : DeviceConnectionResult) (terminal : Bool) (operation : DeviceOperationKind)
    (disconnectReason : DeviceDisconnectReason) (pub : Publication) : Publication :=
  let pub := { pub with generation := pub.generation + 1 }.updatePublishedSnapshot view
  match pub.subscriber with
  | none => pub
  | some subscription =>
    let fact : DeviceFact := {
      kind := kind
      snapshot := pub.publishedSnapshot
      deviceId := deviceId
      connectionResult := result
      operation := operation
      isTerminalFailure := terminal
      disconnectReason := disconnectReason }
    { pub with facts := (subscription, fact) :: pub.facts }

/-- The kind of the fact that a session's fact becomes. Source: `OnSessionFact`
(`DeviceService.cpp:255`). -/
def sessionFactKind (fact : DeviceSessionFact) : DeviceFactKind :=
  let isFailure : Bool :=
    fact.result = .timedOut ∨ fact.result = .denied ∨ fact.result = .failed
  let isExceptionalDisconnect : Bool :=
    fact.disconnectReason = .unexpectedLoss ∨ fact.disconnectReason = .deviceRemoved
  if isExceptionalDisconnect ∨ !isFailure then .sessionChanged else .operationFailed

/-- Source: `OnSessionFact` (`DeviceService.cpp:253`). The service's view is the one at the time of
the fact. -/
def onSessionFact (view : DeviceSessionSnapshot → DeviceServiceSnapshot) (fact : DeviceSessionFact)
    (pub : Publication) : Publication :=
  if (view fact.snapshot).isShutdown then pub
  else
    pub.publish (view fact.snapshot) (sessionFactKind fact) fact.snapshot.deviceId fact.result
      fact.isTerminalFailure fact.operation fact.disconnectReason

end Publication

/-! ## The service -/

/-- How the platforms end the calls they are given: those of each session, and the registrations
of the watcher, which are numbered. -/
structure ServicePlatform where
  session : WString → Platform
  /-- The registration is created and started. -/
  registers : Nat → Bool

/-- What the outside saw of the service beside its publication. No code reads it but `registers`'
number. -/
structure ServiceLedger where
  /-- The registrations that were asked for. -/
  registrations : Nat
  /-- The devices for which a connection was created, one entry for each `Create` call, the latest
  first. -/
  creates : List WString
  /-- What the commands returned, the latest first. -/
  results : List DeviceCommandResult
  /-- The device ids that `SuspendForPowerTransition` returned. -/
  recoveryTargets : List WString
deriving Repr, DecidableEq

/-- Source: the data members of `DeviceService::State` (`DeviceService.cpp:66`). -/
structure DeviceService where
  sessions : List (WString × Session)
  watcher : Watcher
  individuallyReconnectEnabled : Finset WString
  powerTransitionRecoveryEpochs : List (WString × Nat)
  isRunning : Bool
  isSuspended : Bool
  isShutdown : Bool
  isIncomingEnabled : Bool
  isGlobalReconnectEnabled : Bool
  settingsPolicyRevision : Option Nat
  publication : Publication
  ledger : ServiceLedger

namespace DeviceService

/-- A new service, with the snapshot that `Initialize` publishes. Source: the member initializers
of `DeviceService::State` and `Initialize` (`DeviceService.cpp:93`). -/
def initial : DeviceService where
  sessions := []
  watcher := .initial
  individuallyReconnectEnabled := ∅
  powerTransitionRecoveryEpochs := []
  isRunning := false
  isSuspended := false
  isShutdown := false
  isIncomingEnabled := false
  isGlobalReconnectEnabled := true
  settingsPolicyRevision := none
  publication := ⟨⟨0, false, false, false, Watcher.initial.snapshot, []⟩, 0, none, 1, [], []⟩
  ledger := ⟨0, [], [], []⟩

/-- The ids of the sessions. -/
def ids (s : DeviceService) : List WString := s.sessions.map Prod.fst

/-- `Sessions.find(deviceId)`. -/
def find (deviceId : WString) (s : DeviceService) : Option Session :=
  (s.sessions.find? (·.1 = deviceId)).map Prod.snd

/-- The sessions' own snapshots. -/
def snapshots (s : DeviceService) : List DeviceSessionSnapshot :=
  s.sessions.map fun entry => Session.snapshot entry.2.toSessionState

/-- The sessions' own snapshots while a session is in a task, in which it has the given one. -/
def snapshotsWith (deviceId : WString) (snapshot : DeviceSessionSnapshot) (s : DeviceService) :
    List DeviceSessionSnapshot :=
  s.sessions.map fun entry =>
    if entry.1 = deviceId then snapshot else Session.snapshot entry.2.toSessionState

/-- The snapshot that `UpdatePublishedSnapshot` builds from the sessions' snapshots. Source:
`UpdatePublishedSnapshot` (`DeviceService.cpp:161`). -/
def view (live : List DeviceSessionSnapshot) (s : DeviceService) : DeviceServiceSnapshot where
  generation := s.publication.generation
  isRunning := s.isRunning
  isSuspended := s.isSuspended
  isShutdown := s.isShutdown
  inventory := s.watcher.snapshot
  sessions := live.insertionSort (·.deviceId ≤ ·.deviceId)

/-- `Publish` with its default arguments. Source: `Publish` (`DeviceService.cpp:206`). -/
def publish (kind : DeviceFactKind) (deviceId : WString) (s : DeviceService) : DeviceService :=
  { s with
    publication := s.publication.publish (s.view s.snapshots) kind deviceId .success false
      .manualConnect .none }

/-! ## The tasks of the sessions -/

/-- The facts that a session's task published, the latest first. -/
def newFacts (before after : Session) : List DeviceSessionFact :=
  after.ledger.facts.take (after.ledger.facts.length - before.ledger.facts.length)

/-- The `Create` calls of a session's task. -/
def newCreates (before after : Session) : Nat :=
  after.ledger.creates.length - before.ledger.creates.length

/-- A task of the session runs, if there is the session: an operation that the service calls, or a
callback. Its facts reach the service in the order in which they are published. -/
def act (p : ServicePlatform) (deviceId : WString) (e : Event) (s : DeviceService) :
    DeviceService :=
  match s.find deviceId with
  | none => s
  | some before =>
    let after := (deviceSession (p.session deviceId)).step before e
    let view := fun snapshot => s.view (s.snapshotsWith deviceId snapshot)
    { s with
      sessions := s.sessions.map fun entry =>
        if entry.1 = deviceId then (deviceId, after) else entry
      publication := (newFacts before after).foldr (Publication.onSessionFact view) s.publication
      ledger := { s.ledger with
        creates := List.replicate (newCreates before after) deviceId ++ s.ledger.creates } }

/-- An operation of the session, if there is the session. -/
def operate (p : ServicePlatform) (deviceId : WString) (operation : Operation)
    (s : DeviceService) : DeviceService :=
  s.act p deviceId (.operation operation)

/-- `for (auto const& [id, session] : Sessions)`, with a body that adds no session. -/
def forEachSession (body : WString → DeviceService → DeviceService) (s : DeviceService) :
    DeviceService :=
  s.ids.foldl (fun s deviceId => body deviceId s) s

/-! ## Sessions, and the watcher's facts -/

/-- Source: `DeviceName` (`DeviceService.cpp:224`). -/
def deviceName (deviceId : WString) (s : DeviceService) : WString :=
  match s.watcher.snapshot.devices.find? (·.id = deviceId) with
  | none => []
  | some device => device.name

/-- The session's reconnect flag, as the settings in force have it. Source: `GetOrCreateSession`
(`DeviceService.cpp:248`) and `ApplySettingsPolicy` (`DeviceService.cpp:637`). -/
def isReconnectEnabledFor (deviceId : WString) (s : DeviceService) : Bool :=
  s.isGlobalReconnectEnabled || deviceId ∈ s.individuallyReconnectEnabled

/-- `Sessions.emplace(deviceId, …)`. Source: `GetOrCreateSession` (`DeviceService.cpp:236`). -/
def emplace (deviceId : WString) (s : DeviceService) : DeviceService :=
  { s with
    sessions := s.sessions ++ [(deviceId, Session.initial deviceId (s.deviceName deviceId))] }

/-- The flags of a new session. Source: `GetOrCreateSession` (`DeviceService.cpp:248`). -/
def configure (p : ServicePlatform) (deviceId : WString) (s : DeviceService) : DeviceService :=
  let s := s.operate p deviceId (.setReconnectEnabled (s.isReconnectEnabledFor deviceId))
  if s.isIncomingEnabled then s.operate p deviceId (.setIncomingEnabled true) else s

/-- The call adds a session. -/
def creates (deviceId : WString) (s : DeviceService) : Bool :=
  deviceId ≠ [] && !s.isShutdown && deviceId ∉ s.ids

/-- The service after the call; the session it returns is found under its id. Source:
`GetOrCreateSession` (`DeviceService.cpp:231`). -/
def getOrCreateSession (p : ServicePlatform) (deviceId : WString) (s : DeviceService) :
    DeviceService :=
  if s.creates deviceId then (s.emplace deviceId).configure p deviceId else s

/-- Source: `OnWatcherFact` (`DeviceService.cpp:269`). -/
def onWatcherFact (p : ServicePlatform) (fact : DeviceWatcherFact) (s : DeviceService) :
    DeviceService :=
  if s.isShutdown then s
  else
    let s :=
      match fact.kind with
      | .deviceAdded =>
        let s := s.getOrCreateSession p fact.deviceId
        let s := s.operate p fact.deviceId (.rename fact.deviceName)
        if s.isIncomingEnabled then s.operate p fact.deviceId (.setIncomingEnabled true) else s
      | .deviceRemoved => s.operate p fact.deviceId .handleDeviceRemoved
      | .enumerationCompleted | .inventoryChanged => s
    s.publish .inventoryChanged fact.deviceId

/-- A call of the watcher, and the facts that it publishes. -/
def callWatcher (p : ServicePlatform) (call : Watcher → Watcher × List DeviceWatcherFact)
    (s : DeviceService) : DeviceService :=
  (call s.watcher).2.foldl (fun s fact => s.onWatcherFact p fact)
    { s with watcher := (call s.watcher).1 }

/-- `IsRunning = Watcher->Start()`. -/
def startWatcher (p : ServicePlatform) (s : DeviceService) : DeviceService :=
  let registers := p.registers s.ledger.registrations
  let isRunning := s.watcher.starts registers
  let registrations := s.ledger.registrations + if s.watcher.canStart then 1 else 0
  let s := { s with ledger := { s.ledger with registrations := registrations } }
  { s.callWatcher p (Watcher.start registers) with isRunning := isRunning }

/-! ## Results -/

/-- The completion of an accepted or coalesced command, resolved at once where it can be. Source:
`Result` (`DeviceService.cpp:297`). -/
def newCompletion (kind : DeviceCommandResultKind) (deviceId : WString) (operationEpoch : Nat)
    (s : DeviceService) : DeviceOperationCompletion :=
  Publication.resolveOperation (s.view s.snapshots)
    ⟨deviceId, operationEpoch, kind = .accepted, none⟩

/-- The command returns. Source: `Result` (`DeviceService.cpp:285`). -/
def result (command : DeviceCommandKind) (kind : DeviceCommandResultKind) (deviceId : WString)
    (s : DeviceService) : DeviceService :=
  let operationEpoch := (s.find deviceId).elim 0 (·.operationEpoch)
  let completes : Bool := (command = .connect ∨ command = .reconnect) ∧
    (kind = .accepted ∨ kind = .coalesced)
  let completion := if completes then some s.publication.operations.length else none
  let operations :=
    if completes then s.publication.operations ++ [s.newCompletion kind deviceId operationEpoch]
    else s.publication.operations
  { s with
    publication := { s.publication with operations := operations }
    ledger := { s.ledger with
      results := ⟨command, kind, deviceId, operationEpoch, completion⟩ :: s.ledger.results } }

end DeviceService

end PlaybackConnector
