import PlaybackConnector.Core.ReconnectPolicy
import Mathlib

/-!
# The state of a device session

The fields of `DeviceSession::State` (`DeviceSession.cpp:172`), the platform it calls, and the
ledger of what the outside saw of it: the facts it published, the native connections it created
and closed, and the callbacks it handed to the platform.

A `NativeConnection` has an address, which is all the code can compare, and a serial number, which
tells apart two connections that were given one address. The counters are natural numbers: a
64-bit counter that is bumped once a task does not wrap.
-/

namespace PlaybackConnector

/-- A `std::wstring` of the source, in UTF-16 units. -/
abbrev WString := List UInt16

instance : LawfulBEq WString := inferInstance

/-! ## Enumerations and facts -/

/-- Source: `DeviceLifecycleState` (`DeviceSession.hpp:11`). -/
inductive DeviceLifecycleState
  | idle | connecting | connected | disconnecting | waitingForReconnect | failed
deriving Repr, DecidableEq

/-- Source: `DeviceOperationKind` (`DeviceSession.hpp:12`). -/
inductive DeviceOperationKind
  | manualConnect | manualReconnect | automaticReconnect | startup | resume | incomingEnable
deriving Repr, DecidableEq

/-- Source: `DeviceConnectionState` (`DeviceSession.hpp:13`). -/
inductive DeviceConnectionState
  | opened | closed
deriving Repr, DecidableEq

/-- Source: `DeviceConnectionResult` (`DeviceSession.hpp:14`). -/
inductive DeviceConnectionResult
  | success | timedOut | denied | failed | cancelled
deriving Repr, DecidableEq

/-- Source: `DeviceDisconnectReason` (`DeviceSession.hpp:15`). -/
inductive DeviceDisconnectReason
  | none | normal | unexpectedLoss | deviceRemoved
deriving Repr, DecidableEq

/-- Source: `DeviceOpenResult` (`DeviceSession.hpp:17`). -/
structure DeviceOpenResult where
  result : DeviceConnectionResult
  isTransientFailure : Bool
deriving Repr, DecidableEq

/-- Source: `DeviceSessionSnapshot` (`DeviceSession.hpp:22`). -/
structure DeviceSessionSnapshot where
  deviceId : WString
  deviceName : WString
  state : DeviceLifecycleState
  operationEpoch : Nat
  completedRetryAttempts : Nat
  hasConnection : Bool
  isIncomingEnabled : Bool
  isReconnectEnabled : Bool
  isReconnectCancelled : Bool
deriving Repr, DecidableEq

/-- Source: `DeviceSessionFact` (`DeviceSession.hpp:34`). -/
structure DeviceSessionFact where
  snapshot : DeviceSessionSnapshot
  operation : DeviceOperationKind
  result : DeviceConnectionResult
  isTerminalFailure : Bool
  disconnectReason : DeviceDisconnectReason
deriving Repr, DecidableEq

/-- What follows a close. Source: `CloseContinuation` (`DeviceSession.cpp:173`). -/
inductive CloseContinuation
  | idle | replace | retry | transientOpenRetry | suspend
deriving Repr, DecidableEq

/-! ## Connections, callbacks and timers -/

/-- A native connection object: the number of the `Create` call that made it, and the address the
allocator gave it. Source: `DeviceConnection` (`DeviceSession.hpp:42`), of which the callbacks keep
the raw pointer. -/
structure NativeConnection where
  serial : Nat
  address : Nat
deriving Repr, DecidableEq

/-- The callbacks that are registered on a connection: the completion of `Start`, the completion
of `Open` and the state handler. -/
inductive ConnectionCallback
  | started | opened | stateChanged
deriving Repr, DecidableEq

/-- A callback with what it captures. Source: the lambdas given to `RegisterStateChanged`, `Start`,
`Open`, `Close` and `Schedule` (`DeviceSession.cpp:333`, `346`, `376`, `493`, `513`, `542`, `654`,
`710`). -/
inductive Continuation
  | connection (callback : ConnectionCallback) (epoch : Nat) (expectedConnection : NativeConnection)
  | closeBarrier (closeBarrierEpoch : Nat) (timedOut : Bool)
  | closeCooldown (closeBarrierEpoch : Nat)
  | retryTimer (timerEpoch operationEpoch : Nat)
  | transientOpenRetryTimer (timerEpoch operationEpoch : Nat)
deriving Repr, DecidableEq

namespace Continuation

/-- The callback of a reconnect timer. -/
def isReconnect : Continuation → Bool
  | retryTimer _ _ | transientOpenRetryTimer _ _ => true
  | _ => false

/-- The callback of a close-barrier timer. -/
def isClose : Continuation → Bool
  | closeBarrier _ true | closeCooldown _ => true
  | _ => false

end Continuation

/-- An armed timer: its callback, and its delay in milliseconds. Source: `DeviceTimer`
(`DeviceSession.hpp:63`). -/
structure DeviceTimer where
  continuation : Continuation
  delay : Nat
deriving Repr, DecidableEq

/-! ## The platform -/

/-- How a `Create` call ends. -/
inductive CreateAnswer
  | threw | null | connection (address : Nat)
deriving Repr, DecidableEq

/-- How a `Schedule` call ends. -/
inductive ScheduleAnswer
  | threw | null | timer
deriving Repr, DecidableEq

/-- How the platform ends each call it is given; the calls of a session are numbered. Source:
`DeviceConnection`, `DeviceConnectionPlatform` and `DeviceTimerPlatform` (`DeviceSession.hpp`). -/
structure Platform where
  create : Nat → CreateAnswer
  /-- The token that `RegisterStateChanged` returns, `none` when it throws. -/
  registerStateChanged : Nat → Option Nat
  /-- `Start` returns, rather than throws. -/
  start : Nat → Bool
  /-- `Open` returns, rather than throws. -/
  openConnection : Nat → Bool
  schedule : Nat → ScheduleAnswer

/-! ## The session -/

/-- Source: the data members of `DeviceSession::State` (`DeviceSession.cpp:188`). The executor and
the fact sink are the environment: see `Ledger`. -/
structure SessionState where
  deviceId : WString
  deviceName : WString
  connection : Option NativeConnection
  closingConnection : Option NativeConnection
  reconnectTimer : Option DeviceTimer
  closeBarrierTimer : Option DeviceTimer
  stateChangedToken : Nat
  operationEpoch : Nat
  timerEpoch : Nat
  closeBarrierEpoch : Nat
  completedRetryAttempts : Nat
  transientOpenRetryAttempts : Nat
  lifecycle : DeviceLifecycleState
  currentOperation : DeviceOperationKind
  isIncomingEnabled : Bool
  isReconnectEnabled : Bool
  isReconnectCancelled : Bool
  isSuspended : Bool
  isShutdown : Bool
  openImmediately : Bool
  retryEligible : Bool
  restoreIncomingAfterClose : Bool
  resumeRequired : Bool
  resumeOpenImmediately : Bool
  resumeOperation : DeviceOperationKind
  resumeRequested : Bool
  isSuspendClosePending : Bool
  suspendCloseEpoch : Nat
  isCloseInFlight : Bool
  isCloseCooldown : Bool
  isCloseContinuationAbandoned : Bool
  pendingCloseContinuation : CloseContinuation
  pendingCloseFailure : DeviceConnectionResult
  pendingCloseRetryEligible : Bool
  pendingCloseCompletedAttempt : Bool
  pendingCloseDisconnectReason : DeviceDisconnectReason
deriving Repr, DecidableEq

/-- The steps of a native connection's life that the session takes or is told of. -/
inductive BarrierMark
  | create | close | closeCompleted | cooldownEnded
deriving Repr, DecidableEq

/-- What the outside saw of a session, the latest first. No code reads it but `Platform`'s answers,
which are numbered by `platformCalls`. -/
structure Ledger where
  /-- The calls to the platform that can fail. -/
  platformCalls : Nat
  /-- The published facts. -/
  facts : List DeviceSessionFact
  /-- The session's state at each `Create` call. -/
  creates : List SessionState
  /-- The connections created, each with the epoch it was created under. -/
  created : List (Nat × NativeConnection)
  barrier : List BarrierMark
  /-- The callbacks that were given to the platform, by a call that returned or by one that
  threw. -/
  handed : List Continuation
  /-- Those of them that were not delivered yet. -/
  undelivered : List Continuation
  /-- Those that the platform still owes: given by a call that returned, not delivered and not
  cancelled. A state handler is never owed, since a connection may never change its state. -/
  outstanding : List Continuation
  /-- The lifecycle and the epoch after each assignment to one of the two. -/
  history : List (Nat × DeviceLifecycleState)
  /-- The arguments of the calls of `TransientOpenRetryDelay`. -/
  delayReads : List Nat
deriving Repr

/-- A session with its ledger. -/
structure Session extends SessionState where
  ledger : Ledger
deriving Repr

namespace Ledger

/-- Nothing has happened yet. -/
def empty : Ledger := ⟨0, [], [], [], [], [], [], [], [], []⟩

/-- A callback is given to the platform by a call, which returns or throws. -/
@[simp] def hand (c : Continuation) (returned : Bool) (l : Ledger) : Ledger :=
  { l with
    platformCalls := l.platformCalls + 1
    handed := c :: l.handed
    undelivered := c :: l.undelivered
    outstanding := if returned then c :: l.outstanding else l.outstanding }

/-- A callback is delivered. -/
@[simp] def deliver (c : Continuation) (l : Ledger) : Ledger :=
  { l with undelivered := l.undelivered.erase c, outstanding := l.outstanding.erase c }

/-- A timer is cancelled. -/
@[simp] def cancel (timer : Option DeviceTimer) (l : Ledger) : Ledger :=
  { l with
    outstanding := match timer with
      | none => l.outstanding
      | some t => l.outstanding.erase t.continuation }

/-- A mark of the close barrier. -/
@[simp] def mark (m : BarrierMark) (l : Ledger) : Ledger := { l with barrier := m :: l.barrier }

end Ledger

namespace Session

/-- Source: `CloseBarrierTimeout` (`DeviceSession.cpp:175`), in milliseconds. -/
def closeBarrierTimeout : Nat := ReconnectPolicy.blockedRetryDelay * 1000

/-- Source: `CloseBarrierCooldown` (`DeviceSession.cpp:176`), in milliseconds. -/
def closeBarrierCooldown : Nat := 1500

/-- Source: `TransientOpenRetryMaxAttempts` (`DeviceSession.cpp:177`). -/
def transientOpenRetryMaxAttempts : Nat := 10

/-- A new session. Source: the constructor of `DeviceSession::State` (`DeviceSession.cpp:179`) and
its member initializers. -/
def initial (deviceId deviceName : WString) : Session where
  deviceId := deviceId
  deviceName := deviceName
  connection := none
  closingConnection := none
  reconnectTimer := none
  closeBarrierTimer := none
  stateChangedToken := 0
  operationEpoch := 0
  timerEpoch := 0
  closeBarrierEpoch := 0
  completedRetryAttempts := 0
  transientOpenRetryAttempts := 0
  lifecycle := .idle
  currentOperation := .manualConnect
  isIncomingEnabled := false
  isReconnectEnabled := true
  isReconnectCancelled := false
  isSuspended := false
  isShutdown := false
  openImmediately := true
  retryEligible := false
  restoreIncomingAfterClose := false
  resumeRequired := false
  resumeOpenImmediately := true
  resumeOperation := .resume
  resumeRequested := false
  isSuspendClosePending := false
  suspendCloseEpoch := 0
  isCloseInFlight := false
  isCloseCooldown := false
  isCloseContinuationAbandoned := false
  pendingCloseContinuation := .idle
  pendingCloseFailure := .success
  pendingCloseRetryEligible := false
  pendingCloseCompletedAttempt := false
  pendingCloseDisconnectReason := .none
  ledger := .empty

/-- Source: `DeviceSession::State::Snapshot` (`DeviceSession.cpp:229`). -/
def snapshot (s : SessionState) : DeviceSessionSnapshot where
  deviceId := s.deviceId
  deviceName := s.deviceName
  state := s.lifecycle
  operationEpoch := s.operationEpoch
  completedRetryAttempts := s.completedRetryAttempts
  hasConnection := s.connection.isSome
  isIncomingEnabled := s.isIncomingEnabled
  isReconnectEnabled := s.isReconnectEnabled
  isReconnectCancelled := s.isReconnectCancelled

/-- Source: `DeviceSession::State::IsBusy` (`DeviceSession.cpp:243`). -/
def isBusy (s : SessionState) : Bool :=
  s.isCloseInFlight || s.lifecycle = .connecting || s.lifecycle = .disconnecting ||
    s.lifecycle = .waitingForReconnect

/-! ## Assignments that the ledger notes -/

/-- `Lifecycle = l`. -/
def enter (l : DeviceLifecycleState) (s : Session) : Session :=
  { s with
    lifecycle := l
    ledger := { s.ledger with history := (s.operationEpoch, l) :: s.ledger.history } }

/-- `++OperationEpoch`. -/
def nextEpoch (s : Session) : Session :=
  { s with
    operationEpoch := s.operationEpoch + 1
    ledger := { s.ledger with
      history := (s.operationEpoch + 1, s.lifecycle) :: s.ledger.history } }

/-- A mark of the close barrier. -/
def mark (m : BarrierMark) (s : Session) : Session := { s with ledger := s.ledger.mark m }

/-- A callback that was given to the platform is delivered. -/
def deliver (c : Continuation) (s : Session) : Session := { s with ledger := s.ledger.deliver c }

/-- The fact that `Publish` sends. Source: `DeviceSession::State::Publish`
(`DeviceSession.cpp:251`). -/
def factOf (s : SessionState) (result : DeviceConnectionResult) (terminal : Bool)
    (disconnectReason : DeviceDisconnectReason) : DeviceSessionFact where
  snapshot := snapshot s
  operation := s.currentOperation
  result := result
  isTerminalFailure := terminal
  disconnectReason := disconnectReason

/-- Source: `DeviceSession::State::Publish` (`DeviceSession.cpp:251`). -/
def publish (result : DeviceConnectionResult) (terminal : Bool)
    (disconnectReason : DeviceDisconnectReason) (s : Session) : Session :=
  { s with ledger := { s.ledger with
      facts := factOf s.toSessionState result terminal disconnectReason :: s.ledger.facts } }

/-- Source: `DeviceSession::State::CancelTimer` (`DeviceSession.cpp:269`). -/
def cancelTimer (s : Session) : Session :=
  { s with
    timerEpoch := s.timerEpoch + 1
    reconnectTimer := none
    ledger := s.ledger.cancel s.reconnectTimer }

/-- Source: `DeviceSession::State::CancelCloseBarrierTimer` (`DeviceSession.cpp:275`). -/
def cancelCloseBarrierTimer (s : Session) : Session :=
  { s with closeBarrierTimer := none, ledger := s.ledger.cancel s.closeBarrierTimer }

/-- Source: `DeviceSession::State::RevokeStateChanged` (`DeviceSession.cpp:280`). -/
def revokeStateChanged (s : Session) : Session :=
  { s with
    stateChangedToken :=
      if s.connection.isSome ∧ s.stateChangedToken ≠ 0 then 0 else s.stateChangedToken }

/-- Source: `DeviceSession::State::IsCurrent` (`DeviceSession.cpp:772`). -/
def isCurrent (s : SessionState) (epoch : Nat) : Bool :=
  !s.isShutdown && epoch = s.operationEpoch

/-- Source: `DeviceSession::State::IsCurrentConnection` (`DeviceSession.cpp:774`). The pointers are
compared, that is the addresses. -/
def isCurrentConnection (s : SessionState) (epoch : Nat) (expectedConnection : NativeConnection) :
    Bool :=
  isCurrent s epoch && s.connection.map (·.address) = some expectedConnection.address

@[simp] theorem isCurrent_iff {s : SessionState} {epoch : Nat} :
    isCurrent s epoch = true ↔ s.isShutdown = false ∧ epoch = s.operationEpoch := by
  simp [isCurrent]

@[simp] theorem isCurrentConnection_iff {s : SessionState} {epoch : Nat} {c : NativeConnection} :
    isCurrentConnection s epoch c = true ↔ s.isShutdown = false ∧ epoch = s.operationEpoch ∧
      ∃ c', s.connection = some c' ∧ c'.address = c.address := by
  simp [isCurrentConnection, and_assoc]

end Session

end PlaybackConnector
