import PlaybackConnector.Session.Control
import PlaybackConnector.Transition.System

/-!
# The operations and the callbacks of a device session

The public operations of `DeviceSession` and the callbacks it gives to the platform. Each of them
is one task of the serialized executor, so a session is an `EventSystem`: an operation can come at
any time, and a callback at any time after it was given to the platform, more than once.
-/

namespace PlaybackConnector

namespace Session

/-! ## Callbacks -/

/-- Source: `OnStarted` (`DeviceSession.cpp:362`). The connection whose `Open` is called is the
session's own. -/
def onStarted (p : Platform) (r : Reentry) (epoch : Nat) (expectedConnection : NativeConnection)
    (result : DeviceConnectionResult) (s : Session) : Session :=
  if !isCurrentConnection s.toSessionState epoch expectedConnection then s
  else if s.lifecycle = .connected then s
  else if result ≠ .success then s.completeFailure p r epoch result false
  else if !s.openImmediately then (s.enter .idle).publish .success false .none
  else
    let connection := s.connection.getD expectedConnection
    if p.openConnection s.ledger.platformCalls then s.openConnection p epoch connection
    else (s.openConnection p epoch connection).completeFailure p r epoch .failed false

/-- The connection is established. Source: `DeviceSession.cpp:400` and `411`. -/
def establish (s : Session) : Session :=
  let s := s.enter .connected
  let s := { s with completedRetryAttempts := 0, retryEligible := s.isReconnectEnabled }
  s.publish .success false .none

/-- Source: `OnOpened` (`DeviceSession.cpp:392`). -/
def onOpened (p : Platform) (r : Reentry) (epoch : Nat) (expectedConnection : NativeConnection)
    (openResult : DeviceOpenResult) (s : Session) : Session :=
  if !isCurrentConnection s.toSessionState epoch expectedConnection then s
  else if s.lifecycle = .connected then s
  else if openResult.result ≠ .success then
    s.completeFailure p r epoch openResult.result openResult.isTransientFailure
  else s.establish

/-- A listener that may not reconnect lost its peer. Source: `DeviceSession.cpp:422`. -/
def settleListener (s : Session) : Session :=
  let s := { s.enter .idle with retryEligible := false }
  s.publish .success false .unexpectedLoss

/-- The connection is gone, and its epoch with it. Source: `DeviceSession.cpp:430`. -/
def dropConnection (s : Session) : Session :=
  { s.revokeStateChanged with connection := none }.nextEpoch

/-- Source: `OnStateChanged` (`DeviceSession.cpp:406`). -/
def onStateChanged (p : Platform) (r : Reentry) (epoch : Nat)
    (expectedConnection : NativeConnection) (state : DeviceConnectionState) (s : Session) :
    Session :=
  if !isCurrentConnection s.toSessionState epoch expectedConnection ∨ s.isShutdown then s
  else
    let isIncomingListener := !s.openImmediately && s.isIncomingEnabled
    if state = .opened then s.cancelTimer.establish
    else if s.lifecycle = .disconnecting then s
    else if isIncomingListener ∧ s.lifecycle = .waitingForReconnect then s
    else
      let wasEstablished : Bool := s.lifecycle = .connected
      if wasEstablished ∧ isIncomingListener then
        if !s.isReconnectEnabled then s.settleListener
        else s.scheduleReconnect p r .failed true false .unexpectedLoss
      else
        let s := s.dropConnection
        if !s.openImmediately ∧ s.isIncomingEnabled ∧ !wasEstablished then
          ((s.enter .idle).publish .success false .none).startConnection p r .incomingEnable false
        else
          s.scheduleReconnect p r .failed s.retryEligible
            (s.currentOperation = .automaticReconnect)
            (if wasEstablished then .unexpectedLoss else .none)

/-- The task that `PostFailure` posts. Source: `DeviceSession.cpp:818`. -/
def onFailurePosted (p : Platform) (r : Reentry) (epoch : Nat)
    (expectedConnection : NativeConnection) (s : Session) : Session :=
  if isCurrentConnection s.toSessionState epoch expectedConnection then
    s.completeFailure p r epoch .failed false
  else s

/-- The guard of the two reconnect timers. Source: `DeviceSession.cpp:676` and `730`. -/
def isStaleTimer (s : SessionState) (timerEpoch operationEpoch : Nat) : Bool :=
  s.isShutdown || s.isSuspended || timerEpoch ≠ s.timerEpoch ||
    operationEpoch ≠ s.operationEpoch || s.lifecycle ≠ .waitingForReconnect

/-- Source: `OnRetryTimer` (`DeviceSession.cpp:675`). -/
def onRetryTimer (p : Platform) (r : Reentry) (timerEpoch operationEpoch : Nat) (s : Session) :
    Session :=
  if isStaleTimer s.toSessionState timerEpoch operationEpoch then s
  else
    { s with reconnectTimer := none }.startConnection p r .automaticReconnect s.openImmediately

/-- Source: `OnTransientOpenRetryTimer` (`DeviceSession.cpp:729`). -/
def onTransientOpenRetryTimer (p : Platform) (r : Reentry) (timerEpoch operationEpoch : Nat)
    (s : Session) : Session :=
  if isStaleTimer s.toSessionState timerEpoch operationEpoch then s
  else { s with reconnectTimer := none }.beginCreate p r operationEpoch

/-! ## Public operations -/

/-- Source: `Rename` (`DeviceSession.cpp:898`). -/
def rename (deviceName : WString) (s : Session) : Session :=
  if s.isShutdown then s
  else { s with deviceName := deviceName }.publish .success false .none

/-- The close that follows the device's removal. Source: `DeviceSession.cpp:923` and `937`. -/
def closeRemoved (p : Platform) (r : Reentry) (shouldRetry : Bool) (s : Session) : Session :=
  s.beginClose p r s.operationEpoch .retry .failed shouldRetry false .deviceRemoved

/-- The assignments of `HandleDeviceRemoved`. Source: `DeviceSession.cpp:907`. -/
def prepareRemoval (s : Session) : Session :=
  let s := s.cancelTimer
  { s with restoreIncomingAfterClose := false }

/-- The end of `HandleDeviceRemoved`. Source: `DeviceSession.cpp:909`. -/
def removeDevice (p : Platform) (r : Reentry) (s : Session) : Session :=
  let shouldRetry := s.retryEligible
  if s.connection.isNone ∧ !s.isCloseInFlight ∧ s.lifecycle = .idle ∧ !shouldRetry then
    s.publish .success false .none
  else
    let isIdleIncomingListener : Bool :=
      s.connection.isSome ∧ s.lifecycle = .idle ∧ s.isIncomingEnabled ∧ !shouldRetry
    let s := s.nextEpoch
    if isIdleIncomingListener then
      ((s.enter .disconnecting).revokeStateChanged.publish .success false .none).beginClose p r
        s.operationEpoch .idle .success false false .none
    else if s.isCloseInFlight then
      ((s.enter .disconnecting).publish .failed false .deviceRemoved).closeRemoved p r shouldRetry
    else if s.connection.isNone then
      s.scheduleReconnect p r .failed shouldRetry false .deviceRemoved
    else
      ((s.enter .disconnecting).revokeStateChanged.publish .failed false
        .deviceRemoved).closeRemoved p r shouldRetry

/-- Source: `HandleDeviceRemoved` (`DeviceSession.cpp:904`). -/
def handleDeviceRemoved (p : Platform) (r : Reentry) (s : Session) : Session :=
  if s.isShutdown then s else s.prepareRemoval.removeDevice p r

/-- The assignments of `SupersedePowerTransitionRecovery` that release the suspension. Source:
`DeviceSession.cpp:840`. -/
def releaseHold (s : Session) : Session :=
  { s with
    isSuspended := false
    resumeRequired := false
    resumeRequested := false
    isSuspendClosePending := false }

/-- The close in flight is to be followed by the new operation. Source: `DeviceSession.cpp:851`. -/
def enterSuperseding (operation : DeviceOperationKind) (openImmediately : Bool) (s : Session) :
    Session :=
  let s := { s with
    isReconnectCancelled := false
    completedRetryAttempts := 0
    transientOpenRetryAttempts := 0 }
  let s := { s.cancelTimer with
    currentOperation := operation
    retryEligible := false
    openImmediately := openImmediately }
  let s := s.nextEpoch.enter .disconnecting
  { s with restoreIncomingAfterClose := s.isIncomingEnabled && !s.openImmediately }.publish
    .success false .none

/-- Source: `SupersedePowerTransitionRecovery` (`DeviceSession.cpp:839`). -/
def supersedePowerTransitionRecovery (p : Platform) (r : Reentry)
    (operation : DeviceOperationKind) (openImmediately : Bool) (s : Session) : Session :=
  let s := s.releaseHold
  if !s.isCloseInFlight then s.startConnection p r operation openImmediately
  else if s.isCloseContinuationAbandoned then s
  else
    let s := s.enterSuperseding operation openImmediately
    s.beginClose p r s.operationEpoch .replace .success false false .none

/-- Source: `Connect` (`DeviceSession.cpp:953`). -/
def connect (p : Platform) (r : Reentry) (operation : DeviceOperationKind)
    (openImmediately : Bool) (s : Session) : Session :=
  if s.isShutdown then s
  else if s.isSuspended ∧ (operation = .manualConnect ∨ operation = .manualReconnect) then
    s.supersedePowerTransitionRecovery p r operation openImmediately
  else s.startConnection p r operation openImmediately

/-- The assignments of `Disconnect`. Source: `DeviceSession.cpp:972`. -/
def prepareDisconnect (restoreIncoming : Bool) (s : Session) : Session :=
  let s := { s.cancelTimer with isReconnectCancelled := true, retryEligible := false }
  { s.nextEpoch with restoreIncomingAfterClose := restoreIncoming }

/-- Source: `Disconnect` (`DeviceSession.cpp:964`); what it returns is `acceptsDisconnect`. -/
def disconnect (p : Platform) (r : Reentry) (restoreIncoming : Bool) (s : Session) : Session :=
  if s.isShutdown then s
  else if s.isCloseInFlight ∧ s.isCloseContinuationAbandoned then s
  else
    let s := s.prepareDisconnect restoreIncoming
    if s.connection.isNone ∧ !s.isCloseInFlight then
      let s := (s.enter .idle).publish .success false .normal
      if s.restoreIncomingAfterClose ∧ s.isIncomingEnabled ∧ !s.isSuspended then
        { s with restoreIncomingAfterClose := false }.startConnection p r .incomingEnable false
      else s
    else
      ((s.enter .disconnecting).revokeStateChanged.publish .success false .normal).beginClose p r
        s.operationEpoch .idle .success false false .none

/-- What `Disconnect` returns in the state `s`. Source: `DeviceSession.cpp:964`. -/
def acceptsDisconnect (s : SessionState) : Bool :=
  !s.isShutdown && !(s.isCloseInFlight && s.isCloseContinuationAbandoned)

/-- There is an automatic reconnect to cancel. Source: `DeviceSession.cpp:749`. -/
def cancelsActiveReconnect (s : SessionState) : Bool :=
  s.lifecycle = .waitingForReconnect ||
    (s.lifecycle = .connecting && s.currentOperation = .automaticReconnect) ||
    (s.lifecycle = .disconnecting && s.currentOperation = .automaticReconnect)

/-- The assignments of `CancelAutomaticReconnect`. Source: `DeviceSession.cpp:747`. -/
def prepareCancel (s : Session) : Session :=
  let s := s.cancelTimer
  { s with retryEligible := false }

/-- The end of `CancelAutomaticReconnect`. Source: `DeviceSession.cpp:754`. -/
def cancelActive (p : Platform) (r : Reentry) (restoreIncoming : Bool) (s : Session) : Session :=
  if !cancelsActiveReconnect s.toSessionState then s.publish .cancelled false .none
  else
    let s := s.nextEpoch
    if s.connection.isSome ∨ s.isCloseInFlight then
      let s := s.enter .disconnecting
      let s := { s with restoreIncomingAfterClose := restoreIncoming && s.isIncomingEnabled }
      s.revokeStateChanged.beginClose p r s.operationEpoch .idle .cancelled false false .none
    else
      let s := (s.enter .idle).publish .cancelled false .none
      if restoreIncoming ∧ s.isIncomingEnabled then s.startConnection p r .incomingEnable false
      else s

/-- Source: `CancelAutomaticReconnect` (`DeviceSession.cpp:746`). -/
def cancelAutomaticReconnect (p : Platform) (r : Reentry) (restoreIncoming : Bool) (s : Session) :
    Session :=
  s.prepareCancel.cancelActive p r restoreIncoming

/-- Source: `CancelReconnect` (`DeviceSession.cpp:994`). -/
def cancelReconnect (p : Platform) (r : Reentry) (s : Session) : Session :=
  if s.isShutdown then s
  else { s with isReconnectCancelled := true }.cancelAutomaticReconnect p r s.isIncomingEnabled

/-- Source: `SetReconnectEnabled` (`DeviceSession.cpp:1001`). -/
def setReconnectEnabled (p : Platform) (r : Reentry) (enabled : Bool) (s : Session) : Session :=
  if s.isShutdown then s
  else
    let s := { s with isReconnectEnabled := enabled }
    if !enabled ∧ cancelsActiveReconnect s.toSessionState then
      s.cancelAutomaticReconnect p r s.isIncomingEnabled
    else s.publish .success false .none

/-- Source: `SetIncomingEnabled` (`DeviceSession.cpp:1015`). -/
def setIncomingEnabled (p : Platform) (r : Reentry) (enabled : Bool) (s : Session) : Session :=
  if s.isShutdown then s
  else
    let s := { s with isIncomingEnabled := enabled }
    let hasIncomingLifecycle : Bool := !s.openImmediately ∧
      (s.connection.isSome ∨ s.isCloseInFlight ∨ s.lifecycle = .waitingForReconnect)
    if !enabled ∧ hasIncomingLifecycle then s.disconnect p r false
    else if enabled ∧ s.connection.isNone ∧ !s.isSuspended then
      s.startConnection p r .incomingEnable false
    else s.publish .success false .none

/-- The capture of `Suspend`. Source: `DeviceSession.cpp:1036`. -/
def captureForResume (s : Session) : Session :=
  let s := { s with
    resumeRequired := s.connection.isSome || s.isCloseInFlight || isBusy s.toSessionState
    resumeOpenImmediately := s.openImmediately
    resumeOperation := if s.openImmediately then .resume else .incomingEnable
    isSuspended := true }
  s.cancelTimer.nextEpoch

/-- The assignments of `BeginSuspendClose`. Source: `DeviceSession.cpp:793`. -/
def enterSuspendClose (epoch : Nat) (s : Session) : Session :=
  let s := { s with isSuspendClosePending := true, suspendCloseEpoch := epoch }
  (s.enter .disconnecting).revokeStateChanged

/-- Source: `BeginSuspendClose` (`DeviceSession.cpp:792`). -/
def beginSuspendClose (p : Platform) (r : Reentry) (epoch : Nat) (s : Session) : Session :=
  (s.enterSuspendClose epoch).beginClose p r epoch .suspend .cancelled false false .none

/-- Source: `Suspend` (`DeviceSession.cpp:1033`). -/
def suspend (p : Platform) (r : Reentry) (s : Session) : Session :=
  if s.isShutdown ∨ s.isSuspended then s
  else
    let s := s.captureForResume
    if s.connection.isSome ∨ s.isCloseInFlight then s.beginSuspendClose p r s.operationEpoch
    else (s.enter .idle).publish .cancelled false .none

/-- `IsSuspended = false`. Source: `DeviceSession.cpp:1059`. -/
def unsuspend (s : Session) : Session := { s with isSuspended := false }

/-- Source: `Resume` (`DeviceSession.cpp:1052`). -/
def resume (p : Platform) (r : Reentry) (s : Session) : Session :=
  if s.isShutdown ∨ !s.isSuspended then s
  else if s.isSuspendClosePending then { s with resumeRequested := true }
  else s.unsuspend.startAfterResume p r

/-- Source: `ResumeIdleAfterPowerTransition` (`DeviceSession.cpp:1063`). -/
def resumeIdleAfterPowerTransition (s : Session) : Session :=
  if s.isShutdown ∨ !s.isSuspended ∨ s.isSuspendClosePending ∨ s.resumeRequired ∨
      s.resumeRequested ∨ s.isIncomingEnabled then s
  else s.unsuspend.publish .success false .none

/-- Source: `CancelPowerTransitionRecovery` (`DeviceSession.cpp:1074`). -/
def cancelPowerTransitionRecovery (s : Session) : Session :=
  if s.isShutdown ∨ !s.isSuspended then s
  else s.releaseHold.publish .success false .none

/-- Source: `CloseForShutdown` (`DeviceSession.cpp:779`); the close it calls has no completion. -/
def closeForShutdown (s : Session) : Session :=
  let s := s.cancelCloseBarrierTimer.revokeStateChanged
  { s with
    connection := none
    closingConnection := none
    isCloseInFlight := false
    isCloseCooldown := false
    isCloseContinuationAbandoned := false
    closeBarrierEpoch := s.closeBarrierEpoch + 1
    stateChangedToken := 0
    ledger := if s.connection.isSome then s.ledger.mark .close else s.ledger }

/-- Source: `Shutdown` (`DeviceSession.cpp:1087`). -/
def shutdown (s : Session) : Session :=
  if s.isShutdown then s
  else ({ s with isShutdown := true }.nextEpoch.cancelTimer.closeForShutdown).enter .idle

attribute [simp] establish settleListener dropConnection prepareRemoval releaseHold
  enterSuperseding prepareCancel prepareDisconnect captureForResume enterSuspendClose unsuspend
  closeForShutdown

end Session

/-! ## The session as an event system -/

/-- The public operations. Source: `DeviceSession` (`DeviceSession.hpp:78`). -/
inductive Operation
  | connect (operation : DeviceOperationKind) (openImmediately : Bool)
  | disconnect (restoreIncoming : Bool)
  | cancelReconnect
  | setReconnectEnabled (enabled : Bool)
  | setIncomingEnabled (enabled : Bool)
  | handleDeviceRemoved
  | suspend
  | resume
  | resumeIdleAfterPowerTransition
  | cancelPowerTransitionRecovery
  | rename (deviceName : WString)
  | shutdown
deriving Repr, DecidableEq

/-- What can happen to a session: an operation, or a callback that the platform runs. A connection
callback whose task could not be posted posts a failure instead. -/
inductive Event
  | operation (operation : Operation)
  | started (epoch : Nat) (connection : NativeConnection) (result : DeviceConnectionResult)
  | opened (epoch : Nat) (connection : NativeConnection) (openResult : DeviceOpenResult)
  | stateChanged (epoch : Nat) (connection : NativeConnection) (state : DeviceConnectionState)
  | failurePosted (callback : ConnectionCallback) (epoch : Nat) (connection : NativeConnection)
  | closeBarrier (closeBarrierEpoch : Nat) (timedOut : Bool)
  | closeCooldown (closeBarrierEpoch : Nat)
  | retryTimer (timerEpoch operationEpoch : Nat)
  | transientOpenRetryTimer (timerEpoch operationEpoch : Nat)
deriving Repr, DecidableEq

namespace Event

/-- The callback that an event delivers. -/
def continuation : Event → Option Continuation
  | operation _ => none
  | started epoch connection _ => some (.connection .started epoch connection)
  | opened epoch connection _ => some (.connection .opened epoch connection)
  | stateChanged epoch connection _ => some (.connection .stateChanged epoch connection)
  | failurePosted callback epoch connection => some (.connection callback epoch connection)
  | closeBarrier closeBarrierEpoch timedOut => some (.closeBarrier closeBarrierEpoch timedOut)
  | closeCooldown closeBarrierEpoch => some (.closeCooldown closeBarrierEpoch)
  | retryTimer timerEpoch operationEpoch => some (.retryTimer timerEpoch operationEpoch)
  | transientOpenRetryTimer timerEpoch operationEpoch =>
    some (.transientOpenRetryTimer timerEpoch operationEpoch)

end Event

namespace Session

variable (p : Platform)

/-- A public operation, run as a task. -/
def operate : Operation → Session → Session
  | .connect operation openImmediately => connect p (reentry p) operation openImmediately
  | .disconnect restoreIncoming => disconnect p (reentry p) restoreIncoming
  | .cancelReconnect => cancelReconnect p (reentry p)
  | .setReconnectEnabled enabled => setReconnectEnabled p (reentry p) enabled
  | .setIncomingEnabled enabled => setIncomingEnabled p (reentry p) enabled
  | .handleDeviceRemoved => handleDeviceRemoved p (reentry p)
  | .suspend => suspend p (reentry p)
  | .resume => resume p (reentry p)
  | .resumeIdleAfterPowerTransition => resumeIdleAfterPowerTransition
  | .cancelPowerTransitionRecovery => cancelPowerTransitionRecovery
  | .rename deviceName => rename deviceName
  | .shutdown => shutdown

/-- The task of an event. -/
def handle : Event → Session → Session
  | .operation operation => operate p operation
  | .started epoch connection result => onStarted p (reentry p) epoch connection result
  | .opened epoch connection openResult => onOpened p (reentry p) epoch connection openResult
  | .stateChanged epoch connection state => onStateChanged p (reentry p) epoch connection state
  | .failurePosted _ epoch connection => onFailurePosted p (reentry p) epoch connection
  | .closeBarrier closeBarrierEpoch timedOut =>
    completeCloseBarrier p (reentry p) closeBarrierEpoch timedOut
  | .closeCooldown closeBarrierEpoch => completeCloseCooldown p (reentry p) closeBarrierEpoch true
  | .retryTimer timerEpoch operationEpoch => onRetryTimer p (reentry p) timerEpoch operationEpoch
  | .transientOpenRetryTimer timerEpoch operationEpoch =>
    onTransientOpenRetryTimer p (reentry p) timerEpoch operationEpoch

/-- The ledger of a session that is delivered an event. -/
def delivered (e : Event) (s : Session) : Session :=
  match e.continuation with
  | none => s
  | some c => s.deliver c

end Session

/-- The event can occur: a callback was given to the platform before it runs. -/
def Session.Enabled (s : Session) (e : Event) : Prop :=
  ∀ c ∈ e.continuation, c ∈ s.ledger.handed

instance (s : Session) (e : Event) : Decidable (s.Enabled e) :=
  inferInstanceAs (Decidable (∀ c ∈ e.continuation, c ∈ s.ledger.handed))

/-- A device session over the platform `p`. Source: `DeviceSession` (`DeviceSession.hpp:78`). -/
def deviceSession (p : Platform) : EventSystem Session Event where
  enabled := Session.Enabled
  step s e := (s.delivered e).handle p e

instance (p : Platform) (s : Session) (e : Event) : Decidable ((deviceSession p).enabled s e) :=
  inferInstanceAs (Decidable (s.Enabled e))

/-- A platform whose calls all succeed, and whose allocator gives every connection the same
address. -/
def obligingPlatform : Platform where
  create _ := .connection 7
  registerStateChanged _ := some 1
  start _ := true
  openConnection _ := true
  schedule _ := .timer

end PlaybackConnector
