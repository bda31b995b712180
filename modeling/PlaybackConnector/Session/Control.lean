import PlaybackConnector.Session.State

/-!
# The control flow of a device session

The member functions of `DeviceSession::State` that the operations and the callbacks share: the
creation and the failure of a connection, the close barrier, the two retry loops, and suspension.

The source's functions call each other in a cycle: a failed start gives up, giving up starts the
incoming listener again, and `BeginClose` without a connection continues at once. The two calls
that close the cycle are the fields of a `Reentry`, and `reentry` is the value of it that solves
the source's equations (`reentry_startIncoming`, `reentry_continueAfterClose`).
-/

namespace PlaybackConnector

/-- The two calls that close the cycle of the session's functions. -/
structure Reentry where
  /-- `StartConnection(IncomingEnable, false)`, from `RestoreIncomingListenerAfterTerminal`. -/
  startIncoming : Session → Session
  /-- `ContinueAfterClose`, from `BeginClose`. -/
  continueAfterClose : Nat → Bool → Session → Session

namespace Session

/-! ## Terminal failures and timers -/

/-- Source: `RestoreIncomingListenerAfterTerminal` (`DeviceSession.cpp:738`). -/
def restoreIncomingListenerAfterTerminal (r : Reentry) (s : Session) : Session :=
  if !s.restoreIncomingAfterClose ∧ (!s.isIncomingEnabled ∨ !s.openImmediately) then s
  else
    let s := { s with restoreIncomingAfterClose := false }
    if !s.isShutdown ∧ !s.isSuspended ∧ s.isIncomingEnabled ∧ s.openImmediately then
      r.startIncoming s
    else s

/-- `Lifecycle = Failed`, published as terminal. Source: `DeviceSession.cpp:631`, `643`, `667`,
`695`, `722`. -/
def enterFailed (result : DeviceConnectionResult) (disconnectReason : DeviceDisconnectReason)
    (s : Session) : Session :=
  (s.enter .failed).publish result true disconnectReason

/-- A terminal failure, after which an incoming listener may take over. Source: as
`enterFailed`. -/
def failTerminally (r : Reentry) (result : DeviceConnectionResult)
    (disconnectReason : DeviceDisconnectReason) (s : Session) : Session :=
  (s.enterFailed result disconnectReason).restoreIncomingListenerAfterTerminal r

/-- The timer that a `Schedule` call returns, none when it throws or returns null. -/
def scheduled (p : Platform) (timer : DeviceTimer) (s : Session) : Option DeviceTimer :=
  if p.schedule s.ledger.platformCalls = .timer then some timer else none

/-- `ReconnectTimer = TimerPlatform.Schedule(…)`. -/
def scheduleReconnectTimer (p : Platform) (timer : DeviceTimer) (s : Session) : Session :=
  { s with
    reconnectTimer := s.scheduled p timer
    ledger := s.ledger.hand timer.continuation (s.scheduled p timer).isSome }

/-- `CloseBarrierTimer = TimerPlatform.Schedule(…)`. -/
def scheduleCloseBarrierTimer (p : Platform) (timer : DeviceTimer) (s : Session) : Session :=
  { s with
    closeBarrierTimer := s.scheduled p timer
    ledger := s.ledger.hand timer.continuation (s.scheduled p timer).isSome }

/-- `Lifecycle = WaitingForReconnect` and the timer that will end it, whose callback captures the
new timer epoch. Source: `DeviceSession.cpp:648` and `700`. -/
def waitForReconnect (p : Platform) (continuation : Nat → Continuation) (delay : Nat)
    (s : Session) : Session :=
  let s := s.enter .waitingForReconnect
  let s := { s with timerEpoch := s.timerEpoch + 1 }
  s.scheduleReconnectTimer p ⟨continuation s.timerEpoch, delay⟩

/-- `if (completedAttempt) ++CompletedRetryAttempts`. Source: `DeviceSession.cpp:636`. -/
def countAttempt (completedAttempt : Bool) (s : Session) : Session :=
  { s with
    completedRetryAttempts := s.completedRetryAttempts + if completedAttempt then 1 else 0 }

/-- Source: `ScheduleReconnect` (`DeviceSession.cpp:626`). -/
def scheduleReconnect (p : Platform) (r : Reentry) (result : DeviceConnectionResult)
    (shouldRetry completedAttempt : Bool) (disconnectReason : DeviceDisconnectReason)
    (s : Session) : Session :=
  if s.isShutdown ∨ s.isSuspended ∨ !shouldRetry ∨ !s.isReconnectEnabled ∨ s.isReconnectCancelled
  then s.failTerminally r result disconnectReason
  else
    let s := s.countAttempt completedAttempt
    let decision := ReconnectPolicy.evaluate ⟨.connectionLoss, s.completedRetryAttempts, false⟩
    if decision.kind = .terminalFailure then s.failTerminally r result disconnectReason
    else
      let s := s.waitForReconnect p (.retryTimer · s.operationEpoch) (decision.delay * 1000)
      if s.reconnectTimer.isNone then s.failTerminally r .failed disconnectReason
      else s.publish result false disconnectReason

/-- Source: the array of `TransientOpenRetryDelay` (`DeviceSession.cpp:685`), in milliseconds. -/
def transientOpenRetryDelays : List Nat := [500, 1000, 1500, 2500, 4000, 6000, 8000, 8000, 8000]

/-- Source: `TransientOpenRetryDelay` (`DeviceSession.cpp:684`). The array is read at
`failedAttempt - 1`; the value of a read out of its range is not used by any run
(`delayReads_inRange`). -/
def transientOpenRetryDelay (failedAttempt : Nat) : Nat :=
  transientOpenRetryDelays.getD (failedAttempt - 1) 0

/-- The delay of a transient retry, less the cooldown that was already waited out. Source:
`DeviceSession.cpp:701`. -/
def transientRetryTimerDelay (attempts : Nat) (completedScheduledCooldown : Bool) : Nat :=
  let delay := transientOpenRetryDelay attempts
  if completedScheduledCooldown ∧ closeBarrierCooldown < delay then delay - closeBarrierCooldown
  else if completedScheduledCooldown then 0
  else delay

/-- `++TransientOpenRetryAttempts`. Source: `DeviceSession.cpp:694`. -/
def countTransientAttempt (s : Session) : Session :=
  { s with transientOpenRetryAttempts := s.transientOpenRetryAttempts + 1 }

/-- A call of `TransientOpenRetryDelay`, for the ledger. -/
def readDelay (s : Session) : Session :=
  { s with ledger := { s.ledger with
      delayReads := s.transientOpenRetryAttempts :: s.ledger.delayReads } }

/-- Source: `ScheduleTransientOpenRetry` (`DeviceSession.cpp:690`). -/
def scheduleTransientOpenRetry (p : Platform) (r : Reentry) (epoch : Nat)
    (result : DeviceConnectionResult) (completedScheduledCooldown : Bool) (s : Session) : Session :=
  if !isCurrent s.toSessionState epoch ∨ s.isShutdown ∨ s.isSuspended ∨ s.isReconnectCancelled
  then s
  else
    let s := s.countTransientAttempt
    if s.transientOpenRetryAttempts ≥ transientOpenRetryMaxAttempts then
      s.failTerminally r result .none
    else
      let delay := transientRetryTimerDelay s.transientOpenRetryAttempts completedScheduledCooldown
      let s := s.readDelay.waitForReconnect p (.transientOpenRetryTimer · epoch) delay
      if s.reconnectTimer.isNone then s.failTerminally r .failed .none
      else s.publish result false .none

/-! ## The close barrier -/

/-- The continuation of the close that is in flight or about to begin, and its arguments. Source:
`DeviceSession.cpp:475`. -/
def assignPendingClose (continuation : CloseContinuation) (failure : DeviceConnectionResult)
    (shouldRetry completedAttempt : Bool) (disconnectReason : DeviceDisconnectReason)
    (s : Session) : Session :=
  { s with
    pendingCloseContinuation := continuation
    pendingCloseFailure := failure
    pendingCloseRetryEligible := shouldRetry
    pendingCloseCompletedAttempt := completedAttempt
    pendingCloseDisconnectReason := disconnectReason
    isCloseContinuationAbandoned := false }

/-- The resets that `AbandonCloseContinuation` and `ContinueAfterClose` begin with. Source:
`DeviceSession.cpp:567` and `582`. -/
def clearPendingClose (s : Session) : Session :=
  { s with
    pendingCloseContinuation := .idle
    pendingCloseFailure := .success
    pendingCloseRetryEligible := false
    pendingCloseCompletedAttempt := false
    pendingCloseDisconnectReason := .none }

/-- Source: `AbandonCloseContinuation` (`DeviceSession.cpp:566`). -/
def abandonCloseContinuation (s : Session) : Session :=
  { s.clearPendingClose with isCloseContinuationAbandoned := true }

/-- The connection becomes the closing one. Source: `DeviceSession.cpp:487`. -/
def detachConnection (s : Session) : Session :=
  { s with
    closingConnection := s.connection
    connection := none
    isCloseInFlight := true
    closeBarrierEpoch := s.closeBarrierEpoch + 1
    ledger := s.ledger.mark .close }

/-- A close that will never be confirmed in time fails its operation, but keeps the barrier.
Source: `DeviceSession.cpp:505` and `528`. -/
def failClose (result : DeviceConnectionResult) (s : Session) : Session :=
  (s.enterFailed result s.pendingCloseDisconnectReason).abandonCloseContinuation

/-- `ClosingConnection->Close(…)`, which does not throw. Source: `DeviceSession.cpp:513`. -/
def callClose (s : Session) : Session :=
  { s with ledger := s.ledger.hand (.closeBarrier s.closeBarrierEpoch false) true }

/-- The body of `BeginClose` once there is a connection to close. Source:
`DeviceSession.cpp:487`. -/
def closeConnection (p : Platform) (s : Session) : Session :=
  let s := s.revokeStateChanged.detachConnection
  let s := s.scheduleCloseBarrierTimer p
    ⟨.closeBarrier s.closeBarrierEpoch true, closeBarrierTimeout⟩
  let s := if s.closeBarrierTimer.isNone then s.failClose .failed else s
  s.callClose

/-- Source: `BeginClose` (`DeviceSession.cpp:466`). -/
def beginClose (p : Platform) (r : Reentry) (epoch : Nat) (continuation : CloseContinuation)
    (failure : DeviceConnectionResult) (shouldRetry completedAttempt : Bool)
    (disconnectReason : DeviceDisconnectReason) (s : Session) : Session :=
  if s.isCloseInFlight ∧ s.isCloseContinuationAbandoned then s
  else
    let s := s.assignPendingClose continuation failure shouldRetry completedAttempt disconnectReason
    if s.isCloseInFlight then s
    else if s.connection.isNone then r.continueAfterClose epoch false s
    else s.closeConnection p

/-! ## Creation -/

/-- Source: `CompleteFailure` (`DeviceSession.cpp:445`). -/
def completeFailure (p : Platform) (r : Reentry) (epoch : Nat) (result : DeviceConnectionResult)
    (isTransientOpenFailure : Bool) (s : Session) : Session :=
  if !isCurrent s.toSessionState epoch then s
  else
    let shouldRetryTransientOpen := isTransientOpenFailure && s.openImmediately
    let s := s.revokeStateChanged
    if s.connection.isNone then
      if shouldRetryTransientOpen then s.scheduleTransientOpenRetry p r epoch result false
      else s.scheduleReconnect p r result s.retryEligible
        (s.currentOperation = .automaticReconnect) .none
    else
      let s := (s.enter .disconnecting).publish result false .none
      s.beginClose p r epoch (if shouldRetryTransientOpen then .transientOpenRetry else .retry)
        result s.retryEligible (s.currentOperation = .automaticReconnect) .none

/-- The connection that a `Create` call returns, none when it throws or returns null. -/
def createdConnection (p : Platform) (s : Session) : Option NativeConnection :=
  match p.create s.ledger.platformCalls with
  | .connection address => some ⟨s.ledger.creates.length, address⟩
  | .threw | .null => none

/-- `Connection = ConnectionPlatform.Create(DeviceId)`. -/
def create (p : Platform) (epoch : Nat) (s : Session) : Session :=
  { s with
    connection := s.createdConnection p
    ledger := { s.ledger with
      platformCalls := s.ledger.platformCalls + 1
      creates := s.toSessionState :: s.ledger.creates
      created := (s.createdConnection p).toList.map (epoch, ·) ++ s.ledger.created
      barrier := .create :: s.ledger.barrier } }

/-- `StateChangedToken = Connection->RegisterStateChanged(…)`; a call that throws assigns
nothing. -/
def registerStateChanged (p : Platform) (epoch : Nat) (expectedConnection : NativeConnection)
    (s : Session) : Session :=
  { s with
    stateChangedToken := (p.registerStateChanged s.ledger.platformCalls).getD s.stateChangedToken
    ledger := s.ledger.hand (.connection .stateChanged epoch expectedConnection) false }

/-- `RegisterStateChanged` returns a token other than zero. -/
def registers (p : Platform) (s : Session) : Bool :=
  match p.registerStateChanged s.ledger.platformCalls with
  | some token => token ≠ 0
  | none => false

/-- `Connection->Start(…)`. -/
def start (p : Platform) (epoch : Nat) (expectedConnection : NativeConnection) (s : Session) :
    Session :=
  { s with
    ledger := s.ledger.hand (.connection .started epoch expectedConnection)
      (p.start s.ledger.platformCalls) }

/-- `Connection->Open(…)`. -/
def openConnection (p : Platform) (epoch : Nat) (expectedConnection : NativeConnection)
    (s : Session) : Session :=
  { s with
    ledger := s.ledger.hand (.connection .opened epoch expectedConnection)
      (p.openConnection s.ledger.platformCalls) }

/-- The end of `BeginCreate`, on the connection that was created. Source: `DeviceSession.cpp:329`. -/
def startCreated (p : Platform) (r : Reentry) (epoch : Nat) (expectedConnection : NativeConnection)
    (s : Session) : Session :=
  if s.registers p then
    let s := s.registerStateChanged p epoch expectedConnection
    if p.start s.ledger.platformCalls then s.start p epoch expectedConnection
    else (s.start p epoch expectedConnection).completeFailure p r epoch .failed false
  else (s.registerStateChanged p epoch expectedConnection).completeFailure p r epoch .failed false

/-- `Connecting`, published, and the `Create` call. Source: `DeviceSession.cpp:317`. -/
def createConnection (p : Platform) (epoch : Nat) (s : Session) : Session :=
  ((s.enter .connecting).publish .success false .none).create p epoch

/-- What follows the `Create` call. Source: `DeviceSession.cpp:324`. -/
def finishCreate (p : Platform) (r : Reentry) (epoch : Nat) (s : Session) : Session :=
  match s.connection with
  | none => s.completeFailure p r epoch .failed false
  | some expectedConnection => s.startCreated p r epoch expectedConnection

/-- Source: `BeginCreate` (`DeviceSession.cpp:315`). -/
def beginCreate (p : Platform) (r : Reentry) (epoch : Nat) (s : Session) : Session :=
  if !isCurrent s.toSessionState epoch ∨ s.isShutdown ∨ s.isSuspended then s
  else (s.createConnection p epoch).finishCreate p r epoch

/-- The operations whose failure is retried. Source: `DeviceSession.cpp:299`. -/
def isRetryEligible : DeviceOperationKind → Bool
  | .automaticReconnect | .startup | .resume => true
  | .manualConnect | .manualReconnect | .incomingEnable => false

/-- The assignments of `StartConnection`. Source: `DeviceSession.cpp:291`. -/
def prepareStart (operation : DeviceOperationKind) (openImmediately : Bool) (s : Session) :
    Session :=
  let resets : Bool := operation ≠ .automaticReconnect ∧ operation ≠ .incomingEnable
  let s := { s with
    isReconnectCancelled := if resets then false else s.isReconnectCancelled
    completedRetryAttempts := if resets then 0 else s.completedRetryAttempts
    transientOpenRetryAttempts := 0 }
  let s := s.cancelTimer
  let s := { s with
    currentOperation := operation
    retryEligible := isRetryEligible operation
    openImmediately := openImmediately }
  s.nextEpoch

/-- The open connection is to be replaced. Source: `DeviceSession.cpp:306`. -/
def enterReplacing (s : Session) : Session :=
  let s := s.enter .disconnecting
  let s := { s with restoreIncomingAfterClose := s.isIncomingEnabled && !s.openImmediately }
  s.revokeStateChanged.publish .success false .normal

/-- The end of `StartConnection`, under the new epoch. Source: `DeviceSession.cpp:305`. -/
def launch (p : Platform) (r : Reentry) (s : Session) : Session :=
  if s.connection.isSome then
    s.enterReplacing.beginClose p r s.operationEpoch .replace .success false false .none
  else s.beginCreate p r s.operationEpoch

/-- Source: `StartConnection` (`DeviceSession.cpp:284`). -/
def startConnection (p : Platform) (r : Reentry) (operation : DeviceOperationKind)
    (openImmediately : Bool) (s : Session) : Session :=
  if s.isShutdown ∨ s.isSuspended ∨ s.deviceId = [] then s
  else if s.isCloseInFlight ∨ s.lifecycle = .connecting ∨ s.lifecycle = .disconnecting then s
  else (s.prepareStart operation openImmediately).launch p r

/-! ## The end of a close -/

/-- `ResumeRequired = false`. Source: `DeviceSession.cpp:830`. -/
def takeRequired (s : Session) : Session := { s with resumeRequired := false }

/-- Source: `StartAfterResume` (`DeviceSession.cpp:828`). -/
def startAfterResume (p : Platform) (r : Reentry) (s : Session) : Session :=
  if s.resumeRequired then
    let s := s.takeRequired
    s.startConnection p r s.resumeOperation s.resumeOpenImmediately
  else if s.isIncomingEnabled then s.startConnection p r .incomingEnable false
  else s.publish .success false .none

/-- The suspension's close has ended. Source: `DeviceSession.cpp:805`. -/
def settleSuspended (s : Session) : Session :=
  let s := { s with connection := none, stateChangedToken := 0, isSuspendClosePending := false }
  (s.enter .idle).publish .cancelled false .none

/-- The resume that waited for the close. Source: `DeviceSession.cpp:811`. -/
def endSuspension (s : Session) : Session :=
  { s with resumeRequested := false, isSuspended := false }

/-- Source: `CompleteSuspendClose` (`DeviceSession.cpp:800`). -/
def completeSuspendClose (p : Platform) (r : Reentry) (epoch : Nat) (s : Session) : Session :=
  if s.isShutdown ∨ !s.isSuspended ∨ !s.isSuspendClosePending ∨ s.suspendCloseEpoch ≠ epoch ∨
      s.operationEpoch ≠ epoch then s
  else
    let s := s.settleSuspended
    if !s.resumeRequested then s
    else s.endSuspension.startAfterResume p r

/-- An abandoned close has ended: a suspension that waited for it is over, and a resume that
waited for that is done. Source: `DeviceSession.cpp:587`. -/
def endAbandonedClose (s : Session) : Session :=
  let waited := s.isSuspendClosePending
  let s := { s with
    isCloseContinuationAbandoned := false
    isSuspendClosePending := false
    resumeRequired := if waited then false else s.resumeRequired
    resumeRequested := if waited then false else s.resumeRequested
    isSuspended := if waited && s.resumeRequested then false else s.isSuspended }
  (s.enter .idle).publish .success false .none

/-- Source: the tail of `ContinueAfterClose` (`DeviceSession.cpp:618`), for the continuation
`Idle`. -/
def continueIdle (p : Platform) (r : Reentry) (failure : DeviceConnectionResult)
    (disconnectReason : DeviceDisconnectReason) (s : Session) : Session :=
  let s := (s.enter .idle).publish failure false disconnectReason
  if s.restoreIncomingAfterClose ∧ s.isIncomingEnabled ∧ !s.isSuspended then
    { s with restoreIncomingAfterClose := false }.startConnection p r .incomingEnable false
  else s

/-- Source: `ContinueAfterClose` (`DeviceSession.cpp:575`). -/
def continueAfterClose (p : Platform) (r : Reentry) (epoch : Nat)
    (completedScheduledCooldown : Bool) (s : Session) : Session :=
  if !isCurrent s.toSessionState epoch ∨ s.isShutdown then s
  else
    let continuation := s.pendingCloseContinuation
    let failure := s.pendingCloseFailure
    let shouldRetry := s.pendingCloseRetryEligible
    let completedAttempt := s.pendingCloseCompletedAttempt
    let disconnectReason := s.pendingCloseDisconnectReason
    let s := s.clearPendingClose
    if s.isCloseContinuationAbandoned then
      s.endAbandonedClose.restoreIncomingListenerAfterTerminal r
    else
      match continuation with
      | .replace => s.beginCreate p r epoch
      | .retry => s.scheduleReconnect p r failure shouldRetry completedAttempt disconnectReason
      | .transientOpenRetry =>
        s.scheduleTransientOpenRetry p r epoch failure completedScheduledCooldown
      | .suspend => s.completeSuspendClose p r epoch
      | .idle => s.continueIdle p r failure disconnectReason

/-- The barrier is lifted. Source: `DeviceSession.cpp:560`. -/
def endCooldown (s : Session) : Session :=
  let s := s.cancelCloseBarrierTimer
  { s with
    isCloseCooldown := false
    isCloseInFlight := false
    ledger := s.ledger.mark .cooldownEnded }

/-- Source: `CompleteCloseCooldown` (`DeviceSession.cpp:558`). -/
def completeCloseCooldown (p : Platform) (r : Reentry) (closeBarrierEpoch : Nat)
    (completedScheduledCooldown : Bool) (s : Session) : Session :=
  if s.isShutdown ∨ !s.isCloseInFlight ∨ !s.isCloseCooldown ∨
      closeBarrierEpoch ≠ s.closeBarrierEpoch then s
  else s.endCooldown.continueAfterClose p r s.operationEpoch completedScheduledCooldown

/-- The close is confirmed, and its cooldown begins. Source: `DeviceSession.cpp:537`. -/
def beginCooldown (p : Platform) (closeBarrierEpoch : Nat) (s : Session) : Session :=
  let s := { s with
    closingConnection := none
    stateChangedToken := 0
    isCloseCooldown := true
    ledger := s.ledger.mark .closeCompleted }
  s.scheduleCloseBarrierTimer p ⟨.closeCooldown closeBarrierEpoch, closeBarrierCooldown⟩

/-- Source: `CompleteCloseBarrier` (`DeviceSession.cpp:525`). -/
def completeCloseBarrier (p : Platform) (r : Reentry) (closeBarrierEpoch : Nat) (timedOut : Bool)
    (s : Session) : Session :=
  if s.isShutdown ∨ !s.isCloseInFlight ∨ s.isCloseCooldown ∨
      closeBarrierEpoch ≠ s.closeBarrierEpoch then s
  else
    let s := s.cancelCloseBarrierTimer
    if timedOut then s.failClose .timedOut
    else
      let s := s.beginCooldown p closeBarrierEpoch
      if s.closeBarrierTimer.isNone then s.completeCloseCooldown p r closeBarrierEpoch false
      else s

/-! The straight-line parts are evaluated by `simp`, field by field; the functions with branches
are not. -/

attribute [simp] enter nextEpoch mark deliver publish cancelTimer cancelCloseBarrierTimer
  revokeStateChanged enterFailed scheduleReconnectTimer scheduleCloseBarrierTimer waitForReconnect
  countAttempt countTransientAttempt readDelay assignPendingClose clearPendingClose
  abandonCloseContinuation detachConnection failClose callClose create createConnection
  registerStateChanged start openConnection prepareStart enterReplacing takeRequired
  settleSuspended endSuspension
  endAbandonedClose endCooldown beginCooldown

end Session

/-! ## The cycle -/

/-- The cycle of the session's functions, unrolled as far as it can go: the incoming listener is
not opened by the session, so the start that restores it does not restore it again. -/
def reentry (p : Platform) : Reentry :=
  let bottom : Reentry := ⟨id, fun _ _ => id⟩
  let startIncoming := Session.startConnection p bottom .incomingEnable false
  ⟨startIncoming, Session.continueAfterClose p ⟨startIncoming, fun _ _ => id⟩⟩

namespace Session

section
variable {p : Platform} {r r' : Reentry} {s : Session}

/-- `BeginClose` does not continue at once when there is something to close. -/
theorem beginClose_congr (h : s.connection.isSome ∨ s.isCloseInFlight) {epoch continuation failure
    shouldRetry completedAttempt disconnectReason} :
    s.beginClose p r epoch continuation failure shouldRetry completedAttempt disconnectReason =
      s.beginClose p r' epoch continuation failure shouldRetry completedAttempt
        disconnectReason := by
  unfold beginClose
  rcases h with h | h
  · have hsome : s.connection.isNone = false := by
      cases hc : s.connection <;> simp_all
    simp [assignPendingClose, hsome]
  · simp [assignPendingClose, h]

/-- Only a session that opens its connections itself restores the incoming listener. -/
def Agree (r r' : Reentry) (s : Session) : Prop :=
  s.openImmediately = false ∨ r.startIncoming = r'.startIncoming

theorem failTerminally_congr (h : Agree r r' s) (result disconnectReason) :
    s.failTerminally r result disconnectReason = s.failTerminally r' result disconnectReason := by
  unfold failTerminally restoreIncomingListenerAfterTerminal
  rcases h with h | h <;> simp [h, enterFailed, enter, publish]

theorem scheduleReconnect_congr (h : Agree r r' s) (result shouldRetry completedAttempt
    disconnectReason) :
    s.scheduleReconnect p r result shouldRetry completedAttempt disconnectReason =
      s.scheduleReconnect p r' result shouldRetry completedAttempt disconnectReason := by
  unfold scheduleReconnect
  split
  · exact failTerminally_congr h _ _
  · dsimp only
    split
    · exact failTerminally_congr (by simpa [Agree, countAttempt] using h) _ _
    · split
      · exact failTerminally_congr
          (by simpa [Agree, countAttempt, waitForReconnect, enter, scheduleReconnectTimer] using h)
          _ _
      · rfl

theorem scheduleTransientOpenRetry_congr (h : Agree r r' s) (epoch result completedCooldown) :
    s.scheduleTransientOpenRetry p r epoch result completedCooldown =
      s.scheduleTransientOpenRetry p r' epoch result completedCooldown := by
  unfold scheduleTransientOpenRetry
  split
  · rfl
  · dsimp only
    split
    · exact failTerminally_congr (by simpa [Agree, countTransientAttempt] using h) _ _
    · split
      · exact failTerminally_congr (by
          simpa [Agree, countTransientAttempt, readDelay, waitForReconnect, enter,
            scheduleReconnectTimer] using h) _ _
      · rfl

theorem completeFailure_congr (h : Agree r r' s) (epoch result transient) :
    s.completeFailure p r epoch result transient = s.completeFailure p r' epoch result transient := by
  have hrev : Agree r r' s.revokeStateChanged := h
  unfold completeFailure
  split
  · rfl
  · dsimp only
    split
    · split
      · exact scheduleTransientOpenRetry_congr hrev _ _ _
      · exact scheduleReconnect_congr hrev _ _ _ _
    · rename_i hsome
      refine beginClose_congr (.inl ?_)
      simpa [Option.isSome_iff_ne_none] using hsome

theorem finishCreate_congr (h : Agree r r' s) (epoch) :
    s.finishCreate p r epoch = s.finishCreate p r' epoch := by
  unfold finishCreate
  split
  · exact completeFailure_congr h _ _ _
  · unfold startCreated
    split
    · dsimp only
      split
      · rfl
      · exact completeFailure_congr (by exact h) _ _ _
    · exact completeFailure_congr (by exact h) _ _ _

theorem beginCreate_congr (h : Agree r r' s) (epoch) :
    s.beginCreate p r epoch = s.beginCreate p r' epoch := by
  unfold beginCreate
  split
  · rfl
  · exact finishCreate_congr (by exact h) _

theorem launch_congr (h : Agree r r' s) : s.launch p r = s.launch p r' := by
  unfold launch
  split
  · rename_i hsome
    refine beginClose_congr ?_
    exact .inl hsome
  · exact beginCreate_congr h _

theorem startConnection_congr {operation openImmediately}
    (h : openImmediately = false ∨ r.startIncoming = r'.startIncoming) :
    s.startConnection p r operation openImmediately =
      s.startConnection p r' operation openImmediately := by
  unfold startConnection
  split
  · rfl
  · split
    · rfl
    · refine launch_congr ?_
      simpa [Agree, prepareStart, nextEpoch, cancelTimer] using h

theorem continueAfterClose_congr (h : r.startIncoming = r'.startIncoming)
    (epoch completedCooldown) :
    s.continueAfterClose p r epoch completedCooldown =
      s.continueAfterClose p r' epoch completedCooldown := by
  unfold continueAfterClose
  split
  · rfl
  · dsimp only
    split
    · unfold restoreIncomingListenerAfterTerminal
      simp only [h]
    · split
      · exact beginCreate_congr (.inr h) _
      · exact scheduleReconnect_congr (.inr h) _ _ _ _
      · exact scheduleTransientOpenRetry_congr (.inr h) _ _ _
      · unfold completeSuspendClose startAfterResume
        simp only [startConnection_congr (.inr h)]
      · unfold continueIdle
        simp only [startConnection_congr (.inr h)]

end

/-- `reentry` solves the source's equation for `RestoreIncomingListenerAfterTerminal`. -/
theorem reentry_startIncoming (p : Platform) :
    (reentry p).startIncoming = startConnection p (reentry p) .incomingEnable false :=
  funext fun _ => startConnection_congr (.inl rfl)

/-- `reentry` solves the source's equation for `BeginClose`. -/
theorem reentry_continueAfterClose (p : Platform) :
    (reentry p).continueAfterClose = continueAfterClose p (reentry p) := by
  have hstart : (reentry p).continueAfterClose =
      continueAfterClose p ⟨(reentry p).startIncoming, fun _ _ => id⟩ := rfl
  rw [hstart]
  funext epoch completedCooldown s
  refine continueAfterClose_congr ?_ epoch completedCooldown
  rfl

end Session

end PlaybackConnector
