import PlaybackConnector.Session.Operations

/-!
# The moves of a device session

What one task of a session can do: its head (`Head`), which is where the task of an operation
acts on the state it finds, and then a sequence of guarded moves (`Move`), each of them a
straight-line part of the source. The tasks are taken apart here once: `step_task` says that
every step of `deviceSession` is a head and a sequence of moves, so whatever these keep every run
keeps (`run_preserves`). They are guarded by what the source has tested when it makes them, and
where it relies on more, by what follows from `Coherent`, which all of them keep.
-/

namespace PlaybackConnector

namespace Session

/-! ## Guards -/

/-- The part of `BeginClose` before it looks for a connection. Source: `DeviceSession.cpp:472`. -/
@[simp] def requestClose (continuation : CloseContinuation) (failure : DeviceConnectionResult)
    (shouldRetry completedAttempt : Bool) (disconnectReason : DeviceDisconnectReason)
    (s : Session) : Session :=
  let keeps : Bool := s.isCloseInFlight && s.isCloseContinuationAbandoned
  { s with
    pendingCloseContinuation := if keeps then s.pendingCloseContinuation else continuation
    pendingCloseFailure := if keeps then s.pendingCloseFailure else failure
    pendingCloseRetryEligible := if keeps then s.pendingCloseRetryEligible else shouldRetry
    pendingCloseCompletedAttempt :=
      if keeps then s.pendingCloseCompletedAttempt else completedAttempt
    pendingCloseDisconnectReason :=
      if keeps then s.pendingCloseDisconnectReason else disconnectReason
    isCloseContinuationAbandoned := keeps }

/-- The assignments of `Suspend` with something to close, and of the close it requests. -/
@[simp] def enterSuspension (s : Session) : Session :=
  (s.captureForResume.enterSuspendClose (s.operationEpoch + 1)).requestClose .suspend .cancelled
    false false .none

/-- The connection becomes the closing one, and its timeout is scheduled. Source:
`DeviceSession.cpp:487`. -/
@[simp] def detach (p : Platform) (s : Session) : Session :=
  s.revokeStateChanged.detachConnection.scheduleCloseBarrierTimer p
    ⟨.closeBarrier (s.closeBarrierEpoch + 1) true, closeBarrierTimeout⟩

/-- `StartConnection` does not return at once. -/
@[grind cases] structure CanStart (s : Session) : Prop where
  notShutdown : s.isShutdown = false
  notSuspended : s.isSuspended = false
  notInFlight : s.isCloseInFlight = false
  notConnecting : s.lifecycle ≠ .connecting
  notDisconnecting : s.lifecycle ≠ .disconnecting
  named : s.deviceId ≠ []

/-- Why a connection is started, with the operation and whether the session opens it. -/
inductive StartCause (e : Event) (s : Session) : DeviceOperationKind → Bool → Prop
  | requested {operation : DeviceOperationKind} {openImmediately : Bool}
      (event : e = .operation (.connect operation openImmediately)) :
      StartCause e s operation openImmediately
  | retried (waiting : s.lifecycle = .waitingForReconnect) :
      StartCause e s .automaticReconnect s.openImmediately
  | incoming (enabled : s.isIncomingEnabled = true) : StartCause e s .incomingEnable false

/-- The event that tells the session that its close is complete. -/
def Confirms (e : Event) (s : SessionState) : Prop := e = .closeBarrier s.closeBarrierEpoch false

/-- The barrier ends: the cooldown is over, or it could not be scheduled when the close was
confirmed. -/
@[grind cases] structure EndsClose (e : Event) (s : Session) : Prop where
  notShutdown : s.isShutdown = false
  inFlight : s.isCloseInFlight = true
  cooldown : s.isCloseCooldown = true
  event : e = .closeCooldown s.closeBarrierEpoch ∨ Confirms e s.toSessionState

/-- The close that ends was the one of the suspension. -/
@[grind cases] structure EndsSuspension (s : Session) : Prop where
  notAbandoned : s.isCloseContinuationAbandoned = false
  continuation : s.pendingCloseContinuation = .suspend
  suspended : s.isSuspended = true
  pending : s.isSuspendClosePending = true
  epoch : s.suspendCloseEpoch = s.operationEpoch

/-! ## Moves -/

/-- One move of a task that handles `e`, after its head. -/
inductive Move (p : Platform) (e : Event) (s : Session) : Session → Prop
  | publish (result disconnectReason) : Move p e s (s.publish result false disconnectReason)
  | cancelTimer (notShutdown : s.isShutdown = false) : Move p e s s.cancelTimer
  | clearTimer : Move p e s { s with reconnectTimer := none }
  | dropRestore : Move p e s { s with restoreIncomingAfterClose := false }
  -- the lifecycle
  | settle (result disconnectReason) (notShutdown : s.isShutdown = false)
      (notInFlight : s.isCloseInFlight = false) :
      Move p e s ((s.enter .idle).publish result false disconnectReason)
  | settleListener (notShutdown : s.isShutdown = false)
      (notInFlight : s.isCloseInFlight = false) : Move p e s s.settleListener
  | establish (notShutdown : s.isShutdown = false) (connection : s.connection.isSome) :
      Move p e s s.establish
  | fail (result disconnectReason) (notShutdown : s.isShutdown = false)
      (notInFlight : s.isCloseInFlight = false) :
      Move p e s (s.enterFailed result disconnectReason)
  | drop (notShutdown : s.isShutdown = false) (connection : s.connection.isSome) :
      Move p e s s.dropConnection
  -- the retry loops
  | countAttempt (completedAttempt) (dropped : completedAttempt = true → s.connection = none) :
      Move p e s (s.countAttempt completedAttempt)
  | waitRetry (delay) (notShutdown : s.isShutdown = false) (notSuspended : s.isSuspended = false)
      (notInFlight : s.isCloseInFlight = false) (enabled : s.isReconnectEnabled = true)
      (notCancelled : s.isReconnectCancelled = false) (named : s.deviceId ≠ []) :
      Move p e s (s.waitForReconnect p (.retryTimer · s.operationEpoch) delay)
  | countTransient : Move p e s s.countTransientAttempt
  | waitTransient (delay) (notShutdown : s.isShutdown = false)
      (notSuspended : s.isSuspended = false) (notInFlight : s.isCloseInFlight = false)
      (connection : s.connection = none) (notCancelled : s.isReconnectCancelled = false)
      (named : s.deviceId ≠ [])
      (attempts : 0 < s.transientOpenRetryAttempts ∧
        s.transientOpenRetryAttempts < transientOpenRetryMaxAttempts) :
      Move p e s
        (s.readDelay.waitForReconnect p (.transientOpenRetryTimer · s.operationEpoch) delay)
  -- creation
  | startCreate {operation openImmediately} (canStart : CanStart s)
      (cause : StartCause e s operation openImmediately) (connection : s.connection = none) :
      Move p e s ((s.prepareStart operation openImmediately).createConnection p
        (s.operationEpoch + 1))
  | timerCreate (notShutdown : s.isShutdown = false)
      (waiting : s.lifecycle = .waitingForReconnect) (connection : s.connection = none) :
      Move p e s ({ s with reconnectTimer := none }.createConnection p s.operationEpoch)
  | replaceCreate (ends : EndsClose e s) (notSuspended : s.isSuspended = false)
      (notAbandoned : s.isCloseContinuationAbandoned = false)
      (continuation : s.pendingCloseContinuation = .replace) :
      Move p e s (s.endCooldown.clearPendingClose.createConnection p s.operationEpoch)
  | register (c : NativeConnection) (connection : s.connection = some c)
      (created : s.ledger.created.head? = some (s.operationEpoch, c)) :
      Move p e s (s.registerStateChanged p s.operationEpoch c)
  | start (c : NativeConnection) (connection : s.connection = some c)
      (created : s.ledger.created.head? = some (s.operationEpoch, c)) :
      Move p e s (s.start p s.operationEpoch c)
  | openConnection (c c' : NativeConnection) (connection : s.connection = some c)
      (started : .connection .started s.operationEpoch c' ∈ s.ledger.handed) :
      Move p e s (s.openConnection p s.operationEpoch c)
  -- the close barrier
  | startReplace {operation openImmediately} (canStart : CanStart s)
      (cause : StartCause e s operation openImmediately) (connection : s.connection.isSome) :
      Move p e s ((s.prepareStart operation openImmediately).enterReplacing.requestClose .replace
        .success false false .none)
  | failConnection (continuation result shouldRetry completedAttempt)
      (notShutdown : s.isShutdown = false) (connection : s.connection.isSome)
      (cause : continuation = .retry ∨
        continuation = .transientOpenRetry ∧ s.openImmediately = true) :
      Move p e s (((s.revokeStateChanged.enter .disconnecting).publish result false
        .none).requestClose continuation result shouldRetry completedAttempt .none)
  | close (notShutdown : s.isShutdown = false) (connection : s.connection.isSome)
      (notInFlight : s.isCloseInFlight = false) (disconnecting : s.lifecycle = .disconnecting)
      (armed : (s.detach p).closeBarrierTimer.isNone = false) : Move p e s (s.detach p).callClose
  | closeUnarmed (notShutdown : s.isShutdown = false) (connection : s.connection.isSome)
      (notInFlight : s.isCloseInFlight = false) (disconnecting : s.lifecycle = .disconnecting)
      (unarmed : (s.detach p).closeBarrierTimer.isNone = true) :
      Move p e s ((s.detach p).failClose .failed).callClose
  | timedOut (event : e = .closeBarrier s.closeBarrierEpoch true)
      (notShutdown : s.isShutdown = false) (inFlight : s.isCloseInFlight = true)
      (notCooldown : s.isCloseCooldown = false) : Move p e s (s.failClose .timedOut)
  | cancelBarrierTimer : Move p e s s.cancelCloseBarrierTimer
  | closeConfirmed (event : Confirms e s.toSessionState) (notShutdown : s.isShutdown = false)
      (inFlight : s.isCloseInFlight = true) (notCooldown : s.isCloseCooldown = false) :
      Move p e s (s.beginCooldown p s.closeBarrierEpoch)
  | endAbandoned (ends : EndsClose e s) (abandoned : s.isCloseContinuationAbandoned = true) :
      Move p e s s.endCooldown.clearPendingClose.endAbandonedClose
  | endSuspended (ends : EndsClose e s) (suspends : EndsSuspension s)
      (notRequested : s.resumeRequested = false) :
      Move p e s s.endCooldown.clearPendingClose.settleSuspended
  | endResumed (ends : EndsClose e s) (suspends : EndsSuspension s)
      (requested : s.resumeRequested = true) (notRequired : s.resumeRequired = false) :
      Move p e s s.endCooldown.clearPendingClose.settleSuspended.endSuspension
  | endRefused (ends : EndsClose e s) (suspends : EndsSuspension s)
      (requested : s.resumeRequested = true) (required : s.resumeRequired = true) :
      Move p e s s.endCooldown.clearPendingClose.settleSuspended.endSuspension.takeRequired
  | endRestarted (ends : EndsClose e s) (suspends : EndsSuspension s)
      (requested : s.resumeRequested = true) (required : s.resumeRequired = true)
      (named : s.deviceId ≠ []) :
      Move p e s
        ((s.endCooldown.clearPendingClose.settleSuspended.endSuspension.takeRequired.prepareStart
          s.resumeOperation s.resumeOpenImmediately).createConnection p (s.operationEpoch + 1))
  | endStale (ends : EndsClose e s) (notAbandoned : s.isCloseContinuationAbandoned = false)
      (continuation : s.pendingCloseContinuation = .suspend)
      (stale : s.isSuspended = false ∨ s.isSuspendClosePending = false ∨
        s.suspendCloseEpoch ≠ s.operationEpoch) :
      Move p e s s.endCooldown.clearPendingClose
  | endClose (ends : EndsClose e s) (notAbandoned : s.isCloseContinuationAbandoned = false)
      (continuation : s.pendingCloseContinuation ≠ .suspend) :
      Move p e s s.endCooldown.clearPendingClose

/-- A sequence of moves of a task that handles `e`. -/
abbrev Moves (p : Platform) (e : Event) : Session → Session → Prop := Relation.ReflTransGen (Move p e)

/-! ## Heads -/

/-- What `Disconnect` starts from: the session, or the session whose incoming connections were
just disabled. -/
inductive Disconnecting (s : Session) : Event → Bool → Session → Prop
  | requested (restoreIncoming : Bool) :
      Disconnecting s (.operation (.disconnect restoreIncoming)) restoreIncoming s
  | incomingDisabled (listener : s.openImmediately = false) :
      Disconnecting s (.operation (.setIncomingEnabled false)) false
        { s with isIncomingEnabled := false }

/-- What `CancelAutomaticReconnect` starts from. -/
inductive Cancelling (s : Session) : Event → Session → Prop
  | requested : Cancelling s (.operation .cancelReconnect) { s with isReconnectCancelled := true }
  | reconnectDisabled :
      Cancelling s (.operation (.setReconnectEnabled false)) { s with isReconnectEnabled := false }

/-- The operation leaves the session as it finds it, at the head of its task. -/
def Passive (s : SessionState) : Operation → Prop
  | .disconnect _ => acceptsDisconnect s = false
  | .suspend => s.isShutdown = true ∨ s.isSuspended = true
  | .resume => s.isShutdown = true ∨ s.isSuspended = false
  | .setReconnectEnabled _ | .setIncomingEnabled _ | .shutdown => s.isShutdown = true
  | _ => True

/-- The head of a task: a callback is delivered, or an operation acts on the state it finds. -/
inductive Head (p : Platform) (s : Session) : Event → Session → Prop
  | callback {e : Event} (c : Continuation) (continuation : e.continuation = some c) :
      Head p s e (s.deliver c)
  | nothing (operation) (passive : Passive s.toSessionState operation) :
      Head p s (.operation operation) s
  | rename (deviceName) : Head p s (.operation (.rename deviceName)) { s with deviceName := deviceName }
  | disconnectIdle {e : Event} {restoreIncoming : Bool} {u : Session}
      (cause : Disconnecting s e restoreIncoming u) (notShutdown : s.isShutdown = false)
      (connection : s.connection = none) (notInFlight : s.isCloseInFlight = false) :
      Head p s e (((u.prepareDisconnect restoreIncoming).enter .idle).publish .success false
        .normal)
  | disconnectClose {e : Event} {restoreIncoming : Bool} {u : Session}
      (cause : Disconnecting s e restoreIncoming u) (notShutdown : s.isShutdown = false)
      (busy : s.connection.isSome ∨ s.isCloseInFlight = true)
      (notAbandoned : s.isCloseInFlight = true → s.isCloseContinuationAbandoned = false) :
      Head p s e ((((u.prepareDisconnect restoreIncoming).enter
        .disconnecting).revokeStateChanged.publish .success false .normal).requestClose .idle
        .success false false .none)
  | cancelNothing {e : Event} {u : Session} (cause : Cancelling s e u)
      (notShutdown : s.isShutdown = false)
      (inactive : cancelsActiveReconnect s.toSessionState = false) : Head p s e u.prepareCancel
  | cancelIdle {e : Event} {u : Session} (cause : Cancelling s e u)
      (notShutdown : s.isShutdown = false)
      (active : cancelsActiveReconnect s.toSessionState = true) (connection : s.connection = none)
      (notInFlight : s.isCloseInFlight = false) :
      Head p s e ((u.prepareCancel.nextEpoch.enter .idle).publish .cancelled false .none)
  | cancelClose {e : Event} {u : Session} (cause : Cancelling s e u) (restore : Bool)
      (notShutdown : s.isShutdown = false)
      (active : cancelsActiveReconnect s.toSessionState = true)
      (busy : s.connection.isSome ∨ s.isCloseInFlight = true) :
      Head p s e ({ u.prepareCancel.nextEpoch.enter .disconnecting with
        restoreIncomingAfterClose := restore }.revokeStateChanged.requestClose .idle .cancelled
        false false .none)
  | setReconnect (enabled : Bool) (idle : enabled = true ∨
        cancelsActiveReconnect s.toSessionState = false) :
      Head p s (.operation (.setReconnectEnabled enabled)) { s with isReconnectEnabled := enabled }
  | setIncoming (enabled : Bool) (idle : enabled = false → s.openImmediately = true ∨
        s.connection = none ∧
          (s.isCloseInFlight = true → s.isCloseContinuationAbandoned = true)) :
      Head p s (.operation (.setIncomingEnabled enabled)) { s with isIncomingEnabled := enabled }
  | removeNothing (notShutdown : s.isShutdown = false) (connection : s.connection = none)
      (notInFlight : s.isCloseInFlight = false) :
      Head p s (.operation .handleDeviceRemoved) s.prepareRemoval
  | removeIdle (notShutdown : s.isShutdown = false) (connection : s.connection = none)
      (notInFlight : s.isCloseInFlight = false) :
      Head p s (.operation .handleDeviceRemoved) s.prepareRemoval.nextEpoch
  | removeClose (result continuation failure shouldRetry disconnectReason disconnectReason')
      (cause : continuation = .idle ∨ continuation = .retry)
      (notShutdown : s.isShutdown = false)
      (busy : s.connection.isSome ∨ s.isCloseInFlight = true) :
      Head p s (.operation .handleDeviceRemoved)
        (((s.prepareRemoval.nextEpoch.enter .disconnecting).revokeStateChanged.publish result
          false disconnectReason).requestClose continuation failure shouldRetry false
          disconnectReason')
  | supersedeRelease (operation openImmediately) (notShutdown : s.isShutdown = false)
      (suspended : s.isSuspended = true)
      (manual : operation = .manualConnect ∨ operation = .manualReconnect)
      (idle : s.isCloseInFlight = true → s.isCloseContinuationAbandoned = true) :
      Head p s (.operation (.connect operation openImmediately)) s.releaseHold
  | supersede (operation openImmediately) (notShutdown : s.isShutdown = false)
      (suspended : s.isSuspended = true)
      (manual : operation = .manualConnect ∨ operation = .manualReconnect)
      (inFlight : s.isCloseInFlight = true)
      (notAbandoned : s.isCloseContinuationAbandoned = false) :
      Head p s (.operation (.connect operation openImmediately))
        ((s.releaseHold.enterSuperseding operation openImmediately).requestClose .replace .success
          false false .none)
  | cancelPower (notShutdown : s.isShutdown = false) (suspended : s.isSuspended = true) :
      Head p s (.operation .cancelPowerTransitionRecovery) s.releaseHold
  | suspendIdle (notShutdown : s.isShutdown = false) (notSuspended : s.isSuspended = false)
      (connection : s.connection = none) (notInFlight : s.isCloseInFlight = false) :
      Head p s (.operation .suspend)
        ((s.captureForResume.enter .idle).publish .cancelled false .none)
  | suspendClosing (notShutdown : s.isShutdown = false) (notSuspended : s.isSuspended = false)
      (inFlight : s.isCloseInFlight = true) :
      Head p s (.operation .suspend) s.enterSuspension
  | suspendOpen (notShutdown : s.isShutdown = false) (notSuspended : s.isSuspended = false)
      (connection : s.connection.isSome) (notInFlight : s.isCloseInFlight = false)
      (armed : (s.enterSuspension.detach p).closeBarrierTimer.isNone = false) :
      Head p s (.operation .suspend) (s.enterSuspension.detach p).callClose
  | suspendUnarmed (notShutdown : s.isShutdown = false) (notSuspended : s.isSuspended = false)
      (connection : s.connection.isSome) (notInFlight : s.isCloseInFlight = false)
      (unarmed : (s.enterSuspension.detach p).closeBarrierTimer.isNone = true) :
      Head p s (.operation .suspend) ((s.enterSuspension.detach p).failClose .failed).callClose
  | requestResume (notShutdown : s.isShutdown = false) (suspended : s.isSuspended = true)
      (pending : s.isSuspendClosePending = true) :
      Head p s (.operation .resume) { s with resumeRequested := true }
  | resume (notShutdown : s.isShutdown = false) (suspended : s.isSuspended = true)
      (notPending : s.isSuspendClosePending = false) (notRequired : s.resumeRequired = false) :
      Head p s (.operation .resume) s.unsuspend
  | resumeRefused (notShutdown : s.isShutdown = false) (suspended : s.isSuspended = true)
      (notPending : s.isSuspendClosePending = false) (required : s.resumeRequired = true) :
      Head p s (.operation .resume) s.unsuspend.takeRequired
  | resumeRestarted (notShutdown : s.isShutdown = false) (suspended : s.isSuspended = true)
      (notPending : s.isSuspendClosePending = false) (required : s.resumeRequired = true)
      (notInFlight : s.isCloseInFlight = false) (notDisconnecting : s.lifecycle ≠ .disconnecting)
      (named : s.deviceId ≠ []) :
      Head p s (.operation .resume)
        ((s.unsuspend.takeRequired.prepareStart s.resumeOperation
          s.resumeOpenImmediately).createConnection p (s.operationEpoch + 1))
  | resumeIdle (notShutdown : s.isShutdown = false) (suspended : s.isSuspended = true)
      (notPending : s.isSuspendClosePending = false)
      (notRequired : s.resumeRequired = false) (notRequested : s.resumeRequested = false)
      (notIncoming : s.isIncomingEnabled = false) :
      Head p s (.operation .resumeIdleAfterPowerTransition) s.unsuspend
  | shutdown (notShutdown : s.isShutdown = false) :
      Head p s (.operation .shutdown)
        (({ s with isShutdown := true }.nextEpoch.cancelTimer.closeForShutdown).enter .idle)

/-- A task that handles `e`: its head and its moves. -/
def Task (p : Platform) (e : Event) (s t : Session) : Prop := ∃ u, Head p s e u ∧ Moves p e u t

/-! ## Coherence -/

/-- What holds of a session's flags at every point of its tasks. -/
structure Coherent (s : SessionState) : Prop where
  inFlight : s.isCloseInFlight = true → s.connection = none
  closing : s.closingConnection ≠ none → s.isCloseInFlight = true
  cooldown : s.isCloseCooldown = true → s.isCloseInFlight = true ∧ s.closingConnection = none
  waiting : s.lifecycle = .waitingForReconnect →
    s.isCloseInFlight = false ∧ s.isSuspended = false
  connecting : s.lifecycle = .connecting → s.isCloseInFlight = false ∧ s.isSuspended = false
  suspended : s.isSuspended = true → s.connection = none
  requested : s.resumeRequested = true → s.isSuspended = true ∧ s.isSuspendClosePending = true
  resumed : s.resumeOpenImmediately = true → s.resumeOperation = .resume
  listened : s.resumeOpenImmediately = false → s.resumeOperation = .incomingEnable
  abandoned : s.isCloseContinuationAbandoned = true →
    s.pendingCloseContinuation = .idle ∧ s.isCloseInFlight = true
  suspendEpoch : s.suspendCloseEpoch ≤ s.operationEpoch
  active : s.isCloseInFlight = true → s.pendingCloseContinuation = .replace ∨
    s.pendingCloseContinuation = .transientOpenRetry → s.isSuspended = false
  unnamed : s.deviceId = [] → s.connection = none ∧ s.isCloseInFlight = false ∧
    s.retryEligible = false ∧ s.lifecycle ≠ .waitingForReconnect
  shutdown : s.isShutdown = true →
    s.isCloseInFlight = false ∧ s.connection = none ∧ s.lifecycle = .idle

section
variable {p : Platform} {e : Event} {s t : Session}

theorem Move.coherent (h : Move p e s t) (hs : Coherent s.toSessionState) :
    Coherent t.toSessionState := by
  obtain ⟨h1, h2, h3, h4, h5, h6, h7, h8, h9, h10, h11, h12, h13, h14⟩ := hs
  cases h
  all_goals
    dsimp
    constructor <;> first | assumption | grind -linarith

theorem Head.coherent (h : Head p s e t) (hs : Coherent s.toSessionState) :
    Coherent t.toSessionState := by
  obtain ⟨h1, h2, h3, h4, h5, h6, h7, h8, h9, h10, h11, h12, h13, h14⟩ := hs
  cases h
  case disconnectIdle | disconnectClose =>
    cases ‹Disconnecting _ _ _ _› <;> constructor <;> dsimp <;> grind -linarith
  case cancelNothing | cancelIdle | cancelClose =>
    cases ‹Cancelling _ _ _› <;> constructor <;> dsimp <;> grind -linarith
  all_goals
    try dsimp
    constructor <;> first | assumption | grind -linarith

/-- What holds of the timers at every point of a session's tasks: a callback of a transient retry
carries a past or present timer epoch, and if it is still the present one, there is no connection;
the two timers have callbacks of their own. -/
structure TimersCoherent (s : Session) : Prop where
  past : ∀ te oe, .transientOpenRetryTimer te oe ∈ s.ledger.handed → te ≤ s.timerEpoch
  noConnection : ∀ te oe, .transientOpenRetryTimer te oe ∈ s.ledger.handed → te = s.timerEpoch →
    s.lifecycle = .waitingForReconnect → s.connection = none
  reconnect : ∀ t, s.reconnectTimer = some t → t.continuation.isReconnect = true
  close : ∀ t, s.closeBarrierTimer = some t → t.continuation.isClose = true

theorem Move.timersCoherent (h : Move p e s t) (hs : TimersCoherent s) : TimersCoherent t := by
  obtain ⟨h1, h2, h3, h4⟩ := hs
  cases h
  all_goals
    try dsimp
    constructor <;> first | assumption | grind -linarith [scheduled, Continuation.isReconnect, Continuation.isClose]

theorem Head.timersCoherent (h : Head p s e t) (hs : TimersCoherent s) : TimersCoherent t := by
  obtain ⟨h1, h2, h3, h4⟩ := hs
  cases h
  case disconnectIdle | disconnectClose =>
    cases ‹Disconnecting _ _ _ _› <;> constructor <;> dsimp <;> grind -linarith [scheduled, Continuation.isReconnect, Continuation.isClose]
  case cancelNothing | cancelIdle | cancelClose =>
    cases ‹Cancelling _ _ _› <;> constructor <;> dsimp <;> grind -linarith [scheduled, Continuation.isReconnect, Continuation.isClose]
  all_goals
    try dsimp
    constructor <;> first | assumption | grind -linarith [scheduled, Continuation.isReconnect, Continuation.isClose]

/-- What holds of the callbacks of the close at every point of a session's tasks: those of the
close in flight were given to the platform. -/
structure CloseCoherent (s : Session) : Prop where
  completion : s.isCloseInFlight = true →
    .closeBarrier s.closeBarrierEpoch false ∈ s.ledger.handed
  timeout : s.isCloseInFlight = true → .closeBarrier s.closeBarrierEpoch true ∈ s.ledger.handed
  cooldown : s.isCloseCooldown = true → .closeCooldown s.closeBarrierEpoch ∈ s.ledger.handed

theorem Move.closeCoherent (hc : Coherent s.toSessionState) (h : Move p e s t)
    (hs : CloseCoherent s) : CloseCoherent t := by
  have hcool := hc.cooldown
  obtain ⟨h1, h2, h3⟩ := hs
  cases h
  all_goals
    try dsimp
    constructor <;> first | assumption | grind -linarith

theorem Head.closeCoherent (hc : Coherent s.toSessionState) (h : Head p s e t)
    (hs : CloseCoherent s) : CloseCoherent t := by
  have hcool := hc.cooldown
  obtain ⟨h1, h2, h3⟩ := hs
  cases h
  case disconnectIdle | disconnectClose =>
    cases ‹Disconnecting _ _ _ _› <;> constructor <;> dsimp <;> grind -linarith
  case cancelNothing | cancelIdle | cancelClose =>
    cases ‹Cancelling _ _ _› <;> constructor <;> dsimp <;> grind -linarith
  all_goals
    try dsimp
    constructor <;> first | assumption | grind -linarith

end

end Session

end PlaybackConnector
