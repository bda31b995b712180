import PlaybackConnector.Session.Suspension
import PlaybackConnector.Session.Lifecycle

/-!
# Incoming connections that are enabled during a close

A close that is in flight keeps its continuation when incoming connections are enabled: the start
of the listener is refused, and nothing notes it for the end of the close. So the listener is
missed if and only if the pending continuation leaves the session idle and the listener was not to
be restored (`incoming_survives_close_iff`).
-/

namespace PlaybackConnector

/-- From the call with the given number on, connections are created and started. -/
structure Platform.SucceedsFrom (call : Nat) (p : Platform) : Prop where
  create : ∀ n ≥ call, ∃ address, p.create n = .connection address
  register : ∀ n ≥ call, ∃ token, token ≠ 0 ∧ p.registerStateChanged n = some token
  start : ∀ n ≥ call, p.start n = true

namespace Session

variable {p : Platform} {r : Reentry} {e : Event} {s t u : Session} {call barrier : Nat}

/-! ## Closes -/

/-- A close is in flight, and will be continued. -/
structure Closing (s : SessionState) : Prop where
  notShutdown : s.isShutdown = false
  notSuspended : s.isSuspended = false
  inFlight : s.isCloseInFlight = true
  notAbandoned : s.isCloseContinuationAbandoned = false

/-- The session is idle and has no connection, although incoming connections are enabled. -/
def Missed (s : SessionState) : Prop :=
  s.lifecycle = .idle ∧ s.connection = none ∧ s.isIncomingEnabled = true

/-- The close leaves the session idle, and does not restore the listener. -/
def DropsListener (s : SessionState) : Prop :=
  s.pendingCloseContinuation = .idle ∧ s.restoreIncomingAfterClose = false

/-- The events of a close, and the successful start of a connection. -/
def OfClose (closeBarrierEpoch : Nat) : Event → Prop
  | .closeBarrier epoch false | .closeCooldown epoch => epoch = closeBarrierEpoch
  | .started _ _ result => result = .success
  | _ => False

/-- The device is added again. -/
def Readds : Event → Prop
  | .operation (.rename _) | .operation (.setIncomingEnabled true) => True
  | _ => False

/-- A close that will be continued is under way. -/
def ClosesUnderWay (s : SessionState) : Prop :=
  s.isCloseInFlight = true → s.isCloseContinuationAbandoned = false →
    s.lifecycle = .disconnecting

theorem Move.closesUnderWay (hs : Inv s) (h : Move p e s t)
    (hc : ClosesUnderWay s.toSessionState) : ClosesUnderWay t.toSessionState := by
  obtain ⟨c1, c2, c3, c4, c5, c6, c7, c8, c9, c10, c11, c12, c13, c14⟩ := hs.coherent
  unfold ClosesUnderWay at *
  cases h
  all_goals
    try dsimp
    first | assumption | grind -linarith

theorem Head.closesUnderWay (hs : Inv s) (h : Head p s e t)
    (hc : ClosesUnderWay s.toSessionState) : ClosesUnderWay t.toSessionState := by
  obtain ⟨c1, c2, c3, c4, c5, c6, c7, c8, c9, c10, c11, c12, c13, c14⟩ := hs.coherent
  unfold ClosesUnderWay at *
  cases h
  case disconnectIdle | disconnectClose =>
    cases ‹Disconnecting _ _ _ _› <;> dsimp <;> grind -linarith
  case cancelNothing | cancelIdle | cancelClose =>
    cases ‹Cancelling _ _ _› <;> dsimp <;> grind -linarith
  all_goals
    try dsimp
    first | assumption | grind -linarith

/-! ## Connections that start -/

/-- The close with the epoch `barrier` is over. -/
def Over (barrier : Nat) (s : SessionState) : Prop :=
  s.isCloseInFlight = false ∧ barrier ≤ s.closeBarrierEpoch ∨ barrier < s.closeBarrierEpoch

theorem Over.congr {s t : SessionState} (h : Over barrier s)
    (hf : t.isCloseInFlight = s.isCloseInFlight) (hb : t.closeBarrierEpoch = s.closeBarrierEpoch) :
    Over barrier t := by
  unfold Over
  rwa [hf, hb]

/-- The close with the epoch `barrier` is over, and an idle session has a connection. -/
structure Attached (barrier : Nat) (s : SessionState) : Prop where
  isOver : Over barrier s
  connection : s.lifecycle = .idle → s.connection.isSome

theorem Over.attached {s t : SessionState} (h : Over barrier s)
    (hf : t.isCloseInFlight = s.isCloseInFlight) (hb : t.closeBarrierEpoch = s.closeBarrierEpoch)
    (hl : t.lifecycle ≠ .idle) : Attached barrier t :=
  ⟨h.congr hf hb, fun hidle => absurd hidle hl⟩

theorem createConnection_succeeds (hp : p.SucceedsFrom call) (hcall : call ≤ s.ledger.platformCalls)
    (epoch : Nat) : ∃ c, (s.createConnection p epoch).connection = some c := by
  obtain ⟨address, haddress⟩ := hp.create _ hcall
  exact ⟨⟨s.ledger.creates.length, address⟩, by simp [createdConnection, haddress]⟩

/-- A connection that is created and started leaves the session connecting. -/
theorem finishCreate_succeeds (hp : p.SucceedsFrom call) (hcall : call ≤ s.ledger.platformCalls)
    (epoch : Nat) : ∃ c, ((s.createConnection p epoch).finishCreate p r epoch) =
      ((s.createConnection p epoch).registerStateChanged p epoch c).start p epoch c := by
  obtain ⟨c, hc⟩ := createConnection_succeeds hp hcall epoch
  obtain ⟨token, htoken, hregister⟩ := hp.register (s.ledger.platformCalls + 1) (by omega)
  refine ⟨c, ?_⟩
  unfold finishCreate
  rw [hc]
  dsimp only
  have hregisters : (s.createConnection p epoch).registers p = true := by
    simp [registers, hregister, htoken]
  unfold startCreated
  rw [if_pos hregisters]
  exact if_pos (hp.start _ (by simp; omega))

theorem startConnection_attached (hp : p.SucceedsFrom call)
    (hcall : call ≤ s.ledger.platformCalls) (hc : s.connection = none)
    (hs : Attached barrier s.toSessionState) {operation : DeviceOperationKind}
    {openImmediately : Bool} :
    Attached barrier (s.startConnection p r operation openImmediately).toSessionState := by
  rcases startConnection_of_none (p := p) (r := r) hc operation openImmediately with
    hsame | ⟨-, hstart⟩
  · rwa [hsame]
  · obtain ⟨c, hfinish⟩ := finishCreate_succeeds (r := r)
      (s := s.prepareStart operation openImmediately) hp (by simpa using hcall)
      (s.operationEpoch + 1)
    rw [hstart, hfinish]
    exact ⟨hs.isOver, fun hidle => by simp at hidle⟩

/-! ## The end of a close -/

theorem failTerminally_attached (hp : p.SucceedsFrom call)
    (hcall : call ≤ s.ledger.platformCalls) (hc : s.connection = none)
    (hover : Over barrier s.toSessionState) (result disconnectReason) :
    Attached barrier (s.failTerminally (reentry p) result disconnectReason).toSessionState := by
  unfold failTerminally restoreIncomingListenerAfterTerminal
  split
  · exact hover.attached rfl rfl (by simp)
  · dsimp only
    split
    · rw [reentry_startIncoming]
      refine startConnection_attached hp (by exact hcall) (by exact hc) ?_
      exact hover.attached rfl rfl (by simp)
    · exact hover.attached rfl rfl (by simp)

/-- The timer of a retry was scheduled, or the session has failed for good. -/
theorem waitForReconnect_attached (hp : p.SucceedsFrom call)
    (hcall : call ≤ s.ledger.platformCalls) (hc : s.connection = none)
    (hover : Over barrier s.toSessionState) {continuation : Nat → Continuation} {delay : Nat}
    (result result' disconnectReason) :
    Attached barrier (let t := s.waitForReconnect p continuation delay
      if t.reconnectTimer.isNone then t.failTerminally (reentry p) result disconnectReason
      else t.publish result' false disconnectReason).toSessionState := by
  have hwait : Over barrier (s.waitForReconnect p continuation delay).toSessionState :=
    hover.congr (by simp) (by simp)
  dsimp only
  split
  · refine failTerminally_attached hp ?_ ?_ hwait _ _
    · exact Nat.le_succ_of_le hcall
    · exact hc
  · exact hwait.attached (by simp) (by simp) (by simp)

theorem scheduleReconnect_attached (hp : p.SucceedsFrom call)
    (hcall : call ≤ s.ledger.platformCalls) (hc : s.connection = none)
    (hover : Over barrier s.toSessionState) (result shouldRetry completedAttempt disconnectReason) :
    Attached barrier (s.scheduleReconnect p (reentry p) result shouldRetry completedAttempt
      disconnectReason).toSessionState := by
  have hcount : Over barrier (s.countAttempt completedAttempt).toSessionState :=
    hover.congr (by simp) (by simp)
  unfold scheduleReconnect
  split
  · exact failTerminally_attached hp hcall hc hover _ _
  · dsimp only
    split
    · exact failTerminally_attached hp (by exact hcall) (by exact hc) hcount _ _
    · exact waitForReconnect_attached hp (by exact hcall) (by exact hc) hcount _ _ _

theorem scheduleTransientOpenRetry_attached (hp : p.SucceedsFrom call)
    (hcall : call ≤ s.ledger.platformCalls) (hc : s.connection = none)
    (hs : Attached barrier s.toSessionState) (epoch result completedScheduledCooldown) :
    Attached barrier (s.scheduleTransientOpenRetry p (reentry p) epoch result
      completedScheduledCooldown).toSessionState := by
  have hcount : Over barrier s.countTransientAttempt.toSessionState :=
    hs.isOver.congr (by simp) (by simp)
  have hread : Over barrier s.countTransientAttempt.readDelay.toSessionState :=
    hcount.congr (by simp) (by simp)
  unfold scheduleTransientOpenRetry
  split
  · exact hs
  · dsimp only
    split
    · exact failTerminally_attached hp (by exact hcall) (by exact hc) hcount _ _
    · exact waitForReconnect_attached hp (by exact hcall) (by exact hc) hread _ _ _

/-- A close is in flight whose end leaves a connection, or does not leave the session idle. -/
structure Continues (barrier : Nat) (s : SessionState) : Prop extends Closing s where
  barrier : s.closeBarrierEpoch = barrier
  disconnecting : s.lifecycle = .disconnecting
  connection : s.connection = none
  named : s.deviceId ≠ []
  restores : s.pendingCloseContinuation = .idle →
    s.restoreIncomingAfterClose = true ∧ s.isIncomingEnabled = true

/-- The session when the barrier of its close is lifted. -/
def settled (s : Session) : Session := s.endCooldown.clearPendingClose

theorem Continues.isOver (hs : Continues barrier s.toSessionState) :
    Over barrier s.settled.toSessionState :=
  .inl ⟨rfl, Nat.le_of_eq hs.barrier.symm⟩

/-- The restored listener is started. -/
theorem continueIdle_attached (hp : p.SucceedsFrom call)
    (hcall : call ≤ s.ledger.platformCalls) (hs : Continues barrier s.toSessionState)
    (hrestore : s.restoreIncomingAfterClose = true ∧ s.isIncomingEnabled = true)
    (failure disconnectReason) :
    Attached barrier (s.settled.continueIdle p (reentry p) failure
      disconnectReason).toSessionState := by
  let idle : Session := { (s.settled.enter .idle).publish failure false disconnectReason with
    restoreIncomingAfterClose := false }
  have hcan : CanStart idle :=
    ⟨hs.notShutdown, hs.notSuspended, rfl, by simp [idle], by simp [idle], hs.named⟩
  have hidle : s.settled.continueIdle p (reentry p) failure disconnectReason =
      idle.startConnection p (reentry p) .incomingEnable false :=
    if_pos ⟨hrestore.1, hrestore.2, by simp [settled, hs.notSuspended]⟩
  rw [hidle, startConnection_of_canStart hcan hs.connection]
  obtain ⟨c, hfinish⟩ := finishCreate_succeeds (r := reentry p)
    (s := idle.prepareStart .incomingEnable false) hp hcall (idle.operationEpoch + 1)
  rw [hfinish]
  exact hs.isOver.attached (by simp [idle]) (by simp [idle]) (by simp)

theorem continueAfterClose_attached (hp : p.SucceedsFrom call)
    (hcall : call ≤ s.ledger.platformCalls) (hs : Continues barrier s.toSessionState)
    (completedScheduledCooldown : Bool) :
    Attached barrier (s.endCooldown.continueAfterClose p (reentry p) s.endCooldown.operationEpoch
      completedScheduledCooldown).toSessionState := by
  have hsettled : Attached barrier s.settled.toSessionState :=
    hs.isOver.attached rfl rfl (by simp [settled, hs.disconnecting])
  unfold continueAfterClose
  rw [if_neg (by simp [hs.notShutdown])]
  dsimp only
  rw [if_neg (by simp [hs.notAbandoned])]
  have hpending : s.endCooldown.pendingCloseContinuation = s.pendingCloseContinuation := rfl
  rw [hpending]
  cases hcont : s.pendingCloseContinuation with
  | replace =>
    obtain ⟨c, hfinish⟩ := finishCreate_succeeds (r := reentry p) (s := s.settled) hp hcall
      s.operationEpoch
    have hbegin : s.settled.beginCreate p (reentry p) s.operationEpoch =
        (s.settled.createConnection p s.operationEpoch).finishCreate p (reentry p)
          s.operationEpoch :=
      if_neg (by simp [settled, hs.notShutdown, hs.notSuspended])
    change Attached barrier (s.settled.beginCreate p (reentry p) s.operationEpoch).toSessionState
    rw [hbegin, hfinish]
    exact hs.isOver.attached (by simp) (by simp) (by simp)
  | retry => exact scheduleReconnect_attached (s := s.settled) hp hcall hs.connection hs.isOver _ _ _ _
  | transientOpenRetry =>
    exact scheduleTransientOpenRetry_attached (s := s.settled) hp hcall hs.connection hsettled _ _ _
  | suspend =>
    have hstale : s.settled.completeSuspendClose p (reentry p) s.operationEpoch = s.settled :=
      if_pos (by simp [settled, hs.notSuspended])
    change Attached barrier
      (s.settled.completeSuspendClose p (reentry p) s.operationEpoch).toSessionState
    rwa [hstale]
  | idle => exact continueIdle_attached hp hcall hs (hs.restores hcont) _ _

/-! ## The events of the close -/

theorem completeCloseCooldown_attached (hp : p.SucceedsFrom call)
    (hcall : call ≤ s.ledger.platformCalls) (hs : Continues barrier s.toSessionState)
    (hcool : s.isCloseCooldown = true) (completedScheduledCooldown : Bool) :
    Attached barrier (s.completeCloseCooldown p (reentry p) s.closeBarrierEpoch
      completedScheduledCooldown).toSessionState := by
  unfold completeCloseCooldown
  rw [if_neg (by simp [hs.notShutdown, hs.inFlight, hcool])]
  exact continueAfterClose_attached hp hcall hs _

/-- The close goes on, or it is over. -/
def Kept (barrier : Nat) (s : SessionState) : Prop := Continues barrier s ∨ Attached barrier s

theorem Kept.not_missed {s : SessionState} (h : Kept barrier s) : ¬ Missed s := by
  rintro ⟨hidle, hnone, -⟩
  rcases h with hs | hs
  · exact absurd (hs.disconnecting.symm.trans hidle) (by simp)
  · have hsome := hs.connection hidle
    rw [hnone] at hsome
    cases hsome

/-- A callback that is refused changes nothing that the outside cannot see. -/
theorem Kept.refused (hs : Kept barrier s.toSessionState) {c : Continuation}
    (hc : e.continuation = some c) (hrefused : ¬ Accepts s.toSessionState c) :
    Kept barrier ((deviceSession p).step s e).toSessionState := by
  rw [refused_step hc hrefused]
  exact hs

/-- The barrier of a close that is over refuses its callbacks. -/
theorem Attached.refuses (hs : Attached barrier s.toSessionState)
    (hlive : s.isCloseInFlight = true) : barrier ≠ s.closeBarrierEpoch := by
  rcases hs.isOver with ⟨hnf, -⟩ | hlt
  · exact absurd (hnf.symm.trans hlive) (by simp)
  · exact Nat.ne_of_lt hlt

theorem confirm_kept (hp : p.SucceedsFrom call) (hcall : call ≤ s.ledger.platformCalls)
    (hs : Kept barrier s.toSessionState) :
    Kept barrier ((deviceSession p).step s (.closeBarrier barrier false)).toSessionState := by
  by_cases haccepts : Accepts s.toSessionState (.closeBarrier barrier false)
  · obtain ⟨hsd, hf, hcool, hepoch⟩ := haccepts
    rcases hs with hs | hs
    · have hconfirmed : Continues barrier (s.confirmed p).toSessionState :=
        ⟨⟨hs.notShutdown, hs.notSuspended, hs.inFlight, hs.notAbandoned⟩, hs.barrier,
          hs.disconnecting, hs.connection, hs.named, hs.restores⟩
      rw [hepoch, step_confirms hsd hf hcool, ← hepoch]
      split
      · exact .inr (completeCloseCooldown_attached hp (Nat.le_succ_of_le hcall) hconfirmed rfl _)
      · exact .inl hconfirmed
    · exact absurd hepoch (hs.refuses hf)
  · exact hs.refused rfl haccepts

theorem cooldown_kept (hp : p.SucceedsFrom call) (hcall : call ≤ s.ledger.platformCalls)
    (hs : Kept barrier s.toSessionState) :
    Kept barrier ((deviceSession p).step s (.closeCooldown barrier)).toSessionState := by
  by_cases haccepts : Accepts s.toSessionState (.closeCooldown barrier)
  · obtain ⟨-, hf, hcool, hepoch⟩ := haccepts
    rcases hs with hs | hs
    · have hended := completeCloseCooldown_attached (s := s.deliver (.closeCooldown barrier)) hp
        hcall hs hcool true
      rw [hepoch] at hended ⊢
      exact .inr hended
    · exact absurd hepoch (hs.refuses hf)
  · exact hs.refused rfl haccepts

/-- A close that begins has a new barrier. -/
theorem closeRequested_attached (hnf : s.isCloseInFlight = false)
    (hle : barrier ≤ s.closeBarrierEpoch) (hdisc : s.lifecycle = .disconnecting) :
    Attached barrier (s.closeRequested p).toSessionState := by
  unfold closeRequested
  rw [if_neg (by simp [hnf]), closeConnection_eq]
  unfold finishClose
  have hlt : barrier < s.closeBarrierEpoch + 1 := Nat.lt_succ_of_le hle
  split
  · exact ⟨.inr hlt, fun hidle => by simp at hidle⟩
  · exact ⟨.inr hlt, fun hidle => by simp [hdisc] at hidle⟩

/-- A connection that fails is closed. -/
theorem completeFailure_attached (hcoh : Coherent s.toSessionState) {c : NativeConnection}
    (hc : s.connection = some c) (hs : Attached barrier s.toSessionState) (epoch result) :
    Attached barrier (s.completeFailure p r epoch result false).toSessionState := by
  have hle : barrier ≤ s.closeBarrierEpoch := by
    rcases hs.isOver with ⟨-, hle⟩ | hlt
    · exact hle
    · exact Nat.le_of_lt hlt
  unfold completeFailure
  split
  · exact hs
  · dsimp only
    rw [if_neg (by simp [hc]), beginClose_eq (by simp [hc])]
    exact closeRequested_attached (hcoh.notInFlight (by simp [hc])) hle rfl

/-- The start of the connection succeeds, and the connection is kept or opened. -/
theorem onStarted_attached (hcoh : Coherent s.toSessionState) (hs : Attached barrier s.toSessionState)
    (epoch : Nat) (c : NativeConnection) :
    Attached barrier (s.onStarted p r epoch c .success).toSessionState := by
  unfold onStarted
  split
  · exact hs
  · rename_i haccepts
    obtain ⟨-, -, c', hc', -⟩ := isCurrentConnection_iff.1 (by simpa using haccepts)
    split
    · exact hs
    · rw [if_neg (by simp)]
      split
      · exact ⟨hs.isOver, fun _ => by simp [hc']⟩
      · have hopens (c : NativeConnection) :
            Attached barrier (s.openConnection p epoch c).toSessionState :=
          ⟨hs.isOver, hs.connection⟩
        dsimp only
        split
        · exact hopens _
        · refine completeFailure_attached ?_ (c := c') ?_ (hopens _) _ _
          · exact hcoh
          · exact hc'

theorem started_kept (hcoh : Coherent s.toSessionState) (hs : Kept barrier s.toSessionState)
    (epoch : Nat) (c : NativeConnection) :
    Kept barrier ((deviceSession p).step s (.started epoch c .success)).toSessionState := by
  by_cases haccepts : Accepts s.toSessionState (.connection .started epoch c)
  · obtain ⟨-, -, c', hc', -⟩ := isCurrentConnection_iff.1 haccepts
    rcases hs with hs | hs
    · exact absurd (hs.connection.symm.trans hc') (by simp)
    · exact .inr (onStarted_attached (s := s.deliver (.connection .started epoch c)) hcoh hs _ _)
  · exact hs.refused rfl haccepts

/-- Incoming connections are enabled, in a session without a connection. -/
theorem setIncomingEnabled_of_none {s : Session} (hsd : s.isShutdown = false)
    (hsus : s.isSuspended = false) (hc : s.connection = none) :
    s.setIncomingEnabled p r true =
      { s with isIncomingEnabled := true }.startConnection p r .incomingEnable false := by
  unfold setIncomingEnabled
  rw [if_neg (by simp [hsd])]
  dsimp only
  rw [if_neg (by simp), if_pos (by simp [hc, hsus])]

/-- In a close, the start of the listener is refused. -/
theorem setIncomingEnabled_closing (hs : Closing s.toSessionState) (hc : s.connection = none) :
    s.setIncomingEnabled p r true = { s with isIncomingEnabled := true } := by
  rw [setIncomingEnabled_of_none hs.notShutdown hs.notSuspended hc]
  unfold startConnection
  split
  · rfl
  · exact if_pos (.inl hs.inFlight)

theorem setIncomingEnabled_attached (hp : p.SucceedsFrom call)
    (hcall : call ≤ s.ledger.platformCalls) (hs : Attached barrier s.toSessionState) :
    Attached barrier (s.setIncomingEnabled p r true).toSessionState := by
  unfold setIncomingEnabled
  split
  · exact hs
  · dsimp only
    rw [if_neg (by simp)]
    split
    · rename_i hstart
      exact startConnection_attached hp (by exact hcall) (by simpa using hstart.2.1)
        (by exact ⟨hs.isOver, hs.connection⟩)
    · exact ⟨hs.isOver, hs.connection⟩

theorem readds_kept (hp : p.SucceedsFrom call) (hcall : call ≤ s.ledger.platformCalls)
    (hs : Kept barrier s.toSessionState) (he : Readds e) :
    Kept barrier ((deviceSession p).step s e).toSessionState := by
  unfold Readds at he
  split at he
  · rename_i deviceName
    have hstep : (deviceSession p).step s (.operation (.rename deviceName)) =
        s.rename deviceName := rfl
    rw [hstep]
    unfold rename
    split
    · exact hs
    · exact hs.imp (fun h => ⟨⟨h.notShutdown, h.notSuspended, h.inFlight, h.notAbandoned⟩, h.barrier,
        h.disconnecting, h.connection, h.named, h.restores⟩) fun h => ⟨h.isOver, h.connection⟩
  · have hstep : (deviceSession p).step s (.operation (.setIncomingEnabled true)) =
        s.setIncomingEnabled p (reentry p) true := rfl
    rw [hstep]
    rcases hs with hs | hs
    · rw [setIncomingEnabled_closing hs.toClosing hs.connection]
      exact .inl ⟨⟨hs.notShutdown, hs.notSuspended, hs.inFlight, hs.notAbandoned⟩, hs.barrier,
        hs.disconnecting, hs.connection, hs.named, fun hidle => ⟨(hs.restores hidle).1, rfl⟩⟩
    · exact .inr (setIncomingEnabled_attached hp hcall hs)
  · exact he.elim

/-! ## Whole closes -/

theorem Move.calls_le (h : Move p e s t) (hcall : call ≤ s.ledger.platformCalls) :
    call ≤ t.ledger.platformCalls := by
  cases h
  all_goals
    try dsimp
    first | assumption | omega

theorem Head.calls_le (h : Head p s e t) (hcall : call ≤ s.ledger.platformCalls) :
    call ≤ t.ledger.platformCalls := by
  cases h
  case disconnectIdle | disconnectClose => cases ‹Disconnecting _ _ _ _› <;> exact hcall
  case cancelNothing | cancelIdle | cancelClose => cases ‹Cancelling _ _ _› <;> exact hcall
  all_goals
    try dsimp
    first | assumption | omega | grind -linarith

/-- What the steps after the listener is enabled keep. -/
structure Keeps (call barrier : Nat) (s : Session) : Prop where
  inv : Inv s
  calls : call ≤ s.ledger.platformCalls
  kept : Kept barrier s.toSessionState

theorem step_keeps (hp : p.SucceedsFrom call) (hs : Keeps call barrier s)
    (henabled : (deviceSession p).enabled s e) (he : OfClose barrier e ∨ Readds e) :
    Keeps call barrier ((deviceSession p).step s e) := by
  refine ⟨step_inv henabled hs.inv, ?_, ?_⟩
  · exact step_establishes hs.inv henabled (fun _ hu => hu.calls_le hs.calls)
      fun _ _ _ hm hi => hm.calls_le hi
  · rcases he with he | he
    · unfold OfClose at he
      split at he
      · subst he
        exact confirm_kept hp hs.calls hs.kept
      · subst he
        exact cooldown_kept hp hs.calls hs.kept
      · subst he
        exact started_kept hs.inv.coherent hs.kept _ _
      · exact he.elim
    · exact readds_kept hp hs.calls hs.kept he

theorem run_keeps (hp : p.SucceedsFrom call) (hs : Keeps call barrier s) {later : List Event}
    (hrun : (deviceSession p).Run s later) (hlater : ∀ e ∈ later, OfClose barrier e ∨ Readds e) :
    Keeps call barrier ((deviceSession p).exec s later) := by
  have hevents := EventSystem.always_of_forall (S := deviceSession p) (s := s) hlater
  refine (hrun.and hevents).invariant (I := Keeps call barrier) ?_ hs
  intro s e h hs
  exact step_keeps hp hs h.1 h.2

/-- A close that continues, or that leaves the listener to be restored. -/
theorem enabled_kept (hinv : Inv s) (hunder : ClosesUnderWay s.toSessionState)
    (hs : Closing s.toSessionState) (hdrops : ¬ DropsListener s.toSessionState) :
    Keeps s.ledger.platformCalls s.closeBarrierEpoch
      ((deviceSession p).step s (.operation (.setIncomingEnabled true))) := by
  have hc := hinv.coherent.inFlight hs.inFlight
  have hstep : (deviceSession p).step s (.operation (.setIncomingEnabled true)) =
      { s with isIncomingEnabled := true } := setIncomingEnabled_closing hs hc
  have hinv' := step_inv (enabled_operation (.setIncomingEnabled true)) hinv (p := p)
  rw [hstep] at hinv' ⊢
  refine ⟨hinv', Nat.le_refl _, .inl ⟨⟨hs.notShutdown, hs.notSuspended, hs.inFlight,
    hs.notAbandoned⟩, rfl, hunder hs.inFlight hs.notAbandoned, hc, fun hname => ?_,
    fun hidle => ⟨?_, rfl⟩⟩⟩
  · have hnf := (hinv.coherent.unnamed hname).2.1
    exact absurd (hnf.symm.trans hs.inFlight) (by simp)
  · exact Decidable.byContradiction fun h => hdrops ⟨hidle, by simpa using h⟩

/-- The session whose device was removed in a close. -/
def removed (s : Session) : Session :=
  ((s.prepareRemoval.nextEpoch.enter .disconnecting).publish .failed false
    .deviceRemoved).requestClose .retry .failed s.retryEligible false .deviceRemoved

theorem step_removes (hs : Closing s.toSessionState) (hc : s.connection = none) :
    (deviceSession p).step s (.operation .handleDeviceRemoved) = s.removed := by
  have hstep : (deviceSession p).step s (.operation .handleDeviceRemoved) =
      s.handleDeviceRemoved p (reentry p) := rfl
  rw [hstep]
  unfold handleDeviceRemoved
  rw [if_neg (by simp [hs.notShutdown])]
  unfold removeDevice
  dsimp only
  rw [if_neg (by simp [hs.inFlight]), if_neg (by simp [hc]), if_pos (by simp [hs.inFlight])]
  unfold closeRemoved
  rw [beginClose_eq (.inr (by exact hs.inFlight))]
  exact if_pos hs.inFlight

/-- A removal gives the close a continuation of its own. -/
theorem removed_kept (hinv : Inv s) (hs : Closing s.toSessionState) :
    Keeps s.ledger.platformCalls s.closeBarrierEpoch
      ((deviceSession p).step s (.operation .handleDeviceRemoved)) := by
  have hc := hinv.coherent.inFlight hs.inFlight
  have hinv' := step_inv (enabled_operation .handleDeviceRemoved) hinv (p := p)
  rw [step_removes hs hc] at hinv' ⊢
  refine ⟨hinv', Nat.le_refl _, .inl ⟨⟨hs.notShutdown, hs.notSuspended, hs.inFlight, ?_⟩, rfl, rfl,
    hc, fun hname => ?_, ?_⟩⟩
  · simp [removed, hs.notAbandoned]
  · have hnf := (hinv.coherent.unnamed hname).2.1
    exact absurd (hnf.symm.trans hs.inFlight) (by simp)
  · intro hidle
    simp [removed, hs.notAbandoned] at hidle

/-! ## Missed listeners -/

/-- A close that ends idle, and that restores nothing. -/
structure Drops (s : SessionState) : Prop extends Closing s where
  drops : DropsListener s
  connection : s.connection = none
  incoming : s.isIncomingEnabled = true

theorem completeCloseCooldown_missed (hs : Drops s.toSessionState) (hcool : s.isCloseCooldown = true)
    (completedScheduledCooldown : Bool) :
    Missed (s.completeCloseCooldown p r s.closeBarrierEpoch
      completedScheduledCooldown).toSessionState := by
  unfold completeCloseCooldown
  rw [if_neg (by simp [hs.notShutdown, hs.inFlight, hcool])]
  unfold continueAfterClose
  rw [if_neg (by simp [hs.notShutdown])]
  dsimp only
  rw [if_neg (by simp [hs.notAbandoned])]
  have hpending : s.endCooldown.pendingCloseContinuation = .idle := hs.drops.1
  rw [hpending]
  dsimp only
  unfold continueIdle
  rw [if_neg (by simp [hs.drops.2])]
  exact ⟨rfl, hs.connection, hs.incoming⟩

/-- The events of the close that are left end in an idle session. -/
theorem drops_missed (hinv : Inv s) (hs : Drops s.toSessionState) :
    ∃ later, (deviceSession p).Run s later ∧ (∀ e ∈ later, OfClose s.closeBarrierEpoch e) ∧
      Missed ((deviceSession p).exec s later).toSessionState := by
  have hends {t : Session} (hinv : Inv t) (hs : Drops t.toSessionState)
      (hcool : t.isCloseCooldown = true) :
      (deviceSession p).enabled t (.closeCooldown t.closeBarrierEpoch) ∧
        Missed ((deviceSession p).step t (.closeCooldown t.closeBarrierEpoch)).toSessionState := by
    refine ⟨enabled_of_handed rfl (hinv.close.cooldown hcool), ?_⟩
    exact completeCloseCooldown_missed (s := t.deliver (.closeCooldown t.closeBarrierEpoch)) hs
      hcool true
  cases hcool : s.isCloseCooldown with
  | true =>
    obtain ⟨henabled, hmissed⟩ := hends hinv hs hcool
    exact ⟨[.closeCooldown s.closeBarrierEpoch], ⟨henabled, trivial⟩, by simp [OfClose], hmissed⟩
  | false =>
    have henabled : (deviceSession p).enabled s (.closeBarrier s.closeBarrierEpoch false) :=
      enabled_of_handed rfl (hinv.close.completion hs.inFlight)
    have hconfirmed : Drops (s.confirmed p).toSessionState :=
      ⟨⟨hs.notShutdown, hs.notSuspended, hs.inFlight, hs.notAbandoned⟩, hs.drops, hs.connection,
        hs.incoming⟩
    have hstep := step_confirms (p := p) hs.notShutdown hs.inFlight hcool
    cases harmed : (s.confirmed p).closeBarrierTimer.isNone with
    | true =>
      rw [if_pos harmed] at hstep
      refine ⟨[.closeBarrier s.closeBarrierEpoch false], ⟨henabled, trivial⟩, by simp [OfClose], ?_⟩
      rw [EventSystem.exec_cons, hstep]
      exact completeCloseCooldown_missed hconfirmed rfl false
    | false =>
      rw [if_neg (by simp [harmed])] at hstep
      obtain ⟨hcools, hmissed⟩ := hends (hinv.confirmed hs.notShutdown hs.inFlight hcool)
        hconfirmed rfl
      refine ⟨[.closeBarrier s.closeBarrierEpoch false, .closeCooldown s.closeBarrierEpoch],
        ⟨henabled, ?_, trivial⟩, by simp [OfClose], ?_⟩
      · rw [hstep]
        exact hcools
      · rw [EventSystem.exec_cons, hstep]
        exact hmissed

theorem enabled_drops (hinv : Inv s) (hs : Closing s.toSessionState)
    (hdrops : DropsListener s.toSessionState) : ∃ later,
      (deviceSession p).Run s (.operation (.setIncomingEnabled true) :: later) ∧
      (∀ e ∈ later, OfClose s.closeBarrierEpoch e) ∧
      Missed ((deviceSession p).exec s
        (.operation (.setIncomingEnabled true) :: later)).toSessionState := by
  have hc := hinv.coherent.inFlight hs.inFlight
  have hstep : (deviceSession p).step s (.operation (.setIncomingEnabled true)) =
      { s with isIncomingEnabled := true } := setIncomingEnabled_closing hs hc
  have hinv' := step_inv (enabled_operation (.setIncomingEnabled true)) hinv (p := p)
  rw [hstep] at hinv'
  obtain ⟨later, hrun, hlater, hmissed⟩ := drops_missed (p := p) hinv'
    ⟨⟨hs.notShutdown, hs.notSuspended, hs.inFlight, hs.notAbandoned⟩, hdrops, hc, rfl⟩
  refine ⟨later, ⟨enabled_operation _, ?_⟩, hlater, ?_⟩
  · rwa [hstep]
  · rwa [EventSystem.exec_cons, hstep]

/-! ## The listener survives the close -/

/-- Incoming connections that are enabled in the close are not missed at its end. -/
def SurvivesEnabling (p : Platform) (s : Session) : Prop :=
  ∀ later, (deviceSession p).Run s (.operation (.setIncomingEnabled true) :: later) →
    (∀ e ∈ later, OfClose s.closeBarrierEpoch e) →
    ¬ Missed ((deviceSession p).exec s
      (.operation (.setIncomingEnabled true) :: later)).toSessionState

/-- Nor are they when the device is removed in the close, and added again. -/
def SurvivesRemoval (p : Platform) (s : Session) : Prop :=
  ∀ later, (deviceSession p).Run s (.operation .handleDeviceRemoved :: later) →
    (∀ e ∈ later, OfClose s.closeBarrierEpoch e ∨ Readds e) →
    ¬ Missed ((deviceSession p).exec s (.operation .handleDeviceRemoved :: later)).toSessionState

theorem closesUnderWay_reachable {deviceId deviceName : WString}
    (hreach : (deviceSession p).Reachable (initial deviceId deviceName) s) :
    Inv s ∧ ClosesUnderWay s.toSessionState := by
  obtain ⟨es, hrun, rfl⟩ := hreach
  refine ⟨run_inv (inv_initial _ _) hrun, ?_⟩
  exact run_preserves (I := fun s => ClosesUnderWay s.toSessionState)
    (fun _ _ _ hs h hi => h.closesUnderWay hs hi) (fun _ _ _ hs h hi => h.closesUnderWay hs hi)
    (inv_initial _ _) (fun hf => by simp [initial] at hf) hrun

/-- Incoming connections that are enabled in a close survive it unless the close was to leave the
session idle and the listener was not to be restored; and they always survive a close in which the
device is removed. -/
theorem incoming_survives_close_iff {deviceId deviceName : WString}
    (hreach : (deviceSession p).Reachable (initial deviceId deviceName) s)
    (hs : Closing s.toSessionState) (hp : p.SucceedsFrom s.ledger.platformCalls) :
    (SurvivesEnabling p s ↔ ¬ DropsListener s.toSessionState) ∧ SurvivesRemoval p s := by
  obtain ⟨hinv, hunder⟩ := closesUnderWay_reachable hreach
  refine ⟨⟨fun hsurvives hdrops => ?_, fun hdrops later hrun hlater => ?_⟩,
    fun later hrun hlater => ?_⟩
  · obtain ⟨later, hrun, hlater, hmissed⟩ := enabled_drops (p := p) hinv hs hdrops
    exact hsurvives later hrun hlater hmissed
  · have hkeeps := enabled_kept (p := p) hinv hunder hs hdrops
    exact (run_keeps hp hkeeps hrun.2 fun e he => .inl (hlater e he)).kept.not_missed
  · have hkeeps := removed_kept (p := p) hinv hs
    exact (run_keeps hp hkeeps hrun.2 hlater).kept.not_missed

/-- A listener is disabled, and its connection is being closed. -/
def disabledListener : List Event :=
  [.operation (.setIncomingEnabled true), .started 1 ⟨0, 7⟩ .success,
    .operation (.setIncomingEnabled false)]

/-- The listener is enabled again before the close ends. -/
def enabledAgain : List Event :=
  [.operation (.setIncomingEnabled true), .closeBarrier 1 false, .closeCooldown 1]

theorem obligingPlatform_succeeds (call : Nat) : obligingPlatform.SucceedsFrom call where
  create _ _ := ⟨7, rfl⟩
  register _ _ := ⟨1, by decide, rfl⟩
  start _ _ := rfl

/-- The session misses its listener. -/
theorem listener_missed :
    let s := (deviceSession obligingPlatform).exec (initial [65] [66]) disabledListener
    (deviceSession obligingPlatform).Reachable (initial [65] [66]) s ∧ Closing s.toSessionState ∧
      obligingPlatform.SucceedsFrom s.ledger.platformCalls ∧
      (deviceSession obligingPlatform).Run s enabledAgain ∧
      (∀ e ∈ enabledAgain.tail, OfClose s.closeBarrierEpoch e) ∧
      Missed ((deviceSession obligingPlatform).exec s enabledAgain).toSessionState ∧
      ¬ SurvivesEnabling obligingPlatform s := by
  intro s
  have hrun : (deviceSession obligingPlatform).Run s enabledAgain := by decide
  have hclose : ∀ e ∈ enabledAgain.tail, OfClose s.closeBarrierEpoch e := by
    intro e he
    simp only [enabledAgain, List.tail_cons, List.mem_cons, List.not_mem_nil, or_false] at he
    rcases he with rfl | rfl <;> rfl
  have hmissed : Missed ((deviceSession obligingPlatform).exec s enabledAgain).toSessionState :=
    ⟨by decide, by decide, by decide⟩
  exact ⟨⟨disabledListener, by decide, rfl⟩, ⟨by decide, by decide, by decide, by decide⟩,
    obligingPlatform_succeeds _, hrun, hclose, hmissed,
    fun hsurvives => hsurvives _ hrun hclose hmissed⟩

/-- The open of a connection fails. -/
def failedOpen : List Event :=
  [.operation (.connect .manualConnect true), .started 1 ⟨0, 7⟩ .success,
    .opened 1 ⟨0, 7⟩ ⟨.denied, false⟩]

/-- Incoming connections that are enabled while the connection is closed are not missed. -/
theorem incoming_survives_close_failedOpen :
    let s := (deviceSession obligingPlatform).exec (initial [65] [66]) failedOpen
    SurvivesEnabling obligingPlatform s ∧ SurvivesRemoval obligingPlatform s := by
  intro s
  have hreach : (deviceSession obligingPlatform).Reachable (initial [65] [66]) s :=
    ⟨failedOpen, by decide, rfl⟩
  have hsurvives := incoming_survives_close_iff hreach
    ⟨by decide, by decide, by decide, by decide⟩ (obligingPlatform_succeeds _)
  exact ⟨hsurvives.1.2 fun hdrops => absurd hdrops.1 (by decide), hsurvives.2⟩

end Session

end PlaybackConnector
