import PlaybackConnector.Session.Steps

/-!
# The retry budget of a lost connection

A connection that the session opened and that is lost is retried by the reconnect policy. Whether
the loss counts as an attempt is read off the operation that established the connection, so one
that an automatic reconnect established starts with one attempt spent. The budget is fresh if and
only if another operation established the connection and the session was eligible for a retry when
it did (`loss_fresh_budget_iff`).
-/

namespace PlaybackConnector

/-- No creation returns a connection, and every timer is scheduled. -/
structure Platform.FailsToCreate (p : Platform) : Prop where
  create : ∀ call address, p.create call ≠ .connection address
  schedule : ∀ call, p.schedule call = .timer

namespace Session

variable {p q : Platform} {r : Reentry} {e : Event} {s t : Session} {n : Nat}
  {result : DeviceConnectionResult} {disconnectReason : DeviceDisconnectReason}

/-! ## The attempts of an established connection -/

/-- An established connection has no completed attempt. -/
def FreshWhenConnected (s : SessionState) : Prop :=
  s.lifecycle = .connected → s.connection.isSome → s.completedRetryAttempts = 0

theorem Move.freshWhenConnected (hs : Inv s) (h : Move p e s t)
    (hf : FreshWhenConnected s.toSessionState) : FreshWhenConnected t.toSessionState := by
  obtain ⟨c1, c2, c3, c4, c5, c6, c7, c8, c9, c10, c11, c12, c13, c14⟩ := hs.coherent
  unfold FreshWhenConnected at *
  cases h
  all_goals
    try dsimp
    first | assumption | grind -linarith

theorem Head.freshWhenConnected (hs : Inv s) (h : Head p s e t)
    (hf : FreshWhenConnected s.toSessionState) : FreshWhenConnected t.toSessionState := by
  obtain ⟨c1, c2, c3, c4, c5, c6, c7, c8, c9, c10, c11, c12, c13, c14⟩ := hs.coherent
  unfold FreshWhenConnected at *
  cases h
  case disconnectIdle | disconnectClose =>
    cases ‹Disconnecting _ _ _ _› <;> dsimp <;> grind -linarith
  case cancelNothing | cancelIdle | cancelClose =>
    cases ‹Cancelling _ _ _› <;> dsimp <;> grind -linarith
  all_goals
    try dsimp
    first | assumption | grind -linarith

/-! ## Waiting for an attempt -/

/-- The session waits for the retry after `n` completed attempts, with the policy's delay for it. -/
structure Waits (n : Nat) (s : SessionState) : Prop where
  waiting : s.lifecycle = .waitingForReconnect
  attempts : s.completedRetryAttempts = n
  timer : s.reconnectTimer = some ⟨.retryTimer s.timerEpoch s.operationEpoch,
    ReconnectPolicy.retryDelayForAttempt (n + 1) * 1000⟩

/-- The policy has not used up its attempts. -/
theorem evaluate_retry (h : n < ReconnectPolicy.maxAttempts) :
    ReconnectPolicy.evaluate ⟨.connectionLoss, n, false⟩ =
      ⟨.retry, n + 1, ReconnectPolicy.maxAttempts, ReconnectPolicy.retryDelayForAttempt (n + 1)⟩ := by
  simp [ReconnectPolicy.evaluate, Nat.not_le.2 h]

/-- A session that may reconnect. -/
structure MayRetry (s : SessionState) : Prop where
  notShutdown : s.isShutdown = false
  notSuspended : s.isSuspended = false
  enabled : s.isReconnectEnabled = true
  notCancelled : s.isReconnectCancelled = false

/-- The session waits, and can make its next attempt. -/
structure Retrying (n : Nat) (s : SessionState) : Prop extends Waits n s, MayRetry s where
  connection : s.connection = none
  notInFlight : s.isCloseInFlight = false
  named : s.deviceId ≠ []

/-- A retry that the policy grants, and whose timer can be scheduled. -/
theorem scheduleReconnect_retrying {completedAttempt : Bool} (hs : MayRetry s.toSessionState)
    (hc : s.connection = none) (hnf : s.isCloseInFlight = false) (hname : s.deviceId ≠ [])
    (hn : s.completedRetryAttempts + (if completedAttempt then 1 else 0) = n)
    (hlt : n < ReconnectPolicy.maxAttempts)
    (hsched : p.schedule s.ledger.platformCalls = .timer) :
    Retrying n (s.scheduleReconnect p r result true completedAttempt
      disconnectReason).toSessionState := by
  have hcount : (s.countAttempt completedAttempt).completedRetryAttempts = n := hn
  unfold scheduleReconnect
  rw [if_neg (by simp [hs.notShutdown, hs.notSuspended, hs.enabled, hs.notCancelled])]
  dsimp only
  rw [hcount, evaluate_retry hlt, if_neg (by simp), if_neg (by simp [scheduled, hsched])]
  exact {
    waiting := rfl
    attempts := hcount
    timer := by simp [scheduled, hsched]
    notShutdown := hs.notShutdown
    notSuspended := hs.notSuspended
    enabled := hs.enabled
    notCancelled := hs.notCancelled
    connection := hc
    notInFlight := hnf
    named := hname }

/-- A listener that fails does not start again. -/
theorem failTerminally_listener (h : s.openImmediately = false) :
    (s.failTerminally r result disconnectReason).lifecycle = .failed := by
  unfold failTerminally restoreIncomingListenerAfterTerminal
  split
  · rfl
  · simp [enterFailed, enter, publish, h]

/-- A retry that is not asked for, or that the policy refuses. -/
theorem scheduleReconnect_terminal (result shouldRetry completedAttempt disconnectReason)
    (h : shouldRetry = false ∨ ReconnectPolicy.maxAttempts ≤
      s.completedRetryAttempts + (if completedAttempt then 1 else 0)) :
    ∃ counted, s.scheduleReconnect p r result shouldRetry completedAttempt disconnectReason =
      (s.countAttempt counted).failTerminally r result disconnectReason := by
  unfold scheduleReconnect
  split
  · exact ⟨false, rfl⟩
  · next hgo =>
    refine ⟨completedAttempt, if_pos ?_⟩
    rcases h with hretry | hmax
    · exact absurd (by simp [hretry]) hgo
    · exact (ReconnectPolicy.evaluate_connectionLoss_terminal _).2 hmax

/-- Without a retry, a listener fails for good. -/
theorem scheduleReconnect_listener {completedAttempt : Bool} (h : s.openImmediately = false) :
    (s.scheduleReconnect p r result false completedAttempt disconnectReason).lifecycle =
      .failed := by
  obtain ⟨counted, hterminal⟩ := scheduleReconnect_terminal (p := p) (r := r) (s := s)
    result false completedAttempt disconnectReason (.inl rfl)
  rw [hterminal]
  exact failTerminally_listener h

/-! ## Terminal failures -/

theorem createConnection_none (hq : q.FailsToCreate) {epoch : Nat} :
    (s.createConnection q epoch).connection = none := by
  simp only [createConnection, create, createdConnection]
  split
  · next address h => exact absurd h (hq.create _ address)
  · rfl
  · rfl

/-- The connection could not be created. -/
theorem finishCreate_none {epoch : Nat} (hsd : s.isShutdown = false)
    (hepoch : s.operationEpoch = epoch) (hnone : s.connection = none) :
    s.finishCreate p r epoch = s.scheduleReconnect p r .failed s.retryEligible
      (s.currentOperation = .automaticReconnect) .none := by
  have hfinish : s.finishCreate p r epoch = s.completeFailure p r epoch .failed false := by
    unfold finishCreate
    rw [hnone]
  rw [hfinish]
  unfold completeFailure
  rw [if_neg (by simp [hsd, hepoch])]
  dsimp only
  rw [revokeStateChanged_of_none hnone, if_pos (by simp [hnone])]
  rfl

theorem beginClose_notWaiting {epoch : Nat} {continuation : CloseContinuation}
    {shouldRetry completedAttempt : Bool} (hl : s.lifecycle = .disconnecting)
    (hc : s.connection.isSome) :
    (s.beginClose p r epoch continuation result shouldRetry completedAttempt
      disconnectReason).lifecycle ≠ .waitingForReconnect := by
  rw [beginClose_eq (.inl hc), closeRequested]
  split
  · simp [hl]
  · rw [closeConnection_eq, finishClose]
    split <;> simp [hl]

/-- A start that will not be retried, of a listener. -/
structure StartsListener (s : SessionState) : Prop where
  notEligible : s.retryEligible = false
  listener : s.openImmediately = false

theorem completeFailure_notWaiting {epoch : Nat} (hs : StartsListener s.toSessionState)
    (hl : s.lifecycle ≠ .waitingForReconnect) :
    (s.completeFailure p r epoch result false).lifecycle ≠ .waitingForReconnect := by
  unfold completeFailure
  split
  · exact hl
  · dsimp only
    split
    · rw [Bool.false_and, if_neg (by simp)]
      have hretry : s.revokeStateChanged.retryEligible = false := hs.notEligible
      rw [hretry, scheduleReconnect_listener (by exact hs.listener)]
      simp
    · next hsome =>
      refine beginClose_notWaiting rfl ?_
      simpa [Option.isSome_iff_ne_none] using hsome

theorem startConnection_notWaiting (hc : s.connection = none)
    (hl : s.lifecycle ≠ .waitingForReconnect) :
    (s.startConnection p r .incomingEnable false).lifecycle ≠ .waitingForReconnect := by
  rcases startConnection_of_none (p := p) (r := r) hc .incomingEnable false with hsame | ⟨-, hstart⟩
  · rwa [hsame]
  · rw [hstart]
    unfold finishCreate
    split
    · exact completeFailure_notWaiting ⟨rfl, rfl⟩ (by simp)
    · unfold startCreated
      split
      · dsimp only
        split
        · simp
        · exact completeFailure_notWaiting ⟨rfl, rfl⟩ (by simp)
      · exact completeFailure_notWaiting ⟨rfl, rfl⟩ (by simp)

/-- A session that has failed for good does not wait for a retry. -/
theorem failTerminally_notWaiting (hc : s.connection = none) :
    (s.failTerminally (reentry p) result disconnectReason).lifecycle ≠ .waitingForReconnect := by
  unfold failTerminally restoreIncomingListenerAfterTerminal
  split
  · simp
  · dsimp only
    split
    · rw [reentry_startIncoming]
      exact startConnection_notWaiting (by exact hc) (by simp)
    · simp

/-- A connection that is started and cannot be created. -/
theorem startConnection_fails (hq : q.FailsToCreate) (hcan : CanStart s) (hc : s.connection = none)
    {operation : DeviceOperationKind} {openImmediately : Bool} :
    s.startConnection q r operation openImmediately =
      ((s.prepareStart operation openImmediately).createConnection q
        (s.operationEpoch + 1)).scheduleReconnect q r .failed (isRetryEligible operation)
          (operation = .automaticReconnect) .none := by
  rw [startConnection_of_canStart hcan hc]
  exact finishCreate_none hcan.notShutdown rfl (createConnection_none hq)

/-- Where no connection can be created, a session that has failed for good stays failed. -/
theorem failTerminally_failed (hq : q.FailsToCreate) (hc : s.connection = none) :
    (s.failTerminally (reentry q) result disconnectReason).lifecycle = .failed := by
  unfold failTerminally restoreIncomingListenerAfterTerminal
  split
  · rfl
  · dsimp only
    split
    · let failed : Session :=
        { s.enterFailed result disconnectReason with restoreIncomingAfterClose := false }
      rw [reentry_startIncoming]
      change (failed.startConnection q (reentry q) .incomingEnable false).lifecycle = .failed
      rcases startConnection_of_none (p := q) (r := reentry q) (s := failed) (by exact hc)
        .incomingEnable false with hsame | ⟨hcan, -⟩
      · rw [hsame]
        rfl
      · rw [startConnection_fails hq hcan (by exact hc)]
        exact scheduleReconnect_listener rfl
    · rfl

/-! ## The automatic attempts -/

/-- The timer of the retry fires. -/
def retried (q : Platform) : Nat → Session → Session
  | 0, s => s
  | n + 1, s =>
    let s := retried q n s
    (deviceSession q).step s (.retryTimer s.timerEpoch s.operationEpoch)

/-- The next attempt, as it fails: the timer has fired, and the connection could not be created. -/
def failedAttempt (q : Platform) (s : Session) : Session :=
  ({ s.deliver (.retryTimer s.timerEpoch s.operationEpoch) with
    reconnectTimer := none }.prepareStart .automaticReconnect s.openImmediately).createConnection q
      (s.operationEpoch + 1)

theorem retryTimer_fails (hq : q.FailsToCreate) (hs : Retrying n s.toSessionState) :
    (deviceSession q).step s (.retryTimer s.timerEpoch s.operationEpoch) =
      (failedAttempt q s).scheduleReconnect q (reentry q) .failed true true .none := by
  let fired : Session :=
    { s.deliver (.retryTimer s.timerEpoch s.operationEpoch) with reconnectTimer := none }
  have hcan : CanStart fired :=
    ⟨hs.notShutdown, hs.notSuspended, hs.notInFlight, by simp [fired, hs.waiting],
      by simp [fired, hs.waiting], hs.named⟩
  have hlive : isStaleTimer (s.deliver (.retryTimer s.timerEpoch s.operationEpoch)).toSessionState
      s.timerEpoch s.operationEpoch = false := by
    simp [isStaleTimer, hs.notShutdown, hs.notSuspended, hs.waiting]
  have hfired : (deviceSession q).step s (.retryTimer s.timerEpoch s.operationEpoch) =
      fired.startConnection q (reentry q) .automaticReconnect s.openImmediately :=
    if_neg (by rw [Bool.not_eq_true]; exact hlive)
  rw [hfired, startConnection_fails hq hcan hs.connection]
  rfl

theorem failedAttempt_mayRetry (hs : MayRetry s.toSessionState) :
    MayRetry (failedAttempt q s).toSessionState :=
  ⟨hs.notShutdown, hs.notSuspended, hs.enabled, hs.notCancelled⟩

theorem failedAttempt_none (hq : q.FailsToCreate) : (failedAttempt q s).connection = none :=
  createConnection_none hq

/-- A failed attempt that is not the last one is followed by the next. -/
theorem Retrying.next (hq : q.FailsToCreate) (hs : Retrying n s.toSessionState)
    (hlt : n + 1 < ReconnectPolicy.maxAttempts) :
    Retrying (n + 1)
      ((deviceSession q).step s (.retryTimer s.timerEpoch s.operationEpoch)).toSessionState := by
  rw [retryTimer_fails hq hs]
  exact scheduleReconnect_retrying (failedAttempt_mayRetry hs.toMayRetry) (failedAttempt_none hq)
    hs.notInFlight hs.named (congrArg (· + 1) hs.attempts) hlt (hq.schedule _)

/-- The last attempt fails for good. -/
theorem Retrying.last (hq : q.FailsToCreate) (hs : Retrying n s.toSessionState)
    (hlast : n + 1 = ReconnectPolicy.maxAttempts) :
    ((deviceSession q).step s (.retryTimer s.timerEpoch s.operationEpoch)).lifecycle = .failed := by
  have hcount : (failedAttempt q s).completedRetryAttempts = n := hs.attempts
  obtain ⟨counted, hterminal⟩ := scheduleReconnect_terminal (p := q) (r := reentry q)
    (s := failedAttempt q s) .failed true true .none (.inr (by simp [hcount, hlast]))
  rw [retryTimer_fails hq hs, hterminal]
  exact failTerminally_failed hq (failedAttempt_none hq)

theorem retried_retrying (hq : q.FailsToCreate) (hs : Retrying 0 s.toSessionState)
    (hlt : n < ReconnectPolicy.maxAttempts) : Retrying n (retried q n s).toSessionState := by
  induction n with
  | zero => exact hs
  | succ n ih => exact (ih (Nat.lt_of_succ_lt hlt)).next hq hlt

/-! ## The loss -/

/-- A connection that the session opened is established, and the session may reconnect. -/
structure Established (s : SessionState) : Prop extends MayRetry s where
  connected : s.lifecycle = .connected
  opened : s.openImmediately = true

/-- The full number of attempts is ahead. -/
structure FreshBudget (t : Session) : Prop where
  /-- The session waits for the first retry. -/
  waits : Waits 0 t.toSessionState
  /-- It waits for the initial delay. -/
  delay : t.reconnectTimer.map (·.delay) = some (ReconnectPolicy.initialRetryDelay * 1000)
  /-- Where every attempt fails, the session makes the full number of them before it gives up. -/
  budget : ∀ q : Platform, q.FailsToCreate →
    (∀ n < ReconnectPolicy.maxAttempts, Waits n (retried q n t).toSessionState) ∧
      (retried q ReconnectPolicy.maxAttempts t).lifecycle = .failed

theorem Retrying.freshBudget (hs : Retrying 0 s.toSessionState) : FreshBudget s where
  waits := hs.toWaits
  delay := by rw [hs.timer]; rfl
  budget q hq := by
    refine ⟨fun n hn => (retried_retrying hq hs hn).toWaits, ?_⟩
    have hlast := retried_retrying (n := 9) hq hs (by decide)
    exact hlast.last hq rfl

/-- The session without its lost connection. -/
def lost (epoch : Nat) (c : NativeConnection) (s : Session) : Session :=
  (s.deliver (.connection .stateChanged epoch c)).dropConnection

/-- What the loss of an established connection comes to. -/
theorem step_closed {epoch : Nat} {c : NativeConnection} (hs : Established s.toSessionState)
    (hcur : isCurrentConnection s.toSessionState epoch c = true) :
    (deviceSession p).step s (.stateChanged epoch c .closed) =
      (lost epoch c s).scheduleReconnect p (reentry p) .failed s.retryEligible
        (s.currentOperation = .automaticReconnect) .unexpectedLoss := by
  let u := s.deliver (.connection .stateChanged epoch c)
  have hcur' : isCurrentConnection u.toSessionState epoch c = true := hcur
  have hconn : u.lifecycle = .connected := hs.connected
  have hopen : u.openImmediately = true := hs.opened
  have hsd : u.isShutdown = false := hs.notShutdown
  change u.onStateChanged p (reentry p) epoch c .closed = _
  unfold onStateChanged
  rw [if_neg (by simp [hcur', hsd])]
  dsimp only
  rw [if_neg (by simp), if_neg (by simp [hconn]), if_neg (by simp [hopen]),
    if_neg (by simp [hopen]), if_neg (by simp [hopen])]
  simp only [hconn, decide_true, if_true]
  rfl

/-- An established connection that is lost leaves a fresh budget if and only if it was not an
automatic reconnect that established it, and the session was eligible for a retry. -/
theorem loss_fresh_budget_iff {deviceId deviceName : WString} {es : List Event} {epoch : Nat}
    {c : NativeConnection}
    (hrun : (deviceSession p).Run (initial deviceId deviceName)
      (es ++ [.stateChanged epoch c .closed])) :
    let s := (deviceSession p).exec (initial deviceId deviceName) es
    Established s.toSessionState → isCurrentConnection s.toSessionState epoch c = true →
      p.schedule s.ledger.platformCalls = .timer →
      (FreshBudget ((deviceSession p).step s (.stateChanged epoch c .closed)) ↔
        s.currentOperation ≠ .automaticReconnect ∧ s.retryEligible = true) := by
  intro s hs hcur hsched
  have hbefore := ((deviceSession p).run_append.1 hrun).1
  have hcoh := (run_inv (inv_initial deviceId deviceName) hbefore).coherent
  have hfresh : FreshWhenConnected s.toSessionState :=
    run_preserves (I := fun s => FreshWhenConnected s.toSessionState)
      (fun _ _ _ hs h => h.freshWhenConnected hs) (fun _ _ _ hs h => h.freshWhenConnected hs)
      (inv_initial deviceId deviceName) (fun h => by cases h) hbefore
  obtain ⟨-, -, c', hc', -⟩ := isCurrentConnection_iff.1 hcur
  have hsome : s.connection.isSome := by simp [hc']
  have hzero : s.completedRetryAttempts = 0 := hfresh hs.connected hsome
  have hname : s.deviceId ≠ [] := fun h => absurd (hc'.symm.trans (hcoh.unnamed h).1) (by simp)
  have hmay : MayRetry (lost epoch c s).toSessionState :=
    ⟨hs.notShutdown, hs.notSuspended, hs.enabled, hs.notCancelled⟩
  have hwait (completedAttempt : Bool) {n : Nat} (hn : (if completedAttempt then 1 else 0) = n)
      (hlt : n < ReconnectPolicy.maxAttempts) :
      Retrying n ((lost epoch c s).scheduleReconnect p (reentry p) .failed true completedAttempt
        .unexpectedLoss).toSessionState := by
    refine scheduleReconnect_retrying hmay rfl (hcoh.notInFlight hsome) hname ?_ hlt hsched
    have hcount : (lost epoch c s).completedRetryAttempts = 0 := hzero
    rw [hcount, Nat.zero_add, hn]
  rw [step_closed hs hcur]
  constructor
  · intro hbudget
    cases heligible : s.retryEligible with
    | false =>
      obtain ⟨counted, hterminal⟩ := scheduleReconnect_terminal (p := p) (r := reentry p)
        (s := lost epoch c s) .failed false (s.currentOperation = .automaticReconnect)
        .unexpectedLoss (.inl rfl)
      rw [heligible, hterminal] at hbudget
      exact absurd hbudget.waits.waiting (failTerminally_notWaiting rfl)
    | true =>
      refine ⟨fun hauto => ?_, rfl⟩
      rw [heligible, decide_eq_true hauto] at hbudget
      have hone := (hwait true rfl (by decide)).attempts
      exact absurd (hbudget.waits.attempts.symm.trans hone) (by decide)
  · rintro ⟨hmanual, heligible⟩
    rw [heligible, decide_eq_false hmanual]
    exact (hwait false rfl (by decide)).freshBudget

/-- A connection is established and lost. -/
def firstLoss : List Event :=
  [.operation (.connect .manualConnect true), .started 1 ⟨0, 7⟩ .success,
    .opened 1 ⟨0, 7⟩ ⟨.success, false⟩]

/-- An automatic reconnect establishes the connection again. -/
def reestablished : List Event :=
  firstLoss ++ [.stateChanged 1 ⟨0, 7⟩ .closed, .retryTimer 2 2, .started 3 ⟨1, 7⟩ .success,
    .opened 3 ⟨1, 7⟩ ⟨.success, false⟩]

/-- The second loss leaves one attempt less. -/
theorem second_loss_counts :
    let s := (deviceSession obligingPlatform).exec (initial [65] []) reestablished
    (deviceSession obligingPlatform).Run (initial [65] [])
        (reestablished ++ [.stateChanged 3 ⟨1, 7⟩ .closed]) ∧
      Established s.toSessionState ∧ isCurrentConnection s.toSessionState 3 ⟨1, 7⟩ = true ∧
      ¬ FreshBudget ((deviceSession obligingPlatform).step s (.stateChanged 3 ⟨1, 7⟩ .closed)) := by
  refine ⟨by decide, ⟨⟨by decide, by decide, by decide, by decide⟩, by decide, by decide⟩,
    by decide, fun h => ?_⟩
  exact absurd h.waits.attempts (by decide)

theorem first_loss_fresh :
    FreshBudget ((deviceSession obligingPlatform).step
      ((deviceSession obligingPlatform).exec (initial [65] []) firstLoss)
      (.stateChanged 1 ⟨0, 7⟩ .closed)) := by
  have hrun : (deviceSession obligingPlatform).Run (initial [65] [])
      (firstLoss ++ [.stateChanged 1 ⟨0, 7⟩ .closed]) := by
    decide
  exact (loss_fresh_budget_iff hrun
    ⟨⟨by decide, by decide, by decide, by decide⟩, by decide, by decide⟩ (by decide) rfl).2
    ⟨by decide, by decide⟩

end Session

end PlaybackConnector
