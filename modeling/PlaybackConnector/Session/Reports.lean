import PlaybackConnector.Session.Steps
import PlaybackConnector.Transition.Reporter

/-!
# What a session's owner sees of it

The owner of a session sets two of its flags, and sees the rest through the facts that the session
publishes. No task but the one that sets a flag changes it (`step_flags`). Most tasks publish after
their last change, so that the latest fact tells the state they leave (`Told`); the exceptions are
an operation that enables or disables incoming connections while the session is in the way of
that (`ListensSilently`), and one that cancels an automatic reconnect which still has something to
close (`CancelsSilently`).
-/

namespace PlaybackConnector

/-! ## The flags of a session -/

/-- What no callback of a session changes. -/
structure SessionFlags where
  deviceId : WString
  isShutdown : Bool
  isReconnectEnabled : Bool
  isIncomingEnabled : Bool
deriving Repr, DecidableEq

/-- What an event makes of the flags of a session that is not shut down. -/
def Event.setFlags : Event → SessionFlags → SessionFlags
  | .operation (.setReconnectEnabled enabled), f => { f with isReconnectEnabled := enabled }
  | .operation (.setIncomingEnabled enabled), f => { f with isIncomingEnabled := enabled }
  | .operation .shutdown, f => { f with isShutdown := true }
  | _, f => f

namespace Session

/-- The flags of a session. -/
def flags (s : SessionState) : SessionFlags :=
  ⟨s.deviceId, s.isShutdown, s.isReconnectEnabled, s.isIncomingEnabled⟩

section
variable {p : Platform} {e : Event} {s t : Session}

theorem Move.flags (h : Move p e s t) : flags t.toSessionState = flags s.toSessionState := by
  cases h <;> simp [Session.flags]

theorem Head.flags (h : Head p s e t) (hsd : s.isShutdown = false) :
    flags t.toSessionState = e.setFlags (flags s.toSessionState) := by
  cases h
  case callback c hc => cases e <;> first | rfl | cases hc
  case nothing operation hp =>
    cases operation <;> first | rfl | simp_all [Passive]
  case disconnectIdle | disconnectClose =>
    cases ‹Disconnecting _ _ _ _› <;> simp [Event.setFlags, Session.flags]
  case cancelNothing | cancelIdle | cancelClose =>
    cases ‹Cancelling _ _ _› <;> simp [Event.setFlags, Session.flags]
  all_goals simp [Event.setFlags, Session.flags]

/-- A task changes no flag but the one that its operation sets. -/
theorem step_flags (hs : Inv s) (he : (deviceSession p).enabled s e) (hsd : s.isShutdown = false) :
    flags ((deviceSession p).step s e).toSessionState = e.setFlags (flags s.toSessionState) :=
  step_establishes (I := fun t => flags t.toSessionState = e.setFlags (flags s.toSessionState)) hs he
    (fun _ hu => hu.flags hsd) fun _ _ _ hm ht => hm.flags.trans ht

end

end Session

/-! ## What a session's task tells -/

/-- What of a session's snapshot its owner acts on. -/
structure SessionReport where
  deviceId : WString
  state : DeviceLifecycleState
  operationEpoch : Nat
  completedRetryAttempts : Nat
  isIncomingEnabled : Bool
  isReconnectEnabled : Bool
  isReconnectCancelled : Bool
deriving Repr, DecidableEq

/-- What the owner acts on. -/
def DeviceSessionSnapshot.report (snapshot : DeviceSessionSnapshot) : SessionReport :=
  ⟨snapshot.deviceId, snapshot.state, snapshot.operationEpoch, snapshot.completedRetryAttempts,
    snapshot.isIncomingEnabled, snapshot.isReconnectEnabled, snapshot.isReconnectCancelled⟩

/-- A session reports its snapshot with every fact. -/
def sessionReporter : Reporter Session (Option SessionReport) where
  live s := some (Session.snapshot s.toSessionState).report
  reported s := s.ledger.facts.head?.map fun fact => fact.snapshot.report
  count s := s.ledger.facts.length

/-- What a reentrant call does is published. -/
structure Reentry.Tells (r : Reentry) : Prop where
  startIncoming : ∀ s, sessionReporter.Told s (r.startIncoming s)
  continueAfterClose : ∀ epoch completedScheduledCooldown s,
    sessionReporter.Told s (r.continueAfterClose epoch completedScheduledCooldown s)

namespace Session

/-- The session `t` was published, after `s`. -/
abbrev Since (s t : Session) : Prop := sessionReporter.Since s t

/-- Whatever happened from `s` to `t` was published. -/
abbrev Told (s t : Session) : Prop := sessionReporter.Told s t

section
variable {p : Platform} {r : Reentry} {s t u : Session}

/-- A publication tells all that was done before it. -/
theorem since_publish (result terminal disconnectReason) :
    Since s (s.publish result terminal disconnectReason) :=
  ⟨Nat.lt_succ_self _, rfl⟩

theorem Since.silent (h : Since t u) (hfacts : t.ledger.facts = s.ledger.facts) : Since s u := by
  refine .of_grows (t := t) ?_ h
  change s.ledger.facts.length ≤ t.ledger.facts.length
  exact Nat.le_of_eq (congrArg List.length hfacts.symm)

/-- What changes no published field needs no publication. -/
theorem told_of_same (hlive : (snapshot t.toSessionState).report = (snapshot s.toSessionState).report)
    (h : t.ledger.facts = s.ledger.facts) : Told s t := by
  refine .inr ⟨congrArg some hlive, ?_, ?_⟩
  · change t.ledger.facts.head?.map _ = s.ledger.facts.head?.map _
    rw [h]
  · change t.ledger.facts.length = s.ledger.facts.length
    rw [h]

/-! ### Failures and retries -/

section
variable (hr : r.Tells)
include hr

theorem restoreIncomingListenerAfterTerminal_told :
    Told s (s.restoreIncomingListenerAfterTerminal r) := by
  unfold restoreIncomingListenerAfterTerminal
  split
  · exact .refl s
  · have hset : Told s { s with restoreIncomingAfterClose := false } := told_of_same rfl rfl
    dsimp only
    split
    · exact hset.trans (hr.startIncoming _)
    · exact hset

theorem failTerminally_since (result disconnectReason) :
    Since s (s.failTerminally r result disconnectReason) := by
  have hfail : Since s (s.enterFailed result disconnectReason) :=
    (since_publish _ _ _).silent rfl
  exact hfail.told (restoreIncomingListenerAfterTerminal_told hr)

theorem scheduleReconnect_since (result shouldRetry completedAttempt disconnectReason) :
    Since s (s.scheduleReconnect p r result shouldRetry completedAttempt disconnectReason) := by
  unfold scheduleReconnect
  split
  · exact failTerminally_since hr _ _
  dsimp only
  split
  · exact (failTerminally_since hr _ _).silent rfl
  split
  · exact (failTerminally_since hr _ _).silent rfl
  · exact (since_publish _ _ _).silent rfl

theorem scheduleTransientOpenRetry_told (epoch result completedScheduledCooldown) :
    Told s (s.scheduleTransientOpenRetry p r epoch result completedScheduledCooldown) := by
  unfold scheduleTransientOpenRetry
  split
  · exact .refl s
  dsimp only
  split
  · exact .inl ((failTerminally_since hr _ _).silent rfl)
  split
  · exact .inl ((failTerminally_since hr _ _).silent rfl)
  · exact .inl ((since_publish _ _ _).silent rfl)

end

/-! ### The close barrier -/

theorem failClose_since (result) : Since s (s.failClose result) := by
  have hfail : Since s (s.enterFailed result s.pendingCloseDisconnectReason) :=
    (since_publish _ _ _).silent rfl
  exact hfail.told (told_of_same rfl rfl)

/-- The timeout of a close can be scheduled. -/
def closeArmed (p : Platform) (s : Session) : Bool :=
  p.schedule s.ledger.platformCalls = .timer

theorem closeConnection_armed (h : closeArmed p s = true) :
    s.closeConnection p = (s.detach p).callClose := by
  have harmed : ¬ (s.detach p).closeBarrierTimer.isNone = true := by
    simp_all [closeArmed, scheduled]
  exact congrArg callClose (if_neg harmed)

theorem closeConnection_unarmed (h : closeArmed p s = false) :
    s.closeConnection p = ((s.detach p).failClose .failed).callClose := by
  have hunarmed : (s.detach p).closeBarrierTimer.isNone = true := by
    simp_all [closeArmed, scheduled]
  exact congrArg callClose (if_pos hunarmed)

theorem closeConnection_since (hun : closeArmed p s = false) : Since s (s.closeConnection p) := by
  rw [closeConnection_unarmed hun]
  have hfail : Since s ((s.detach p).failClose .failed) := (failClose_since _).silent rfl
  exact hfail.told (told_of_same rfl rfl)

theorem closeConnection_told : Told s (s.closeConnection p) := by
  cases harmed : closeArmed p s with
  | true =>
    rw [closeConnection_armed harmed]
    exact told_of_same rfl rfl
  | false => exact .inl (closeConnection_since harmed)

section
variable (hr : r.Tells)
include hr

theorem beginClose_told (epoch continuation failure shouldRetry completedAttempt
    disconnectReason) :
    Told s (s.beginClose p r epoch continuation failure shouldRetry completedAttempt
      disconnectReason) := by
  unfold beginClose
  split
  · exact .refl s
  have hassign : Told s (s.assignPendingClose continuation failure shouldRetry completedAttempt
      disconnectReason) := told_of_same rfl rfl
  dsimp only
  split
  · exact hassign
  split
  · exact hassign.trans (hr.continueAfterClose _ _ _)
  · exact hassign.trans closeConnection_told

/-! ### Creation -/

theorem completeFailure_told (epoch result isTransientOpenFailure) :
    Told s (s.completeFailure p r epoch result isTransientOpenFailure) := by
  unfold completeFailure
  split
  · exact .refl s
  have hrevoke : Told s s.revokeStateChanged := told_of_same rfl rfl
  dsimp only
  split
  · split
    · exact hrevoke.trans (scheduleTransientOpenRetry_told hr _ _ _)
    · exact .inl ((scheduleReconnect_since hr _ _ _ _).silent rfl)
  · have hdisc : Since s ((s.revokeStateChanged.enter .disconnecting).publish result false .none) :=
      (since_publish _ _ _).silent rfl
    exact .inl (hdisc.told (beginClose_told hr _ _ _ _ _ _))

theorem startCreated_told (epoch expectedConnection) :
    Told s (s.startCreated p r epoch expectedConnection) := by
  have hreg : Told s (s.registerStateChanged p epoch expectedConnection) := told_of_same rfl rfl
  unfold startCreated
  split
  · have hstart : Told s
        ((s.registerStateChanged p epoch expectedConnection).start p epoch expectedConnection) :=
      told_of_same rfl rfl
    dsimp only
    split
    · exact hstart
    · exact hstart.trans (completeFailure_told hr _ _ _)
  · exact hreg.trans (completeFailure_told hr _ _ _)

theorem finishCreate_told (epoch) : Told s (s.finishCreate p r epoch) := by
  unfold finishCreate
  split
  · exact completeFailure_told hr _ _ _
  · exact startCreated_told hr _ _

theorem create_since (epoch) : Since s ((s.createConnection p epoch).finishCreate p r epoch) := by
  have hcreate : Since s ((s.enter .connecting).publish .success false .none) :=
    (since_publish _ _ _).silent rfl
  have hmade : Since s (s.createConnection p epoch) := hcreate.told (told_of_same rfl rfl)
  exact hmade.told (finishCreate_told hr _)

theorem beginCreate_told (epoch) : Told s (s.beginCreate p r epoch) := by
  unfold beginCreate
  split
  · exact .refl s
  · exact .inl (create_since hr _)

/-- The end of a start, which the session's state allows. -/
theorem launch_since (hsd : s.isShutdown = false) (hsu : s.isSuspended = false) :
    Since s (s.launch p r) := by
  unfold launch
  split
  · have hreplace : Since s s.enterReplacing := (since_publish _ _ _).silent rfl
    exact hreplace.told (beginClose_told hr _ _ _ _ _ _)
  · unfold beginCreate
    rw [if_neg (by simp [hsd, hsu])]
    exact create_since hr _

/-- `StartConnection` returns at once. -/
def startRefused (s : SessionState) : Prop :=
  (s.isShutdown ∨ s.isSuspended ∨ s.deviceId = []) ∨
    s.isCloseInFlight ∨ s.lifecycle = .connecting ∨ s.lifecycle = .disconnecting

omit hr in
theorem startConnection_refused (h : startRefused s.toSessionState) (operation openImmediately) :
    s.startConnection p r operation openImmediately = s := by
  unfold startConnection
  split
  · rfl
  · rename_i hlive
    exact if_pos (h.resolve_left hlive)

theorem startConnection_since (hgo : ¬ startRefused s.toSessionState)
    (operation openImmediately) : Since s (s.startConnection p r operation openImmediately) := by
  obtain ⟨hlive, hfree⟩ := not_or.1 hgo
  unfold startConnection
  rw [if_neg hlive, if_neg hfree]
  have hlaunch : Since (s.prepareStart operation openImmediately)
      ((s.prepareStart operation openImmediately).launch p r) :=
    launch_since hr (by simp_all) (by simp_all)
  exact hlaunch.silent rfl

theorem startConnection_told (operation openImmediately) :
    Told s (s.startConnection p r operation openImmediately) := by
  by_cases hgo : startRefused s.toSessionState
  · rw [startConnection_refused hgo]
    exact .refl s
  · exact .inl (startConnection_since hr hgo _ _)

/-! ### The end of a close -/

theorem startAfterResume_told : Told s (s.startAfterResume p r) := by
  unfold startAfterResume
  split
  · have htake : Told s s.takeRequired := told_of_same rfl rfl
    exact htake.trans (startConnection_told hr _ _)
  split
  · exact startConnection_told hr _ _
  · exact .inl (since_publish _ _ _)

theorem completeSuspendClose_told (epoch) : Told s (s.completeSuspendClose p r epoch) := by
  unfold completeSuspendClose
  split
  · exact .refl s
  have hsettle : Since s s.settleSuspended := (since_publish _ _ _).silent rfl
  dsimp only
  split
  · exact .inl hsettle
  · have hend : Told s.settleSuspended s.settleSuspended.endSuspension := told_of_same rfl rfl
    exact .inl (hsettle.told (hend.trans (startAfterResume_told hr)))

theorem continueIdle_since (failure disconnectReason) :
    Since s (s.continueIdle p r failure disconnectReason) := by
  have hidle : Since s ((s.enter .idle).publish failure false disconnectReason) :=
    (since_publish _ _ _).silent rfl
  unfold continueIdle
  dsimp only
  split
  · refine hidle.told (.trans ?_ (startConnection_told hr _ _))
    exact told_of_same rfl rfl
  · exact hidle

theorem continueAfterClose_told (epoch completedScheduledCooldown) :
    Told s (s.continueAfterClose p r epoch completedScheduledCooldown) := by
  unfold continueAfterClose
  split
  · exact .refl s
  have hclear : Told s s.clearPendingClose := told_of_same rfl rfl
  dsimp only
  split
  · have hend : Since s s.clearPendingClose.endAbandonedClose :=
      (since_publish _ _ _).silent rfl
    exact .inl (hend.told (restoreIncomingListenerAfterTerminal_told hr))
  split
  · exact hclear.trans (beginCreate_told hr _)
  · exact .inl ((scheduleReconnect_since hr _ _ _ _).silent rfl)
  · exact hclear.trans (scheduleTransientOpenRetry_told hr _ _ _)
  · exact hclear.trans (completeSuspendClose_told hr _)
  · exact .inl ((continueIdle_since hr _ _).silent rfl)

end

/-- The cycle of the session's functions publishes what it does. -/
theorem reentry_tells : (reentry p).Tells := by
  have hbottom : Reentry.Tells ⟨id, fun _ _ => id⟩ := ⟨.refl, fun _ _ => .refl⟩
  have hstart (s : Session) : Told s ((reentry p).startIncoming s) :=
    startConnection_told hbottom _ _
  exact ⟨hstart, fun epoch completedScheduledCooldown s =>
    continueAfterClose_told (r := ⟨(reentry p).startIncoming, fun _ _ => id⟩)
      ⟨hstart, fun _ _ => .refl⟩ epoch completedScheduledCooldown⟩

/-! ### Callbacks -/

section
variable (hr : r.Tells)
include hr

theorem completeCloseCooldown_told (closeBarrierEpoch completedScheduledCooldown) :
    Told s (s.completeCloseCooldown p r closeBarrierEpoch completedScheduledCooldown) := by
  unfold completeCloseCooldown
  split
  · exact .refl s
  · have hend : Told s s.endCooldown := told_of_same rfl rfl
    exact hend.trans (continueAfterClose_told hr _ _)

theorem completeCloseBarrier_told (closeBarrierEpoch timedOut) :
    Told s (s.completeCloseBarrier p r closeBarrierEpoch timedOut) := by
  unfold completeCloseBarrier
  split
  · exact .refl s
  dsimp only
  split
  · exact .inl ((failClose_since _).silent rfl)
  have hcool : Told s (s.cancelCloseBarrierTimer.beginCooldown p closeBarrierEpoch) :=
    told_of_same rfl rfl
  split
  · exact hcool.trans (completeCloseCooldown_told hr _ _)
  · exact hcool

theorem onStarted_told (epoch expectedConnection result) :
    Told s (s.onStarted p r epoch expectedConnection result) := by
  unfold onStarted
  split
  · exact .refl s
  split
  · exact .refl s
  split
  · exact completeFailure_told hr _ _ _
  split
  · exact .inl ((since_publish _ _ _).silent rfl)
  have hopen (c : NativeConnection) : Told s (s.openConnection p epoch c) := told_of_same rfl rfl
  dsimp only
  split
  · exact hopen _
  · exact (hopen _).trans (completeFailure_told hr _ _ _)

omit hr in
theorem establish_since : Since s s.establish := (since_publish _ _ _).silent rfl

theorem onOpened_told (epoch expectedConnection openResult) :
    Told s (s.onOpened p r epoch expectedConnection openResult) := by
  unfold onOpened
  split
  · exact .refl s
  split
  · exact .refl s
  split
  · exact completeFailure_told hr _ _ _
  · exact .inl establish_since

theorem onStateChanged_told (epoch expectedConnection state) :
    Told s (s.onStateChanged p r epoch expectedConnection state) := by
  unfold onStateChanged
  split
  · exact .refl s
  dsimp only
  split
  · exact .inl (establish_since.silent rfl)
  split
  · exact .refl s
  split
  · exact .refl s
  split
  · split
    · exact .inl ((since_publish _ _ _).silent rfl)
    · exact .inl (scheduleReconnect_since hr _ _ _ _)
  split
  · have hidle : Since s ((s.dropConnection.enter .idle).publish .success false .none) :=
      (since_publish _ _ _).silent rfl
    exact .inl (hidle.told (startConnection_told hr _ _))
  · exact .inl ((scheduleReconnect_since hr _ _ _ _).silent rfl)

theorem onFailurePosted_told (epoch expectedConnection) :
    Told s (s.onFailurePosted p r epoch expectedConnection) := by
  unfold onFailurePosted
  split
  · exact completeFailure_told hr _ _ _
  · exact .refl s

omit hr in
theorem clearTimer_told : Told s { s with reconnectTimer := none } := told_of_same rfl rfl

theorem onRetryTimer_told (timerEpoch operationEpoch) :
    Told s (s.onRetryTimer p r timerEpoch operationEpoch) := by
  unfold onRetryTimer
  split
  · exact .refl s
  · exact clearTimer_told.trans (startConnection_told hr _ _)

theorem onTransientOpenRetryTimer_told (timerEpoch operationEpoch) :
    Told s (s.onTransientOpenRetryTimer p r timerEpoch operationEpoch) := by
  unfold onTransientOpenRetryTimer
  split
  · exact .refl s
  · exact clearTimer_told.trans (beginCreate_told hr _)

/-! ### Operations -/

omit hr in
theorem rename_told (deviceName) : Told s (s.rename deviceName) := by
  unfold rename
  split
  · exact .refl s
  · exact .inl ((since_publish _ _ _).silent rfl)

theorem removeDevice_since : Since s (s.removeDevice p r) := by
  unfold removeDevice
  dsimp only
  split
  · exact since_publish _ _ _
  split
  · refine Reporter.Since.told ?_ (beginClose_told hr _ _ _ _ _ _)
    exact (since_publish _ _ _).silent rfl
  split
  · refine Reporter.Since.told ?_ (beginClose_told hr _ _ _ _ _ _)
    exact (since_publish _ _ _).silent rfl
  split
  · exact (scheduleReconnect_since hr _ _ _ _).silent rfl
  · refine Reporter.Since.told ?_ (beginClose_told hr _ _ _ _ _ _)
    exact (since_publish _ _ _).silent rfl

theorem handleDeviceRemoved_told : Told s (s.handleDeviceRemoved p r) := by
  unfold handleDeviceRemoved
  split
  · exact .refl s
  · exact .inl ((removeDevice_since hr).silent rfl)

theorem supersedePowerTransitionRecovery_told (operation openImmediately) :
    Told s (s.supersedePowerTransitionRecovery p r operation openImmediately) := by
  have hrelease : Told s s.releaseHold := told_of_same rfl rfl
  unfold supersedePowerTransitionRecovery
  dsimp only
  split
  · exact hrelease.trans (startConnection_told hr _ _)
  split
  · exact hrelease
  · have henter : Since s (s.releaseHold.enterSuperseding operation openImmediately) :=
      (since_publish _ _ _).silent rfl
    exact .inl (henter.told (beginClose_told hr _ _ _ _ _ _))

theorem connect_told (operation openImmediately) :
    Told s (s.connect p r operation openImmediately) := by
  unfold connect
  split
  · exact .refl s
  split
  · exact supersedePowerTransitionRecovery_told hr _ _
  · exact startConnection_told hr _ _

theorem disconnect_since (hgo : acceptsDisconnect s.toSessionState = true) (restoreIncoming) :
    Since s (s.disconnect p r restoreIncoming) := by
  unfold disconnect
  obtain ⟨hsd, hfree⟩ : s.isShutdown = false ∧
      (s.isCloseInFlight = true → s.isCloseContinuationAbandoned = false) := by
    simpa [acceptsDisconnect, imp_iff_not_or] using hgo
  rw [if_neg (by simp [hsd]), if_neg (by simpa using hfree)]
  dsimp only
  split
  · have hidle : Since s (((s.prepareDisconnect restoreIncoming).enter .idle).publish .success
        false .normal) := (since_publish _ _ _).silent rfl
    split
    · refine hidle.told (.trans ?_ (startConnection_told hr _ _))
      exact told_of_same rfl rfl
    · exact hidle
  · refine Reporter.Since.told ?_ (beginClose_told hr _ _ _ _ _ _)
    exact (since_publish _ _ _).silent rfl

theorem disconnect_told (restoreIncoming) : Told s (s.disconnect p r restoreIncoming) := by
  cases hgo : acceptsDisconnect s.toSessionState with
  | true => exact .inl (disconnect_since hr hgo _)
  | false =>
    rw [disconnect_refused hgo]
    exact .refl s

/-- `CancelAutomaticReconnect` changes the session, and neither it nor the close that it begins
publishes that. -/
def CancelsSilently (p : Platform) (s : Session) : Prop :=
  cancelsActiveReconnect s.toSessionState = true ∧
    (s.isCloseInFlight = true ∨ s.connection.isSome = true ∧ closeArmed p s = true)

omit hr in
theorem beginClose_connected (hnf : s.isCloseInFlight = false) (hc : s.connection.isSome = true)
    (epoch continuation failure shouldRetry completedAttempt disconnectReason) :
    s.beginClose p r epoch continuation failure shouldRetry completedAttempt disconnectReason =
      (s.assignPendingClose continuation failure shouldRetry completedAttempt
        disconnectReason).closeConnection p := by
  have hsome : ¬ s.connection.isNone = true := by simpa [Option.isSome_iff_ne_none] using hc
  unfold beginClose
  rw [if_neg (by simp [hnf])]
  dsimp only
  rw [if_neg (by simp [hnf]), if_neg (by exact hsome)]

theorem cancelActive_since (h : ¬ CancelsSilently p s) (restoreIncoming) :
    Since s (s.cancelActive p r restoreIncoming) := by
  unfold cancelActive
  split
  · exact since_publish _ _ _
  rename_i hactive
  dsimp only
  split
  · rename_i hbusy
    have hnf : s.isCloseInFlight = false := by simp_all [CancelsSilently]
    have hc : s.connection.isSome = true := by simpa [hnf] using hbusy
    have hun : closeArmed p s = false := by simp_all [CancelsSilently]
    rw [beginClose_connected (by exact hnf) (by exact hc)]
    exact (closeConnection_since (by exact hun)).silent rfl
  · have hidle : Since s ((s.nextEpoch.enter .idle).publish .cancelled false .none) :=
      (since_publish _ _ _).silent rfl
    split
    · exact hidle.told (startConnection_told hr _ _)
    · exact hidle

theorem cancelReconnect_since (hsd : s.isShutdown = false) (h : ¬ CancelsSilently p s) :
    Since s (s.cancelReconnect p r) := by
  unfold cancelReconnect
  rw [if_neg (by simp [hsd])]
  exact (cancelActive_since hr (by exact h) _).silent rfl

theorem setReconnectEnabled_since {enabled : Bool} (hsd : s.isShutdown = false)
    (h : enabled = false → ¬ CancelsSilently p s) :
    Since s (s.setReconnectEnabled p r enabled) := by
  unfold setReconnectEnabled
  rw [if_neg (by simp [hsd])]
  dsimp only
  split
  · rename_i hcancel
    exact (cancelActive_since hr (by exact h (by simpa using hcancel.1)) _).silent rfl
  · exact (since_publish _ _ _).silent rfl

/-- `SetIncomingEnabled` changes the flag, and what it calls then refuses to do anything. -/
def ListensSilently (s : SessionState) : Bool → Prop
  | true => s.connection = none ∧ s.isSuspended = false ∧
      (s.isCloseInFlight = true ∨ s.lifecycle = .connecting ∨ s.lifecycle = .disconnecting)
  | false => s.openImmediately = false ∧ s.isCloseInFlight = true ∧
      s.isCloseContinuationAbandoned = true

theorem setIncomingEnabled_since {enabled : Bool} (hsd : s.isShutdown = false)
    (hname : s.deviceId ≠ []) (h : ¬ ListensSilently s.toSessionState enabled) :
    Since s (s.setIncomingEnabled p r enabled) := by
  unfold setIncomingEnabled
  rw [if_neg (by simp [hsd])]
  dsimp only
  cases enabled with
  | false =>
    split
    · rename_i hlistens
      refine (disconnect_since hr ?_ _).silent rfl
      have hnot : s.isCloseInFlight = true → s.isCloseContinuationAbandoned = false := by
        simp_all [ListensSilently]
      simpa [acceptsDisconnect, hsd, imp_iff_not_or] using hnot
    split
    · simp_all
    · exact (since_publish _ _ _).silent rfl
  | true =>
    split
    · simp_all
    split
    · rename_i hfree
      refine (startConnection_since hr ?_ _ _).silent rfl
      simp_all [startRefused, ListensSilently]
    · exact (since_publish _ _ _).silent rfl

theorem resume_told : Told s (s.resume p r) := by
  unfold resume
  split
  · exact .refl s
  split
  · exact told_of_same rfl rfl
  · have hfree : Told s s.unsuspend := told_of_same rfl rfl
    exact hfree.trans (startAfterResume_told hr)

omit hr in
theorem resumeIdleAfterPowerTransition_told : Told s s.resumeIdleAfterPowerTransition := by
  unfold resumeIdleAfterPowerTransition
  split
  · exact .refl s
  · exact .inl ((since_publish _ _ _).silent rfl)

omit hr in
theorem cancelPowerTransitionRecovery_told : Told s s.cancelPowerTransitionRecovery := by
  unfold cancelPowerTransitionRecovery
  split
  · exact .refl s
  · exact .inl ((since_publish _ _ _).silent rfl)

end

end

end Session

end PlaybackConnector
