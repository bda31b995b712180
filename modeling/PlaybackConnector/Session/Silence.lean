import PlaybackConnector.Session.Reports

/-!
# Operations that may stay unpublished

The tasks of a session all publish what they do (`step_told`), but for `Suspend` and `Shutdown`,
whose owner publishes, and for the three operations that can be silent: `CancelReconnect`,
`SetReconnectEnabled` and `SetIncomingEnabled`. A settings policy may call the latter two, one after
the other; what the second finds when the first has cancelled an automatic reconnect decides whether
that is published (`cancelThenListen`).
-/

namespace PlaybackConnector

/-- A session publishes what the event makes it do. -/
def Event.tells : Event → Bool
  | .operation .suspend | .operation .shutdown | .operation .cancelReconnect
  | .operation (.setReconnectEnabled _) | .operation (.setIncomingEnabled _) => false
  | _ => true

namespace Session

variable {p : Platform} {e : Event} {s t u : Session}

theorem delivered_told : Told s (s.delivered e) := by
  unfold delivered
  split
  · exact .refl s
  · exact told_of_same rfl rfl

theorem step_told (h : e.tells = true) : Told s ((deviceSession p).step s e) := by
  have hr : (reentry p).Tells := reentry_tells
  refine (delivered_told (e := e)).trans ?_
  cases e with
  | operation operation =>
    cases operation with
    | connect operation openImmediately => exact connect_told hr _ _
    | disconnect restoreIncoming => exact disconnect_told hr _
    | handleDeviceRemoved => exact handleDeviceRemoved_told hr
    | resume => exact resume_told hr
    | resumeIdleAfterPowerTransition => exact resumeIdleAfterPowerTransition_told
    | cancelPowerTransitionRecovery => exact cancelPowerTransitionRecovery_told
    | rename deviceName => exact rename_told _
    | _ => cases h
  | started => exact onStarted_told hr _ _ _
  | opened => exact onOpened_told hr _ _ _
  | stateChanged => exact onStateChanged_told hr _ _ _
  | failurePosted => exact onFailurePosted_told hr _ _
  | closeBarrier => exact completeCloseBarrier_told hr _ _
  | closeCooldown => exact completeCloseCooldown_told hr _ _
  | retryTimer => exact onRetryTimer_told hr _ _
  | transientOpenRetryTimer => exact onTransientOpenRetryTimer_told hr _ _

/-- What tells changes no flag. -/
theorem setFlags_of_tells (h : e.tells = true) (f : SessionFlags) : e.setFlags f = f := by
  cases e with
  | operation operation => cases operation <;> first | rfl | cases h
  | _ => rfl

/-- A listener that is enabled already is told to listen. -/
theorem listen_told {r : Reentry} (hr : r.Tells) (h : s.isIncomingEnabled = true) :
    Told s (s.setIncomingEnabled p r true) := by
  have hset : Told s { s with isIncomingEnabled := true } := by
    refine told_of_same ?_ rfl
    simp [DeviceSessionSnapshot.report, snapshot, h]
  unfold setIncomingEnabled
  split
  · exact .refl s
  dsimp only
  rw [if_neg (by simp)]
  split
  · exact hset.trans (startConnection_told hr _ _)
  · exact hset.trans (.inl (since_publish _ _ _))

theorem step_cancelReconnect_since (hsd : s.isShutdown = false) (h : ¬ CancelsSilently p s) :
    Since s ((deviceSession p).step s (.operation .cancelReconnect)) :=
  cancelReconnect_since reentry_tells hsd h

theorem step_setReconnectEnabled_since {enabled : Bool} (hsd : s.isShutdown = false)
    (h : enabled = false → ¬ CancelsSilently p s) :
    Since s ((deviceSession p).step s (.operation (.setReconnectEnabled enabled))) :=
  setReconnectEnabled_since reentry_tells hsd h

theorem step_setIncomingEnabled_since {enabled : Bool} (hsd : s.isShutdown = false)
    (hname : s.deviceId ≠ []) (h : ¬ ListensSilently s.toSessionState enabled) :
    Since s ((deviceSession p).step s (.operation (.setIncomingEnabled enabled))) :=
  setIncomingEnabled_since reentry_tells hsd hname h

/-! ## A cancellation, and then the listener -/

theorem closeConnection_fields : (s.closeConnection p).isCloseInFlight = true ∧
    (s.closeConnection p).connection = none ∧
    (s.closeConnection p).isSuspended = s.isSuspended ∧
    (s.closeConnection p).openImmediately = s.openImmediately ∧
    (s.closeConnection p).isShutdown = s.isShutdown ∧
    (s.closeConnection p).isCloseContinuationAbandoned =
      (s.isCloseContinuationAbandoned || !closeArmed p s) := by
  cases harmed : closeArmed p s with
  | true =>
    rw [closeConnection_armed harmed]
    simp
  | false =>
    rw [closeConnection_unarmed harmed]
    simp

/-- A failure of a connection closes it, and the close is abandoned when its timeout cannot be
scheduled. -/
theorem completeFailure_abandoned {r : Reentry} {epoch : Nat} {result : DeviceConnectionResult}
    {isTransientOpenFailure : Bool} (hcur : isCurrent s.toSessionState epoch = true)
    (hc : s.connection.isSome = true) (hnf : s.isCloseInFlight = false)
    (h : (s.completeFailure p r epoch result isTransientOpenFailure).isCloseContinuationAbandoned =
      true) : closeArmed p s = false := by
  have hsome : ¬ (s.revokeStateChanged.connection.isNone = true) := by
    simpa [Option.isSome_iff_ne_none] using hc
  unfold completeFailure at h
  rw [if_neg (by simp [hcur])] at h
  dsimp only at h
  rw [if_neg (by exact hsome), beginClose_connected (by exact hnf) (by exact hc)] at h
  obtain ⟨-, -, -, -, -, habandoned⟩ := closeConnection_fields (p := p)
    (s := (((s.revokeStateChanged.enter .disconnecting).publish result false
      .none).assignPendingClose (if isTransientOpenFailure && s.openImmediately then
        .transientOpenRetry else .retry) result s.retryEligible
        (s.currentOperation = .automaticReconnect) .none))
  have hab := habandoned.symm.trans h
  simpa [closeArmed] using hab

theorem failTerminally_abandoned {r : Reentry} {result : DeviceConnectionResult}
    {disconnectReason : DeviceDisconnectReason} (h : s.openImmediately = false) :
    (s.failTerminally r result disconnectReason).isCloseContinuationAbandoned =
      s.isCloseContinuationAbandoned := by
  unfold failTerminally restoreIncomingListenerAfterTerminal
  split
  · rfl
  · dsimp only
    rw [if_neg (by simp [h])]
    rfl

/-- A listener is created, its connection fails at once, and the timeout of the close cannot be
scheduled. -/
def RestartFails (p : Platform) (s : SessionState) (platformCalls : Nat) : Prop :=
  s.isSuspended = false ∧ (∃ address, p.create platformCalls = .connection address) ∧
    if (p.registerStateChanged (platformCalls + 1)).any (· ≠ 0) then
      p.start (platformCalls + 2) = false ∧ p.schedule (platformCalls + 3) ≠ .timer
    else p.schedule (platformCalls + 2) ≠ .timer

theorem registers_iff : s.registers p =
    (p.registerStateChanged s.ledger.platformCalls).any (· ≠ 0) := by
  unfold registers
  cases p.registerStateChanged s.ledger.platformCalls <;> rfl

/-- The creation of a listener leaves an abandoned close only if all of it fails. -/
theorem createListener_abandoned {r : Reentry} (hsd : s.isShutdown = false)
    (hsu : s.isSuspended = false) (hnf : s.isCloseInFlight = false)
    (hab : s.isCloseContinuationAbandoned = false) (hlisten : s.openImmediately = false)
    (heligible : s.retryEligible = false)
    (h : (((s.createConnection p s.operationEpoch).finishCreate p r
      s.operationEpoch)).isCloseContinuationAbandoned = true) :
    RestartFails p s.toSessionState s.ledger.platformCalls := by
  have hcur : isCurrent (s.createConnection p s.operationEpoch).toSessionState s.operationEpoch =
      true := by simp [hsd]
  unfold finishCreate at h
  split at h
  · rename_i hnone
    unfold completeFailure at h
    rw [if_neg (by simp [hsd])] at h
    dsimp only at h
    rw [if_pos (by exact congrArg Option.isNone hnone), if_neg (by simp)] at h
    unfold scheduleReconnect at h
    rw [if_pos (by simp [heligible]), failTerminally_abandoned (by exact hlisten)] at h
    simp [hab] at h
  · rename_i c hsome
    refine ⟨hsu, ?_, ?_⟩
    · have hmade : s.createdConnection p = some c := hsome
      unfold createdConnection at hmade
      split at hmade
      · rename_i address haddress
        exact ⟨address, haddress⟩
      all_goals cases hmade
    · unfold startCreated at h
      rw [registers_iff] at h
      have hcalls : (s.createConnection p s.operationEpoch).ledger.platformCalls =
          s.ledger.platformCalls + 1 := rfl
      rw [hcalls] at h
      split at h
      · rename_i hreg
        rw [if_pos hreg]
        dsimp only at h
        split at h
        · simp [hab] at h
        · rename_i hstart
          have hun := completeFailure_abandoned (by exact hcur)
            (by exact congrArg Option.isSome hsome) (by exact hnf) h
          exact ⟨by simpa using hstart, by simpa [closeArmed] using hun⟩
      · rename_i hreg
        rw [if_neg hreg]
        have hun := completeFailure_abandoned (by exact hcur)
          (by exact congrArg Option.isSome hsome) (by exact hnf) h
        simpa [closeArmed] using hun

/-- `SetReconnectEnabled` cancels an automatic reconnect, and `SetIncomingEnabled`, which is called
right after it, publishes nothing. -/
def CancelsThenListensSilently (p : Platform) (s : Session) : Bool → Prop
  | true => s.isSuspended = false ∧ (s.isCloseInFlight = true ∨ s.connection.isSome = true)
  | false =>
    s.openImmediately = false ∧
        (s.isCloseInFlight = true ∧ s.isCloseContinuationAbandoned = true ∨
          s.connection.isSome = true ∧ closeArmed p s = false) ∨
      s.connection = none ∧ s.isCloseInFlight = false ∧
        RestartFails p s.toSessionState s.ledger.platformCalls

section
variable {r : Reentry}

theorem cancelActive_busy (hactive : cancelsActiveReconnect s.toSessionState = true)
    (hbusy : s.connection.isSome = true ∨ s.isCloseInFlight = true) (restoreIncoming : Bool) :
    s.cancelActive p r restoreIncoming =
      { s.nextEpoch.enter .disconnecting with
        restoreIncomingAfterClose := restoreIncoming && s.isIncomingEnabled }.revokeStateChanged.beginClose
          p r (s.operationEpoch + 1) .idle .cancelled false false .none := by
  unfold cancelActive
  rw [if_neg (by simp [hactive])]
  exact if_pos hbusy

theorem cancelActive_free (hactive : cancelsActiveReconnect s.toSessionState = true)
    (hc : s.connection = none) (hnf : s.isCloseInFlight = false) (restoreIncoming : Bool) :
    s.cancelActive p r restoreIncoming =
      if restoreIncoming ∧ s.isIncomingEnabled then
        ((s.nextEpoch.enter .idle).publish .cancelled false .none).startConnection p r
          .incomingEnable false
      else (s.nextEpoch.enter .idle).publish .cancelled false .none := by
  unfold cancelActive
  rw [if_neg (by simp [hactive])]
  exact if_neg (by simp [hc, hnf])

/-- What `SetIncomingEnabled` finds when the cancellation has begun, or found, a close. -/
theorem cancelActive_busy_listens (hs : Coherent s.toSessionState) {enabled : Bool}
    (hactive : cancelsActiveReconnect s.toSessionState = true)
    (hbusy : s.connection.isSome = true ∨ s.isCloseInFlight = true)
    (h : ¬ CancelsThenListensSilently p s enabled) (restoreIncoming : Bool) :
    ¬ ListensSilently (s.cancelActive p r restoreIncoming).toSessionState enabled := by
  rw [cancelActive_busy hactive hbusy]
  cases hnf : s.isCloseInFlight with
  | true =>
    have hc := hs.inFlight hnf
    unfold beginClose
    cases hab : s.isCloseContinuationAbandoned with
    | true =>
      rw [if_pos (by simp [hnf, hab])]
      cases enabled <;> simp_all [ListensSilently, CancelsThenListensSilently]
    | false =>
      rw [if_neg (by simp [hab])]
      dsimp only
      rw [if_pos (by simpa using hnf)]
      cases enabled <;> simp_all [ListensSilently, CancelsThenListensSilently]
  | false =>
    have hc : s.connection.isSome = true := by simpa [hnf] using hbusy
    rw [beginClose_connected (by exact hnf) (by exact hc)]
    obtain ⟨-, -, hsu, hopen, -, hab⟩ := closeConnection_fields (p := p)
      (s := { s.nextEpoch.enter .disconnecting with
        restoreIncomingAfterClose :=
          restoreIncoming && s.isIncomingEnabled }.revokeStateChanged.assignPendingClose .idle
            .cancelled false false .none)
    cases enabled with
    | true =>
      rintro ⟨-, hfree, -⟩
      exact h ⟨hsu.symm.trans hfree, .inr hc⟩
    | false =>
      rintro ⟨hlisten, -, habandoned⟩
      have hun : (false || !closeArmed p s) = true := hab.symm.trans habandoned
      exact h (.inl ⟨hopen.symm.trans hlisten, .inr ⟨hc, by simpa using hun⟩⟩)

/-- What `SetIncomingEnabled` finds when there was nothing to close. -/
theorem cancelActive_free_listens (hs : Coherent s.toSessionState) {enabled : Bool}
    (hsd : s.isShutdown = false) (hactive : cancelsActiveReconnect s.toSessionState = true)
    (hc : s.connection = none) (hnf : s.isCloseInFlight = false)
    (hin : s.isIncomingEnabled = !enabled) (h : ¬ CancelsThenListensSilently p s enabled) :
    ¬ ListensSilently (s.cancelActive p r s.isIncomingEnabled).toSessionState enabled := by
  rw [cancelActive_free hactive hc hnf]
  cases enabled with
  | true =>
    rw [if_neg (by simp [hin])]
    rintro ⟨-, -, hbusy⟩
    simp [hnf] at hbusy
  | false =>
    rw [if_pos (by simp [hin])]
    have hab : s.isCloseContinuationAbandoned = false := by
      cases hab : s.isCloseContinuationAbandoned with
      | false => rfl
      | true => exact absurd (hnf.symm.trans (hs.abandoned hab).2) (by simp)
    rintro ⟨-, -, habandoned⟩
    unfold startConnection at habandoned
    split at habandoned
    · simp [hab] at habandoned
    rename_i hgo
    split at habandoned
    · simp [hab] at habandoned
    have hsu : s.isSuspended = false := by simp_all
    unfold launch at habandoned
    rw [if_neg (by simp [hc])] at habandoned
    unfold beginCreate at habandoned
    rw [if_neg (by simp [hsd, hsu])] at habandoned
    have hfails := createListener_abandoned
      (s := ((s.nextEpoch.enter .idle).publish .cancelled false .none).prepareStart .incomingEnable
        false) hsd hsu hnf hab rfl rfl habandoned
    exact h (.inr ⟨hc, hnf, hfails⟩)

/-- What `SetIncomingEnabled` finds when `SetReconnectEnabled` has cancelled an automatic reconnect,
in a session whose listener it changes. -/
theorem cancelThenListen (hs : Inv s) {enabled : Bool} (hsd : s.isShutdown = false)
    (hactive : cancelsActiveReconnect s.toSessionState = true)
    (hin : s.isIncomingEnabled = !enabled) (h : ¬ CancelsThenListensSilently p s enabled) :
    ¬ ListensSilently ((deviceSession p).step s
      (.operation (.setReconnectEnabled false))).toSessionState enabled := by
  have hcancel : (deviceSession p).step s (.operation (.setReconnectEnabled false)) =
      { s with isReconnectEnabled := false }.prepareCancel.cancelActive p (reentry p)
        s.isIncomingEnabled := by
    change s.setReconnectEnabled p (reentry p) false = _
    unfold setReconnectEnabled
    rw [if_neg (by simp [hsd])]
    exact if_pos ⟨rfl, hactive⟩
  rw [hcancel]
  have hcoh : Coherent { s with isReconnectEnabled := false }.prepareCancel.toSessionState := by
    obtain ⟨h1, h2, h3, h4, h5, h6, h7, h8, h9, h10, h11, h12, h13, h14⟩ := hs.coherent
    exact ⟨h1, h2, h3, h4, h5, h6, h7, h8, h9, h10, h11, h12,
      fun hid => ⟨(h13 hid).1, (h13 hid).2.1, rfl, (h13 hid).2.2.2⟩, h14⟩
  by_cases hbusy : s.connection.isSome = true ∨ s.isCloseInFlight = true
  · exact cancelActive_busy_listens hcoh hactive hbusy (by exact h) _
  · obtain ⟨hc, hnf⟩ : s.connection = none ∧ s.isCloseInFlight = false := by simpa using hbusy
    exact cancelActive_free_listens hcoh hsd hactive hc hnf hin (by exact h)

/-- Where `SetReconnectEnabled` cancels nothing, it leaves the listener as it is. -/
theorem inactiveThenListen {enabled enabled' : Bool} (hsd : s.isShutdown = false)
    (hactive : enabled = false → cancelsActiveReconnect s.toSessionState = false)
    (h : ¬ ListensSilently s.toSessionState enabled') :
    ¬ ListensSilently ((deviceSession p).step s
      (.operation (.setReconnectEnabled enabled))).toSessionState enabled' := by
  have hset : (deviceSession p).step s (.operation (.setReconnectEnabled enabled)) =
      { s with isReconnectEnabled := enabled }.publish .success false .none := by
    change s.setReconnectEnabled p (reentry p) enabled = _
    unfold setReconnectEnabled
    rw [if_neg (by simp [hsd])]
    refine if_neg fun hcancel => ?_
    have hinactive := hactive (by simpa using hcancel.1)
    exact absurd (hinactive.symm.trans hcancel.2) (by simp)
  rw [hset]
  cases enabled' <;> exact h

/-- A cancellation that stays unpublished leaves a session that can be disconnected, unless its
close was abandoned before. -/
theorem cancelActive_accepts (hsd : s.isShutdown = false) (hsilent : CancelsSilently p s)
    (h : ¬ (s.isCloseInFlight = true ∧ s.isCloseContinuationAbandoned = true))
    (restoreIncoming : Bool) :
    acceptsDisconnect (s.cancelActive p r restoreIncoming).toSessionState = true := by
  obtain ⟨hactive, hbusy⟩ := hsilent
  rw [cancelActive_busy hactive (hbusy.symm.imp And.left id)]
  cases hnf : s.isCloseInFlight with
  | true =>
    have hab : s.isCloseContinuationAbandoned = false := by simpa [hnf] using h
    unfold beginClose
    rw [if_neg (by simp [hab])]
    dsimp only
    rw [if_pos (by simp [hnf])]
    simp [acceptsDisconnect, hsd]
  | false =>
    obtain ⟨hc, harmed⟩ : s.connection.isSome = true ∧ closeArmed p s = true := by
      simpa [hnf] using hbusy
    rw [beginClose_connected (by exact hnf) (by exact hc)]
    obtain ⟨-, -, -, -, hlive, hab⟩ := closeConnection_fields (p := p)
      (s := { s.nextEpoch.enter .disconnecting with
        restoreIncomingAfterClose :=
          restoreIncoming && s.isIncomingEnabled }.revokeStateChanged.assignPendingClose .idle
            .cancelled false false .none)
    have hopen : (false || !closeArmed p s) = false := by simp [harmed]
    simp only [acceptsDisconnect, Bool.and_eq_true, Bool.not_eq_true', Bool.and_eq_false_iff]
    exact ⟨hlive.trans hsd, .inr (hab.trans hopen)⟩

theorem cancelReconnect_accepts (hsd : s.isShutdown = false) (hsilent : CancelsSilently p s)
    (h : ¬ (s.isCloseInFlight = true ∧ s.isCloseContinuationAbandoned = true)) :
    acceptsDisconnect ((deviceSession p).step s (.operation .cancelReconnect)).toSessionState =
      true := by
  have hcancel : (deviceSession p).step s (.operation .cancelReconnect) =
      { s with isReconnectCancelled := true }.prepareCancel.cancelActive p (reentry p)
        s.isIncomingEnabled := by
    change s.cancelReconnect p (reentry p) = _
    unfold cancelReconnect
    exact if_neg (by simp [hsd])
  rw [hcancel]
  exact cancelActive_accepts (s := { s with isReconnectCancelled := true }.prepareCancel) hsd
    hsilent h _

theorem step_disconnect_since (h : acceptsDisconnect s.toSessionState = true)
    (restoreIncoming : Bool) :
    Since s ((deviceSession p).step s (.operation (.disconnect restoreIncoming))) :=
  disconnect_since reentry_tells h _

end

end Session

end PlaybackConnector
