import PlaybackConnector.Session.Disconnect
import PlaybackConnector.Session.Pursuit
import PlaybackConnector.Session.Reports

/-!
# What a connect that a user asks for joins

A manual `Connect` starts a connection, replaces the one that there is, supersedes the recovery of
a suspension, or finds an operation under way and does nothing. `step_connect_joined` says where it
leaves the session, which is why the service needs to know of a refused start only whether the
epoch is still the same: a session that refuses one is on its way already, or its close was given
up. The exception is a session that starts a listener.
-/

namespace PlaybackConnector

namespace Session

variable {p : Platform} {r : Reentry} {e : Event} {s t u : Session} {epoch : Nat}

/-! ## Closes and suspensions -/

/-- A close in flight is shown, and the close of a suspension is that of its epoch. -/
structure ClosesShown (s : SessionState) : Prop where
  closing : s.isCloseInFlight = true → s.lifecycle = .disconnecting ∨ s.lifecycle = .failed
  suspending : s.isSuspended = true → s.isCloseInFlight = true →
    s.pendingCloseContinuation = .suspend →
      s.isSuspendClosePending = true ∧ s.suspendCloseEpoch = s.operationEpoch

theorem Move.closesShown (hs : Inv s) (h : Move p e s t) (hc : ClosesShown s.toSessionState) :
    ClosesShown t.toSessionState := by
  obtain ⟨c1, c2, c3, c4, c5, c6, c7, c8, c9, c10, c11, c12, c13, c14⟩ := hs.coherent
  obtain ⟨h1, h2⟩ := hc
  cases h
  all_goals
    constructor <;> (try dsimp) <;> first | assumption | grind -linarith

theorem Head.closesShown (hs : Inv s) (h : Head p s e t) (hc : ClosesShown s.toSessionState) :
    ClosesShown t.toSessionState := by
  obtain ⟨c1, c2, c3, c4, c5, c6, c7, c8, c9, c10, c11, c12, c13, c14⟩ := hs.coherent
  obtain ⟨h1, h2⟩ := hc
  cases h
  case disconnectIdle | disconnectClose =>
    cases ‹Disconnecting _ _ _ _› <;> constructor <;> dsimp <;> grind -linarith
  case cancelNothing | cancelIdle | cancelClose =>
    cases ‹Cancelling _ _ _› <;> constructor <;> dsimp <;> grind -linarith
  all_goals
    constructor <;> (try dsimp) <;> first | assumption | grind -linarith

/-- A suspended session does not wait for a close that is over. -/
def SuspensionRests (s : SessionState) : Prop :=
  s.isSuspended = true → s.lifecycle = .disconnecting → s.isCloseInFlight = true

theorem Move.suspensionRests (hs : Inv s) (hend : endsClose e = false) (h : Move p e s t)
    (hr : SuspensionRests s.toSessionState) : SuspensionRests t.toSessionState := by
  obtain ⟨c1, c2, c3, c4, c5, c6, c7, c8, c9, c10, c11, c12, c13, c14⟩ := hs.coherent
  unfold SuspensionRests at *
  cases h
  all_goals
    try dsimp
    first | assumption | grind -linarith [endsClose, Confirms]

theorem Head.suspensionRests (hs : Inv s) (h : Head p s e t)
    (hr : SuspensionRests s.toSessionState) : SuspensionRests t.toSessionState := by
  obtain ⟨c1, c2, c3, c4, c5, c6, c7, c8, c9, c10, c11, c12, c13, c14⟩ := hs.coherent
  unfold SuspensionRests at *
  cases h
  case disconnectIdle | disconnectClose =>
    cases ‹Disconnecting _ _ _ _› <;> dsimp <;> grind -linarith
  case cancelNothing | cancelIdle | cancelClose =>
    cases ‹Cancelling _ _ _› <;> dsimp <;> grind -linarith
  all_goals
    try dsimp
    first | assumption | grind -linarith

/-- The session is not suspended, or it is not shown as disconnecting. -/
def SuspendsAtRest (s : SessionState) : Prop :=
  s.isSuspended = false ∨ s.lifecycle ≠ .disconnecting

theorem restoreIncoming_rests (hs : Coherent s.toSessionState) (hl : s.lifecycle ≠ .disconnecting) :
    SuspendsAtRest (s.restoreIncomingListenerAfterTerminal (reentry p)).toSessionState := by
  cases hsu : s.isSuspended with
  | false =>
    exact .inl ((restoreIncomingListenerAfterTerminal_moves (p := p)
      (e := .operation .resume) reentry_sound hs).notSuspended hsu)
  | true =>
    unfold restoreIncomingListenerAfterTerminal
    split
    · exact .inr hl
    · dsimp only
      rw [if_neg (by simp [hsu])]
      exact .inr hl

/-- The end of a suspended session's close leaves it at rest, unless it releases it. -/
theorem completeCloseCooldown_rests (hs : Inv s) (hshown : ClosesShown s.toSessionState)
    (hsd : s.isShutdown = false) (hf : s.isCloseInFlight = true) (hcool : s.isCloseCooldown = true)
    (hsu : s.isSuspended = true) (completedScheduledCooldown) :
    SuspendsAtRest (s.completeCloseCooldown p (reentry p) s.closeBarrierEpoch
      completedScheduledCooldown).toSessionState := by
  have hends : EndsClose (.closeCooldown s.closeBarrierEpoch) s := ⟨hsd, hf, hcool, .inl rfl⟩
  have hactive := hs.coherent.active hf
  by_cases hnoted : ResumeNoted s.toSessionState
  · exact .inl (completeCloseCooldown_releases hs hsd hnoted hcool _)
  unfold completeCloseCooldown
  rw [if_neg (by simp [hsd, hf, hcool])]
  unfold continueAfterClose
  rw [if_neg (by simp [hsd])]
  dsimp only
  cases ha : s.isCloseContinuationAbandoned with
  | true =>
    rw [if_pos (by exact ha)]
    have hend := (Move.endAbandoned (p := p) hends ha).coherent hs.coherent
    exact restoreIncoming_rests hend (by simp)
  | false =>
    rw [if_neg (by simp [ha])]
    have hpending : s.endCooldown.pendingCloseContinuation = s.pendingCloseContinuation := rfl
    rw [hpending]
    cases hcont : s.pendingCloseContinuation with
    | replace => simp [hactive (.inl hcont)] at hsu
    | transientOpenRetry => simp [hactive (.inr hcont)] at hsu
    | retry =>
      have hend := (Move.endClose (p := p) hends ha (by simp [hcont])).coherent hs.coherent
      have hfail := (Move.fail (p := p) (e := .closeCooldown s.closeBarrierEpoch)
        (s := s.endCooldown.clearPendingClose) s.pendingCloseFailure
        s.pendingCloseDisconnectReason hsd rfl).coherent hend
      dsimp only
      unfold scheduleReconnect
      rw [if_pos (by simp [hsu])]
      exact restoreIncoming_rests hfail (by simp)
    | suspend =>
      obtain ⟨hpend, hep⟩ := hshown.suspending hsu hf hcont
      have hrqd : s.resumeRequested = false := by
        by_contra h
        exact hnoted ⟨by simpa using h, hf, .inr (.inr ⟨hcont, hep⟩)⟩
      dsimp only
      unfold completeSuspendClose
      rw [if_neg (by simp [hsd, hsu, hpend, hep])]
      dsimp only
      rw [if_pos (by simp [hrqd])]
      exact .inr (by simp)
    | idle =>
      dsimp only
      unfold continueIdle
      dsimp only
      rw [if_neg (by simp [hsu])]
      exact .inr (by simp)

/-- The invariant of the steps. -/
structure ClosesCoherent (s : Session) : Prop where
  inv : Inv s
  shown : ClosesShown s.toSessionState
  rests : SuspensionRests s.toSessionState

theorem closesCoherent_initial (deviceId deviceName : WString) :
    ClosesCoherent (initial deviceId deviceName) :=
  ⟨inv_initial _ _, by constructor <;> simp [initial], by simp [SuspensionRests, initial]⟩

theorem SuspendsAtRest.suspensionRests {s : SessionState} (h : SuspendsAtRest s) :
    SuspensionRests s := by
  intro hsu hl
  rcases h with h | h
  · simp [h] at hsu
  · exact absurd hl h

/-- A callback does not suspend the session. -/
theorem step_callback_notSuspended (hs : Inv s) (he : (deviceSession p).enabled s e)
    {c : Continuation} (hc : e.continuation = some c) (hsu : s.isSuspended = false) :
    ((deviceSession p).step s e).isSuspended = false := by
  refine step_establishes (I := fun s => s.isSuspended = false) hs he (fun u hu => ?_)
    fun _ _ _ hm hi => hm.notSuspended hi
  cases hu
  case callback => exact hsu
  case disconnectIdle | disconnectClose => cases ‹Disconnecting _ _ _ _› <;> cases hc
  case cancelNothing | cancelIdle | cancelClose => cases ‹Cancelling _ _ _› <;> cases hc
  all_goals cases hc

theorem step_suspensionRests (he : (deviceSession p).enabled s e) (hs : ClosesCoherent s) :
    SuspensionRests ((deviceSession p).step s e).toSessionState := by
  obtain ⟨hinv, hshown, hrests⟩ := hs
  cases hend : endsClose e with
  | false =>
    exact step_establishes (I := fun s => SuspensionRests s.toSessionState) hinv he
      (fun u hu => hu.suspensionRests hinv hrests) fun _ _ hu hm hi => hm.suspensionRests hu hend hi
  | true =>
    unfold endsClose at hend
    cases hsu : s.isSuspended with
    | false =>
      have hsome : ∃ c, e.continuation = some c := by
        split at hend
        · exact ⟨_, rfl⟩
        · exact ⟨_, rfl⟩
        · cases hend
      obtain ⟨c, hc⟩ := hsome
      exact SuspendsAtRest.suspensionRests (.inl (step_callback_notSuspended hinv he hc hsu))
    | true =>
      split at hend
      · rename_i n
        by_cases hlive : EndsClose (.closeCooldown n) s
        · obtain ⟨hsd, hf, hcool, hevent⟩ := hlive
          obtain rfl : n = s.closeBarrierEpoch := by simpa [Confirms] using hevent
          exact (completeCloseCooldown_rests (hinv.deliver (.closeCooldown s.closeBarrierEpoch))
            ⟨hshown.closing, hshown.suspending⟩ hsd hf hcool hsu true).suspensionRests
        · rw [step_stale_cooldown hlive]
          exact hrests
      · rename_i n
        by_cases hlive : s.isShutdown = false ∧ s.isCloseInFlight = true ∧
            s.isCloseCooldown = false ∧ n = s.closeBarrierEpoch
        · obtain ⟨hsd, hf, hcool, rfl⟩ := hlive
          rw [step_confirms hsd hf hcool]
          split
          · exact (completeCloseCooldown_rests (hinv.confirmed hsd hf hcool)
              ⟨hshown.closing, hshown.suspending⟩ hsd hf rfl hsu false).suspensionRests
          · exact fun _ _ => hf
        · rw [step_stale_completion hlive]
          exact hrests
      · cases hend

theorem step_closesCoherent (he : (deviceSession p).enabled s e) (hs : ClosesCoherent s) :
    ClosesCoherent ((deviceSession p).step s e) :=
  ⟨step_inv he hs.inv,
    step_establishes (I := fun s => ClosesShown s.toSessionState) hs.inv he
      (fun _ hu => hu.closesShown hs.inv hs.shown) fun _ _ hu hm hi => hm.closesShown hu hi,
    step_suspensionRests he hs⟩

/-! ## Where a connect leaves the session -/

/-- The session is connected, it is on its way to a connection that it will open, or it has
failed. -/
def Joined (s : SessionState) : Prop :=
  s.lifecycle = .connected ∨ s.lifecycle = .failed ∨
    s.openImmediately = true ∧ (s.lifecycle = .connecting ∨ s.lifecycle = .waitingForReconnect ∨
      s.lifecycle = .disconnecting ∧ s.pendingCloseContinuation = .replace)

instance (s : SessionState) : Decidable (Joined s) :=
  inferInstanceAs (Decidable (_ ∨ _ ∨ _))

/-- The connection of the attempt could not be started: it is closed, and then the attempt fails. -/
structure ClosesAttempt (s : SessionState) : Prop where
  opens : s.openImmediately = true
  disconnecting : s.lifecycle = .disconnecting
  continuation : s.pendingCloseContinuation = .retry
  failure : s.pendingCloseFailure = .failed
  notRetried : s.pendingCloseRetryEligible = false

/-- It was published since `before` that the attempt of the epoch has failed, and the incoming
listener is started again. -/
structure ListensAgain (epoch : Nat) (before : List DeviceSessionFact) (t : Session) : Prop where
  listener : StartingListener t.toSessionState
  incoming : t.isIncomingEnabled = true
  told : ∃ new, t.ledger.facts = new ++ before ∧
    ∃ fact ∈ new, fact.snapshot.operationEpoch = epoch ∧ fact.snapshot.state = .failed

/-- Where an attempt leaves the session that begins it. -/
def Attempted (epoch : Nat) (before : List DeviceSessionFact) (t : Session) : Prop :=
  Joined t.toSessionState ∨ ClosesAttempt t.toSessionState ∨ ListensAgain epoch before t

/-- The session has begun an attempt that it will not retry. -/
structure BeginsAttempt (epoch : Nat) (before : List DeviceSessionFact) (s : Session) : Prop where
  coherent : Coherent s.toSessionState
  notShutdown : s.isShutdown = false
  notInFlight : s.isCloseInFlight = false
  epoch : s.operationEpoch = epoch
  opens : s.openImmediately = true
  notRetried : s.retryEligible = false
  connecting : s.lifecycle = .connecting
  facts : ∃ new, s.ledger.facts = new ++ before

variable {before : List DeviceSessionFact}

/-- A terminal failure of the attempt. -/
theorem failTerminally_attempted (hs : BeginsAttempt epoch before s) (hc : s.connection = none)
    (result disconnectReason) :
    Attempted epoch before (s.failTerminally (reentry p) result disconnectReason) := by
  unfold failTerminally restoreIncomingListenerAfterTerminal
  split
  · exact .inl (.inr (.inl rfl))
  dsimp only
  split
  · rename_i hstart
    let failed : Session := { s.enterFailed result disconnectReason with
      restoreIncomingAfterClose := false }
    have hfail := (Move.fail (p := p) (e := .operation .resume) result disconnectReason
      hs.notShutdown hs.notInFlight).coherent hs.coherent
    have hfailed : Coherent failed.toSessionState :=
      (Move.dropRestore (p := p) (e := .operation .resume)).coherent hfail
    have hmoves : Moves p (.operation .resume) failed
        (failed.startConnection p (reentry p) .incomingEnable false) :=
      startConnection_moves reentry_sound hfailed (.incoming hstart.2.2.1)
    rw [reentry_startIncoming]
    change Attempted epoch before (failed.startConnection p (reentry p) .incomingEnable false)
    rcases startListener_tries (p := p) (r := reentry p) (s := failed) hc with hsame | htries
    · rw [hsame]
      exact .inl (.inr (.inl rfl))
    rcases htries.phase with hl | hlistener
    · exact .inl (.inr (.inl hl))
    · have hflags := congrArg SessionFlags.isIncomingEnabled
        (moves_preserve (I := fun t : Session => flags t.toSessionState = flags failed.toSessionState)
          (fun _ _ hm hi => hm.flags.trans hi) hmoves rfl)
      obtain ⟨new, hnew, -⟩ := hmoves.later.facts
      obtain ⟨old, hold⟩ := hs.facts
      let fact := factOf (s.enter .failed).toSessionState result true disconnectReason
      refine .inr (.inr ⟨hlistener, hflags.trans hstart.2.2.1, new ++ fact :: old, ?_, fact,
        by simp, hs.epoch, rfl⟩)
      have hfacts : failed.ledger.facts = fact :: (old ++ before) := by
        rw [← hold]
        rfl
      rw [hnew, hfacts, List.append_assoc, List.cons_append]
  · exact .inl (.inr (.inl rfl))

/-- The attempt fails at once. -/
theorem completeFailure_attempted (hs : BeginsAttempt epoch before s) :
    Attempted epoch before (s.completeFailure p (reentry p) epoch .failed false) := by
  unfold completeFailure
  rw [if_neg (by simp [hs.epoch, hs.notShutdown])]
  dsimp only
  cases hc : s.connection with
  | none =>
    rw [revokeStateChanged_of_none hc, if_pos (by simp [hc]), if_neg (by simp)]
    unfold scheduleReconnect
    rw [if_pos (by simp [hs.notRetried])]
    exact failTerminally_attempted hs hc _ _
  | some c =>
    rw [if_neg (by simp [hc]), beginClose_eq (by simp [hc])]
    rcases closeRequested_phase (p := p) (s := (((s.revokeStateChanged.enter
        .disconnecting).publish .failed false .none).requestClose .retry .failed s.retryEligible
        (s.currentOperation = .automaticReconnect) .none)) hs.notInFlight with
      hfailed | ⟨hl, hcont, hfailure, hretry⟩
    · exact .inl (.inr (.inl hfailed))
    · refine .inr (.inl ⟨by simpa using hs.opens, hl, ?_, ?_, ?_⟩)
      · exact hcont.trans (by simp [hs.notInFlight])
      · exact hfailure.trans (by simp [hs.notInFlight])
      · exact hretry.trans (by simp [hs.notInFlight, hs.notRetried])

/-- A connection is created for the attempt. -/
theorem createConnection_begins {operation : DeviceOperationKind}
    (hs : Coherent s.toSessionState) (hcan : CanStart s) (hc : s.connection = none)
    (hmanual : isRetryEligible operation = false) :
    BeginsAttempt (s.operationEpoch + 1) s.ledger.facts
      ((s.prepareStart operation true).createConnection p (s.operationEpoch + 1)) where
  coherent := (Move.startCreate (p := p) (e := .operation (.connect operation true)) hcan
    (.requested rfl) hc).coherent hs
  notShutdown := hcan.notShutdown
  notInFlight := hcan.notInFlight
  epoch := rfl
  opens := rfl
  notRetried := hmanual
  connecting := rfl
  facts := ⟨[_], rfl⟩

theorem registerStateChanged_begins (hs : BeginsAttempt epoch before s) {c : NativeConnection}
    (hc : s.connection = some c)
    (hcreated : s.ledger.created.head? = some (s.operationEpoch, c)) :
    BeginsAttempt epoch before (s.registerStateChanged p epoch c) where
  coherent := by
    rw [← hs.epoch]
    exact (Move.register (p := p) (e := .operation .resume) c hc hcreated).coherent hs.coherent
  notShutdown := hs.notShutdown
  notInFlight := hs.notInFlight
  epoch := hs.epoch
  opens := hs.opens
  notRetried := hs.notRetried
  connecting := hs.connecting
  facts := hs.facts

theorem start_begins (hs : BeginsAttempt epoch before s) {c : NativeConnection}
    (hc : s.connection = some c)
    (hcreated : s.ledger.created.head? = some (s.operationEpoch, c)) :
    BeginsAttempt epoch before (s.start p epoch c) where
  coherent := by
    rw [← hs.epoch]
    exact (Move.start (p := p) (e := .operation .resume) c hc hcreated).coherent hs.coherent
  notShutdown := hs.notShutdown
  notInFlight := hs.notInFlight
  epoch := hs.epoch
  opens := hs.opens
  notRetried := hs.notRetried
  connecting := hs.connecting
  facts := hs.facts

/-- The attempt creates a connection and starts it, or fails at once. -/
theorem finishCreate_attempted (hs : BeginsAttempt epoch before s)
    (hcreated : ∀ c, s.connection = some c →
      s.ledger.created.head? = some (s.operationEpoch, c)) :
    Attempted epoch before (s.finishCreate p (reentry p) epoch) := by
  unfold finishCreate
  split
  · exact completeFailure_attempted hs
  · rename_i c hc
    have hregistered := registerStateChanged_begins (p := p) hs hc (hcreated c hc)
    have hstarted := start_begins (p := p) hregistered hc (hcreated c hc)
    unfold startCreated
    split
    · dsimp only
      split
      · exact .inl (.inr (.inr ⟨hstarted.opens, .inl hstarted.connecting⟩))
      · exact completeFailure_attempted hstarted
    · exact completeFailure_attempted hregistered

/-- The connection that there is is closed, to be replaced. -/
theorem startConnection_replaces (hcan : CanStart s) (hc : s.connection.isSome)
    (operation : DeviceOperationKind) :
    Joined (s.startConnection p r operation true).toSessionState := by
  obtain ⟨hsd, hsu, hnf, hconn, hdisc, hname⟩ := hcan
  unfold startConnection launch
  rw [if_neg (by simp [hsd, hsu, hname]), if_neg (by simp [hnf, hconn, hdisc]),
    if_pos (by exact hc), beginClose_eq (.inl (by exact hc))]
  rcases closeRequested_phase (p := p) (s := (s.prepareStart operation
      true).enterReplacing.requestClose .replace .success false false .none) hnf with
    hfailed | ⟨hl, hcont, -⟩
  · exact .inr (.inl hfailed)
  · refine .inr (.inr ⟨by simp, .inr (.inr ⟨hl, hcont.trans ?_⟩)⟩)
    simp [hnf]

theorem startConnection_of_not_canStart (hcan : ¬ CanStart s) (operation openImmediately) :
    s.startConnection p r operation openImmediately = s := by
  refine startConnection_refused ?_ _ _
  by_contra hgo
  simp only [startRefused, not_or, Bool.not_eq_true] at hgo
  exact hcan ⟨hgo.1.1, hgo.1.2.1, hgo.2.1, hgo.2.2.1, hgo.2.2.2, hgo.1.2.2⟩

/-- A manual start that is not refused. -/
theorem startConnection_attempted (hs : Coherent s.toSessionState) (hcan : CanStart s)
    {operation : DeviceOperationKind} (hmanual : isRetryEligible operation = false) :
    Attempted (s.operationEpoch + 1) s.ledger.facts
      (s.startConnection p (reentry p) operation true) := by
  cases hc : s.connection with
  | some c => exact .inl (startConnection_replaces hcan (by simp [hc]) operation)
  | none =>
    rw [startConnection_of_canStart hcan hc]
    refine finishCreate_attempted (createConnection_begins hs hcan hc hmanual) fun c hcreate => ?_
    have hcreated : (s.prepareStart operation true).createdConnection p = some c := by
      simpa [createdConnection] using hcreate
    simp_all [createdConnection]

/-! ## Connects -/

/-- The operations that a user asks for. -/
def IsManual (operation : DeviceOperationKind) : Prop :=
  operation = .manualConnect ∨ operation = .manualReconnect

theorem IsManual.notRetried {operation : DeviceOperationKind} (h : IsManual operation) :
    isRetryEligible operation = false := by
  rcases h with rfl | rfl <;> rfl

/-- The session starts its incoming listener. -/
def StartsIncoming (s : SessionState) : Prop :=
  s.lifecycle = .connecting ∧ s.openImmediately = false

/-- The session was suspended during a close that was given up before: it is released, and shown as
disconnecting until that close is confirmed. -/
structure AwaitsAbandoned (s t : SessionState) : Prop where
  suspended : s.isSuspended = true
  disconnecting : t.lifecycle = .disconnecting
  inFlight : t.isCloseInFlight = true
  abandoned : t.isCloseContinuationAbandoned = true

/-- A start that is refused finds the session on its way, or its close given up. -/
theorem joined_of_not_canStart (hs : ClosesShown s.toSessionState) (hsd : s.isShutdown = false)
    (hsu : s.isSuspended = false) (hname : s.deviceId ≠ [])
    (hdisc : s.lifecycle ≠ .disconnecting) (hlistener : ¬ StartsIncoming s.toSessionState)
    (hcan : ¬ CanStart s) : Joined s.toSessionState := by
  by_cases hconn : s.lifecycle = .connecting
  · refine .inr (.inr ⟨?_, .inl hconn⟩)
    by_contra hopen
    exact hlistener ⟨hconn, by simpa using hopen⟩
  · have hf : s.isCloseInFlight = true := by
      by_contra hnf
      exact hcan ⟨hsd, hsu, by simpa using hnf, hconn, hdisc, hname⟩
    exact .inr (.inl ((hs.closing hf).resolve_left hdisc))

/-- A `Connect` of a suspended session supersedes its recovery. -/
theorem supersede_attempted (hs : ClosesCoherent s) (hsd : s.isShutdown = false)
    (hname : s.deviceId ≠ []) (hsu : s.isSuspended = true) {operation : DeviceOperationKind}
    (hmanual : IsManual operation) :
    let t := s.supersedePowerTransitionRecovery p (reentry p) operation true
    Attempted (s.operationEpoch + 1) s.ledger.facts t ∨
      AwaitsAbandoned s.toSessionState t.toSessionState := by
  obtain ⟨hinv, hshown, hrests⟩ := hs
  have hcoh : Coherent s.releaseHold.toSessionState :=
    (Head.cancelPower (p := p) hsd hsu).coherent hinv.coherent
  unfold supersedePowerTransitionRecovery
  dsimp only
  cases hf : s.isCloseInFlight with
  | false =>
    rw [if_pos (by simp [hf])]
    have hcan : CanStart s.releaseHold := {
      notShutdown := hsd
      notSuspended := rfl
      notInFlight := hf
      notConnecting := fun hl => by simpa [hsu] using (hinv.coherent.connecting hl).2
      notDisconnecting := fun hl => by simpa [hf] using hrests hsu hl
      named := hname }
    exact .inl (startConnection_attempted hcoh hcan hmanual.notRetried)
  | true =>
    rw [if_neg (by simp [hf])]
    cases ha : s.isCloseContinuationAbandoned with
    | true =>
      rw [if_pos (by exact ha)]
      rcases hshown.closing hf with hl | hl
      · exact .inr ⟨hsu, hl, hf, ha⟩
      · exact .inl (.inl (.inr (.inl hl)))
    | false =>
      rw [if_neg (by simp [ha]), beginClose_eq (.inr (by exact hf))]
      unfold closeRequested
      rw [if_pos (by exact hf)]
      exact .inl (.inl (.inr (.inr ⟨rfl, .inr (.inr ⟨rfl, by simp [ha]⟩)⟩)))

/-- A manual `Connect` joins an operation, begins one, or releases a close that was given up. -/
theorem step_connect_attempted (hs : ClosesCoherent s) (hsd : s.isShutdown = false)
    (hname : s.deviceId ≠ []) {operation : DeviceOperationKind} (hmanual : IsManual operation)
    (hready : s.isSuspended = true ∨ s.lifecycle ≠ .disconnecting)
    (hlistener : ¬ StartsIncoming s.toSessionState) :
    let t := (deviceSession p).step s (.operation (.connect operation true))
    Attempted (s.operationEpoch + 1) s.ledger.facts t ∨
      AwaitsAbandoned s.toSessionState t.toSessionState := by
  intro t
  have ht : t = s.connect p (reentry p) operation true := rfl
  rw [ht]
  unfold connect
  rw [if_neg (by simp [hsd])]
  cases hsu : s.isSuspended with
  | true =>
    rw [if_pos ⟨rfl, hmanual⟩]
    exact supersede_attempted hs hsd hname hsu hmanual
  | false =>
    rw [if_neg (by simp)]
    have hdisc : s.lifecycle ≠ .disconnecting := hready.resolve_left (by simp [hsu])
    by_cases hcan : CanStart s
    · exact .inl (startConnection_attempted hs.inv.coherent hcan hmanual.notRetried)
    · rw [startConnection_of_not_canStart hcan]
      exact .inl (.inl (joined_of_not_canStart hs.shown hsd hsu hname hdisc hlistener hcan))

end Session

end PlaybackConnector
