import PlaybackConnector.Session.Steps

/-!
# Operations that are pursued, and operations that are cancelled

The service resolves the completion of an operation when a fact says that the session has begun
another epoch, or is at rest. A session that still has the epoch and has published no such fact
pursues the operation (`step_tracked`), and the two operations that cancel it, `CancelReconnect`
and `Disconnect`, release it and publish that they did (`cancel_releases`).
-/

namespace PlaybackConnector

namespace Session

variable {p : Platform} {r : Reentry} {e : Event} {s t u x : Session} {epoch : Nat}

/-! ## Pursued operations -/

/-- The session is on its way to a connection, or away from one, and its close is not one that was
given up. -/
structure Pursuing (s : SessionState) : Prop where
  busy : s.lifecycle = .connecting ∨ s.lifecycle = .disconnecting ∨
    s.lifecycle = .waitingForReconnect
  notAbandoned : s.isCloseContinuationAbandoned = false

theorem pursuing_iff {s : SessionState} : Pursuing s ↔
    (s.lifecycle = .connecting ∨ s.lifecycle = .disconnecting ∨
      s.lifecycle = .waitingForReconnect) ∧ s.isCloseContinuationAbandoned = false :=
  ⟨fun h => ⟨h.1, h.2⟩, fun h => ⟨h.1, h.2⟩⟩

/-- A snapshot of an operation that is pursued. -/
def Unresolved (epoch : Nat) (snapshot : DeviceSessionSnapshot) : Prop :=
  snapshot.operationEpoch = epoch ∧ snapshot.state ≠ .idle ∧ snapshot.state ≠ .connected ∧
    snapshot.state ≠ .failed

/-- What a task does to a session's facts and epoch. -/
structure Later (s t : Session) : Prop where
  deviceId : t.deviceId = s.deviceId
  epoch : s.operationEpoch ≤ t.operationEpoch
  facts : ∃ new, t.ledger.facts = new ++ s.ledger.facts ∧ ∀ fact ∈ new,
    fact.snapshot.deviceId = s.deviceId ∧ s.operationEpoch ≤ fact.snapshot.operationEpoch

theorem Later.trans (h : Later s t) (h' : Later t u) : Later s u := by
  obtain ⟨hid, he, new, hf, hnew⟩ := h
  obtain ⟨hid', he', new', hf', hnew'⟩ := h'
  refine ⟨hid'.trans hid, Nat.le_trans he he', new' ++ new, by rw [hf', hf, List.append_assoc], ?_⟩
  intro fact hfact
  rcases List.mem_append.1 hfact with hfact | hfact
  · exact ⟨(hnew' fact hfact).1.trans hid, Nat.le_trans he (hnew' fact hfact).2⟩
  · exact hnew fact hfact

/-- Nothing is published. -/
theorem Later.silent (hid : t.deviceId = s.deviceId) (he : s.operationEpoch ≤ t.operationEpoch)
    (hf : t.ledger.facts = s.ledger.facts) : Later s t := ⟨hid, he, [], hf, by simp⟩

/-- A fact is published. -/
theorem Later.told {fact : DeviceSessionFact} (hid : t.deviceId = s.deviceId)
    (he : s.operationEpoch ≤ t.operationEpoch) (hf : t.ledger.facts = fact :: s.ledger.facts)
    (hfact : fact.snapshot.deviceId = s.deviceId ∧
      s.operationEpoch ≤ fact.snapshot.operationEpoch) : Later s t :=
  ⟨hid, he, [fact], hf, by simpa using hfact⟩

theorem Move.later (h : Move p e s t) : Later s t := by
  cases h
  case endRestarted =>
    have hsettled : Later s s.endCooldown.clearPendingClose.settleSuspended :=
      .told rfl (by simp) rfl (by simp [factOf, snapshot])
    refine hsettled.trans (.told ?_ ?_ rfl ?_) <;> simp [factOf, snapshot]
  all_goals
    first
    | (refine .silent ?_ ?_ ?_ <;> solve | simp)
    | (refine .told ?_ ?_ rfl ?_ <;> solve | simp [factOf, snapshot])

theorem Moves.later (h : Moves p e s t) : Later s t := by
  induction h with
  | refl => exact .silent rfl (Nat.le_refl _) rfl
  | tail _ hm ih => exact ih.trans hm.later

theorem Head.later (h : Head p s e t) : Later s t := by
  cases h
  case disconnectIdle | disconnectClose =>
    cases ‹Disconnecting _ _ _ _› <;>
      (refine .told ?_ ?_ rfl ?_ <;> solve | simp [factOf, snapshot])
  case cancelNothing | cancelIdle | cancelClose =>
    cases ‹Cancelling _ _ _› <;>
      first
      | (refine .silent ?_ ?_ ?_ <;> solve | simp)
      | (refine .told ?_ ?_ rfl ?_ <;> solve | simp [factOf, snapshot])
  case shutdown =>
    refine .silent (by simp) (by simp) ?_
    simp only [enter, closeForShutdown]
    split <;> simp
  all_goals
    first
    | (refine .silent ?_ ?_ ?_ <;> solve | simp)
    | (refine .told ?_ ?_ rfl ?_ <;> solve | simp [factOf, snapshot])

/-- What a move makes of an operation that is pursued: another epoch begins, or it is pursued
further, or what becomes of it is published. -/
def Pursued (s t : Session) : Prop :=
  s.operationEpoch < t.operationEpoch ∨
    s.operationEpoch = t.operationEpoch ∧ Pursuing t.toSessionState ∨
    ∃ fact, t.ledger.facts = fact :: s.ledger.facts ∧ ¬ Unresolved s.operationEpoch fact.snapshot

theorem Move.pursued (h : Move p e s t) (hs : Pursuing s.toSessionState) : Pursued s t := by
  obtain ⟨hbusy, hna⟩ := hs
  cases h
  all_goals simp [Pursued, pursuing_iff, hbusy, hna, Unresolved, factOf, snapshot]

theorem Head.pursued (h : Head p s e t) (hs : Pursuing s.toSessionState) : Pursued s t := by
  obtain ⟨hbusy, hna⟩ := hs
  cases h
  case disconnectIdle | disconnectClose => cases ‹Disconnecting _ _ _ _› <;> simp [Pursued]
  case cancelNothing => cases ‹Cancelling _ _ _› <;> simp [Pursued, pursuing_iff, hbusy, hna]
  case cancelIdle | cancelClose => cases ‹Cancelling _ _ _› <;> simp [Pursued]
  all_goals simp [Pursued, pursuing_iff, hbusy, hna]

/-- What a task makes of it. -/
def Tracked (s t : Session) : Prop :=
  s.operationEpoch < t.operationEpoch ∨
    s.operationEpoch = t.operationEpoch ∧ Pursuing t.toSessionState ∨
    ∃ new fact, t.ledger.facts = new ++ s.ledger.facts ∧ fact ∈ new ∧
      ¬ Unresolved s.operationEpoch fact.snapshot

theorem Pursued.tracked (h : Pursued s t) : Tracked s t :=
  h.imp id (.imp id fun ⟨fact, hf, hfact⟩ => ⟨[fact], fact, hf, List.mem_singleton_self _, hfact⟩)

theorem Tracked.later (h : Tracked s t) (hst : Later s t) (htu : Later t u)
    (hpursued : Pursuing t.toSessionState → Pursued t u) : Tracked s u := by
  obtain ⟨-, -, new, hf, -⟩ := hst
  rcases h with hlt | ⟨heq, hp⟩ | ⟨new, fact, hf, hmem, hfact⟩
  · exact .inl (Nat.lt_of_lt_of_le hlt htu.epoch)
  · rcases hpursued hp with hlt | ⟨heq', hp'⟩ | ⟨fact, hf', hfact⟩
    · exact .inl (heq ▸ hlt)
    · exact .inr (.inl ⟨heq.trans heq', hp'⟩)
    · exact .inr (.inr ⟨fact :: new, fact, by rw [hf', hf]; rfl, List.mem_cons_self, heq ▸ hfact⟩)
  · obtain ⟨new', hf', -⟩ := htu.facts
    exact .inr (.inr ⟨new' ++ new, fact, by rw [hf', hf, List.append_assoc],
      List.mem_append_right _ hmem, hfact⟩)

theorem step_later (hs : Inv s) (he : (deviceSession p).enabled s e) :
    Later s ((deviceSession p).step s e) :=
  step_establishes hs he (fun _ hu => hu.later) fun _ _ _ hm hi => hi.trans hm.later

/-- A task loses track of no operation. -/
theorem step_tracked (hs : Inv s) (he : (deviceSession p).enabled s e)
    (hp : Pursuing s.toSessionState) : Tracked s ((deviceSession p).step s e) := by
  have hkeep := step_establishes (I := fun t => Later s t ∧ Tracked s t) hs he
    (fun u hu => ⟨hu.later, (hu.pursued hp).tracked⟩)
    fun u v _ hm hi => ⟨hi.1.trans hm.later, hi.2.later hi.1 hm.later hm.pursued⟩
  exact hkeep.2

/-! ## Closes that are given up -/

/-- A session whose close was given up has failed. -/
def GivesUp (s : SessionState) : Prop :=
  s.isCloseContinuationAbandoned = true → s.lifecycle = .failed

theorem Move.givesUp (hs : Coherent s.toSessionState) (h : Move p e s t)
    (hg : GivesUp s.toSessionState) : GivesUp t.toSessionState := by
  obtain ⟨c1, c2, c3, c4, c5, c6, c7, c8, c9, c10, c11, c12, c13, c14⟩ := hs
  unfold GivesUp at *
  cases h
  all_goals
    try dsimp
    first | assumption | grind -linarith

/-- A `Connect` that begins an epoch leaves no close that was given up behind, or fails. -/
theorem step_connect_givesUp (hs : Inv s) (operation openImmediately)
    (hepoch : ((deviceSession p).step s
      (.operation (.connect operation openImmediately))).operationEpoch ≠ s.operationEpoch) :
    GivesUp ((deviceSession p).step s
      (.operation (.connect operation openImmediately))).toSessionState := by
  cases ha : s.isCloseContinuationAbandoned with
  | true =>
    have hf := (hs.coherent.abandoned ha).2
    refine absurd ?_ hepoch
    have hstep : (deviceSession p).step s (.operation (.connect operation openImmediately)) =
        s.connect p (reentry p) operation openImmediately := rfl
    have hrefused {t : Session} (hf : t.isCloseInFlight = true) :
        (t.startConnection p (reentry p) operation openImmediately).operationEpoch =
          t.operationEpoch := by
      unfold startConnection
      split
      · rfl
      · rw [if_pos (.inl hf)]
    rw [hstep]
    unfold connect
    split
    · rfl
    split
    · unfold supersedePowerTransitionRecovery
      dsimp only
      rw [if_neg (by simp [hf]), if_pos (by exact ha)]
      rfl
    · exact hrefused hf
  | false =>
    refine step_establishes (I := fun s => GivesUp s.toSessionState) hs (enabled_operation _) ?_
      fun u v hu hm hi => hm.givesUp hu.coherent hi
    intro u hu hgiven
    cases hu
    case disconnectIdle hcause | disconnectClose hcause => cases hcause
    case cancelNothing hcause | cancelIdle hcause | cancelClose hcause => cases hcause
    all_goals simp [ha] at hgiven

/-! ## Operations that are cancelled -/

/-- The session starts a listener, or closes one whose start has failed; it will not be retried. -/
structure StartingListener (s : SessionState) : Prop where
  listener : s.openImmediately = false
  operation : s.currentOperation = .incomingEnable
  phase : s.lifecycle = .connecting ∨ s.lifecycle = .disconnecting ∧
    s.pendingCloseContinuation = .retry ∧ s.pendingCloseRetryEligible = false

/-- The session has let go of its operation. -/
structure Released (s : SessionState) : Prop where
  noTimer : s.reconnectTimer = none
  phase : s.lifecycle = .idle ∨ s.lifecycle = .failed ∨
    s.lifecycle = .disconnecting ∧ s.pendingCloseContinuation = .idle ∨ StartingListener s

/-- A close that was requested is in flight, with the continuation that it had, or has failed. -/
theorem closeRequested_phase (hc : s.isCloseInFlight = false) :
    (s.closeRequested p).lifecycle = .failed ∨
      (s.closeRequested p).lifecycle = s.lifecycle ∧
        (s.closeRequested p).pendingCloseContinuation = s.pendingCloseContinuation ∧
        (s.closeRequested p).pendingCloseFailure = s.pendingCloseFailure ∧
        (s.closeRequested p).pendingCloseRetryEligible = s.pendingCloseRetryEligible := by
  unfold closeRequested
  rw [if_neg (by simp [hc]), closeConnection_eq]
  unfold finishClose
  split
  · exact .inl rfl
  · exact .inr ⟨rfl, rfl, rfl, rfl⟩

@[simp] theorem closeRequested_openImmediately :
    (s.closeRequested p).openImmediately = s.openImmediately := by
  unfold closeRequested closeConnection
  split
  · rfl
  · dsimp only
    split <;> rfl

@[simp] theorem closeRequested_currentOperation :
    (s.closeRequested p).currentOperation = s.currentOperation := by
  unfold closeRequested closeConnection
  split
  · rfl
  · dsimp only
    split <;> rfl

@[simp] theorem closeRequested_reconnectTimer :
    (s.closeRequested p).reconnectTimer = s.reconnectTimer := by
  unfold closeRequested closeConnection
  split
  · rfl
  · dsimp only
    split <;> rfl

/-- The close of a session that lets go of its operation. -/
theorem closeRequested_released (hc : s.isCloseInFlight = false) (htimer : s.reconnectTimer = none)
    (hl : s.lifecycle = .disconnecting) (hcont : s.pendingCloseContinuation = .idle) :
    Released (s.closeRequested p).toSessionState := by
  refine ⟨by simpa using htimer, ?_⟩
  rcases closeRequested_phase (p := p) hc with hfailed | ⟨hl', hcont', -⟩
  · exact .inr (.inl hfailed)
  · exact .inr (.inr (.inl ⟨hl'.trans hl, hcont'.trans hcont⟩))

/-- The session begins to start a listener. -/
structure BeginsListener (s : SessionState) : Prop where
  notInFlight : s.isCloseInFlight = false
  noTimer : s.reconnectTimer = none
  listener : s.openImmediately = false
  operation : s.currentOperation = .incomingEnable
  notRetried : s.retryEligible = false
  connecting : s.lifecycle = .connecting

/-- The start of a listener is under way, or has failed. -/
structure TriesToListen (s : SessionState) : Prop where
  noTimer : s.reconnectTimer = none
  phase : s.lifecycle = .failed ∨ StartingListener s

theorem TriesToListen.released {s : SessionState} (hs : TriesToListen s) : Released s :=
  ⟨hs.noTimer, hs.phase.elim (fun h => .inr (.inl h)) fun h => .inr (.inr (.inr h))⟩

theorem BeginsListener.tries {s : SessionState} (hs : BeginsListener s) : TriesToListen s :=
  ⟨hs.noTimer, .inr ⟨hs.listener, hs.operation, .inl hs.connecting⟩⟩

/-- A listener that was created and fails is not retried. -/
theorem completeFailure_tries (hs : BeginsListener s.toSessionState) (epoch result) :
    TriesToListen (s.completeFailure p r epoch result false).toSessionState := by
  unfold completeFailure
  split
  · exact hs.tries
  · dsimp only
    cases hc : s.connection with
    | none =>
      rw [revokeStateChanged_of_none hc, if_pos (by simp [hc]), if_neg (by simp)]
      unfold scheduleReconnect
      rw [if_pos (by simp [hs.notRetried])]
      unfold failTerminally restoreIncomingListenerAfterTerminal
      split
      · exact ⟨hs.noTimer, .inl rfl⟩
      · dsimp only
        rw [if_neg (by simp [hs.listener])]
        exact ⟨hs.noTimer, .inl rfl⟩
    | some c =>
      rw [if_neg (by simp [hc]), beginClose_eq (by simp [hc])]
      refine ⟨by simpa using hs.noTimer, ?_⟩
      rcases closeRequested_phase (p := p) (s := (((s.revokeStateChanged.enter
          .disconnecting).publish result false .none).requestClose .retry result s.retryEligible
          (s.currentOperation = .automaticReconnect) .none)) hs.notInFlight with
        hfailed | ⟨hl, hcont, -, hretry⟩
      · exact .inl hfailed
      · refine .inr ⟨by simpa using hs.listener, by simpa using hs.operation, .inr ⟨hl, ?_, ?_⟩⟩
        · exact hcont.trans (by simp [hs.notInFlight])
        · exact hretry.trans (by simp [hs.notInFlight, hs.notRetried])

theorem finishCreate_tries (hs : BeginsListener s.toSessionState) (epoch) :
    TriesToListen (s.finishCreate p r epoch).toSessionState := by
  unfold finishCreate
  split
  · exact completeFailure_tries hs _ _
  · rename_i c hc
    have hregistered : BeginsListener (s.registerStateChanged p epoch c).toSessionState :=
      ⟨hs.1, hs.2, hs.3, hs.4, hs.5, hs.6⟩
    have hstarted : BeginsListener
        ((s.registerStateChanged p epoch c).start p epoch c).toSessionState :=
      ⟨hs.1, hs.2, hs.3, hs.4, hs.5, hs.6⟩
    unfold startCreated
    split
    · dsimp only
      split
      · exact hstarted.tries
      · exact completeFailure_tries hstarted _ _
    · exact completeFailure_tries hregistered _ _

/-- The start of a listener. -/
theorem startListener_tries (hc : s.connection = none) :
    s.startConnection p r .incomingEnable false = s ∨
      TriesToListen (s.startConnection p r .incomingEnable false).toSessionState := by
  rcases startConnection_of_none (p := p) (r := r) hc .incomingEnable false with
    hsame | ⟨hcan, hstart⟩
  · exact .inl hsame
  · refine .inr ?_
    rw [hstart]
    refine finishCreate_tries ?_ _
    exact ⟨hcan.notInFlight, rfl, rfl, rfl, rfl, rfl⟩

/-- An accepted `Disconnect` releases the session. -/
theorem disconnect_released
    (haccepts : acceptsDisconnect s.toSessionState = true) (restoreIncoming : Bool) :
    Released (s.disconnect p r restoreIncoming).toSessionState := by
  have hsd : s.isShutdown = false := by simp_all [acceptsDisconnect]
  have hna (hf : s.isCloseInFlight = true) : s.isCloseContinuationAbandoned = false := by
    simp_all [acceptsDisconnect]
  unfold disconnect
  rw [if_neg (by simp [hsd]), if_neg (fun h => by simp [hna h.1] at h)]
  dsimp only
  split
  · rename_i hidle
    have hnone : s.connection = none := by simpa using hidle.1
    split
    · rcases startListener_tries (p := p) (r := r)
          (s := { ((s.prepareDisconnect restoreIncoming).enter .idle).publish .success false .normal
            with restoreIncomingAfterClose := false }) hnone with hsame | htries
      · rw [hsame]
        exact ⟨rfl, .inl rfl⟩
      · exact htries.released
    · exact ⟨rfl, .inl rfl⟩
  · rename_i hbusy
    have hbusy : s.connection.isSome ∨ s.isCloseInFlight = true := by
      cases hc : s.connection <;> simp_all
    rw [beginClose_eq (by exact hbusy)]
    have hpending : ((((s.prepareDisconnect restoreIncoming).enter
        .disconnecting).revokeStateChanged.publish .success false .normal).requestClose .idle
        .success false false .none).pendingCloseContinuation = .idle := by
      cases hf : s.isCloseInFlight with
      | true => simp [hf, hna hf]
      | false => simp [hf]
    cases hf : s.isCloseInFlight with
    | true =>
      unfold closeRequested
      rw [if_pos (by exact hf)]
      exact ⟨rfl, .inr (.inr (.inl ⟨rfl, hpending⟩))⟩
    | false => exact closeRequested_released hf rfl rfl hpending

/-- A close that was given up refuses to be disconnected. -/
theorem step_disconnect_refused (hsd : s.isShutdown = false)
    (hrefuses : acceptsDisconnect s.toSessionState = false) (restoreIncoming : Bool) :
    (deviceSession p).step s (.operation (.disconnect restoreIncoming)) = s := by
  have hgiven : s.isCloseInFlight = true ∧ s.isCloseContinuationAbandoned = true := by
    simpa [acceptsDisconnect, hsd] using hrefuses
  have hstep : (deviceSession p).step s (.operation (.disconnect restoreIncoming)) =
      s.disconnect p (reentry p) restoreIncoming := rfl
  rw [hstep]
  unfold disconnect
  rw [if_neg (by simp [hsd]), if_pos hgiven]

/-- Between `s` and `t`, the session published that the epoch of `s` is over. -/
def Renounces (s t : Session) : Prop :=
  ∃ new, t.ledger.facts = new ++ s.ledger.facts ∧ new ≠ [] ∧
    ∀ fact ∈ new, s.operationEpoch < fact.snapshot.operationEpoch

theorem Renounces.later (h : Renounces s t) (he : s.operationEpoch < t.operationEpoch)
    (hlater : Later t u) : Renounces s u := by
  obtain ⟨new, hf, hne, hnew⟩ := h
  obtain ⟨-, -, new', hf', hnew'⟩ := hlater
  refine ⟨new' ++ new, by rw [hf', hf, List.append_assoc], by simp [hne], ?_⟩
  intro fact hfact
  rcases List.mem_append.1 hfact with hfact | hfact
  · exact Nat.lt_of_lt_of_le he (hnew' fact hfact).2
  · exact hnew fact hfact

/-- A fact under the next epoch. -/
theorem Renounces.told {fact : DeviceSessionFact} (hf : t.ledger.facts = fact :: s.ledger.facts)
    (hfact : s.operationEpoch < fact.snapshot.operationEpoch) : Renounces s t :=
  ⟨[fact], hf, by simp, by simpa using hfact⟩

theorem step_disconnect_renounces (hs : Inv s)
    (haccepts : acceptsDisconnect s.toSessionState = true) (restoreIncoming : Bool) :
    Renounces s ((deviceSession p).step s (.operation (.disconnect restoreIncoming))) := by
  have hkeep := step_establishes (p := p)
    (I := fun t => Renounces s t ∧ s.operationEpoch < t.operationEpoch) hs
    (enabled_operation (.disconnect restoreIncoming)) ?_ fun u v _ hm hi =>
      ⟨hi.1.later hi.2 hm.later, Nat.lt_of_lt_of_le hi.2 hm.later.epoch⟩
  · exact hkeep.1
  intro u hu
  cases hu
  case callback c hc => cases hc
  case nothing hpassive => exact absurd (haccepts.symm.trans hpassive) (by simp)
  case disconnectIdle hcause =>
    cases hcause
    exact ⟨.told rfl (by simp [factOf, snapshot]), by simp⟩
  case disconnectClose hcause =>
    cases hcause
    exact ⟨.told rfl (by simp [factOf, snapshot]), by simp⟩
  case cancelNothing hcause | cancelIdle hcause | cancelClose hcause => cases hcause

/-- What a `CancelReconnect` makes of the operation: the facts under its epoch leave it open, and the
session can still be disconnected, unless it was released and said so. -/
structure Cancelled (s t : Session) : Prop where
  leavesOpen : ∃ new, t.ledger.facts = new ++ s.ledger.facts ∧ ∀ fact ∈ new,
    Unresolved s.operationEpoch fact.snapshot ∨ s.operationEpoch < fact.snapshot.operationEpoch
  accepts : acceptsDisconnect t.toSessionState = true ∨
    Released t.toSessionState ∧ Renounces s t

theorem Renounces.cancelled (h : Renounces s t) (hreleased : Released t.toSessionState) :
    Cancelled s t := by
  obtain ⟨new, hf, hne, hnew⟩ := h
  exact ⟨⟨new, hf, fun fact hfact => .inr (hnew fact hfact)⟩, .inr ⟨hreleased, new, hf, hne, hnew⟩⟩

/-- The cancellation of a session with something to close. -/
theorem closeRequested_cancelled (hsd : t.isShutdown = false)
    (hna : t.isCloseContinuationAbandoned = false) (htimer : t.reconnectTimer = none)
    (hlt : s.operationEpoch < t.operationEpoch) (hf : t.ledger.facts = s.ledger.facts) :
    Cancelled s (t.closeRequested p) := by
  have haccepts : acceptsDisconnect t.toSessionState = true := by
    simp [acceptsDisconnect, hsd, hna]
  unfold closeRequested
  split
  · exact ⟨⟨[], hf, by simp⟩, .inl haccepts⟩
  · rw [closeConnection_eq]
    unfold finishClose
    split
    · refine Renounces.cancelled (.told (by rw [← hf]; rfl) ?_) ⟨htimer, .inr (.inl rfl)⟩
      exact hlt
    · refine ⟨⟨[], hf, by simp⟩, .inl ?_⟩
      simp [acceptsDisconnect, hsd, hna]

theorem step_cancelReconnect_cancelled (hs : Inv s) (hsd : s.isShutdown = false)
    (hp : Pursuing s.toSessionState) :
    Cancelled s ((deviceSession p).step s (.operation .cancelReconnect)) := by
  obtain ⟨hbusy, hna⟩ := hp
  have hstep : (deviceSession p).step s (.operation .cancelReconnect) =
      s.cancelReconnect p (reentry p) := rfl
  rw [hstep]
  unfold cancelReconnect cancelAutomaticReconnect cancelActive
  rw [if_neg (by simp [hsd])]
  split
  · refine ⟨⟨[_], rfl, ?_⟩, .inl (by simp [acceptsDisconnect, hsd, hna])⟩
    intro fact hfact
    obtain rfl := List.mem_singleton.1 hfact
    refine .inl ⟨rfl, ?_, ?_, ?_⟩ <;> rcases hbusy with h | h | h <;> simp [factOf, snapshot, h]
  · rename_i hactive
    have hactive : ¬ (!cancelsActiveReconnect s.toSessionState) = true := hactive
    rw [Bool.not_eq_true, Bool.not_eq_false'] at hactive
    dsimp only
    split
    · rename_i hclose
      rw [beginClose_eq (by exact hclose)]
      exact closeRequested_cancelled hsd (by simp [hna]) rfl (Nat.lt_succ_self _) rfl
    · rename_i hidle
      have hnone : s.connection = none := by simp_all
      have hnf : s.isCloseInFlight = false := by simp_all
      let idle := ((({ s with isReconnectCancelled := true }.prepareCancel).nextEpoch.enter
        .idle).publish .cancelled false .none)
      have hidles : Renounces s idle := .told rfl (Nat.lt_succ_self _)
      split
      · rename_i hrestart
        have hhead : Head p s (.operation .cancelReconnect) idle :=
          .cancelIdle .requested hsd hactive hnone hnf
        have hmoves : Moves p (.operation .cancelReconnect) idle
            (idle.startConnection p (reentry p) .incomingEnable false) :=
          startConnection_moves reentry_sound (hhead.coherent hs.coherent) (.incoming hrestart.2)
        have hrenounces := hidles.later (Nat.lt_succ_self _) hmoves.later
        refine hrenounces.cancelled ?_
        rcases startListener_tries (p := p) (r := reentry p) (s := idle) hnone with
          hsame | htries
        · rw [hsame]
          exact ⟨rfl, .inl rfl⟩
        · exact htries.released
      · exact hidles.cancelled ⟨rfl, .inl rfl⟩

end Session

end PlaybackConnector
