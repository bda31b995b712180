import PlaybackConnector.Session.Suspension

/-!
# No stuck busy session

A session that reports itself busy waits for a callback that its guards will let through: the
completion of its close or the end of the cooldown, the reconnect timer, the completion of `Start`
or of `Open`. One lemma for each function, in the order of `Control` and `Operations`, says that
the function leaves the session settled in this sense.

The end of a close is where it fails: `ScheduleTransientOpenRetry` returns at once when the
reconnect was cancelled meanwhile, and `CompleteSuspendClose` when the suspension was released, and
both leave `Disconnecting` behind. In the runs without such an end, and only in these, no session
is stuck (`not_stuck_iff`).
-/

namespace PlaybackConnector

namespace Session

variable {p : Platform} {e : Event} {r : Reentry} {s t u : Session}

/-! ## Settled sessions -/

/-- There is no close, and no cooldown of one. -/
structure NoClose (s : SessionState) : Prop where
  notInFlight : s.isCloseInFlight = false
  notCooldown : s.isCloseCooldown = false

/-- The close in flight will be completed, and its cooldown will end. -/
structure CloseOwed (s : Session) : Prop where
  completion : s.isCloseInFlight = true → s.isCloseCooldown = false →
    .closeBarrier s.closeBarrierEpoch false ∈ s.ledger.outstanding
  cooldown : s.isCloseCooldown = true → s.isCloseInFlight = true ∧
    .closeCooldown s.closeBarrierEpoch ∈ s.ledger.outstanding

/-- A reconnect timer of the present epochs is armed. -/
def ReconnectArmed (s : Session) : Prop :=
  ∃ t, s.reconnectTimer = some t ∧ t.continuation ∈ s.ledger.outstanding ∧
    (t.continuation = .retryTimer s.timerEpoch s.operationEpoch ∨
      t.continuation = .transientOpenRetryTimer s.timerEpoch s.operationEpoch)

/-- A completion of `Start` or of `Open` is outstanding, for the session's connection and epoch. -/
def CompletionOwed (s : Session) : Prop :=
  ∃ c, s.connection = some c ∧ (.connection .started s.operationEpoch c ∈ s.ledger.outstanding ∨
    .connection .opened s.operationEpoch c ∈ s.ledger.outstanding)

/-- What holds of a session between its tasks, when no close has ended badly. -/
structure Settled (s : Session) : Prop extends CloseOwed s where
  disconnecting : s.lifecycle = .disconnecting → s.isCloseInFlight = true
  waiting : s.lifecycle = .waitingForReconnect → ReconnectArmed s
  connecting : s.lifecycle = .connecting → CompletionOwed s
  connected : s.lifecycle = .connected → s.connection.isSome
  closing : s.isCloseInFlight = true → s.isCloseContinuationAbandoned = false →
    s.lifecycle = .disconnecting

theorem NoClose.closeOwed (h : NoClose s.toSessionState) : CloseOwed s :=
  ⟨fun hf => by simp [h.notInFlight] at hf, fun hc => by simp [h.notCooldown] at hc⟩

theorem CloseOwed.noClose (h : CloseOwed s) (hnf : s.isCloseInFlight = false) :
    NoClose s.toSessionState := by
  refine ⟨hnf, ?_⟩
  cases hc : s.isCloseCooldown with
  | false => rfl
  | true => simp [(h.cooldown hc).1] at hnf

/-- A session at rest is settled. -/
theorem settled_atRest (h : NoClose s.toSessionState)
    (hl : s.lifecycle = .idle ∨ s.lifecycle = .failed) : Settled s := by
  refine ⟨h.closeOwed, ?_, ?_, ?_, ?_, fun hf => by simp [h.notInFlight] at hf⟩ <;>
    intro hlife <;> rcases hl with hl | hl <;> simp [hl] at hlife

theorem settled_connected (h : NoClose s.toSessionState) (hl : s.lifecycle = .connected)
    (hc : s.connection.isSome) : Settled s := by
  refine ⟨h.closeOwed, ?_, ?_, ?_, fun _ => hc, fun hf => by simp [h.notInFlight] at hf⟩ <;>
    intro hlife <;> simp [hl] at hlife

theorem settled_waiting (h : NoClose s.toSessionState) (hl : s.lifecycle = .waitingForReconnect)
    (harmed : ReconnectArmed s) : Settled s := by
  refine ⟨h.closeOwed, ?_, fun _ => harmed, ?_, ?_, fun hf => by simp [h.notInFlight] at hf⟩ <;>
    intro hlife <;> simp [hl] at hlife

theorem settled_connecting (h : NoClose s.toSessionState) (hl : s.lifecycle = .connecting)
    (howed : CompletionOwed s) : Settled s := by
  refine ⟨h.closeOwed, ?_, ?_, fun _ => howed, ?_, fun hf => by simp [h.notInFlight] at hf⟩ <;>
    intro hlife <;> simp [hl] at hlife

theorem settled_closing (h : CloseOwed s) (hf : s.isCloseInFlight = true)
    (hl : s.lifecycle = .disconnecting ∨
      s.lifecycle = .failed ∧ s.isCloseContinuationAbandoned = true) : Settled s := by
  refine ⟨h, fun _ => hf, ?_, ?_, ?_, ?_⟩
  · intro hlife
    rcases hl with hl | hl <;> simp [hl] at hlife
  · intro hlife
    rcases hl with hl | hl <;> simp [hl] at hlife
  · intro hlife
    rcases hl with hl | hl <;> simp [hl] at hlife
  · intro _ ha
    rcases hl with hl | hl
    · exact hl
    · simp [hl.2] at ha

end Session

/-- The start of the incoming listener, at the end of a terminal failure, settles the session. -/
def Reentry.Settles (r : Reentry) : Prop :=
  ∀ s : Session, s.Settled → (r.startIncoming s).Settled

namespace Session

variable {p : Platform} {e : Event} {r : Reentry} {s t u : Session}

/-! ## Terminal failures and timers -/

theorem failTerminally_settled (hr : r.Settles) (hn : NoClose s.toSessionState)
    (result disconnectReason) : Settled (s.failTerminally r result disconnectReason) := by
  unfold failTerminally restoreIncomingListenerAfterTerminal
  split
  · exact settled_atRest ⟨hn.1, hn.2⟩ (.inr rfl)
  · dsimp only
    split
    · exact hr _ (settled_atRest ⟨hn.1, hn.2⟩ (.inr rfl))
    · exact settled_atRest ⟨hn.1, hn.2⟩ (.inr rfl)

theorem waitForReconnect_settled (hn : NoClose s.toSessionState) {continuation : Nat → Continuation}
    {delay : Nat} (hc : ∀ te, continuation te = .retryTimer te s.operationEpoch ∨
      continuation te = .transientOpenRetryTimer te s.operationEpoch)
    (harmed : ¬ (s.waitForReconnect p continuation delay).reconnectTimer.isNone = true)
    (result disconnectReason) :
    Settled ((s.waitForReconnect p continuation delay).publish result false disconnectReason) := by
  have htimer : p.schedule s.ledger.platformCalls = .timer := by
    by_contra h
    exact harmed (by simp [scheduled, h])
  refine settled_waiting ⟨hn.1, hn.2⟩ rfl ⟨⟨continuation (s.timerEpoch + 1), delay⟩, ?_, ?_, ?_⟩
  · simp [scheduled, htimer]
  · simp [scheduled, htimer]
  · exact hc _

theorem scheduleReconnect_settled (hr : r.Settles) (hn : NoClose s.toSessionState)
    (result shouldRetry completedAttempt disconnectReason) :
    Settled
      (s.scheduleReconnect p r result shouldRetry completedAttempt disconnectReason) := by
  unfold scheduleReconnect
  split
  · exact failTerminally_settled hr hn _ _
  · dsimp only
    split
    · exact failTerminally_settled hr (by exact ⟨hn.1, hn.2⟩) _ _
    · split
      · exact failTerminally_settled hr (by exact ⟨hn.1, hn.2⟩) _ _
      · rename_i harmed
        refine waitForReconnect_settled ?_ ?_ harmed _ _
        · exact ⟨hn.1, hn.2⟩
        · exact fun _ => .inl rfl

/-- A transient retry that is not refused. -/
theorem scheduleTransientOpenRetry_settled (hr : r.Settles) (hn : NoClose s.toSessionState)
    (hsd : s.isShutdown = false) (hsu : s.isSuspended = false)
    (hrc : s.isReconnectCancelled = false) (result completedScheduledCooldown) :
    Settled (s.scheduleTransientOpenRetry p r s.operationEpoch result
      completedScheduledCooldown) := by
  unfold scheduleTransientOpenRetry
  rw [if_neg (by simp [hsd, hsu, hrc])]
  dsimp only
  split
  · exact failTerminally_settled hr (by exact ⟨hn.1, hn.2⟩) _ _
  · split
    · exact failTerminally_settled hr (by exact ⟨hn.1, hn.2⟩) _ _
    · rename_i harmed
      refine waitForReconnect_settled ?_ ?_ harmed _ _
      · exact ⟨hn.1, hn.2⟩
      · exact fun _ => .inr rfl

/-! ## The close barrier -/

/-- A requested close is in flight, or has failed for want of a timer. -/
theorem closeRequested_settled (hc : CloseOwed s) (hdisc : s.lifecycle = .disconnecting) :
    Settled (s.closeRequested p) := by
  unfold closeRequested
  split
  · rename_i hf
    exact settled_closing hc hf (.inl hdisc)
  · rename_i hnf
    have hn := hc.noClose (by simpa using hnf)
    rw [closeConnection_eq]
    unfold finishClose
    have howed : CloseOwed (s.detach p).callClose :=
      ⟨fun _ _ => by simp, fun hcool => by simp [hn.notCooldown] at hcool⟩
    split
    · exact settled_closing ⟨howed.1, howed.2⟩ rfl (.inr ⟨rfl, rfl⟩)
    · exact settled_closing howed rfl (.inl hdisc)

/-! ## Creation -/

theorem completeFailure_settled (hr : r.Settles) (hn : NoClose s.toSessionState)
    (hsd : s.isShutdown = false) (result) {transient : Bool}
    (ht : transient = true → s.connection.isSome) :
    Settled (s.completeFailure p r s.operationEpoch result transient) := by
  unfold completeFailure
  rw [if_neg (by simp [hsd])]
  dsimp only
  cases hc : s.connection with
  | none =>
    rw [revokeStateChanged_of_none hc, if_pos (by simp [hc]),
      if_neg (by cases transient <;> simp_all)]
    exact scheduleReconnect_settled hr hn _ _ _ _
  | some c =>
    rw [if_neg (by simp [hc]), beginClose_eq (by simp [hc])]
    exact closeRequested_settled (NoClose.closeOwed ⟨hn.1, hn.2⟩) rfl

theorem startCreated_settled (hr : r.Settles) (hn : NoClose s.toSessionState)
    (hsd : s.isShutdown = false) (hl : s.lifecycle = .connecting) {c : NativeConnection}
    (hc : s.connection = some c) : Settled (s.startCreated p r s.operationEpoch c) := by
  unfold startCreated
  split
  · dsimp only
    split
    · rename_i hstart
      refine settled_connecting ⟨hn.1, hn.2⟩ hl ⟨c, hc, .inl ?_⟩
      dsimp
      rw [if_pos (by exact hstart)]
      exact List.mem_cons_self
    · exact completeFailure_settled hr (by exact ⟨hn.1, hn.2⟩) (by exact hsd) _ (by simp)
  · exact completeFailure_settled hr (by exact ⟨hn.1, hn.2⟩) (by exact hsd) _ (by simp)

theorem finishCreate_settled (hr : r.Settles) (hn : NoClose u.toSessionState)
    (hsd : u.isShutdown = false) :
    Settled ((u.createConnection p u.operationEpoch).finishCreate p r u.operationEpoch) := by
  unfold finishCreate
  split
  · exact completeFailure_settled hr (by exact ⟨hn.1, hn.2⟩) (by exact hsd) _ (by simp)
  · rename_i c hc
    exact startCreated_settled hr (by exact ⟨hn.1, hn.2⟩) (by exact hsd) (by rfl) (by exact hc)

/-- A start that does not return at once. -/
theorem canStart_settled (hr : r.Settles) (hcan : CanStart s) (hcool : s.isCloseCooldown = false)
    (operation openImmediately) : Settled (s.startConnection p r operation openImmediately) := by
  cases hc : s.connection with
  | none =>
    rw [startConnection_of_canStart hcan hc]
    exact finishCreate_settled (u := s.prepareStart operation openImmediately) hr
      ⟨hcan.notInFlight, hcool⟩ hcan.notShutdown
  | some c =>
    obtain ⟨hsd, hsu, hnf, hconn, hdisc, hname⟩ := hcan
    unfold startConnection launch
    rw [if_neg (by simp [hsd, hsu, hname]), if_neg (by simp [hnf, hconn, hdisc]),
      if_pos (by simp [hc]), beginClose_eq (by simp [hc])]
    exact closeRequested_settled (NoClose.closeOwed ⟨hnf, hcool⟩) rfl

theorem startConnection_settled (hr : r.Settles) (hs : Settled s) (operation openImmediately) :
    Settled (s.startConnection p r operation openImmediately) := by
  by_cases hcan : CanStart s
  · exact canStart_settled hr hcan (hs.noClose hcan.notInFlight).notCooldown _ _
  · unfold startConnection
    split
    · exact hs
    split
    · exact hs
    exact absurd (by constructor <;> simp_all) hcan

/-- The start of the incoming listener settles the session. -/
theorem reentry_settles : (reentry p).Settles := fun _ hs =>
  startConnection_settled (fun _ hs => hs) hs _ _

/-! ## The end of a close -/

theorem startAfterResume_settled (hr : r.Settles) (hs : Settled s) :
    Settled (s.startAfterResume p r) := by
  have htake : Settled s.takeRequired := ⟨⟨hs.1.1, hs.1.2⟩, hs.2, hs.3, hs.4, hs.5, hs.6⟩
  unfold startAfterResume
  split
  · exact startConnection_settled hr htake _ _
  split
  · exact startConnection_settled hr hs _ _
  · exact ⟨⟨hs.1.1, hs.1.2⟩, hs.2, hs.3, hs.4, hs.5, hs.6⟩

/-- The start of the incoming listener that `ContinueAfterClose` and `Disconnect` end in. -/
theorem restoreIncoming_settled (hr : r.Settles) (hn : NoClose s.toSessionState)
    (hl : s.lifecycle = .idle) :
    Settled (if s.restoreIncomingAfterClose ∧ s.isIncomingEnabled ∧ !s.isSuspended then
      { s with restoreIncomingAfterClose := false }.startConnection p r .incomingEnable false
      else s) := by
  have hforget : Settled { s with restoreIncomingAfterClose := false } :=
    settled_atRest ⟨hn.1, hn.2⟩ (.inl hl)
  split
  · exact startConnection_settled hr hforget _ _
  · exact settled_atRest hn (.inl hl)

/-- What follows the close is refused when its turn comes. -/
def StaleContinuation (s : SessionState) : Prop :=
  s.isCloseContinuationAbandoned = false ∧
    (s.pendingCloseContinuation = .transientOpenRetry ∧ s.isReconnectCancelled = true ∨
      s.pendingCloseContinuation = .suspend ∧ (s.isSuspended = false ∨
        s.isSuspendClosePending = false ∨ s.suspendCloseEpoch ≠ s.operationEpoch))

/-- The end of a close settles the session, unless what follows it is refused. -/
theorem completeCloseCooldown_settled (hr : r.Settles) (hs : Coherent s.toSessionState)
    (hsd : s.isShutdown = false) (hf : s.isCloseInFlight = true) (hcool : s.isCloseCooldown = true)
    (hstale : ¬ StaleContinuation s.toSessionState) (completedScheduledCooldown) :
    Settled (s.completeCloseCooldown p r s.closeBarrierEpoch completedScheduledCooldown) := by
  have hn : NoClose s.endCooldown.clearPendingClose.toSessionState := ⟨rfl, rfl⟩
  unfold completeCloseCooldown
  rw [if_neg (by simp [hsd, hf, hcool])]
  unfold continueAfterClose
  rw [if_neg (by simp [hsd])]
  dsimp only
  cases ha : s.isCloseContinuationAbandoned with
  | true =>
    rw [if_pos (by exact ha)]
    unfold restoreIncomingListenerAfterTerminal
    split
    · exact settled_atRest ⟨rfl, rfl⟩ (.inl rfl)
    · dsimp only
      split
      · exact hr _ (settled_atRest ⟨rfl, rfl⟩ (.inl rfl))
      · exact settled_atRest ⟨rfl, rfl⟩ (.inl rfl)
  | false =>
    rw [if_neg (by simp [ha])]
    have hpending : s.endCooldown.pendingCloseContinuation = s.pendingCloseContinuation := rfl
    have hactive := hs.active hf
    rw [hpending]
    cases hcont : s.pendingCloseContinuation with
    | replace =>
      have hsu : s.isSuspended = false := hactive (.inl hcont)
      dsimp only
      unfold beginCreate
      rw [if_neg (by simp [hsd, hsu])]
      exact finishCreate_settled (u := s.endCooldown.clearPendingClose) hr hn hsd
    | retry => exact scheduleReconnect_settled hr hn _ _ _ _
    | transientOpenRetry =>
      have hsu : s.isSuspended = false := hactive (.inr hcont)
      have hrc : s.isReconnectCancelled = false := by
        cases h : s.isReconnectCancelled with
        | false => rfl
        | true => exact absurd ⟨ha, .inl ⟨hcont, h⟩⟩ hstale
      exact scheduleTransientOpenRetry_settled (s := s.endCooldown.clearPendingClose) hr hn hsd hsu
        hrc _ _
    | suspend =>
      have hlive : s.isSuspended = true ∧ s.isSuspendClosePending = true ∧
          s.suspendCloseEpoch = s.operationEpoch := by
        by_contra h
        exact hstale ⟨ha, .inr ⟨hcont, by grind -linarith⟩⟩
      obtain ⟨hsu, hpend, hep⟩ := hlive
      dsimp only
      unfold completeSuspendClose
      rw [if_neg (by simp [hsd, hsu, hpend, hep])]
      dsimp only
      split
      · exact settled_atRest ⟨rfl, rfl⟩ (.inl rfl)
      · exact startAfterResume_settled hr (settled_atRest ⟨rfl, rfl⟩ (.inl rfl))
    | idle => exact restoreIncoming_settled hr ⟨rfl, rfl⟩ rfl

/-! ## Callbacks -/

/-- The guard of the callback lets it through. -/
def Accepts (s : SessionState) : Continuation → Prop
  | .connection _ epoch expectedConnection => isCurrentConnection s epoch expectedConnection = true
  | .closeBarrier closeBarrierEpoch _ => s.isShutdown = false ∧ s.isCloseInFlight = true ∧
      s.isCloseCooldown = false ∧ closeBarrierEpoch = s.closeBarrierEpoch
  | .closeCooldown closeBarrierEpoch => s.isShutdown = false ∧ s.isCloseInFlight = true ∧
      s.isCloseCooldown = true ∧ closeBarrierEpoch = s.closeBarrierEpoch
  | .retryTimer timerEpoch operationEpoch | .transientOpenRetryTimer timerEpoch operationEpoch =>
    isStaleTimer s timerEpoch operationEpoch = false

/-- A callback that the guards do not let through is not one that the session waits for. -/
theorem deliver_settled (hcoh : Coherent s.toSessionState) (hsd : s.isShutdown = false)
    (hs : Settled s) {c : Continuation} (hc : ¬ Accepts s.toSessionState c) :
    Settled (s.deliver c) := by
  have hkeep {c' : Continuation} (hmem : c' ∈ s.ledger.outstanding)
      (haccepts : Accepts s.toSessionState c') : c' ∈ s.ledger.outstanding.erase c := by
    refine (List.mem_erase_of_ne fun h => ?_).2 hmem
    exact hc (h ▸ haccepts)
  refine ⟨⟨fun hf hcool => ?_, fun hcool => ?_⟩, hs.disconnecting, fun hl => ?_, fun hl => ?_,
    hs.connected, hs.closing⟩
  · exact hkeep (hs.completion hf hcool) ⟨hsd, hf, hcool, rfl⟩
  · obtain ⟨hf, hmem⟩ := hs.cooldown hcool
    exact ⟨hf, hkeep hmem ⟨hsd, hf, hcool, rfl⟩⟩
  · obtain ⟨t, ht, hmem, hcont⟩ := hs.waiting hl
    have hl' : s.lifecycle = .waitingForReconnect := hl
    have hsu := (hcoh.waiting hl').2
    refine ⟨t, ht, hkeep hmem ?_, hcont⟩
    rcases hcont with h | h <;> rw [h] <;> simp [Accepts, isStaleTimer, hsd, hsu, hl']
  · obtain ⟨c', hc', howed⟩ := hs.connecting hl
    have hcur : isCurrentConnection s.toSessionState s.operationEpoch c' = true := by
      simp [hsd, hc']
    rcases howed with h | h
    · exact ⟨c', hc', .inl (hkeep h hcur)⟩
    · exact ⟨c', hc', .inr (hkeep h hcur)⟩

/-- A session with a close in flight. -/
theorem settled_inFlight (hcoh : Coherent s.toSessionState) (h : CloseOwed s)
    (hf : s.isCloseInFlight = true) (hconn : s.lifecycle ≠ .connected)
    (hclosing : s.isCloseContinuationAbandoned = false → s.lifecycle = .disconnecting) :
    Settled s := by
  refine ⟨h, fun _ => hf, fun hl => ?_, fun hl => ?_, fun hl => absurd hl hconn,
    fun _ => hclosing⟩
  · simp [(hcoh.waiting hl).1] at hf
  · simp [(hcoh.connecting hl).1] at hf

/-- The callback of a connection is one that only a `Connecting` session waits for. -/
theorem deliver_connection_settled (hs : Settled s) (hl : s.lifecycle ≠ .connecting)
    {callback : ConnectionCallback} {epoch : Nat} {c : NativeConnection} :
    Settled (s.deliver (.connection callback epoch c)) := by
  refine ⟨⟨fun hf hcool => ?_, fun hcool => ?_⟩, hs.disconnecting, fun hwait => ?_,
    fun hconn => absurd hconn hl, hs.connected, hs.closing⟩
  · exact (List.mem_erase_of_ne (by simp)).2 (hs.completion hf hcool)
  · exact ⟨(hs.cooldown hcool).1, (List.mem_erase_of_ne (by simp)).2 (hs.cooldown hcool).2⟩
  · obtain ⟨t, ht, hmem, hcont⟩ := hs.waiting hwait
    refine ⟨t, ht, (List.mem_erase_of_ne ?_).2 hmem, hcont⟩
    rcases hcont with h | h <;> simp [h]

/-- A session with a connection has no close in flight. -/
theorem noClose_of_current (hcoh : Coherent s.toSessionState) {epoch : Nat} {c : NativeConnection}
    (hcur : isCurrentConnection s.toSessionState epoch c = true) : NoClose s.toSessionState := by
  obtain ⟨-, -, c', hc', -⟩ := isCurrentConnection_iff.1 hcur
  have hnf := hcoh.notInFlight (by simp [hc'])
  exact ⟨hnf, hcoh.notCooldown hnf⟩

/-- `Open` is called: its completion is owed. -/
theorem openConnection_settled (hn : NoClose s.toSessionState) {c : NativeConnection}
    (hc : s.connection = some c) (hs : s.lifecycle ≠ .connecting → Settled s)
    (hopen : p.openConnection s.ledger.platformCalls = true) :
    Settled (s.openConnection p s.operationEpoch c) := by
  by_cases hl : s.lifecycle = .connecting
  · exact settled_connecting ⟨hn.1, hn.2⟩ hl ⟨c, hc, .inr (by simp [hopen])⟩
  · refine ⟨NoClose.closeOwed ⟨hn.1, hn.2⟩, (hs hl).disconnecting, fun hwait => ?_,
      fun hconn => absurd hconn hl, (hs hl).connected, (hs hl).closing⟩
    obtain ⟨t, ht, hmem, hcont⟩ := (hs hl).waiting hwait
    exact ⟨t, ht, by simp [hopen, hmem], hcont⟩

theorem onStarted_settled (hr : r.Settles) (hn : NoClose s.toSessionState)
    (hs : s.lifecycle ≠ .connecting → Settled s) {epoch : Nat} {c : NativeConnection}
    (hcur : isCurrentConnection s.toSessionState epoch c = true) (result) :
    Settled (s.onStarted p r epoch c result) := by
  obtain ⟨hsd, rfl, c', hc', -⟩ := isCurrentConnection_iff.1 hcur
  unfold onStarted
  rw [if_neg (by simp [hcur])]
  split
  · exact settled_connected hn ‹_› (by simp [hc'])
  split
  · exact completeFailure_settled hr hn hsd _ (by simp)
  split
  · exact settled_atRest ⟨hn.1, hn.2⟩ (.inl rfl)
  simp only [hc', Option.getD_some]
  split
  · exact openConnection_settled hn hc' hs ‹_›
  · exact completeFailure_settled hr (by exact ⟨hn.1, hn.2⟩) (by exact hsd) _ (by simp)

theorem onOpened_settled (hr : r.Settles) (hn : NoClose s.toSessionState)
    {epoch : Nat} {c : NativeConnection}
    (hcur : isCurrentConnection s.toSessionState epoch c = true) (openResult) :
    Settled (s.onOpened p r epoch c openResult) := by
  obtain ⟨hsd, rfl, c', hc', -⟩ := isCurrentConnection_iff.1 hcur
  have hsome : s.connection.isSome := by simp [hc']
  unfold onOpened
  rw [if_neg (by simp [hcur])]
  split
  · exact settled_connected hn ‹_› hsome
  split
  · exact completeFailure_settled hr hn hsd _ fun _ => hsome
  · exact settled_connected ⟨hn.1, hn.2⟩ rfl hsome

theorem onFailurePosted_settled (hr : r.Settles) (hn : NoClose s.toSessionState)
    {epoch : Nat} {c : NativeConnection}
    (hcur : isCurrentConnection s.toSessionState epoch c = true) :
    Settled (s.onFailurePosted p r epoch c) := by
  obtain ⟨hsd, rfl, c', hc', -⟩ := isCurrentConnection_iff.1 hcur
  unfold onFailurePosted
  rw [if_pos hcur]
  exact completeFailure_settled hr hn hsd _ (by simp)

theorem onStateChanged_settled (hr : r.Settles) (hn : NoClose s.toSessionState)
    (hs : s.lifecycle ≠ .connecting → Settled s) {epoch : Nat} {c : NativeConnection}
    (hcur : isCurrentConnection s.toSessionState epoch c = true) (state) :
    Settled (s.onStateChanged p r epoch c state) := by
  obtain ⟨hsd, rfl, c', hc', -⟩ := isCurrentConnection_iff.1 hcur
  have hsome : s.connection.isSome := by simp [hc']
  unfold onStateChanged
  rw [if_neg (by simp [hcur, hsd])]
  dsimp only
  split
  · exact settled_connected ⟨hn.1, hn.2⟩ rfl hsome
  split
  · rename_i hdisc
    exact hs (by simp [hdisc])
  split
  · rename_i hwait
    exact hs (by simp [hwait.2])
  split
  · split
    · exact settled_atRest ⟨hn.1, hn.2⟩ (.inl rfl)
    · exact scheduleReconnect_settled hr hn _ _ _ _
  · have hdropped : NoClose s.dropConnection.toSessionState := ⟨hn.1, hn.2⟩
    split
    · have hidle : Settled ((s.dropConnection.enter .idle).publish .success false .none) :=
        settled_atRest ⟨hn.1, hn.2⟩ (.inl rfl)
      exact startConnection_settled hr hidle _ _
    · exact scheduleReconnect_settled hr hdropped _ _ _ _

/-- What a timer whose guard lets it through finds. -/
theorem noClose_of_waiting (hcoh : Coherent s.toSessionState)
    (hl : s.lifecycle = .waitingForReconnect) : NoClose s.toSessionState :=
  ⟨(hcoh.waiting hl).1, hcoh.notCooldown (hcoh.waiting hl).1⟩

theorem onRetryTimer_settled (hr : r.Settles) (hcoh : Coherent s.toSessionState)
    {timerEpoch operationEpoch : Nat}
    (hfresh : ¬ isStaleTimer s.toSessionState timerEpoch operationEpoch = true) :
    Settled (s.onRetryTimer p r timerEpoch operationEpoch) := by
  obtain ⟨hsd, hsu, -, -, hl⟩ := isStaleTimer_false hfresh
  have hn := noClose_of_waiting hcoh hl
  have hname : s.deviceId ≠ [] := fun h => (hcoh.unnamed h).2.2.2 hl
  have hcan : CanStart { s with reconnectTimer := none } :=
    ⟨hsd, hsu, hn.1, by simp [hl], by simp [hl], hname⟩
  unfold onRetryTimer
  rw [if_neg hfresh]
  exact canStart_settled hr hcan hn.2 _ _

theorem onTransientOpenRetryTimer_settled (hr : r.Settles) (hcoh : Coherent s.toSessionState)
    {timerEpoch operationEpoch : Nat}
    (hfresh : ¬ isStaleTimer s.toSessionState timerEpoch operationEpoch = true) :
    Settled (s.onTransientOpenRetryTimer p r timerEpoch operationEpoch) := by
  obtain ⟨hsd, hsu, -, rfl, hl⟩ := isStaleTimer_false hfresh
  have hn := noClose_of_waiting hcoh hl
  unfold onTransientOpenRetryTimer beginCreate
  rw [if_neg hfresh, if_neg (by simp [hsd, hsu])]
  refine finishCreate_settled (u := { s with reconnectTimer := none }) hr ?_ hsd
  exact ⟨hn.1, hn.2⟩

/-- The cancellation of the close-barrier timer withdraws no completion of a close. -/
theorem mem_cancel_close (ht : TimersCoherent s) {c : Continuation} (hc : c.isClose = false)
    (hmem : c ∈ s.ledger.outstanding) :
    c ∈ (s.ledger.cancel s.closeBarrierTimer).outstanding := by
  cases htimer : s.closeBarrierTimer with
  | none => exact hmem
  | some t =>
    refine (List.mem_erase_of_ne fun h => ?_).2 hmem
    have hclose := ht.close t htimer
    rw [← h, hc] at hclose
    cases hclose

/-- The guard of `CompleteCloseBarrier`. -/
theorem accepts_closeBarrier {s : SessionState} {closeBarrierEpoch : Nat} {timedOut : Bool} :
    Accepts s (.closeBarrier closeBarrierEpoch timedOut) ↔
      ¬ (s.isShutdown = true ∨ (!s.isCloseInFlight) = true ∨ s.isCloseCooldown = true ∨
        closeBarrierEpoch ≠ s.closeBarrierEpoch) := by
  simp [Accepts, not_or]

/-- The guard of `CompleteCloseCooldown`. -/
theorem accepts_closeCooldown {s : SessionState} {closeBarrierEpoch : Nat} :
    Accepts s (.closeCooldown closeBarrierEpoch) ↔
      ¬ (s.isShutdown = true ∨ (!s.isCloseInFlight) = true ∨ (!s.isCloseCooldown) = true ∨
        closeBarrierEpoch ≠ s.closeBarrierEpoch) := by
  simp [Accepts, not_or]

/-- A close that timed out still waits for its completion. -/
theorem timeOut_settled (ht : TimersCoherent s) {closeBarrierEpoch : Nat}
    (haccepts : Accepts s.toSessionState (.closeBarrier closeBarrierEpoch true))
    (howed : .closeBarrier s.closeBarrierEpoch false ∈ s.ledger.outstanding) :
    Settled (s.completeCloseBarrier p r closeBarrierEpoch true) := by
  obtain ⟨-, hf, hcool, -⟩ := id haccepts
  unfold completeCloseBarrier
  rw [if_neg (accepts_closeBarrier.1 haccepts)]
  dsimp only
  rw [if_pos rfl]
  have hclose : CloseOwed (s.cancelCloseBarrierTimer.failClose .timedOut) :=
    ⟨fun _ _ => mem_cancel_close ht rfl howed, fun h => absurd h (by simp [hcool])⟩
  exact settled_closing hclose hf (.inr ⟨rfl, rfl⟩)

/-- A confirmed close: its cooldown begins, or is over at once. -/
theorem confirmClose_settled (hr : r.Settles) (hcoh : Coherent s.toSessionState)
    {closeBarrierEpoch : Nat}
    (haccepts : Accepts s.toSessionState (.closeBarrier closeBarrierEpoch false))
    (hclosing : s.isCloseContinuationAbandoned = false → s.lifecycle = .disconnecting)
    (hconn : s.lifecycle ≠ .connected)
    (hgood : p.schedule s.ledger.platformCalls ≠ .timer → ¬ StaleContinuation s.toSessionState) :
    Settled (s.completeCloseBarrier p r closeBarrierEpoch false) := by
  obtain ⟨hsd, hf, -, rfl⟩ := id haccepts
  have hcoh' : Coherent (s.cancelCloseBarrierTimer.beginCooldown p
      s.closeBarrierEpoch).toSessionState :=
    ⟨hcoh.1, fun h => absurd rfl h, fun _ => ⟨hf, rfl⟩, hcoh.4, hcoh.5, hcoh.6, hcoh.7, hcoh.8,
      hcoh.9, hcoh.10, hcoh.11, hcoh.12, hcoh.13, hcoh.14⟩
  unfold completeCloseBarrier
  rw [if_neg (accepts_closeBarrier.1 haccepts)]
  dsimp only
  rw [if_neg (by simp)]
  split
  · rename_i hunarmed
    have hschedule : p.schedule s.ledger.platformCalls ≠ .timer := fun h => by
      simp [scheduled, h] at hunarmed
    exact completeCloseCooldown_settled hr hcoh' hsd hf rfl (hgood hschedule) _
  · rename_i harmed
    have htimer : p.schedule s.ledger.platformCalls = .timer := by
      by_contra h
      exact harmed (by simp [scheduled, h])
    refine settled_inFlight hcoh' ⟨fun _ hcool => ?_, fun _ => ⟨hf, ?_⟩⟩ hf hconn hclosing
    · simp at hcool
    · simp [scheduled, htimer]

/-- The event ends a close whose continuation is refused. -/
def Strands (p : Platform) (s : Session) : Event → Prop
  | .closeBarrier closeBarrierEpoch false =>
    Accepts s.toSessionState (.closeBarrier closeBarrierEpoch false) ∧
      p.schedule s.ledger.platformCalls ≠ .timer ∧ StaleContinuation s.toSessionState
  | .closeCooldown closeBarrierEpoch =>
    Accepts s.toSessionState (.closeCooldown closeBarrierEpoch) ∧
      StaleContinuation s.toSessionState
  | _ => False

/-- A callback that its guard lets through settles the session, unless it ends a close whose
continuation is refused. -/
theorem accepted_settled (hinv : Inv s) (hs : Settled s) (hstrands : ¬ Strands p s e)
    {c : Continuation} (hc : e.continuation = some c) (haccepts : Accepts s.toSessionState c) :
    Settled ((deviceSession p).step s e) := by
  have hr : (reentry p).Settles := reentry_settles
  have hcoh := hinv.coherent
  have hnc {epoch c'} (hcur : isCurrentConnection s.toSessionState epoch c' = true) :
      NoClose s.toSessionState := noClose_of_current hcoh hcur
  cases e with
  | operation operation => cases hc
  | started epoch c' result =>
    cases hc
    exact onStarted_settled (s := s.deliver _) hr (hnc haccepts)
      (fun hl => deliver_connection_settled hs hl) haccepts _
  | opened epoch c' openResult =>
    cases hc
    exact onOpened_settled (s := s.deliver _) hr (hnc haccepts) haccepts _
  | stateChanged epoch c' state =>
    cases hc
    exact onStateChanged_settled (s := s.deliver _) hr (hnc haccepts)
      (fun hl => deliver_connection_settled hs hl) haccepts _
  | failurePosted callback epoch c' =>
    cases hc
    exact onFailurePosted_settled (s := s.deliver _) hr (hnc haccepts) haccepts
  | closeBarrier closeBarrierEpoch timedOut =>
    cases hc
    cases timedOut with
    | true =>
      refine timeOut_settled (s := s.deliver _) (hinv.deliver _).timers haccepts ?_
      exact (List.mem_erase_of_ne (by simp)).2 (hs.completion haccepts.2.1 haccepts.2.2.1)
    | false =>
      refine confirmClose_settled (s := s.deliver _) hr hcoh haccepts (hs.closing haccepts.2.1)
        (fun hl => ?_) fun hp hstale => hstrands ⟨haccepts, hp, hstale⟩
      have hsome := hs.connected hl
      simp [hcoh.inFlight haccepts.2.1] at hsome
  | closeCooldown closeBarrierEpoch =>
    cases hc
    obtain ⟨hsd, hf, hcool, rfl⟩ := id haccepts
    exact completeCloseCooldown_settled (s := s.deliver _) hr hcoh hsd hf hcool
      (fun hstale => hstrands ⟨haccepts, hstale⟩) _
  | retryTimer timerEpoch operationEpoch =>
    cases hc
    exact onRetryTimer_settled (s := s.deliver _) hr hcoh (ne_true_of_eq_false haccepts)
  | transientOpenRetryTimer timerEpoch operationEpoch =>
    cases hc
    exact onTransientOpenRetryTimer_settled (s := s.deliver _) hr hcoh
      (ne_true_of_eq_false haccepts)

/-- A callback that its guard does not let through does nothing. -/
theorem refused_step {c : Continuation} (hc : e.continuation = some c)
    (hrefused : ¬ Accepts s.toSessionState c) : (deviceSession p).step s e = s.deliver c := by
  have hnot {b : Bool} (h : ¬ b = true) : (!b) = true := by simpa using h
  cases e <;> cases hc
  case started => exact if_pos (hnot hrefused)
  case opened => exact if_pos (hnot hrefused)
  case stateChanged => exact if_pos (.inl (hnot hrefused))
  case failurePosted => exact if_neg hrefused
  case closeBarrier =>
    rw [accepts_closeBarrier, not_not] at hrefused
    exact if_pos hrefused
  case closeCooldown =>
    rw [accepts_closeCooldown, not_not] at hrefused
    exact if_pos hrefused
  case retryTimer => exact if_pos (eq_true_of_ne_false hrefused)
  case transientOpenRetryTimer => exact if_pos (eq_true_of_ne_false hrefused)

/-! ## Operations -/

/-- The cancellation of the reconnect timer withdraws no other callback. -/
theorem mem_cancel_reconnect (ht : TimersCoherent s) {c : Continuation} (hc : c.isReconnect = false)
    (hmem : c ∈ s.ledger.outstanding) : c ∈ (s.ledger.cancel s.reconnectTimer).outstanding := by
  cases htimer : s.reconnectTimer with
  | none => exact hmem
  | some t =>
    refine (List.mem_erase_of_ne fun h => ?_).2 hmem
    have hreconnect := ht.reconnect t htimer
    rw [← h, hc] at hreconnect
    cases hreconnect

theorem cancelTimer_closeOwed (ht : TimersCoherent s) (hs : CloseOwed s) :
    CloseOwed s.cancelTimer := by
  refine ⟨fun hf hcool => ?_, fun hcool => ?_⟩
  · exact mem_cancel_reconnect ht rfl (hs.completion hf hcool)
  · exact ⟨(hs.cooldown hcool).1, mem_cancel_reconnect ht rfl (hs.cooldown hcool).2⟩

/-- Only a session that waits for a reconnect misses its timer. -/
theorem cancelTimer_settled (ht : TimersCoherent s) (hs : Settled s)
    (hl : s.lifecycle ≠ .waitingForReconnect) : Settled s.cancelTimer := by
  refine ⟨cancelTimer_closeOwed ht hs.1, hs.disconnecting, fun h => absurd h hl, fun h => ?_,
    hs.connected, hs.closing⟩
  obtain ⟨c, hc, howed⟩ := hs.connecting h
  exact ⟨c, hc, howed.imp (mem_cancel_reconnect ht rfl) (mem_cancel_reconnect ht rfl)⟩

/-- There is something to close. -/
theorem busy_of_not_idle {s : SessionState}
    (h : ¬ (s.connection.isNone = true ∧ (!s.isCloseInFlight) = true)) :
    s.connection.isSome ∨ s.isCloseInFlight = true := by
  cases hc : s.connection <;> simp_all

/-- A close that is requested of a session that cancelled its timer. -/
theorem beginClose_settled (hbusy : s.connection.isSome ∨ s.isCloseInFlight = true)
    (hc : CloseOwed s) (hl : s.lifecycle = .disconnecting) (epoch continuation failure shouldRetry
    completedAttempt disconnectReason) :
    Settled (s.beginClose p r epoch continuation failure shouldRetry completedAttempt
      disconnectReason) := by
  rw [beginClose_eq hbusy]
  exact closeRequested_settled ⟨hc.1, hc.2⟩ hl

theorem connect_settled (hr : r.Settles) (ht : TimersCoherent s) (hs : Settled s)
    (operation openImmediately) : Settled (s.connect p r operation openImmediately) := by
  have hrelease : Settled s.releaseHold := ⟨⟨hs.1.1, hs.1.2⟩, hs.2, hs.3, hs.4, hs.5, hs.6⟩
  have howed := cancelTimer_closeOwed ht hs.1
  unfold connect
  split
  · exact hs
  split
  · unfold supersedePowerTransitionRecovery
    dsimp only
    split
    · exact startConnection_settled hr hrelease _ _
    split
    · exact hrelease
    · rename_i hf _
      refine beginClose_settled (.inr (by simpa using hf)) ?_ rfl _ _ _ _ _ _
      exact ⟨howed.1, howed.2⟩
  · exact startConnection_settled hr hs _ _

theorem disconnect_settled (hr : r.Settles) (ht : TimersCoherent s) (hs : Settled s)
    (restoreIncoming) : Settled (s.disconnect p r restoreIncoming) := by
  have howed := cancelTimer_closeOwed ht hs.1
  unfold disconnect
  split
  · exact hs
  split
  · exact hs
  dsimp only
  split
  · rename_i hidle
    have hn := hs.noClose (by simpa using hidle.2)
    exact restoreIncoming_settled hr (by exact ⟨hn.1, hn.2⟩) (by rfl)
  · rename_i hbusy
    refine beginClose_settled ?_ ?_ rfl _ _ _ _ _ _
    · exact busy_of_not_idle hbusy
    · exact ⟨howed.1, howed.2⟩

theorem cancelAutomaticReconnect_settled (hr : r.Settles) (ht : TimersCoherent s)
    (hs : Settled s) (restoreIncoming) :
    Settled (s.cancelAutomaticReconnect p r restoreIncoming) := by
  have howed := cancelTimer_closeOwed ht hs.1
  unfold cancelAutomaticReconnect cancelActive
  split
  · rename_i hactive
    have hl : s.lifecycle ≠ .waitingForReconnect := fun h => by
      simp [cancelsActiveReconnect, h] at hactive
    have hcancel := cancelTimer_settled ht hs hl
    exact ⟨⟨hcancel.1.1, hcancel.1.2⟩, hcancel.2, hcancel.3, hcancel.4, hcancel.5, hcancel.6⟩
  dsimp only
  split
  · rename_i hbusy
    refine beginClose_settled ?_ ?_ rfl _ _ _ _ _ _
    · exact hbusy
    · exact ⟨howed.1, howed.2⟩
  · rename_i hbusy
    have hn := hs.noClose (by simpa using (not_or.1 hbusy).2)
    have hidle : Settled ((s.prepareCancel.nextEpoch.enter .idle).publish .cancelled false .none) :=
      settled_atRest ⟨hn.1, hn.2⟩ (.inl rfl)
    split
    · exact startConnection_settled hr hidle _ _
    · exact hidle

theorem cancelReconnect_settled (hr : r.Settles) (ht : TimersCoherent s) (hs : Settled s) :
    Settled (s.cancelReconnect p r) := by
  unfold cancelReconnect
  split
  · exact hs
  · refine cancelAutomaticReconnect_settled hr ?_ ?_ _
    · exact ⟨ht.1, ht.2, ht.3, ht.4⟩
    · exact ⟨⟨hs.1.1, hs.1.2⟩, hs.2, hs.3, hs.4, hs.5, hs.6⟩

theorem setReconnectEnabled_settled (hr : r.Settles) (ht : TimersCoherent s) (hs : Settled s)
    (enabled) : Settled (s.setReconnectEnabled p r enabled) := by
  unfold setReconnectEnabled
  split
  · exact hs
  dsimp only
  split
  · refine cancelAutomaticReconnect_settled hr ?_ ?_ _
    · exact ⟨ht.1, ht.2, ht.3, ht.4⟩
    · exact ⟨⟨hs.1.1, hs.1.2⟩, hs.2, hs.3, hs.4, hs.5, hs.6⟩
  · exact ⟨⟨hs.1.1, hs.1.2⟩, hs.2, hs.3, hs.4, hs.5, hs.6⟩

theorem setIncomingEnabled_settled (hr : r.Settles) (ht : TimersCoherent s) (hs : Settled s)
    (enabled) : Settled (s.setIncomingEnabled p r enabled) := by
  have hset : Settled { s with isIncomingEnabled := enabled } :=
    ⟨⟨hs.1.1, hs.1.2⟩, hs.2, hs.3, hs.4, hs.5, hs.6⟩
  unfold setIncomingEnabled
  split
  · exact hs
  dsimp only
  split
  · refine disconnect_settled hr ?_ hset _
    exact ⟨ht.1, ht.2, ht.3, ht.4⟩
  split
  · exact startConnection_settled hr hset _ _
  · exact ⟨⟨hset.1.1, hset.1.2⟩, hset.2, hset.3, hset.4, hset.5, hset.6⟩

theorem handleDeviceRemoved_settled (hr : r.Settles) (ht : TimersCoherent s) (hs : Settled s) :
    Settled (s.handleDeviceRemoved p r) := by
  have howed := cancelTimer_closeOwed ht hs.1
  unfold handleDeviceRemoved
  split
  · exact hs
  unfold removeDevice
  dsimp only
  split
  · rename_i hidle
    have hn := hs.noClose (by simpa using hidle.2.1)
    exact settled_atRest ⟨hn.1, hn.2⟩ (.inl hidle.2.2.1)
  split
  · rename_i hlistener
    have hsome : s.connection.isSome := by simp at hlistener; exact hlistener.1
    refine beginClose_settled ?_ ?_ rfl _ _ _ _ _ _
    · exact .inl hsome
    · exact ⟨howed.1, howed.2⟩
  split
  · rename_i hf
    refine beginClose_settled ?_ ?_ rfl _ _ _ _ _ _
    · exact .inr hf
    · exact ⟨howed.1, howed.2⟩
  rename_i hnf
  split
  · have hn := hs.noClose (by simpa using hnf)
    exact scheduleReconnect_settled hr (by exact ⟨hn.1, hn.2⟩) _ _ _ _
  · rename_i hconn
    refine beginClose_settled ?_ ?_ rfl _ _ _ _ _ _
    · exact .inl (Option.isSome_iff_ne_none.2 fun h => hconn (Option.isNone_iff_eq_none.2 h))
    · exact ⟨howed.1, howed.2⟩

theorem suspend_settled (ht : TimersCoherent s) (hs : Settled s) : Settled (s.suspend p r) := by
  have howed := cancelTimer_closeOwed ht hs.1
  unfold suspend
  split
  · exact hs
  dsimp only
  split
  · rename_i hbusy
    refine beginClose_settled ?_ ?_ rfl _ _ _ _ _ _
    · exact hbusy
    · exact ⟨howed.1, howed.2⟩
  · rename_i hbusy
    have hn := hs.noClose (by simpa using (not_or.1 hbusy).2)
    exact settled_atRest ⟨hn.1, hn.2⟩ (.inl rfl)

theorem resume_settled (hr : r.Settles) (hs : Settled s) : Settled (s.resume p r) := by
  have hrelease : Settled s.unsuspend := ⟨⟨hs.1.1, hs.1.2⟩, hs.2, hs.3, hs.4, hs.5, hs.6⟩
  unfold resume
  split
  · exact hs
  split
  · exact ⟨⟨hs.1.1, hs.1.2⟩, hs.2, hs.3, hs.4, hs.5, hs.6⟩
  · exact startAfterResume_settled hr hrelease

/-- A session that is shut down is settled. -/
theorem settled_shutdown (hcoh : Coherent s.toSessionState) (hsd : s.isShutdown = true) :
    Settled s := by
  obtain ⟨hnf, -, hl⟩ := hcoh.shutdown hsd
  exact settled_atRest ⟨hnf, hcoh.notCooldown hnf⟩ (.inl hl)

/-- Every operation settles the session. -/
theorem operate_settled (hinv : Inv s) (hs : Settled s) (operation : Operation) :
    Settled ((deviceSession p).step s (.operation operation)) := by
  have hr : (reentry p).Settles := reentry_settles
  have ht := hinv.timers
  cases operation with
  | connect operation openImmediately => exact connect_settled hr ht hs _ _
  | disconnect restoreIncoming => exact disconnect_settled hr ht hs _
  | cancelReconnect => exact cancelReconnect_settled hr ht hs
  | setReconnectEnabled enabled => exact setReconnectEnabled_settled hr ht hs _
  | setIncomingEnabled enabled => exact setIncomingEnabled_settled hr ht hs _
  | handleDeviceRemoved => exact handleDeviceRemoved_settled hr ht hs
  | suspend => exact suspend_settled ht hs
  | resume => exact resume_settled hr hs
  | resumeIdleAfterPowerTransition =>
    show Settled s.resumeIdleAfterPowerTransition
    unfold resumeIdleAfterPowerTransition
    split
    · exact hs
    · exact ⟨⟨hs.1.1, hs.1.2⟩, hs.2, hs.3, hs.4, hs.5, hs.6⟩
  | cancelPowerTransitionRecovery =>
    show Settled s.cancelPowerTransitionRecovery
    unfold cancelPowerTransitionRecovery
    split
    · exact hs
    · exact ⟨⟨hs.1.1, hs.1.2⟩, hs.2, hs.3, hs.4, hs.5, hs.6⟩
  | rename deviceName =>
    show Settled (s.rename deviceName)
    unfold rename
    split
    · exact hs
    · exact ⟨⟨hs.1.1, hs.1.2⟩, hs.2, hs.3, hs.4, hs.5, hs.6⟩
  | shutdown =>
    have hcoh := (step_inv (p := p) (enabled_operation .shutdown) hinv).coherent
    refine settled_shutdown hcoh ?_
    show s.shutdown.isShutdown = true
    unfold shutdown
    split
    · assumption
    · rfl

/-! ## Runs -/

theorem step_settled (hinv : Inv s) (hs : Settled s) (hstrands : ¬ Strands p s e) :
    Settled ((deviceSession p).step s e) := by
  cases hc : e.continuation with
  | none =>
    cases e <;> cases hc
    exact operate_settled hinv hs _
  | some c =>
    by_cases haccepts : Accepts s.toSessionState c
    · exact accepted_settled hinv hs hstrands hc haccepts
    · rw [refused_step hc haccepts]
      cases hsd : s.isShutdown with
      | true =>
        exact settled_shutdown (s := s.deliver c) hinv.coherent hsd
      | false => exact deliver_settled hinv.coherent hsd hs haccepts

/-- A session that is not stuck: a busy lifecycle comes with what it waits for, and a busy session
is owed a callback that its guard lets through. -/
structure NotStuck (s : Session) : Prop where
  disconnecting : s.lifecycle = .disconnecting → s.isCloseInFlight = true
  waiting : s.lifecycle = .waitingForReconnect → ReconnectArmed s
  connecting : s.lifecycle = .connecting → CompletionOwed s
  owed : isBusy s.toSessionState = true →
    ∃ c ∈ s.ledger.outstanding, Accepts s.toSessionState c

theorem Settled.notStuck (hs : Settled s) (hcoh : Coherent s.toSessionState)
    (hsd : s.isShutdown = false) : NotStuck s := by
  refine ⟨hs.disconnecting, hs.waiting, hs.connecting, fun hbusy => ?_⟩
  have hclose (hf : s.isCloseInFlight = true) :
      ∃ c ∈ s.ledger.outstanding, Accepts s.toSessionState c := by
    cases hcool : s.isCloseCooldown with
    | true => exact ⟨_, (hs.cooldown hcool).2, hsd, hf, hcool, rfl⟩
    | false => exact ⟨_, hs.completion hf hcool, hsd, hf, hcool, rfl⟩
  by_cases hf : s.isCloseInFlight = true
  · exact hclose hf
  have hlife : s.lifecycle = .connecting ∨ s.lifecycle = .disconnecting ∨
      s.lifecycle = .waitingForReconnect := by
    simpa [isBusy, hf, or_assoc] using hbusy
  rcases hlife with hl | hl | hl
  · obtain ⟨c, hc, howed⟩ := hs.connecting hl
    have hcur : isCurrentConnection s.toSessionState s.operationEpoch c = true := by simp [hsd, hc]
    rcases howed with h | h
    · exact ⟨_, h, hcur⟩
    · exact ⟨_, h, hcur⟩
  · exact absurd (hs.disconnecting hl) hf
  · obtain ⟨t, -, hmem, hcont⟩ := hs.waiting hl
    have hsu := (hcoh.waiting hl).2
    refine ⟨_, hmem, ?_⟩
    rcases hcont with h | h <;> rw [h] <;> simp [Accepts, isStaleTimer, hsd, hsu, hl]

/-- A refused continuation leaves `Disconnecting` behind. -/
theorem completeCloseCooldown_strands (hsd : s.isShutdown = false)
    (hf : s.isCloseInFlight = true) (hcool : s.isCloseCooldown = true)
    (hstale : StaleContinuation s.toSessionState) (completedScheduledCooldown) :
    s.completeCloseCooldown p r s.closeBarrierEpoch completedScheduledCooldown =
      s.endCooldown.clearPendingClose := by
  obtain ⟨ha, hcont⟩ := hstale
  unfold completeCloseCooldown
  rw [if_neg (by simp [hsd, hf, hcool])]
  unfold continueAfterClose
  rw [if_neg (by simp [hsd])]
  dsimp only
  rw [if_neg (by simp [ha])]
  rcases hcont with ⟨hcont, hrc⟩ | ⟨hcont, hdead⟩
  · simp only [endCooldown, cancelCloseBarrierTimer, hcont]
    exact if_pos (by simp [hrc])
  · simp only [endCooldown, cancelCloseBarrierTimer, hcont]
    refine if_pos ?_
    rcases hdead with h | h | h
    · simp [h]
    · simp [h]
    · exact .inr (.inr (.inr (.inl h)))

theorem unarmedCooldown_strands
    (haccepts : Accepts s.toSessionState (.closeBarrier s.closeBarrierEpoch false))
    (hp : p.schedule s.ledger.platformCalls ≠ .timer)
    (hstale : StaleContinuation s.toSessionState) :
    s.completeCloseBarrier p r s.closeBarrierEpoch false =
      (s.cancelCloseBarrierTimer.beginCooldown p
        s.closeBarrierEpoch).endCooldown.clearPendingClose := by
  unfold completeCloseBarrier
  rw [if_neg (accepts_closeBarrier.1 haccepts)]
  dsimp only
  rw [if_neg (by simp), if_pos (by simp [scheduled, hp])]
  exact completeCloseCooldown_strands (by exact haccepts.1) (by exact haccepts.2.1) rfl
    (by exact hstale) _

theorem strands_stuck (hs : Settled s) (hstrands : Strands p s e) :
    ((deviceSession p).step s e).isShutdown = false ∧ ¬ NotStuck ((deviceSession p).step s e) := by
  have hleft {t : Session} (hsd : t.isShutdown = false) (hl : t.lifecycle = .disconnecting)
      (hnf : t.isCloseInFlight = false) : t.isShutdown = false ∧ ¬ NotStuck t :=
    ⟨hsd, fun h => absurd (h.disconnecting hl) (by simp [hnf])⟩
  unfold Strands at hstrands
  split at hstrands
  · obtain ⟨haccepts, hp, hstale⟩ := hstrands
    obtain ⟨hsd, hf, -, rfl⟩ := id haccepts
    have hstep : (deviceSession p).step s (.closeBarrier s.closeBarrierEpoch false) =
        ((s.deliver (.closeBarrier s.closeBarrierEpoch
          false)).cancelCloseBarrierTimer.beginCooldown p
            s.closeBarrierEpoch).endCooldown.clearPendingClose :=
      unarmedCooldown_strands (s := s.deliver _) haccepts hp hstale
    rw [hstep]
    exact hleft hsd (hs.closing hf hstale.1) rfl
  · obtain ⟨haccepts, hstale⟩ := hstrands
    obtain ⟨hsd, hf, hcool, rfl⟩ := id haccepts
    have hstep : (deviceSession p).step s (.closeCooldown s.closeBarrierEpoch) =
        (s.deliver (.closeCooldown s.closeBarrierEpoch)).endCooldown.clearPendingClose :=
      completeCloseCooldown_strands (s := s.deliver _) hsd hf hcool hstale _
    rw [hstep]
    exact hleft hsd (hs.closing hf hstale.1) rfl
  · exact hstrands.elim

/-- No session of a run is stuck, exactly when no step of the run ends a close whose continuation
is refused. -/
theorem not_stuck_iff {deviceId deviceName : WString} {es : List Event}
    (hrun : (deviceSession p).Run (initial deviceId deviceName) es) :
    (deviceSession p).Always (fun s e => ((deviceSession p).step s e).isShutdown = false →
        NotStuck ((deviceSession p).step s e)) (initial deviceId deviceName) es ↔
      (deviceSession p).Always (fun s e => ¬ Strands p s e) (initial deviceId deviceName) es := by
  refine hrun.congr_of_invariant (I := fun s => Inv s ∧ Settled s) ?_ ?_
    ⟨inv_initial _ _, settled_atRest ⟨rfl, rfl⟩ (.inl rfl)⟩
  · intro s e he hstrands hs
    exact ⟨step_inv he hs.1, step_settled hs.1 hs.2 hstrands⟩
  · intro s e he hs
    refine ⟨fun hns hstrands => ?_, fun hstrands hsd => ?_⟩
    · obtain ⟨hsd, hstuck⟩ := strands_stuck hs.2 hstrands
      exact hstuck (hns hsd)
    · exact (step_settled hs.1 hs.2 hstrands).notStuck (step_inv he hs.1).coherent hsd

/-- The reconnect is cancelled while `Start` is outstanding, and then the open fails transiently. -/
def cancelledRetry : List Event :=
  [.operation (.connect .manualConnect true), .operation .cancelReconnect,
    .started 1 ⟨0, 7⟩ .success, .opened 1 ⟨0, 7⟩ ⟨.timedOut, true⟩, .closeBarrier 1 false,
    .closeCooldown 1]

/-- A transient retry of a cancelled reconnect is refused after its close. -/
theorem cancelled_retry_stuck :
    let s := (deviceSession obligingPlatform).exec (initial [65] [66]) cancelledRetry
    (deviceSession obligingPlatform).Run (initial [65] [66]) cancelledRetry ∧
      s.isShutdown = false ∧ ¬ NotStuck s := by
  refine ⟨by decide, by decide, fun hns => ?_⟩
  exact absurd (hns.disconnecting (by decide)) (by decide)

theorem not_stuck_cancelledRetry :
    (deviceSession obligingPlatform).Always
        (fun s e => ((deviceSession obligingPlatform).step s e).isShutdown = false →
          NotStuck ((deviceSession obligingPlatform).step s e)) (initial [65] [66])
        cancelledRetry ↔
      (deviceSession obligingPlatform).Always (fun s e => ¬ Strands obligingPlatform s e)
        (initial [65] [66]) cancelledRetry :=
  not_stuck_iff (by decide)

end Session

end PlaybackConnector
