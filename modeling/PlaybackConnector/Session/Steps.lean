import PlaybackConnector.Session.Moves

/-!
# Every step of a session is a task

`step_task`: one lemma for each function of the source, in the order of `Control` and
`Operations`. The lemmas of the functions that reach `RestoreIncomingListenerAfterTerminal` assume
that the start they may end in is a sequence of moves (`Reentry.Sound`), which `reentry_sound`
then discharges.
-/

namespace PlaybackConnector

/-- The start of the incoming listener, at the end of a terminal failure, is a sequence of
moves. -/
def Reentry.Sound (p : Platform) (e : Event) (r : Reentry) : Prop :=
  ∀ s : Session, Session.Coherent s.toSessionState → s.isIncomingEnabled = true →
    Session.Moves p e s (r.startIncoming s)

namespace Session

open Relation.ReflTransGen (refl single)

variable {p : Platform} {e : Event} {r : Reentry} {s t u : Session}

theorem Moves.coherent (h : Moves p e s t) (hs : Coherent s.toSessionState) :
    Coherent t.toSessionState :=
  moves_preserve (I := fun s : Session => Coherent s.toSessionState) (fun _ _ => Move.coherent) h hs

/-! ## Terminal failures and timers -/

theorem restoreIncomingListenerAfterTerminal_moves (hr : r.Sound p e)
    (hs : Coherent s.toSessionState) :
    Moves p e s (s.restoreIncomingListenerAfterTerminal r) := by
  unfold restoreIncomingListenerAfterTerminal
  split
  · exact refl
  · have hdrop : Moves p e s { s with restoreIncomingAfterClose := false } := single .dropRestore
    dsimp only
    split
    · rename_i h
      exact hdrop.trans (hr _ (hdrop.coherent hs) h.2.2.1)
    · exact hdrop

theorem failTerminally_moves (hr : r.Sound p e) (hs : Coherent s.toSessionState)
    (hsd : s.isShutdown = false) (hnf : s.isCloseInFlight = false) (result disconnectReason) :
    Moves p e s (s.failTerminally r result disconnectReason) := by
  have hfail : Moves p e s (s.enterFailed result disconnectReason) := single (.fail _ _ hsd hnf)
  exact hfail.trans (restoreIncomingListenerAfterTerminal_moves hr (hfail.coherent hs))

theorem scheduleReconnect_moves (hr : r.Sound p e) (hs : Coherent s.toSessionState)
    (hsd : s.isShutdown = false) (hnf : s.isCloseInFlight = false) {shouldRetry : Bool}
    (hname : shouldRetry = true → s.deviceId ≠ []) {completedAttempt : Bool}
    (hdropped : completedAttempt = true → s.connection = none) (result disconnectReason) :
    Moves p e s
      (s.scheduleReconnect p r result shouldRetry completedAttempt disconnectReason) := by
  unfold scheduleReconnect
  split
  · exact failTerminally_moves hr hs hsd hnf _ _
  · rename_i hgo
    have hgo' : s.isShutdown = false ∧ s.isSuspended = false ∧ shouldRetry = true ∧
        s.isReconnectEnabled = true ∧ s.isReconnectCancelled = false := by simpa using hgo
    obtain ⟨-, hsu, hretry, hen, hrc⟩ := hgo'
    have hcount : Moves p e s (s.countAttempt completedAttempt) :=
      single (.countAttempt _ hdropped)
    refine hcount.trans ?_
    dsimp only
    split
    · exact failTerminally_moves hr (hcount.coherent hs) hsd hnf _ _
    · have hwait := single (Move.waitRetry (p := p) (e := e) (s := s.countAttempt completedAttempt)
        ((ReconnectPolicy.evaluate ⟨.connectionLoss, (s.countAttempt
          completedAttempt).completedRetryAttempts, false⟩).delay * 1000) hsd hsu hnf hen hrc
        (hname hretry))
      refine Relation.ReflTransGen.trans hwait ?_
      split
      · exact failTerminally_moves hr (Moves.coherent hwait (hcount.coherent hs)) hsd hnf _ _
      · exact single (.publish _ _)

theorem scheduleTransientOpenRetry_moves (hr : r.Sound p e) (hs : Coherent s.toSessionState)
    (hnf : s.isCloseInFlight = false) (hconn : s.connection = none) (hname : s.deviceId ≠ [])
    (epoch result completedScheduledCooldown) :
    Moves p e s
      (s.scheduleTransientOpenRetry p r epoch result completedScheduledCooldown) := by
  unfold scheduleTransientOpenRetry
  split
  · exact refl
  · rename_i hgo
    have hgo' : (s.isShutdown = false ∧ epoch = s.operationEpoch) ∧ s.isShutdown = false ∧
        s.isSuspended = false ∧ s.isReconnectCancelled = false := by simpa using hgo
    obtain ⟨⟨-, rfl⟩, hsd, hsu, hrc⟩ := hgo'
    have hcount : Moves p e s s.countTransientAttempt := single .countTransient
    refine hcount.trans ?_
    dsimp only
    split
    · exact failTerminally_moves hr (hcount.coherent hs) hsd hnf _ _
    · rename_i hfew
      have hwait := single (Move.waitTransient (p := p) (e := e) (s := s.countTransientAttempt)
        (transientRetryTimerDelay s.countTransientAttempt.transientOpenRetryAttempts
          completedScheduledCooldown) hsd hsu hnf hconn hrc hname
        ⟨Nat.succ_pos _, by simpa using hfew⟩)
      refine Relation.ReflTransGen.trans hwait ?_
      split
      · exact failTerminally_moves hr (Moves.coherent hwait (hcount.coherent hs)) hsd hnf _ _
      · exact single (.publish _ _)

/-! ## The close barrier -/

/-- What `BeginClose` does once its continuation is assigned. -/
def closeRequested (p : Platform) (s : Session) : Session :=
  if s.isCloseInFlight then s else s.closeConnection p

/-- An abandoned close keeps its continuation. -/
theorem requestClose_abandoned (hf : s.isCloseInFlight = true)
    (ha : s.isCloseContinuationAbandoned = true)
    {continuation failure shouldRetry completedAttempt disconnectReason} :
    s.requestClose continuation failure shouldRetry completedAttempt disconnectReason = s := by
  rcases s with ⟨⟨⟩, _⟩
  simp_all

theorem revokeStateChanged_of_none (hc : s.connection = none) : s.revokeStateChanged = s := by
  rw [revokeStateChanged, if_neg (by simp [hc])]

/-- `BeginClose` with something to close does not continue at once. -/
theorem beginClose_eq (hbusy : s.connection.isSome ∨ s.isCloseInFlight = true)
    {epoch continuation failure shouldRetry completedAttempt disconnectReason} :
    s.beginClose p r epoch continuation failure shouldRetry completedAttempt disconnectReason =
      (s.requestClose continuation failure shouldRetry completedAttempt
        disconnectReason).closeRequested p := by
  unfold beginClose closeRequested
  cases hf : s.isCloseInFlight <;> cases ha : s.isCloseContinuationAbandoned
  · have hsome : s.connection.isNone = false := by cases hc : s.connection <;> simp_all
    simp [hf, hsome]
  · have hsome : s.connection.isNone = false := by cases hc : s.connection <;> simp_all
    simp [hf, hsome]
  · simp [hf, ha]
  · rw [requestClose_abandoned hf ha]
    simp [hf]

/-- The end of `BeginClose`, after the timeout of the close was scheduled. -/
def finishClose (s : Session) : Session :=
  (if s.closeBarrierTimer.isNone then s.failClose .failed else s).callClose

theorem closeConnection_eq : s.closeConnection p = (s.detach p).finishClose := rfl

/-- A session with no close in flight is not in a cooldown. -/
theorem Coherent.notCooldown {s : SessionState} (hs : Coherent s)
    (hnf : s.isCloseInFlight = false) : s.isCloseCooldown = false := by
  have hcool := hs.cooldown
  simp only [hnf] at hcool
  simpa using hcool

theorem closeRequested_moves (hsd : s.isShutdown = false)
    (hbusy : s.connection.isSome ∨ s.isCloseInFlight = true)
    (hdisc : s.lifecycle = .disconnecting) : Moves p e s (s.closeRequested p) := by
  unfold closeRequested
  cases hnf : s.isCloseInFlight with
  | true => exact refl
  | false =>
    rw [if_neg (by simp), closeConnection_eq]
    have hconn : s.connection.isSome := by simpa [hnf] using hbusy
    unfold finishClose
    cases harmed : (s.detach p).closeBarrierTimer.isNone with
    | true => exact single (.closeUnarmed hsd hconn hnf hdisc harmed)
    | false => exact single (.close hsd hconn hnf hdisc harmed)

/-! ## Creation -/

theorem completeFailure_moves (hr : r.Sound p e) (hs : Coherent s.toSessionState)
    (hnf : s.isCloseInFlight = false) (epoch result) {transient : Bool}
    (ht : transient = true → s.connection.isSome) :
    Moves p e s (s.completeFailure p r epoch result transient) := by
  unfold completeFailure
  split
  · exact refl
  · rename_i hgo
    have hsd : s.isShutdown = false := by simp_all [isCurrent]
    dsimp only
    cases hc : s.connection with
    | none =>
      rw [revokeStateChanged_of_none hc, if_pos (by simp [hc])]
      rw [if_neg (by cases transient <;> simp_all)]
      refine scheduleReconnect_moves hr hs hsd hnf (fun hretry hname => ?_) (fun _ => hc) _ _
      simp [(hs.unnamed hname).2.2.1] at hretry
    | some c =>
      rw [if_neg (by simp [hc]), beginClose_eq (by simp [hc])]
      have hfail := single (Move.failConnection (p := p) (e := e) (s := s)
        (if (transient && s.revokeStateChanged.openImmediately) = true then .transientOpenRetry
          else .retry) result s.retryEligible (s.currentOperation = .automaticReconnect) hsd
        (by simp [hc]) (by split <;> simp_all))
      exact Relation.ReflTransGen.trans hfail (closeRequested_moves hsd
        (by simp [hc]) rfl)

/-- The connection of the session is the one created last, under the present epoch. -/
def JustCreated (s : Session) (c : NativeConnection) : Prop :=
  s.connection = some c ∧ s.ledger.created.head? = some (s.operationEpoch, c)

theorem startCreated_moves (hr : r.Sound p e) (hs : Coherent s.toSessionState)
    (hnf : s.isCloseInFlight = false) {c : NativeConnection} (hc : JustCreated s c) :
    Moves p e s (s.startCreated p r s.operationEpoch c) := by
  have hreg : Moves p e s (s.registerStateChanged p s.operationEpoch c) :=
    single (.register c hc.1 hc.2)
  unfold startCreated
  split
  · dsimp only
    have hstart : Moves p e (s.registerStateChanged p s.operationEpoch c)
        ((s.registerStateChanged p s.operationEpoch c).start p s.operationEpoch c) :=
      single (.start c hc.1 hc.2)
    refine hreg.trans ?_
    split
    · exact hstart
    · exact hstart.trans
        (completeFailure_moves hr (hstart.coherent (hreg.coherent hs)) hnf _ _ (by simp))
  · exact hreg.trans (completeFailure_moves hr (hreg.coherent hs) hnf _ _ (by simp))

theorem finishCreate_moves (hr : r.Sound p e)
    (hs : Coherent (u.createConnection p u.operationEpoch).toSessionState)
    (hnf : u.isCloseInFlight = false) :
    Moves p e (u.createConnection p u.operationEpoch)
      ((u.createConnection p u.operationEpoch).finishCreate p r u.operationEpoch) := by
  unfold finishCreate
  split
  · exact completeFailure_moves hr hs hnf _ _ (by simp)
  · rename_i c hc
    refine startCreated_moves hr hs hnf ⟨hc, ?_⟩
    simp_all

theorem startConnection_moves (hr : r.Sound p e) (hs : Coherent s.toSessionState)
    {operation openImmediately} (cause : StartCause e s operation openImmediately) :
    Moves p e s (s.startConnection p r operation openImmediately) := by
  unfold startConnection
  split
  · exact refl
  split
  · exact refl
  have hstart : CanStart s := by constructor <;> simp_all
  unfold launch
  cases hc : s.connection with
  | none =>
    rw [if_neg (by simp [hc])]
    have hcreate : Moves p e s ((s.prepareStart operation openImmediately).createConnection p
        (s.operationEpoch + 1)) := single (.startCreate hstart cause hc)
    unfold beginCreate
    rw [if_neg (by simp [hstart.notShutdown, hstart.notSuspended])]
    exact hcreate.trans (finishCreate_moves (u := s.prepareStart operation openImmediately) hr
      (hcreate.coherent hs) hstart.notInFlight)
  | some c =>
    rw [if_pos (by simp [hc]), beginClose_eq (by simp [hc])]
    have hrep : Moves p e s ((s.prepareStart operation openImmediately).enterReplacing.requestClose
        .replace .success false false .none) := single (.startReplace hstart cause (by simp [hc]))
    exact hrep.trans (closeRequested_moves hstart.notShutdown (by simp [hc]) rfl)

/-- Without a connection, a `StartConnection` that does not return at once creates one. -/
theorem startConnection_of_canStart (hcan : CanStart s) (hc : s.connection = none)
    (operation openImmediately) :
    s.startConnection p r operation openImmediately =
      ((s.prepareStart operation openImmediately).createConnection p
        (s.operationEpoch + 1)).finishCreate p r (s.operationEpoch + 1) := by
  obtain ⟨hsd, hsu, hnf, hconn, hdisc, hname⟩ := hcan
  unfold startConnection launch beginCreate
  rw [if_neg (by simp [hsd, hsu, hname]), if_neg (by simp [hnf, hconn, hdisc]),
    if_neg (by simp [hc]), if_neg (by simp [hsd, hsu])]
  rfl

/-- Without a connection, `StartConnection` returns at once or creates one. -/
theorem startConnection_of_none (hc : s.connection = none) (operation openImmediately) :
    s.startConnection p r operation openImmediately = s ∨
      CanStart s ∧ s.startConnection p r operation openImmediately =
        ((s.prepareStart operation openImmediately).createConnection p
          (s.operationEpoch + 1)).finishCreate p r (s.operationEpoch + 1) := by
  by_cases hcan : CanStart s
  · exact .inr ⟨hcan, startConnection_of_canStart hcan hc _ _⟩
  · refine .inl ?_
    unfold startConnection
    split
    · rfl
    split
    · rfl
    exact absurd (by constructor <;> simp_all) hcan

theorem startAfterResume_moves (hr : r.Sound p e) (hs : Coherent s.toSessionState)
    (hreq : s.resumeRequired = false) : Moves p e s (s.startAfterResume p r) := by
  unfold startAfterResume
  rw [if_neg (by simp [hreq])]
  split
  · rename_i henabled
    exact startConnection_moves hr hs (.incoming henabled)
  · exact single (.publish _ _)

theorem startAfterResume_of_required (hreq : s.resumeRequired = true) :
    s.startAfterResume p r = s.takeRequired.startConnection p r
      s.resumeOperation s.resumeOpenImmediately := by
  unfold startAfterResume
  rw [if_pos hreq]
  rfl

/-! ## The end of a close -/

/-- The start of the incoming listener that `ContinueAfterClose` and `Disconnect` end in. -/
theorem restoreIncoming_moves (hr : r.Sound p e) (hs : Coherent s.toSessionState) :
    Moves p e s (if s.restoreIncomingAfterClose ∧ s.isIncomingEnabled ∧ !s.isSuspended then
      { s with restoreIncomingAfterClose := false }.startConnection p r .incomingEnable false
      else s) := by
  split
  · rename_i h
    have hdrop : Moves p e s { s with restoreIncomingAfterClose := false } := single .dropRestore
    exact hdrop.trans (startConnection_moves hr (hdrop.coherent hs) (.incoming h.2.1))
  · exact refl

theorem continueIdle_moves (hr : r.Sound p e) (hs : Coherent s.toSessionState)
    (hsd : s.isShutdown = false) (hnf : s.isCloseInFlight = false) (failure disconnectReason) :
    Moves p e s (s.continueIdle p r failure disconnectReason) := by
  have hidle : Moves p e s ((s.enter .idle).publish failure false disconnectReason) :=
    single (.settle _ _ hsd hnf)
  exact hidle.trans (restoreIncoming_moves hr (hidle.coherent hs))

theorem endCooldown_suspend_moves (hr : r.Sound p e) (hs : Coherent s.toSessionState)
    (hends : EndsClose e s) (ha : s.isCloseContinuationAbandoned = false)
    (hcont : s.pendingCloseContinuation = .suspend) :
    Moves p e s
      (s.endCooldown.clearPendingClose.completeSuspendClose p r s.operationEpoch) := by
  unfold completeSuspendClose
  split
  · rename_i hstale
    refine single (.endStale hends ha hcont ?_)
    simpa [hends.notShutdown] using hstale
  rename_i hlive
  have hlive' : s.isSuspended = true ∧ s.isSuspendClosePending = true ∧
      s.suspendCloseEpoch = s.operationEpoch := by
    simpa [hends.notShutdown] using hlive
  obtain ⟨hsu, hpend, hep⟩ := hlive'
  have hsus : EndsSuspension s := ⟨ha, hcont, hsu, hpend, hep⟩
  dsimp only
  cases hrqd : s.resumeRequested with
  | false =>
    rw [if_pos (by simp [hrqd])]
    exact single (.endSuspended hends hsus hrqd)
  | true =>
    rw [if_neg (by simp [hrqd])]
    by_cases hreq : s.resumeRequired = true
    · rw [startAfterResume_of_required (by exact hreq)]
      have hstart := startConnection_of_none (p := p) (r := r)
        (s := s.endCooldown.clearPendingClose.settleSuspended.endSuspension.takeRequired) rfl
        s.endCooldown.clearPendingClose.settleSuspended.endSuspension.resumeOperation
        s.endCooldown.clearPendingClose.settleSuspended.endSuspension.resumeOpenImmediately
      rcases hstart with hrefused | ⟨hcan, hcreated⟩
      · rw [hrefused]
        exact single (.endRefused hends hsus hrqd hreq)
      · rw [hcreated]
        have hres := single (Move.endRestarted (p := p) hends hsus hrqd hreq hcan.named)
        exact Relation.ReflTransGen.trans hres
          (finishCreate_moves hr (Moves.coherent hres hs) rfl)
    · have hreq : s.resumeRequired = false := by simpa using hreq
      have hres := single (Move.endResumed (p := p) hends hsus hrqd hreq)
      exact Relation.ReflTransGen.trans hres
        (startAfterResume_moves hr (Moves.coherent hres hs) hreq)

theorem endCooldown_continue_moves (hr : r.Sound p e) (hs : Coherent s.toSessionState)
    (hends : EndsClose e s) (completedScheduledCooldown) :
    Moves p e s
      (s.endCooldown.continueAfterClose p r s.operationEpoch completedScheduledCooldown) := by
  have hconn : s.connection = none := hs.inFlight hends.inFlight
  have hname : s.deviceId ≠ [] := fun h => by simpa [hends.inFlight] using (hs.unnamed h).2.1
  unfold continueAfterClose
  rw [if_neg (by simp [hends.notShutdown])]
  dsimp only
  cases ha : s.isCloseContinuationAbandoned with
  | true =>
    rw [if_pos (by exact ha)]
    have hend : Moves p e s s.endCooldown.clearPendingClose.endAbandonedClose :=
      single (.endAbandoned hends ha)
    exact hend.trans (restoreIncomingListenerAfterTerminal_moves hr (hend.coherent hs))
  | false =>
    rw [if_neg (by simp [ha])]
    have hpending : s.endCooldown.pendingCloseContinuation = s.pendingCloseContinuation := rfl
    have hend (h : s.pendingCloseContinuation ≠ .suspend) :
        Moves p e s s.endCooldown.clearPendingClose :=
      single (.endClose hends ha h)
    rw [hpending]
    cases hcont : s.pendingCloseContinuation with
    | replace =>
      dsimp only
      unfold beginCreate
      split
      · exact hend (by simp [hcont])
      · rename_i hgo
        have hsu : s.isSuspended = false := by
          simp_all
        have hcreate : Moves p e s
            (s.endCooldown.clearPendingClose.createConnection p s.operationEpoch) :=
          single (.replaceCreate hends hsu ha hcont)
        exact hcreate.trans (finishCreate_moves (u := s.endCooldown.clearPendingClose) hr
          (hcreate.coherent hs) rfl)
    | retry =>
      have hend := hend (by simp [hcont])
      exact hend.trans
        (scheduleReconnect_moves hr (hend.coherent hs) hends.notShutdown rfl
          (fun _ => hname) (fun _ => hconn) _ _)
    | transientOpenRetry =>
      have hend := hend (by simp [hcont])
      exact hend.trans
        (scheduleTransientOpenRetry_moves hr (hend.coherent hs) rfl hconn hname _ _ _)
    | suspend => exact endCooldown_suspend_moves hr hs hends ha hcont
    | idle =>
      have hend := hend (by simp [hcont])
      exact hend.trans (continueIdle_moves hr (hend.coherent hs) hends.notShutdown rfl _ _)

theorem completeCloseCooldown_moves (hr : r.Sound p e) (hs : Coherent s.toSessionState)
    {closeBarrierEpoch : Nat} (he : e = .closeCooldown closeBarrierEpoch ∨
      e = .closeBarrier closeBarrierEpoch false) (completedScheduledCooldown) :
    Moves p e s
      (s.completeCloseCooldown p r closeBarrierEpoch completedScheduledCooldown) := by
  unfold completeCloseCooldown
  split
  · exact refl
  · rename_i hgo
    have hgo : s.isShutdown = false ∧ s.isCloseInFlight = true ∧ s.isCloseCooldown = true ∧
        closeBarrierEpoch = s.closeBarrierEpoch := by simpa using hgo
    obtain ⟨hsd, hf, hcool, rfl⟩ := hgo
    have hends : EndsClose e s := ⟨hsd, hf, hcool, he⟩
    exact endCooldown_continue_moves hr hs hends _

theorem completeCloseBarrier_moves (hr : r.Sound p e) (hs : Coherent s.toSessionState)
    {closeBarrierEpoch : Nat} {timedOut : Bool} (he : e = .closeBarrier closeBarrierEpoch timedOut) :
    Moves p e s (s.completeCloseBarrier p r closeBarrierEpoch timedOut) := by
  unfold completeCloseBarrier
  split
  · exact refl
  · rename_i hgo
    have hgo' : s.isShutdown = false ∧ s.isCloseInFlight = true ∧ s.isCloseCooldown = false ∧
        closeBarrierEpoch = s.closeBarrierEpoch := by simpa using hgo
    obtain ⟨hsd, hf, hcool, rfl⟩ := hgo'
    have hcancel : Moves p e s s.cancelCloseBarrierTimer := single .cancelBarrierTimer
    refine hcancel.trans ?_
    dsimp only
    cases timedOut with
    | true => exact single (.timedOut he hsd hf hcool)
    | false =>
      have hconf : Moves p e s.cancelCloseBarrierTimer
          (s.cancelCloseBarrierTimer.beginCooldown p s.closeBarrierEpoch) :=
        single (.closeConfirmed he hsd hf hcool)
      refine hconf.trans ?_
      rw [if_neg (by simp)]
      split
      · exact completeCloseCooldown_moves hr (hconf.coherent (hcancel.coherent hs)) (.inr he) _
      · exact refl

/-! ## Callbacks -/

/-- A session with a connection has no close in flight. -/
theorem Coherent.notInFlight {s : SessionState} (hs : Coherent s) (hc : s.connection.isSome) :
    s.isCloseInFlight = false := by
  cases hf : s.isCloseInFlight with
  | false => rfl
  | true => simp [hs.inFlight hf] at hc

/-- The callback of a connection at work: its guard has let it through. -/
structure Accepted (s : Session) (epoch : Nat) : Prop where
  notShutdown : s.isShutdown = false
  connection : s.connection.isSome = true
  epoch : epoch = s.operationEpoch

theorem accepted_of_guard {epoch : Nat} {c : NativeConnection}
    (h : ¬ (!isCurrentConnection s.toSessionState epoch c) = true) : Accepted s epoch := by
  obtain ⟨hsd, hep, c', hc, -⟩ := isCurrentConnection_iff.1 (by simpa using h)
  exact ⟨hsd, by simp [hc], hep⟩

theorem onStarted_moves (hr : r.Sound p e) (hs : Coherent s.toSessionState) {epoch : Nat}
    {c : NativeConnection} (hhanded : .connection .started epoch c ∈ s.ledger.handed) (result) :
    Moves p e s (s.onStarted p r epoch c result) := by
  unfold onStarted
  split
  · exact refl
  rename_i hguard
  obtain ⟨hsd, hc, rfl⟩ := accepted_of_guard hguard
  have hnf := hs.notInFlight hc
  split
  · exact refl
  split
  · exact completeFailure_moves hr hs hnf _ _ (by simp)
  split
  · exact single (.settle _ _ hsd hnf)
  have hopen : Moves p e s (s.openConnection p s.operationEpoch (s.connection.getD c)) := by
    refine single (.openConnection _ c ?_ hhanded)
    cases h : s.connection <;> simp_all
  dsimp only
  split
  · exact hopen
  · exact hopen.trans (completeFailure_moves hr (hopen.coherent hs) hnf _ _ (by simp))

theorem onOpened_moves (hr : r.Sound p e) (hs : Coherent s.toSessionState)
    (epoch c openResult) : Moves p e s (s.onOpened p r epoch c openResult) := by
  unfold onOpened
  split
  · exact refl
  rename_i hguard
  obtain ⟨hsd, hc, rfl⟩ := accepted_of_guard hguard
  split
  · exact refl
  split
  · exact completeFailure_moves hr hs (hs.notInFlight hc) _ _ (fun _ => hc)
  · exact single (.establish hsd hc)

theorem onStateChanged_moves (hr : r.Sound p e) (hs : Coherent s.toSessionState)
    (epoch c state) : Moves p e s (s.onStateChanged p r epoch c state) := by
  unfold onStateChanged
  split
  · exact refl
  rename_i hguard
  obtain ⟨hsd, hc, rfl⟩ := accepted_of_guard (fun h => hguard (.inl h))
  have hnf := hs.notInFlight hc
  have hname : s.deviceId ≠ [] := fun h => by simp [(hs.unnamed h).1] at hc
  dsimp only
  split
  · have hcancel : Moves p e s s.cancelTimer := single (.cancelTimer hsd)
    exact hcancel.trans (single (.establish hsd hc))
  split
  · exact refl
  split
  · exact refl
  split
  · split
    · exact single (.settleListener hsd hnf)
    · exact scheduleReconnect_moves hr hs hsd hnf (fun _ => hname) (fun h => absurd h (by simp)) _ _
  · have hdrop : Moves p e s s.dropConnection := single (.drop hsd hc)
    refine hdrop.trans ?_
    split
    · rename_i hlisten
      have hidle : Moves p e s.dropConnection
          ((s.dropConnection.enter .idle).publish .success false .none) :=
        single (.settle _ _ hsd hnf)
      exact hidle.trans (startConnection_moves hr (hidle.coherent (hdrop.coherent hs))
        (.incoming hlisten.2.1))
    · exact scheduleReconnect_moves hr (hdrop.coherent hs) hsd hnf (fun _ => hname)
        (fun _ => rfl) _ _

theorem onFailurePosted_moves (hr : r.Sound p e) (hs : Coherent s.toSessionState)
    (epoch c) : Moves p e s (s.onFailurePosted p r epoch c) := by
  unfold onFailurePosted
  split
  · rename_i hguard
    obtain ⟨-, hc, rfl⟩ := accepted_of_guard (s := s) (c := c) (by simpa using hguard)
    exact completeFailure_moves hr hs (hs.notInFlight hc) _ _ (by simp)
  · exact refl

/-- A timer that is not stale finds the session waiting, in its own epochs. -/
theorem isStaleTimer_false {s : SessionState} {timerEpoch operationEpoch : Nat}
    (h : ¬ isStaleTimer s timerEpoch operationEpoch = true) :
    s.isShutdown = false ∧ s.isSuspended = false ∧ timerEpoch = s.timerEpoch ∧
      operationEpoch = s.operationEpoch ∧ s.lifecycle = .waitingForReconnect := by
  simpa [isStaleTimer, and_assoc] using h

theorem onRetryTimer_moves (hr : r.Sound p e) (hs : Coherent s.toSessionState)
    (timerEpoch operationEpoch) :
    Moves p e s (s.onRetryTimer p r timerEpoch operationEpoch) := by
  unfold onRetryTimer
  split
  · exact refl
  rename_i hguard
  obtain ⟨-, -, -, -, hwait⟩ := isStaleTimer_false hguard
  have hclear : Moves p e s { s with reconnectTimer := none } := single .clearTimer
  exact hclear.trans (startConnection_moves hr (hclear.coherent hs) (.retried hwait))

theorem onTransientOpenRetryTimer_moves (hr : r.Sound p e) (hs : Coherent s.toSessionState)
    (ht : TimersCoherent s) {timerEpoch operationEpoch : Nat}
    (hhanded : .transientOpenRetryTimer timerEpoch operationEpoch ∈ s.ledger.handed) :
    Moves p e s (s.onTransientOpenRetryTimer p r timerEpoch operationEpoch) := by
  unfold onTransientOpenRetryTimer
  split
  · exact refl
  rename_i hguard
  obtain ⟨hsd, hsu, hte, rfl, hwait⟩ := isStaleTimer_false hguard
  have hconn : s.connection = none := ht.noConnection _ _ hhanded hte hwait
  have hcreate : Moves p e s
      ({ s with reconnectTimer := none }.createConnection p s.operationEpoch) :=
    single (.timerCreate hsd hwait hconn)
  unfold beginCreate
  rw [if_neg (by simp [hsd, hsu])]
  exact hcreate.trans (finishCreate_moves (u := { s with reconnectTimer := none }) hr
    (hcreate.coherent hs) (hs.waiting hwait).1)

/-! ## Operations -/

theorem Task.of_nothing {operation : Operation} (hp : Passive s.toSessionState operation)
    (h : Moves p (.operation operation) s t) : Task p (.operation operation) s t :=
  ⟨s, .nothing operation hp, h⟩

theorem rename_task (deviceName) :
    Task p (.operation (.rename deviceName)) s (s.rename deviceName) := by
  unfold rename
  split
  · exact .of_nothing trivial refl
  · exact ⟨_, .rename deviceName, single (.publish _ _)⟩

theorem removeClose_task (hsd : s.isShutdown = false)
    (hbusy : s.connection.isSome ∨ s.isCloseInFlight = true)
    (result continuation failure shouldRetry disconnectReason disconnectReason')
    (hcont : continuation = .idle ∨ continuation = .retry) :
    Task p (.operation .handleDeviceRemoved) s
      (((s.prepareRemoval.nextEpoch.enter .disconnecting).revokeStateChanged.publish result false
        disconnectReason).beginClose p r (s.operationEpoch + 1) continuation failure shouldRetry
        false disconnectReason') := by
  have hclose := Head.removeClose (p := p) result continuation failure shouldRetry
    disconnectReason disconnectReason' hcont hsd hbusy
  rw [beginClose_eq (by exact hbusy)]
  exact ⟨_, hclose, closeRequested_moves hsd hbusy rfl⟩

theorem removeDevice_task (hr : r.Sound p (.operation .handleDeviceRemoved))
    (hs : Coherent s.toSessionState) (hsd : s.isShutdown = false) :
    Task p (.operation .handleDeviceRemoved) s (s.prepareRemoval.removeDevice p r) := by
  unfold removeDevice
  dsimp only
  split
  · rename_i hidle
    have hidle' : s.connection = none ∧ s.isCloseInFlight = false := by
      cases hc : s.connection <;> simp_all
    exact ⟨_, .removeNothing hsd hidle'.1 hidle'.2, single (.publish _ _)⟩
  split
  · rename_i hlisten
    have hc : s.connection.isSome := by simp_all
    exact removeClose_task hsd (.inl hc) _ _ _ _ _ _ (.inl rfl)
  cases hf : s.isCloseInFlight with
  | true =>
    rw [if_pos (by exact hf)]
    have hnone : (s.prepareRemoval.nextEpoch.enter .disconnecting).connection = none :=
      hs.inFlight hf
    have hclose := removeClose_task (p := p) (r := r) hsd (.inr hf) .failed .retry .failed
      s.prepareRemoval.retryEligible .deviceRemoved .deviceRemoved (.inr rfl)
    rw [revokeStateChanged_of_none hnone] at hclose
    exact hclose
  | false =>
    rw [if_neg (by simp [hf])]
    cases hc : s.connection with
    | none =>
      rw [if_pos (by simp [hc])]
      have hep : Head p s (.operation .handleDeviceRemoved) s.prepareRemoval.nextEpoch :=
        .removeIdle hsd hc hf
      exact ⟨_, hep, scheduleReconnect_moves hr (hep.coherent hs) hsd hf (fun hretry hname => by
        simp [(hs.unnamed hname).2.2.1] at hretry) (fun _ => hc) _ _⟩
    | some c =>
      rw [if_neg (by simp [hc])]
      exact removeClose_task hsd (.inl (by simp [hc])) _ _ _ _ _ _ (.inr rfl)

theorem handleDeviceRemoved_task (hr : r.Sound p (.operation .handleDeviceRemoved))
    (hs : Coherent s.toSessionState) :
    Task p (.operation .handleDeviceRemoved) s (s.handleDeviceRemoved p r) := by
  unfold handleDeviceRemoved
  split
  · exact .of_nothing trivial refl
  · rename_i hsd
    exact removeDevice_task hr hs (by simpa using hsd)

theorem connect_task {operation openImmediately}
    (hr : r.Sound p (.operation (.connect operation openImmediately)))
    (hs : Coherent s.toSessionState) :
    Task p (.operation (.connect operation openImmediately)) s
      (s.connect p r operation openImmediately) := by
  unfold connect
  split
  · exact .of_nothing trivial refl
  rename_i hsd
  have hsd : s.isShutdown = false := by simpa using hsd
  split
  · rename_i hmanual
    unfold supersedePowerTransitionRecovery
    dsimp only
    split
    · rename_i hf
      have hrel : Head p s (.operation (.connect operation openImmediately)) s.releaseHold :=
        .supersedeRelease _ _ hsd hmanual.1 hmanual.2 fun h => by simp_all
      exact ⟨_, hrel, startConnection_moves hr (hrel.coherent hs) (.requested rfl)⟩
    rename_i hf
    have hf : s.isCloseInFlight = true := by simpa using hf
    split
    · rename_i ha
      exact ⟨_, .supersedeRelease _ _ hsd hmanual.1 hmanual.2 fun _ => ha, refl⟩
    rename_i ha
    have hsup := Head.supersede (p := p) operation openImmediately hsd hmanual.1 hmanual.2 hf
      (by simpa using ha)
    rw [beginClose_eq (by exact .inr hf)]
    exact ⟨_, hsup, closeRequested_moves hsd (.inr hf) rfl⟩
  · exact .of_nothing trivial (startConnection_moves hr hs (.requested rfl))

theorem disconnect_refused {restoreIncoming : Bool}
    (h : acceptsDisconnect s.toSessionState = false) : s.disconnect p r restoreIncoming = s := by
  unfold disconnect
  split
  · rfl
  · rename_i hsd
    rw [if_pos]
    simpa [acceptsDisconnect, hsd] using h

/-- `Disconnect` of a session that it does not refuse. -/
theorem acceptedDisconnect_task {restoreIncoming : Bool}
    (hcause : Disconnecting s e restoreIncoming u) (hr : r.Sound p e)
    (hs : Coherent s.toSessionState) (hsd : s.isShutdown = false)
    (hna : s.isCloseInFlight = true → s.isCloseContinuationAbandoned = false) :
    Task p e s (u.disconnect p r restoreIncoming) := by
  have hu : u.connection = s.connection ∧ u.isCloseInFlight = s.isCloseInFlight ∧
      u.isShutdown = s.isShutdown ∧
      u.isCloseContinuationAbandoned = s.isCloseContinuationAbandoned := by
    cases hcause <;> simp
  obtain ⟨hconn, hflight, hshut, haband⟩ := hu
  unfold disconnect
  rw [if_neg (by simp [hshut, hsd]), if_neg (by simpa [hflight, haband] using hna)]
  dsimp only
  split
  · rename_i hidle
    have hidle' : Head p s e (((u.prepareDisconnect restoreIncoming).enter .idle).publish
        .success false .normal) :=
      .disconnectIdle hcause hsd (by simpa [hconn] using hidle.1)
        (by simpa [hflight] using hidle.2)
    exact ⟨_, hidle', restoreIncoming_moves hr (hidle'.coherent hs)⟩
  · rename_i hbusy
    have hbusy' : s.connection.isSome ∨ s.isCloseInFlight = true := by
      cases hc : s.connection <;> simp_all
    have hclose := Head.disconnectClose (p := p) hcause hsd hbusy' hna
    rw [beginClose_eq (by simpa [hconn, hflight] using hbusy')]
    exact ⟨_, hclose, closeRequested_moves (by simpa [hshut] using hsd)
      (by simpa [hconn, hflight] using hbusy') rfl⟩

theorem disconnect_task {restoreIncoming : Bool}
    (hr : r.Sound p (.operation (.disconnect restoreIncoming)))
    (hs : Coherent s.toSessionState) :
    Task p (.operation (.disconnect restoreIncoming)) s (s.disconnect p r restoreIncoming) := by
  by_cases hgo : acceptsDisconnect s.toSessionState = true
  · obtain ⟨hsd, hna⟩ : s.isShutdown = false ∧
        (s.isCloseInFlight = false ∨ s.isCloseContinuationAbandoned = false) := by
      simpa [acceptsDisconnect] using hgo
    exact acceptedDisconnect_task (.requested _) hr hs hsd fun hf => by simpa [hf] using hna
  · rw [disconnect_refused (by simpa using hgo)]
    exact .of_nothing (by simpa [Passive] using hgo) refl

/-- What a cancellation starts from differs from the session in its settings only. -/
theorem Cancelling.eqs (h : Cancelling s e u) : u.connection = s.connection ∧
    u.isCloseInFlight = s.isCloseInFlight ∧ u.isShutdown = s.isShutdown ∧
    u.lifecycle = s.lifecycle ∧ u.currentOperation = s.currentOperation := by
  cases h <;> simp

theorem cancelAutomaticReconnect_task (hcause : Cancelling s e u) (hr : r.Sound p e)
    (hs : Coherent s.toSessionState) (hsd : s.isShutdown = false) (restoreIncoming) :
    Task p e s (u.cancelAutomaticReconnect p r restoreIncoming) := by
  obtain ⟨hconn, hflight, hshut, hlife, hop⟩ := hcause.eqs
  have hact : cancelsActiveReconnect u.prepareCancel.toSessionState =
      cancelsActiveReconnect s.toSessionState := by
    simp [cancelsActiveReconnect, hlife, hop]
  unfold cancelAutomaticReconnect cancelActive
  rw [hact]
  cases hactive : cancelsActiveReconnect s.toSessionState with
  | false => exact ⟨_, .cancelNothing hcause hsd hactive, single (.publish _ _)⟩
  | true =>
    rw [if_neg (by simp)]
    dsimp only
    split
    · rename_i hbusy
      have hbusy' : s.connection.isSome ∨ s.isCloseInFlight = true := by
        simpa [hconn, hflight] using hbusy
      have hclose := Head.cancelClose (p := p) hcause
        (restoreIncoming && u.prepareCancel.isIncomingEnabled) hsd hactive hbusy'
      rw [beginClose_eq (by exact hbusy)]
      exact ⟨_, hclose, closeRequested_moves (by simpa [hshut] using hsd)
        hbusy rfl⟩
    · rename_i hidle
      have hidle' : s.connection = none ∧ s.isCloseInFlight = false := by
        cases hc : s.connection <;> simp_all
      have hcancel : Head p s e
          ((u.prepareCancel.nextEpoch.enter .idle).publish .cancelled false .none) :=
        .cancelIdle hcause hsd hactive hidle'.1 hidle'.2
      refine ⟨_, hcancel, ?_⟩
      split
      · rename_i hrest
        exact startConnection_moves hr (hcancel.coherent hs) (.incoming hrest.2)
      · exact refl

theorem cancelReconnect_task (hr : r.Sound p (.operation .cancelReconnect))
    (hs : Coherent s.toSessionState) :
    Task p (.operation .cancelReconnect) s (s.cancelReconnect p r) := by
  unfold cancelReconnect
  split
  · exact .of_nothing trivial refl
  · rename_i hsd
    exact cancelAutomaticReconnect_task .requested hr hs (by simpa using hsd) _

theorem setReconnectEnabled_task {enabled : Bool}
    (hr : r.Sound p (.operation (.setReconnectEnabled enabled)))
    (hs : Coherent s.toSessionState) :
    Task p (.operation (.setReconnectEnabled enabled)) s (s.setReconnectEnabled p r enabled) := by
  unfold setReconnectEnabled
  split
  · rename_i hsd
    exact .of_nothing hsd refl
  rename_i hsd
  dsimp only
  split
  · rename_i hdis
    obtain rfl : enabled = false := by simpa using hdis.1
    exact cancelAutomaticReconnect_task .reconnectDisabled hr hs (by simpa using hsd) _
  · rename_i hen
    refine ⟨_, .setReconnect enabled ?_, single (.publish _ _)⟩
    cases enabled <;> simp_all [cancelsActiveReconnect]

theorem setIncomingEnabled_task {enabled : Bool}
    (hr : r.Sound p (.operation (.setIncomingEnabled enabled)))
    (hs : Coherent s.toSessionState) :
    Task p (.operation (.setIncomingEnabled enabled)) s (s.setIncomingEnabled p r enabled) := by
  unfold setIncomingEnabled
  split
  · rename_i hsd
    exact .of_nothing hsd refl
  rename_i hsd
  have hsd : s.isShutdown = false := by simpa using hsd
  dsimp only
  cases enabled with
  | true =>
    have hset : Head p s (.operation (.setIncomingEnabled true))
        { s with isIncomingEnabled := true } := .setIncoming true (by simp)
    refine ⟨_, hset, ?_⟩
    rw [if_neg (by simp)]
    split
    · exact startConnection_moves hr (hset.coherent hs) (.incoming rfl)
    · exact single (.publish _ _)
  | false =>
    by_cases hlisten : s.openImmediately = false ∧
        (s.connection.isSome ∨ s.isCloseInFlight = true ∨ s.lifecycle = .waitingForReconnect)
    · rw [if_pos (by simpa using hlisten)]
      by_cases hna : s.isCloseInFlight = true → s.isCloseContinuationAbandoned = false
      · exact acceptedDisconnect_task (.incomingDisabled hlisten.1) hr hs hsd hna
      · have hab : s.isCloseInFlight = true ∧ s.isCloseContinuationAbandoned = true := by
          simpa using hna
        rw [disconnect_refused (by simp [acceptsDisconnect, hab.1, hab.2])]
        exact ⟨_, .setIncoming false fun _ => .inr ⟨hs.inFlight hab.1, fun _ => hab.2⟩, refl⟩
    · rw [if_neg (by simpa using hlisten), if_neg (by simp)]
      refine ⟨_, .setIncoming false fun _ => ?_, single (.publish _ _)⟩
      cases hoi : s.openImmediately <;> cases hc : s.connection <;> simp_all

theorem suspend_task :
    Task p (.operation .suspend) s (s.suspend p r) := by
  unfold suspend
  split
  · rename_i hpass
    exact .of_nothing (by simpa [Passive] using hpass) refl
  rename_i hgo
  have hgo : s.isShutdown = false ∧ s.isSuspended = false := by simpa using hgo
  dsimp only
  split
  · rename_i hbusy
    have hbusy : s.connection.isSome ∨ s.isCloseInFlight = true := hbusy
    unfold beginSuspendClose
    rw [beginClose_eq (by exact hbusy)]
    unfold closeRequested
    cases hf : s.isCloseInFlight with
    | true =>
      rw [if_pos (by exact hf)]
      exact ⟨_, .suspendClosing hgo.1 hgo.2 hf, refl⟩
    | false =>
      rw [if_neg (by simp [hf]), closeConnection_eq]
      have hc : s.connection.isSome := by simpa [hf] using hbusy
      unfold finishClose
      cases harmed : (s.enterSuspension.detach p).closeBarrierTimer.isNone with
      | true =>
        rw [if_pos (by exact harmed)]
        exact ⟨_, .suspendUnarmed hgo.1 hgo.2 hc hf harmed, refl⟩
      | false =>
        rw [if_neg (by exact ne_true_of_eq_false harmed)]
        exact ⟨_, .suspendOpen hgo.1 hgo.2 hc hf harmed, refl⟩
  · rename_i hidle
    have hidle' : s.connection = none ∧ s.isCloseInFlight = false := by
      cases hc : s.connection <;> simp_all
    exact ⟨_, .suspendIdle hgo.1 hgo.2 hidle'.1 hidle'.2, refl⟩

theorem resume_task (hr : r.Sound p (.operation .resume)) (hs : Coherent s.toSessionState) :
    Task p (.operation .resume) s (s.resume p r) := by
  unfold resume
  split
  · rename_i hpass
    exact .of_nothing (by simpa [Passive] using hpass) refl
  rename_i hgo
  have hgo : s.isShutdown = false ∧ s.isSuspended = true := by simpa using hgo
  split
  · rename_i hpend
    exact ⟨_, .requestResume hgo.1 hgo.2 hpend, refl⟩
  · rename_i hpend
    have hpend : s.isSuspendClosePending = false := by simpa using hpend
    have hc := hs.suspended hgo.2
    by_cases hreq : s.resumeRequired = true
    · rw [startAfterResume_of_required (by exact hreq)]
      have hstart := startConnection_of_none (p := p) (r := r) (s := s.unsuspend.takeRequired) hc
        s.unsuspend.resumeOperation s.unsuspend.resumeOpenImmediately
      rcases hstart with hrefused | ⟨hcan, hcreated⟩
      · rw [hrefused]
        exact ⟨_, .resumeRefused hgo.1 hgo.2 hpend hreq, refl⟩
      · rw [hcreated]
        have hres := Head.resumeRestarted (p := p) hgo.1 hgo.2 hpend hreq hcan.notInFlight
          hcan.notDisconnecting hcan.named
        exact ⟨_, hres, finishCreate_moves hr (hres.coherent hs) hcan.notInFlight⟩
    · have hreq : s.resumeRequired = false := by simpa using hreq
      have hres : Head p s (.operation .resume) s.unsuspend :=
        .resume hgo.1 hgo.2 hpend hreq
      exact ⟨_, hres, startAfterResume_moves hr (hres.coherent hs) hreq⟩

theorem resumeIdleAfterPowerTransition_task :
    Task p (.operation .resumeIdleAfterPowerTransition) s s.resumeIdleAfterPowerTransition := by
  unfold resumeIdleAfterPowerTransition
  split
  · exact .of_nothing trivial refl
  · rename_i hgo
    have hgo : s.isShutdown = false ∧ s.isSuspended = true ∧ s.isSuspendClosePending = false ∧
        s.resumeRequired = false ∧ s.resumeRequested = false ∧ s.isIncomingEnabled = false := by
      simpa using hgo
    obtain ⟨hsd, hsu, hpend, hreq, hrqd, hinc⟩ := hgo
    exact ⟨_, .resumeIdle hsd hsu hpend hreq hrqd hinc, single (.publish _ _)⟩

theorem cancelPowerTransitionRecovery_task :
    Task p (.operation .cancelPowerTransitionRecovery) s s.cancelPowerTransitionRecovery := by
  unfold cancelPowerTransitionRecovery
  split
  · exact .of_nothing trivial refl
  · rename_i hgo
    have hgo : s.isShutdown = false ∧ s.isSuspended = true := by simpa using hgo
    exact ⟨_, .cancelPower hgo.1 hgo.2, single (.publish _ _)⟩

theorem shutdown_task : Task p (.operation .shutdown) s s.shutdown := by
  unfold shutdown
  split
  · rename_i hsd
    exact .of_nothing hsd refl
  · rename_i hsd
    exact ⟨_, .shutdown (by simpa using hsd), refl⟩

/-! ## Steps -/

theorem reentry_sound : (reentry p).Sound p e := by
  intro s hs hen
  have hbottom : Reentry.Sound p e ⟨id, fun _ _ => id⟩ := fun _ _ _ => refl
  exact startConnection_moves hbottom hs (.incoming hen)

theorem operate_task (hs : Coherent s.toSessionState) (operation : Operation) :
    Task p (.operation operation) s (s.operate p operation) := by
  have hr : (reentry p).Sound p (.operation operation) := reentry_sound
  cases operation with
  | connect operation openImmediately => exact connect_task hr hs
  | disconnect restoreIncoming => exact disconnect_task hr hs
  | cancelReconnect => exact cancelReconnect_task hr hs
  | setReconnectEnabled enabled => exact setReconnectEnabled_task hr hs
  | setIncomingEnabled enabled => exact setIncomingEnabled_task hr hs
  | handleDeviceRemoved => exact handleDeviceRemoved_task hr hs
  | suspend => exact suspend_task
  | resume => exact resume_task hr hs
  | resumeIdleAfterPowerTransition => exact resumeIdleAfterPowerTransition_task
  | cancelPowerTransitionRecovery => exact cancelPowerTransitionRecovery_task
  | rename deviceName => exact rename_task _
  | shutdown => exact shutdown_task

/-- What holds of a session at every point of its tasks. -/
structure Inv (s : Session) : Prop where
  coherent : Coherent s.toSessionState
  timers : TimersCoherent s
  close : CloseCoherent s

theorem inv_initial (deviceId deviceName : WString) : Inv (initial deviceId deviceName) := by
  constructor <;> constructor <;> simp [initial, Ledger.empty]

theorem Move.inv (h : Move p e s t) (hs : Inv s) : Inv t :=
  ⟨h.coherent hs.coherent, h.timersCoherent hs.timers, h.closeCoherent hs.coherent hs.close⟩

theorem Head.inv (h : Head p s e t) (hs : Inv s) : Inv t :=
  ⟨h.coherent hs.coherent, h.timersCoherent hs.timers, h.closeCoherent hs.coherent hs.close⟩

/-- An operation can come at any time. -/
theorem enabled_operation (operation : Operation) :
    (deviceSession p).enabled s (.operation operation) := by
  intro c hc
  cases hc

theorem enabled_of_handed {c : Continuation} (he : e.continuation = some c)
    (h : c ∈ s.ledger.handed) : (deviceSession p).enabled s e := by
  intro c' hc'
  rw [he] at hc'
  cases hc'
  exact h

theorem Inv.deliver (hs : Inv s) (c : Continuation) : Inv (s.deliver c) :=
  ⟨hs.coherent, ⟨hs.timers.1, hs.timers.2, hs.timers.3, hs.timers.4⟩, ⟨hs.close.1, hs.close.2, hs.close.3⟩⟩

/-- Every step of a session is a task. -/
theorem step_task (hs : Inv s) (he : (deviceSession p).enabled s e) :
    Task p e s ((deviceSession p).step s e) := by
  have hr : (reentry p).Sound p e := reentry_sound
  have hcall {c : Continuation} (hc : e.continuation = some c)
      (h : Moves p e (s.deliver c) ((deviceSession p).step s e)) :
      Task p e s ((deviceSession p).step s e) := ⟨_, .callback c hc, h⟩
  cases e with
  | operation operation => exact operate_task hs.coherent operation
  | started epoch c result =>
    exact hcall rfl (onStarted_moves hr (hs.deliver _).coherent (he _ rfl) _)
  | opened epoch c openResult => exact hcall rfl (onOpened_moves hr (hs.deliver _).coherent _ _ _)
  | stateChanged epoch c state =>
    exact hcall rfl (onStateChanged_moves hr (hs.deliver _).coherent _ _ _)
  | failurePosted callback epoch c =>
    exact hcall rfl (onFailurePosted_moves hr (hs.deliver _).coherent _ _)
  | closeBarrier closeBarrierEpoch timedOut =>
    exact hcall rfl (completeCloseBarrier_moves hr (hs.deliver _).coherent rfl)
  | closeCooldown closeBarrierEpoch =>
    exact hcall rfl (completeCloseCooldown_moves hr (hs.deliver _).coherent (.inl rfl) _)
  | retryTimer timerEpoch operationEpoch =>
    exact hcall rfl (onRetryTimer_moves hr (hs.deliver _).coherent _ _)
  | transientOpenRetryTimer timerEpoch operationEpoch =>
    exact hcall rfl
      (onTransientOpenRetryTimer_moves hr (hs.deliver _).coherent (hs.deliver _).timers (he _ rfl))

/-- What the head of a task establishes from the state that the task finds, and its moves keep,
holds after the task. -/
theorem step_establishes {I : Session → Prop} (hs : Inv s)
    (he : (deviceSession p).enabled s e) (hhead : ∀ u, Head p s e u → I u)
    (hmove : ∀ u v, Inv u → Move p e u v → I u → I v) : I ((deviceSession p).step s e) := by
  obtain ⟨u, hu, hm⟩ := step_task hs he
  have hkeep := moves_preserve (M := Move p e) (I := fun s => Inv s ∧ I s)
    (fun u v hm hi => ⟨hm.inv hi.1, hmove u v hi.1 hm hi.2⟩) hm ⟨hu.inv hs, hhead u hu⟩
  exact hkeep.2

theorem step_inv (he : (deviceSession p).enabled s e) (hs : Inv s) :
    Inv ((deviceSession p).step s e) :=
  step_establishes hs he (fun _ hu => hu.inv hs) fun _ _ _ hm hi => hm.inv hi

/-- What every move, and every head of an event that meets `ok`, keeps holds of every session that
is reached by a run whose events meet `ok`. -/
theorem run_preserves_of {I : Session → Prop} (ok : Session → Event → Prop)
    (hhead : ∀ e s t, Inv s → ok s e → Head p s e t → I s → I t)
    (hmove : ∀ e s t, Inv s → Move p e s t → I s → I t) {es : List Event} (hs : Inv s) (h : I s)
    (hrun : (deviceSession p).Run s es) (hok : (deviceSession p).Always ok s es) :
    I ((deviceSession p).exec s es) := by
  have hkeep := (hrun.and hok).invariant (I := fun s => Inv s ∧ I s)
    (fun s e he hi => ⟨step_inv he.1 hi.1, step_establishes hi.1 he.1
      (fun u hu => hhead e s u hi.1 he.2 hu hi.2) (hmove e)⟩) ⟨hs, h⟩
  exact hkeep.2

/-- What every head and every move keeps holds of every session that a run reaches. -/
theorem run_preserves {I : Session → Prop}
    (hhead : ∀ e s t, Inv s → Head p s e t → I s → I t)
    (hmove : ∀ e s t, Inv s → Move p e s t → I s → I t) {es : List Event} (hs : Inv s) (h : I s)
    (hrun : (deviceSession p).Run s es) : I ((deviceSession p).exec s es) :=
  run_preserves_of (fun _ _ => True) (fun e s t hs _ => hhead e s t hs) hmove hs h hrun
    (EventSystem.always_of_forall fun _ _ => trivial)

theorem run_inv {es : List Event} (hs : Inv s) (hrun : (deviceSession p).Run s es) :
    Inv ((deviceSession p).exec s es) :=
  run_preserves (fun _ _ _ _ h hi => h.inv hi) (fun _ _ _ _ h hi => h.inv hi) hs hs hrun

end Session

end PlaybackConnector
