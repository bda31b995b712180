import PlaybackConnector.Session.Steps

/-!
# Suspension

A suspended session waits for the close that `Suspend` began, and a `Resume` that comes meanwhile
is noted for the end of that close. Two things go wrong. A `Suspend` that finds the session
suspended does not take back a `Resume` noted before it, so the end of the close releases it
(`suspended_never_connects_iff` says when it does not). And an operation that puts its own
continuation in the place of the suspension's leaves `IsSuspendClosePending` behind, and the
`Resume` waits for a close that is over (`resume_never_lost_iff`).
-/

namespace PlaybackConnector

namespace Session

variable {p : Platform} {e : Event} {s t : Session}

/-! ## What a suspended session does -/

/-- The operations that release a suspended session. -/
def releases : Event → Bool
  | .operation .resume | .operation .resumeIdleAfterPowerTransition
  | .operation .cancelPowerTransitionRecovery => true
  | .operation (.connect operation _) =>
    operation = .manualConnect ∨ operation = .manualReconnect
  | _ => false

/-- A `Resume` was noted, and the close that it waits for can still end the suspension: it is not
in its cooldown, or what follows the cooldown ends the suspension. -/
structure ResumeNoted (s : SessionState) : Prop where
  requested : s.resumeRequested = true
  inFlight : s.isCloseInFlight = true
  live : s.isCloseCooldown = false ∨ s.isCloseContinuationAbandoned = true ∨
    s.pendingCloseContinuation = .suspend ∧ s.suspendCloseEpoch = s.operationEpoch

/-- A `Suspend` in this state holds. -/
def HoldsSuspension (s : SessionState) : Prop :=
  (s.isShutdown = true → s.isSuspended = true) ∧ ¬ ResumeNoted s

/-- After a `Suspend` in `s`, and until the session is released, it is suspended and creates
nothing. -/
def NeverConnects (p : Platform) (s : Session) : Prop :=
  ∀ es, (deviceSession p).Run s (.operation .suspend :: es) → (∀ e ∈ es, releases e = false) →
    ((deviceSession p).exec s (.operation .suspend :: es)).isSuspended = true ∧
      ((deviceSession p).exec s (.operation .suspend :: es)).ledger.creates =
        ((deviceSession p).step s (.operation .suspend)).ledger.creates

/-- The session is suspended, no noted `Resume` can end that, and it has created these
connections. -/
structure Held (creates : List SessionState) (s : Session) : Prop where
  suspended : s.isSuspended = true
  notNoted : ¬ ResumeNoted s.toSessionState
  creates : s.ledger.creates = creates

theorem resumeNoted_iff {s : SessionState} : ResumeNoted s ↔ s.resumeRequested = true ∧
    s.isCloseInFlight = true ∧ (s.isCloseCooldown = false ∨ s.isCloseContinuationAbandoned = true ∨
      s.pendingCloseContinuation = .suspend ∧ s.suspendCloseEpoch = s.operationEpoch) :=
  ⟨fun ⟨h1, h2, h3⟩ => ⟨h1, h2, h3⟩, fun ⟨h1, h2, h3⟩ => ⟨h1, h2, h3⟩⟩

theorem Move.held {creates : List SessionState} (hs : Inv s) (h : Move p e s t)
    (hh : Held creates s) : Held creates t := by
  obtain ⟨c1, c2, c3, c4, c5, c6, c7, c8, c9, c10, c11, c12, c13, c14⟩ := hs.coherent
  obtain ⟨h1, h2, h3⟩ := hh
  rw [resumeNoted_iff] at h2
  cases h
  all_goals
    refine ⟨?_, ?_, ?_⟩ <;> (try rw [resumeNoted_iff]) <;> (try dsimp) <;>
      first | assumption | grind -linarith

theorem Head.held {creates : List SessionState} (hs : Inv s) (h : Head p s e t)
    (hrel : releases e = false) (hh : Held creates s) : Held creates t := by
  obtain ⟨c1, c2, c3, c4, c5, c6, c7, c8, c9, c10, c11, c12, c13, c14⟩ := hs.coherent
  obtain ⟨h1, h2, h3⟩ := hh
  rw [resumeNoted_iff] at h2
  cases h
  case disconnectIdle | disconnectClose =>
    cases ‹Disconnecting _ _ _ _› <;> refine ⟨?_, ?_, ?_⟩ <;> (try rw [resumeNoted_iff]) <;>
      dsimp <;> grind -linarith
  case cancelNothing | cancelIdle | cancelClose =>
    cases ‹Cancelling _ _ _› <;> refine ⟨?_, ?_, ?_⟩ <;> (try rw [resumeNoted_iff]) <;>
      dsimp <;> grind -linarith
  all_goals
    refine ⟨?_, ?_, ?_⟩ <;> (try rw [resumeNoted_iff]) <;> (try dsimp) <;>
      first | assumption | grind -linarith [releases]

/-- A `Suspend` in a state in which it holds keeps the session suspended. -/
theorem step_held (hs : Inv s) (hhold : HoldsSuspension s.toSessionState) :
    Held s.ledger.creates ((deviceSession p).step s (.operation .suspend)) := by
  have hreq (h : s.isSuspended = false) : s.resumeRequested = false := by
    have := hs.coherent.requested
    simpa [h] using this
  obtain ⟨hshut, hnoted⟩ := hhold
  rw [resumeNoted_iff] at hnoted
  refine step_establishes hs (enabled_operation _) ?_
    fun _ _ hu hm hh => hm.held hu hh
  intro u hu
  cases hu
  case nothing hpass => exact ⟨by rcases hpass with h | h <;> simp_all, by rwa [resumeNoted_iff], rfl⟩
  case callback c hc => cases hc
  case disconnectIdle | disconnectClose => cases ‹Disconnecting _ _ _ _›
  case cancelNothing | cancelIdle | cancelClose => cases ‹Cancelling _ _ _›
  all_goals
    refine ⟨rfl, ?_, rfl⟩
    rw [resumeNoted_iff]
    simp_all

/-! ## What a noted resume does -/

theorem Move.notSuspended (h : Move p e s t) (hs : s.isSuspended = false) :
    t.isSuspended = false := by
  cases h
  all_goals
    (try dsimp) <;> first | assumption | grind -linarith

theorem Moves.notSuspended (h : Moves p e s t) (hs : s.isSuspended = false) :
    t.isSuspended = false :=
  moves_preserve (I := fun s : Session => s.isSuspended = false) (fun _ _ => Move.notSuspended) h hs

theorem startConnection_notSuspended (hs : Coherent s.toSessionState)
    (hsu : s.isSuspended = false) (operation openImmediately) :
    (s.startConnection p (reentry p) operation openImmediately).isSuspended = false :=
  (startConnection_moves (e := .operation (.connect operation openImmediately)) reentry_sound hs
    (.requested rfl)).notSuspended hsu

/-- The end of the cooldown of the suspension's close delivers a noted `Resume`. -/
theorem completeCloseCooldown_resumes {r : Reentry} (hsd : s.isShutdown = false)
    (hf : s.isCloseInFlight = true) (hcool : s.isCloseCooldown = true) (hsus : EndsSuspension s)
    (hrqd : s.resumeRequested = true) (completedScheduledCooldown) :
    s.completeCloseCooldown p r s.closeBarrierEpoch completedScheduledCooldown =
      s.endCooldown.clearPendingClose.settleSuspended.endSuspension.startAfterResume p r := by
  obtain ⟨ha, hcont, hsu, hpend, hep⟩ := hsus
  unfold completeCloseCooldown
  rw [if_neg (by simp [hsd, hf, hcool])]
  unfold continueAfterClose
  rw [if_neg (by simp [hsd])]
  dsimp only
  rw [if_neg (by simp [ha])]
  have hpending : s.endCooldown.pendingCloseContinuation = .suspend := hcont
  rw [hpending]
  unfold completeSuspendClose
  rw [if_neg (by simp [hsd, hsu, hpend, hep])]
  dsimp only
  rw [if_neg (by simp [hrqd])]

/-- The end of the cooldown ends the suspension that a noted `Resume` waits for. -/
theorem completeCloseCooldown_releases (hs : Inv s) (hsd : s.isShutdown = false)
    (hn : ResumeNoted s.toSessionState) (hcool : s.isCloseCooldown = true)
    (completedScheduledCooldown) :
    (s.completeCloseCooldown p (reentry p) s.closeBarrierEpoch
      completedScheduledCooldown).isSuspended = false := by
  obtain ⟨hrqd, hf, hlive⟩ := hn
  obtain ⟨hsu, hpend⟩ := hs.coherent.requested hrqd
  have hends : EndsClose (.closeCooldown s.closeBarrierEpoch) s := ⟨hsd, hf, hcool, .inl rfl⟩
  cases ha : s.isCloseContinuationAbandoned with
  | true =>
    unfold completeCloseCooldown
    rw [if_neg (by simp [hsd, hf, hcool])]
    unfold continueAfterClose
    rw [if_neg (by simp [hsd])]
    dsimp only
    rw [if_pos (by exact ha)]
    have hend := (Move.endAbandoned (p := p) hends ha).coherent hs.coherent
    refine (restoreIncomingListenerAfterTerminal_moves (p := p)
      (e := .closeCooldown s.closeBarrierEpoch) reentry_sound hend).notSuspended ?_
    simp [hpend, hrqd]
  | false =>
    obtain ⟨hcont, hep⟩ : s.pendingCloseContinuation = .suspend ∧
        s.suspendCloseEpoch = s.operationEpoch := by simpa [hcool, ha] using hlive
    have hsus : EndsSuspension s := ⟨ha, hcont, hsu, hpend, hep⟩
    rw [completeCloseCooldown_resumes hsd hf hcool hsus hrqd]
    unfold startAfterResume
    split
    · rename_i hreq
      have hend := (Move.endRefused (p := p) hends hsus hrqd hreq).coherent hs.coherent
      exact startConnection_notSuspended hend rfl _ _
    · rename_i hreq
      have hend := (Move.endResumed (p := p) hends hsus hrqd
        (by simpa using hreq)).coherent hs.coherent
      split
      · exact startConnection_notSuspended hend rfl _ _
      · rfl

/-- Some run without a release ends the suspension. -/
def CanRelease (p : Platform) (s : Session) : Prop :=
  ∃ es, (deviceSession p).Run s es ∧ (∀ e ∈ es, releases e = false) ∧
    ((deviceSession p).exec s es).isSuspended = false

theorem canRelease_of_step (he : (deviceSession p).enabled s e) (hrel : releases e = false)
    (h : CanRelease p ((deviceSession p).step s e)) : CanRelease p s := by
  obtain ⟨es, hrun, hes, hsu⟩ := h
  refine ⟨e :: es, ⟨he, hrun⟩, ?_, hsu⟩
  simpa using ⟨hrel, hes⟩

theorem canRelease_of_notSuspended (h : s.isSuspended = false) : CanRelease p s :=
  ⟨[], trivial, by simp, h⟩

/-- The session when its close is confirmed. -/
def confirmed (p : Platform) (s : Session) : Session :=
  (s.deliver (.closeBarrier s.closeBarrierEpoch false)).cancelCloseBarrierTimer.beginCooldown p
    s.closeBarrierEpoch

/-- The completion of a close begins its cooldown, or ends it when it cannot be scheduled. -/
theorem step_confirms (hsd : s.isShutdown = false) (hf : s.isCloseInFlight = true)
    (hcool : s.isCloseCooldown = false) :
    (deviceSession p).step s (.closeBarrier s.closeBarrierEpoch false) =
      if (s.confirmed p).closeBarrierTimer.isNone then
        (s.confirmed p).completeCloseCooldown p (reentry p) (s.confirmed p).closeBarrierEpoch false
      else s.confirmed p := by
  have hguard : ¬ (s.isShutdown = true ∨ (!s.isCloseInFlight) = true ∨ s.isCloseCooldown = true ∨
      s.closeBarrierEpoch ≠ s.closeBarrierEpoch) := by simp [hsd, hf, hcool]
  exact if_neg hguard

theorem Inv.confirmed (hs : Inv s) (hsd : s.isShutdown = false) (hf : s.isCloseInFlight = true)
    (hcool : s.isCloseCooldown = false) : Inv (s.confirmed p) := by
  have hcancel := (Move.cancelBarrierTimer (p := p)
    (e := .closeBarrier s.closeBarrierEpoch false)).inv
    (hs.deliver (.closeBarrier s.closeBarrierEpoch false))
  exact Move.inv (e := .closeBarrier s.closeBarrierEpoch false) (.closeConfirmed rfl hsd hf hcool)
    hcancel

/-- The end of the cooldown of a close releases the session that a noted `Resume` waits in. -/
theorem coolingDown_canRelease (hs : Inv s) (hsd : s.isShutdown = false)
    (hn : ResumeNoted s.toSessionState) (hcool : s.isCloseCooldown = true) : CanRelease p s := by
  have he : (deviceSession p).enabled s (.closeCooldown s.closeBarrierEpoch) :=
    enabled_of_handed rfl (hs.close.cooldown hcool)
  refine canRelease_of_step he rfl (canRelease_of_notSuspended ?_)
  exact completeCloseCooldown_releases (hs.deliver _) hsd ⟨hn.1, hn.2, hn.3⟩ hcool true

/-- So do the completion of an abandoned close, and its cooldown. -/
theorem abandoned_canRelease (hs : Inv s) (hsd : s.isShutdown = false)
    (hn : ResumeNoted s.toSessionState) (ha : s.isCloseContinuationAbandoned = true) :
    CanRelease p s := by
  cases hcool : s.isCloseCooldown with
  | true => exact coolingDown_canRelease hs hsd hn hcool
  | false =>
    have he : (deviceSession p).enabled s (.closeBarrier s.closeBarrierEpoch false) :=
      enabled_of_handed rfl (hs.close.completion hn.inFlight)
    refine canRelease_of_step he rfl ?_
    rw [step_confirms hsd hn.inFlight hcool]
    have hinv : Inv (s.confirmed p) := hs.confirmed hsd hn.inFlight hcool
    have hnoted : ResumeNoted (s.confirmed p).toSessionState :=
      ⟨hn.requested, hn.inFlight, .inr (.inl ha)⟩
    split
    · exact canRelease_of_notSuspended (completeCloseCooldown_releases hinv hsd hnoted rfl false)
    · exact coolingDown_canRelease hinv hsd hnoted rfl

/-- And so does a close whose cooldown has not begun: it may time out first. -/
theorem canRelease_of_noted (hs : Inv s) (hsd : s.isShutdown = false)
    (hn : ResumeNoted s.toSessionState) : CanRelease p s := by
  cases hcool : s.isCloseCooldown with
  | true => exact coolingDown_canRelease hs hsd hn hcool
  | false =>
    have he : (deviceSession p).enabled s (.closeBarrier s.closeBarrierEpoch true) :=
      enabled_of_handed rfl (hs.close.timeout hn.inFlight)
    have hguard : ¬ (s.isShutdown = true ∨ (!s.isCloseInFlight) = true ∨ s.isCloseCooldown = true ∨
        s.closeBarrierEpoch ≠ s.closeBarrierEpoch) := by simp [hsd, hn.inFlight, hcool]
    have hstep : (deviceSession p).step s (.closeBarrier s.closeBarrierEpoch true) =
        (s.deliver (.closeBarrier s.closeBarrierEpoch
          true)).cancelCloseBarrierTimer.failClose .timedOut := if_neg hguard
    have hinv := step_inv he hs
    refine canRelease_of_step he rfl ?_
    rw [hstep] at hinv ⊢
    exact abandoned_canRelease hinv hsd ⟨hn.requested, hn.inFlight, .inr (.inl rfl)⟩ rfl

/-- A `Suspend` holds until the session is released, whatever comes, exactly when no `Resume` that
was noted before it can still end the suspension. -/
theorem suspended_never_connects_iff {deviceId deviceName : WString} {es : List Event}
    (hrun : (deviceSession p).Run (initial deviceId deviceName) es) :
    NeverConnects p ((deviceSession p).exec (initial deviceId deviceName) es) ↔
      HoldsSuspension ((deviceSession p).exec (initial deviceId deviceName) es).toSessionState := by
  have hinv := run_inv (p := p) (inv_initial deviceId deviceName) hrun
  generalize (deviceSession p).exec (initial deviceId deviceName) es = s at hinv
  constructor
  · intro hnever
    refine ⟨fun hsd => ?_, fun hnoted => ?_⟩
    · have hsuspend := (hnever [] ⟨enabled_operation _, trivial⟩
        (by simp)).1
      have hstep : (deviceSession p).step s (.operation .suspend) = s := if_pos (.inl hsd)
      simpa [hstep] using hsuspend
    · have hsu := (hinv.coherent.requested hnoted.requested).1
      have hsd : s.isShutdown = false := by
        cases h : s.isShutdown with
        | false => rfl
        | true => simpa [hnoted.inFlight] using (hinv.coherent.shutdown h).1
      obtain ⟨es, hrun, hes, hrel⟩ := canRelease_of_noted (p := p) hinv hsd hnoted
      have hstep : (deviceSession p).step s (.operation .suspend) = s := if_pos (.inr hsu)
      have hsuspend := (hnever es ⟨enabled_operation _,
        by rw [hstep]; exact hrun⟩ hes).1
      rw [EventSystem.exec_cons, hstep, hrel] at hsuspend
      exact absurd hsuspend (by simp)
  · rintro hhold es ⟨he, hrest⟩ hes
    have hstep := step_held (p := p) hinv hhold
    have hheld : Held s.ledger.creates
        ((deviceSession p).exec ((deviceSession p).step s (.operation .suspend)) es) :=
      run_preserves_of (fun _ e => releases e = false)
        (fun _ _ _ hi hrel hu hh => hu.held hi hrel hh) (fun _ _ _ hi hm hh => hm.held hi hh)
        (step_inv he hinv) hstep hrest (EventSystem.always_of_forall hes)
    exact ⟨hheld.suspended, hheld.creates.trans hstep.creates.symm⟩

/-- A connection is suspended, and its resume is noted. -/
def notedResume : List Event :=
  [.operation (.connect .manualConnect true), .operation .suspend, .operation .resume]

/-- A second `Suspend`, in the close of the first, does not take back the `Resume` between them. -/
theorem noted_resume_wins :
    (deviceSession obligingPlatform).Run (initial [65] [66]) notedResume ∧
      ¬ NeverConnects obligingPlatform
        ((deviceSession obligingPlatform).exec (initial [65] [66]) notedResume) := by
  refine ⟨by decide, fun hnever => ?_⟩
  have hsu := (hnever [.closeBarrier 1 false, .closeCooldown 1] (by decide) (by decide)).1
  exact absurd hsu (by decide)

theorem suspended_never_connects_notedResume :
    NeverConnects obligingPlatform
        ((deviceSession obligingPlatform).exec (initial [65] [66]) notedResume) ↔
      HoldsSuspension
        ((deviceSession obligingPlatform).exec (initial [65] [66]) notedResume).toSessionState :=
  suspended_never_connects_iff (by decide)

/-! ## What a suspension leaves behind -/

/-- The close in flight is the suspension's, and is not abandoned. -/
def Settling (s : SessionState) : Prop :=
  s.isShutdown = false ∧ s.isSuspendClosePending = true ∧ s.isCloseContinuationAbandoned = false

/-- An operation that puts its own continuation in the place of the suspension's. -/
def Overwrites (s : SessionState) : Event → Prop
  | .operation (.disconnect _) | .operation .handleDeviceRemoved => Settling s
  | .operation (.setIncomingEnabled false) => Settling s ∧ s.openImmediately = false
  | .operation .cancelReconnect | .operation (.setReconnectEnabled false) =>
    Settling s ∧ cancelsActiveReconnect s = true
  | _ => False

/-- A suspension that waits for a close waits for one that is in flight, and that ends it. -/
def SuspensionSettles (s : SessionState) : Prop :=
  s.isShutdown = false → s.isSuspendClosePending = true → s.isSuspended = true ∧
    s.isCloseInFlight = true ∧ (s.isCloseContinuationAbandoned = true ∨
      s.pendingCloseContinuation = .suspend ∧ s.suspendCloseEpoch = s.operationEpoch)

theorem Move.suspensionSettles (hs : Inv s) (h : Move p e s t)
    (hset : SuspensionSettles s.toSessionState) : SuspensionSettles t.toSessionState := by
  obtain ⟨c1, c2, c3, c4, c5, c6, c7, c8, c9, c10, c11, c12, c13, c14⟩ := hs.coherent
  unfold SuspensionSettles at *
  cases h
  all_goals
    try dsimp
    first | assumption | grind -linarith

theorem Head.suspensionSettles (hs : Inv s) (h : Head p s e t)
    (hover : ¬ Overwrites s.toSessionState e) (hset : SuspensionSettles s.toSessionState) :
    SuspensionSettles t.toSessionState := by
  obtain ⟨c1, c2, c3, c4, c5, c6, c7, c8, c9, c10, c11, c12, c13, c14⟩ := hs.coherent
  unfold SuspensionSettles at *
  cases h
  case disconnectIdle | disconnectClose =>
    cases ‹Disconnecting _ _ _ _› <;> dsimp <;> grind -linarith [Overwrites, Settling]
  case cancelNothing | cancelIdle | cancelClose =>
    cases ‹Cancelling _ _ _› <;> dsimp <;> grind -linarith [Overwrites, Settling]
  all_goals
    try dsimp
    first | assumption | grind -linarith [Overwrites, Settling]

/-- An operation that overwrites the suspension's continuation leaves the suspension waiting for a
close that does not end it. -/
theorem step_overwrites (hs : Inv s) (hset : SuspensionSettles s.toSessionState)
    (hover : Overwrites s.toSessionState e) :
    ¬ SuspensionSettles ((deviceSession p).step s e).toSessionState := by
  have hsettling : Settling s.toSessionState := by
    unfold Overwrites at hover
    split at hover <;> first | exact hover | exact hover.1 | exact hover.elim
  obtain ⟨hsd, hpend, ha⟩ := hsettling
  obtain ⟨hsu, hf, hcont⟩ := hset hsd hpend
  have hc := hs.coherent.inFlight hf
  have hbad {t : Session} (hsd : t.isShutdown = false) (hpend : t.isSuspendClosePending = true)
      (ha : t.isCloseContinuationAbandoned = false) (hcont : t.pendingCloseContinuation ≠ .suspend) :
      ¬ SuspensionSettles t.toSessionState := by
    intro h
    rcases (h hsd hpend).2.2 with h | h
    · exact absurd h (by simp [ha])
    · exact hcont h.1
  have hactive (h : cancelsActiveReconnect s.toSessionState = true) :
      s.lifecycle = .disconnecting ∧ s.currentOperation = .automaticReconnect := by
    have hwait : s.lifecycle ≠ .waitingForReconnect := fun h => by
      simp [(hs.coherent.waiting h).1] at hf
    have hconn : s.lifecycle ≠ .connecting := fun h => by
      simp [(hs.coherent.connecting h).1] at hf
    simpa [cancelsActiveReconnect, hwait, hconn] using h
  unfold Overwrites at hover
  split at hover
  · refine hbad ?_ ?_ ?_ ?_ <;>
      simp [deviceSession, delivered, Event.continuation, handle, operate, disconnect, beginClose,
        hsd, hpend, ha, hf, hc]
  · refine hbad ?_ ?_ ?_ ?_ <;>
      simp [deviceSession, delivered, Event.continuation, handle, operate, handleDeviceRemoved,
        removeDevice, closeRemoved, beginClose, hsd, hpend, ha, hf, hc]
  · refine hbad ?_ ?_ ?_ ?_ <;>
      simp [deviceSession, delivered, Event.continuation, handle, operate, setIncomingEnabled,
        disconnect, beginClose, hsd, hpend, ha, hf, hc, hover.2]
  · obtain ⟨hlife, hop⟩ := hactive hover.2
    refine hbad ?_ ?_ ?_ ?_ <;>
      simp [deviceSession, delivered, Event.continuation, handle, operate, cancelReconnect,
        cancelAutomaticReconnect, cancelActive, cancelsActiveReconnect, beginClose, hsd, hpend, ha,
        hf, hc, hlife, hop]
  · obtain ⟨hlife, hop⟩ := hactive hover.2
    refine hbad ?_ ?_ ?_ ?_ <;>
      simp [deviceSession, delivered, Event.continuation, handle, operate, setReconnectEnabled,
        cancelAutomaticReconnect, cancelActive, cancelsActiveReconnect, beginClose, hsd, hpend, ha,
        hf, hc, hlife, hop]
  · exact hover.elim

/-- A session that is suspended after a `Resume` waits for a close, and the `Resume` is noted. -/
def Resuming (s : SessionState) : Prop :=
  s.isShutdown = false → s.isSuspended = true →
    s.isSuspendClosePending = true ∧ s.resumeRequested = true

theorem Move.resuming (h : Move p e s t) (hr : Resuming s.toSessionState) :
    Resuming t.toSessionState := by
  unfold Resuming at *
  cases h
  all_goals
    try dsimp
    first | assumption | grind -linarith

theorem Head.resuming (h : Head p s e t) (hsus : e ≠ .operation .suspend)
    (hr : e = .operation .resume ∨ Resuming s.toSessionState) : Resuming t.toSessionState := by
  unfold Resuming at *
  cases h
  case callback c hc =>
    rcases hr with rfl | hr
    · cases hc
    · exact hr
  case disconnectIdle | disconnectClose =>
    cases ‹Disconnecting _ _ _ _› <;> dsimp <;> grind -linarith
  case cancelNothing | cancelIdle | cancelClose =>
    cases ‹Cancelling _ _ _› <;> dsimp <;> grind -linarith
  all_goals
    try dsimp
    first | assumption | grind -linarith [Passive]

/-- Once a `Suspend` and then a `Resume` have come, and until the next `Suspend` or `Shutdown`, a
session with no close in flight is not suspended. -/
def ResumesDelivered (p : Platform) (s : Session) (es : List Event) : Prop :=
  ∀ pre mid post rest, es = (pre ++ .operation .suspend :: mid) ++ .operation .resume :: post ++ rest →
    (∀ e ∈ mid ++ post, e ≠ .operation .suspend ∧ e ≠ .operation .shutdown) →
    let t := (deviceSession p).exec s
      ((pre ++ .operation .suspend :: mid) ++ .operation .resume :: post)
    t.isShutdown = false → t.isCloseInFlight = false → t.isSuspended = false

theorem suspensionSettles_initial (deviceId deviceName : WString) :
    SuspensionSettles (initial deviceId deviceName).toSessionState := by
  simp [SuspensionSettles, initial]

theorem run_suspensionSettles {es : List Event} (hs : Inv s)
    (hset : SuspensionSettles s.toSessionState) (hrun : (deviceSession p).Run s es)
    (hok : (deviceSession p).Always (fun s e => ¬ Overwrites s.toSessionState e) s es) :
    SuspensionSettles ((deviceSession p).exec s es).toSessionState :=
  run_preserves_of (I := fun s => SuspensionSettles s.toSessionState)
    (fun s e => ¬ Overwrites s.toSessionState e) (fun _ _ _ hs hok h hi => h.suspensionSettles hs hok hi)
    (fun _ _ _ hs h hi => h.suspensionSettles hs hi) hs hset hrun hok

theorem resumesDelivered {es : List Event} (hs : Inv s)
    (hset : SuspensionSettles s.toSessionState) (hrun : (deviceSession p).Run s es)
    (hok : (deviceSession p).Always (fun s e => ¬ Overwrites s.toSessionState e) s es) :
    ResumesDelivered p s es := by
  rintro pre mid post rest rfl hquiet t hsd hnf
  rw [EventSystem.run_append] at hrun
  rw [EventSystem.always_append] at hok
  have hsettles := run_suspensionSettles hs hset hrun.1 hok.1
  obtain ⟨hbefore, hresume, hafter⟩ := (EventSystem.run_append _).1 hrun.1
  have hinv := run_inv hs hbefore
  have hresumed := step_establishes (I := fun s => Resuming s.toSessionState) hinv hresume
    (fun _ hu => hu.resuming (by simp) (.inl rfl)) fun _ _ _ hm hi => hm.resuming hi
  have hresuming := run_preserves_of (I := fun s => Resuming s.toSessionState)
    (fun _ e => e ≠ .operation .suspend)
    (fun _ _ _ _ hne h hi => h.resuming hne (.inr hi)) (fun _ _ _ _ h hi => h.resuming hi)
    (step_inv hresume hinv) hresumed hafter
    (EventSystem.always_of_forall fun e he => (hquiet e (by simp [he])).1)
  rw [← EventSystem.exec_cons, ← EventSystem.exec_append] at hresuming
  cases hsu : t.isSuspended with
  | false => rfl
  | true =>
    have hflight := (hsettles hsd (hresuming hsd hsu).1).2.1
    exact absurd (hnf.symm.trans hflight) (by simp)

/-- In every run, a suspension that waits for a close waits for one that will end it, and every
resume is delivered, exactly when no operation puts its own continuation in the place of the
suspension's. -/
theorem resume_never_lost_iff {deviceId deviceName : WString} {es : List Event}
    (hrun : (deviceSession p).Run (initial deviceId deviceName) es) :
    (deviceSession p).Always
        (fun s e => SuspensionSettles ((deviceSession p).step s e).toSessionState)
        (initial deviceId deviceName) es ∧
      ResumesDelivered p (initial deviceId deviceName) es ↔
    (deviceSession p).Always (fun s e => ¬ Overwrites s.toSessionState e)
      (initial deviceId deviceName) es := by
  have hinit := inv_initial deviceId deviceName
  have hset := suspensionSettles_initial deviceId deviceName
  constructor
  · rintro ⟨hsettles, -⟩
    refine (hrun.and hsettles).of_invariant
      (I := fun s => Inv s ∧ SuspensionSettles s.toSessionState) ?_ ?_ ⟨hinit, hset⟩
    · intro s e h hs
      exact ⟨step_inv h.1 hs.1, h.2⟩
    · intro s e h hs hover
      exact step_overwrites hs.1 hs.2 hover h.2
  · intro hok
    refine ⟨?_, resumesDelivered hinit hset hrun hok⟩
    have hstep (s : Session) (e : Event)
        (h : (deviceSession p).enabled s e ∧ ¬ Overwrites s.toSessionState e)
        (hs : Inv s ∧ SuspensionSettles s.toSessionState) :
        SuspensionSettles ((deviceSession p).step s e).toSessionState :=
      step_establishes (I := fun s => SuspensionSettles s.toSessionState) hs.1 h.1
        (fun _ hu => hu.suspensionSettles hs.1 h.2 hs.2)
        fun _ _ hi hm hset => hm.suspensionSettles hi hset
    exact (hrun.and hok).of_invariant (I := fun s => Inv s ∧ SuspensionSettles s.toSessionState)
      (fun s e h hs => ⟨step_inv h.1 hs.1, hstep s e h hs⟩) hstep ⟨hinit, hset⟩

/-- A connection is suspended, and then disconnected in the close of the suspension. -/
def overwrittenSuspension : List Event :=
  [.operation (.connect .manualConnect true), .operation .suspend,
    .operation (.disconnect false), .operation .resume, .closeBarrier 1 false, .closeCooldown 1]

/-- The resume of an overwritten suspension is lost. -/
theorem overwritten_resume_lost :
    (deviceSession obligingPlatform).Run (initial [65] [66]) overwrittenSuspension ∧
      ¬ ResumesDelivered obligingPlatform (initial [65] [66]) overwrittenSuspension := by
  refine ⟨by decide, fun hdelivered => ?_⟩
  have hsu := hdelivered [.operation (.connect .manualConnect true)]
    [.operation (.disconnect false)] [.closeBarrier 1 false, .closeCooldown 1] [] rfl (by decide)
    (by decide) (by decide)
  exact absurd hsu (by decide)

theorem resume_never_lost_overwrittenSuspension :
    (deviceSession obligingPlatform).Always
        (fun s e => SuspensionSettles ((deviceSession obligingPlatform).step s e).toSessionState)
        (initial [65] [66]) overwrittenSuspension ∧
      ResumesDelivered obligingPlatform (initial [65] [66]) overwrittenSuspension ↔
    (deviceSession obligingPlatform).Always (fun s e => ¬ Overwrites s.toSessionState e)
      (initial [65] [66]) overwrittenSuspension :=
  resume_never_lost_iff (by decide)

end Session

end PlaybackConnector
