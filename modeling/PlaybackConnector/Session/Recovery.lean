import PlaybackConnector.Session.Suspension

/-!
# The recovery of a suspended session

How a suspended session is released after a power transition: by a `Resume` that waits, where it
has to, for the close of the suspension (`Recovering`), by `CancelPowerTransitionRecovery`, by
`ResumeIdleAfterPowerTransition` when there is nothing to recover, or by a command that supersedes
the recovery. Each of them leaves a session that is not suspended, or one whose close will release
it; only an operation that overwrites the continuation of that close loses the release.
-/

namespace PlaybackConnector

namespace Session

variable {p : Platform} {e : Event} {s t : Session}

/-! ## Sessions that stay released -/

/-- Only a `Suspend` suspends a session. -/
theorem Head.notSuspended (h : Head p s e t) (hne : e ≠ .operation .suspend)
    (hs : s.isSuspended = false) : t.isSuspended = false := by
  cases h
  case suspendIdle | suspendClosing | suspendOpen | suspendUnarmed => exact absurd rfl hne
  case disconnectIdle | disconnectClose => cases ‹Disconnecting _ _ _ _› <;> exact hs
  case cancelNothing | cancelIdle | cancelClose => cases ‹Cancelling _ _ _› <;> exact hs
  all_goals
    (try dsimp) <;> assumption

theorem step_notSuspended (hs : Inv s) (he : (deviceSession p).enabled s e)
    (hne : e ≠ .operation .suspend) (hsu : s.isSuspended = false) :
    ((deviceSession p).step s e).isSuspended = false :=
  step_establishes (I := fun s => s.isSuspended = false) hs he
    (fun _ hu => hu.notSuspended hne hsu) fun _ _ _ hm hi => hm.notSuspended hi

/-- A suspended session is not connected. -/
def HeldDown (s : SessionState) : Prop := s.isSuspended = true → s.lifecycle ≠ .connected

theorem Move.heldDown (hs : Inv s) (h : Move p e s t) (hd : HeldDown s.toSessionState) :
    HeldDown t.toSessionState := by
  have hsuspended := hs.coherent.suspended
  unfold HeldDown at *
  cases h
  all_goals
    try dsimp
    first | assumption | grind -linarith

theorem Head.heldDown (h : Head p s e t) (hd : HeldDown s.toSessionState) :
    HeldDown t.toSessionState := by
  unfold HeldDown at *
  cases h
  case disconnectIdle | disconnectClose =>
    cases ‹Disconnecting _ _ _ _› <;> dsimp <;> grind -linarith
  case cancelNothing | cancelIdle | cancelClose =>
    cases ‹Cancelling _ _ _› <;> dsimp <;> grind -linarith
  all_goals
    try dsimp
    first | assumption | grind -linarith

theorem step_heldDown (hs : Inv s) (he : (deviceSession p).enabled s e)
    (hd : HeldDown s.toSessionState) : HeldDown ((deviceSession p).step s e).toSessionState :=
  step_establishes (I := fun s => HeldDown s.toSessionState) hs he (fun _ hu => hu.heldDown hd)
    fun _ _ hi hm h => hm.heldDown hi h

/-! ## Sessions that will be released -/

/-- A suspended session waits for the close of its suspension, and a `Resume` that was noted ends
the suspension with that close. -/
structure Recovering (s : SessionState) : Prop where
  resuming : Resuming s
  settles : SuspensionSettles s

/-- Such a session is released when it has no close in flight. -/
theorem Recovering.released {s : SessionState} (h : Recovering s) (hlive : s.isShutdown = false)
    (hnf : s.isCloseInFlight = false) : s.isSuspended = false := by
  cases hsu : s.isSuspended with
  | false => rfl
  | true =>
    have hflight := (h.settles hlive (h.resuming hlive hsu).1).2.1
    exact absurd (hnf.symm.trans hflight) (by simp)

/-- What the session waits for. -/
theorem Recovering.waits {s : SessionState} (h : Recovering s) (hlive : s.isShutdown = false)
    (hsu : s.isSuspended = true) : s.resumeRequested = true ∧ s.isSuspendClosePending = true ∧
      s.isCloseInFlight = true := by
  obtain ⟨hpend, hreq⟩ := h.resuming hlive hsu
  exact ⟨hreq, hpend, (h.settles hlive hpend).2.1⟩

/-- A noted `Resume` whose close settles. -/
theorem recovering_of_requested {s : SessionState} (hs : Coherent s)
    (hreq : s.resumeRequested = true) (hset : SuspensionSettles s) : Recovering s :=
  ⟨fun _ _ => ⟨(hs.requested hreq).2, hreq⟩, hset⟩

/-- A suspended session stays one that will be released, unless its close is overwritten. -/
theorem step_recovering (hs : Inv s) (he : (deviceSession p).enabled s e)
    (hne : e ≠ .operation .suspend) (hover : s.isSuspended = true → ¬ Overwrites s.toSessionState e)
    (h : s.isSuspended = true → Recovering s.toSessionState)
    (hsu : ((deviceSession p).step s e).isSuspended = true) :
    Recovering ((deviceSession p).step s e).toSessionState := by
  cases hheld : s.isSuspended with
  | false => exact absurd ((step_notSuspended hs he hne hheld).symm.trans hsu) (by simp)
  | true =>
    obtain ⟨hres, hset⟩ := h hheld
    have hover := hover hheld
    refine ⟨?_, ?_⟩
    · exact step_establishes (I := fun s => Resuming s.toSessionState) hs he
        (fun _ hu => hu.resuming hne (.inr hres)) fun _ _ _ hm hi => hm.resuming hi
    · exact step_establishes (I := fun s => SuspensionSettles s.toSessionState) hs he
        (fun _ hu => hu.suspensionSettles hs hover hset)
        fun _ _ hi hm h => hm.suspensionSettles hi h

/-- A `Resume` releases the session, or is noted for the end of its close. -/
theorem step_resume (hs : Inv s)
    (hset : s.isSuspended = true → SuspensionSettles s.toSessionState)
    (hsu : ((deviceSession p).step s (.operation .resume)).isSuspended = true) :
    Recovering ((deviceSession p).step s (.operation .resume)).toSessionState := by
  have he : (deviceSession p).enabled s (.operation .resume) := enabled_operation _
  cases hheld : s.isSuspended with
  | false => exact absurd ((step_notSuspended hs he (by simp) hheld).symm.trans hsu) (by simp)
  | true =>
    have hset := hset hheld
    refine ⟨?_, ?_⟩
    · exact step_establishes (I := fun s => Resuming s.toSessionState) hs he
        (fun _ hu => hu.resuming (by simp) (.inl rfl)) fun _ _ _ hm hi => hm.resuming hi
    · exact step_establishes (I := fun s => SuspensionSettles s.toSessionState) hs he
        (fun _ hu => hu.suspensionSettles hs id hset)
        fun _ _ hi hm h => hm.suspensionSettles hi h

/-! ## Releases -/

/-- `CancelPowerTransitionRecovery` releases its hold. -/
theorem step_cancelPowerTransitionRecovery (hlive : s.isShutdown = false) :
    ((deviceSession p).step s (.operation .cancelPowerTransitionRecovery)).isSuspended = false := by
  change s.cancelPowerTransitionRecovery.isSuspended = false
  unfold cancelPowerTransitionRecovery
  cases hsu : s.isSuspended with
  | false => rw [if_pos (by simp)]; exact hsu
  | true => rw [if_neg (by simp [hlive])]; rfl

/-- The session has nothing to recover: `ResumeIdleAfterPowerTransition` does not return at once.
Source: `DeviceSession.cpp:1066`. -/
def Waived (s : SessionState) : Prop :=
  s.isSuspendClosePending = false ∧ s.resumeRequired = false ∧ s.resumeRequested = false ∧
    s.isIncomingEnabled = false

instance (s : SessionState) : Decidable (Waived s) :=
  inferInstanceAs (Decidable (_ ∧ _ ∧ _ ∧ _))

theorem step_resumeIdle (hlive : s.isShutdown = false) (h : Waived s.toSessionState) :
    ((deviceSession p).step s (.operation .resumeIdleAfterPowerTransition)).isSuspended =
      false := by
  obtain ⟨hpend, hreq, hrqd, hin⟩ := h
  change s.resumeIdleAfterPowerTransition.isSuspended = false
  unfold resumeIdleAfterPowerTransition
  cases hsu : s.isSuspended with
  | false => rw [if_pos (by simp)]; exact hsu
  | true => rw [if_neg (by simp [hlive, hpend, hreq, hrqd, hin])]; rfl

/-- Asking `ResumeIdleAfterPowerTransition` of another session changes nothing of it. -/
theorem step_resumeIdle_of_not (h : ¬ Waived s.toSessionState) :
    (deviceSession p).step s (.operation .resumeIdleAfterPowerTransition) = s := by
  change s.resumeIdleAfterPowerTransition = s
  unfold resumeIdleAfterPowerTransition
  by_cases hguard : s.isShutdown = true ∨ s.isSuspended = false
  · exact if_pos (by simpa using hguard.imp id .inl)
  · refine if_pos ?_
    simp only [Waived] at h
    by_contra hgo
    simp_all

/-- A close in flight takes the new continuation, if it is not abandoned. -/
theorem beginClose_inFlight {r : Reentry} (hf : s.isCloseInFlight = true)
    {epoch continuation failure shouldRetry completedAttempt disconnectReason} :
    s.beginClose p r epoch continuation failure shouldRetry completedAttempt disconnectReason =
      s.requestClose continuation failure shouldRetry completedAttempt disconnectReason := by
  rw [beginClose_eq (.inr hf), closeRequested, if_pos (by exact hf)]

/-- A manual command supersedes the recovery. -/
theorem step_manual_releases (hs : Inv s) (hlive : s.isShutdown = false)
    {operation : DeviceOperationKind}
    (hmanual : operation = .manualConnect ∨ operation = .manualReconnect) (openImmediately) :
    ((deviceSession p).step s (.operation (.connect operation openImmediately))).isSuspended =
      false := by
  change (s.connect p (reentry p) operation openImmediately).isSuspended = false
  unfold connect
  rw [if_neg (by simp [hlive])]
  cases hsu : s.isSuspended with
  | false =>
    rw [if_neg (by simp)]
    exact startConnection_notSuspended hs.coherent hsu _ _
  | true =>
    rw [if_pos (by simp [hmanual])]
    unfold supersedePowerTransitionRecovery
    dsimp only
    split
    · next hnf =>
      have hnf : s.isCloseInFlight = false := by simpa using hnf
      have hhead : Head p s (.operation (.connect operation openImmediately)) s.releaseHold :=
        .supersedeRelease _ _ hlive hsu hmanual (by simp [hnf])
      exact startConnection_notSuspended (hhead.coherent hs.coherent) rfl _ _
    · next hf =>
      have hf : s.isCloseInFlight = true := by simpa using hf
      split
      · rfl
      · have hf' : (s.releaseHold.enterSuperseding operation openImmediately).isCloseInFlight =
            true := by simpa using hf
        rw [beginClose_inFlight hf']
        simp

/-! ## Two operations in one task -/

/-- Cancelling an automatic reconnect in a close keeps what a later operation asks for. -/
theorem cancelAutomaticReconnect_inFlight {r : Reentry} (hf : s.isCloseInFlight = true)
    (restoreIncoming : Bool) :
    (s.cancelAutomaticReconnect p r restoreIncoming).openImmediately = s.openImmediately ∧
      (s.isCloseContinuationAbandoned = true →
        (s.cancelAutomaticReconnect p r restoreIncoming).isCloseContinuationAbandoned = true) := by
  unfold cancelAutomaticReconnect cancelActive
  split
  · exact ⟨rfl, id⟩
  · dsimp only
    rw [if_pos (.inr hf), beginClose_inFlight (by exact hf)]
    refine ⟨rfl, fun ha => ?_⟩
    simp [hf, ha]

/-- The operations that a task performs before another one on the same session. -/
def IsCancelling : Operation → Prop
  | .cancelReconnect | .setReconnectEnabled _ => True
  | _ => False

theorem step_cancelling_inFlight (hlive : s.isShutdown = false) (hf : s.isCloseInFlight = true)
    {operation : Operation} (hop : IsCancelling operation) :
    ((deviceSession p).step s (.operation operation)).openImmediately = s.openImmediately ∧
      (s.isCloseContinuationAbandoned = true →
        ((deviceSession p).step s (.operation operation)).isCloseContinuationAbandoned = true) := by
  cases operation with
  | cancelReconnect =>
    change (s.cancelReconnect p (reentry p)).openImmediately = _ ∧
      (_ → (s.cancelReconnect p (reentry p)).isCloseContinuationAbandoned = true)
    unfold cancelReconnect
    rw [if_neg (by simp [hlive])]
    exact cancelAutomaticReconnect_inFlight (s := { s with isReconnectCancelled := true }) hf _
  | setReconnectEnabled enabled =>
    change (s.setReconnectEnabled p (reentry p) enabled).openImmediately = _ ∧
      (_ → (s.setReconnectEnabled p (reentry p) enabled).isCloseContinuationAbandoned = true)
    unfold setReconnectEnabled
    rw [if_neg (by simp [hlive])]
    dsimp only
    split
    · exact cancelAutomaticReconnect_inFlight (s := { s with isReconnectEnabled := enabled }) hf _
    · exact ⟨rfl, id⟩
  | _ => exact hop.elim

/-- What does not overwrite the close of a suspension before a cancellation does not overwrite it
afterwards. -/
theorem not_overwrites_of_cancelling (hlive : s.isShutdown = false)
    (hrec : Recovering s.toSessionState) (hsu : s.isSuspended = true) {first second : Operation}
    (hfirst : IsCancelling first)
    (hsecond : (∃ restore, second = .disconnect restore) ∨
      ∃ enabled, second = .setIncomingEnabled enabled)
    (hover : ¬ Overwrites s.toSessionState (.operation second)) :
    ¬ Overwrites ((deviceSession p).step s (.operation first)).toSessionState
      (.operation second) := by
  obtain ⟨-, hpend, hf⟩ := hrec.waits hlive hsu
  obtain ⟨hopen, habandoned⟩ := step_cancelling_inFlight (p := p) hlive hf hfirst
  have hback (h : Settling ((deviceSession p).step s (.operation first)).toSessionState) :
      Settling s.toSessionState := by
    refine ⟨hlive, hpend, ?_⟩
    cases ha : s.isCloseContinuationAbandoned with
    | false => rfl
    | true => exact absurd ((habandoned ha).symm.trans h.2.2) (by simp)
  rcases hsecond with ⟨restore, rfl⟩ | ⟨enabled, rfl⟩
  · exact fun h => hover (hback h)
  · cases enabled with
    | true => exact id
    | false => exact fun h => hover ⟨hback h.1, hopen ▸ h.2⟩

end Session

end PlaybackConnector
