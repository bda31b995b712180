import PlaybackConnector.Session.Suspension

/-!
# An explicit disconnect

After `Disconnect` the session may listen for incoming connections, but it opens none itself until
the next `Connect`. The intent is kept in `IsReconnectCancelled`, which every retry respects. A
suspension does not: one that comes while the user's close is in flight captures the session as
recoverable (`ResumeRequired`), and `StartAfterResume` starts what was captured without looking at
the user's decision. The disconnect is final in the runs in which no such recovery is replayed, and
only in these (`disconnect_final_iff`).
-/

namespace PlaybackConnector

namespace Session

variable {p : Platform} {e : Event} {s t : Session} {before creates : List SessionState}

/-! ## What a disconnect promises -/

/-- The event is a `Connect`. -/
def connects : Event → Bool
  | .operation (.connect _ _) => true
  | _ => false

/-- The session listens when it creates a connection, as it may. -/
def Listens (b : SessionState) : Prop := b.openImmediately = false ∧ b.isIncomingEnabled = true

/-- The connections that were created since are listeners. -/
def NewListeners (before creates : List SessionState) : Prop :=
  ∃ new, creates = new ++ before ∧ ∀ b ∈ new, Listens b

theorem NewListeners.refl : NewListeners before before := ⟨[], rfl, by simp⟩

theorem NewListeners.cons {b : SessionState} (h : NewListeners before creates)
    (hopen : b.openImmediately = false) (hincoming : b.isIncomingEnabled = true) :
    NewListeners before (b :: creates) := by
  obtain ⟨new, rfl, hnew⟩ := h
  refine ⟨b :: new, rfl, ?_⟩
  intro b' hb'
  rcases List.mem_cons.1 hb' with rfl | hb'
  · exact ⟨hopen, hincoming⟩
  · exact hnew b' hb'

/-! ## The recovery of a suspension -/

/-- What the suspension captured is not a listener, or is one that is not allowed any more. -/
def RecoveryOpens (s : SessionState) : Prop :=
  s.resumeOpenImmediately = true ∨ s.isIncomingEnabled = false

/-- The end of the close in flight ends the suspension, and starts what it captured. -/
def RecoversAfterClose (s : SessionState) : Prop :=
  s.isCloseContinuationAbandoned = false ∧ s.pendingCloseContinuation = .suspend ∧
    s.isSuspended = true ∧ s.isSuspendClosePending = true ∧
    s.suspendCloseEpoch = s.operationEpoch ∧ s.resumeRequested = true ∧
    s.resumeRequired = true ∧ s.deviceId ≠ []

/-- The event starts what the suspension captured, which is not a listener. -/
def Replays (p : Platform) (s : Session) : Event → Prop
  | .operation .resume => s.isShutdown = false ∧ s.isSuspended = true ∧
      s.isSuspendClosePending = false ∧ s.resumeRequired = true ∧ s.isCloseInFlight = false ∧
      s.lifecycle ≠ .disconnecting ∧ s.deviceId ≠ [] ∧ RecoveryOpens s.toSessionState
  | .closeCooldown closeBarrierEpoch => EndsClose (.closeCooldown closeBarrierEpoch) s ∧
      RecoversAfterClose s.toSessionState ∧ RecoveryOpens s.toSessionState
  | .closeBarrier closeBarrierEpoch false => s.isShutdown = false ∧ s.isCloseInFlight = true ∧
      s.isCloseCooldown = false ∧ closeBarrierEpoch = s.closeBarrierEpoch ∧
      p.schedule s.ledger.platformCalls ≠ .timer ∧ RecoversAfterClose s.toSessionState ∧
      RecoveryOpens s.toSessionState
  | _ => False

/-! ## The invariant -/

/-- The event may end the close in flight. -/
def endsClose : Event → Bool
  | .closeCooldown _ | .closeBarrier _ false => true
  | _ => false

/-- What the end of the close starts, if anything, is a listener. -/
def RecoveryListens (e : Event) (s : SessionState) : Prop :=
  endsClose e = true → RecoversAfterClose s → ¬ RecoveryOpens s

/-- What holds after a disconnect, of a session that has created `before` before it. -/
structure Final (before : List SessionState) (s : Session) : Prop where
  cancelled : s.isReconnectCancelled = true
  notWaiting : s.lifecycle ≠ .waitingForReconnect
  replaces : s.pendingCloseContinuation = .replace →
    s.isCloseInFlight = true ∨ s.connection.isSome → Listens s.toSessionState
  creates : NewListeners before s.ledger.creates

/-- After a disconnect, and until the next `Connect`, only a listener is started. -/
theorem StartCause.listens {operation : DeviceOperationKind} {openImmediately : Bool}
    (h : StartCause e s operation openImmediately) (hno : connects e = false)
    (hwait : s.lifecycle ≠ .waitingForReconnect) :
    operation = .incomingEnable ∧ openImmediately = false ∧ s.isIncomingEnabled = true := by
  cases h with
  | requested event =>
    rw [event] at hno
    cases hno
  | retried waiting => exact absurd waiting hwait
  | incoming enabled => exact ⟨rfl, rfl, enabled⟩

theorem Move.recoveryListens (hs : Inv s) (h : Move p e s t)
    (hrec : RecoveryListens e s.toSessionState) : RecoveryListens e t.toSessionState := by
  have hep := hs.coherent.suspendEpoch
  unfold RecoveryListens RecoversAfterClose RecoveryOpens at *
  cases h
  all_goals
    try dsimp
    first | assumption | grind -linarith

theorem Move.final (hs : Inv s) (h : Move p e s t) (hno : connects e = false)
    (hrec : RecoveryListens e s.toSessionState) (hfinal : Final before s) : Final before t := by
  obtain ⟨c1, c2, c3, c4, c5, c6, c7, c8, c9, c10, c11, c12, c13, c14⟩ := hs.coherent
  obtain ⟨h1, h2, h3, h4⟩ := hfinal
  unfold RecoveryListens RecoversAfterClose RecoveryOpens at hrec
  unfold Listens at *
  cases h
  all_goals
    refine ⟨?_, ?_, ?_, ?_⟩ <;> (try dsimp [Listens]) <;>
      first | assumption | grind -linarith [endsClose, Confirms, ← NewListeners.cons,
        → StartCause.listens]

theorem Head.final (hs : Inv s) (h : Head p s e t) (hno : connects e = false)
    (hrep : ¬ Replays p s e) (hfinal : Final before s) : Final before t := by
  obtain ⟨c1, c2, c3, c4, c5, c6, c7, c8, c9, c10, c11, c12, c13, c14⟩ := hs.coherent
  obtain ⟨h1, h2, h3, h4⟩ := hfinal
  unfold Listens at *
  cases h
  case disconnectIdle | disconnectClose =>
    cases ‹Disconnecting _ _ _ _› <;> refine ⟨?_, ?_, ?_, ?_⟩ <;> dsimp [Listens] <;>
      grind -linarith
  case cancelNothing | cancelIdle | cancelClose =>
    cases ‹Cancelling _ _ _› <;> refine ⟨?_, ?_, ?_, ?_⟩ <;> dsimp [Listens] <;>
      grind -linarith
  all_goals
    refine ⟨?_, ?_, ?_, ?_⟩ <;> (try dsimp [Listens]) <;>
      first | assumption | grind -linarith [connects, RecoveryOpens, Replays,
        ← NewListeners.cons]

/-! ## Steps -/

theorem Head.recoveryListens (h : Head p s e t) (hrec : RecoveryListens e s.toSessionState) :
    RecoveryListens e t.toSessionState := by
  intro hend
  cases h
  case callback => exact hrec hend
  case disconnectIdle | disconnectClose => cases ‹Disconnecting _ _ _ _› <;> cases hend
  case cancelNothing | cancelIdle | cancelClose => cases ‹Cancelling _ _ _› <;> cases hend
  all_goals cases hend

theorem step_final_of_listens (hs : Inv s) (he : (deviceSession p).enabled s e)
    (hno : connects e = false) (hrep : ¬ Replays p s e)
    (hrec : RecoveryListens e s.toSessionState) (hfinal : Final before s) :
    Final before ((deviceSession p).step s e) := by
  have hkeep := step_establishes (p := p)
    (I := fun s => Final before s ∧ RecoveryListens e s.toSessionState) hs he
    (fun u hu => ⟨hu.final hs hno hrep hfinal, hu.recoveryListens hrec⟩)
    fun u v hu hm hi => ⟨hm.final hu hno hi.2 hi.1, hm.recoveryListens hu hi.2⟩
  exact hkeep.1

/-- A callback of the close that comes too late or too early does nothing. -/
theorem step_stale_cooldown {closeBarrierEpoch : Nat}
    (h : ¬ EndsClose (.closeCooldown closeBarrierEpoch) s) :
    (deviceSession p).step s (.closeCooldown closeBarrierEpoch) =
      s.deliver (.closeCooldown closeBarrierEpoch) := by
  refine if_pos ?_
  by_contra hgo
  have hgo' : s.isShutdown = false ∧ s.isCloseInFlight = true ∧ s.isCloseCooldown = true ∧
      closeBarrierEpoch = s.closeBarrierEpoch := by
    simpa [delivered, Event.continuation] using hgo
  obtain ⟨hsd, hf, hcool, rfl⟩ := hgo'
  exact h ⟨hsd, hf, hcool, .inl rfl⟩

theorem step_stale_completion {closeBarrierEpoch : Nat}
    (h : ¬ (s.isShutdown = false ∧ s.isCloseInFlight = true ∧ s.isCloseCooldown = false ∧
      closeBarrierEpoch = s.closeBarrierEpoch)) :
    (deviceSession p).step s (.closeBarrier closeBarrierEpoch false) =
      s.deliver (.closeBarrier closeBarrierEpoch false) := by
  refine if_pos ?_
  by_contra hgo
  exact h (by simpa [delivered, Event.continuation] using hgo)

/-- A step that replays no recovery keeps a disconnect final. -/
theorem step_final (hs : Inv s) (he : (deviceSession p).enabled s e)
    (hno : connects e = false) (hrep : ¬ Replays p s e) (hfinal : Final before s) :
    Final before ((deviceSession p).step s e) := by
  have hdel (c : Continuation) : Final before (s.deliver c) :=
    ⟨hfinal.cancelled, hfinal.notWaiting, hfinal.replaces, hfinal.creates⟩
  cases hend : endsClose e with
  | false => exact step_final_of_listens hs he hno hrep (fun h => by simp [hend] at h) hfinal
  | true =>
    unfold endsClose at hend
    split at hend
    · rename_i n
      by_cases hlive : EndsClose (.closeCooldown n) s
      · exact step_final_of_listens hs he hno hrep (fun _ hrec hopen => hrep ⟨hlive, hrec, hopen⟩)
          hfinal
      · rw [step_stale_cooldown hlive]
        exact hdel _
    · rename_i n
      by_cases hlive : s.isShutdown = false ∧ s.isCloseInFlight = true ∧
          s.isCloseCooldown = false ∧ n = s.closeBarrierEpoch
      · obtain ⟨hsd, hf, hcool, rfl⟩ := hlive
        by_cases harmed : p.schedule s.ledger.platformCalls = .timer
        · rw [step_confirms hsd hf hcool, if_neg]
          · exact ⟨hfinal.cancelled, hfinal.notWaiting, hfinal.replaces, hfinal.creates⟩
          · simp [confirmed, scheduled, harmed]
        · exact step_final_of_listens hs he hno hrep
            (fun _ hrec hopen => hrep ⟨hsd, hf, hcool, rfl, harmed, hrec, hopen⟩) hfinal
      · rw [step_stale_completion hlive]
        exact hdel _
    · cases hend

/-! ## A replayed recovery -/

/-- The moves of a task create, and forget no creation. -/
theorem Moves.creates_suffix (h : Moves p e s t) : s.ledger.creates <:+ t.ledger.creates := by
  refine moves_preserve (I := fun u : Session => s.ledger.creates <:+ u.ledger.creates) ?_ h
    (List.suffix_refl _)
  intro u v hm hu
  cases hm
  case startCreate | timerCreate | replaceCreate | endRestarted =>
    exact hu.trans (List.suffix_cons _ _)
  all_goals exact hu

/-- `StartAfterResume` starts what the suspension captured. -/
theorem startAfterResume_creates (hs : Coherent s.takeRequired.toSessionState)
    (hcan : CanStart s.takeRequired) (hc : s.connection = none) (hreq : s.resumeRequired = true) :
    ∃ b : SessionState, b.openImmediately = s.resumeOpenImmediately ∧
      b.isIncomingEnabled = s.isIncomingEnabled ∧
      b :: s.ledger.creates <:+ (s.startAfterResume p (reentry p)).ledger.creates := by
  have hcreate := Move.startCreate (p := p)
    (e := .operation (.connect s.resumeOperation s.resumeOpenImmediately)) hcan (.requested rfl) hc
  have hfinish := (finishCreate_moves (p := p)
    (e := .operation (.connect s.resumeOperation s.resumeOpenImmediately))
    (u := s.takeRequired.prepareStart s.resumeOperation s.resumeOpenImmediately) reentry_sound
    (hcreate.coherent hs) hcan.notInFlight).creates_suffix
  rw [startAfterResume_of_required hreq, startConnection_of_canStart hcan hc]
  exact ⟨(((s.takeRequired.prepareStart s.resumeOperation s.resumeOpenImmediately).enter
    .connecting).publish .success false .none).toSessionState, rfl, rfl, hfinish⟩

/-- The recovery that a suspension captured is no listener when it may not be one. -/
theorem RecoveryOpens.not_listens {b : SessionState} (h : RecoveryOpens s.toSessionState)
    (hopen : b.openImmediately = s.resumeOpenImmediately)
    (hincoming : b.isIncomingEnabled = s.isIncomingEnabled) : ¬ Listens b := by
  rintro ⟨hbopen, hbincoming⟩
  rcases h with h | h
  · exact absurd (hopen.symm.trans hbopen) (by simp [h])
  · exact absurd (hincoming.symm.trans hbincoming) (by simp [h])

/-- The end of the cooldown of the suspension's close starts what the suspension captured. -/
theorem completeCloseCooldown_replays (hs : Inv s) (hsd : s.isShutdown = false)
    (hf : s.isCloseInFlight = true) (hcool : s.isCloseCooldown = true)
    (hrec : RecoversAfterClose s.toSessionState) (hopen : RecoveryOpens s.toSessionState)
    (completedScheduledCooldown) :
    ∃ b, ¬ Listens b ∧ b :: s.ledger.creates <:+ (s.completeCloseCooldown p (reentry p)
      s.closeBarrierEpoch completedScheduledCooldown).ledger.creates := by
  obtain ⟨ha, hcont, hsu, hpend, hep, hrqd, hreq, hname⟩ := hrec
  have hends : EndsClose (.closeCooldown s.closeBarrierEpoch) s := ⟨hsd, hf, hcool, .inl rfl⟩
  have hsus : EndsSuspension s := ⟨ha, hcont, hsu, hpend, hep⟩
  rw [completeCloseCooldown_resumes hsd hf hcool hsus hrqd]
  have hend := (Move.endRefused (p := p) hends hsus hrqd hreq).coherent hs.coherent
  obtain ⟨b, hbo, hbi, hb⟩ := startAfterResume_creates (p := p) hend
    ⟨hsd, rfl, rfl, by simp, by simp, hname⟩ rfl hreq
  exact ⟨b, hopen.not_listens hbo hbi, hb⟩

/-- A replayed recovery creates a connection that is no listener. -/
theorem step_replays (hs : Inv s) (hrep : Replays p s e) :
    ∃ b, ¬ Listens b ∧ b :: s.ledger.creates <:+
      ((deviceSession p).step s e).ledger.creates := by
  unfold Replays at hrep
  split at hrep
  · obtain ⟨hsd, hsu, hpend, hreq, hnf, hdisc, hname, hopen⟩ := hrep
    have hstep : (deviceSession p).step s (.operation .resume) =
        s.unsuspend.startAfterResume p (reentry p) := by
      simp only [deviceSession, delivered, Event.continuation, handle, operate, resume]
      rw [if_neg (by simp [hsd, hsu]), if_neg (by simp [hpend])]
    have hhead : Head p s (.operation .resume) s.unsuspend.takeRequired :=
      .resumeRefused hsd hsu hpend hreq
    have hconnecting : s.lifecycle ≠ .connecting := fun h => by
      simp [(hs.coherent.connecting h).2] at hsu
    obtain ⟨b, hbo, hbi, hb⟩ := startAfterResume_creates (p := p) (s := s.unsuspend)
      (hhead.coherent hs.coherent) ⟨hsd, rfl, hnf, hconnecting, hdisc, hname⟩
      (hs.coherent.suspended hsu) hreq
    rw [hstep]
    exact ⟨b, hopen.not_listens hbo hbi, hb⟩
  · rename_i n
    obtain ⟨⟨hsd, hf, hcool, hep⟩, hrec, hopen⟩ := hrep
    obtain rfl : n = s.closeBarrierEpoch := by simpa [Confirms] using hep
    exact completeCloseCooldown_replays (hs.deliver _) hsd hf hcool hrec hopen true
  · rename_i n
    obtain ⟨hsd, hf, hcool, rfl, harmed, hrec, hopen⟩ := hrep
    rw [step_confirms hsd hf hcool, if_pos (by simp [confirmed, scheduled, harmed])]
    exact completeCloseCooldown_replays (hs.confirmed hsd hf hcool) hsd hf rfl hrec hopen false
  · exact hrep.elim

/-! ## Runs -/

theorem Head.creates_suffix (h : Head p s e t) : s.ledger.creates <:+ t.ledger.creates := by
  cases h
  case disconnectIdle | disconnectClose =>
    cases ‹Disconnecting _ _ _ _› <;> exact List.suffix_refl _
  case cancelNothing | cancelIdle | cancelClose =>
    cases ‹Cancelling _ _ _› <;> exact List.suffix_refl _
  case resumeRestarted => exact List.suffix_cons _ _
  case shutdown => cases hc : s.connection.isSome <;> simp [hc]
  all_goals exact List.suffix_refl _

/-- A run forgets no creation. -/
theorem run_creates_suffix {es : List Event} (hs : Inv s) (hrun : (deviceSession p).Run s es) :
    s.ledger.creates <:+ ((deviceSession p).exec s es).ledger.creates := by
  refine run_preserves (I := fun t => s.ledger.creates <:+ t.ledger.creates) ?_ ?_ hs
    (List.suffix_refl _) hrun
  · exact fun _ _ _ _ h hi => hi.trans h.creates_suffix
  · exact fun _ _ _ _ h hi => hi.trans (Moves.creates_suffix (.single h))

/-- A creation that is no listener's is never forgotten. -/
theorem not_newListeners {b : SessionState} {now : List SessionState}
    (hbefore : before <:+ now) (h : b :: now <:+ creates) (hb : ¬ Listens b) :
    ¬ NewListeners before creates := by
  rintro ⟨new, rfl, hnew⟩
  obtain ⟨between, rfl⟩ := hbefore
  obtain ⟨later, hlater⟩ := h
  have hsplit : later ++ b :: between = new := by
    have happend : later ++ b :: between ++ before = new ++ before := by simpa using hlater
    exact List.append_cancel_right happend
  exact hb (hnew b (by simp [← hsplit]))

/-- A run that creates listeners only replays no recovery. -/
theorem run_not_replays : ∀ {es : List Event} {s : Session}, Inv s → (deviceSession p).Run s es →
    before <:+ s.ledger.creates →
    NewListeners before ((deviceSession p).exec s es).ledger.creates →
    (deviceSession p).Always (fun s e => ¬ Replays p s e) s es
  | [], _, _, _, _, _ => trivial
  | e :: es, s, hs, ⟨he, hrun⟩, hbefore, hnew => by
    have hinv := step_inv he hs
    have hrun₁ : (deviceSession p).Run s [e] := ⟨he, trivial⟩
    have hsuffix := run_creates_suffix hs hrun₁
    refine ⟨fun hrep => ?_, run_not_replays hinv hrun (hbefore.trans hsuffix) hnew⟩
    obtain ⟨b, hb, hcreated⟩ := step_replays hs hrep
    exact not_newListeners hbefore (hcreated.trans (run_creates_suffix hinv hrun)) hb hnew

/-- An accepted disconnect establishes what it promises. -/
theorem step_disconnect_final (restoreIncoming : Bool) (hs : Inv s)
    (haccepts : acceptsDisconnect s.toSessionState = true) :
    Final s.ledger.creates
      ((deviceSession p).step s (.operation (.disconnect restoreIncoming))) := by
  refine step_establishes hs (enabled_operation _) ?_
    fun u v hu hm hi => hm.final hu rfl (fun h => by cases h) hi
  intro u hu
  have habandoned := hs.coherent.abandoned
  cases hu
  case nothing hpassive => exact absurd (haccepts.symm.trans hpassive) (by simp)
  case callback c hc => cases hc
  case disconnectIdle hsd hc hnf hcause =>
    cases hcause
    refine ⟨rfl, by simp, ?_, .refl⟩
    intro hreplace hbusy
    simp_all
  case disconnectClose hsd hbusy hna hcause =>
    cases hcause
    refine ⟨rfl, by simp, ?_, .refl⟩
    intro hreplace
    dsimp at hreplace
    grind -linarith
  case cancelNothing | cancelIdle | cancelClose => cases ‹Cancelling _ _ _›

/-- An explicit disconnect is final in a run without a `Connect`, so that every connection that the
session creates after it is a listener's, exactly when no step of the run replays a recovery that
is none. -/
theorem disconnect_final_iff {deviceId deviceName : WString} {es later : List Event}
    {restoreIncoming : Bool}
    (hrun : (deviceSession p).Run (initial deviceId deviceName) es)
    (haccepts : acceptsDisconnect
      ((deviceSession p).exec (initial deviceId deviceName) es).toSessionState = true)
    (hlater : (deviceSession p).Run ((deviceSession p).exec (initial deviceId deviceName)
      (es ++ [.operation (.disconnect restoreIncoming)])) later)
    (hno : ∀ e ∈ later, connects e = false) :
    NewListeners
        ((deviceSession p).exec (initial deviceId deviceName)
          (es ++ [.operation (.disconnect restoreIncoming)])).ledger.creates
        ((deviceSession p).exec (initial deviceId deviceName)
          (es ++ .operation (.disconnect restoreIncoming) :: later)).ledger.creates ↔
      (deviceSession p).Always (fun s e => ¬ Replays p s e)
        ((deviceSession p).exec (initial deviceId deviceName)
          (es ++ [.operation (.disconnect restoreIncoming)])) later := by
  have hinv := run_inv (p := p) (inv_initial deviceId deviceName) hrun
  rw [EventSystem.exec_append] at hlater ⊢
  rw [EventSystem.exec_append]
  generalize (deviceSession p).exec (initial deviceId deviceName) es = s at *
  have hdinv := step_inv (p := p) (enabled_operation (.disconnect restoreIncoming)) hinv
  have hdone := step_disconnect_final (p := p) restoreIncoming hinv haccepts
  constructor
  · exact run_not_replays hdinv hlater (List.suffix_refl _)
  · intro hrep
    have hfinal := (hlater.and (hrep.and (EventSystem.always_of_forall hno))).invariant
      (I := fun t => Inv t ∧ Final ((deviceSession p).step s (.operation (.disconnect
        restoreIncoming))).ledger.creates t)
      (fun t e h hi => ⟨step_inv h.1 hi.1, step_final hi.1 h.1 h.2.2 h.2.1 hi.2⟩)
      ⟨hdinv, hdone.cancelled, hdone.notWaiting, hdone.replaces, .refl⟩
    exact hfinal.2.creates

/-- The device is suspended while the user's close is in flight, and resumed. -/
def suspendedDisconnect : List Event :=
  [.operation .suspend, .operation .resume, .closeBarrier 1 false, .closeCooldown 1]

/-- A suspension in the user's close reopens the connection. -/
theorem suspended_disconnect_reopens :
    let s := (deviceSession obligingPlatform).exec (initial [65] [66])
      [.operation (.connect .manualConnect true)]
    let d := (deviceSession obligingPlatform).step s (.operation (.disconnect false))
    (deviceSession obligingPlatform).Run (initial [65] [66])
        (.operation (.connect .manualConnect true) :: .operation (.disconnect false) ::
          suspendedDisconnect) ∧
      acceptsDisconnect s.toSessionState = true ∧
      (∀ e ∈ suspendedDisconnect, connects e = false) ∧
      ¬ NewListeners d.ledger.creates
        ((deviceSession obligingPlatform).exec d suspendedDisconnect).ledger.creates := by
  intro s d
  refine ⟨by decide, by decide, by decide, ?_⟩
  rintro ⟨new, hnew, hlisten⟩
  have hopens : ((deviceSession obligingPlatform).exec d
      suspendedDisconnect).ledger.creates.head?.map (·.openImmediately) = some true := by decide
  cases new with
  | nil => exact absurd (congrArg List.length hnew) (by decide)
  | cons b new =>
    have hb : b.openImmediately = true := by simpa [hnew] using hopens
    exact absurd (hb.symm.trans (hlisten b (by simp)).1) (by simp)

theorem disconnect_final_suspendedDisconnect :
    NewListeners
        ((deviceSession obligingPlatform).exec (initial [65] [66])
          ([.operation (.connect .manualConnect true)] ++
            [.operation (.disconnect false)])).ledger.creates
        ((deviceSession obligingPlatform).exec (initial [65] [66])
          ([.operation (.connect .manualConnect true)] ++
            .operation (.disconnect false) :: suspendedDisconnect)).ledger.creates ↔
      (deviceSession obligingPlatform).Always (fun s e => ¬ Replays obligingPlatform s e)
        ((deviceSession obligingPlatform).exec (initial [65] [66])
          ([.operation (.connect .manualConnect true)] ++ [.operation (.disconnect false)]))
        suspendedDisconnect :=
  disconnect_final_iff (by decide) (by decide) (by decide) (by decide)

end Session

end PlaybackConnector
