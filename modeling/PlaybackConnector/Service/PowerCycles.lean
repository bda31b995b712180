import PlaybackConnector.Service.Recovery

/-!
# Power cycles

`SuspendForPowerTransition` remembers the operation epochs of the sessions that it will recover and
returns their devices; `ResumeAfterPowerTransition` releases the sessions that have nothing to
recover, and `ResumeSuspendedSessions` the others. The service forgets a session when it is held by
a suspension whose epochs a later one has replaced, or that did not remember it: nothing releases it
then (`forgotten_stranded`). In every run in which no session is forgotten, and no operation
overwrites the close that a noted `Resume` waits for, any number of power cycles leaves no session
stranded (`power_cycles_strand_nothing`).
-/

namespace PlaybackConnector

namespace DeviceService

variable {p : ServicePlatform} {s t : DeviceService} {deviceId : WString} {x : Session}
  {task : ServiceTask} {C : WString → Prop}

/-! ## Tasks of the users, the watcher and the platform -/

theorem harmless_of_continuation {e : Event} (h : e.continuation.isSome = true) : Harmless e := by
  cases e with
  | operation operation => simp [Event.continuation] at h
  | _ => exact ⟨fun h => (by cases h), fun h => (by cases h), fun _ => id⟩

theorem harmless_connect {operation : DeviceOperationKind} {openImmediately : Bool} :
    Harmless (.operation (.connect operation openImmediately)) :=
  ⟨by simp, by simp, fun _ => id⟩

/-- A task that only runs harmless operations. -/
theorem run_harmless (hen : (deviceService p).enabled s task) (hs : s.Inv) (h : s.Recoverable C)
    (hne : task ≠ .shutdown) (hharm : ∀ e, task.performs s e → Harmless e) :
    (s.run p task).Recoverable C :=
  (run_steps hen hne).recoverable hharm (hs.congr sessions_prepare shutdown_prepare)
    (h.congr sessions_prepare)

/-- A task that changes nothing that the recovery remembers. -/
theorem run_recoverable (hen : (deviceService p).enabled s task) (hs : s.Inv)
    (hrec : changesRecovery task = false) (h : s.Recoverable C) (hspares : Spares C s task) :
    (s.run p task).Recoverable C := by
  cases task with
  | connect | reconnect | suspend | suspendForPowerTransition | resume
  | resumeAfterPowerTransition | resumeSuspendedSessions | shutdown => cases hrec
  | disconnect deviceId => exact disconnect_recoverable hs h hspares
  | cancelReconnect deviceId => exact cancelReconnect_recoverable hs h hspares
  | cancelOperation operation => exact cancelOperation_recoverable hs h hspares
  | deviceRemoved watcherGeneration deviceId => exact deviceRemoved_recoverable hs h hspares
  | applySettingsPolicy policy stopRequested => exact applySettingsPolicy_recoverable hs h hspares
  | cancelPendingReconnects =>
    change (s.cancelPendingReconnects p).Recoverable C
    unfold cancelPendingReconnects
    split
    · exact h
    · exact h.operateAll hs (fun _ _ => rfl) (by simp) (by simp) fun entry hentry hsu hC =>
        hspares entry hentry hsu hC _ (by simp [interruptions])
  | disconnectAll =>
    change (s.disconnectAll p).Recoverable C
    unfold disconnectAll
    split
    · exact h
    · exact h.operateAll hs (fun t ht => by rw [incoming_of_flags ht]) (by simp) (by simp)
        fun entry hentry hsu hC => hspares entry hentry hsu hC _ (by simp [interruptions])
  | reconnectAll | connectStartupTargets =>
    refine run_harmless hen hs h (by simp) ?_
    rintro e ⟨-, operation, rfl⟩
    exact harmless_connect
  | deviceAdded watcherGeneration device =>
    refine run_harmless hen hs h (by simp) ?_
    rintro e rfl
    exact ⟨by simp, by simp, fun _ => id⟩
  | callback deviceId event =>
    refine run_harmless hen hs h (by simp) ?_
    rintro e rfl
    exact harmless_of_continuation hen.1
  | subscribe | unsubscribe | start | stop | enumerationCompleted | refreshed =>
    exact run_harmless hen hs h (by simp) fun _ hfalse => hfalse.elim

/-! ## Manual commands -/

/-- What every session satisfies while it is held. -/
theorem heldDown_sessions :
    SessionInvariant fun x => Session.Inv x ∧ Session.HeldDown x.toSessionState :=
  ⟨fun _ _ => ⟨Session.inv_initial _ _, fun h => by simp [Session.initial] at h⟩,
    fun _ _ _ he hs => ⟨Session.step_inv he hs.1, Session.step_heldDown hs.1 he hs.2⟩⟩

theorem Recoverable.except (h : s.Recoverable C) (hs : s.Inv) (hfind : s.find deviceId = some x)
    (hsu : x.isSuspended = false) : s.Recoverable fun other => other ≠ deviceId ∧ C other := by
  intro entry hentry hheld
  refine (h entry hentry hheld).imp_left fun hC => ⟨?_, hC⟩
  rintro rfl
  have hsame : entry.2 = x :=
    Option.some.inj ((find_of_mem hs.nodup hentry).symm.trans hfind)
  simp [hsame, hsu] at hheld

theorem request_releases {command : DeviceCommandKind} {operation : DeviceOperationKind}
    (hs : s.Inv) (h : s.Recoverable C)
    (hmanual : operation = .manualConnect ∨ operation = .manualReconnect) :
    (s.request p command operation deviceId x).Recoverable
      fun other => other ≠ deviceId ∧ C other := by
  have hoperate : (s.operate p deviceId (.connect operation true)).Recoverable
      fun other => other ≠ deviceId ∧ C other := by
    intro entry hentry hheld
    rcases mem_act hentry with ⟨hne, hold⟩ | ⟨y, hy, rfl⟩
    · exact (h entry hold hheld).imp_left fun hC => ⟨hne, hC⟩
    · have howned := hs.owned_of_find hy
      have hreleased := Session.step_manual_releases (p := p.session deviceId) howned.inv
        howned.live hmanual true
      exact absurd (hreleased.symm.trans hheld) (by simp)
  exact hoperate.congr rfl

/-- A command leaves the session of its device without a hold. -/
theorem command_releases (hs : s.Inv) (hheld : s.All fun x =>
      Session.Inv x ∧ Session.HeldDown x.toSessionState) (h : s.Recoverable C)
    (htask : task = .connect deviceId ∨ task = .reconnect deviceId) (hid : deviceId ≠ [])
    (hgo : ¬ (s.isShutdown = true ∨ s.isSuspended = true)) :
    (s.run p task).Recoverable fun other => other ≠ deviceId ∧ C other := by
  have hlive : s.isShutdown = false := by simpa using (not_or.1 hgo).1
  obtain ⟨x, hx⟩ := getOrCreateSession_find (p := p) hid hlive
  have hfound : (s.foundSession p deviceId).find deviceId = some x := hx
  have hfinv : (s.foundSession p deviceId).Inv := (getOrCreateSession_inv hs).congr rfl rfl
  have hfrec : (s.foundSession p deviceId).Recoverable C :=
    (getOrCreateSession_recoverable hs h).congr rfl
  have hsteps : Steps p (fun _ => False) (fun _ => True) s (s.getOrCreateSession p deviceId) :=
    getOrCreateSession_all
  have hdown : Session.HeldDown x.toSessionState :=
    ((hsteps.all heldDown_sessions hheld).find hx).2
  -- A session that is rejected, or connected already, is not held.
  have hdisconnecting (hb : isDisconnecting x = true) : x.isSuspended = false := by
    simp only [isDisconnecting, Bool.and_eq_true, Bool.not_eq_true'] at hb
    exact hb.2
  have hconnected (hl : x.lifecycle = .connected) : x.isSuspended = false := by
    by_contra hsu
    exact hdown (by simpa using hsu) hl
  rcases htask with rfl | rfl
  · have hconnect : s.run p (.connect deviceId) = _ := connect_found hid hgo hfound
    rw [hconnect]
    split
    · next hb => exact (hfrec.except hfinv hfound (hdisconnecting hb)).congr rfl
    split
    · next hl => exact (hfrec.except hfinv hfound (hconnected hl)).congr rfl
    · exact request_releases hfinv hfrec (.inl rfl)
  · have hreconnect : s.run p (.reconnect deviceId) = _ := reconnect_found hid hgo hfound
    rw [hreconnect]
    split
    · next hb => exact (hfrec.except hfinv hfound (hdisconnecting hb)).congr rfl
    · exact request_releases hfinv hfrec (.inr rfl)

/-- A command forgets what the recovery remembers of its device only. -/
theorem command_recovery
    (htask : task = .connect deviceId ∨ task = .reconnect deviceId) :
    (s.run p task).recovery = s.recovery ∨
      (s.run p task).recovery = (s.eraseRecovery deviceId).recovery := by
  have hfound : ((s.getOrCreateSession p deviceId).eraseRecovery deviceId).recovery =
      (s.eraseRecovery deviceId).recovery := by
    have hget : (s.getOrCreateSession p deviceId).recovery = s.recovery :=
      recovery_getOrCreateSession
    obtain ⟨hepochs, htargets⟩ := Prod.mk.inj hget
    simp [recovery, eraseRecovery, hepochs, htargets]
  rcases htask with rfl | rfl
  · change (s.connect p deviceId).recovery = _ ∨ (s.connect p deviceId).recovery = _
    unfold connect
    split
    · exact .inl rfl
    split
    · exact .inl rfl
    refine .inr ?_
    dsimp only
    repeat' split
    · exact hfound
    · exact hfound
    · exact hfound
    · exact recovery_request.trans hfound
  · change (s.reconnect p deviceId).recovery = _ ∨ (s.reconnect p deviceId).recovery = _
    unfold reconnect
    split
    · exact .inl rfl
    split
    · exact .inl rfl
    refine .inr ?_
    dsimp only
    repeat' split
    · exact hfound
    · exact hfound
    · exact recovery_request.trans hfound

/-- What the recovery remembers of the other devices stays. -/
theorem Retained.erase (h : s.Retained deviceId) {other : WString} (hne : deviceId ≠ other)
    (hrec : t.recovery = (s.eraseRecovery other).recovery) : t.Retained deviceId := by
  refine Retained.congr hrec ⟨?_, h.2⟩
  rw [recoveryEpoch_eraseRecovery, if_neg hne]
  exact h.1

theorem command_recoverable (hs : s.Inv) (hheld : s.All fun x =>
      Session.Inv x ∧ Session.HeldDown x.toSessionState) (h : s.Recoverable s.Retained)
    (htask : task = .connect deviceId ∨ task = .reconnect deviceId) :
    (s.run p task).Recoverable (s.run p task).Retained := by
  by_cases hgo : deviceId ≠ [] ∧ ¬ (s.isShutdown = true ∨ s.isSuspended = true)
  · refine (command_releases hs hheld h htask hgo.1 hgo.2).mono fun entry _ hret => ?_
    rcases command_recovery htask with hrec | hrec
    · exact hret.2.congr hrec
    · exact hret.2.erase hret.1 hrec
  · have hrejected : ∃ command device, s.run p task = s.result command .rejected device := by
      rcases htask with rfl | rfl
      all_goals
        by_cases hid : deviceId = []
        · exact ⟨_, _, if_pos hid⟩
        · refine ⟨_, _, (if_neg hid).trans (if_pos ?_)⟩
          exact not_not.1 (not_and.1 hgo hid)
    obtain ⟨command, device, hrun⟩ := hrejected
    rw [hrun]
    exact (h.congr rfl).mono fun _ _ hret => hret.congr rfl

/-! ## Releases of the service -/

/-- A release starts the watcher of a service that runs, which changes no session. -/
theorem startWatcher_keeps (runs : Bool) (watcher : Watcher) {u : DeviceService}
    (hu : (if runs = true then { s with watcher := watcher }.startWatcher p else s) = u) :
    u.sessions = s.sessions ∧ u.recovery = s.recovery ∧ u.isShutdown = s.isShutdown := by
  subst hu
  split
  · have hsteps : Steps p (fun _ => False) (fun _ => False) { s with watcher := watcher }
        ({ s with watcher := watcher }.startWatcher p) := startWatcher_steps
    refine ⟨?_, recovery_startWatcher, congrArg Flags.isShutdown hsteps.flags⟩
    exact sessions_onWatcherFacts start_facts
  · exact ⟨rfl, rfl, rfl⟩

/-- The session is held, and the release that follows a power transition leaves it held, without
anything that would end that. -/
def Forgotten (s : DeviceService) (entry : WString × Session) : Prop :=
  entry.2.isSuspended = true ∧ ¬ Session.Waived entry.2.toSessionState ∧ ¬ s.Retained entry.1 ∧
    ¬ (entry.2.resumeRequested = true ∧ Session.SuspensionSettles entry.2.toSessionState)

/-- The `Resume` that the task delivers to the session. -/
def Delivers (s : DeviceService) (entry : WString × Session) : ServiceTask → Prop
  | .resume => s.isSuspended = true
  | .resumeSuspendedSessions deviceIds => s.isSuspended = false ∧ entry.1 ∈ deviceIds ∧
      s.recoveryEpoch entry.1 = some entry.2.operationEpoch
  | _ => False

/-- The release of the service after a power transition. -/
theorem resumeAfter_recoverable (hs : s.Inv)
    (h : s.isSuspended = false → s.Recoverable s.Retained)
    (hforgets : s.isSuspended = true → ∀ entry ∈ s.sessions, ¬ s.Forgotten entry) :
    (s.resumeAfterPowerTransition p).Recoverable (s.resumeAfterPowerTransition p).Retained := by
  unfold resumeAfterPowerTransition
  by_cases hsd : s.isShutdown = true
  · rw [if_pos hsd]
    exact recoverable_of_empty (hs.shutdown hsd)
  · rw [if_neg hsd]
    dsimp only
    generalize hstarted : (if s.isRunning = true then
      { s with
        isSuspended := false
        watcher := if s.isSuspended = true then s.watcher else s.watcher.stop }.startWatcher p
      else { s with isSuspended := false }) = u
    obtain ⟨hsessions, hrecovery, hshut⟩ : u.sessions = s.sessions ∧ u.recovery = s.recovery ∧
        u.isShutdown = s.isShutdown :=
      startWatcher_keeps (s := { s with isSuspended := false }) _ _ hstarted
    have huinv : u.Inv := hs.congr hsessions hshut
    by_cases hsu : s.isSuspended = true
    case neg =>
      rw [if_neg hsu]
      exact Recoverable.congr (((h (by simpa using hsu)).congr hsessions).mono fun _ _ hret =>
        hret.congr (hrecovery.trans rfl)) rfl
    case pos =>
      rw [if_pos hsu]
      have hkept := recovery_operateAll (p := p) (s := u)
        fun _ => .resumeIdleAfterPowerTransition
      refine Recoverable.congr (s := u.forEachSession fun deviceId s =>
        s.operate p deviceId .resumeIdleAfterPowerTransition) ?_ rfl
      refine recoverable_forEachSession (operateAll_actsOn u
        (fun _ _ => .resumeIdleAfterPowerTransition)
        (fun _ _ _ => rfl) (by simp)) huinv ⟨huinv, rfl⟩ fun entry hentry y hy hheld => ?_
      obtain ⟨howned, rfl⟩ := hy
      by_cases hwaived : Session.Waived entry.2.toSessionState
      · have hreleased := Session.step_resumeIdle (p := p.session entry.1) howned.live hwaived
        exact absurd (hreleased.symm.trans hheld) (by simp)
      · have hsame := Session.step_resumeIdle_of_not (p := p.session entry.1) hwaived
        rw [hsame] at hheld ⊢
        by_contra hlost
        obtain ⟨hret, hrec⟩ := not_or.1 hlost
        refine hforgets hsu entry (hsessions ▸ hentry) ⟨hheld, hwaived, fun hs => hret ?_, ?_⟩
        · exact hs.congr (hkept.trans hrecovery)
        · rintro ⟨hreq, hset⟩
          exact hrec (Session.recovering_of_requested howned.inv.coherent hreq hset)

theorem resume_recoverable (hs : s.Inv)
    (h : s.isSuspended = false → s.Recoverable s.Retained)
    (hdelivers : ∀ entry ∈ s.sessions, s.Delivers entry .resume →
      entry.2.isSuspended = true → Session.SuspensionSettles entry.2.toSessionState) :
    (s.resume p).Recoverable (s.resume p).Retained := by
  by_cases hgo : s.isShutdown = true ∨ (!s.isSuspended) = true
  · have hrun : s.resume p = s := if_pos hgo
    rw [hrun]
    rcases hgo with hsd | hsu
    · exact recoverable_of_empty (hs.shutdown hsd)
    · exact h (by simpa using hsu)
  · have hsu : s.isSuspended = true := by simpa using (not_or.1 hgo).2
    unfold resume
    rw [if_neg hgo]
    dsimp only
    generalize hstarted : (if s.isRunning = true then
      { s with isSuspended := false, powerTransitionRecoveryEpochs := [] }.startWatcher p
      else { s with isSuspended := false, powerTransitionRecoveryEpochs := [] }) = u
    obtain ⟨hsessions, -, hshut⟩ : u.sessions = s.sessions ∧ _ ∧ u.isShutdown = s.isShutdown :=
      startWatcher_keeps (s := { s with isSuspended := false, powerTransitionRecoveryEpochs := [] })
        _ s.watcher hstarted
    have huinv : u.Inv := hs.congr hsessions hshut
    refine Recoverable.congr (s := u.forEachSession fun deviceId s =>
      s.operate p deviceId .resume) ?_ rfl
    refine recoverable_forEachSession (operateAll_actsOn u (fun _ _ => .resume)
      (fun _ _ _ => rfl) (by simp)) huinv ⟨huinv, rfl⟩ fun entry hentry y hy hheld => ?_
    obtain ⟨howned, rfl⟩ := hy
    exact .inr (Session.step_resume howned.inv
      (hdelivers entry (hsessions ▸ hentry) hsu) hheld)

/-! ## The delivery of the recovery -/

/-- What a delivery needs of the sessions that it resumes. -/
def DeliverySettles (s : DeviceService) (deviceIds : List WString) : Prop :=
  ∀ entry ∈ s.sessions, s.Delivers entry (.resumeSuspendedSessions deviceIds) →
    entry.2.isSuspended = true → Session.SuspensionSettles entry.2.toSessionState

theorem recoveryEpoch_find {entry : WString × Nat}
    (h : s.powerTransitionRecoveryEpochs.find? (·.1 = deviceId) = some entry) :
    s.recoveryEpoch deviceId = some entry.2 := by
  rw [recoveryEpoch, h]
  rfl

/-- One device of a delivery. -/
theorem resumeSuspendedSession_recoverable {deviceIds : List WString} (hs : s.Inv)
    (hactive : s.isSuspended = false) (h : s.Recoverable s.Retained)
    (hmem : deviceId ∈ deviceIds) (hset : s.DeliverySettles deviceIds) :
    (s.resumeSuspendedSession p deviceId).Recoverable
        (s.resumeSuspendedSession p deviceId).Retained ∧
      (s.resumeSuspendedSession p deviceId).DeliverySettles deviceIds := by
  unfold resumeSuspendedSession
  split
  · exact ⟨h, hset⟩
  split
  · exact ⟨h, hset⟩
  next recoveryEpoch hfind =>
  dsimp only
  generalize hop : (if decide ((s.find deviceId).map (·.operationEpoch) = some recoveryEpoch) = true
    then Operation.resume else .cancelPowerTransitionRecovery) = operation
  have hepoch : s.recoveryEpoch deviceId = some recoveryEpoch := recoveryEpoch_find hfind
  have hrecovery : (s.operate p deviceId operation).recovery = s.recovery := recovery_operate
  have herased : ((s.operate p deviceId operation).eraseRecovery deviceId).recovery =
      (s.eraseRecovery deviceId).recovery := by
    obtain ⟨hepochs, htargets⟩ := Prod.mk.inj hrecovery
    simp [recovery, eraseRecovery, hepochs, htargets]
  refine ⟨fun entry hentry hheld => ?_, fun entry hentry hdel hheld => ?_⟩
  · rcases mem_act (s := s) hentry with ⟨hne, hold⟩ | ⟨x, hx, rfl⟩
    · exact (h entry hold hheld).imp_left fun hret => hret.erase hne herased
    · have howned := hs.owned_of_find hx
      refine .inr ?_
      by_cases hcurrent : x.operationEpoch = recoveryEpoch
      · obtain rfl : operation = .resume := by
          rw [← hop, hx]
          simp [hcurrent]
        refine Session.step_resume howned.inv (fun hsu => ?_) hheld
        exact hset _ (mem_of_find hx) ⟨hactive, hmem, by rw [hepoch, hcurrent]⟩ hsu
      · obtain rfl : operation = .cancelPowerTransitionRecovery := by
          rw [← hop, hx]
          simp [hcurrent]
        have hreleased := Session.step_cancelPowerTransitionRecovery (p := p.session deviceId)
          howned.live
        exact absurd (hreleased.symm.trans hheld) (by simp)
  · obtain ⟨-, hids, hcurrent⟩ := hdel
    rw [recoveryEpoch_of_recovery herased, recoveryEpoch_eraseRecovery] at hcurrent
    rcases mem_act (s := s) hentry with ⟨hne, hold⟩ | ⟨x, hx, rfl⟩
    · rw [if_neg hne] at hcurrent
      exact hset entry hold ⟨hactive, hids, hcurrent⟩ hheld
    · simp at hcurrent

theorem resumeSuspendedSession_inv (hs : s.Inv) :
    (s.resumeSuspendedSession p deviceId).Inv := by
  unfold resumeSuspendedSession
  split
  · exact hs
  split
  · exact hs
  · refine Inv.congr (Inv.operate hs ?_) rfl rfl
    split <;> simp

theorem suspended_resumeSuspendedSession :
    (s.resumeSuspendedSession p deviceId).isSuspended = s.isSuspended := by
  unfold resumeSuspendedSession
  split
  · rfl
  split
  · rfl
  · exact suspended_of_flags flags_operate

/-- What is left of the recovery of a device that was delivered. -/
theorem recoveryEpoch_resumeSuspendedSession (other : WString) :
    (s.resumeSuspendedSession p deviceId).recoveryEpoch other =
      if other = deviceId ∧ deviceId ≠ [] then none else s.recoveryEpoch other := by
  unfold resumeSuspendedSession
  split
  · next hid => simp [hid]
  next hid =>
  split
  · next hfind =>
    split
    · next hother =>
      rw [hother.1, recoveryEpoch, hfind]
      rfl
    · rfl
  · next recoveryEpoch hfind =>
    rw [recoveryEpoch_eraseRecovery, recoveryEpoch_of_recovery recovery_operate]
    simp [hid]

/-- A delivery. -/
theorem deliver_recoverable {deviceIds ids : List WString} (hids : ∀ id ∈ ids, id ∈ deviceIds)
    (hs : s.Inv) (hactive : s.isSuspended = false) (h : s.Recoverable s.Retained)
    (hset : s.DeliverySettles deviceIds) :
    (ids.foldl (fun s deviceId => s.resumeSuspendedSession p deviceId) s).Recoverable
      (ids.foldl (fun s deviceId => s.resumeSuspendedSession p deviceId) s).Retained := by
  induction ids generalizing s with
  | nil => exact h
  | cons id ids ih =>
    obtain ⟨hrec, hset⟩ := resumeSuspendedSession_recoverable (p := p) hs hactive h
      (hids id List.mem_cons_self) hset
    exact ih (fun other hother => hids other (List.mem_cons_of_mem _ hother))
      (resumeSuspendedSession_inv hs) (suspended_resumeSuspendedSession.trans hactive) hrec hset

theorem recoveryEpoch_deliver {ids : List WString} (other : WString) :
    (ids.foldl (fun s deviceId => s.resumeSuspendedSession p deviceId) s).recoveryEpoch other =
      if other ∈ ids ∧ other ≠ [] then none else s.recoveryEpoch other := by
  induction ids generalizing s with
  | nil => simp
  | cons id ids ih =>
    rw [List.foldl_cons, ih, recoveryEpoch_resumeSuspendedSession]
    by_cases hid : other = id
    · subst hid
      by_cases hnil : other = [] <;> simp [hnil]
    · simp [hid]

/-! ## Runs -/

/-- No task of the run loses a session: a release of the service finds none that was forgotten, a
`Resume` is delivered to no session whose close was overwritten, and no operation overwrites a close
that a noted `Resume` waits for. -/
structure KeepsRecovery (s : DeviceService) (task : ServiceTask) : Prop where
  remembers : task = .resumeAfterPowerTransition → s.isSuspended = true →
    ∀ entry ∈ s.sessions, ¬ s.Forgotten entry
  delivers : ∀ entry ∈ s.sessions, s.Delivers entry task → entry.2.isSuspended = true →
    Session.SuspensionSettles entry.2.toSessionState
  spares : s.isSuspended = false → Spares s.Retained s task

/-- What holds between the tasks of such a run. -/
structure Awaiting (s : DeviceService) : Prop where
  inv : s.Inv
  heldDown : s.All fun x => Session.Inv x ∧ Session.HeldDown x.toSessionState
  recoverable : s.isSuspended = false → s.Recoverable s.Retained

theorem awaiting_initial : initial.Awaiting :=
  ⟨inv_initial, by simp [All, initial], fun _ => recoverable_of_empty rfl⟩

/-- A task that does not end a suspension leaves a service that is not suspended as such, unless it
was so. -/
theorem active_of_run (hen : (deviceService p).enabled s task) (hne : task ≠ .shutdown)
    (hends : endsSuspension task = false) (hsu : (s.run p task).isSuspended = false) :
    s.isSuspended = false := by
  cases hs : s.isSuspended with
  | false => rfl
  | true => exact absurd ((suspended_run hen hne hends hs).symm.trans hsu) (by simp)

theorem run_awaiting (hen : (deviceService p).enabled s task) (hkeeps : KeepsRecovery s task)
    (h : s.Awaiting) : (s.run p task).Awaiting := by
  obtain ⟨hs, hheld, hrec⟩ := h
  refine ⟨run_inv hen hs, run_all heldDown_sessions hen hheld, fun hsu => ?_⟩
  by_cases hchange : changesRecovery task = false
  · have hne : task ≠ .shutdown := by
      rintro rfl
      cases hchange
    have hends : endsSuspension task = false := by
      cases task <;> first | rfl | cases hchange
    have hactive := active_of_run hen hne hends hsu
    exact (run_recoverable hen hs hchange (hrec hactive) (hkeeps.spares hactive)).mono
      fun _ _ hret => hret.congr (run_recovery hchange)
  have hsuspends (htask : task = .suspend ∨ task = .suspendForPowerTransition) :
      (s.run p task).Recoverable (s.run p task).Retained := by
    rcases suspended_of_suspend hen htask with hheld | hsd
    · exact absurd (hheld.symm.trans hsu) (by simp)
    · exact recoverable_of_empty ((run_inv hen hs).shutdown hsd)
  cases task with
  | connect deviceId =>
    exact command_recoverable hs hheld
      (hrec (active_of_run hen (by simp) rfl hsu)) (.inl rfl)
  | reconnect deviceId =>
    exact command_recoverable hs hheld
      (hrec (active_of_run hen (by simp) rfl hsu)) (.inr rfl)
  | suspend => exact hsuspends (.inl rfl)
  | suspendForPowerTransition => exact hsuspends (.inr rfl)
  | resume => exact resume_recoverable hs hrec hkeeps.delivers
  | resumeAfterPowerTransition => exact resumeAfter_recoverable hs hrec (hkeeps.remembers rfl)
  | shutdown =>
    by_cases hsd : s.isShutdown = true
    · have hrun : s.run p .shutdown = s := if_pos hsd
      rw [hrun]
      exact recoverable_of_empty (hs.shutdown hsd)
    · exact recoverable_of_empty (shutdown_sessions (by simpa using hsd))
  | resumeSuspendedSessions deviceIds =>
    have hactive := active_of_run hen (by simp) rfl hsu
    change (s.resumeSuspendedSessions p deviceIds).Recoverable
      (s.resumeSuspendedSessions p deviceIds).Retained
    unfold resumeSuspendedSessions
    split
    · exact hrec hactive
    · have hdeliver := deliver_recoverable (p := p)
        (fun id hid => List.mem_dedup.1 hid) hs hactive (hrec hactive) hkeeps.delivers
      exact (hdeliver.congr rfl).mono fun _ _ hret => hret.congr rfl
  | _ => exact absurd rfl hchange

/-! ## What is left to recover -/

theorem recovery_resumeAfter : (s.resumeAfterPowerTransition p).recovery = s.recovery := by
  unfold resumeAfterPowerTransition
  split
  · rfl
  dsimp only
  have hstart : ∀ (watcher : Watcher) (runs : Bool), (if runs = true then
      { s with isSuspended := false, watcher := watcher }.startWatcher p
      else { s with isSuspended := false }).recovery = s.recovery := by
    intro watcher runs
    exact (startWatcher_keeps (s := { s with isSuspended := false }) _ _ rfl).2.1
  rw [recovery_publish]
  split
  · exact (recovery_operateAll fun _ => .resumeIdleAfterPowerTransition).trans (hstart _ _)
  · exact hstart _ _

theorem recovery_shutdown : (s.shutdown p).recovery = s.recovery := by
  unfold shutdown
  split
  · rfl
  · exact (recovery_operateAll (s := { s with
      isShutdown := true, isRunning := false, watcher := s.watcher.shutdown })
      fun _ => .shutdown).trans rfl

theorem targets_resumeSuspendedSession :
    (s.resumeSuspendedSession p deviceId).ledger.recoveryTargets = s.ledger.recoveryTargets := by
  unfold resumeSuspendedSession
  split
  · rfl
  split
  · rfl
  · exact congrArg Prod.snd (recovery_operate (p := p) (s := s))

theorem targets_deliver {ids : List WString} :
    (ids.foldl (fun s deviceId => s.resumeSuspendedSession p deviceId) s).ledger.recoveryTargets =
      s.ledger.recoveryTargets := by
  induction ids generalizing s with
  | nil => rfl
  | cons id ids ih => exact ih.trans targets_resumeSuspendedSession

/-- Only a suspension gives the recovery more to remember. -/
theorem retained_of_run (hne : task ≠ .suspend ∧ task ≠ .suspendForPowerTransition)
    (h : (s.run p task).Retained deviceId) : s.Retained deviceId := by
  by_cases hchange : changesRecovery task = false
  · exact h.congr (run_recovery hchange).symm
  have herased (device : WString) (hdevice : task = .connect device ∨ task = .reconnect device) :
      s.Retained deviceId := by
    rcases command_recovery (p := p) hdevice with hrec | hrec
    · exact h.congr hrec.symm
    · obtain ⟨hepoch, htargets⟩ := h.congr (t := s.eraseRecovery device) hrec.symm
      rw [recoveryEpoch_eraseRecovery] at hepoch
      split at hepoch
      · cases hepoch
      · exact ⟨hepoch, htargets⟩
  cases task with
  | connect device => exact herased device (.inl rfl)
  | reconnect device => exact herased device (.inr rfl)
  | suspend => exact absurd rfl hne.1
  | suspendForPowerTransition => exact absurd rfl hne.2
  | resumeAfterPowerTransition => exact h.congr recovery_resumeAfter.symm
  | shutdown => exact h.congr recovery_shutdown.symm
  | resume =>
    change (s.resume p).Retained deviceId at h
    unfold resume at h
    split at h
    · exact h
    · dsimp only at h
      have hloop := recovery_operateAll (p := p) (s := if s.isRunning = true then
        { s with isSuspended := false, powerTransitionRecoveryEpochs := [] }.startWatcher p
        else { s with isSuspended := false, powerTransitionRecoveryEpochs := [] }) fun _ => .resume
      have hstart := (startWatcher_keeps (p := p) (s := { s with
        isSuspended := false, powerTransitionRecoveryEpochs := [] }) s.isRunning s.watcher rfl).2.1
      have hempty := (h.congr (hloop.trans hstart).symm).1
      cases hempty
  | resumeSuspendedSessions deviceIds =>
    change (s.resumeSuspendedSessions p deviceIds).Retained deviceId at h
    unfold resumeSuspendedSessions at h
    split at h
    · exact h
    · obtain ⟨hepoch, htargets⟩ := h.congr (t := deviceIds.dedup.foldl
        (fun s deviceId => s.resumeSuspendedSession p deviceId) s) rfl
      rw [recoveryEpoch_deliver] at hepoch
      rw [targets_deliver] at htargets
      split at hepoch
      · cases hepoch
      · exact ⟨hepoch, htargets⟩
  | _ => exact absurd rfl hchange

/-- A delivery of everything that was returned leaves nothing to recover. -/
theorem deliver_retains_nothing {deviceIds : List WString} (hsd : s.isShutdown = false)
    (hactive : s.isSuspended = false)
    (htargets : ∀ id ∈ s.ledger.recoveryTargets, id ∈ deviceIds) (hid : deviceId ≠ []) :
    ¬ (s.resumeSuspendedSessions p deviceIds).Retained deviceId := by
  unfold resumeSuspendedSessions
  rw [if_neg (by simp [hsd, hactive])]
  intro h
  obtain ⟨hepoch, hmem⟩ := h.congr (t := deviceIds.dedup.foldl
    (fun s deviceId => s.resumeSuspendedSession p deviceId) s) rfl
  rw [targets_deliver] at hmem
  rw [recoveryEpoch_deliver,
    if_pos ⟨List.mem_dedup.2 (htargets deviceId hmem), hid⟩] at hepoch
  cases hepoch

/-- What holds once everything that was returned has been delivered, until the next suspension. -/
structure Delivered (s : DeviceService) : Prop where
  awaiting : s.Awaiting
  retains : s.isShutdown = false → ∀ deviceId, deviceId ≠ [] → ¬ s.Retained deviceId
  active : s.isShutdown = false → s.isSuspended = false

theorem live_of_run (hen : (deviceService p).enabled s task)
    (hlive : (s.run p task).isShutdown = false) : s.isShutdown = false := by
  cases hsd : s.isShutdown with
  | false => rfl
  | true => exact absurd ((run_of_shutdown hen hsd).1.symm.trans hlive) (by simp)

theorem run_active (hen : (deviceService p).enabled s task)
    (hne : task ≠ .suspend ∧ task ≠ .suspendForPowerTransition)
    (hlive : (s.run p task).isShutdown = false) (hactive : s.isSuspended = false) :
    (s.run p task).isSuspended = false := by
  by_cases hshut : task = .shutdown
  · subst hshut
    have hsd := live_of_run hen hlive
    have hdown : (s.shutdown p).isShutdown = true := congrArg Flags.isShutdown (flags_shutdown hsd)
    exact absurd (hdown.symm.trans hlive) (by simp)
  · exact (suspended_of_flags (run_steps hen hshut).flags).trans (not_suspended_prepare hactive hne)

theorem run_delivered (hen : (deviceService p).enabled s task) (hkeeps : KeepsRecovery s task)
    (hne : task ≠ .suspend ∧ task ≠ .suspendForPowerTransition) (h : s.Delivered) :
    (s.run p task).Delivered := by
  refine ⟨run_awaiting hen hkeeps h.awaiting, fun hlive deviceId hid hret => ?_, fun hlive => ?_⟩
  · exact h.retains (live_of_run hen hlive) deviceId hid (retained_of_run hne hret)
  · exact run_active hen hne hlive (h.active (live_of_run hen hlive))

theorem deliver_delivered {deviceIds : List WString}
    (hkeeps : KeepsRecovery s (.resumeSuspendedSessions deviceIds)) (h : s.Awaiting)
    (hactive : s.isSuspended = false)
    (htargets : ∀ id ∈ s.ledger.recoveryTargets, id ∈ deviceIds) :
    (s.run p (.resumeSuspendedSessions deviceIds)).Delivered := by
  have hen : (deviceService p).enabled s (.resumeSuspendedSessions deviceIds) := trivial
  refine ⟨run_awaiting hen hkeeps h, fun hlive deviceId hid => ?_, fun hlive => ?_⟩
  · exact deliver_retains_nothing (live_of_run hen hlive) hactive htargets hid
  · exact run_active hen (by simp) hlive hactive

theorem Delivered.released (h : s.Delivered) :
    ∀ entry ∈ s.sessions, entry.2.isCloseInFlight = false → entry.2.isSuspended = false := by
  intro entry hentry hclose
  have howned := h.awaiting.inv.owned entry hentry
  have hlive : s.isShutdown = false :=
    h.awaiting.inv.live_of_find (find_of_mem h.awaiting.inv.nodup hentry)
  by_contra hsu
  have hsu : entry.2.isSuspended = true := by simpa using hsu
  rcases h.awaiting.recoverable (h.active hlive) entry hentry hsu with hret | hrec
  · exact h.retains hlive entry.1 howned.named hret
  · exact absurd ((hrec.released howned.live hclose).symm.trans hsu) (by simp)

/-! ## Sessions that were forgotten -/

theorem mem_act_of_same {entry : WString × Session} {e : Event} (hs : s.ids.Nodup)
    (hentry : entry ∈ s.sessions) (hsame : entry.1 = deviceId →
      (deviceSession (p.session deviceId)).step entry.2 e = entry.2) :
    entry ∈ (s.act p deviceId e).sessions := by
  cases hfind : s.find deviceId with
  | none => rwa [act_of_none hfind]
  | some x =>
    rw [act_of_some hfind]
    refine List.mem_map.2 ⟨entry, hentry, ?_⟩
    split
    · next hid =>
      subst hid
      obtain rfl : x = entry.2 := Option.some.inj (hfind.symm.trans (find_of_mem hs hentry))
      rw [hsame rfl]
    · rfl

theorem mem_forEachSession_of_same {entry : WString × Session} {operation : Operation}
    {deviceIds : List WString} (hs : s.ids.Nodup) (hentry : entry ∈ s.sessions)
    (hsame : ∀ deviceId, (deviceSession (p.session deviceId)).step entry.2 (.operation operation) =
      entry.2) :
    entry ∈ (deviceIds.foldl (fun s deviceId => s.operate p deviceId operation) s).sessions := by
  induction deviceIds generalizing s with
  | nil => exact hentry
  | cons id ids ih =>
    exact ih (ids_act (s := s) ▸ hs) (mem_act_of_same hs hentry fun _ => hsame id)

theorem ids_operateAll {operation : Operation} (deviceIds : List WString) :
    (deviceIds.foldl (fun s deviceId => s.operate p deviceId operation) s).ids = s.ids := by
  induction deviceIds generalizing s with
  | nil => rfl
  | cons id ids ih => exact ih.trans ids_act

/-- A delivery leaves the sessions alone that it does not name, and those that the recovery does not
remember. -/
theorem mem_deliver {entry : WString × Session} {deviceIds : List WString} (hs : s.ids.Nodup)
    (hentry : entry ∈ s.sessions)
    (hspared : s.recoveryEpoch entry.1 = none ∨ entry.1 ∉ deviceIds) :
    entry ∈
      (deviceIds.foldl (fun s deviceId => s.resumeSuspendedSession p deviceId) s).sessions := by
  induction deviceIds generalizing s with
  | nil => exact hentry
  | cons id ids ih =>
    have hkept : entry ∈ (s.resumeSuspendedSession p id).sessions ∧
        (s.resumeSuspendedSession p id).ids = s.ids := by
      unfold resumeSuspendedSession
      split
      · exact ⟨hentry, rfl⟩
      split
      · exact ⟨hentry, rfl⟩
      next recoveryEpoch hfind =>
      refine ⟨mem_act_of_same hs hentry ?_, ids_act⟩
      rintro rfl
      have hepoch : s.recoveryEpoch entry.1 = some recoveryEpoch := recoveryEpoch_find hfind
      rcases hspared with hnone | hnot
      · exact absurd (hnone.symm.trans hepoch) (by simp)
      · exact absurd List.mem_cons_self hnot
    refine ih (hkept.2 ▸ hs) hkept.1 ?_
    rcases hspared with hnone | hnot
    · refine .inl ?_
      rw [recoveryEpoch_resumeSuspendedSession]
      split
      · rfl
      · exact hnone
    · exact .inr fun hmem => hnot (List.mem_cons_of_mem _ hmem)

/-- A session that the release forgets is left as it is, and held, by the release and by the
delivery of everything that was returned. -/
theorem forgotten_stranded {entry : WString × Session} (hs : s.Inv) (hsu : s.isSuspended = true)
    (hentry : entry ∈ s.sessions) (hforgotten : s.Forgotten entry) :
    entry ∈ ((s.resumeAfterPowerTransition p).resumeSuspendedSessions p
      s.ledger.recoveryTargets).sessions := by
  obtain ⟨-, hwaived, hnot, -⟩ := hforgotten
  have hlive : s.isShutdown = false := hs.live_of_find (find_of_mem hs.nodup hentry)
  have hrelease : entry ∈ (s.resumeAfterPowerTransition p).sessions ∧
      (s.resumeAfterPowerTransition p).ids = s.ids := by
    unfold resumeAfterPowerTransition
    rw [if_neg (by simp [hlive])]
    dsimp only
    rw [if_pos hsu]
    have hstart := startWatcher_keeps (p := p) (s := { s with isSuspended := false }) s.isRunning
      (if s.isSuspended then s.watcher else s.watcher.stop) rfl
    refine ⟨mem_forEachSession_of_same ?_ ?_ fun deviceId =>
      Session.step_resumeIdle_of_not hwaived, ?_⟩
    · rw [ids, hstart.1]
      exact hs.nodup
    · rw [hstart.1]
      exact hentry
    · refine Eq.trans (ids_operateAll _) ?_
      rw [ids, hstart.1]
      rfl
  have hspared : (s.resumeAfterPowerTransition p).recoveryEpoch entry.1 = none ∨
      entry.1 ∉ s.ledger.recoveryTargets.dedup := by
    rw [recoveryEpoch_of_recovery recovery_resumeAfter, List.mem_dedup]
    by_contra hret
    obtain ⟨hsome, hmem⟩ := not_or.1 hret
    exact hnot ⟨Option.isSome_iff_ne_none.2 hsome, not_not.1 hmem⟩
  unfold resumeSuspendedSessions
  split
  · exact hrelease.1
  · exact mem_deliver (hrelease.2 ▸ hs.nodup) hrelease.1 hspared

/-! ## Main results -/

/-- After a delivery, and until the next suspension, the sessions that wait for no close are not
suspended. -/
theorem power_cycles_strand_nothing {before after : List ServiceTask} {deviceIds : List WString}
    (hrun : (deviceService p).Run initial (before ++ .resumeSuspendedSessions deviceIds :: after))
    (hkeeps : (deviceService p).Always KeepsRecovery initial
      (before ++ .resumeSuspendedSessions deviceIds :: after))
    (hactive : ((deviceService p).exec initial before).isSuspended = false)
    (htargets : ∀ id ∈ ((deviceService p).exec initial before).ledger.recoveryTargets,
      id ∈ deviceIds)
    (hafter : ∀ task ∈ after, task ≠ .suspend ∧ task ≠ .suspendForPowerTransition) :
    ∀ entry ∈ ((deviceService p).exec initial
        (before ++ .resumeSuspendedSessions deviceIds :: after)).sessions,
      entry.2.isCloseInFlight = false → entry.2.isSuspended = false := by
  obtain ⟨hbefore, henter, hrest⟩ := (deviceService p).run_append.1 hrun
  obtain ⟨hkbefore, hkenter, hkrest⟩ := ((deviceService p).always_append _ _ _).1 hkeeps
  have hawait := (hbefore.and hkbefore).invariant (I := Awaiting)
    (fun _ _ h => run_awaiting h.1 h.2) awaiting_initial
  rw [(deviceService p).exec_append, (deviceService p).exec_cons]
  have hdelivered := deliver_delivered (p := p) hkenter hawait hactive htargets
  have hlater := EventSystem.always_of_forall (S := deviceService p) (s := (deviceService p).step
    ((deviceService p).exec initial before) (.resumeSuspendedSessions deviceIds)) hafter
  exact (((hrest.and hkrest).and hlater).invariant (I := Delivered)
    (fun _ _ h => run_delivered h.1.1 h.1.2 h.2) hdelivered).released

/-! ## A run of two cycles -/

instance (s : SessionState) (e : Event) : Decidable (Session.Overwrites s e) := by
  unfold Session.Overwrites Session.Settling
  split <;> infer_instance

instance (s : SessionState) : Decidable (Session.SuspensionSettles s) :=
  inferInstanceAs (Decidable (_ → _ → _ ∧ _ ∧ (_ ∨ _ ∧ _)))

instance (s : DeviceService) : DecidablePred s.Retained := fun _ =>
  inferInstanceAs (Decidable (_ ∧ _))

instance (s : DeviceService) : DecidablePred s.Forgotten := fun _ =>
  inferInstanceAs (Decidable (_ ∧ ¬ _ ∧ ¬ _ ∧ ¬ (_ ∧ _)))

instance (s : DeviceService) (entry : WString × Session) : DecidablePred (s.Delivers entry) := by
  intro task
  unfold Delivers
  split <;> infer_instance

instance (s : DeviceService) (task : ServiceTask) : Decidable (Spares s.Retained s task) :=
  inferInstanceAs (Decidable (∀ entry ∈ _, _ → ¬ _ → ∀ operation ∈ _, ¬ _))

instance (s : DeviceService) (task : ServiceTask) : Decidable (KeepsRecovery s task) :=
  decidable_of_iff ((task = .resumeAfterPowerTransition → s.isSuspended = true →
      ∀ entry ∈ s.sessions, ¬ s.Forgotten entry) ∧
    (∀ entry ∈ s.sessions, s.Delivers entry task → entry.2.isSuspended = true →
      Session.SuspensionSettles entry.2.toSessionState) ∧
    (s.isSuspended = false → Spares s.Retained s task))
    ⟨fun ⟨h₁, h₂, h₃⟩ => ⟨h₁, h₂, h₃⟩, fun h => ⟨h.remembers, h.delivers, h.spares⟩⟩

/-- A connected device goes through a suspension, a second one before the first one's targets are
delivered, and a delivery. -/
def twoCycles : List ServiceTask :=
  [.connect [65], .suspendForPowerTransition, .callback [65] (.closeBarrier 1 false),
    .callback [65] (.closeCooldown 1), .resumeAfterPowerTransition, .connect [65],
    .suspendForPowerTransition, .resumeAfterPowerTransition]

theorem power_cycles_strand_nothing_twoCycles :
    (((deviceService obligingPlatform).exec initial
        (twoCycles ++ .resumeSuspendedSessions [[65]] :: [.callback [65] (.closeBarrier 2 false),
          .callback [65] (.closeCooldown 2)])).sessions.any (!·.2.isCloseInFlight)) = true ∧
    ∀ entry ∈ ((deviceService obligingPlatform).exec initial
        (twoCycles ++ .resumeSuspendedSessions [[65]] :: [.callback [65] (.closeBarrier 2 false),
          .callback [65] (.closeCooldown 2)])).sessions,
      entry.2.isCloseInFlight = false → entry.2.isSuspended = false :=
  ⟨by decide, power_cycles_strand_nothing (by decide) (by decide) (by decide) (by decide)
    (by decide)⟩

end DeviceService

end PlaybackConnector
