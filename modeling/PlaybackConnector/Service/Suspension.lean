import PlaybackConnector.Service.Policy
import PlaybackConnector.Session.Suspension

/-!
# The suspended service

While the service is suspended its commands are refused and its sessions are held, so that nothing
connects, unless one of two things goes wrong (`suspended_creates_nothing`). A session is created
for a device while incoming connections are enabled: it was never suspended, and starts its
listener. Or the suspension came when a session had a `Resume` noted from before, which `Suspend`
does not take back.
-/

namespace PlaybackConnector

namespace Session

variable {p : Platform} {e : Event} {s : Session}

/-! ## Sessions that stay as they are -/

/-- A session that was created while the service was suspended: it never connected, and incoming
connections are disabled. -/
structure Dormant (s : Session) : Prop where
  connection : s.connection = none
  notInFlight : s.isCloseInFlight = false
  idle : s.lifecycle = .idle
  notSuspended : s.isSuspended = false
  notEligible : s.retryEligible = false
  notIncoming : s.isIncomingEnabled = false
  handed : s.ledger.handed = []

/-- The operations that reach the sessions of a suspended service. -/
def isPassing : Event → Bool
  | .operation (.rename _) | .operation .cancelReconnect | .operation (.disconnect _)
  | .operation .handleDeviceRemoved | .operation (.setReconnectEnabled _)
  | .operation (.setIncomingEnabled _) => true
  | .operation _ => false
  | _ => true

theorem releases_of_isPassing (h : isPassing e = true) : releases e = false := by
  cases e with
  | operation operation => cases operation <;> first | rfl | cases h
  | _ => rfl

theorem dormant_initial (deviceId deviceName : WString) : Dormant (initial deviceId deviceName) := by
  constructor <;> rfl

/-- What is published of a dormant session, and what changes no field that matters, leaves it
dormant. -/
theorem Dormant.congr {t : Session} (hd : Dormant s) (hconn : t.connection = s.connection)
    (hf : t.isCloseInFlight = s.isCloseInFlight) (hl : t.lifecycle = .idle)
    (hsu : t.isSuspended = s.isSuspended) (he : t.retryEligible = false)
    (hin : t.isIncomingEnabled = false) (hh : t.ledger.handed = s.ledger.handed) : Dormant t :=
  ⟨hconn.trans hd.connection, hf.trans hd.notInFlight, hl, hsu.trans hd.notSuspended, he, hin,
    hh.trans hd.handed⟩

/-- A dormant session stays so, and creates nothing. -/
structure StaysDormant (s t : Session) : Prop where
  dormant : Dormant t
  creates : t.ledger.creates = s.ledger.creates

section
variable {r : Reentry} (hd : Dormant s)
include hd

theorem rename_dormant (deviceName : WString) : StaysDormant s (s.rename deviceName) := by
  unfold rename
  split
  · exact ⟨hd, rfl⟩
  · exact ⟨hd.congr rfl rfl hd.idle rfl hd.notEligible hd.notIncoming rfl, rfl⟩

theorem cancelReconnect_dormant : StaysDormant s (s.cancelReconnect p r) := by
  unfold cancelReconnect cancelAutomaticReconnect cancelActive
  split
  · exact ⟨hd, rfl⟩
  · rw [if_pos (by simp [cancelsActiveReconnect, hd.idle])]
    exact ⟨hd.congr rfl rfl hd.idle rfl rfl hd.notIncoming rfl, rfl⟩

theorem disconnect_dormant (restoreIncoming : Bool) :
    StaysDormant s (s.disconnect p r restoreIncoming) := by
  unfold disconnect
  split
  · exact ⟨hd, rfl⟩
  rw [if_neg (by simp [hd.notInFlight])]
  dsimp only
  rw [if_pos (by simp [hd.connection, hd.notInFlight]), if_neg (by simp [hd.notIncoming])]
  exact ⟨hd.congr rfl rfl rfl rfl rfl hd.notIncoming rfl, rfl⟩

theorem handleDeviceRemoved_dormant : StaysDormant s (s.handleDeviceRemoved p r) := by
  unfold handleDeviceRemoved removeDevice
  split
  · exact ⟨hd, rfl⟩
  · dsimp only
    rw [if_pos (by simp [hd.connection, hd.notInFlight, hd.idle, hd.notEligible])]
    exact ⟨hd.congr rfl rfl hd.idle rfl hd.notEligible hd.notIncoming rfl, rfl⟩

theorem setReconnectEnabled_dormant (enabled : Bool) :
    StaysDormant s (s.setReconnectEnabled p r enabled) := by
  unfold setReconnectEnabled
  split
  · exact ⟨hd, rfl⟩
  · dsimp only
    rw [if_neg (by simp [cancelsActiveReconnect, hd.idle])]
    exact ⟨hd.congr rfl rfl hd.idle rfl hd.notEligible hd.notIncoming rfl, rfl⟩

theorem setIncomingDisabled_dormant : StaysDormant s (s.setIncomingEnabled p r false) := by
  unfold setIncomingEnabled
  split
  · exact ⟨hd, rfl⟩
  · dsimp only
    rw [if_neg (by simp [hd.connection, hd.notInFlight, hd.idle]), if_neg (by simp)]
    exact ⟨hd.congr rfl rfl hd.idle rfl hd.notEligible rfl rfl, rfl⟩

theorem step_dormant (he : (deviceSession p).enabled s e) (hpass : isPassing e = true)
    (hlisten : e ≠ .operation (.setIncomingEnabled true)) :
    StaysDormant s ((deviceSession p).step s e) := by
  cases e with
  | operation operation =>
    cases operation with
    | rename deviceName => exact rename_dormant hd deviceName
    | cancelReconnect => exact cancelReconnect_dormant hd
    | disconnect restoreIncoming => exact disconnect_dormant hd restoreIncoming
    | handleDeviceRemoved => exact handleDeviceRemoved_dormant hd
    | setReconnectEnabled enabled => exact setReconnectEnabled_dormant hd enabled
    | setIncomingEnabled enabled =>
      obtain rfl : enabled = false := by simpa using hlisten
      exact setIncomingDisabled_dormant hd
    | _ => cases hpass
  | _ =>
    have hmem := he _ rfl
    rw [hd.handed] at hmem
    cases hmem

end

/-- A held session stays so, and creates nothing. -/
theorem step_held_of {creates : List SessionState} (hs : Inv s)
    (he : (deviceSession p).enabled s e) (hrel : releases e = false) (hh : Held creates s) :
    Held creates ((deviceSession p).step s e) :=
  step_establishes hs he (fun _ hu => hu.held hs hrel hh) fun _ _ hi hm h => hm.held hi h

/-- The session creates nothing while the service is suspended: it is held, or dormant, which it is
only while incoming connections are disabled. -/
def Still (incoming : Bool) (s : Session) : Prop :=
  Held s.ledger.creates s ∨ Dormant s ∧ incoming = false

theorem Held.still {creates : List SessionState} {incoming : Bool} (h : Held creates s) :
    Still incoming s :=
  .inl ⟨h.suspended, h.notNoted, rfl⟩

theorem step_still {incoming : Bool} (hs : Inv s) (he : (deviceSession p).enabled s e)
    (hpass : isPassing e = true)
    (hlisten : e = .operation (.setIncomingEnabled true) → incoming = true)
    (h : Still incoming s) :
    Still incoming ((deviceSession p).step s e) ∧
      ((deviceSession p).step s e).ledger.creates = s.ledger.creates := by
  rcases h with hh | ⟨hd, hin⟩
  · have hstep := step_held_of hs he (releases_of_isPassing hpass) hh
    exact ⟨hstep.still, hstep.creates⟩
  · have hne : e ≠ .operation (.setIncomingEnabled true) := fun heq => by
      simp [hlisten heq] at hin
    have hstep := step_dormant hd he hpass hne
    exact ⟨.inr ⟨hstep.dormant, hin⟩, hstep.creates⟩

end Session

namespace DeviceService

variable {p : ServicePlatform} {s t : DeviceService} {deviceId : WString} {x : Session}
  {task : ServiceTask} {e : Event}

/-! ## The suspended service -/

/-- No session of the service creates anything. -/
def Quiet (s : DeviceService) : Prop :=
  ∀ entry ∈ s.sessions, Session.Still s.isIncomingEnabled entry.2

theorem Quiet.congr (h : s.Quiet) (hsessions : t.sessions = s.sessions)
    (hin : t.isIncomingEnabled = s.isIncomingEnabled) : t.Quiet := by
  unfold Quiet at *
  rwa [hsessions, hin]

/-- What the tasks of the sessions of a suspended service keep: it is quiet, has created these
connections and these sessions at least. -/
structure QuietFrom (creates : List WString) (ids : List WString) (s : DeviceService) : Prop where
  inv : s.Inv
  quiet : s.Quiet
  creates : s.ledger.creates = creates
  ids : ∀ deviceId ∈ ids, deviceId ∈ s.ids

theorem creates_act_of_same (h : ∀ x, s.find deviceId = some x →
    ((deviceSession (p.session deviceId)).step x e).ledger.creates = x.ledger.creates) :
    (s.act p deviceId e).ledger.creates = s.ledger.creates := by
  cases hfind : s.find deviceId with
  | none => rw [act_of_none hfind]
  | some x =>
    rw [act_of_some hfind]
    simp [newCreates, h x hfind]

theorem Quiet.act (hs : s.Inv) (h : s.Quiet) (hpass : Session.isPassing e = true)
    (hlisten : e = .operation (.setIncomingEnabled true) → s.isIncomingEnabled = true)
    (hen : ∀ x, s.find deviceId = some x →
      (deviceSession (p.session deviceId)).enabled x e) :
    (s.act p deviceId e).Quiet ∧ (s.act p deviceId e).ledger.creates = s.ledger.creates := by
  have hstep (x : Session) (hx : s.find deviceId = some x) :=
    Session.step_still (hs.owned_of_find hx).inv (hen x hx) hpass hlisten (h _ (mem_of_find hx))
  refine ⟨fun entry hentry => ?_, creates_act_of_same fun x hx => (hstep x hx).2⟩
  rw [incoming_of_flags flags_act]
  rcases mem_act hentry with ⟨-, hold⟩ | ⟨x, hx, rfl⟩
  · exact h entry hold
  · exact (hstep x hx).1

section
variable {ok : Event → Prop} {new : WString → Prop} {creates ids : List WString}

theorem QuietFrom.act (h : QuietFrom creates ids s) (hpass : Session.isPassing e = true)
    (hlisten : e = .operation (.setIncomingEnabled true) → s.isIncomingEnabled = true)
    (hen : ∀ x, s.find deviceId = some x →
      (deviceSession (p.session deviceId)).enabled x e) :
    QuietFrom creates ids (s.act p deviceId e) := by
  obtain ⟨hquiet, hcr⟩ := h.quiet.act h.inv hpass hlisten hen
  refine ⟨h.inv.act ?_ hen, hquiet, hcr.trans h.creates, by simpa using h.ids⟩
  rintro rfl
  cases hpass

theorem QuietFrom.congr (h : QuietFrom creates ids s) (hsessions : t.sessions = s.sessions)
    (hflags : t.flags = s.flags) (hcr : t.ledger.creates = s.ledger.creates) :
    QuietFrom creates ids t := by
  obtain ⟨hinv, hquiet, hold, hids⟩ := h
  refine ⟨hinv.congr hsessions (shutdown_of_flags hflags),
    hquiet.congr hsessions (incoming_of_flags hflags), hcr.trans hold, ?_⟩
  rwa [DeviceService.ids, hsessions]

/-- A session that is created while incoming connections are disabled is dormant. -/
theorem QuietFrom.create (h : QuietFrom creates ids s) (hcr : s.creates deviceId = true)
    (hin : s.isIncomingEnabled = false) :
    QuietFrom creates ids ((s.emplace deviceId).configure p deviceId) := by
  have hnew : QuietFrom creates ids (s.emplace deviceId) := by
    refine ⟨h.inv.emplace hcr, fun entry hentry => ?_, h.creates, fun id hid => ?_⟩
    · rcases List.mem_append.1 hentry with hold | hentry
      · exact h.quiet entry hold
      · obtain rfl := List.mem_singleton.1 hentry
        exact .inr ⟨Session.dormant_initial _ _, hin⟩
    · simp only [DeviceService.ids, DeviceService.emplace, List.map_append, List.mem_append]
      exact .inl (h.ids id hid)
  have hset : QuietFrom creates ids ((s.emplace deviceId).operate p deviceId
      (.setReconnectEnabled ((s.emplace deviceId).isReconnectEnabledFor deviceId))) :=
    hnew.act rfl (by simp) fun _ _ => Session.enabled_operation _
  unfold configure
  dsimp only
  rw [if_neg ?_]
  · exact hset
  · rw [incoming_of_flags flags_operate]
    simp [DeviceService.emplace, hin]

theorem Step.quietFrom (h : Step p ok new s t) (hok : ∀ e, ok e → Session.isPassing e = true)
    (hlisten : ok (.operation (.setIncomingEnabled true)) → s.isIncomingEnabled = true)
    (hnew : ∀ deviceId, new deviceId → deviceId ∉ ids → deviceId ≠ [] →
      s.isIncomingEnabled = false)
    (hs : QuietFrom creates ids s) : QuietFrom creates ids t := by
  cases h with
  | act deviceId e hperf hen => exact hs.act (hok e hperf) (fun heq => hlisten (heq ▸ hperf)) hen
  | listen deviceId hin => exact hs.act rfl (fun _ => hin) fun _ _ => Session.enabled_operation _
  | create deviceId hcr hallowed =>
    obtain ⟨hid, -, hnot⟩ := creates_iff.1 hcr
    exact hs.create hcr (hnew deviceId hallowed (fun hmem => hnot (hs.ids deviceId hmem)) hid)
  | publish kind deviceId => exact hs.congr rfl rfl rfl
  | request command operation deviceId x hperf =>
    have hact : QuietFrom creates ids (s.operate p deviceId (.connect operation true)) :=
      hs.act (hok _ hperf) (fun heq => hlisten (heq ▸ hperf)) fun _ _ => Session.enabled_operation _
    exact hact.congr rfl rfl rfl
  | keep hk => exact hs.congr hk.sessions hk.flags hk.creates

theorem Steps.quietFrom (h : Steps p ok new s t) (hok : ∀ e, ok e → Session.isPassing e = true)
    (hlisten : ok (.operation (.setIncomingEnabled true)) → s.isIncomingEnabled = true)
    (hnew : ∀ deviceId, new deviceId → deviceId ∉ ids → deviceId ≠ [] →
      s.isIncomingEnabled = false)
    (hs : QuietFrom creates ids s) : QuietFrom creates ids t := by
  have hkeep := moves_preserve (I := fun t => QuietFrom creates ids t ∧
      t.isIncomingEnabled = s.isIncomingEnabled)
    (fun u v hstep hu => ⟨hstep.quietFrom hok (fun hperf => hu.2.trans (hlisten hperf))
      (fun id hid hnot hne => hu.2.trans (hnew id hid hnot hne)) hu.1,
      (incoming_of_flags hstep.flags).trans hu.2⟩) h ⟨hs, rfl⟩
  exact hkeep.1

end

/-! ## Tasks -/

/-- The task connects something while the service is suspended, or suspends a session which a noted
`Resume` can still release: it creates a session for a device that is not known yet while incoming
connections are enabled, or enables them when there is a device without a session, or a session that
is not suspended. -/
def Disturbs (s : DeviceService) : ServiceTask → Prop
  | .suspend | .suspendForPowerTransition =>
    s.isShutdown = false ∧ s.isSuspended = false ∧
      ∃ entry ∈ s.sessions, Session.ResumeNoted entry.2.toSessionState
  | .deviceAdded watcherGeneration device =>
    s.isSuspended = true ∧ s.watcher.accepts watcherGeneration = true ∧
      s.creates device.id = true ∧ s.isIncomingEnabled = true
  | .applySettingsPolicy policy stopRequested =>
    s.isSuspended = true ∧ s.acceptsPolicy policy stopRequested = true ∧
      s.incomingChanged policy = true ∧ policy.allowIncomingConnections = true ∧
      ((∃ entry ∈ s.sessions, entry.2.isSuspended = false) ∨
        ∃ device ∈ s.watcher.snapshot.devices, s.creates device.id = true)
  | _ => False

instance (s : SessionState) : Decidable (Session.ResumeNoted s) :=
  decidable_of_iff' _ Session.resumeNoted_iff

instance (s : DeviceService) : DecidablePred (Disturbs s)
  | .suspend | .suspendForPowerTransition | .deviceAdded .. | .applySettingsPolicy .. =>
    inferInstanceAs (Decidable (_ ∧ _))
  | .subscribe | .unsubscribe _ | .start | .stop | .connect _ | .disconnect _ | .reconnect _
  | .cancelReconnect _ | .cancelPendingReconnects | .disconnectAll | .reconnectAll
  | .connectStartupTargets _ | .resume | .shutdown | .resumeAfterPowerTransition
  | .resumeSuspendedSessions _ | .cancelOperation _ | .deviceRemoved .. | .enumerationCompleted _
  | .refreshed .. | .callback .. => isFalse id

/-- The task ends a suspension of the service. -/
def endsSuspension : ServiceTask → Bool
  | .resume | .resumeAfterPowerTransition => true
  | _ => false

/-- A suspension finds every session ready to be held. -/
theorem capture_quiet (hs : s.Inv) (hgo : ¬ (s.isShutdown = true ∨ s.isSuspended = true))
    (hnoted : ∀ entry ∈ s.sessions, ¬ Session.ResumeNoted entry.2.toSessionState) :
    (s.capturePowerTransitionRecoveryAndSuspend p).Quiet := by
  have hacts : ActsOn (fun deviceId s => s.operate p deviceId .suspend) Inv fun deviceId x y =>
      ¬ Session.ResumeNoted x.toSessionState → Session.Held y.ledger.creates y := by
    intro t deviceId ht
    refine ⟨ht.operate (by simp), fun entry hentry => (mem_act hentry).imp id ?_⟩
    rintro ⟨x, hx, rfl⟩
    refine ⟨rfl, x, hx, fun hnot => ?_⟩
    have howned := ht.owned_of_find hx
    have hheld := Session.step_held (p := p.session deviceId) howned.inv
      ⟨fun h => absurd (howned.live.symm.trans h) (by simp), hnot⟩
    exact ⟨hheld.suspended, hheld.notNoted, rfl⟩
  have hinv : s.enterSuspension.Inv := hs.congr rfl rfl
  unfold capturePowerTransitionRecoveryAndSuspend
  rw [if_neg hgo]
  intro entry hentry
  obtain ⟨x, hx, hheld⟩ := mem_forEachSession hacts hinv.nodup hinv entry hentry
  exact (hheld (hnoted _ hx)).still

/-- A policy keeps a suspended service quiet, unless it enables incoming connections. -/
theorem adoptPolicy_quiet {policy : DeviceSettingsPolicy} (h : s.Quiet)
    (hheld : s.incomingChanged policy = true → policy.allowIncomingConnections = true →
      ∀ entry ∈ s.sessions, entry.2.isSuspended = true) : (s.adoptPolicy policy).Quiet := by
  intro entry hentry
  have hentry : entry ∈ s.sessions := hentry
  rcases h entry hentry with hh | ⟨hd, hin⟩
  · exact .inl hh
  · refine .inr ⟨hd, ?_⟩
    cases hallow : policy.allowIncomingConnections with
    | false => exact hallow
    | true =>
      have hsu := hheld (by simp [incomingChanged, hin, hallow]) hallow entry hentry
      simp [hd.notSuspended] at hsu

theorem creates_foldl {α : Type*} {body : DeviceService → α → DeviceService} {as : List α}
    (h : ∀ s a, (body s a).ledger.creates = s.ledger.creates) :
    (as.foldl body s).ledger.creates = s.ledger.creates := by
  induction as generalizing s with
  | nil => rfl
  | cons a as ih => exact ih.trans (h s a)

theorem creates_shutdown : (s.shutdown p).ledger.creates = s.ledger.creates := by
  have hsession (deviceId : WString) (x : Session) :
      ((deviceSession (p.session deviceId)).step x (.operation .shutdown)).ledger.creates =
        x.ledger.creates := by
    change x.shutdown.ledger.creates = _
    unfold Session.shutdown
    split
    · rfl
    · simp only [Session.closeForShutdown, Session.enter]
      split <;> rfl
  have hloop (u : DeviceService) : (u.forEachSession fun deviceId s =>
      s.operate p deviceId .shutdown).ledger.creates = u.ledger.creates :=
    creates_foldl fun _ deviceId => creates_act_of_same fun x _ => hsession deviceId x
  unfold shutdown
  split
  · rfl
  · have hcr := hloop { s with
      isShutdown := true
      isRunning := false
      watcher := s.watcher.shutdown }
    exact hcr

/-- What a task performs while the service is suspended passes by the sessions. -/
theorem performs_isPassing (hen : (deviceService p).enabled s task) (hsu : s.isSuspended = true)
    (hne : task ≠ .suspend ∧ task ≠ .suspendForPowerTransition)
    (hends : endsSuspension task = false) :
    ∀ e, task.performs s e → Session.isPassing e = true := by
  intro e hperf
  cases task with
  | suspend => exact absurd rfl hne.1
  | suspendForPowerTransition => exact absurd rfl hne.2
  | resume | resumeAfterPowerTransition => cases hends
  | connect | reconnect | connectStartupTargets | reconnectAll | resumeSuspendedSessions =>
    have hfree := hperf.1
    simp [hsu] at hfree
  | disconnect | disconnectAll =>
    obtain ⟨restore, rfl⟩ := hperf
    rfl
  | cancelOperation =>
    rcases hperf with rfl | ⟨restore, rfl⟩ <;> rfl
  | applySettingsPolicy =>
    rcases hperf with ⟨enabled, rfl⟩ | ⟨-, rfl⟩ <;> rfl
  | cancelReconnect | cancelPendingReconnects | deviceAdded | deviceRemoved =>
    obtain rfl := hperf
    rfl
  | callback deviceId event =>
    obtain rfl : e = event := hperf
    have hcall := hen.1
    cases e <;> first | rfl | cases hcall
  | _ => exact hperf.elim

theorem suspend_of_suspended (h : s.isShutdown = true ∨ s.isSuspended = true) :
    s.capturePowerTransitionRecoveryAndSuspend p = s := if_pos h

theorem prepare_policy {policy : DeviceSettingsPolicy} {stopRequested : Bool}
    (hgo : s.acceptsPolicy policy stopRequested = true) :
    ServiceTask.prepare s (.applySettingsPolicy policy stopRequested) = s.adoptPolicy policy :=
  if_pos hgo

/-- A policy that is processed while the service is suspended, and does not disturb it. -/
theorem applySettingsPolicy_quietFrom {policy : DeviceSettingsPolicy} {stopRequested : Bool}
    (hs : s.Inv) (h : s.Quiet) (hsu : s.isSuspended = true)
    (hgo : s.acceptsPolicy policy stopRequested = true)
    (hnot : ¬ Disturbs s (.applySettingsPolicy policy stopRequested)) :
    QuietFrom s.ledger.creates s.ids (s.applySettingsPolicy p policy stopRequested) := by
  have hheld (hin : s.incomingChanged policy = true)
      (hallow : policy.allowIncomingConnections = true) (entry) (hentry : entry ∈ s.sessions) :
      entry.2.isSuspended = true := by
    by_contra hfree
    exact hnot ⟨hsu, hgo, hin, hallow, .inl ⟨entry, hentry, by simpa using hfree⟩⟩
  have hknown (hin : s.incomingChanged policy = true)
      (hallow : policy.allowIncomingConnections = true) (device)
      (hdevice : device ∈ s.watcher.snapshot.devices) : s.creates device.id = false := by
    by_contra hcr
    exact hnot ⟨hsu, hgo, hin, hallow, .inr ⟨device, hdevice, by simpa using hcr⟩⟩
  have hadopt : QuietFrom s.ledger.creates s.ids (s.adoptPolicy policy) :=
    ⟨hs.congr rfl rfl, adoptPolicy_quiet h hheld, rfl, fun _ hmem => hmem⟩
  have hsteps : Steps p
      (ServiceTask.performs s (.applySettingsPolicy policy stopRequested))
      (fun deviceId => ∃ device ∈ s.watcher.snapshot.devices, device.id = deviceId ∧
        s.incomingChanged policy = true ∧ policy.allowIncomingConnections = true)
      (s.adoptPolicy policy) (s.applySettingsPolicy p policy stopRequested) :=
    applySettingsPolicy_steps (fun enabled => .inl ⟨enabled, rfl⟩) (fun h => .inr ⟨h, rfl⟩)
      (fun hin hallow device hdevice => ⟨device, hdevice, rfl, hin, hallow⟩) hgo
  refine hsteps.quietFrom ?_ ?_ ?_ hadopt
  · rintro e (⟨enabled, rfl⟩ | ⟨-, rfl⟩) <;> rfl
  · rintro (⟨enabled, heq⟩ | ⟨-, heq⟩)
    · simp at heq
    · simpa [adoptPolicy] using heq
  · rintro deviceId ⟨device, hdevice, rfl, hin, hallow⟩ hnew hne
    have hcr := hknown hin hallow device hdevice
    have hsd : s.isShutdown = false := by
      unfold acceptsPolicy at hgo
      simp_all
    simp [creates, hne, hsd, hnew] at hcr

/-- No task disturbs the quiet of a suspended service, unless it is one that `Disturbs`. -/
theorem run_quiet (hen : (deviceService p).enabled s task) (hs : s.Inv) (h : s.Quiet)
    (hsu : s.isSuspended = true) (hsd : s.isShutdown = false) (hnot : ¬ Disturbs s task)
    (hends : endsSuspension task = false) :
    (s.run p task).Quiet ∧ (s.run p task).ledger.creates = s.ledger.creates := by
  by_cases hshut : task = .shutdown
  · subst hshut
    have hempty : (s.run p .shutdown).sessions = [] := shutdown_sessions hsd
    exact ⟨by simp [Quiet, hempty], creates_shutdown⟩
  by_cases hsuspend : task = .suspend ∨ task = .suspendForPowerTransition
  · have hcapture := suspend_of_suspended (p := p) (s := s) (.inr hsu)
    rcases hsuspend with rfl | rfl
    · have hrun : s.run p .suspend = s := hcapture
      rw [hrun]
      exact ⟨h, rfl⟩
    · have hrun : s.run p .suspendForPowerTransition = s.suspendForPowerTransition p := rfl
      rw [hrun, suspendForPowerTransition, hcapture]
      exact ⟨h.congr rfl rfl, rfl⟩
  by_cases hpolicy : ∃ policy stopRequested, task = .applySettingsPolicy policy stopRequested
  · obtain ⟨policy, stopRequested, rfl⟩ := hpolicy
    cases hgo : s.acceptsPolicy policy stopRequested with
    | true =>
      have hfrom := applySettingsPolicy_quietFrom (p := p) hs h hsu hgo hnot
      exact ⟨hfrom.quiet, hfrom.creates⟩
    | false =>
      have hrun : s.run p (.applySettingsPolicy policy stopRequested) = s :=
        applySettingsPolicy_refused hgo
      rw [hrun]
      exact ⟨h, rfl⟩
  have hne : task ≠ .suspend ∧ task ≠ .suspendForPowerTransition := not_or.1 hsuspend
  have hnp (policy stopRequested) : task ≠ .applySettingsPolicy policy stopRequested :=
    fun heq => hpolicy ⟨policy, stopRequested, heq⟩
  have hin : (task.prepare s).isIncomingEnabled = s.isIncomingEnabled :=
    congrArg AppliedSettings.isIncomingEnabled (settings_prepare hnp)
  have hfrom : QuietFrom s.ledger.creates s.ids (task.prepare s) := by
    refine ⟨hs.congr sessions_prepare shutdown_prepare, h.congr sessions_prepare hin,
      creates_prepare, ?_⟩
    rw [ids_prepare]
    exact fun _ hmem => hmem
  have hkeep := (run_steps hen hshut).quietFrom (performs_isPassing hen hsu hne hends)
    (fun hperf => ?_) (fun deviceId hcr hnew hid => ?_) hfrom
  · exact ⟨hkeep.quiet, hkeep.creates⟩
  · have hflag := performs_setFlags hen hnp _ hperf ⟨[], false, false, false⟩
    simp [Event.setFlags] at hflag
  · rw [hin]
    cases task with
    | deviceAdded watcherGeneration device =>
      obtain ⟨hacc, rfl⟩ := hcr
      by_contra hon
      exact hnot ⟨hsu, hacc, creates_iff.2 ⟨hid, hsd, hnew⟩, by simpa using hon⟩
    | applySettingsPolicy policy stopRequested => exact absurd rfl (hnp policy stopRequested)
    | connect | disconnect | reconnect | connectStartupTargets =>
      have hfree := hcr.1
      simp [hsu] at hfree
    | _ => exact hcr.elim

/-- A service that is shut down has no session, and creates nothing. -/
theorem run_shut_down (hen : (deviceService p).enabled s task) (hs : s.Inv)
    (hsd : s.isShutdown = true) : (s.run p task).ledger.creates = s.ledger.creates := by
  by_cases hshut : task = .shutdown
  · subst hshut
    exact creates_shutdown
  have hkeep := moves_preserve (I := fun t => t.isShutdown = true ∧ t.sessions = [] ∧
      t.ledger.creates = s.ledger.creates) (fun u v hstep hu => ?_) (run_steps hen hshut)
    ⟨shutdown_prepare.trans hsd, sessions_prepare.trans (hs.shutdown hsd), creates_prepare⟩
  · exact hkeep.2.2
  obtain ⟨hsd, hempty, hcr⟩ := hu
  have hnone (deviceId : WString) : u.find deviceId = none := by simp [find, hempty]
  refine ⟨(shutdown_of_flags hstep.flags).trans hsd, ?_⟩
  cases hstep with
  | act deviceId | listen deviceId =>
    first
    | rw [act_of_none (hnone deviceId)]
    | rw [DeviceService.operate, act_of_none (hnone deviceId)]
    exact ⟨hempty, hcr⟩
  | create deviceId hcreates => simp [creates, hsd] at hcreates
  | publish => exact ⟨hempty, hcr⟩
  | request _ _ deviceId _ _ hfind => exact absurd ((hnone deviceId).symm.trans hfind) (by simp)
  | keep hk => exact ⟨hk.sessions.trans hempty, hk.creates.trans hcr⟩

/-! ## Runs -/

/-- What holds between the tasks of a run that nothing disturbs. -/
structure Sound (s : DeviceService) : Prop where
  inv : s.Inv
  quiet : s.isSuspended = true → s.isShutdown = false → s.Quiet

theorem suspended_prepare (hends : endsSuspension task = false) (hsu : s.isSuspended = true) :
    (task.prepare s).isSuspended = true := by
  cases task with
  | resume | resumeAfterPowerTransition => cases hends
  | applySettingsPolicy policy stopRequested =>
    cases hgo : s.acceptsPolicy policy stopRequested <;>
      simp [ServiceTask.prepare, hgo, adoptPolicy, hsu]
  | suspend | suspendForPowerTransition => simp [ServiceTask.prepare, hsu]
  | subscribe => simp only [ServiceTask.prepare, subscribe]; split <;> exact hsu
  | unsubscribe => simp only [ServiceTask.prepare, unsubscribe]; split <;> exact hsu
  | _ => exact hsu

theorem suspended_run (hen : (deviceService p).enabled s task) (hshut : task ≠ .shutdown)
    (hends : endsSuspension task = false) (hsu : s.isSuspended = true) :
    (s.run p task).isSuspended = true :=
  (suspended_of_flags (run_steps hen hshut).flags).trans (suspended_prepare hends hsu)

/-- A service that is not suspended becomes so by a suspension only. -/
theorem not_suspended_prepare (hsu : s.isSuspended = false)
    (hne : task ≠ .suspend ∧ task ≠ .suspendForPowerTransition) :
    (task.prepare s).isSuspended = false := by
  cases task with
  | suspend => exact absurd rfl hne.1
  | suspendForPowerTransition => exact absurd rfl hne.2
  | applySettingsPolicy policy stopRequested =>
    cases hgo : s.acceptsPolicy policy stopRequested <;>
      simp [ServiceTask.prepare, hgo, adoptPolicy, hsu]
  | resume | resumeAfterPowerTransition =>
    simp only [ServiceTask.prepare]
    split <;> first | rfl | exact hsu
  | subscribe => simp only [ServiceTask.prepare, subscribe]; split <;> exact hsu
  | unsubscribe => simp only [ServiceTask.prepare, unsubscribe]; split <;> exact hsu
  | _ => exact hsu

/-- A task that ends a suspension leaves a service that is not suspended. -/
theorem released_prepare (hends : endsSuspension task = true) (hsd : s.isShutdown = false) :
    (task.prepare s).isSuspended = false := by
  cases task with
  | resume =>
    cases hsu : s.isSuspended <;> simp [ServiceTask.prepare, released, hsd, hsu]
  | resumeAfterPowerTransition => simp [ServiceTask.prepare, hsd]
  | _ => cases hends

/-- A suspension that nothing noted disturbs leaves the service quiet. -/
theorem suspend_sound (hs : s.Inv) (hnot : ¬ Disturbs s .suspend) (hsd : s.isShutdown = false)
    (hsu : s.isSuspended = false) : (s.capturePowerTransitionRecoveryAndSuspend p).Quiet := by
  refine capture_quiet hs (by simp [hsd, hsu]) fun entry hentry hnoted => ?_
  exact hnot ⟨hsd, hsu, entry, hentry, hnoted⟩

theorem run_sound (hen : (deviceService p).enabled s task) (hnot : ¬ Disturbs s task)
    (h : s.Sound) : (s.run p task).Sound := by
  refine ⟨run_inv hen h.inv, fun hsu hsd => ?_⟩
  have hlive : s.isShutdown = false := by
    cases hdown : s.isShutdown with
    | false => rfl
    | true => exact absurd ((run_of_shutdown hen hdown).1.symm.trans hsd) (by simp)
  have hshut : task ≠ .shutdown := by
    rintro rfl
    have hstop : (s.shutdown p).isShutdown = true :=
      congrArg Flags.isShutdown (flags_shutdown hlive)
    exact absurd (hstop.symm.trans hsd) (by simp)
  have hprep : (task.prepare s).isSuspended = true :=
    (suspended_of_flags (run_steps hen hshut).flags).symm.trans hsu
  have hends : endsSuspension task = false := by
    by_contra hends
    simp [released_prepare (by simpa using hends) hlive] at hprep
  cases hsus : s.isSuspended with
  | true => exact (run_quiet hen h.inv (h.quiet hsus hlive) hsus hlive hnot hends).1
  | false =>
    have hsuspend : task = .suspend ∨ task = .suspendForPowerTransition := by
      by_contra hne
      simp [not_suspended_prepare hsus (not_or.1 hne)] at hprep
    rcases hsuspend with rfl | rfl
    · exact suspend_sound h.inv hnot hlive hsus
    · exact (suspend_sound h.inv hnot hlive hsus).congr rfl rfl

/-- Between a suspension and the task that ends it, no task of the run creates a connection. -/
def SuspendedQuiet (p : ServicePlatform) (s : DeviceService) (tasks : List ServiceTask) : Prop :=
  ∀ before task during after, tasks = before ++ task :: during ++ after →
    task = .suspend ∨ task = .suspendForPowerTransition →
    (∀ t ∈ during, endsSuspension t = false) →
    ((deviceService p).exec s (before ++ task :: during)).ledger.creates =
      ((deviceService p).exec s (before ++ [task])).ledger.creates

/-- A suspended service creates nothing until a task ends the suspension. -/
theorem creates_exec {tasks : List ServiceTask} (hrun : (deviceService p).Run s tasks)
    (hok : (deviceService p).Always (fun s task => ¬ Disturbs s task) s tasks)
    (hends : ∀ task ∈ tasks, endsSuspension task = false) (h : s.Sound)
    (hsu : s.isSuspended = true ∨ s.isShutdown = true) :
    ((deviceService p).exec s tasks).ledger.creates = s.ledger.creates := by
  induction tasks generalizing s with
  | nil => rfl
  | cons task tasks ih =>
    have hend := hends task (by simp)
    have hnext := ih hrun.2 hok.2 (fun t ht => hends t (by simp [ht])) (run_sound hrun.1 hok.1 h)
    cases hsd : s.isShutdown with
    | true =>
      exact (hnext (.inr (run_of_shutdown hrun.1 hsd).1)).trans (run_shut_down hrun.1 h.inv hsd)
    | false =>
      have hsus : s.isSuspended = true := by simpa [hsd] using hsu
      have hstep := (run_quiet hrun.1 h.inv (h.quiet hsus hsd) hsus hsd hok.1 hend).2
      refine (hnext ?_).trans hstep
      by_cases hshut : task = .shutdown
      · subst hshut
        exact .inr (congrArg Flags.isShutdown (flags_shutdown hsd))
      · exact .inl (suspended_run hrun.1 hshut hend hsus)

/-- After a suspension the service is suspended or shut down. -/
theorem suspended_of_suspend (hen : (deviceService p).enabled s task)
    (htask : task = .suspend ∨ task = .suspendForPowerTransition) :
    (s.run p task).isSuspended = true ∨ (s.run p task).isShutdown = true := by
  cases hsd : s.isShutdown with
  | true => exact .inr (run_of_shutdown hen hsd).1
  | false =>
    have hprep : (task.prepare s).isSuspended = true := by
      rcases htask with rfl | rfl <;> cases hsu : s.isSuspended <;>
        simp [ServiceTask.prepare, hsd, hsu, enterSuspension]
    have hshut : task ≠ .shutdown := by
      rintro rfl
      simp at htask
    exact .inl ((suspended_of_flags (run_steps hen hshut).flags).trans hprep)

/-- While the service is suspended nothing connects, in any run whose tasks never disturb it. -/
theorem suspended_creates_nothing {tasks : List ServiceTask}
    (hrun : (deviceService p).Run initial tasks)
    (hok : (deviceService p).Always (fun s task => ¬ Disturbs s task) initial tasks) :
    SuspendedQuiet p initial tasks := by
  rintro before task during after rfl htask hends
  obtain ⟨hruns, -⟩ := (deviceService p).run_append.1 hrun
  obtain ⟨hbefore, hen, hduring⟩ := (deviceService p).run_append.1 hruns
  obtain ⟨hoks, -⟩ := ((deviceService p).always_append _ _ _).1 hok
  obtain ⟨hokbefore, hoktask, hokduring⟩ := ((deviceService p).always_append _ _ _).1 hoks
  have hstart : Sound initial := ⟨inv_initial, fun h => absurd h (by simp [initial])⟩
  have hsound := EventSystem.Always.invariant (S := deviceService p) (I := Sound)
    (fun s task h hi => run_sound h.1 h.2 hi) (hbefore.and hokbefore) hstart
  rw [EventSystem.exec_append, EventSystem.exec_append]
  exact creates_exec hduring hokduring hends (run_sound hen hoktask hsound)
    (suspended_of_suspend hen htask)

/-- A device is in the inventory, incoming connections are disabled, the service is suspended, and a
policy enables them. -/
def incomingWhileSuspended : List ServiceTask :=
  [.start, .refreshed 1 1 [⟨[65], [66]⟩], .suspend, .applySettingsPolicy ⟨1, true, true, []⟩ false]

/-- The policy creates a session for the device, and its listener connects, although the service is
suspended. -/
theorem suspended_creates_incomingWhileSuspended :
    (deviceService obligingPlatform).Run initial incomingWhileSuspended ∧
      ¬ SuspendedQuiet obligingPlatform initial incomingWhileSuspended := by
  refine ⟨by decide, fun h => ?_⟩
  have hquiet := h [.start, .refreshed 1 1 [⟨[65], [66]⟩]] .suspend
    [.applySettingsPolicy ⟨1, true, true, []⟩ false] [] rfl (.inl rfl) (by decide)
  exact absurd hquiet (by decide)

/-- The policy comes before the suspension: the listener of the device's session is suspended. -/
def incomingThenSuspended : List ServiceTask :=
  [.start, .refreshed 1 1 [⟨[65], [66]⟩], .applySettingsPolicy ⟨1, true, true, []⟩ false, .suspend,
    .applySettingsPolicy ⟨2, true, false, []⟩ false, .applySettingsPolicy ⟨3, true, true, []⟩ false]

theorem suspended_creates_incomingThenSuspended :
    SuspendedQuiet obligingPlatform initial incomingThenSuspended :=
  suspended_creates_nothing (by decide) (by decide)

end DeviceService

end PlaybackConnector
