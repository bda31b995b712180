import PlaybackConnector.Service.Joining
import PlaybackConnector.Service.Suspension
import PlaybackConnector.Session.Recovery

/-!
# The sessions that a power transition will release

The service remembers the operation epochs of the sessions that it suspended for a power transition
until it recovers them (`Retained`). Between two suspensions every suspended session is either one
of these, or one whose close will release it (`Recoverable`): the tasks keep this so long as none
of their operations overwrites such a close (`Spares`).
-/

namespace PlaybackConnector

namespace DeviceService

variable {p : ServicePlatform} {s t : DeviceService} {deviceId : WString} {x : Session}
  {task : ServiceTask} {e : Event}

/-! ## What the recovery remembers -/

/-- The epochs that the recovery compares, and the devices that were returned. -/
def recovery (s : DeviceService) : List (WString × Nat) × List WString :=
  (s.powerTransitionRecoveryEpochs, s.ledger.recoveryTargets)

/-- `PowerTransitionRecoveryEpochs.find(deviceId)`. -/
def recoveryEpoch (deviceId : WString) (s : DeviceService) : Option Nat :=
  (s.powerTransitionRecoveryEpochs.find? (·.1 = deviceId)).map Prod.snd

/-- The recovery remembers the device, and it was returned. -/
def Retained (s : DeviceService) (deviceId : WString) : Prop :=
  (s.recoveryEpoch deviceId).isSome = true ∧ deviceId ∈ s.ledger.recoveryTargets

theorem recoveryEpoch_of_recovery (h : t.recovery = s.recovery) (deviceId) :
    t.recoveryEpoch deviceId = s.recoveryEpoch deviceId := by
  have hepochs : t.powerTransitionRecoveryEpochs = s.powerTransitionRecoveryEpochs :=
    congrArg Prod.fst h
  rw [recoveryEpoch, recoveryEpoch, hepochs]

theorem Retained.congr (h : t.recovery = s.recovery) (hret : s.Retained deviceId) :
    t.Retained deviceId := by
  have htargets : t.ledger.recoveryTargets = s.ledger.recoveryTargets := congrArg Prod.snd h
  exact ⟨by rw [recoveryEpoch_of_recovery h]; exact hret.1, by rw [htargets]; exact hret.2⟩

theorem recoveryEpoch_eraseRecovery (deviceId other : WString) :
    (s.eraseRecovery deviceId).recoveryEpoch other =
      if other = deviceId then none else s.recoveryEpoch other := by
  unfold recoveryEpoch eraseRecovery
  dsimp only
  split
  · next h =>
    subst h
    rw [List.find?_eq_none.2 ?_]
    · rfl
    · intro entry hentry
      simpa using (List.mem_filter.1 hentry).2
  · next h =>
    rw [List.find?_filter]
    refine congrArg (Option.map Prod.snd) ?_
    congr 1
    funext entry
    by_cases heq : entry.1 = other
    · simp [heq, h]
    · simp [heq]

/-! ## Tasks that change none of it -/

@[simp] theorem recovery_operate {operation : Operation} :
    (s.operate p deviceId operation).recovery = s.recovery := by
  unfold operate act
  split <;> rfl

@[simp] theorem recovery_act : (s.act p deviceId e).recovery = s.recovery := by
  unfold act
  split <;> rfl

@[simp] theorem recovery_publish {kind : DeviceFactKind} :
    (s.publish kind deviceId).recovery = s.recovery := rfl

@[simp] theorem recovery_result {command : DeviceCommandKind} {kind : DeviceCommandResultKind} :
    (s.result command kind deviceId).recovery = s.recovery := rfl

@[simp] theorem recovery_getOrCreateSession :
    (s.getOrCreateSession p deviceId).recovery = s.recovery := by
  unfold getOrCreateSession configure
  dsimp only
  split
  · split
    · rw [recovery_operate, recovery_operate]
      rfl
    · rw [recovery_operate]
      rfl
  · rfl

theorem recovery_request {command : DeviceCommandKind} {operation : DeviceOperationKind} :
    (s.request p command operation deviceId x).recovery = s.recovery := by
  simp [request]

theorem recovery_foldl {α : Type*} {body : DeviceService → α → DeviceService} {as : List α}
    (h : ∀ s a, (body s a).recovery = s.recovery) : (as.foldl body s).recovery = s.recovery := by
  induction as generalizing s with
  | nil => rfl
  | cons a as ih => exact ih.trans (h s a)

/-- A loop of operations. -/
theorem recovery_operateAll (operation : DeviceService → Operation) :
    (s.forEachSession fun deviceId s => s.operate p deviceId (operation s)).recovery =
      s.recovery :=
  recovery_foldl fun _ _ => recovery_operate

@[simp] theorem recovery_onWatcherFact {fact : DeviceWatcherFact} :
    (s.onWatcherFact p fact).recovery = s.recovery := by
  unfold onWatcherFact
  split
  · rfl
  · cases fact.kind with
    | deviceAdded =>
      dsimp only
      split <;> simp
    | deviceRemoved | enumerationCompleted | inventoryChanged => simp

@[simp] theorem recovery_callWatcher {call : Watcher → Watcher × List DeviceWatcherFact} :
    (s.callWatcher p call).recovery = s.recovery := by
  refine Eq.trans (recovery_foldl fun _ _ => recovery_onWatcherFact) ?_
  rfl

@[simp] theorem recovery_startWatcher : (s.startWatcher p).recovery = s.recovery := by
  unfold startWatcher
  exact recovery_callWatcher

theorem recovery_applySettingsPolicy {policy : DeviceSettingsPolicy} {stopRequested : Bool} :
    (s.applySettingsPolicy p policy stopRequested).recovery = s.recovery := by
  have hflags (s : DeviceService) (deviceId : WString) (reconnectChanged incomingChanged : Bool) :
      (s.applyFlags p reconnectChanged incomingChanged deviceId).recovery = s.recovery := by
    unfold applyFlags
    cases reconnectChanged <;> cases incomingChanged <;> simp
  have hloop : ((s.adoptPolicy policy).forEachSession (applyFlags p (s.reconnectChanged policy)
      (s.incomingChanged policy))).recovery = s.recovery :=
    recovery_foldl fun s deviceId => hflags s deviceId _ _
  unfold applySettingsPolicy
  split
  · rfl
  · dsimp only
    split
    · exact (recovery_foldl fun _ _ => recovery_getOrCreateSession).trans hloop
    · exact hloop

theorem recovery_cancelOperation {operation : Nat} :
    (s.cancelOperation p operation).recovery = s.recovery := by
  unfold cancelOperation cancelSessionOperation
  repeat' split
  all_goals simp

theorem recovery_reconnectAll : (s.reconnectAll p).recovery = s.recovery := by
  unfold reconnectAll
  split
  · rfl
  · refine Eq.trans recovery_result (recovery_foldl fun s deviceId => ?_)
    unfold reconnectConnected
    split <;> simp

theorem recovery_connectStartupTargets {deviceIds : List WString} :
    (s.connectStartupTargets p deviceIds).recovery = s.recovery := by
  unfold connectStartupTargets
  split
  · rfl
  · refine recovery_foldl fun s deviceId => ?_
    split <;> simp

/-- The tasks that change what the recovery remembers. -/
def changesRecovery : ServiceTask → Bool
  | .connect _ | .reconnect _ | .suspend | .suspendForPowerTransition | .resume
  | .resumeAfterPowerTransition | .resumeSuspendedSessions _ | .shutdown => true
  | _ => false

theorem run_recovery (h : changesRecovery task = false) :
    (s.run p task).recovery = s.recovery := by
  cases task with
  | connect | reconnect | suspend | suspendForPowerTransition | resume
  | resumeAfterPowerTransition | resumeSuspendedSessions | shutdown => cases h
  | subscribe =>
    change s.subscribe.recovery = _
    unfold subscribe
    split <;> rfl
  | unsubscribe subscription =>
    change (s.unsubscribe subscription).recovery = _
    unfold unsubscribe
    split <;> rfl
  | start =>
    change (s.start p).recovery = _
    unfold start
    repeat' split
    all_goals simp
  | stop =>
    change s.stop.recovery = _
    unfold stop
    repeat' split
    all_goals simp
    all_goals rfl
  | disconnect deviceId =>
    change (s.disconnect p deviceId).recovery = _
    unfold disconnect
    repeat' split
    all_goals simp
  | cancelReconnect deviceId =>
    change (s.cancelReconnect p deviceId).recovery = _
    unfold cancelReconnect
    repeat' split
    all_goals simp
  | cancelPendingReconnects =>
    change (s.cancelPendingReconnects p).recovery = _
    unfold cancelPendingReconnects
    split
    · rfl
    · exact recovery_operateAll fun _ => .cancelReconnect
  | disconnectAll =>
    change (s.disconnectAll p).recovery = _
    unfold disconnectAll
    split
    · rfl
    · exact recovery_operateAll fun s => .disconnect s.isIncomingEnabled
  | reconnectAll => exact recovery_reconnectAll
  | applySettingsPolicy policy stopRequested => exact recovery_applySettingsPolicy
  | connectStartupTargets deviceIds => exact recovery_connectStartupTargets
  | cancelOperation operation => exact recovery_cancelOperation
  | deviceAdded | deviceRemoved | enumerationCompleted | refreshed => exact recovery_callWatcher
  | callback deviceId event => exact recovery_act

/-! ## Sessions that will be released -/

/-- Every suspended session is one of those that `C` answers for, or will be released by the close
that it waits for. -/
def Recoverable (C : WString → Prop) (s : DeviceService) : Prop :=
  ∀ entry ∈ s.sessions, entry.2.isSuspended = true →
    C entry.1 ∨ Session.Recovering entry.2.toSessionState

section
variable {C C' : WString → Prop}

theorem Recoverable.congr (h : s.Recoverable C) (hsessions : t.sessions = s.sessions) :
    t.Recoverable C := by
  rwa [Recoverable, hsessions]

theorem Recoverable.mono (h : s.Recoverable C)
    (hC : ∀ entry ∈ s.sessions, C entry.1 → C' entry.1) : s.Recoverable C' :=
  fun entry hentry hsu => (h entry hentry hsu).imp_left (hC entry hentry)

theorem recoverable_of_empty (h : s.sessions = []) : s.Recoverable C := by
  intro entry hentry
  rw [h] at hentry
  cases hentry

/-- What one task makes of the session of `deviceId`. -/
def Keeps (C : WString → Prop) (deviceId : WString) (x y : Session) : Prop :=
  (x.isSuspended = true → C deviceId ∨ Session.Recovering x.toSessionState) →
    y.isSuspended = true → C deviceId ∨ Session.Recovering y.toSessionState

/-- A task of a session that overwrites no close which releases it. -/
theorem keeps_step (hx : Owned (deviceId, x))
    (he : (deviceSession (p.session deviceId)).enabled x e) (hne : e ≠ .operation .suspend)
    (hover : x.isSuspended = true → ¬ C deviceId → ¬ Session.Overwrites x.toSessionState e) :
    Keeps C deviceId x ((deviceSession (p.session deviceId)).step x e) := by
  intro h hsu
  by_cases hC : C deviceId
  · exact .inl hC
  · exact .inr (Session.step_recovering hx.inv he hne (fun hheld => hover hheld hC)
      (fun hheld => (h hheld).resolve_left hC) hsu)

theorem Recoverable.act (h : s.Recoverable C) (hs : s.Inv) (hne : e ≠ .operation .suspend)
    (hen : ∀ x, s.find deviceId = some x → (deviceSession (p.session deviceId)).enabled x e)
    (hover : ∀ x, s.find deviceId = some x → x.isSuspended = true → ¬ C deviceId →
      ¬ Session.Overwrites x.toSessionState e) : (s.act p deviceId e).Recoverable C := by
  intro entry hentry
  rcases mem_act hentry with ⟨-, hold⟩ | ⟨x, hx, rfl⟩
  · exact h entry hold
  · exact keeps_step (hs.owned_of_find hx) (hen x hx) hne (hover x hx) (h _ (mem_of_find hx))

theorem Recoverable.operate (h : s.Recoverable C) (hs : s.Inv) {operation : Operation}
    (hne : operation ≠ .suspend)
    (hover : ∀ x, s.find deviceId = some x → x.isSuspended = true → ¬ C deviceId →
      ¬ Session.Overwrites x.toSessionState (.operation operation)) :
    (s.operate p deviceId operation).Recoverable C :=
  h.act hs (by simpa using hne) (fun _ _ => Session.enabled_operation _) hover

/-- The event overwrites no close, in whatever state it finds the session. -/
def Harmless (e : Event) : Prop :=
  e ≠ .operation .suspend ∧ e ≠ .operation .shutdown ∧ ∀ s, ¬ Session.Overwrites s e

/-- A new session is not suspended. -/
theorem emplace_free (hcr : s.creates deviceId = true) :
    ∀ x, (s.emplace deviceId).find deviceId = some x → x.isSuspended = false := by
  intro x hx
  rcases List.mem_append.1 (mem_of_find hx) with hold | hnewmem
  · exact absurd (List.mem_map.2 ⟨_, hold, rfl⟩) (creates_iff.1 hcr).2.2
  · obtain ⟨-, rfl⟩ := Prod.mk.inj (List.mem_singleton.1 hnewmem)
    rfl

theorem Recoverable.create (h : s.Recoverable C) (hs : s.Inv) (hcr : s.creates deviceId = true) :
    ((s.emplace deviceId).configure p deviceId).Recoverable C := by
  have hemplace : (s.emplace deviceId).Recoverable C := by
    intro entry hentry
    rcases List.mem_append.1 hentry with hold | hentry
    · exact h entry hold
    · obtain rfl := List.mem_singleton.1 hentry
      exact fun hsu => absurd hsu (by simp [Session.initial])
  have hset : ((s.emplace deviceId).operate p deviceId (.setReconnectEnabled
      ((s.emplace deviceId).isReconnectEnabledFor deviceId))).Recoverable C :=
    hemplace.operate (hs.emplace hcr) (by simp) fun x hx hsu => by
      simp [emplace_free hcr x hx] at hsu
  unfold configure
  dsimp only
  split
  · exact hset.operate ((hs.emplace hcr).operate (by simp)) (by simp) fun _ _ _ _ h => h
  · exact hset

theorem Step.recoverable {ok : Event → Prop} {new : WString → Prop} (h : Step p ok new s t)
    (hok : ∀ e, ok e → Harmless e) (hs : s.Inv) (hrec : s.Recoverable C) : t.Recoverable C := by
  cases h with
  | act deviceId e hperf hen =>
    obtain ⟨hne, -, hover⟩ := hok e hperf
    exact hrec.act hs hne hen fun x _ _ _ => hover x.toSessionState
  | listen deviceId => exact hrec.operate hs (by simp) fun _ _ _ _ h => h
  | create deviceId hcr => exact hrec.create hs hcr
  | publish => exact hrec.congr rfl
  | request command operation deviceId =>
    have hconnect : (s.operate p deviceId (.connect operation true)).Recoverable C :=
      hrec.operate hs (by simp) fun _ _ _ _ h => h
    exact hconnect.congr rfl
  | keep hk => exact hrec.congr hk.sessions

theorem Steps.recoverable {ok : Event → Prop} {new : WString → Prop} (h : Steps p ok new s t)
    (hok : ∀ e, ok e → Harmless e) (hs : s.Inv) (hrec : s.Recoverable C) : t.Recoverable C := by
  have hkeep := moves_preserve (I := fun s => s.Inv ∧ s.Recoverable C)
    (fun _ _ hstep hi => ⟨hstep.inv (fun e hperf => (hok e hperf).2.1) hi.1,
      hstep.recoverable hok hi.1 hi.2⟩) h ⟨hs, hrec⟩
  exact hkeep.2

/-- A loop over the sessions. -/
theorem recoverable_forEachSession {body : WString → DeviceService → DeviceService}
    {P : DeviceService → Prop} {R : WString → Session → Session → Prop} (hbody : ActsOn body P R)
    (hs : s.Inv) (hP : P s)
    (h : ∀ entry ∈ s.sessions, ∀ y, R entry.1 entry.2 y → y.isSuspended = true →
      C entry.1 ∨ Session.Recovering y.toSessionState) :
    (s.forEachSession body).Recoverable C := by
  intro entry hentry
  obtain ⟨x, hx, hR⟩ := mem_forEachSession hbody hs.nodup hP entry hentry
  exact h _ hx _ hR

/-- The same operation of each session, as the service's flags have it. -/
theorem operateAll_actsOn (u : DeviceService) (operation : DeviceService → WString → Operation)
    (hop : ∀ s deviceId, s.flags = u.flags → operation s deviceId = operation u deviceId)
    (hne : ∀ deviceId, operation u deviceId ≠ .shutdown) :
    ActsOn (fun deviceId s => s.operate p deviceId (operation s deviceId))
      (fun s => s.Inv ∧ s.flags = u.flags) fun deviceId x y => Owned (deviceId, x) ∧
        y = (deviceSession (p.session deviceId)).step x (.operation (operation u deviceId)) := by
  rintro s deviceId ⟨hs, hflags⟩
  dsimp only
  rw [hop s deviceId hflags]
  refine ⟨⟨hs.operate (hne deviceId), flags_operate.trans hflags⟩, fun entry hentry => ?_⟩
  refine (mem_act hentry).imp id ?_
  rintro ⟨x, hx, rfl⟩
  exact ⟨rfl, x, hx, hs.owned_of_find hx, rfl⟩

/-- A body that a flag spares. -/
theorem ActsOn.ite {body : WString → DeviceService → DeviceService} {P : DeviceService → Prop}
    {R : WString → Session → Session → Prop} (h : ActsOn body P R) (hP : ∀ s, P s → s.Inv)
    (c : Bool) :
    ActsOn (fun deviceId s => if c then body deviceId s else s) P
      fun deviceId x y => Owned (deviceId, x) ∧ if c then R deviceId x y else y = x := by
  intro s deviceId hs
  cases c with
  | true =>
    refine ⟨(h s deviceId hs).1, fun entry hentry => ?_⟩
    refine ((h s deviceId hs).2 entry hentry).imp id ?_
    rintro ⟨heq, x, hx, hR⟩
    exact ⟨heq, x, hx, (hP s hs).owned_of_find hx, hR⟩
  | false =>
    refine ⟨hs, fun entry hentry => ?_⟩
    by_cases hid : entry.1 = deviceId
    · subst hid
      exact .inr ⟨rfl, entry.2, find_of_mem (hP s hs).nodup hentry, (hP s hs).owned _ hentry, rfl⟩
    · exact .inl ⟨hid, hentry⟩

theorem Recoverable.operateAll (h : s.Recoverable C) (hs : s.Inv)
    {operation : DeviceService → Operation}
    (hop : ∀ t, t.flags = s.flags → operation t = operation s) (hne : operation s ≠ .shutdown)
    (hsuspend : operation s ≠ .suspend)
    (hover : ∀ entry ∈ s.sessions, entry.2.isSuspended = true → ¬ C entry.1 →
      ¬ Session.Overwrites entry.2.toSessionState (.operation (operation s))) :
    (s.forEachSession fun deviceId s => s.operate p deviceId (operation s)).Recoverable C := by
  refine recoverable_forEachSession
    (operateAll_actsOn s (fun s _ => operation s) (fun t _ => hop t) fun _ => hne) hs
    ⟨hs, rfl⟩ fun entry hentry y hy => ?_
  obtain ⟨howned, rfl⟩ := hy
  exact keeps_step howned (Session.enabled_operation _) (by simpa using hsuspend)
    (hover entry hentry) (h entry hentry)

end

/-! ## What the tasks do to the sessions that will be released -/

/-- The wait that gives up has the operation of the session. Source: `CancelOperation`
(`DeviceService.cpp:319`). -/
def cancelsOperation (operation : Nat) (deviceId : WString) (x : Session) (s : DeviceService) :
    Bool :=
  s.publication.operations[operation]?.any fun completion =>
    completion.status.isNone && completion.deviceId = deviceId &&
      completion.epoch = x.operationEpoch

/-- The operations of a task on the session of a device that can put a continuation of their own in
the place of a suspension's. -/
def interruptions (s : DeviceService) (deviceId : WString) (x : Session) :
    ServiceTask → List Operation
  | .disconnect device => if device = deviceId then [.disconnect s.isIncomingEnabled] else []
  | .disconnectAll => [.disconnect s.isIncomingEnabled]
  | .cancelReconnect device => if device = deviceId then [.cancelReconnect] else []
  | .cancelPendingReconnects => [.cancelReconnect]
  | .cancelOperation operation =>
    if s.cancelsOperation operation deviceId x then
      [.cancelReconnect, .disconnect s.isIncomingEnabled]
    else []
  | .deviceRemoved watcherGeneration device =>
    if s.watcher.accepts watcherGeneration ∧ device = deviceId then [.handleDeviceRemoved] else []
  | .applySettingsPolicy policy stopRequested =>
    if s.acceptsPolicy policy stopRequested then
      (if s.reconnectChanged policy then
        [.setReconnectEnabled ((s.adoptPolicy policy).isReconnectEnabledFor deviceId)]
      else []) ++
        if s.incomingChanged policy then [.setIncomingEnabled policy.allowIncomingConnections]
        else []
    else []
  | _ => []

/-- No operation of the task overwrites a close that releases a session which `C` does not answer
for. -/
def Spares (C : WString → Prop) (s : DeviceService) (task : ServiceTask) : Prop :=
  ∀ entry ∈ s.sessions, entry.2.isSuspended = true → ¬ C entry.1 →
    ∀ operation ∈ s.interruptions entry.1 entry.2 task,
      ¬ Session.Overwrites entry.2.toSessionState (.operation operation)

section
variable {C : WString → Prop}

theorem Spares.find (h : Spares C s task) (hfind : s.find deviceId = some x)
    (hsu : x.isSuspended = true) (hC : ¬ C deviceId) {operation : Operation}
    (hop : operation ∈ s.interruptions deviceId x task) :
    ¬ Session.Overwrites x.toSessionState (.operation operation) :=
  h _ (mem_of_find hfind) hsu hC operation hop

/-- An operation suspends no session that was not. -/
theorem free_operate (hs : s.Inv) (operation : Operation) (hne : operation ≠ .suspend)
    (hfree : ∀ x, s.find deviceId = some x → x.isSuspended = false) :
    ∀ x, (s.operate p deviceId operation).find deviceId = some x → x.isSuspended = false := by
  intro y hy
  rcases mem_act (mem_of_find hy) with ⟨hother, -⟩ | ⟨x, hx, heq⟩
  · exact absurd rfl hother
  · obtain ⟨-, rfl⟩ := Prod.mk.inj heq
    exact Session.step_notSuspended (hs.owned_of_find hx).inv (Session.enabled_operation _)
      (by simpa using hne) (hfree x hx)

/-- A session that was created is not suspended. -/
theorem free_create (hs : s.Inv) (hcr : s.creates deviceId = true) :
    ∀ x, ((s.emplace deviceId).configure p deviceId).find deviceId = some x →
      x.isSuspended = false := by
  have hset := free_operate (p := p) (hs.emplace hcr)
    (.setReconnectEnabled ((s.emplace deviceId).isReconnectEnabledFor deviceId)) (by simp)
    (emplace_free hcr)
  unfold configure
  dsimp only
  split
  · exact free_operate ((hs.emplace hcr).operate (by simp)) _ (by simp) hset
  · exact hset

theorem getOrCreateSession_recoverable (hs : s.Inv) (h : s.Recoverable C) :
    (s.getOrCreateSession p deviceId).Recoverable C := by
  unfold getOrCreateSession
  split
  · next hcr => exact h.create hs hcr
  · exact h

theorem disconnect_recoverable (hs : s.Inv) (h : s.Recoverable C)
    (hspares : Spares C s (.disconnect deviceId)) : (s.disconnect p deviceId).Recoverable C := by
  unfold disconnect
  split
  · exact h.congr rfl
  split
  · exact h.congr rfl
  dsimp only
  refine Recoverable.congr ((getOrCreateSession_recoverable hs h).operate
    (getOrCreateSession_inv hs) (by simp) fun x hx hsu hC => ?_) rfl
  by_cases hcr : s.creates deviceId = true
  · have hmade : s.getOrCreateSession p deviceId = (s.emplace deviceId).configure p deviceId :=
      if_pos hcr
    rw [hmade] at hx
    simp [free_create hs hcr x hx] at hsu
  · have hsame : s.getOrCreateSession p deviceId = s := if_neg hcr
    rw [hsame] at hx ⊢
    exact hspares.find hx hsu hC (by simp [interruptions])

theorem cancelReconnect_recoverable (hs : s.Inv) (h : s.Recoverable C)
    (hspares : Spares C s (.cancelReconnect deviceId)) :
    (s.cancelReconnect p deviceId).Recoverable C := by
  unfold cancelReconnect
  split
  · exact h.congr rfl
  split
  · exact h.congr rfl
  split
  · refine Recoverable.congr (h.operate hs (by simp) fun x hx hsu hC => ?_) rfl
    exact hspares.find hx hsu hC (by simp [interruptions])
  · exact h.congr rfl

/-- The second operation of a task on a session finds what the first has left. -/
theorem not_overwrites_second (hx : Owned (deviceId, x)) {first second : Operation}
    (hfirst : Session.IsCancelling first)
    (hsecond : (∃ restore, second = .disconnect restore) ∨
      ∃ enabled, second = .setIncomingEnabled enabled)
    (h : x.isSuspended = true → C deviceId ∨ Session.Recovering x.toSessionState)
    (hover : x.isSuspended = true → ¬ C deviceId →
      ¬ Session.Overwrites x.toSessionState (.operation second))
    (hsu : ((deviceSession (p.session deviceId)).step x (.operation first)).isSuspended = true)
    (hC : ¬ C deviceId) : ¬ Session.Overwrites
      ((deviceSession (p.session deviceId)).step x (.operation first)).toSessionState
      (.operation second) := by
  have hheld : x.isSuspended = true := by
    by_contra hfree
    have hkept := Session.step_notSuspended (p := p.session deviceId)
      (e := .operation first) hx.inv (Session.enabled_operation _)
      (by rintro ⟨⟩; exact hfirst) (by simpa using hfree)
    simp [hkept] at hsu
  have hrec := (h hheld).resolve_left hC
  exact Session.not_overwrites_of_cancelling hx.live hrec hheld hfirst hsecond (hover hheld hC)

theorem Recoverable.operate_second (h : s.Recoverable C) (hs : s.Inv) {first second : Operation}
    (hfirst : Session.IsCancelling first)
    (hsecond : (∃ restore, second = .disconnect restore) ∨
      ∃ enabled, second = .setIncomingEnabled enabled)
    (hover : ∀ x, s.find deviceId = some x → x.isSuspended = true → ¬ C deviceId →
      ¬ Session.Overwrites x.toSessionState (.operation second)) :
    ∀ y, (s.operate p deviceId first).find deviceId = some y → y.isSuspended = true →
      ¬ C deviceId → ¬ Session.Overwrites y.toSessionState (.operation second) := by
  intro y hy hsu hC
  rcases mem_act (mem_of_find hy) with ⟨hother, -⟩ | ⟨x, hx, heq⟩
  · exact absurd rfl hother
  obtain ⟨-, rfl⟩ := Prod.mk.inj heq
  exact not_overwrites_second (hs.owned_of_find hx) hfirst hsecond (h _ (mem_of_find hx))
    (hover x hx) hsu hC

theorem cancelOperation_recoverable {operation : Nat} (hs : s.Inv) (h : s.Recoverable C)
    (hspares : Spares C s (.cancelOperation operation)) :
    (s.cancelOperation p operation).Recoverable C := by
  unfold cancelOperation
  split
  · exact h
  next completion hcompletion =>
  split
  · exact h
  next hpending =>
  unfold cancelSessionOperation
  split
  · exact h
  next hgo =>
  have hcancels (x : Session) (hx : s.find completion.deviceId = some x) :
      s.cancelsOperation operation completion.deviceId x = true := by
    have hepoch : x.operationEpoch = completion.epoch := by simpa [hx] using (not_or.1 hgo).2
    have hnone : completion.status = none := by simpa using hpending
    simp [cancelsOperation, hcompletion, hnone, hepoch]
  have hcancel (x : Session) (hx : s.find completion.deviceId = some x) :
      s.interruptions completion.deviceId x (.cancelOperation operation) =
        [.cancelReconnect, .disconnect s.isIncomingEnabled] := if_pos (hcancels x hx)
  have hfirst : (s.operate p completion.deviceId .cancelReconnect).Recoverable C :=
    h.operate hs (by simp) fun x hx hsu hC => hspares.find hx hsu hC (by simp [hcancel x hx])
  refine hfirst.operate (hs.operate (by simp)) (by simp) ?_
  rw [incoming_of_flags flags_operate]
  exact h.operate_second hs trivial (.inl ⟨_, rfl⟩) fun x hx hsu hC =>
    hspares.find hx hsu hC (by simp [hcancel x hx])

/-- The facts of the watcher that concern no device change no session. -/
theorem sessions_onWatcherFact {fact : DeviceWatcherFact} (h : fact.kind = .inventoryChanged) :
    (s.onWatcherFact p fact).sessions = s.sessions := by
  unfold onWatcherFact
  rw [h]
  split <;> rfl

theorem sessions_onWatcherFacts {facts : List DeviceWatcherFact}
    (h : ∀ fact ∈ facts, fact.kind = .inventoryChanged) :
    (facts.foldl (fun s fact => s.onWatcherFact p fact) s).sessions = s.sessions := by
  induction facts generalizing s with
  | nil => rfl
  | cons fact facts ih =>
    have hrest := ih (s := s.onWatcherFact p fact) fun f hf => h f (List.mem_cons_of_mem _ hf)
    exact hrest.trans (sessions_onWatcherFact (h fact List.mem_cons_self))

theorem onWatcherFact_removed {fact : DeviceWatcherFact} (hkind : fact.kind = .deviceRemoved)
    (hs : s.Inv) (h : s.Recoverable C)
    (hover : ∀ x, s.find fact.deviceId = some x → x.isSuspended = true → ¬ C fact.deviceId →
      ¬ Session.Overwrites x.toSessionState (.operation .handleDeviceRemoved)) :
    (s.onWatcherFact p fact).Recoverable C := by
  unfold onWatcherFact
  split
  · exact h
  · rw [hkind]
    exact Recoverable.congr (h.operate hs (by simp) hover) rfl

theorem deviceRemoved_recoverable {watcherGeneration : Nat} (hs : s.Inv) (h : s.Recoverable C)
    (hspares : Spares C s (.deviceRemoved watcherGeneration deviceId)) :
    (s.callWatcher p (Watcher.onDeviceRemoved watcherGeneration deviceId)).Recoverable C := by
  unfold callWatcher
  cases haccepts : s.watcher.accepts watcherGeneration with
  | false =>
    have hnone : Watcher.onDeviceRemoved watcherGeneration deviceId s.watcher = (s.watcher, []) :=
      if_pos (by simp [haccepts])
    rw [hnone]
    exact h
  | true =>
    obtain ⟨w, facts, hfacts, hchanged⟩ : ∃ (w : Watcher) (facts : List DeviceWatcherFact),
        Watcher.onDeviceRemoved watcherGeneration deviceId s.watcher =
          (w, w.fact .deviceRemoved deviceId [] :: facts) ∧
        ∀ fact ∈ facts, fact.kind = .inventoryChanged := by
      refine ⟨_, _, if_neg (by simp [haccepts]), fun fact hfact => ?_⟩
      split at hfact
      · obtain rfl := List.mem_singleton.1 hfact
        rfl
      · cases hfact
    rw [hfacts]
    dsimp only
    rw [List.foldl_cons]
    have hremoved : ({ s with watcher := w }.onWatcherFact p
        (w.fact .deviceRemoved deviceId [])).Recoverable C :=
      onWatcherFact_removed rfl (hs.congr rfl rfl) (h.congr rfl) fun x hx hsu hC =>
        hspares.find hx hsu hC (by simp [interruptions, haccepts, Watcher.fact])
    exact hremoved.congr (sessions_onWatcherFacts hchanged)

/-- A policy sets the flags of every session, and then creates those of the inventory. -/
theorem applySettingsPolicy_recoverable {policy : DeviceSettingsPolicy} {stopRequested : Bool}
    (hs : s.Inv) (h : s.Recoverable C)
    (hspares : Spares C s (.applySettingsPolicy policy stopRequested)) :
    (s.applySettingsPolicy p policy stopRequested).Recoverable C := by
  cases hgo : s.acceptsPolicy policy stopRequested with
  | false => rwa [applySettingsPolicy_refused hgo]
  | true =>
    let u := s.adoptPolicy policy
    have hu : u.Inv := hs.congr rfl rfl
    have hfirst := (operateAll_actsOn (p := p) u
      (fun s deviceId => .setReconnectEnabled (s.isReconnectEnabledFor deviceId))
      (fun t deviceId ht => by rw [reconnect_of_settings (settings_of_flags ht)])
      (by simp)).ite (fun t ht => ht.1) (s.reconnectChanged policy)
    have hsecond := (operateAll_actsOn (p := p) u
      (fun s _ => .setIncomingEnabled s.isIncomingEnabled)
      (fun t _ ht => by rw [incoming_of_flags ht]) (by simp)).ite (fun t ht => ht.1)
      (s.incomingChanged policy)
    have hloop : (u.forEachSession (applyFlags p (s.reconnectChanged policy)
        (s.incomingChanged policy))).Recoverable C := by
      refine recoverable_forEachSession (hfirst.comp hsecond) hu ⟨hu, rfl⟩ ?_
      rintro entry hentry z ⟨y, ⟨hx, hxy⟩, hy, hyz⟩ hsu
      have hheld := h entry hentry
      have hspare := hspares entry hentry
      simp only [interruptions, hgo, if_true, List.mem_append] at hspare
      have hover (hxsu : entry.2.isSuspended = true) (hC : ¬ C entry.1)
          (hchanged : s.incomingChanged policy = true) :
          ¬ Session.Overwrites entry.2.toSessionState
            (.operation (.setIncomingEnabled u.isIncomingEnabled)) :=
        hspare hxsu hC _ (.inr (by simp [hchanged, u, adoptPolicy]))
      -- The flag of the reconnects comes first, and what it leaves is what the other finds.
      have hfirst : Keeps C entry.1 entry.2 y ∧ (y.isSuspended = true → ¬ C entry.1 →
          s.incomingChanged policy = true → ¬ Session.Overwrites y.toSessionState
            (.operation (.setIncomingEnabled u.isIncomingEnabled))) := by
        cases hchanged : s.reconnectChanged policy with
        | false =>
          obtain rfl : y = entry.2 := by simpa [hchanged] using hxy
          exact ⟨id, hover⟩
        | true =>
          obtain ⟨-, rfl⟩ : _ ∧ y = _ := by simpa [hchanged] using hxy
          refine ⟨keeps_step hx (Session.enabled_operation _) (by simp) fun hsu hC => ?_,
            fun hysu hC hin => ?_⟩
          · exact hspare hsu hC _ (.inl (by simp [hchanged, u]))
          · exact not_overwrites_second hx trivial (.inr ⟨_, rfl⟩) hheld
              (fun hxsu hC => hover hxsu hC hin) hysu hC
      cases hchanged : s.incomingChanged policy with
      | false =>
        obtain rfl : z = y := by simpa [hchanged] using hyz
        exact hfirst.1 hheld hsu
      | true =>
        obtain ⟨-, rfl⟩ : _ ∧ z = _ := by simpa [hchanged] using hyz
        exact keeps_step hy (Session.enabled_operation _) (by simp)
          (fun hysu hC => hfirst.2 hysu hC hchanged) (hfirst.1 hheld) hsu
    unfold applySettingsPolicy
    rw [if_neg (by simp [hgo])]
    dsimp only
    split
    · have hsteps : Steps p (fun _ => False) (fun _ => True)
          (u.forEachSession (applyFlags p (s.reconnectChanged policy)
            (s.incomingChanged policy)))
          ((u.forEachSession (applyFlags p (s.reconnectChanged policy)
            (s.incomingChanged policy))).createInventorySessions p) :=
        foldl_steps fun _ _ _ _ => getOrCreateSession_steps fun _ => trivial
      refine hsteps.recoverable (fun _ hfalse => hfalse.elim) ?_ hloop
      have hset : Steps p (fun e => e ≠ .operation .shutdown) (fun _ => True) u
          (u.forEachSession (applyFlags p (s.reconnectChanged policy)
            (s.incomingChanged policy))) :=
        forEachSession_steps fun _ _ _ => applyFlags_steps (by simp) (by simp)
      exact hset.inv (fun _ h => h) hu
    · exact hloop

end

end DeviceService

end PlaybackConnector
