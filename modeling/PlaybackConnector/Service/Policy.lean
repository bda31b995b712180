import PlaybackConnector.Service.Ownership

/-!
# Settings policies

The service ends with the newest policy that it was given, in whatever order and however often they
come, and between its tasks every session has the flags that the policy in force gives it, whenever
it was created (`settings_policy_order_independent`).
-/

namespace PlaybackConnector

namespace DeviceService

variable {p : ServicePlatform} {s t : DeviceService} {deviceId : WString} {x : Session}
  {task : ServiceTask} {entry : WString × Session}

/-! ## The settings in force -/

/-- What a policy sets. -/
structure AppliedSettings where
  revision : Option Nat
  isGlobalReconnectEnabled : Bool
  individuallyReconnectEnabled : Finset WString
  isIncomingEnabled : Bool
deriving DecidableEq

/-- The settings that the service applies. -/
def settings (s : DeviceService) : AppliedSettings :=
  ⟨s.settingsPolicyRevision, s.isGlobalReconnectEnabled, s.individuallyReconnectEnabled,
    s.isIncomingEnabled⟩

/-- The settings of a policy. -/
def policySettings (policy : DeviceSettingsPolicy) : AppliedSettings :=
  ⟨some policy.revision, policy.globalReconnectOnConnectionLoss,
    policy.reconnectDeviceIds.toFinset, policy.allowIncomingConnections⟩

theorem settings_of_flags (h : t.flags = s.flags) : t.settings = s.settings := by
  simp only [flags, Flags.mk.injEq] at h
  simp only [settings, h]

/-! ## The flags of the sessions -/

/-- The session has the flags that the settings in force give it. -/
def Configured (s : DeviceService) (entry : WString × Session) : Prop :=
  entry.2.isReconnectEnabled = s.isReconnectEnabledFor entry.1 ∧
    entry.2.isIncomingEnabled = s.isIncomingEnabled

/-- So has every session of the service. -/
def Agrees (s : DeviceService) : Prop := ∀ entry ∈ s.sessions, Configured s entry

theorem reconnect_of_settings (h : t.settings = s.settings) :
    t.isReconnectEnabledFor deviceId = s.isReconnectEnabledFor deviceId := by
  simp only [settings, AppliedSettings.mk.injEq] at h
  simp only [isReconnectEnabledFor, h]

theorem Configured.congr (h : Configured s entry) (hset : t.settings = s.settings) :
    Configured t entry := by
  obtain ⟨hrec, hin⟩ := h
  exact ⟨hrec.trans (reconnect_of_settings hset).symm,
    hin.trans (congrArg AppliedSettings.isIncomingEnabled hset).symm⟩

theorem configured_iff (h : Owned entry) : Configured s entry ↔
    Session.flags entry.2.toSessionState =
      ⟨entry.1, false, s.isReconnectEnabledFor entry.1, s.isIncomingEnabled⟩ := by
  simp [Configured, Session.flags, h.deviceId, h.live]

/-- An operation of a session, which a flag of the service may spare it, makes of its flags what the
operation does. -/
theorem operate_actsOn (u : DeviceService) (c : DeviceService → Bool)
    (op : DeviceService → WString → Operation) (hc : ∀ s, s.flags = u.flags → c s = c u)
    (hop : ∀ s deviceId, s.flags = u.flags → op s deviceId = op u deviceId)
    (hne : ∀ deviceId, op u deviceId ≠ .shutdown) :
    ActsOn (fun deviceId s => if c s then s.operate p deviceId (op s deviceId) else s)
      (fun s => s.Inv ∧ s.flags = u.flags) fun deviceId x y =>
        Session.flags y.toSessionState =
          if c u then Event.setFlags (.operation (op u deviceId)) (Session.flags x.toSessionState)
          else Session.flags x.toSessionState := by
  rintro s deviceId ⟨hs, hflags⟩
  dsimp only
  rw [hc s hflags, hop s deviceId hflags]
  cases c u with
  | false =>
    refine ⟨⟨hs, hflags⟩, fun entry hentry => ?_⟩
    by_cases hid : entry.1 = deviceId
    · refine .inr ⟨hid, entry.2, ?_, rfl⟩
      rw [← hid]
      exact find_of_mem hs.nodup hentry
    · exact .inl ⟨hid, hentry⟩
  | true =>
    refine ⟨⟨hs.operate (hne deviceId), flags_operate.trans hflags⟩, fun entry hentry => ?_⟩
    refine (mem_act hentry).imp id ?_
    rintro ⟨x, hx, rfl⟩
    exact ⟨rfl, x, hx, (hs.owned_of_find hx).step_flags (Session.enabled_operation _)⟩

/-- What the body of the policy's loop makes of the flags of a session. -/
theorem applyFlags_actsOn (u : DeviceService) (reconnectChanged incomingChanged : Bool) :
    ActsOn (applyFlags p reconnectChanged incomingChanged) (fun s => s.Inv ∧ s.flags = u.flags)
      fun deviceId x z => Session.flags z.toSessionState =
        ⟨x.deviceId, x.isShutdown,
          if reconnectChanged then u.isReconnectEnabledFor deviceId else x.isReconnectEnabled,
          if incomingChanged then u.isIncomingEnabled else x.isIncomingEnabled⟩ := by
  have hrec := operate_actsOn (p := p) u (fun _ => reconnectChanged)
    (fun s deviceId => .setReconnectEnabled (s.isReconnectEnabledFor deviceId)) (fun _ _ => rfl)
    (fun s deviceId h => by rw [reconnect_of_settings (settings_of_flags h)]) (by simp)
  have hin := operate_actsOn (p := p) u (fun _ => incomingChanged)
    (fun s _ => .setIncomingEnabled s.isIncomingEnabled)
    (fun _ _ => rfl) (fun s _ h => by rw [incoming_of_flags h]) (by simp)
  intro s deviceId hs
  obtain ⟨hP, hmem⟩ := hrec.comp hin s deviceId hs
  refine ⟨hP, fun entry hentry => (hmem entry hentry).imp id ?_⟩
  rintro ⟨hid, x, hx, y, hxy, hyz⟩
  refine ⟨hid, x, hx, hyz.trans ?_⟩
  rw [hxy]
  cases reconnectChanged <;> cases incomingChanged <;> rfl

/-- What `GetOrCreateSession` makes of the flags of a new session. -/
theorem configure_actsOn (u : DeviceService) :
    ActsOn (configure p) (fun s => s.Inv ∧ s.flags = u.flags) fun deviceId x z =>
      Session.flags z.toSessionState =
        ⟨x.deviceId, x.isShutdown, u.isReconnectEnabledFor deviceId,
          u.isIncomingEnabled || x.isIncomingEnabled⟩ := by
  have hrec := operate_actsOn (p := p) u (fun _ => true)
    (fun s deviceId => .setReconnectEnabled (s.isReconnectEnabledFor deviceId)) (fun _ _ => rfl)
    (fun s deviceId h => by rw [reconnect_of_settings (settings_of_flags h)]) (by simp)
  have hin := operate_actsOn (p := p) u (fun s => s.isIncomingEnabled)
    (fun _ _ => .setIncomingEnabled true)
    (fun s h => incoming_of_flags h) (fun _ _ _ => rfl) (by simp)
  intro s deviceId hs
  obtain ⟨hP, hmem⟩ := hrec.comp hin s deviceId hs
  refine ⟨hP, fun entry hentry => (hmem entry hentry).imp id ?_⟩
  rintro ⟨hid, x, hx, y, hxy, hyz⟩
  refine ⟨hid, x, hx, hyz.trans ?_⟩
  rw [hxy]
  cases u.isIncomingEnabled <;> rfl

/-- A new session is given its flags. -/
theorem configure_agrees (hs : s.Inv) (hagree : s.Agrees) (hcr : s.creates deviceId = true) :
    ((s.emplace deviceId).configure p deviceId).Agrees := by
  have hnew := (creates_iff.1 hcr).2.2
  obtain ⟨hP, hmem⟩ := configure_actsOn (p := p) s (s.emplace deviceId) deviceId
    ⟨hs.emplace hcr, rfl⟩
  intro entry hentry
  refine Configured.congr ?_ (settings_of_flags hP.2)
  rcases hmem entry hentry with ⟨hne, hold⟩ | ⟨rfl, x, hx, hflags⟩
  · rcases List.mem_append.1 hold with hold | hold
    · exact hagree entry hold
    · obtain rfl := List.mem_singleton.1 hold
      exact absurd rfl hne
  · refine (configured_iff (hP.1.owned entry hentry)).2 (hflags.trans ?_)
    rcases List.mem_append.1 (mem_of_find hx) with hold | hnewmem
    · exact absurd (List.mem_map.2 ⟨_, hold, rfl⟩) hnew
    · obtain ⟨-, rfl⟩ := Prod.mk.inj (List.mem_singleton.1 hnewmem)
      simp [Session.initial]

/-- An event that changes no flag does not shut its session down. -/
theorem not_shutdown_of_setFlags {e : Event} (h : ∀ f, e.setFlags f = f) :
    e ≠ .operation .shutdown := by
  rintro rfl
  have hflag := congrArg SessionFlags.isShutdown (h ⟨[], false, false, false⟩)
  simp [Event.setFlags] at hflag

section
variable {ok : Event → Prop} {new : WString → Prop}

/-- A task of a session that sets no flag. -/
theorem act_agrees (hs : s.Inv) (hagree : s.Agrees) (hset : ∀ f, e.setFlags f = f)
    (hen : ∀ x, s.find deviceId = some x →
      (deviceSession (p.session deviceId)).enabled x e) : (s.act p deviceId e).Agrees := by
  intro entry hentry
  refine Configured.congr ?_ (settings_of_flags flags_act)
  rcases mem_act hentry with ⟨-, hold⟩ | ⟨x, hx, rfl⟩
  · exact hagree entry hold
  · have howned := hs.owned_of_find hx
    have hne := not_shutdown_of_setFlags hset
    refine (configured_iff (howned.step (hen x hx) hne)).2 ?_
    rw [howned.step_flags (hen x hx), hset]
    exact (configured_iff howned).1 (hagree _ (mem_of_find hx))

theorem Step.agrees (h : Step p ok new s t) (hok : ∀ e, ok e → ∀ f, e.setFlags f = f)
    (hs : s.Inv) (hagree : s.Agrees) : t.Agrees := by
  cases h with
  | act deviceId e hperf hen => exact act_agrees hs hagree (hok e hperf) hen
  | listen deviceId hin =>
    intro entry hentry
    refine Configured.congr ?_ (settings_of_flags flags_operate)
    rcases mem_act hentry with ⟨-, hold⟩ | ⟨x, hx, rfl⟩
    · exact hagree entry hold
    · have howned := hs.owned_of_find hx
      refine (configured_iff (howned.step (Session.enabled_operation _) (by simp))).2 ?_
      rw [howned.step_flags (Session.enabled_operation _),
        (configured_iff howned).1 (hagree _ (mem_of_find hx)), hin]
      rfl
  | create deviceId hcr => exact configure_agrees hs hagree hcr
  | publish kind deviceId => exact fun entry hentry => (hagree entry hentry).congr rfl
  | request command operation deviceId x hperf =>
    have hact : (s.operate p deviceId (.connect operation true)).Agrees :=
      act_agrees hs hagree (hok _ hperf) fun _ _ => Session.enabled_operation _
    exact fun entry hentry => (hact entry hentry).congr rfl
  | keep hk =>
    intro entry hentry
    rw [hk.sessions] at hentry
    exact (hagree entry hentry).congr (settings_of_flags hk.flags)

theorem Steps.agrees (h : Steps p ok new s t) (hok : ∀ e, ok e → ∀ f, e.setFlags f = f)
    (hs : s.Inv) (hagree : s.Agrees) : t.Agrees := by
  have hne (e : Event) (hperf : ok e) := not_shutdown_of_setFlags (hok e hperf)
  exact (moves_preserve (I := fun s => s.Inv ∧ s.Agrees)
    (fun _ _ hstep hi => ⟨hstep.inv hne hi.1, hstep.agrees hok hi.1 hi.2⟩) h ⟨hs, hagree⟩).2

end

/-! ## Tasks -/

/-- No task but a policy and `Shutdown` changes a flag of a session. -/
theorem performs_setFlags (hen : (deviceService p).enabled s task)
    (hne : ∀ policy stopRequested, task ≠ .applySettingsPolicy policy stopRequested) :
    ∀ e, task.performs s e → ∀ f, e.setFlags f = f := by
  intro e hperf f
  cases task with
  | applySettingsPolicy policy stopRequested => exact absurd rfl (hne policy stopRequested)
  | callback deviceId event =>
    obtain rfl : e = event := hperf
    have hcall := hen.1
    cases e <;> first | rfl | cases hcall
  | connect | reconnect | connectStartupTargets | reconnectAll =>
    obtain ⟨-, operation, rfl⟩ := hperf
    rfl
  | disconnect | disconnectAll =>
    obtain ⟨restore, rfl⟩ := hperf
    rfl
  | cancelOperation =>
    rcases hperf with rfl | ⟨restore, rfl⟩ <;> rfl
  | resumeSuspendedSessions =>
    rcases hperf.2 with rfl | rfl <;> rfl
  | cancelReconnect | cancelPendingReconnects | suspend | suspendForPowerTransition | resume
  | resumeAfterPowerTransition | deviceAdded | deviceRemoved =>
    obtain rfl := hperf
    rfl
  | _ => exact hperf.elim

theorem settings_prepare
    (hne : ∀ policy stopRequested, task ≠ .applySettingsPolicy policy stopRequested) :
    (task.prepare s).settings = s.settings := by
  unfold ServiceTask.prepare subscribe unsubscribe
  repeat' split
  all_goals first | rfl | exact absurd rfl (hne _ _)

theorem settings_shutdown : (s.shutdown p).settings = s.settings := by
  cases hsd : s.isShutdown with
  | true =>
    have hrun : s.shutdown p = s := if_pos hsd
    rw [hrun]
  | false =>
    have hset := settings_of_flags (flags_shutdown (p := p) hsd)
    exact hset

theorem run_settings (hen : (deviceService p).enabled s task)
    (hne : ∀ policy stopRequested, task ≠ .applySettingsPolicy policy stopRequested) :
    (s.run p task).settings = s.settings := by
  by_cases hsd : task = .shutdown
  · subst hsd
    exact settings_shutdown
  · exact (settings_of_flags (run_steps hen hsd).flags).trans (settings_prepare hne)

theorem applySettingsPolicy_refused {policy : DeviceSettingsPolicy} {stopRequested : Bool}
    (h : s.acceptsPolicy policy stopRequested = false) :
    s.applySettingsPolicy p policy stopRequested = s :=
  if_pos (by simp [h])

theorem settings_applySettingsPolicy {policy : DeviceSettingsPolicy} {stopRequested : Bool}
    (h : s.acceptsPolicy policy stopRequested = true) :
    (s.applySettingsPolicy p policy stopRequested).settings = policySettings policy := by
  have hsteps : Steps p (fun _ => True) (fun _ => True) (s.adoptPolicy policy)
      (s.applySettingsPolicy p policy stopRequested) :=
    applySettingsPolicy_steps (by simp) (by simp) (by simp) h
  exact settings_of_flags hsteps.flags

/-- The loop of a policy gives every session its flags. -/
theorem applyFlags_agrees (hs : s.Inv) (hagree : s.Agrees) (policy : DeviceSettingsPolicy) :
    let t := (s.adoptPolicy policy).forEachSession
      (applyFlags p (s.reconnectChanged policy) (s.incomingChanged policy))
    t.Inv ∧ t.settings = policySettings policy ∧ t.Agrees := by
  intro t
  have hsteps : Steps p (fun e => e ≠ .operation .shutdown) (fun _ => True)
      (s.adoptPolicy policy) t :=
    forEachSession_steps fun _ _ _ => applyFlags_steps (by simp) (by simp)
  have hinv : (s.adoptPolicy policy).Inv := hs.congr rfl rfl
  have htinv := hsteps.inv (fun _ h => h) hinv
  have hset := settings_of_flags hsteps.flags
  refine ⟨htinv, hset, fun entry hentry => Configured.congr ?_ hset⟩
  obtain ⟨x, hx, hflags⟩ := mem_forEachSession
    (applyFlags_actsOn (s.adoptPolicy policy) (s.reconnectChanged policy)
      (s.incomingChanged policy)) hinv.nodup ⟨hinv, rfl⟩ entry hentry
  have hx : (entry.1, x) ∈ s.sessions := hx
  have howned := hs.owned _ hx
  obtain ⟨hrec, hin⟩ := hagree _ hx
  refine (configured_iff (htinv.owned entry hentry)).2 (hflags.trans ?_)
  have hid : x.deviceId = entry.1 := howned.deviceId
  have hlive : x.isShutdown = false := howned.live
  have hrec' : (if s.reconnectChanged policy then
      (s.adoptPolicy policy).isReconnectEnabledFor entry.1 else x.isReconnectEnabled) =
        (s.adoptPolicy policy).isReconnectEnabledFor entry.1 := by
    split
    · rfl
    · rename_i hsame
      refine hrec.trans ?_
      simp only [reconnectChanged, Bool.or_eq_true, decide_eq_true_eq, not_or, not_not] at hsame
      simp [isReconnectEnabledFor, adoptPolicy, hsame]
  have hin' : (if s.incomingChanged policy then (s.adoptPolicy policy).isIncomingEnabled
      else x.isIncomingEnabled) = (s.adoptPolicy policy).isIncomingEnabled := by
    split
    · rfl
    · rename_i hsame
      refine hin.trans ?_
      simpa [incomingChanged, adoptPolicy] using hsame
  rw [hid, hlive, hrec', hin']

theorem createInventorySessions_agrees (hs : s.Inv) (hagree : s.Agrees) :
    (s.createInventorySessions p).Agrees := by
  have hsteps : Steps p (fun _ => False) (fun _ => True) s (s.createInventorySessions p) :=
    foldl_steps fun _ _ _ _ => getOrCreateSession_steps fun _ => trivial
  exact hsteps.agrees (fun _ h => h.elim) hs hagree

theorem applySettingsPolicy_agrees {policy : DeviceSettingsPolicy} {stopRequested : Bool}
    (hs : s.Inv) (hagree : s.Agrees) : (s.applySettingsPolicy p policy stopRequested).Agrees := by
  cases hgo : s.acceptsPolicy policy stopRequested with
  | false => rwa [applySettingsPolicy_refused hgo]
  | true =>
    obtain ⟨hinv, -, hflags⟩ := applyFlags_agrees (p := p) hs hagree policy
    unfold applySettingsPolicy
    rw [if_neg (by simp [hgo])]
    dsimp only
    split
    · exact createInventorySessions_agrees hinv hflags
    · exact hflags

/-- Between the tasks every session has the flags that the settings in force give it. -/
theorem run_agrees (hen : (deviceService p).enabled s task) (hs : s.Inv) (hagree : s.Agrees) :
    (s.run p task).Agrees := by
  by_cases hsd : task = .shutdown
  · subst hsd
    cases hshut : s.isShutdown with
    | true =>
      have hrun : s.run p .shutdown = s := if_pos hshut
      rwa [hrun]
    | false =>
      have hempty : (s.run p .shutdown).sessions = [] := shutdown_sessions hshut
      simp [Agrees, hempty]
  by_cases hpolicy : ∃ policy stopRequested, task = .applySettingsPolicy policy stopRequested
  · obtain ⟨policy, stopRequested, rfl⟩ := hpolicy
    exact applySettingsPolicy_agrees hs hagree
  · have hne (policy stopRequested) : task ≠ .applySettingsPolicy policy stopRequested :=
      fun h => hpolicy ⟨policy, stopRequested, h⟩
    have hset := settings_prepare (s := s) hne
    refine (run_steps hen hsd).agrees (performs_setFlags hen hne)
      (hs.congr sessions_prepare shutdown_prepare) fun entry hentry => ?_
    rw [sessions_prepare] at hentry
    exact (hagree entry hentry).congr hset

/-! ## Runs -/

/-- The policies of a run whose stop token was not requested when they were processed. After
`Shutdown` no policy is processed. -/
def offered : List ServiceTask → List DeviceSettingsPolicy
  | [] => []
  | .shutdown :: _ => []
  | .applySettingsPolicy policy false :: tasks => policy :: offered tasks
  | _ :: tasks => offered tasks

theorem offered_cons {tasks : List ServiceTask} (hshut : task ≠ .shutdown)
    (hpolicy : ¬ ∃ policy, task = .applySettingsPolicy policy false) :
    offered (task :: tasks) = offered tasks := by
  cases task with
  | shutdown => exact absurd rfl hshut
  | applySettingsPolicy policy stopRequested =>
    cases stopRequested with
    | true => rfl
    | false => exact absurd ⟨policy, rfl⟩ hpolicy
  | _ => rfl

/-- The newest of the policies is in force, or the defaults where there are none. -/
def Newest (policies : List DeviceSettingsPolicy) (s : DeviceService) : Prop :=
  policies = [] ∧ s.settings = initial.settings ∨
    ∃ policy ∈ policies, s.settings = policySettings policy ∧
      ∀ other ∈ policies, other.revision ≤ policy.revision

theorem Newest.congr {policies : List DeviceSettingsPolicy} (h : Newest policies s)
    (hset : t.settings = s.settings) : Newest policies t := by
  unfold Newest at *
  rwa [hset]

/-- A policy takes over if it is newer than the one in force. -/
theorem newest_applySettingsPolicy {policies : List DeviceSettingsPolicy}
    {policy : DeviceSettingsPolicy} (h : Newest policies s) (hsd : s.isShutdown = false) :
    Newest (policies ++ [policy]) (s.applySettingsPolicy p policy false) := by
  cases hgo : s.acceptsPolicy policy false with
  | true =>
    refine .inr ⟨policy, by simp, settings_applySettingsPolicy hgo, fun other hother => ?_⟩
    rcases List.mem_append.1 hother with hother | hother
    · obtain ⟨rfl, -⟩ | ⟨newest, -, hset, hmax⟩ := h
      · cases hother
      · have hrev : s.settingsPolicyRevision = some newest.revision :=
          congrArg AppliedSettings.revision hset
        have hlt : newest.revision < policy.revision := by
          simpa [acceptsPolicy, hsd, hrev] using hgo
        exact (hmax other hother).trans hlt.le
    · rw [List.mem_singleton.1 hother]
  | false =>
    rw [applySettingsPolicy_refused hgo]
    obtain ⟨-, hset⟩ | ⟨newest, hmem, hset, hmax⟩ := h
    · have hrev : s.settingsPolicyRevision = none := congrArg AppliedSettings.revision hset
      simp [acceptsPolicy, hsd, hrev] at hgo
    · have hrev : s.settingsPolicyRevision = some newest.revision :=
        congrArg AppliedSettings.revision hset
      have hle : policy.revision ≤ newest.revision := by
        simpa [acceptsPolicy, hsd, hrev] using hgo
      refine .inr ⟨newest, by simp [hmem], hset, fun other hother => ?_⟩
      rcases List.mem_append.1 hother with hother | hother
      · exact hmax other hother
      · rwa [List.mem_singleton.1 hother]

theorem shutdown_run (hen : (deviceService p).enabled s task) (hne : task ≠ .shutdown) :
    (s.run p task).isShutdown = s.isShutdown :=
  (shutdown_of_flags (run_steps hen hne).flags).trans shutdown_prepare

/-- A service that is shut down stays so, with its settings. -/
theorem run_of_shutdown (hen : (deviceService p).enabled s task) (hsd : s.isShutdown = true) :
    (s.run p task).isShutdown = true ∧ (s.run p task).settings = s.settings := by
  by_cases hne : task = .shutdown
  · subst hne
    have hrun : s.run p .shutdown = s := if_pos hsd
    simp [hrun, hsd]
  refine ⟨(shutdown_run hen hne).trans hsd, ?_⟩
  by_cases hpolicy : ∃ policy stopRequested, task = .applySettingsPolicy policy stopRequested
  · obtain ⟨policy, stopRequested, rfl⟩ := hpolicy
    have hrun : s.run p (.applySettingsPolicy policy stopRequested) = s :=
      applySettingsPolicy_refused (by simp [acceptsPolicy, hsd])
    rw [hrun]
  · exact run_settings hen fun policy stopRequested h => hpolicy ⟨policy, stopRequested, h⟩

theorem exec_of_shutdown {tasks : List ServiceTask} (hrun : (deviceService p).Run s tasks)
    (hsd : s.isShutdown = true) : ((deviceService p).exec s tasks).settings = s.settings := by
  induction tasks generalizing s with
  | nil => rfl
  | cons task tasks ih =>
    obtain ⟨hshut, hset⟩ := run_of_shutdown hrun.1 hsd
    exact (ih hrun.2 hshut).trans hset

/-- The newest of the policies that a run offers is in force at its end. -/
theorem newest_exec {tasks : List ServiceTask} {policies : List DeviceSettingsPolicy}
    (hrun : (deviceService p).Run s tasks) (hsd : s.isShutdown = false)
    (h : Newest policies s) :
    Newest (policies ++ offered tasks) ((deviceService p).exec s tasks) := by
  induction tasks generalizing s policies with
  | nil => simpa [offered] using h
  | cons task tasks ih =>
    obtain ⟨hen, hrest⟩ := hrun
    by_cases hshut : task = .shutdown
    · subst hshut
      have hstop : (s.shutdown p).isShutdown = true :=
        congrArg Flags.isShutdown (flags_shutdown hsd)
      have hset := (exec_of_shutdown hrest hstop).trans settings_shutdown
      simpa [offered] using h.congr hset
    have hlive := (shutdown_run hen hshut).trans hsd
    by_cases hpolicy : ∃ policy, task = .applySettingsPolicy policy false
    · obtain ⟨policy, rfl⟩ := hpolicy
      have hnext := ih hrest hlive (newest_applySettingsPolicy h hsd)
      simpa [offered] using hnext
    · have hset : (s.run p task).settings = s.settings := by
        by_cases hstop : ∃ policy, task = .applySettingsPolicy policy true
        · obtain ⟨policy, rfl⟩ := hstop
          have hkeep : s.run p (.applySettingsPolicy policy true) = s :=
            applySettingsPolicy_refused (by simp [acceptsPolicy])
          rw [hkeep]
        · refine run_settings hen fun policy stopRequested heq => ?_
          cases stopRequested with
          | true => exact hstop ⟨policy, heq⟩
          | false => exact hpolicy ⟨policy, heq⟩
      rw [offered_cons hshut hpolicy]
      exact ih hrest hlive (h.congr hset)

/-- Whatever comes between them, and in whatever order and however often they come, the newest of
the policies whose stop token was not requested is in force in the end; without one, the defaults
are. And the sessions that there are then have the flags that the settings in force give them. -/
theorem settings_policy_order_independent {tasks : List ServiceTask}
    (hrun : (deviceService p).Run initial tasks)
    (hdistinct : ∀ policy ∈ offered tasks, ∀ other ∈ offered tasks,
      policy.revision = other.revision → policy = other) :
    let s := (deviceService p).exec initial tasks
    (∀ policy ∈ offered tasks, (∀ other ∈ offered tasks, other.revision ≤ policy.revision) →
        s.settings = policySettings policy) ∧
      (offered tasks = [] → s.settings = initial.settings) ∧
      (s.isShutdown = false → ∀ deviceId session, s.find deviceId = some session →
        session.isReconnectEnabled =
            (s.isGlobalReconnectEnabled || deviceId ∈ s.individuallyReconnectEnabled) ∧
          session.isIncomingEnabled = s.isIncomingEnabled) := by
  intro s
  have hnewest : Newest (offered tasks) s :=
    newest_exec hrun rfl (.inl ⟨rfl, rfl⟩)
  have hagrees := EventSystem.Always.invariant (S := deviceService p) (I := fun s => s.Inv ∧ s.Agrees)
    (fun _ _ hen hi => ⟨run_inv hen hi.1, run_agrees hen hi.1 hi.2⟩) hrun
    ⟨inv_initial, by simp [Agrees, initial]⟩
  refine ⟨fun policy hmem hmax => ?_, fun hnone => ?_, fun _ deviceId session hfind => ?_⟩
  · obtain ⟨hnone, -⟩ | ⟨newest, hnew, hset, hle⟩ := hnewest
    · rw [hnone] at hmem
      cases hmem
    · have hrev := Nat.le_antisymm (hle policy hmem) (hmax newest hnew)
      rw [hdistinct policy hmem newest hnew hrev]
      exact hset
  · obtain ⟨-, hset⟩ | ⟨newest, hnew, -, -⟩ := hnewest
    · exact hset
    · rw [hnone] at hnew
      cases hnew
  · exact hagrees.2 _ (mem_of_find hfind)

/-- Two policies that overtake each other while a device is connected. -/
def overtakingPolicies : List ServiceTask :=
  [.connect [65], .applySettingsPolicy ⟨2, true, false, [[66]]⟩ false,
    .applySettingsPolicy ⟨1, false, true, []⟩ false, .connect [66]]

/-- A platform on which everything succeeds. -/
def obligingPlatform : ServicePlatform := ⟨fun _ => PlaybackConnector.obligingPlatform, fun _ => true⟩

theorem settings_policy_overtakingPolicies :
    let s := (deviceService obligingPlatform).exec initial overtakingPolicies
    (∀ policy ∈ offered overtakingPolicies,
        (∀ other ∈ offered overtakingPolicies, other.revision ≤ policy.revision) →
        s.settings = policySettings policy) ∧
      (offered overtakingPolicies = [] → s.settings = initial.settings) ∧
      (s.isShutdown = false → ∀ deviceId session, s.find deviceId = some session →
        session.isReconnectEnabled =
            (s.isGlobalReconnectEnabled || deviceId ∈ s.individuallyReconnectEnabled) ∧
          session.isIncomingEnabled = s.isIncomingEnabled) :=
  settings_policy_order_independent (by decide) (by decide)

end DeviceService

end PlaybackConnector
