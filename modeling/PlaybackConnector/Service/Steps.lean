import PlaybackConnector.Service.Tasks
import PlaybackConnector.Session.Reports

/-!
# The steps of the device service

A task of the service is a sequence of steps (`Step`): a task of one session, the creation of a
session, a publication, or bookkeeping. `run_steps` takes each task apart once and says which
operations it performs on its sessions (`ServiceTask.performs`) and for which devices it creates
one (`ServiceTask.creates`). A settings policy and the power tasks first change flags of the service
(`ServiceTask.prepare`); `Shutdown`, which releases the sessions, is the one task that is not a
sequence of steps.
-/

namespace PlaybackConnector

namespace DeviceService

variable {p : ServicePlatform} {s t u : DeviceService} {deviceId : WString} {e : Event}
  {x : Session}

/-! ## The session map -/

theorem mem_of_find (h : s.find deviceId = some x) : (deviceId, x) ∈ s.sessions := by
  obtain ⟨entry, hfind, rfl⟩ := Option.map_eq_some_iff.1 h
  have hid : entry.1 = deviceId := by simpa using List.find?_some hfind
  rw [← hid]
  exact List.mem_of_find?_eq_some hfind

theorem find_of_mem (hn : s.ids.Nodup) (h : (deviceId, x) ∈ s.sessions) :
    s.find deviceId = some x := by
  cases hfind : s.sessions.find? (·.1 = deviceId) with
  | none => simpa using List.find?_eq_none.1 hfind _ h
  | some entry =>
    have hid : entry.1 = deviceId := by simpa using List.find?_some hfind
    have hmem := List.mem_of_find?_eq_some hfind
    have hentry : entry = (deviceId, x) := List.inj_on_of_nodup_map hn hmem h hid
    simp [find, hfind, hentry]

theorem find_eq_none_iff : s.find deviceId = none ↔ deviceId ∉ s.ids := by
  simp only [find, Option.map_eq_none_iff, List.find?_eq_none, ids, List.mem_map, not_exists,
    not_and, decide_eq_true_eq]

theorem act_of_none (h : s.find deviceId = none) : s.act p deviceId e = s := by
  unfold act
  rw [h]

/-- The service after a task of a session that there is. -/
theorem act_of_some (h : s.find deviceId = some x) :
    s.act p deviceId e =
      let after := (deviceSession (p.session deviceId)).step x e
      { s with
        sessions := s.sessions.map fun entry =>
          if entry.1 = deviceId then (deviceId, after) else entry
        publication := (newFacts x after).foldr
          (Publication.onSessionFact fun snapshot => s.view (s.snapshotsWith deviceId snapshot))
          s.publication
        ledger := { s.ledger with
          creates := List.replicate (newCreates x after) deviceId ++ s.ledger.creates } } := by
  unfold act
  rw [h]

/-- A task of a session changes no other session. -/
theorem mem_act {entry : WString × Session} (h : entry ∈ (s.act p deviceId e).sessions) :
    entry.1 ≠ deviceId ∧ entry ∈ s.sessions ∨
      ∃ x, s.find deviceId = some x ∧
        entry = (deviceId, (deviceSession (p.session deviceId)).step x e) := by
  cases hfind : s.find deviceId with
  | none =>
    rw [act_of_none hfind] at h
    refine .inl ⟨fun hid => ?_, h⟩
    exact find_eq_none_iff.1 hfind (List.mem_map.2 ⟨entry, h, hid⟩)
  | some x =>
    rw [act_of_some hfind] at h
    obtain ⟨old, hold, rfl⟩ := List.mem_map.1 h
    split
    · exact .inr ⟨x, rfl, rfl⟩
    · rename_i hid
      exact .inl ⟨hid, hold⟩

@[simp] theorem ids_act : (s.act p deviceId e).ids = s.ids := by
  cases hfind : s.find deviceId with
  | none => rw [act_of_none hfind]
  | some x =>
    rw [act_of_some hfind]
    simp only [ids, List.map_map]
    refine List.map_congr_left fun entry _ => ?_
    simp only [Function.comp_apply]
    split
    · rename_i hid
      exact hid.symm
    · rfl

/-- What no task of a session changes of the service. -/
structure Flags where
  individuallyReconnectEnabled : Finset WString
  isSuspended : Bool
  isShutdown : Bool
  isIncomingEnabled : Bool
  isGlobalReconnectEnabled : Bool
  settingsPolicyRevision : Option Nat
deriving DecidableEq

/-- The flags of the service. -/
def flags (s : DeviceService) : Flags :=
  ⟨s.individuallyReconnectEnabled, s.isSuspended, s.isShutdown, s.isIncomingEnabled,
    s.isGlobalReconnectEnabled, s.settingsPolicyRevision⟩

@[simp] theorem flags_act : (s.act p deviceId e).flags = s.flags := by
  unfold act
  split <;> rfl

@[simp] theorem flags_operate {operation : Operation} :
    (s.operate p deviceId operation).flags = s.flags :=
  flags_act

theorem suspended_of_flags (h : t.flags = s.flags) : t.isSuspended = s.isSuspended :=
  congrArg Flags.isSuspended h

theorem shutdown_of_flags (h : t.flags = s.flags) : t.isShutdown = s.isShutdown :=
  congrArg Flags.isShutdown h

theorem incoming_of_flags (h : t.flags = s.flags) : t.isIncomingEnabled = s.isIncomingEnabled :=
  congrArg Flags.isIncomingEnabled h

@[simp] theorem watcher_act : (s.act p deviceId e).watcher = s.watcher := by
  unfold act
  split <;> rfl

/-! ## Steps -/

/-- The bookkeeping of a task: it changes no session, no flag and nothing that was published. -/
structure Kept (s t : DeviceService) : Prop where
  sessions : t.sessions = s.sessions
  flags : t.flags = s.flags
  creates : t.ledger.creates = s.ledger.creates
  published : t.publication.publishedSnapshot = s.publication.publishedSnapshot
  generation : t.publication.generation = s.publication.generation
  subscriber : t.publication.subscriber = s.publication.subscriber
  facts : t.publication.facts = s.publication.facts

/-- The commands that return have no completions, but for one that no wait cancels. -/
inductive Completes (s t : DeviceService) : Prop
  | same (operations : t.publication.operations = s.publication.operations)
      (results : ∀ r ∈ t.ledger.results, r ∈ s.ledger.results ∨ r.completion = none)
  | coalesced (command : DeviceCommandKind) (deviceId : WString)
      (operations : t.publication.operations = s.publication.operations ++
        [s.newCompletion .coalesced deviceId ((s.find deviceId).elim 0 (·.operationEpoch))])
      (results : t.ledger.results = ⟨command, .coalesced, deviceId,
        (s.find deviceId).elim 0 (·.operationEpoch), some s.publication.operations.length⟩ ::
          s.ledger.results)

/-- No command returns. -/
theorem Completes.none (h : t.publication.operations = s.publication.operations)
    (h' : t.ledger.results = s.ledger.results) : Completes s t :=
  .same h fun r hr => .inl (by rwa [← h'])

/-- A step of a task that performs the operations `ok` on sessions and creates sessions for the
devices `new`. -/
inductive Step (p : ServicePlatform) (ok : Event → Prop) (new : WString → Prop)
    (s : DeviceService) : DeviceService → Prop
  | act (deviceId : WString) (e : Event) (performed : ok e)
      (enabled : ∀ x, s.find deviceId = some x →
        (deviceSession (p.session deviceId)).enabled x e) :
      Step p ok new s (s.act p deviceId e)
  | listen (deviceId : WString) (incoming : s.isIncomingEnabled = true) :
      Step p ok new s (s.operate p deviceId (.setIncomingEnabled true))
  | create (deviceId : WString) (creates : s.creates deviceId = true)
      (allowed : new deviceId) :
      Step p ok new s ((s.emplace deviceId).configure p deviceId)
  | publish (kind : DeviceFactKind) (deviceId : WString) :
      Step p ok new s (s.publish kind deviceId)
  | request (command : DeviceCommandKind) (operation : DeviceOperationKind) (deviceId : WString)
      (x : Session) (performed : ok (.operation (.connect operation true)))
      (found : s.find deviceId = some x) :
      Step p ok new s (s.request p command operation deviceId x)
  | keep {t : DeviceService} (kept : Kept s t) (completes : Completes s t) : Step p ok new s t

/-- A sequence of steps. -/
abbrev Steps (p : ServicePlatform) (ok : Event → Prop) (new : WString → Prop) :
    DeviceService → DeviceService → Prop :=
  Relation.ReflTransGen (Step p ok new)

section
variable {ok ok' : Event → Prop} {new new' : WString → Prop}

theorem Step.mono (hok : ∀ e, ok e → ok' e) (hnew : ∀ deviceId, new deviceId → new' deviceId)
    (h : Step p ok new s t) : Step p ok' new' s t := by
  cases h with
  | act deviceId e hperf hen => exact .act deviceId e (hok e hperf) hen
  | listen deviceId hin => exact .listen deviceId hin
  | create deviceId hcr hn => exact .create deviceId hcr (hnew deviceId hn)
  | publish kind deviceId => exact .publish kind deviceId
  | request command operation deviceId x hperf hfind =>
    exact .request command operation deviceId x (hok _ hperf) hfind
  | keep hk hc => exact .keep hk hc

theorem Steps.mono (hok : ∀ e, ok e → ok' e) (hnew : ∀ deviceId, new deviceId → new' deviceId)
    (h : Steps p ok new s t) : Steps p ok' new' s t :=
  Relation.ReflTransGen.mono (fun _ _ => Step.mono hok hnew) _ _ h

theorem Steps.keep (h : Steps p ok new s t) (hk : Kept t u) (hc : Completes t u) :
    Steps p ok new s u :=
  h.tail (.keep hk hc)

@[simp] theorem flags_emplace : (s.emplace deviceId).flags = s.flags := rfl

theorem flags_configure : (s.configure p deviceId).flags = s.flags := by
  unfold configure
  dsimp only
  split <;> simp

theorem Step.flags (h : Step p ok new s t) : t.flags = s.flags := by
  cases h with
  | act | listen | request => exact flags_act
  | create => exact flags_configure
  | publish => rfl
  | keep hk => exact hk.flags

theorem Steps.flags (h : Steps p ok new s t) : t.flags = s.flags := by
  induction h with
  | refl => rfl
  | tail _ hstep ih => exact hstep.flags.trans ih

/-! ## The functions that the tasks share -/

theorem operate_step (deviceId) {operation : Operation} (h : ok (.operation operation)) :
    Steps p ok new s (s.operate p deviceId operation) :=
  .single (.act deviceId _ h fun _ _ => Session.enabled_operation _)

theorem listen_steps (deviceId) :
    Steps p ok new s
      (if s.isIncomingEnabled then s.operate p deviceId (.setIncomingEnabled true) else s) := by
  split
  · rename_i hin
    exact .single (.listen deviceId hin)
  · exact .refl

theorem getOrCreateSession_steps (h : s.creates deviceId = true → new deviceId) :
    Steps p ok new s (s.getOrCreateSession p deviceId) := by
  unfold getOrCreateSession
  split
  · rename_i hcr
    exact .single (.create deviceId hcr (h hcr))
  · exact .refl

theorem result_kept (command kind deviceId) : Kept s (s.result command kind deviceId) := by
  constructor <;> rfl

/-- Only `Connect` and `Reconnect` complete later. -/
theorem result_completes {command : DeviceCommandKind} {kind : DeviceCommandResultKind}
    (h : command = .connect ∨ command = .reconnect → kind ≠ .accepted) (deviceId) :
    Completes s (s.result command kind deviceId) := by
  by_cases hcompletes : (command = .connect ∨ command = .reconnect) ∧ kind = .coalesced
  · obtain ⟨hcommand, rfl⟩ := hcompletes
    refine .coalesced command deviceId ?_ ?_
    · exact if_pos (by simp [hcommand])
    · simp [result, hcommand]
  · have hnone : ¬ ((command = .connect ∨ command = .reconnect) ∧
        (kind = .accepted ∨ kind = .coalesced)) := by
      rintro ⟨hcommand, hkind⟩
      exact hcompletes ⟨hcommand, hkind.resolve_left (h hcommand)⟩
    refine .same (if_neg (by simpa using hnone)) fun r hr => ?_
    rcases List.mem_cons.1 hr with rfl | hr
    · exact .inr (if_neg (by simpa using hnone))
    · exact .inl hr

theorem result_steps (h : Steps p ok new s t) {command : DeviceCommandKind}
    {kind : DeviceCommandResultKind}
    (hkind : command = .connect ∨ command = .reconnect → kind ≠ .accepted) (deviceId) :
    Steps p ok new s (t.result command kind deviceId) :=
  h.keep (result_kept command kind deviceId) (result_completes hkind deviceId)

/-- The body of a loop finds the flags as the loop does. -/
theorem foldl_steps {α : Type*} {body : DeviceService → α → DeviceService} {as : List α}
    (h : ∀ t, t.flags = s.flags → ∀ a ∈ as, Steps p ok new t (body t a)) :
    Steps p ok new s (as.foldl body s) := by
  induction as generalizing s with
  | nil => exact .refl
  | cons a as ih =>
    have hbody := h s rfl a List.mem_cons_self
    refine hbody.trans (ih fun t ht b hb => ?_)
    exact h t (ht.trans hbody.flags) b (List.mem_cons_of_mem _ hb)

theorem forEachSession_steps {body : WString → DeviceService → DeviceService}
    (h : ∀ t deviceId, t.flags = s.flags → Steps p ok new t (body deviceId t)) :
    Steps p ok new s (s.forEachSession body) :=
  foldl_steps fun t ht deviceId _ => h t deviceId ht

/-- A fact of the watcher renames or removes a device, and only an added device is new. -/
theorem onWatcherFact_steps {fact : DeviceWatcherFact}
    (hadd : fact.kind = .deviceAdded → new fact.deviceId ∧ ok (.operation (.rename fact.deviceName)))
    (hremove : fact.kind = .deviceRemoved → ok (.operation .handleDeviceRemoved)) :
    Steps p ok new s (s.onWatcherFact p fact) := by
  unfold onWatcherFact
  split
  · exact .refl
  refine Relation.ReflTransGen.tail ?_ (.publish .inventoryChanged fact.deviceId)
  cases hkind : fact.kind with
  | deviceAdded =>
    refine (getOrCreateSession_steps fun _ => (hadd hkind).1).trans ?_
    exact (operate_step fact.deviceId (hadd hkind).2).trans (listen_steps fact.deviceId)
  | deviceRemoved => exact operate_step fact.deviceId (hremove hkind)
  | enumerationCompleted | inventoryChanged => exact .refl

theorem callWatcher_steps {call : Watcher → Watcher × List DeviceWatcherFact}
    (h : ∀ fact ∈ (call s.watcher).2,
      (fact.kind = .deviceAdded → new fact.deviceId ∧ ok (.operation (.rename fact.deviceName))) ∧
        (fact.kind = .deviceRemoved → ok (.operation .handleDeviceRemoved))) :
    Steps p ok new s (s.callWatcher p call) := by
  have hset : Step p ok new s { s with watcher := (call s.watcher).1 } := by
    refine .keep ?_ (.none rfl rfl)
    constructor <;> rfl
  refine .trans (.single hset) (foldl_steps fun s _ fact hfact => ?_)
  exact onWatcherFact_steps (h fact hfact).1 (h fact hfact).2

theorem start_facts {registers : Bool} {w : Watcher} :
    ∀ fact ∈ (w.start registers).2, fact.kind = .inventoryChanged := by
  intro fact hfact
  unfold Watcher.start at hfact
  split at hfact
  · cases hfact
  · obtain rfl := List.mem_singleton.1 hfact
    rfl

/-- A registration is asked for. -/
def countRegistration (s : DeviceService) : DeviceService :=
  { s with ledger := { s.ledger with
      registrations := s.ledger.registrations + if s.watcher.canStart then 1 else 0 } }

theorem countRegistration_kept : Kept s s.countRegistration := by
  constructor <;> rfl

theorem startWatcher_steps : Steps p ok new s (s.startWatcher p) := by
  have hcall : Steps p ok new s.countRegistration (s.countRegistration.callWatcher p
      (Watcher.start (p.registers s.ledger.registrations))) :=
    callWatcher_steps fun fact hfact => by simp [start_facts fact hfact]
  have hstart : Steps p ok new s (s.countRegistration.callWatcher p
      (Watcher.start (p.registers s.ledger.registrations))) :=
    .head (.keep countRegistration_kept (.none rfl rfl)) hcall
  refine hstart.keep ?_ (.none rfl rfl)
  constructor <;> rfl

end

/-! ## The tasks -/

theorem start_steps : Steps p (fun _ => False) (fun _ => False) s (s.start p) := by
  unfold start
  split
  · exact result_steps .refl (by simp) _
  · split
    · exact result_steps .refl (by simp) _
    · exact (result_steps startWatcher_steps (by simp) _).tail (.publish _ _)

theorem stop_steps : Steps p (fun _ => False) (fun _ => False) s s.stop := by
  unfold stop
  split
  · exact result_steps .refl (by simp) _
  · split
    · exact result_steps .refl (by simp) _
    · have hstop : Steps p (fun _ => False) (fun _ => False) s
          { s with watcher := s.watcher.stop, isRunning := false } := by
        refine .single (.keep ?_ (.none rfl rfl))
        constructor <;> rfl
      exact (result_steps hstop (by simp) _).tail (.publish _ _)

theorem eraseRecovery_kept : Kept s (s.eraseRecovery deviceId) := by
  constructor <;> rfl

section
variable {ok : Event → Prop} {new : WString → Prop}

theorem request_steps {command operation} (h : ok (.operation (.connect operation true)))
    (hfind : s.find deviceId = some x) :
    Steps p ok new s (s.request p command operation deviceId x) :=
  .single (.request command operation deviceId x h hfind)

theorem connect_steps (h : s.isSuspended = false → ok (.operation (.connect .manualConnect true)))
    (hnew : s.isSuspended = false → new deviceId) : Steps p ok new s (s.connect p deviceId) := by
  unfold connect
  split
  · exact result_steps .refl (by simp) _
  split
  · exact result_steps .refl (by simp) _
  rename_i hgo
  have hsu : s.isSuspended = false := by simp_all
  have hget : Steps p ok new s ((s.getOrCreateSession p deviceId).eraseRecovery deviceId) :=
    (getOrCreateSession_steps fun _ => hnew hsu).keep eraseRecovery_kept (.none rfl rfl)
  dsimp only
  split
  · exact hget
  split
  · exact result_steps hget (by simp) _
  split
  · exact result_steps hget (by simp) _
  · exact hget.trans (request_steps (h hsu) ‹_›)

theorem reconnect_steps
    (h : s.isSuspended = false → ok (.operation (.connect .manualReconnect true)))
    (hnew : s.isSuspended = false → new deviceId) : Steps p ok new s (s.reconnect p deviceId) := by
  unfold reconnect
  split
  · exact result_steps .refl (by simp) _
  split
  · exact result_steps .refl (by simp) _
  rename_i hgo
  have hsu : s.isSuspended = false := by simp_all
  have hget : Steps p ok new s ((s.getOrCreateSession p deviceId).eraseRecovery deviceId) :=
    (getOrCreateSession_steps fun _ => hnew hsu).keep eraseRecovery_kept (.none rfl rfl)
  dsimp only
  split
  · exact hget
  split
  · exact result_steps hget (by simp) _
  · exact hget.trans (request_steps (h hsu) ‹_›)

theorem disconnect_steps (h : ∀ restore, ok (.operation (.disconnect restore)))
    (hnew : s.isSuspended = false → new deviceId) :
    Steps p ok new s (s.disconnect p deviceId) := by
  unfold disconnect
  split
  · exact result_steps .refl (by simp) _
  split
  · exact result_steps .refl (by simp) _
  rename_i hgo
  have hget : Steps p ok new s (s.getOrCreateSession p deviceId) :=
    getOrCreateSession_steps fun _ => hnew (by simp_all)
  exact result_steps (hget.trans (operate_step deviceId (h _))) (by simp) _

theorem cancelReconnect_steps (h : ok (.operation .cancelReconnect)) :
    Steps p ok new s (s.cancelReconnect p deviceId) := by
  unfold cancelReconnect
  split
  · exact result_steps .refl (by simp) _
  split
  · exact result_steps .refl (by simp) _
  split
  · exact result_steps (operate_step deviceId h) (by simp) _
  · exact result_steps .refl (by simp) _

theorem cancelOperation_steps {operation : Nat} (h : ok (.operation .cancelReconnect))
    (h' : ∀ restore, ok (.operation (.disconnect restore))) :
    Steps p ok new s (s.cancelOperation p operation) := by
  unfold cancelOperation
  split
  · exact .refl
  split
  · exact .refl
  unfold cancelSessionOperation
  split
  · exact .refl
  · exact (operate_step _ h).trans (operate_step _ (h' _))

theorem cancelPendingReconnects_steps (h : ok (.operation .cancelReconnect)) :
    Steps p ok new s (s.cancelPendingReconnects p) := by
  unfold cancelPendingReconnects
  split
  · exact result_steps .refl (by simp) _
  · exact result_steps (forEachSession_steps fun _ deviceId _ => operate_step deviceId h) (by simp) _

theorem disconnectAll_steps (h : ∀ restore, ok (.operation (.disconnect restore))) :
    Steps p ok new s (s.disconnectAll p) := by
  unfold disconnectAll
  split
  · exact result_steps .refl (by simp) _
  · exact result_steps (forEachSession_steps fun _ deviceId _ => operate_step deviceId (h _)) (by simp)
      _

theorem reconnectAll_steps
    (h : s.isSuspended = false → ok (.operation (.connect .manualReconnect true))) :
    Steps p ok new s (s.reconnectAll p) := by
  unfold reconnectAll
  split
  · exact result_steps .refl (by simp) _
  rename_i hgo
  refine result_steps (forEachSession_steps fun _ deviceId _ => ?_) (by simp) _
  unfold reconnectConnected
  split
  · exact operate_step deviceId (h (by simp_all))
  · exact .refl

theorem connectStartupTargets_steps {deviceIds : List WString}
    (h : s.isSuspended = false → ok (.operation (.connect .startup true)))
    (hnew : s.isSuspended = false → ∀ deviceId ∈ deviceIds, new deviceId) :
    Steps p ok new s (s.connectStartupTargets p deviceIds) := by
  unfold connectStartupTargets
  split
  · exact .refl
  rename_i hgo
  have hsu : s.isSuspended = false := by simp_all
  refine foldl_steps fun t _ deviceId hmem => ?_
  split
  · exact .refl
  · exact (getOrCreateSession_steps fun _ => hnew hsu deviceId hmem).trans
      (operate_step deviceId (h hsu))

/-! The power tasks change `IsSuspended` first. -/

theorem capture_steps (h : ok (.operation .suspend))
    (hgo : ¬ (s.isShutdown = true ∨ s.isSuspended = true)) :
    Steps p ok new s.enterSuspension (s.capturePowerTransitionRecoveryAndSuspend p) := by
  unfold capturePowerTransitionRecoveryAndSuspend
  rw [if_neg hgo]
  refine .tail ?_ (.publish _ _)
  refine Steps.keep (forEachSession_steps fun _ deviceId _ => operate_step deviceId h) ?_ (.none rfl rfl)
  constructor <;> rfl

/-- The service when `Resume` has released it. -/
def released (s : DeviceService) : DeviceService :=
  { s with isSuspended := false, powerTransitionRecoveryEpochs := [] }

theorem resume_steps (h : ok (.operation .resume))
    (hgo : ¬ (s.isShutdown = true ∨ (!s.isSuspended) = true)) :
    Steps p ok new s.released (s.resume p) := by
  unfold resume
  rw [if_neg hgo]
  refine .tail (.trans ?_ (forEachSession_steps fun _ deviceId _ => operate_step deviceId h))
    (.publish _ _)
  dsimp only
  split
  · exact startWatcher_steps
  · exact .refl

theorem resumeAfterPowerTransition_steps (h : ok (.operation .resumeIdleAfterPowerTransition))
    (hgo : s.isShutdown = false) :
    Steps p ok new { s with isSuspended := false } (s.resumeAfterPowerTransition p) := by
  unfold resumeAfterPowerTransition
  rw [if_neg (by simp [hgo])]
  refine .tail ?_ (.publish _ _)
  have hwatch (watcher : Watcher) : Steps p ok new { s with isSuspended := false }
      ({ s with isSuspended := false, watcher := watcher }.startWatcher p) := by
    refine .head (.keep ?_ (.none (by rfl) (by rfl))) startWatcher_steps
    constructor <;> rfl
  have hstart (watcher : Watcher) : Steps p ok new { s with isSuspended := false }
      (if s.isRunning then { s with isSuspended := false, watcher := watcher }.startWatcher p
      else { s with isSuspended := false }) := by
    split
    · exact hwatch watcher
    · exact .refl
  dsimp only
  split
  · exact (hstart _).trans (forEachSession_steps fun _ deviceId _ => operate_step deviceId h)
  · exact hstart _

theorem resumeSuspendedSessions_steps {deviceIds : List WString}
    (h : s.isSuspended = false →
      ok (.operation .resume) ∧ ok (.operation .cancelPowerTransitionRecovery)) :
    Steps p ok new s (s.resumeSuspendedSessions p deviceIds) := by
  unfold resumeSuspendedSessions
  split
  · exact .refl
  rename_i hgo
  obtain ⟨hres, hcan⟩ := h (by simp_all)
  refine .tail (foldl_steps fun t _ deviceId _ => ?_) (.publish _ _)
  unfold resumeSuspendedSession
  split
  · exact .refl
  split
  · exact .refl
  refine Steps.keep (operate_step deviceId ?_) eraseRecovery_kept (.none rfl rfl)
  split
  · exact hres
  · exact hcan

theorem deviceAdded_steps {watcherGeneration : Nat} {device : DeviceIdentity}
    (h : ok (.operation (.rename device.name)))
    (hnew : s.watcher.accepts watcherGeneration = true → new device.id) :
    Steps p ok new s (s.callWatcher p (Watcher.onDeviceAdded watcherGeneration device)) := by
  refine callWatcher_steps fun fact hfact => ?_
  unfold Watcher.onDeviceAdded at hfact
  split at hfact
  · cases hfact
  rename_i hacc
  have hid := hnew (by simpa using hacc)
  rcases List.mem_cons.1 hfact with rfl | hfact
  · exact ⟨fun _ => ⟨hid, h⟩, fun hkind => nomatch hkind⟩
  · split at hfact
    · obtain rfl := List.mem_singleton.1 hfact
      exact ⟨fun hkind => (nomatch hkind), fun hkind => (nomatch hkind)⟩
    · cases hfact

theorem deviceRemoved_steps {watcherGeneration : Nat}
    (h : ok (.operation .handleDeviceRemoved)) :
    Steps p ok new s (s.callWatcher p (Watcher.onDeviceRemoved watcherGeneration deviceId)) := by
  refine callWatcher_steps fun fact hfact => ⟨fun hkind => ?_, fun _ => h⟩
  unfold Watcher.onDeviceRemoved at hfact
  split at hfact
  · cases hfact
  rcases List.mem_cons.1 hfact with rfl | hfact
  · cases hkind
  · split at hfact
    · obtain rfl := List.mem_singleton.1 hfact
      cases hkind
    · cases hfact

theorem enumerationCompleted_steps {watcherGeneration : Nat} :
    Steps p ok new s (s.callWatcher p (Watcher.onEnumerationCompleted watcherGeneration)) := by
  refine callWatcher_steps fun fact hfact => ?_
  unfold Watcher.onEnumerationCompleted at hfact
  split at hfact
  · cases hfact
  · rcases List.mem_pair.1 hfact with rfl | rfl <;>
      exact ⟨fun hkind => (nomatch hkind), fun hkind => (nomatch hkind)⟩

theorem refreshed_steps {watcherGeneration inventoryVersion : Nat}
    {inventory : List DeviceIdentity} :
    Steps p ok new s
      (s.callWatcher p (Watcher.onRefreshed watcherGeneration inventoryVersion inventory)) := by
  refine callWatcher_steps fun fact hfact => ?_
  unfold Watcher.onRefreshed at hfact
  dsimp only at hfact
  split at hfact
  · cases hfact
  split at hfact
  · cases hfact
  · obtain rfl := List.mem_singleton.1 hfact
    exact ⟨fun hkind => (nomatch hkind), fun hkind => (nomatch hkind)⟩

/-! A policy changes the flags first. -/

theorem applyFlags_steps {reconnectChanged incomingChanged : Bool}
    (h : ∀ enabled, ok (.operation (.setReconnectEnabled enabled)))
    (h' : incomingChanged = true → ok (.operation (.setIncomingEnabled s.isIncomingEnabled))) :
    Steps p ok new s (s.applyFlags p reconnectChanged incomingChanged deviceId) := by
  have hrec : Steps p ok new s
      (if reconnectChanged then
        s.operate p deviceId (.setReconnectEnabled (s.isReconnectEnabledFor deviceId))
      else s) := by
    split
    · exact operate_step deviceId (h _)
    · exact .refl
  unfold applyFlags
  dsimp only
  split
  · rename_i hin
    refine hrec.trans (operate_step deviceId ?_)
    rw [incoming_of_flags hrec.flags]
    exact h' hin
  · exact hrec

@[simp] theorem watcher_applyFlags {reconnectChanged incomingChanged : Bool} :
    (s.applyFlags p reconnectChanged incomingChanged deviceId).watcher = s.watcher := by
  unfold applyFlags operate
  cases reconnectChanged <;> cases incomingChanged <;> simp

theorem watcher_foldl {α : Type*} {body : DeviceService → α → DeviceService} {as : List α}
    (h : ∀ s a, (body s a).watcher = s.watcher) : (as.foldl body s).watcher = s.watcher := by
  induction as generalizing s with
  | nil => rfl
  | cons a as ih => exact ih.trans (h s a)

theorem applySettingsPolicy_steps {policy : DeviceSettingsPolicy} {stopRequested : Bool}
    (h : ∀ enabled, ok (.operation (.setReconnectEnabled enabled)))
    (h' : s.incomingChanged policy = true →
      ok (.operation (.setIncomingEnabled policy.allowIncomingConnections)))
    (hnew : s.incomingChanged policy = true → policy.allowIncomingConnections = true →
      ∀ device ∈ s.watcher.snapshot.devices, new device.id)
    (hgo : s.acceptsPolicy policy stopRequested = true) :
    Steps p ok new (s.adoptPolicy policy) (s.applySettingsPolicy p policy stopRequested) := by
  unfold applySettingsPolicy
  rw [if_neg (by simp [hgo])]
  dsimp only
  have hflags : Steps p ok new (s.adoptPolicy policy)
      ((s.adoptPolicy policy).forEachSession
        (applyFlags p (s.reconnectChanged policy) (s.incomingChanged policy))) :=
    forEachSession_steps fun t deviceId ht => applyFlags_steps h fun hin => by
      rw [incoming_of_flags ht]
      exact h' hin
  split
  · rename_i hin
    refine hflags.trans (foldl_steps fun t _ device hdevice => getOrCreateSession_steps fun _ => ?_)
    have hallow : policy.allowIncomingConnections = true := by
      rw [incoming_of_flags hflags.flags] at hin
      exact hin.2
    rw [forEachSession, watcher_foldl fun s _ => watcher_applyFlags] at hdevice
    exact hnew hin.1 hallow device hdevice
  · exact hflags

end

end DeviceService

/-! ## All tasks at once -/

namespace ServiceTask

/-- The events of sessions that a task performs, in the state that it finds. -/
def performs (s : DeviceService) : ServiceTask → Event → Prop
  | connect _, e | reconnect _, e | connectStartupTargets _, e | reconnectAll, e =>
    s.isSuspended = false ∧ ∃ operation, e = .operation (.connect operation true)
  | disconnect _, e | disconnectAll, e => ∃ restore, e = .operation (.disconnect restore)
  | cancelReconnect _, e | cancelPendingReconnects, e => e = .operation .cancelReconnect
  | cancelOperation _, e =>
    e = .operation .cancelReconnect ∨ ∃ restore, e = .operation (.disconnect restore)
  | applySettingsPolicy policy _, e =>
    (∃ enabled, e = .operation (.setReconnectEnabled enabled)) ∨
      s.incomingChanged policy = true ∧
        e = .operation (.setIncomingEnabled policy.allowIncomingConnections)
  | suspend, e | suspendForPowerTransition, e => e = .operation .suspend
  | resume, e => e = .operation .resume
  | resumeAfterPowerTransition, e => e = .operation .resumeIdleAfterPowerTransition
  | resumeSuspendedSessions _, e =>
    s.isSuspended = false ∧
      (e = .operation .resume ∨ e = .operation .cancelPowerTransitionRecovery)
  | deviceAdded _ device, e => e = .operation (.rename device.name)
  | deviceRemoved _ _, e => e = .operation .handleDeviceRemoved
  | callback _ event, e => e = event
  | _, _ => False

/-- The devices for which a task creates sessions, in the state that it finds. -/
def creates (s : DeviceService) : ServiceTask → WString → Prop
  | connect device, deviceId | disconnect device, deviceId | reconnect device, deviceId =>
    s.isSuspended = false ∧ deviceId = device
  | connectStartupTargets devices, deviceId => s.isSuspended = false ∧ deviceId ∈ devices
  | applySettingsPolicy policy _, deviceId =>
    s.incomingChanged policy = true ∧ policy.allowIncomingConnections = true ∧
      deviceId ∈ s.watcher.snapshot.devices.map (·.id)
  | deviceAdded watcherGeneration device, deviceId =>
    s.watcher.accepts watcherGeneration = true ∧ deviceId = device.id
  | _, _ => False

/-- What a task does to the service before its first step. -/
def prepare (s : DeviceService) : ServiceTask → DeviceService
  | subscribe => s.subscribe
  | unsubscribe subscription => s.unsubscribe subscription
  | applySettingsPolicy policy stopRequested =>
    if s.acceptsPolicy policy stopRequested then s.adoptPolicy policy else s
  | suspend | suspendForPowerTransition =>
    if s.isShutdown ∨ s.isSuspended then s else s.enterSuspension
  | resume => if s.isShutdown ∨ !s.isSuspended then s else s.released
  | resumeAfterPowerTransition => if s.isShutdown then s else { s with isSuspended := false }
  | _ => s

end ServiceTask

namespace DeviceService

variable {p : ServicePlatform} {s t : DeviceService} {task : ServiceTask}

theorem sessions_prepare : (task.prepare s).sessions = s.sessions := by
  unfold ServiceTask.prepare subscribe unsubscribe
  repeat' split
  all_goals rfl

theorem ids_prepare : (task.prepare s).ids = s.ids :=
  congrArg (List.map Prod.fst) sessions_prepare

theorem shutdown_prepare : (task.prepare s).isShutdown = s.isShutdown := by
  unfold ServiceTask.prepare subscribe unsubscribe
  repeat' split
  all_goals rfl

theorem suspend_steps {ok : Event → Prop} {new : WString → Prop} (h : ok (.operation .suspend)) :
    Steps p ok new (ServiceTask.prepare s .suspend)
      (s.capturePowerTransitionRecoveryAndSuspend p) := by
  by_cases hgo : s.isShutdown = true ∨ s.isSuspended = true
  · have hprep : ServiceTask.prepare s .suspend = s := if_pos hgo
    have hrun : s.capturePowerTransitionRecoveryAndSuspend p = s := if_pos hgo
    rw [hprep, hrun]
  · have hprep : ServiceTask.prepare s .suspend = s.enterSuspension := if_neg hgo
    rw [hprep]
    exact capture_steps h hgo

theorem creates_prepare : (task.prepare s).ledger.creates = s.ledger.creates := by
  unfold ServiceTask.prepare subscribe unsubscribe
  repeat' split
  all_goals rfl

/-- Every task but the last one is a sequence of steps, once it has prepared the service. -/
theorem run_steps (hen : (deviceService p).enabled s task) (hne : task ≠ .shutdown) :
    Steps p (task.performs s) (task.creates s) (task.prepare s) (s.run p task) := by
  cases task with
  | shutdown => exact absurd rfl hne
  | subscribe | unsubscribe => exact .refl
  | start => exact start_steps
  | stop => exact stop_steps
  | connect deviceId => exact connect_steps (fun h => ⟨h, _, rfl⟩) fun h => ⟨h, rfl⟩
  | disconnect deviceId => exact disconnect_steps (fun restore => ⟨restore, rfl⟩) fun h => ⟨h, rfl⟩
  | reconnect deviceId => exact reconnect_steps (fun h => ⟨h, _, rfl⟩) fun h => ⟨h, rfl⟩
  | cancelReconnect deviceId => exact cancelReconnect_steps rfl
  | cancelPendingReconnects => exact cancelPendingReconnects_steps rfl
  | disconnectAll => exact disconnectAll_steps fun restore => ⟨restore, rfl⟩
  | reconnectAll => exact reconnectAll_steps fun h => ⟨h, _, rfl⟩
  | connectStartupTargets deviceIds =>
    exact connectStartupTargets_steps (fun h => ⟨h, _, rfl⟩) fun h _ hmem => ⟨h, hmem⟩
  | resumeSuspendedSessions deviceIds =>
    exact resumeSuspendedSessions_steps fun h => ⟨⟨h, .inl rfl⟩, ⟨h, .inr rfl⟩⟩
  | cancelOperation operation =>
    exact cancelOperation_steps (.inl rfl) fun restore => .inr ⟨restore, rfl⟩
  | deviceAdded watcherGeneration device => exact deviceAdded_steps rfl fun h => ⟨h, rfl⟩
  | deviceRemoved watcherGeneration deviceId => exact deviceRemoved_steps rfl
  | enumerationCompleted watcherGeneration => exact enumerationCompleted_steps
  | refreshed watcherGeneration inventoryVersion inventory => exact refreshed_steps
  | applySettingsPolicy policy stopRequested =>
    cases hgo : s.acceptsPolicy policy stopRequested with
    | true =>
      have hprep : ServiceTask.prepare s (.applySettingsPolicy policy stopRequested) =
          s.adoptPolicy policy := if_pos hgo
      rw [hprep]
      refine applySettingsPolicy_steps (fun enabled => .inl ⟨enabled, rfl⟩) (fun h => .inr ⟨h, rfl⟩)
        (fun h hallow device hdevice => ⟨h, hallow, ?_⟩) hgo
      exact List.mem_map.2 ⟨device, hdevice, rfl⟩
    | false =>
      have hprep : ServiceTask.prepare s (.applySettingsPolicy policy stopRequested) = s :=
        if_neg (by simp [hgo])
      have hrun : s.run p (.applySettingsPolicy policy stopRequested) = s :=
        if_pos (by simp [hgo])
      rw [hprep, hrun]
  | suspend => exact suspend_steps rfl
  | suspendForPowerTransition =>
    have hcapture : Steps p (ServiceTask.performs s .suspend) (ServiceTask.creates s .suspend)
        (ServiceTask.prepare s .suspend) (s.capturePowerTransitionRecoveryAndSuspend p) :=
      suspend_steps rfl
    refine hcapture.keep ?_ (.none rfl rfl)
    constructor <;> rfl
  | resume =>
    by_cases hgo : s.isShutdown = true ∨ (!s.isSuspended) = true
    · have hprep : ServiceTask.prepare s .resume = s := if_pos hgo
      have hrun : s.run p .resume = s := if_pos hgo
      rw [hprep, hrun]
    · have hprep : ServiceTask.prepare s .resume = s.released := if_neg hgo
      rw [hprep]
      exact resume_steps rfl hgo
  | resumeAfterPowerTransition =>
    cases hgo : s.isShutdown with
    | true =>
      have hprep : ServiceTask.prepare s .resumeAfterPowerTransition = s := if_pos hgo
      have hrun : s.run p .resumeAfterPowerTransition = s := if_pos hgo
      rw [hprep, hrun]
    | false =>
      have hprep : ServiceTask.prepare s .resumeAfterPowerTransition =
          { s with isSuspended := false } := if_neg (by simp [hgo])
      rw [hprep]
      exact resumeAfterPowerTransition_steps rfl hgo
  | callback deviceId event =>
    refine .single (.act deviceId event rfl fun x hx => ?_)
    have hfind : s.find deviceId = some x := hx
    have hcall := hen.2
    rw [hfind] at hcall
    exact of_decide_eq_true hcall

end DeviceService

end PlaybackConnector
