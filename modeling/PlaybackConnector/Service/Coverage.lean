import PlaybackConnector.Service.Inventory
import PlaybackConnector.Service.Policy

/-!
# Incoming connections cover the inventory

While the service allows incoming connections, every device of the inventory is to have a session
that listens. Added devices and the first policy that allows them create the sessions; a refresh
publishes only that the inventory has changed, for which the service creates none. So the inventory
is covered in every state of a run if and only if every refresh lists devices that have sessions
(`incoming_covers_inventory`).
-/

namespace PlaybackConnector

/-! ## The devices that the watcher lists -/

namespace Watcher

variable {w : Watcher} {deviceId : WString} {devices inventory : List DeviceIdentity}

/-- The ids of the devices of the inventory. -/
def listed (w : Watcher) : List WString := w.snapshot.devices.map DeviceIdentity.id

theorem mem_listed :
    deviceId ∈ w.listed ↔ w.isShutdown = false ∧ deviceId ∈ w.devices.map DeviceIdentity.id := by
  unfold listed snapshot
  split
  · next h => simp [h]
  · next h => simp [h, buildSnapshot]

theorem mem_ids_foldl (deviceId) (inventory devices : List DeviceIdentity) :
    deviceId ∈ (inventory.foldl (fun devices device => assign device devices) devices).map
        DeviceIdentity.id ↔
      deviceId ∈ inventory.map DeviceIdentity.id ∨ deviceId ∈ devices.map DeviceIdentity.id := by
  induction inventory generalizing devices with
  | nil => simp
  | cons device inventory ih =>
    rw [List.foldl_cons, ih, WatchedInventory.mem_ids_assign, List.map_cons, List.mem_cons]
    exact or_left_comm.trans or_assoc.symm

theorem start_narrows {registers : Bool} (h : deviceId ∈ (w.start registers).1.listed) :
    deviceId ∈ w.listed := by
  unfold start at h
  split at h
  · exact h
  · split at h <;> exact absurd (mem_listed.1 h).2 List.not_mem_nil

theorem stop_narrows (h : deviceId ∈ w.stop.listed) : deviceId ∈ w.listed := by
  unfold stop at h
  split at h
  · exact h
  · obtain ⟨hlive, hmem⟩ := mem_listed.1 h
    exact mem_listed.2 ⟨hlive, hmem⟩

theorem removed_narrows {watcherGeneration : Nat} {removed : WString}
    (h : deviceId ∈ (w.onDeviceRemoved watcherGeneration removed).1.listed) :
    deviceId ∈ w.listed := by
  unfold onDeviceRemoved at h
  split at h
  · exact h
  · obtain ⟨hlive, hmem⟩ := mem_listed.1 h
    exact mem_listed.2 ⟨hlive, (List.filter_sublist.map DeviceIdentity.id).subset hmem⟩

theorem completed_narrows {watcherGeneration : Nat}
    (h : deviceId ∈ (w.onEnumerationCompleted watcherGeneration).1.listed) :
    deviceId ∈ w.listed := by
  unfold onEnumerationCompleted at h
  split at h
  · exact h
  · obtain ⟨hlive, hmem⟩ := mem_listed.1 h
    exact mem_listed.2 ⟨hlive, hmem⟩

theorem added_refused {watcherGeneration : Nat} {device : DeviceIdentity}
    (h : w.accepts watcherGeneration = false) :
    w.onDeviceAdded watcherGeneration device = (w, []) :=
  if_pos (by simp [h])

theorem mem_listed_added {watcherGeneration : Nat} {device : DeviceIdentity}
    (h : w.accepts watcherGeneration = true) :
    deviceId ∈ (w.onDeviceAdded watcherGeneration device).1.listed ↔
      deviceId = device.id ∨ deviceId ∈ w.listed := by
  have hlive : w.isShutdown = false := WatchedInventory.accepts_running h
  unfold onDeviceAdded
  rw [if_neg (by simp [h]), mem_listed, mem_listed, WatchedInventory.mem_ids_assign]
  simp [hlive]

/-- The fences of a refresh let it pass. Source: `DeviceWatcher.cpp:347`. -/
def admits (watcherGeneration inventoryVersion : Nat) (w : Watcher) : Prop :=
  w.isShutdown = false ∧ watcherGeneration = w.watcherGeneration ∧
    inventoryVersion = w.inventoryVersion

theorem refresh_refused {watcherGeneration inventoryVersion : Nat}
    (h : ¬ w.admits watcherGeneration inventoryVersion) :
    w.onRefreshed watcherGeneration inventoryVersion inventory = (w, []) := by
  refine if_pos ?_
  by_contra hfence
  simp only [not_or, Bool.not_eq_true, not_not] at hfence
  exact h hfence

/-- A refresh leaves the devices that it found, also where it changes nothing. -/
theorem mem_listed_refreshed {watcherGeneration inventoryVersion : Nat}
    (h : w.admits watcherGeneration inventoryVersion) :
    deviceId ∈ (w.onRefreshed watcherGeneration inventoryVersion inventory).1.listed ↔
      deviceId ∈ inventory.map DeviceIdentity.id := by
  obtain ⟨hlive, hgeneration, hversion⟩ := h
  have hids := mem_ids_foldl deviceId inventory []
  unfold onRefreshed
  rw [if_neg (by simp [hlive, hgeneration, hversion])]
  split
  · next hsame =>
    rw [mem_listed, (hsame.1.map DeviceIdentity.id).mem_iff, hids]
    simp [hlive]
  · rw [mem_listed, hids]
    simp [hlive]

end Watcher

namespace DeviceService

variable {p : ServicePlatform} {s t : DeviceService} {deviceId : WString} {x : Session}
  {task : ServiceTask} {device : DeviceIdentity}

/-! ## The watcher that a task leaves -/

@[simp] theorem watcher_operate {operation : Operation} :
    (s.operate p deviceId operation).watcher = s.watcher := watcher_act

@[simp] theorem watcher_publish {kind : DeviceFactKind} :
    (s.publish kind deviceId).watcher = s.watcher := rfl

@[simp] theorem watcher_result {command : DeviceCommandKind} {kind : DeviceCommandResultKind} :
    (s.result command kind deviceId).watcher = s.watcher := rfl

@[simp] theorem watcher_eraseRecovery : (s.eraseRecovery deviceId).watcher = s.watcher := rfl

@[simp] theorem watcher_getOrCreateSession :
    (s.getOrCreateSession p deviceId).watcher = s.watcher := by
  unfold getOrCreateSession configure
  dsimp only
  split
  · split <;> simp [emplace]
  · rfl

@[simp] theorem watcher_request {command : DeviceCommandKind} {operation : DeviceOperationKind} :
    (s.request p command operation deviceId x).watcher = s.watcher := by
  simp [request]

theorem watcher_forEachSession (body : WString → DeviceService → DeviceService)
    (h : ∀ s deviceId, (body deviceId s).watcher = s.watcher) :
    (s.forEachSession body).watcher = s.watcher :=
  watcher_foldl h

@[simp] theorem watcher_onWatcherFact {fact : DeviceWatcherFact} :
    (s.onWatcherFact p fact).watcher = s.watcher := by
  unfold onWatcherFact
  split
  · rfl
  · cases fact.kind with
    | deviceAdded =>
      dsimp only
      split <;> simp
    | deviceRemoved | enumerationCompleted | inventoryChanged => simp

@[simp] theorem watcher_callWatcher {call : Watcher → Watcher × List DeviceWatcherFact} :
    (s.callWatcher p call).watcher = (call s.watcher).1 :=
  watcher_foldl fun _ _ => watcher_onWatcherFact

@[simp] theorem watcher_startWatcher :
    (s.startWatcher p).watcher = (s.watcher.start (p.registers s.ledger.registrations)).1 := by
  unfold startWatcher
  exact watcher_callWatcher

theorem watcher_cancelSessionOperation {operationEpoch : Nat} :
    (s.cancelSessionOperation p deviceId operationEpoch).watcher = s.watcher := by
  unfold cancelSessionOperation
  split <;> simp

theorem watcher_resumeSuspendedSession :
    (s.resumeSuspendedSession p deviceId).watcher = s.watcher := by
  unfold resumeSuspendedSession
  split
  · rfl
  · split <;> simp

theorem watcher_createInventorySessions : (s.createInventorySessions p).watcher = s.watcher :=
  watcher_foldl fun _ _ => watcher_getOrCreateSession

theorem watcher_applySettingsPolicy {policy : DeviceSettingsPolicy} {stopRequested : Bool} :
    (s.applySettingsPolicy p policy stopRequested).watcher = s.watcher := by
  have hloop : ((s.adoptPolicy policy).forEachSession (applyFlags p (s.reconnectChanged policy)
      (s.incomingChanged policy))).watcher = s.watcher :=
    watcher_forEachSession _ fun _ _ => watcher_applyFlags
  unfold applySettingsPolicy
  split
  · rfl
  · dsimp only
    split
    · exact watcher_createInventorySessions.trans hloop
    · exact hloop

/-- A loop of operations leaves the watcher as it is. -/
theorem watcher_operateAll (operation : DeviceService → Operation) :
    (s.forEachSession fun deviceId s => s.operate p deviceId (operation s)).watcher = s.watcher :=
  watcher_forEachSession _ fun _ _ => watcher_operate

theorem capture_narrows (h : deviceId ∈ (s.capturePowerTransitionRecoveryAndSuspend p).watcher.listed) :
    deviceId ∈ s.watcher.listed := by
  unfold capturePowerTransitionRecoveryAndSuspend at h
  split at h
  · exact h
  · have hloop : (s.enterSuspension.forEachSession fun deviceId s =>
        s.operate p deviceId .suspend).watcher = s.watcher.stop :=
      watcher_operateAll (fun _ => .suspend)
    refine Watcher.stop_narrows ?_
    rw [← hloop]
    exact h

theorem watcher_connect : (s.connect p deviceId).watcher = s.watcher := by
  unfold connect
  dsimp only
  repeat' split
  all_goals simp

theorem watcher_reconnect : (s.reconnect p deviceId).watcher = s.watcher := by
  unfold reconnect
  dsimp only
  repeat' split
  all_goals simp

theorem watcher_disconnect : (s.disconnect p deviceId).watcher = s.watcher := by
  unfold disconnect
  dsimp only
  repeat' split
  all_goals simp

theorem watcher_cancelReconnect : (s.cancelReconnect p deviceId).watcher = s.watcher := by
  unfold cancelReconnect
  repeat' split
  all_goals simp

theorem watcher_cancelOperation {operation : Nat} :
    (s.cancelOperation p operation).watcher = s.watcher := by
  unfold cancelOperation
  split
  · rfl
  · split
    · rfl
    · exact watcher_cancelSessionOperation

theorem watcher_cancelPendingReconnects : (s.cancelPendingReconnects p).watcher = s.watcher := by
  unfold cancelPendingReconnects
  split
  · rfl
  · exact watcher_operateAll (fun _ => .cancelReconnect)

theorem watcher_disconnectAll : (s.disconnectAll p).watcher = s.watcher := by
  unfold disconnectAll
  split
  · rfl
  · exact watcher_operateAll (fun s => .disconnect s.isIncomingEnabled)

theorem watcher_reconnectAll : (s.reconnectAll p).watcher = s.watcher := by
  unfold reconnectAll
  split
  · rfl
  · refine watcher_forEachSession (reconnectConnected p) fun s deviceId => ?_
    unfold reconnectConnected
    split <;> simp

theorem watcher_connectStartupTargets {deviceIds : List WString} :
    (s.connectStartupTargets p deviceIds).watcher = s.watcher := by
  unfold connectStartupTargets
  split
  · rfl
  · refine watcher_foldl fun s deviceId => ?_
    split <;> simp

theorem watcher_resumeSuspendedSessions {deviceIds : List WString} :
    (s.resumeSuspendedSessions p deviceIds).watcher = s.watcher := by
  unfold resumeSuspendedSessions
  split
  · rfl
  · exact watcher_foldl fun _ _ => watcher_resumeSuspendedSession

theorem resume_narrows (h : deviceId ∈ (s.resume p).watcher.listed) :
    deviceId ∈ s.watcher.listed := by
  unfold resume at h
  split at h
  · exact h
  · rw [watcher_publish, watcher_operateAll (fun _ => .resume)] at h
    split at h
    · exact Watcher.start_narrows (by simpa using h)
    · exact h

theorem resumeAfterPowerTransition_narrows
    (h : deviceId ∈ (s.resumeAfterPowerTransition p).watcher.listed) :
    deviceId ∈ s.watcher.listed := by
  unfold resumeAfterPowerTransition at h
  split at h
  · exact h
  rw [watcher_publish] at h
  have hstarted (watcher : Watcher) (hmem : deviceId ∈
      ({ s with isSuspended := false, watcher := watcher }.startWatcher p).watcher.listed) :
      deviceId ∈ watcher.listed :=
    Watcher.start_narrows (by simpa using hmem)
  dsimp only at h
  split at h
  · rw [watcher_operateAll (fun _ => .resumeIdleAfterPowerTransition)] at h
    split at h
    · exact hstarted s.watcher h
    · exact h
  · split at h
    · exact Watcher.stop_narrows (hstarted s.watcher.stop h)
    · exact h

/-- Only an added device and a refresh bring devices into the inventory. -/
theorem run_narrows (hadd : ∀ watcherGeneration device, task ≠ .deviceAdded watcherGeneration device)
    (hrefresh : ∀ watcherGeneration inventoryVersion inventory,
      task ≠ .refreshed watcherGeneration inventoryVersion inventory) (hshut : task ≠ .shutdown)
    (h : deviceId ∈ (s.run p task).watcher.listed) : deviceId ∈ s.watcher.listed := by
  have hsame (hwatcher : (s.run p task).watcher = s.watcher) : deviceId ∈ s.watcher.listed :=
    hwatcher ▸ h
  cases task with
  | shutdown => exact absurd rfl hshut
  | deviceAdded watcherGeneration device => exact absurd rfl (hadd _ _)
  | refreshed watcherGeneration inventoryVersion inventory => exact absurd rfl (hrefresh _ _ _)
  | subscribe =>
    simp only [run, subscribe] at h
    split at h <;> exact h
  | unsubscribe subscription =>
    simp only [run, unsubscribe] at h
    split at h <;> exact h
  | start =>
    simp only [run, start] at h
    split at h
    · exact h
    · split at h
      · exact h
      · exact Watcher.start_narrows (by simpa using h)
  | stop =>
    simp only [run, stop] at h
    split at h
    · exact h
    · split at h
      · exact h
      · exact Watcher.stop_narrows h
  | connect => exact hsame watcher_connect
  | disconnect => exact hsame watcher_disconnect
  | reconnect => exact hsame watcher_reconnect
  | cancelReconnect => exact hsame watcher_cancelReconnect
  | cancelPendingReconnects => exact hsame watcher_cancelPendingReconnects
  | disconnectAll => exact hsame watcher_disconnectAll
  | reconnectAll => exact hsame watcher_reconnectAll
  | applySettingsPolicy => exact hsame watcher_applySettingsPolicy
  | connectStartupTargets => exact hsame watcher_connectStartupTargets
  | resumeSuspendedSessions => exact hsame watcher_resumeSuspendedSessions
  | cancelOperation => exact hsame watcher_cancelOperation
  | callback => exact hsame watcher_act
  | suspend | suspendForPowerTransition => exact capture_narrows h
  | resume => exact resume_narrows h
  | resumeAfterPowerTransition => exact resumeAfterPowerTransition_narrows h
  | deviceRemoved watcherGeneration removed =>
    exact Watcher.removed_narrows (by simpa [run] using h)
  | enumerationCompleted watcherGeneration =>
    exact Watcher.completed_narrows (by simpa [run] using h)

/-! ## The sessions that a task leaves -/

@[simp] theorem ids_configure : (s.configure p deviceId).ids = s.ids := by
  unfold configure operate
  dsimp only
  split <;> simp

theorem ids_emplace : (s.emplace deviceId).ids = s.ids ++ [deviceId] := by
  simp [ids, emplace]

section
variable {ok : Event → Prop} {new : WString → Prop}

theorem Step.ids_subset (h : Step p ok new s t) : s.ids ⊆ t.ids := by
  cases h with
  | act | listen => exact fun _ hmem => by simpa [operate] using hmem
  | request _ operation deviceId =>
    have hids : (s.act p deviceId (.operation (.connect operation true))).ids = s.ids := ids_act
    exact fun _ hmem => by rwa [← hids] at hmem
  | create deviceId hcr =>
    intro id hmem
    rw [ids_configure, ids_emplace]
    exact List.mem_append_left _ hmem
  | publish => exact fun _ hmem => hmem
  | keep hk => exact fun _ hmem => by rwa [ids, hk.sessions]

theorem Steps.ids_subset (h : Steps p ok new s t) : s.ids ⊆ t.ids := by
  induction h with
  | refl => exact fun _ hmem => hmem
  | tail _ hstep ih => exact fun _ hmem => hstep.ids_subset (ih hmem)

/-- Where no session is created, the ids stay as they are. -/
theorem Steps.ids_eq (h : Steps p ok new s t) (hnew : ∀ deviceId, ¬ new deviceId) :
    t.ids = s.ids := by
  induction h with
  | refl => rfl
  | tail _ hstep ih =>
    refine Eq.trans ?_ ih
    cases hstep with
    | act | listen | request => exact ids_act
    | create deviceId _ hallowed => exact absurd hallowed (hnew deviceId)
    | publish => rfl
    | keep hk => rw [ids, hk.sessions, ids]

end

/-- No task but the last takes a session away. -/
theorem run_ids (hen : (deviceService p).enabled s task) (hne : task ≠ .shutdown) :
    s.ids ⊆ (s.run p task).ids := by
  have hids := (run_steps hen hne).ids_subset
  rwa [ids_prepare] at hids

theorem mem_getOrCreateSession (hid : deviceId ≠ []) (hlive : s.isShutdown = false) :
    deviceId ∈ (s.getOrCreateSession p deviceId).ids := by
  unfold getOrCreateSession
  split
  · rw [ids_configure, ids_emplace]
    exact List.mem_append_right _ (List.mem_singleton_self _)
  · next hcr =>
    by_contra hnew
    exact hcr (creates_iff.2 ⟨hid, hlive, hnew⟩)

theorem getOrCreateSession_all : Steps p (fun _ => False) (fun _ => True) s
    (s.getOrCreateSession p deviceId) :=
  getOrCreateSession_steps fun _ => trivial

theorem mem_createSessions {devices : List DeviceIdentity} (hlive : s.isShutdown = false)
    {device : DeviceIdentity} (hmem : device ∈ devices) (hid : device.id ≠ []) :
    device.id ∈ (devices.foldl (fun s device => s.getOrCreateSession p device.id) s).ids := by
  induction devices generalizing s with
  | nil => cases hmem
  | cons first rest ih =>
    have hrest : Steps p (fun _ => False) (fun _ => True) (s.getOrCreateSession p first.id)
        (rest.foldl (fun s device => s.getOrCreateSession p device.id)
          (s.getOrCreateSession p first.id)) :=
      foldl_steps fun _ _ _ _ => getOrCreateSession_all
    have hflags : (s.getOrCreateSession p first.id).flags = s.flags := getOrCreateSession_all.flags
    rcases List.mem_cons.1 hmem with rfl | hmem
    · exact hrest.ids_subset (mem_getOrCreateSession hid hlive)
    · exact ih ((shutdown_of_flags hflags).trans hlive) hmem

/-- An added device has a session. -/
theorem mem_deviceAdded {watcherGeneration : Nat} (hlive : s.isShutdown = false)
    (haccepts : s.watcher.accepts watcherGeneration = true) (hid : device.id ≠ []) :
    device.id ∈ (s.run p (.deviceAdded watcherGeneration device)).ids := by
  have hadded : ∃ facts, (s.watcher.onDeviceAdded watcherGeneration device).2 =
      (s.watcher.onDeviceAdded watcherGeneration device).1.fact .deviceAdded device.id device.name ::
        facts := by
    unfold Watcher.onDeviceAdded
    rw [if_neg (by simp [haccepts])]
    exact ⟨_, rfl⟩
  obtain ⟨facts, hfacts⟩ := hadded
  let added := (s.watcher.onDeviceAdded watcherGeneration device).1.fact .deviceAdded device.id
    device.name
  let start : DeviceService :=
    { s with watcher := (s.watcher.onDeviceAdded watcherGeneration device).1 }
  have hrun : s.run p (.deviceAdded watcherGeneration device) =
      facts.foldl (fun s fact => s.onWatcherFact p fact) (start.onWatcherFact p added) := by
    change s.callWatcher p (Watcher.onDeviceAdded watcherGeneration device) = _
    unfold callWatcher
    rw [hfacts]
    rfl
  have hrest : Steps p (fun _ => True) (fun _ => True) (start.onWatcherFact p added)
      (facts.foldl (fun s fact => s.onWatcherFact p fact) (start.onWatcherFact p added)) :=
    foldl_steps fun _ _ _ _ =>
      onWatcherFact_steps (fun _ => ⟨trivial, trivial⟩) fun _ => trivial
  rw [hrun]
  refine hrest.ids_subset ?_
  have hget : device.id ∈ (start.getOrCreateSession p device.id).ids :=
    mem_getOrCreateSession hid hlive
  have hfact : start.onWatcherFact p added =
      (let s := (start.getOrCreateSession p device.id).operate p device.id (.rename device.name)
      (if s.isIncomingEnabled then s.operate p device.id (.setIncomingEnabled true) else s).publish
        .inventoryChanged device.id) :=
    if_neg (by simp [start, hlive])
  have hnamed : Steps p (fun _ => True) (fun _ => True) (start.getOrCreateSession p device.id)
      (start.onWatcherFact p added) := by
    rw [hfact]
    exact .tail ((operate_step device.id trivial).trans (listen_steps device.id)) (.publish _ _)
  exact hnamed.ids_subset hget

/-! ## The inventory is covered -/

/-- While the service runs and allows incoming connections, every device of the inventory has a
session that listens. -/
def Covered (s : DeviceService) : Prop :=
  s.isShutdown = false → s.isIncomingEnabled = true → ∀ device ∈ s.watcher.snapshot.devices,
    ∃ session, s.find device.id = some session ∧ session.isIncomingEnabled = true

theorem covered_iff (hs : s.Inv) (hagree : s.Agrees) : s.Covered ↔
    (s.isShutdown = false → s.isIncomingEnabled = true →
      ∀ deviceId ∈ s.watcher.listed, deviceId ∈ s.ids) := by
  refine forall_congr' fun _ => forall_congr' fun hin => ?_
  constructor
  · intro h deviceId hlisted
    obtain ⟨device, hmem, rfl⟩ := List.mem_map.1 hlisted
    obtain ⟨session, hfind, -⟩ := h device hmem
    exact List.mem_map_of_mem (mem_of_find hfind)
  · intro h device hmem
    obtain ⟨entry, hentry, hid⟩ := List.mem_map.1 (h device.id (List.mem_map_of_mem hmem))
    refine ⟨entry.2, ?_, (hagree entry hentry).2.trans hin⟩
    rw [← hid]
    exact find_of_mem hs.nodup hentry

/-- The devices that a task lists have sessions, or get them: no device is without an id, and a
refresh finds sessions for all that it lists. -/
def Covers (s : DeviceService) : ServiceTask → Prop
  | .deviceAdded watcherGeneration device =>
    s.isShutdown = false → s.isIncomingEnabled = true →
      s.watcher.accepts watcherGeneration = true → device.id ≠ []
  | .refreshed watcherGeneration inventoryVersion inventory =>
    s.isShutdown = false → s.isIncomingEnabled = true →
      s.watcher.admits watcherGeneration inventoryVersion →
        ∀ device ∈ inventory, device.id ∈ s.ids
  | .applySettingsPolicy policy stopRequested =>
    s.acceptsPolicy policy stopRequested = true → policy.allowIncomingConnections = true →
      ∀ device ∈ s.watcher.snapshot.devices, device.id ≠ []
  | _ => True

theorem covered_of_shutdown (h : s.isShutdown = true) : s.Covered :=
  fun hlive => absurd (h.symm.trans hlive) (by simp)

theorem covered_initial : initial.Covered := fun _ hin => absurd hin (by simp [initial])

/-- What the service and the sessions keep to between the tasks. -/
structure Settled (s : DeviceService) : Prop where
  inv : s.Inv
  agrees : s.Agrees
  covered : s.Covered

theorem Settled.ids (h : s.Settled) (hlive : s.isShutdown = false)
    (hin : s.isIncomingEnabled = true) (hlisted : deviceId ∈ s.watcher.listed) : deviceId ∈ s.ids :=
  (covered_iff h.inv h.agrees).1 h.covered hlive hin deviceId hlisted

theorem Inv.named (hs : s.Inv) (h : deviceId ∈ s.ids) : deviceId ≠ [] := by
  obtain ⟨entry, hentry, rfl⟩ := List.mem_map.1 h
  exact (hs.owned entry hentry).named

/-- A task that lists no further device leaves the inventory covered. -/
theorem covered_of_narrows (hs : s.Settled) (hen : (deviceService p).enabled s task)
    (hne : task ≠ .shutdown)
    (hin : (s.run p task).isIncomingEnabled = true → s.isIncomingEnabled = true)
    (hlisted : ∀ deviceId ∈ (s.run p task).watcher.listed, deviceId ∈ s.watcher.listed) :
    (s.run p task).Covered := by
  refine (covered_iff (run_inv hen hs.inv) (run_agrees hen hs.inv hs.agrees)).2 ?_
  intro hlive hincoming deviceId hmem
  rw [shutdown_run hen hne] at hlive
  exact run_ids hen hne (hs.ids hlive (hin hincoming) (hlisted deviceId hmem))

theorem deviceAdded_covered {watcherGeneration : Nat} (hs : s.Settled)
    (hen : (deviceService p).enabled s (.deviceAdded watcherGeneration device)) :
    (s.run p (.deviceAdded watcherGeneration device)).Covered ↔
      Covers s (.deviceAdded watcherGeneration device) := by
  have hinv := run_inv hen hs.inv
  have hset := run_settings hen (by simp)
  have hin : (s.run p (.deviceAdded watcherGeneration device)).isIncomingEnabled =
      s.isIncomingEnabled := congrArg AppliedSettings.isIncomingEnabled hset
  have hwatcher : (s.run p (.deviceAdded watcherGeneration device)).watcher =
      (s.watcher.onDeviceAdded watcherGeneration device).1 := watcher_callWatcher
  rw [covered_iff hinv (run_agrees hen hs.inv hs.agrees), shutdown_run hen (by simp), hin, hwatcher]
  refine forall_congr' fun hlive => forall_congr' fun hincoming => ?_
  constructor
  · intro h haccepts
    exact hinv.named (h device.id ((Watcher.mem_listed_added haccepts).2 (.inl rfl)))
  · intro h deviceId hlisted
    cases haccepts : s.watcher.accepts watcherGeneration with
    | false =>
      rw [Watcher.added_refused haccepts] at hlisted
      exact run_ids hen (by simp) (hs.ids hlive hincoming hlisted)
    | true =>
      rcases (Watcher.mem_listed_added haccepts).1 hlisted with rfl | hlisted
      · exact mem_deviceAdded hlive haccepts (h haccepts)
      · exact run_ids hen (by simp) (hs.ids hlive hincoming hlisted)

/-- A refresh creates no session. -/
theorem ids_refreshed {watcherGeneration inventoryVersion : Nat} {inventory : List DeviceIdentity} :
    (s.run p (.refreshed watcherGeneration inventoryVersion inventory)).ids = s.ids := by
  have hsteps : Steps p (fun _ => False) (fun _ => False) s
      (s.run p (.refreshed watcherGeneration inventoryVersion inventory)) := refreshed_steps
  exact hsteps.ids_eq fun _ h => h

theorem refreshed_covered {watcherGeneration inventoryVersion : Nat}
    {inventory : List DeviceIdentity} (hs : s.Settled)
    (hen : (deviceService p).enabled s (.refreshed watcherGeneration inventoryVersion inventory)) :
    (s.run p (.refreshed watcherGeneration inventoryVersion inventory)).Covered ↔
      Covers s (.refreshed watcherGeneration inventoryVersion inventory) := by
  have hset := run_settings hen (by simp)
  have hin : (s.run p (.refreshed watcherGeneration inventoryVersion inventory)).isIncomingEnabled =
      s.isIncomingEnabled := congrArg AppliedSettings.isIncomingEnabled hset
  have hwatcher : (s.run p (.refreshed watcherGeneration inventoryVersion inventory)).watcher =
      (s.watcher.onRefreshed watcherGeneration inventoryVersion inventory).1 := watcher_callWatcher
  rw [covered_iff (run_inv hen hs.inv) (run_agrees hen hs.inv hs.agrees),
    shutdown_run hen (by simp), hin, hwatcher, ids_refreshed]
  refine forall_congr' fun hlive => forall_congr' fun hincoming => ?_
  constructor
  · intro h hadmits device hmem
    exact h device.id ((Watcher.mem_listed_refreshed hadmits).2 (List.mem_map_of_mem hmem))
  · intro h deviceId hlisted
    by_cases hadmits : s.watcher.admits watcherGeneration inventoryVersion
    · obtain ⟨device, hmem, rfl⟩ := List.mem_map.1 ((Watcher.mem_listed_refreshed hadmits).1 hlisted)
      exact h hadmits device hmem
    · rw [Watcher.refresh_refused hadmits] at hlisted
      exact hs.ids hlive hincoming hlisted

/-- A policy that allows incoming connections creates the sessions that the inventory lacks. -/
theorem mem_applySettingsPolicy {policy : DeviceSettingsPolicy} {stopRequested : Bool}
    (hgo : s.acceptsPolicy policy stopRequested = true)
    (hallow : policy.allowIncomingConnections = true) (hoff : s.isIncomingEnabled = false)
    (hmem : device ∈ s.watcher.snapshot.devices) (hid : device.id ≠ []) :
    device.id ∈ (s.applySettingsPolicy p policy stopRequested).ids := by
  let looped := (s.adoptPolicy policy).forEachSession
    (applyFlags p (s.reconnectChanged policy) (s.incomingChanged policy))
  have hsteps : Steps p (fun _ => True) (fun _ => False) (s.adoptPolicy policy) looped :=
    forEachSession_steps fun _ _ _ => applyFlags_steps (fun _ => trivial) fun _ => trivial
  have hwatcher : looped.watcher = s.watcher :=
    watcher_forEachSession _ fun _ _ => watcher_applyFlags
  have hlive : looped.isShutdown = false := by
    refine (shutdown_of_flags hsteps.flags).trans ?_
    simp only [acceptsPolicy, Bool.and_eq_true, Bool.not_eq_true'] at hgo
    exact hgo.1.1
  have hin : looped.isIncomingEnabled = true := (incoming_of_flags hsteps.flags).trans hallow
  have hrun : s.applySettingsPolicy p policy stopRequested = looped.createInventorySessions p := by
    unfold applySettingsPolicy
    rw [if_neg (by simp [hgo])]
    exact if_pos ⟨by simp [incomingChanged, hoff, hallow], hin⟩
  rw [hrun, createInventorySessions, hwatcher]
  exact mem_createSessions hlive hmem hid

theorem applySettingsPolicy_covered {policy : DeviceSettingsPolicy} {stopRequested : Bool}
    (hs : s.Settled)
    (hen : (deviceService p).enabled s (.applySettingsPolicy policy stopRequested)) :
    (s.run p (.applySettingsPolicy policy stopRequested)).Covered ↔
      Covers s (.applySettingsPolicy policy stopRequested) := by
  have hlisted : ∀ deviceId ∈
      (s.run p (.applySettingsPolicy policy stopRequested)).watcher.listed,
      deviceId ∈ s.watcher.listed := fun _ => run_narrows (by simp) (by simp) (by simp)
  cases hgo : s.acceptsPolicy policy stopRequested with
  | false =>
    have hrun : s.run p (.applySettingsPolicy policy stopRequested) = s :=
      applySettingsPolicy_refused hgo
    refine iff_of_true ?_ fun haccepts => absurd (hgo.symm.trans haccepts) (by simp)
    rw [hrun]
    exact hs.covered
  | true =>
    have hin : (s.run p (.applySettingsPolicy policy stopRequested)).isIncomingEnabled =
        policy.allowIncomingConnections :=
      congrArg AppliedSettings.isIncomingEnabled (settings_applySettingsPolicy hgo)
    cases hold : s.isIncomingEnabled with
    | true =>
      refine iff_of_true ?_ fun _ _ device hmem => ?_
      · exact covered_of_narrows hs hen (by simp) (fun _ => hold) hlisted
      · have hlive : s.isShutdown = false := by
          simp only [acceptsPolicy, Bool.and_eq_true, Bool.not_eq_true'] at hgo
          exact hgo.1.1
        exact hs.inv.named (hs.ids hlive hold (List.mem_map_of_mem hmem))
    | false =>
      have hinv := run_inv hen hs.inv
      rw [covered_iff hinv (run_agrees hen hs.inv hs.agrees)]
      constructor
      · intro h _ hallow device hmem
        have hlive : (s.run p (.applySettingsPolicy policy stopRequested)).isShutdown = false := by
          rw [shutdown_run hen (by simp)]
          simp only [acceptsPolicy, Bool.and_eq_true, Bool.not_eq_true'] at hgo
          exact hgo.1.1
        have hstill : device.id ∈
            (s.run p (.applySettingsPolicy policy stopRequested)).watcher.listed := by
          change _ ∈ (s.applySettingsPolicy p policy stopRequested).watcher.listed
          rw [watcher_applySettingsPolicy]
          exact List.mem_map_of_mem hmem
        exact hinv.named (h hlive (hin.trans hallow) _ hstill)
      · intro h _ hincoming deviceId hmem
        obtain ⟨device, hdevice, rfl⟩ := List.mem_map.1 (hlisted deviceId hmem)
        have hallow := hin.symm.trans hincoming
        exact mem_applySettingsPolicy hgo hallow hold hdevice (h hgo hallow device hdevice)

/-- A task leaves the inventory covered if and only if what it lists has sessions or gets them. -/
theorem run_covered (hs : s.Settled) (hen : (deviceService p).enabled s task) :
    (s.run p task).Covered ↔ Covers s task := by
  by_cases hshut : task = .shutdown
  · subst hshut
    refine ⟨fun _ => trivial, fun _ => ?_⟩
    cases hlive : s.isShutdown with
    | true =>
      have hrun : s.run p .shutdown = s := if_pos hlive
      rw [hrun]
      exact covered_of_shutdown hlive
    | false => exact covered_of_shutdown (congrArg Flags.isShutdown (flags_shutdown hlive))
  have hother (hadd : ∀ watcherGeneration device, task ≠ .deviceAdded watcherGeneration device)
      (hrefresh : ∀ watcherGeneration inventoryVersion inventory,
        task ≠ .refreshed watcherGeneration inventoryVersion inventory)
      (hpolicy : ∀ policy stopRequested, task ≠ .applySettingsPolicy policy stopRequested) :
      (s.run p task).Covered := by
    have hset := congrArg AppliedSettings.isIncomingEnabled (run_settings hen hpolicy)
    exact covered_of_narrows hs hen hshut (fun hin => hset.symm.trans hin)
      fun _ => run_narrows hadd hrefresh hshut
  cases task with
  | deviceAdded => exact deviceAdded_covered hs hen
  | refreshed => exact refreshed_covered hs hen
  | applySettingsPolicy => exact applySettingsPolicy_covered hs hen
  | shutdown => exact absurd rfl hshut
  | _ => exact iff_of_true (hother (by simp) (by simp) (by simp)) trivial

/-! ## Runs -/

/-- In every state of a run the inventory is covered, if and only if every device that an added
device or a policy brings has an id and every refresh, while incoming connections are allowed, lists
devices that have sessions. -/
theorem incoming_covers_inventory {tasks : List ServiceTask}
    (hrun : (deviceService p).Run initial tasks) :
    (∀ before after, tasks = before ++ after → ((deviceService p).exec initial before).Covered) ↔
      (deviceService p).Always Covers initial tasks := by
  rw [EventSystem.forall_prefix_iff]
  refine (and_iff_right covered_initial).trans ?_
  refine EventSystem.Always.congr_of_invariant (S := deviceService p) (I := Settled)
    (fun s task hen hcovers hs => ?_) (fun s task hen hs => run_covered hs hen) hrun
    ⟨inv_initial, by simp [Agrees, initial], covered_initial⟩
  exact ⟨run_inv hen hs.inv, run_agrees hen hs.inv hs.agrees, (run_covered hs hen).2 hcovers⟩

/-- Incoming connections are allowed, and a refresh finds a device. -/
def refreshedInventory : List ServiceTask :=
  [.applySettingsPolicy ⟨1, true, true, []⟩ false, .start, .refreshed 1 1 [⟨[65], [66]⟩]]

/-- The device that the refresh finds is listed, and has no session. -/
theorem incoming_misses_refreshed :
    (deviceService obligingPlatform).Run initial refreshedInventory ∧
      ¬ ((deviceService obligingPlatform).exec initial refreshedInventory).Covered := by
  refine ⟨by decide, fun h => ?_⟩
  obtain ⟨session, hfind, -⟩ := h (by decide) (by decide) ⟨[65], [66]⟩ (by decide)
  have hnone : ((deviceService obligingPlatform).exec initial refreshedInventory).find [65] = none :=
    by decide
  exact absurd (hnone.symm.trans hfind) (by simp)

/-- Incoming connections are allowed, and the watcher finds a device. -/
def addedInventory : List ServiceTask :=
  [.applySettingsPolicy ⟨1, true, true, []⟩ false, .start, .deviceAdded 1 ⟨[65], [66]⟩]

theorem incoming_covers_added :
    let s := (deviceService obligingPlatform).exec initial addedInventory
    s.watcher.listed = [[65]] ∧ s.Covered := by
  have hcovers : (deviceService obligingPlatform).Always Covers initial addedInventory :=
    ⟨fun _ _ _ hmem => absurd hmem List.not_mem_nil, trivial, fun _ _ _ => by decide, trivial⟩
  exact ⟨by decide, (incoming_covers_inventory (by decide)).2 hcovers addedInventory [] rfl⟩

end DeviceService

end PlaybackConnector
