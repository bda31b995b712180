import PlaybackConnector.Service.Watcher
import PlaybackConnector.Transition.System

/-!
# The generations of the inventory

A watcher with the refreshes that are under way. A callback notes the generation of its watcher, a
refresh the generation and the version of the inventory when it begins; what is late for them does
nothing, and whoever sees one generation of the inventory twice sees the same devices
(`inventory_fenced`).
-/

namespace PlaybackConnector

/-- A watcher, and the refreshes that are under way: the watcher generation and the inventory
version that each has noted. -/
structure WatchedInventory where
  watcher : Watcher := .initial
  refreshes : List (Nat × Nat) := []
deriving DecidableEq

namespace WatchedInventory

/-- What can happen to a watcher. A device whose name has changed is added again. -/
inductive Event
  | start (registers : Bool)
  | stop
  | shutdown
  | deviceAdded (watcherGeneration : Nat) (device : DeviceIdentity)
  | deviceRemoved (watcherGeneration : Nat) (deviceId : WString)
  | enumerationCompleted (watcherGeneration : Nat)
  /-- `RefreshAsync` has noted the watcher generation, and notes the inventory version. -/
  | beginRefresh (watcherGeneration : Nat)
  | refreshed (watcherGeneration inventoryVersion : Nat) (inventory : List DeviceIdentity)
deriving DecidableEq

/-- What an event makes of the watcher, and the facts that it publishes. -/
def call : Event → Watcher → Watcher × List DeviceWatcherFact
  | .start registers, w => w.start registers
  | .stop, w => (w.stop, [])
  | .shutdown, w => (w.shutdown, [])
  | .deviceAdded watcherGeneration device, w => w.onDeviceAdded watcherGeneration device
  | .deviceRemoved watcherGeneration deviceId, w => w.onDeviceRemoved watcherGeneration deviceId
  | .enumerationCompleted watcherGeneration, w => w.onEnumerationCompleted watcherGeneration
  | .beginRefresh _, w => (w, [])
  | .refreshed watcherGeneration inventoryVersion inventory, w =>
    w.onRefreshed watcherGeneration inventoryVersion inventory

/-- A callback belongs to a generation that was begun; a refresh has noted a generation at some time
before it notes the version, and comes to its end once. -/
def enabled (s : WatchedInventory) : Event → Prop
  | .deviceAdded watcherGeneration _ | .deviceRemoved watcherGeneration _
  | .enumerationCompleted watcherGeneration | .beginRefresh watcherGeneration =>
    watcherGeneration ≤ s.watcher.watcherGeneration
  | .refreshed watcherGeneration inventoryVersion _ =>
    (watcherGeneration, inventoryVersion) ∈ s.refreshes
  | .start _ | .stop | .shutdown => True

instance (s : WatchedInventory) : DecidablePred s.enabled
  | .deviceAdded .. | .deviceRemoved .. | .enumerationCompleted _ | .beginRefresh _ =>
    inferInstanceAs (Decidable (_ ≤ _))
  | .refreshed .. => inferInstanceAs (Decidable (_ ∈ _))
  | .start _ | .stop | .shutdown => isTrue trivial

/-- The refreshes that are under way after an event. -/
def underWay (s : WatchedInventory) : Event → List (Nat × Nat)
  | .beginRefresh watcherGeneration =>
    (watcherGeneration, s.watcher.inventoryVersion) :: s.refreshes
  | .refreshed watcherGeneration inventoryVersion _ =>
    s.refreshes.erase (watcherGeneration, inventoryVersion)
  | .start _ | .stop | .shutdown | .deviceAdded .. | .deviceRemoved .. | .enumerationCompleted _ =>
    s.refreshes

end WatchedInventory

open WatchedInventory in
/-- The watcher as an event system. Source: `DeviceWatcher` (`DeviceWatcher.hpp:61`). -/
def deviceWatcher : EventSystem WatchedInventory WatchedInventory.Event where
  enabled := enabled
  step s e := { watcher := (call e s.watcher).1, refreshes := s.underWay e }

instance (s : WatchedInventory) (e : WatchedInventory.Event) :
    Decidable (deviceWatcher.enabled s e) :=
  inferInstanceAs (Decidable (s.enabled e))

namespace WatchedInventory

variable {s : WatchedInventory} {w : Watcher} {e : Event} {es : List Event}
  {device : DeviceIdentity} {devices : List DeviceIdentity}

/-! ## Distinct ids -/

/-- The ids of the devices are distinct. -/
def Distinct (devices : List DeviceIdentity) : Prop := (devices.map DeviceIdentity.id).Nodup

theorem distinct_initial : Distinct ({} : WatchedInventory).watcher.devices := List.nodup_nil

theorem mem_ids_assign {id : WString} :
    id ∈ (Watcher.assign device devices).map DeviceIdentity.id ↔
      id = device.id ∨ id ∈ devices.map DeviceIdentity.id := by
  induction devices with
  | nil => simp [Watcher.assign]
  | cons first rest ih =>
    unfold Watcher.assign
    split
    · next hsame => simp [hsame]
    · simp only [List.map_cons, List.mem_cons, ih]
      exact or_left_comm

theorem Distinct.assign (h : Distinct devices) : Distinct (Watcher.assign device devices) := by
  induction devices with
  | nil => exact List.nodup_singleton _
  | cons first rest ih =>
    obtain ⟨hnew, hrest⟩ := List.nodup_cons.1 h
    unfold Watcher.assign
    split
    · next hsame => exact List.nodup_cons.2 ⟨hsame ▸ hnew, hrest⟩
    · next hother =>
      refine List.nodup_cons.2 ⟨fun hmem => ?_, ih hrest⟩
      rcases mem_ids_assign.1 hmem with hsame | hmem
      · exact hother hsame
      · exact hnew hmem

/-- A device that is listed as it is stays as it is. -/
theorem Distinct.assign_eq (h : Distinct devices) (hmem : device ∈ devices) :
    Watcher.assign device devices = devices := by
  induction devices with
  | nil => cases hmem
  | cons first rest ih =>
    obtain ⟨hnew, hrest⟩ := List.nodup_cons.1 h
    unfold Watcher.assign
    rcases List.mem_cons.1 hmem with rfl | hmem
    · rw [if_pos rfl]
    · rw [if_neg, ih hrest hmem]
      intro hsame
      exact hnew (hsame ▸ List.mem_map_of_mem hmem)

theorem distinct_refreshed (inventory : List DeviceIdentity) :
    Distinct (inventory.foldl (fun devices device => Watcher.assign device devices) []) := by
  have hfold : ∀ (inventory devices : List DeviceIdentity), Distinct devices →
      Distinct (inventory.foldl (fun devices device => Watcher.assign device devices) devices) := by
    intro inventory
    induction inventory with
    | nil => exact fun _ h => h
    | cons device inventory ih => exact fun devices h => ih _ h.assign
  exact hfold inventory [] List.nodup_nil

theorem call_distinct (h : Distinct w.devices) : Distinct (call e w).1.devices := by
  cases e with
  | start registers =>
    simp only [call, Watcher.start]
    split
    · exact h
    · split <;> exact List.nodup_nil
  | stop =>
    simp only [call, Watcher.stop]
    split <;> exact h
  | shutdown =>
    simp only [call, Watcher.shutdown]
    split <;> exact h
  | deviceAdded watcherGeneration device =>
    simp only [call, Watcher.onDeviceAdded]
    split
    · exact h
    · exact h.assign
  | deviceRemoved watcherGeneration deviceId =>
    simp only [call, Watcher.onDeviceRemoved]
    split
    · exact h
    · exact h.sublist (List.filter_sublist.map _)
  | enumerationCompleted watcherGeneration =>
    simp only [call, Watcher.onEnumerationCompleted]
    split <;> exact h
  | beginRefresh watcherGeneration => exact h
  | refreshed watcherGeneration inventoryVersion inventory =>
    simp only [call, Watcher.onRefreshed]
    split
    · exact h
    · split
      · exact h
      · exact distinct_refreshed inventory

/-! ## Generations -/

/-- The generations and versions that a watcher has gone through. -/
def age (w : Watcher) : Nat := w.watcherGeneration + w.inventoryVersion

/-- An event that does not leave the watcher as it is makes it older. -/
structure Ages (w : Watcher) (next : Watcher × List DeviceWatcherFact) : Prop where
  generation : w.watcherGeneration ≤ next.1.watcherGeneration
  version : w.inventoryVersion ≤ next.1.inventoryVersion
  age : next = (w, []) ∨ age w < age next.1

theorem Ages.refl (w : Watcher) : Ages w (w, []) := ⟨Nat.le_refl _, Nat.le_refl _, .inl rfl⟩

theorem call_ages (e : Event) (w : Watcher) : Ages w (call e w) := by
  cases e with
  | start registers =>
    simp only [call, Watcher.start]
    split
    · exact .refl w
    · split
      · exact ⟨Nat.le_succ _, Nat.le_succ _, .inr (by simp [age, Watcher.prepareStart]; omega)⟩
      · refine ⟨Nat.le_add_right _ 2, Nat.le_succ _, .inr ?_⟩
        simp only [age, Watcher.failStart, Watcher.prepareStart]
        omega
  | stop =>
    simp only [call, Watcher.stop]
    split
    · exact .refl w
    · exact ⟨Nat.le_succ _, Nat.le_refl _, .inr (by simp [age])⟩
  | shutdown =>
    simp only [call, Watcher.shutdown]
    split
    · exact .refl w
    · exact ⟨Nat.le_succ _, Nat.le_refl _, .inr (by simp [age])⟩
  | deviceAdded watcherGeneration device =>
    simp only [call, Watcher.onDeviceAdded]
    split
    · exact .refl w
    · exact ⟨Nat.le_refl _, Nat.le_succ _, .inr (by simp [age])⟩
  | deviceRemoved watcherGeneration deviceId =>
    simp only [call, Watcher.onDeviceRemoved]
    split
    · exact .refl w
    · exact ⟨Nat.le_refl _, Nat.le_succ _, .inr (by simp [age])⟩
  | enumerationCompleted watcherGeneration =>
    simp only [call, Watcher.onEnumerationCompleted]
    split
    · exact .refl w
    · exact ⟨Nat.le_refl _, Nat.le_succ _, .inr (by simp [age])⟩
  | beginRefresh watcherGeneration => exact .refl w
  | refreshed watcherGeneration inventoryVersion inventory =>
    simp only [call, Watcher.onRefreshed]
    split
    · exact .refl w
    · split
      · exact .refl w
      · exact ⟨Nat.le_refl _, Nat.le_succ _, .inr (by simp [age])⟩

/-- The generation that a callback or a refresh belongs to. -/
def generationOf : Event → Option Nat
  | .deviceAdded watcherGeneration _ | .deviceRemoved watcherGeneration _
  | .enumerationCompleted watcherGeneration | .refreshed watcherGeneration _ _ =>
    some watcherGeneration
  | .start _ | .stop | .shutdown | .beginRefresh _ => none

/-- What belongs to another generation does nothing. -/
theorem call_stale {watcherGeneration : Nat} (h : generationOf e = some watcherGeneration)
    (hstale : watcherGeneration ≠ w.watcherGeneration) : call e w = (w, []) := by
  have haccepts : w.accepts watcherGeneration = false := by simp [Watcher.accepts, hstale]
  cases e with
  | start | stop | shutdown | beginRefresh => cases h
  | deviceAdded | deviceRemoved =>
    cases h
    exact if_pos (by simp [haccepts])
  | enumerationCompleted =>
    cases h
    exact if_pos (.inl (by simp [haccepts]))
  | refreshed =>
    cases h
    exact if_pos (.inr (.inl hstale))

/-- A refresh that is applied finds the watcher as old as it noted. -/
theorem refreshed_fence {watcherGeneration inventoryVersion : Nat}
    {inventory : List DeviceIdentity}
    (h : call (.refreshed watcherGeneration inventoryVersion inventory) w ≠ (w, [])) :
    watcherGeneration = w.watcherGeneration ∧ inventoryVersion = w.inventoryVersion := by
  by_contra hfence
  refine h (if_pos ?_)
  rcases not_and_or.1 hfence with hgeneration | hversion
  · exact .inr (.inl hgeneration)
  · exact .inr (.inr hversion)

/-! ## What is published -/

/-- The devices of the inventory and its completeness. -/
def contents (snapshot : DeviceInventorySnapshot) : List DeviceIdentity × Bool :=
  (snapshot.devices, snapshot.enumerationComplete)

theorem contents_eq {v : Watcher} (hdevices : v.devices = w.devices)
    (hcomplete : v.isEnumerationComplete = w.isEnumerationComplete)
    (hshutdown : v.isShutdown = w.isShutdown) : contents v.snapshot = contents w.snapshot := by
  simp only [Watcher.snapshot, hdevices, hcomplete, hshutdown]
  split <;> rfl

theorem snapshot_generation (h : w.isShutdown = false) :
    w.snapshot.generation = w.inventoryGeneration := by
  simp [Watcher.snapshot, h, Watcher.buildSnapshot]

/-- The contents of the inventory change with its generation. -/
def Renews (w v : Watcher) : Prop :=
  contents v.snapshot = contents w.snapshot ∧ w.snapshot.generation ≤ v.snapshot.generation ∨
    w.snapshot.generation < v.snapshot.generation

theorem renews_refl (w : Watcher) : Renews w w := .inl ⟨rfl, Nat.le_refl _⟩

theorem renews_of_lt {v : Watcher} (hw : w.isShutdown = false) (hv : v.isShutdown = false)
    (h : w.inventoryGeneration < v.inventoryGeneration) : Renews w v :=
  .inr (by rwa [snapshot_generation hw, snapshot_generation hv])

theorem accepts_running {watcherGeneration : Nat} (h : w.accepts watcherGeneration = true) :
    w.isShutdown = false := by
  simp only [Watcher.accepts, Bool.and_eq_true, Bool.not_eq_true'] at h
  exact h.1.1

theorem call_renews (h : Distinct w.devices) (hne : e ≠ .shutdown) : Renews w (call e w).1 := by
  cases e with
  | shutdown => exact absurd rfl hne
  | start registers =>
    simp only [call, Watcher.start]
    split
    · exact renews_refl w
    · next hstart =>
      have hlive : w.isShutdown = false := by
        simp only [Watcher.canStart, Bool.not_eq_true', Bool.not_eq_false, Bool.and_eq_true]
          at hstart
        exact hstart.1
      split <;> exact renews_of_lt hlive hlive (Nat.lt_succ_self _)
  | stop =>
    simp only [call, Watcher.stop]
    split
    · exact renews_refl w
    · next hstop =>
      have hlive : w.isShutdown = false := by simp_all
      exact renews_of_lt hlive hlive (Nat.lt_succ_self _)
  | deviceAdded watcherGeneration device =>
    simp only [call, Watcher.onDeviceAdded]
    split
    · exact renews_refl w
    · next haccepts =>
      have hlive := accepts_running (by simpa using haccepts)
      by_cases hlisted : device ∈ w.devices
      · refine .inl ⟨contents_eq (h.assign_eq hlisted) rfl rfl, ?_⟩
        simp [Watcher.snapshot, hlive, Watcher.buildSnapshot]
      · exact renews_of_lt hlive hlive (by simp [hlisted])
  | deviceRemoved watcherGeneration deviceId =>
    simp only [call, Watcher.onDeviceRemoved]
    split
    · exact renews_refl w
    · next haccepts =>
      have hlive := accepts_running (by simpa using haccepts)
      by_cases hlisted : deviceId ∈ w.devices.map DeviceIdentity.id
      · exact renews_of_lt hlive hlive (by simp only [if_pos hlisted]; omega)
      · have hsame : Watcher.erase deviceId w.devices = w.devices := by
          refine List.filter_eq_self.2 fun device hdevice => decide_eq_true ?_
          rintro rfl
          exact hlisted (List.mem_map_of_mem hdevice)
        refine .inl ⟨contents_eq hsame rfl rfl, ?_⟩
        simp [Watcher.snapshot, hlive, Watcher.buildSnapshot]
  | enumerationCompleted watcherGeneration =>
    simp only [call, Watcher.onEnumerationCompleted]
    split
    · exact renews_refl w
    · next haccepts =>
      have hlive := accepts_running (by simpa using not_or.1 haccepts |>.1)
      exact renews_of_lt hlive hlive (Nat.lt_succ_self _)
  | beginRefresh watcherGeneration => exact renews_refl w
  | refreshed watcherGeneration inventoryVersion inventory =>
    simp only [call, Watcher.onRefreshed]
    split
    · exact renews_refl w
    · next hfence =>
      have hlive : w.isShutdown = false := by simpa using not_or.1 hfence |>.1
      split
      · exact renews_refl w
      · exact renews_of_lt hlive hlive (Nat.lt_succ_self _)

/-! ## Runs -/

theorem fact_inventory {kind : DeviceWatcherFactKind} {deviceId deviceName : WString}
    (h : w.isShutdown = false) : (w.fact kind deviceId deviceName).inventory = w.snapshot := by
  simp [Watcher.snapshot, Watcher.fact, h]

/-- The published facts carry the inventory that the event leaves. -/
theorem facts_current : ∀ fact ∈ (call e w).2, fact.inventory = (call e w).1.snapshot := by
  cases e with
  | start registers =>
    simp only [call, Watcher.start]
    split
    · exact fun fact hfact => absurd hfact List.not_mem_nil
    · next hstart =>
      have hlive : w.isShutdown = false := by
        simp only [Watcher.canStart, Bool.not_eq_true', Bool.not_eq_false, Bool.and_eq_true]
          at hstart
        exact hstart.1
      intro fact hfact
      rw [List.mem_singleton.1 hfact]
      split <;> exact fact_inventory hlive
  | stop | shutdown | beginRefresh => exact fun fact hfact => absurd hfact List.not_mem_nil
  | deviceAdded watcherGeneration device =>
    simp only [call, Watcher.onDeviceAdded]
    split
    · exact fun fact hfact => absurd hfact List.not_mem_nil
    · next haccepts =>
      have hlive := accepts_running (by simpa using haccepts)
      intro fact hfact
      rcases List.mem_cons.1 hfact with rfl | hfact
      · exact fact_inventory hlive
      · rw [List.mem_singleton.1 (List.mem_ite_nil_right.1 hfact).2]
        exact fact_inventory hlive
  | deviceRemoved watcherGeneration deviceId =>
    simp only [call, Watcher.onDeviceRemoved]
    split
    · exact fun fact hfact => absurd hfact List.not_mem_nil
    · next haccepts =>
      have hlive := accepts_running (by simpa using haccepts)
      intro fact hfact
      rcases List.mem_cons.1 hfact with rfl | hfact
      · exact fact_inventory hlive
      · rw [List.mem_singleton.1 (List.mem_ite_nil_right.1 hfact).2]
        exact fact_inventory hlive
  | enumerationCompleted watcherGeneration =>
    simp only [call, Watcher.onEnumerationCompleted]
    split
    · exact fun fact hfact => absurd hfact List.not_mem_nil
    · next haccepts =>
      have hlive := accepts_running (by simpa using not_or.1 haccepts |>.1)
      intro fact hfact
      rcases List.mem_pair.1 hfact with rfl | rfl <;> exact fact_inventory hlive
  | refreshed watcherGeneration inventoryVersion inventory =>
    simp only [call, Watcher.onRefreshed]
    split
    · exact fun fact hfact => absurd hfact List.not_mem_nil
    · next hfence =>
      have hlive : w.isShutdown = false := by simpa using not_or.1 hfence |>.1
      split
      · exact fun fact hfact => absurd hfact List.not_mem_nil
      · intro fact hfact
        rw [List.mem_singleton.1 hfact]
        exact fact_inventory hlive

/-- The event leaves the watcher as it is, and publishes nothing. -/
def Inert (s : WatchedInventory) (e : Event) : Prop := call e s.watcher = (s.watcher, [])

/-- What a run keeps to. -/
structure Fenced (es : List Event) : Prop where
  /-- A callback or a refresh of another watcher generation does nothing. -/
  stale : deviceWatcher.Always (fun s e => ∀ watcherGeneration,
    generationOf e = some watcherGeneration → watcherGeneration ≠ s.watcher.watcherGeneration →
      s.Inert e) {} es
  /-- A refresh is applied only if nothing has touched the watcher since it began. -/
  refreshed : ∀ before during after watcherGeneration inventory,
    es = before ++ .beginRefresh watcherGeneration :: during ++
        .refreshed watcherGeneration
          (deviceWatcher.exec {} before).watcher.inventoryVersion inventory :: after →
      ¬ (deviceWatcher.exec {} (before ++ .beginRefresh watcherGeneration :: during)).Inert
        (.refreshed watcherGeneration
          (deviceWatcher.exec {} before).watcher.inventoryVersion inventory) →
      deviceWatcher.Always Inert
        (deviceWatcher.exec {} (before ++ [.beginRefresh watcherGeneration])) during
  /-- The generation of the inventory never falls, and is a new one whenever the published devices
  or their completeness change, until the watcher is shut down. -/
  renewed : deviceWatcher.Always (fun s e => e ≠ .shutdown →
    Renews s.watcher (deviceWatcher.step s e).watcher) {} es
  /-- Every fact carries the inventory that is published with it. -/
  published : deviceWatcher.Always (fun s e => ∀ fact ∈ (call e s.watcher).2,
    fact.inventory = (deviceWatcher.step s e).watcher.snapshot) {} es
  /-- No device id is listed twice. -/
  distinct : Distinct (deviceWatcher.exec {} es).watcher.devices ∧
    Distinct (deviceWatcher.exec {} es).watcher.snapshot.devices

theorem step_age (s : WatchedInventory) (e : Event) :
    age s.watcher ≤ age (deviceWatcher.step s e).watcher :=
  Nat.add_le_add (call_ages e s.watcher).generation (call_ages e s.watcher).version

theorem exec_generation (es : List Event) (s : WatchedInventory) :
    s.watcher.watcherGeneration ≤ (deviceWatcher.exec s es).watcher.watcherGeneration := by
  induction es generalizing s with
  | nil => exact Nat.le_refl _
  | cons e es ih =>
    exact Nat.le_trans (call_ages e s.watcher).generation (ih (deviceWatcher.step s e))

/-- Nothing touches a watcher while it does not get older. -/
theorem inert_of_age (h : age (deviceWatcher.exec s es).watcher = age s.watcher) :
    deviceWatcher.Always Inert s es := by
  refine (EventSystem.always_of_measure_eq (S := deviceWatcher) (fun s => age s.watcher) step_age
    h).imp fun s e hage => ?_
  rcases (call_ages e s.watcher).age with hinert | hlt
  · exact hinert
  · exact absurd hage (Nat.ne_of_gt hlt)

/-- The generations of a run fence its inventory. -/
theorem inventory_fenced (hrun : deviceWatcher.Run {} es) : Fenced es where
  stale := hrun.imp fun s e _ watcherGeneration hgeneration hstale => call_stale hgeneration hstale
  refreshed before during after watcherGeneration inventory hes happlied := by
    have hbegun : deviceWatcher.exec {} (before ++ .beginRefresh watcherGeneration :: during) =
        deviceWatcher.exec (deviceWatcher.exec {} (before ++ [.beginRefresh watcherGeneration]))
          during := by
      rw [← EventSystem.exec_append, List.append_assoc]
      rfl
    have hnoted : (deviceWatcher.exec {} (before ++ [.beginRefresh watcherGeneration])).watcher =
        (deviceWatcher.exec {} before).watcher := by
      rw [EventSystem.exec_append]
      rfl
    have henabled : watcherGeneration ≤
        (deviceWatcher.exec {} before).watcher.watcherGeneration := by
      rw [hes, List.append_assoc, List.cons_append] at hrun
      exact hrun.at
    obtain ⟨hgeneration, hversion⟩ := refreshed_fence happlied
    refine inert_of_age ?_
    have hle := exec_generation during
      (deviceWatcher.exec {} (before ++ [.beginRefresh watcherGeneration]))
    rw [hbegun] at hgeneration hversion
    rw [hnoted] at hle ⊢
    simp only [age]
    omega
  renewed := hrun.of_invariant (I := fun s => Distinct s.watcher.devices)
    (fun s e _ hs => call_distinct hs) (fun s e _ hs hne => call_renews hs hne) distinct_initial
  published := hrun.imp fun s e _ => facts_current
  distinct := by
    have hdistinct : Distinct (deviceWatcher.exec {} es).watcher.devices :=
      hrun.invariant (I := fun s => Distinct s.watcher.devices)
        (fun s e _ hs => call_distinct hs) distinct_initial
    refine ⟨hdistinct, ?_⟩
    simp only [Watcher.snapshot]
    split
    · exact List.nodup_nil
    · exact ((List.perm_insertionSort _ _).map _).nodup_iff.2 hdistinct

/-- A device is added, and a refresh that began before it ends after it. -/
def overtakenRefresh : List Event :=
  [.start true, .beginRefresh 1, .deviceAdded 1 ⟨[65], [66]⟩, .refreshed 1 1 []]

theorem inventory_fenced_overtaken : Fenced overtakenRefresh ∧
    (deviceWatcher.exec {} overtakenRefresh).watcher.devices = [⟨[65], [66]⟩] :=
  ⟨inventory_fenced (by decide), by decide⟩

/-- A shutdown takes the devices and the generation away. -/
theorem shutdown_renews_nothing :
    let s := deviceWatcher.exec {} [.start true, .enumerationCompleted 1]
    deviceWatcher.Run {} [.start true, .enumerationCompleted 1, .shutdown] ∧
      s.watcher.snapshot.enumerationComplete = true ∧
      (deviceWatcher.step s .shutdown).watcher.snapshot.enumerationComplete = false ∧
      (deviceWatcher.step s .shutdown).watcher.snapshot.generation < s.watcher.snapshot.generation := by
  decide

end WatchedInventory

end PlaybackConnector
