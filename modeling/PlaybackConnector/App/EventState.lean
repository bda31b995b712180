import PlaybackConnector.Transition.Delivery
import PlaybackConnector.App.CaptureSnapshot

/-!
# The events of the application

`AppController::EventState` (`AppController.cpp:38`) numbers the events that are published and
delivers them to the handlers that are registered at that moment. `SnapshotAndSubscribe`
(`AppController.cpp:326`) reads the number of the last event, captures a snapshot without a lock,
and registers its handler if the number is still the same. The owners, and the captures of all
calls, are those of `snapshotCaptures`.

An owner tells of a change when it has made it: an event of a version is published when the owner
holds that version or a newer one. What no code reads comes last in the state: the subscriptions
whose `Reset` has returned to a thread that does not deliver, and the observations that were
returned.
-/

namespace PlaybackConnector

open AppController (Parts)

/-- An event, by what `Publish` and a consumer of its version read.
Source: `AppEvent` (`AppModels.hpp:420`). -/
inductive AppEvent
  | deviceConnected (id : WString)
  | deviceDisconnected (id : WString)
  | deviceConnectionError (id : WString)
  | deviceStatusChanged (id : WString)
  | deviceActivityChanged
  | deviceInventoryChanged
  | settingsChanged (settingsRevision : Nat)
  | startupTaskChanged (snapshot : StartupTaskSnapshot)
  | autoReconnectTriggered (id : WString)
  | autoReconnectFailed (id : WString)
deriving Repr, DecidableEq

namespace EventState

/-- A `std::thread::id`. -/
abbrev ThreadId := Nat

/-- Source: `SubscriptionId` (`AppController.hpp:38`). -/
abbrev SubscriptionId := Nat

/-- Source: `EventNotification` (`AppController.hpp:32`). -/
structure EventNotification where
  revision : Nat
  event : AppEvent
  /-- The generation of the device fact that a device event was published for. No code reads it. -/
  generation : Nat
deriving Repr, DecidableEq

/-- The change that an event tells of is part of what the owners hold. -/
def Reflected (event : AppEvent) (generation : Nat) (parts : Parts) : Prop :=
  match event with
  | .settingsChanged settingsRevision => settingsRevision ≤ parts.settings.revision
  | .startupTaskChanged snapshot =>
    ∃ startup, parts.startup = some startup ∧ snapshot.publication ≤ startup.publication
  | _ => generation ≤ parts.devices.generation

/-- What a call of `SnapshotAndSubscribe` does next. -/
inductive Stage
  /-- The first critical section. -/
  | revision
  /-- The call of `Snapshot`. -/
  | snapshot (revision : Nat)
  /-- The capture of that call returns. -/
  | captured (revision : Nat) (capture : Nat)
  /-- The second critical section. -/
  | register (revision : Nat) (snapshot : AppController.AppSnapshot)
deriving DecidableEq

/-- A call of `SnapshotAndSubscribe`. -/
structure Observing where
  attempt : Nat := 0
  stage : Stage := .revision
  /-- What the owners held in the first critical section. -/
  floor : Parts
deriving DecidableEq

/-- What a call of `SnapshotAndSubscribe` has returned. Source: `Observation`
(`AppController.hpp:65`). -/
structure Observation where
  snapshot : AppController.AppSnapshot
  revision : Nat
  updates : SubscriptionId
deriving DecidableEq

/-- The controller and its events. The field `delivery` holds `Handlers` with the fields of their
entries, `Pending`, `Draining`, `DrainThread` and `Closed`.
Source: `EventState` (`AppController.cpp:211`). -/
structure State where
  controller : AppController.State
  delivery : Delivery SubscriptionId EventNotification ThreadId := {}
  lastStartupPublication : Option Nat := none
  nextId : Nat := 1
  nextRevision : Nat := 1
  /-- The subscriptions that have an identity. -/
  handles : List SubscriptionId := []
  /-- The calls of `Remove` that wait. -/
  removals : List (ThreadId × SubscriptionId) := []
  observing : List Observing := []
  fenced : List SubscriptionId := []
  observed : List Observation := []
deriving DecidableEq

/-! ## Operations -/

/-- The next value of a `std::uint64_t`. -/
def next (n : Nat) : Nat := (n + 1) % 2 ^ 64

/-- A startup task event is not newer than the last one. Source: `Publish`
(`AppController.cpp:94`). -/
def isRepeated (event : AppEvent) (s : State) : Bool :=
  match event, s.lastStartupPublication with
  | .startupTaskChanged snapshot, some last => snapshot.publication ≤ last
  | _, _ => false

/-- The first critical section of `Publish` (`AppController.cpp:92`). -/
def publish (thread : ThreadId) (event : AppEvent) (generation : Nat) (s : State) : State :=
  if s.delivery.closed ∨ s.nextRevision = 0 then s
  else if isRepeated event s then s
  else
    { s with
      lastStartupPublication :=
        match event with
        | .startupTaskChanged snapshot => some snapshot.publication
        | _ => s.lastStartupPublication
      delivery := (s.delivery.accept ⟨s.nextRevision, event, generation⟩
        s.delivery.registered).enter thread
      nextRevision := next s.nextRevision }

/-- A handler is registered. Source: `Subscribe` (`AppController.cpp:320`). -/
def register (s : State) : State :=
  { s with
    delivery := s.delivery.register s.nextId
    handles := s.nextId :: s.handles
    nextId := next s.nextId }

/-- Source: `Subscribe` (`AppController.cpp:311`). -/
def subscribe (s : State) : State :=
  if s.delivery.closed ∨ s.nextId = 0 then s else register s

/-- A call of `Remove` returns. -/
def removed (thread : ThreadId) (id : SubscriptionId) (s : State) : State :=
  if s.delivery.drainThread = some thread then s else { s with fenced := id :: s.fenced }

/-- Source: `Remove` (`AppController.cpp:55`), to its wait. -/
def remove (thread : ThreadId) (id : SubscriptionId) (s : State) : State :=
  if id ∈ s.delivery.registered then
    let s := { s with delivery := (s.delivery.retire id).deactivate id }
    if s.delivery.drainThread = some thread then s
    else { s with removals := (thread, id) :: s.removals }
  else removed thread id s

/-- The wait of `Remove` ends. Source: `Remove` (`AppController.cpp:64`). -/
def wake (thread : ThreadId) (id : SubscriptionId) (s : State) : State :=
  removed thread id { s with removals := s.removals.erase (thread, id) }

/-- A call of `SnapshotAndSubscribe` that the controller's lease admits.
Source: `SnapshotAndSubscribe` (`AppController.cpp:330`). -/
def observe (s : State) : State :=
  if s.controller.running then
    { s with observing := { floor := s.controller.owners } :: s.observing }
  else s

/-- A call of `SnapshotAndSubscribe` goes on. -/
def State.goto (observing next : Observing) (s : State) : State :=
  { s with observing := next :: s.observing.erase observing }

/-- A call of `SnapshotAndSubscribe` returns that nothing is available. -/
def State.unavailable (observing : Observing) (s : State) : State :=
  { s with observing := s.observing.erase observing }

/-- The second critical section of `SnapshotAndSubscribe` (`AppController.cpp:345`). -/
def finish (observing : Observing) (revision : Nat) (snapshot : AppController.AppSnapshot)
    (s : State) : State :=
  if s.delivery.closed ∨ s.nextId = 0 then s.unavailable observing
  else if (s.nextRevision + (2 ^ 64 - 1)) % 2 ^ 64 ≠ revision then
    if observing.attempt + 1 < 3 then
      s.goto observing { observing with attempt := observing.attempt + 1, stage := .revision }
    else s.unavailable observing
  else
    register { s.unavailable observing with
      observed := ⟨snapshot, revision, s.nextId⟩ :: s.observed }

/-- The next step of a call of `SnapshotAndSubscribe` (`AppController.cpp:335`). -/
def proceed (observing : Observing) (s : State) : State :=
  match observing.stage with
  | .revision =>
    if s.delivery.closed ∨ s.nextId = 0 ∨ s.nextRevision = 0 then s.unavailable observing
    else
      s.goto observing {
        observing with
        stage := .snapshot (s.nextRevision - 1)
        floor := s.controller.owners }
  | .snapshot revision =>
    { s with controller := AppController.begin s.controller }.goto observing
      { observing with stage := .captured revision s.controller.nextCapture }
  | .captured revision capture =>
    match (s.controller.returned.find? (·.id = capture)).bind (·.snapshot) with
    | none => s.unavailable observing
    | some snapshot => s.goto observing { observing with stage := .register revision snapshot }
  | .register revision snapshot => finish observing revision snapshot s

/-! ## Events -/

/-- What happens to the controller and its events. -/
inductive Event
  /-- A step of the owners, of a capture or of a command. -/
  | controller (event : AppController.Event)
  | publish (thread : ThreadId) (event : AppEvent) (generation : Nat)
  /-- A step of the loop of `Publish` (`AppController.cpp:103`). -/
  | drain (loop : ThreadId × Delivery.Point SubscriptionId EventNotification)
  | subscribe
  /-- A call of `Reset` (`AppController.cpp:389`). -/
  | reset (thread : ThreadId) (id : SubscriptionId)
  | wake (thread : ThreadId) (id : SubscriptionId)
  /-- Source: `EventState::RequestStop` (`AppController.cpp:69`). -/
  | requestStop
  | observe
  | proceed (observing : Observing)
deriving DecidableEq

/-- The event can happen. -/
def Enabled (s : State) : Event → Prop
  | .controller event => AppController.Enabled s.controller event
  | .publish _ event generation => Reflected event generation s.controller.owners
  | .drain loop => loop ∈ s.delivery.loops
  | .reset _ id => id ∈ s.handles
  | .wake thread id => (thread, id) ∈ s.removals ∧ id ∉ s.delivery.executing.map Prod.fst
  | .proceed observing => observing ∈ s.observing ∧ ∀ revision capture,
      observing.stage = .captured revision capture →
        ∃ call ∈ s.controller.returned, call.id = capture
  | _ => True

/-- The state after an event. -/
def step (s : State) : Event → State
  | .controller event => { s with controller := AppController.step s.controller event }
  | .publish thread event generation => publish thread event generation s
  | .drain loop => { s with delivery := s.delivery.advance loop }
  | .subscribe => subscribe s
  | .reset thread id => remove thread id { s with handles := s.handles.erase id }
  | .wake thread id => wake thread id s
  | .requestStop => { s with delivery := s.delivery.close }
  | .observe => observe s
  | .proceed observing => proceed observing s

end EventState

/-- The events of a controller, from its construction on. -/
def applicationEvents : EventSystem EventState.State EventState.Event where
  enabled := EventState.Enabled
  step := EventState.step

namespace EventState

open AppController (Began)

variable {s : State} {id : SubscriptionId} {thread : ThreadId} {event : AppEvent}
  {generation revision nextRevision : Nat} {parts parts' : Parts} {observing : Observing}
  {observation : Observation} {events : List EventNotification}

theorem Reflected.mono (h : Reflected event generation parts) (hupto : parts.Upto parts') :
    Reflected event generation parts' := by
  have hsettings := hupto.settings.le
  have hdevices := hupto.devices.le
  cases event with
  | settingsChanged settingsRevision => exact Nat.le_trans h hsettings
  | startupTaskChanged snapshot =>
    obtain ⟨startup, hstartup, hle⟩ := h
    have hlater := hupto.startup
    rw [hstartup] at hlater
    cases hnext : parts'.startup with
    | none =>
      rw [hnext] at hlater
      exact hlater.elim
    | some startup' =>
      rw [hnext] at hlater
      exact ⟨startup', hnext, Nat.le_trans hle (Upto.le hlater)⟩
  | _ => exact Nat.le_trans h hdevices

/-! ## What is published -/

/-- The deliveries of events. -/
abbrev Events := Delivery SubscriptionId EventNotification ThreadId

/-- The events that were accepted, the latest first. -/
def published (delivery : Events) : List EventNotification := Delivery.accepted delivery.history

/-- The events that were accepted for a subscription, the latest first. -/
def publishedFor (id : SubscriptionId) (delivery : Events) : List EventNotification :=
  Delivery.acceptedFor id delivery.history

/-- The events are numbered without gaps. -/
structure Numbered (events : List EventNotification) (nextRevision : Nat) : Prop where
  revisions : (events.map EventNotification.revision).reverse = List.range' 1 events.length
  nextRevision : nextRevision = next events.length
  bounded : events.length < 2 ^ 64

/-- The events up to a revision are part of what the owners held. -/
structure Past (revision : Nat) (parts : Parts) (events : List EventNotification) : Prop where
  le : revision ≤ events.length
  reflected : ∀ item ∈ events, item.revision ≤ revision →
    Reflected item.event item.generation parts

/-- What a call of `SnapshotAndSubscribe` knows. -/
def Known (controller : AppController.State) (events : List EventNotification) (floor : Parts) :
    Stage → Prop
  | .revision => True
  | .snapshot revision => Past revision floor events
  | .captured revision capture => Past revision floor events ∧ capture < controller.nextCapture ∧
      ∀ began, Began controller capture began → floor.Upto began
  | .register revision snapshot => Past revision snapshot.parts events

/-- What holds of a call of `SnapshotAndSubscribe`. -/
structure Observing.Inv (observing : Observing) (controller : AppController.State)
    (events : List EventNotification) : Prop where
  floor : observing.floor.Upto controller.owners
  known : Known controller events observing.floor observing.stage

/-- There is neither a gap nor an overlap between the snapshot and the updates. -/
structure Observation.Gapless (observation : Observation) (delivery : Events) : Prop where
  past : Past observation.revision observation.snapshot.parts (published delivery)
  later : ∀ item ∈ publishedFor observation.updates delivery, observation.revision < item.revision
  complete : delivery.mayCall observation.updates = true →
    publishedFor observation.updates delivery =
      (published delivery).filter fun item => observation.revision < item.revision

/-- The identity has not been given to a subscription. -/
structure Fresh (handles : List SubscriptionId) (delivery : Events) (id : SubscriptionId) :
    Prop where
  handles : id ∉ handles
  registered : id ∉ delivery.registered
  publishedFor : publishedFor id delivery = []

/-- What holds between any two events. -/
structure Inv (s : State) : Prop where
  controller : AppController.Inv s.controller
  captures : ∀ capture began, Began s.controller capture began →
    capture < s.controller.nextCapture
  delivery : s.delivery.Inv
  numbered : Numbered (published s.delivery) s.nextRevision
  reflected : ∀ item ∈ published s.delivery,
    Reflected item.event item.generation s.controller.owners
  bounded : s.nextId < 2 ^ 64
  fresh : s.nextId ≠ 0 → ∀ id, s.nextId ≤ id → Fresh s.handles s.delivery id
  handles : s.handles.Nodup
  handled : ∀ id ∈ s.handles, id ∈ s.delivery.registered ∨ s.delivery.closed = true
  active : ∀ observation ∈ s.observed, s.delivery.mayCall observation.updates = true →
    observation.updates ∈ s.delivery.registered
  drained : s.delivery.queue ≠ [] → s.delivery.draining = true
  observing : ∀ observing ∈ s.observing, observing.Inv s.controller (published s.delivery)
  observed : ∀ observation ∈ s.observed, observation.Gapless s.delivery
  removals : ∀ removal ∈ s.removals, s.delivery.mayCall removal.2 = false

theorem inv_initial (owners : Parts) : Inv { controller := { owners := owners } } where
  controller := AppController.inv_initial owners
  captures := fun capture began h => by
    rcases h with ⟨_, h, -⟩ | ⟨_, h, -⟩
    · cases h
    · cases h
  delivery := .initial
  numbered := ⟨rfl, rfl, Nat.two_pow_pos 64⟩
  reflected := fun _ h => absurd h List.not_mem_nil
  bounded := show 1 < 2 ^ 64 by decide
  fresh := fun _ id _ => ⟨List.not_mem_nil, List.not_mem_nil, rfl⟩
  handles := .nil
  handled := fun _ h => absurd h List.not_mem_nil
  active := fun _ h => absurd h List.not_mem_nil
  drained := fun h => absurd rfl h
  observing := fun _ h => absurd h List.not_mem_nil
  observed := fun _ h => absurd h List.not_mem_nil
  removals := fun _ h => absurd h List.not_mem_nil

/-! ## Revisions -/

theorem Numbered.pairwise (h : Numbered events nextRevision) :
    events.Pairwise (·.revision > ·.revision) := by
  have hincreasing : (events.map EventNotification.revision).reverse.Pairwise (· < ·) := by
    rw [h.revisions]
    exact List.pairwise_lt_range'
  exact List.pairwise_map.1 (List.pairwise_reverse.1 hincreasing)

theorem Numbered.le (h : Numbered events nextRevision) : ∀ item ∈ events,
    item.revision ≤ events.length := by
  intro item hmem
  have hrevision : item.revision ∈ (events.map EventNotification.revision).reverse :=
    List.mem_reverse.2 (List.mem_map_of_mem hmem)
  rw [h.revisions, List.mem_range'_1] at hrevision
  omega

/-- While events can be published, the next revision is the number of the next event. -/
theorem Numbered.eq_of_ne_zero (h : Numbered events nextRevision) (hne : nextRevision ≠ 0) :
    nextRevision = events.length + 1 ∧ events.length + 1 < 2 ^ 64 := by
  have hbounded := h.bounded
  rw [h.nextRevision, next] at hne ⊢
  by_cases hlast : events.length + 1 = 2 ^ 64
  · rw [hlast, Nat.mod_self] at hne
    exact absurd rfl hne
  · have hlt : events.length + 1 < 2 ^ 64 := by omega
    exact ⟨Nat.mod_eq_of_lt hlt, hlt⟩

/-- The revision that the second critical section compares is the number of events. -/
theorem Numbered.last (h : Numbered events nextRevision) :
    (nextRevision + (2 ^ 64 - 1)) % 2 ^ 64 = events.length := by
  have hbounded := h.bounded
  rw [h.nextRevision, next]
  omega

theorem Numbered.publish (h : Numbered events nextRevision) (hne : nextRevision ≠ 0)
    {item : EventNotification} (hitem : item.revision = nextRevision) :
    Numbered (item :: events) (next nextRevision) := by
  obtain ⟨heq, hlt⟩ := h.eq_of_ne_zero hne
  refine ⟨?_, ?_, hlt⟩
  · rw [List.map_cons, List.reverse_cons, h.revisions, List.length_cons, List.range'_1_concat,
      hitem, heq, Nat.add_comm 1]
  · rw [heq, List.length_cons]

theorem Past.mono (h : Past revision parts events) (hupto : parts.Upto parts') :
    Past revision parts' events :=
  ⟨h.le, fun item hmem hle => (h.reflected item hmem hle).mono hupto⟩

/-- A newer event does not change the past. -/
theorem Past.publish (h : Past revision parts events) {item : EventNotification}
    (hitem : events.length < item.revision) : Past revision parts (item :: events) := by
  have hle := h.le
  refine ⟨Nat.le_succ_of_le hle, fun other hmem hother => ?_⟩
  rcases List.mem_cons.1 hmem with rfl | hmem
  · omega
  · exact h.reflected other hmem hother

theorem Observing.Inv.publish {controller : AppController.State}
    (h : observing.Inv controller events) {item : EventNotification}
    (hitem : events.length < item.revision) : observing.Inv controller (item :: events) where
  floor := h.floor
  known := by
    have hknown := h.known
    revert hknown
    cases observing.stage with
    | revision => exact fun hknown => hknown
    | captured revision capture => exact fun hknown => ⟨hknown.1.publish hitem, hknown.2⟩
    | snapshot | register => exact fun hknown => hknown.publish hitem

/-! ## The invariant -/

/-- The owners and the captures go on. -/
theorem Inv.controlling (hs : Inv s) {controller : AppController.State}
    (h : AppController.Inv controller) (hupto : s.controller.owners.Upto controller.owners)
    (hnext : s.controller.nextCapture ≤ controller.nextCapture)
    (hbegan : ∀ capture began, Began controller capture began →
      Began s.controller capture began ∨
        (s.controller.nextCapture ≤ capture ∧ capture < controller.nextCapture)) :
    Inv { s with controller := controller } := by
  refine { hs with
    controller := h
    captures := fun capture began hcapture => ?_
    reflected := fun item hmem => (hs.reflected item hmem).mono hupto
    observing := fun observing hmem => ?_ }
  · rcases hbegan capture began hcapture with hold | ⟨-, hlt⟩
    · exact Nat.lt_of_lt_of_le (hs.captures capture began hold) hnext
    · exact hlt
  · obtain ⟨hfloor, hknown⟩ := hs.observing observing hmem
    refine ⟨hfloor.trans hupto, ?_⟩
    revert hknown
    cases observing.stage with
    | captured revision capture =>
      rintro ⟨hpast, hlt, hfloor⟩
      refine ⟨hpast, Nat.lt_of_lt_of_le hlt hnext, fun began hcapture => ?_⟩
      rcases hbegan capture began hcapture with hold | ⟨hle, -⟩
      · exact hfloor began hold
      · exact absurd hlt (Nat.not_lt.2 hle)
    | revision | snapshot | register => exact fun hknown => hknown

/-- Calls of `SnapshotAndSubscribe` begin, go on and return. -/
theorem Inv.calling (hs : Inv s) {calls : List Observing} (h : ∀ observing ∈ calls,
    observing ∈ s.observing ∨ observing.Inv s.controller (published s.delivery)) :
    Inv { s with observing := calls } :=
  { hs with observing := fun observing hmem => (h observing hmem).elim (hs.observing observing) id }

theorem Inv.goto (hs : Inv s) {next : Observing}
    (h : next.Inv s.controller (published s.delivery)) : Inv (s.goto observing next) :=
  hs.calling fun other hmem => by
    rcases List.mem_cons.1 hmem with rfl | hmem
    · exact .inr h
    · exact .inl (List.mem_of_mem_erase hmem)

theorem Inv.unavailable (hs : Inv s) : Inv (s.unavailable observing) :=
  hs.calling fun _ hmem => .inl (List.mem_of_mem_erase hmem)

/-- What becomes of the calls of `Remove`. -/
theorem Inv.removing (hs : Inv s) {removals : List (ThreadId × SubscriptionId)}
    {fenced : List SubscriptionId}
    (h : ∀ removal ∈ removals, s.delivery.mayCall removal.2 = false) :
    Inv { s with removals := removals, fenced := fenced } :=
  { hs with removals := h }

/-- A handler is registered, for an observation or without one. -/
theorem Inv.register (hs : Inv s) (hne : s.nextId ≠ 0) {observed : List Observation}
    (h : ∀ observation ∈ observed, observation ∈ s.observed ∨ observation.updates = s.nextId ∧
      observation.revision = (published s.delivery).length ∧
      Past observation.revision observation.snapshot.parts (published s.delivery)) :
    Inv (register { s with observed := observed }) := by
  have hfresh := hs.fresh hne s.nextId (Nat.le_refl _)
  have hbounded := hs.bounded
  refine { hs with
    delivery := hs.delivery.register hfresh.registered
    bounded := Nat.mod_lt _ (Nat.two_pow_pos 64)
    fresh := fun hnext id hid => ?_
    handles := List.nodup_cons.2 ⟨hfresh.handles, hs.handles⟩
    handled := fun id hmem => ?_
    active := fun observation hmem hmay => ?_
    observed := fun observation hmem => ?_ }
  · have hlt : s.nextId < id := by
      change next s.nextId ≠ 0 at hnext
      change next s.nextId ≤ id at hid
      unfold next at hnext hid
      omega
    obtain ⟨hhandles, hregistered, hfor⟩ := hs.fresh hne id hlt.le
    refine ⟨fun hmem => ?_, fun hmem => ?_, hfor⟩
    · rcases List.mem_cons.1 hmem with rfl | hmem
      · exact absurd hlt (Nat.lt_irrefl _)
      · exact hhandles hmem
    · rcases List.mem_append.1 hmem with hmem | hmem
      · exact hregistered hmem
      · exact absurd hlt (List.mem_singleton.1 hmem ▸ Nat.lt_irrefl _)
  · rcases List.mem_cons.1 hmem with rfl | hmem
    · exact .inl (List.mem_append_right _ (List.mem_singleton.2 rfl))
    · exact (hs.handled id hmem).imp_left (List.mem_append_left _)
  · rcases h observation hmem with hold | ⟨hupdates, -⟩
    · exact List.mem_append_left _ (hs.active observation hold hmay)
    · exact List.mem_append_right _ (List.mem_singleton.2 hupdates)
  · rcases h observation hmem with hold | ⟨hupdates, hrevision, hpast⟩
    · exact ⟨(hs.observed observation hold).past, (hs.observed observation hold).later,
        (hs.observed observation hold).complete⟩
    · have hnone : publishedFor observation.updates s.delivery = [] :=
        hupdates ▸ hfresh.publishedFor
      refine ⟨hpast, fun item hitem => ?_, fun _ => ?_⟩
      · exact absurd (hnone ▸ hitem) List.not_mem_nil
      · refine hnone.trans (List.filter_eq_nil_iff.2 fun item hitem => ?_).symm
        have hle := hs.numbered.le item hitem
        simp only [decide_eq_true_eq]
        omega

/-- An event is published. -/
theorem Inv.publish (hs : Inv s) (h : Reflected event generation s.controller.owners) :
    Inv (publish thread event generation s) := by
  unfold EventState.publish
  split
  · exact hs
  next hopen =>
    split
    · exact hs
    obtain ⟨-, hne⟩ := not_or.1 hopen
    obtain ⟨item, hitem⟩ : ∃ item : EventNotification,
      item = ⟨s.nextRevision, event, generation⟩ := ⟨_, rfl⟩
    rw [← hitem]
    have hrevision : (published s.delivery).length < item.revision := by
      have heq : item.revision = _ := (congrArg EventNotification.revision hitem).trans
        (hs.numbered.eq_of_ne_zero hne).1
      omega
    obtain ⟨delivery, hdelivery⟩ : ∃ delivery : Events,
      delivery = (s.delivery.accept item s.delivery.registered).enter thread := ⟨_, rfl⟩
    rw [← hdelivery]
    have hpublished : published delivery = item :: published s.delivery := by
      rw [hdelivery, published, Delivery.enter_history]
      rfl
    have hfor : ∀ id, publishedFor id delivery =
        (if id ∈ s.delivery.registered then [item] else []) ++ publishedFor id s.delivery := by
      intro id
      rw [hdelivery, publishedFor, Delivery.enter_history]
      exact Delivery.acceptedFor_accepted _ _
    have hregistered : delivery.registered = s.delivery.registered := by
      rw [hdelivery, Delivery.enter_registered]
      rfl
    have hclosed : delivery.closed = s.delivery.closed := by
      rw [hdelivery, Delivery.enter_closed]
      rfl
    have hmay : ∀ id, delivery.mayCall id = s.delivery.mayCall id := by
      intro id
      rw [hdelivery, Delivery.mayCall_enter]
      rfl
    refine ⟨hs.controller, hs.captures, ?_, ?_, ?_, hs.bounded, fun hnext id hid => ?_, hs.handles,
      ?_, fun observation hmem => ?_, fun _ => ?_, fun observing hmem => ?_,
      fun observation hmem => ?_, fun removal hmem => ?_⟩
    · rw [hdelivery]
      exact (hs.delivery.accept (.refl _)).enter
    · exact hpublished ▸ hs.numbered.publish hne (hitem ▸ rfl)
    · intro other hmem
      rcases List.mem_cons.1 (hpublished ▸ hmem) with rfl | hmem
      · rw [hitem]
        exact h
      · exact hs.reflected other hmem
    · obtain ⟨hhandles, hunregistered, hnone⟩ := hs.fresh hnext id hid
      refine ⟨hhandles, hregistered ▸ hunregistered, ?_⟩
      rw [hfor, if_neg hunregistered, hnone]
      rfl
    · rw [hregistered, hclosed]
      exact hs.handled
    · rw [hregistered, hmay]
      exact hs.active observation hmem
    · rw [hdelivery]
      exact Delivery.enter_draining
    · exact hpublished ▸ (hs.observing observing hmem).publish hrevision
    · obtain ⟨hpast, hlater, hcomplete⟩ := hs.observed observation hmem
      have hle := hpast.le
      refine ⟨hpublished ▸ hpast.publish hrevision, fun other hother => ?_, fun hactive => ?_⟩
      · rw [hfor] at hother
        rcases List.mem_append.1 hother with hother | hother
        · split at hother
          · rw [List.mem_singleton.1 hother]
            omega
          · exact absurd hother List.not_mem_nil
        · exact hlater other hother
      · rw [hmay] at hactive
        have hlt : observation.revision < item.revision := by omega
        rw [hfor, if_pos (hs.active observation hmem hactive), hpublished, hcomplete hactive,
          List.filter_cons_of_pos (by simpa using hlt)]
        rfl
    · rw [hmay]
      exact hs.removals removal hmem

/-- Something is delivered, or subscriptions end. -/
theorem Inv.shrink (hs : Inv s) {delivery : Events} {handles : List SubscriptionId}
    (h : delivery.Inv) (hpublished : published delivery = published s.delivery)
    (hfor : ∀ id, publishedFor id delivery = publishedFor id s.delivery)
    (hregistered : ∀ id ∈ delivery.registered, id ∈ s.delivery.registered)
    (hmay : ∀ id, delivery.mayCall id = true → s.delivery.mayCall id = true ∧
      (id ∈ s.delivery.registered → id ∈ delivery.registered))
    (hdrained : delivery.queue ≠ [] → delivery.draining = true)
    (hhandles : handles.Sublist s.handles)
    (hhandled : ∀ id ∈ handles, id ∈ delivery.registered ∨ delivery.closed = true) :
    Inv { s with delivery := delivery, handles := handles } := by
  refine { hs with
    delivery := h
    numbered := hpublished ▸ hs.numbered
    reflected := hpublished ▸ hs.reflected
    fresh := fun hnext id hid => ?_
    handles := hs.handles.sublist hhandles
    handled := hhandled
    active := fun observation hmem hactive => ?_
    drained := hdrained
    observing := hpublished ▸ hs.observing
    observed := fun observation hmem => ?_
    removals := fun removal hmem => ?_ }
  · obtain ⟨hunhandled, hunregistered, hnone⟩ := hs.fresh hnext id hid
    exact ⟨fun hmem => hunhandled (hhandles.subset hmem),
      fun hmem => hunregistered (hregistered id hmem), (hfor id).trans hnone⟩
  · obtain ⟨hactive, hkeep⟩ := hmay _ hactive
    exact hkeep (hs.active observation hmem hactive)
  · obtain ⟨hpast, hlater, hcomplete⟩ := hs.observed observation hmem
    refine ⟨hpublished ▸ hpast, hfor _ ▸ hlater, fun hactive => ?_⟩
    rw [hfor, hpublished]
    exact hcomplete (hmay _ hactive).1
  · by_contra hactive
    have hwas := (hmay _ (Bool.not_eq_false _ ▸ hactive)).1
    rw [hs.removals removal hmem] at hwas
    cases hwas

theorem Inv.drain (hs : Inv s)
    {loop : ThreadId × Delivery.Point SubscriptionId EventNotification}
    (h : loop ∈ s.delivery.loops) : Inv { s with delivery := s.delivery.advance loop } := by
  have hregistered : (s.delivery.advance loop).registered = s.delivery.registered :=
    Delivery.advance_registered
  have hclosed : (s.delivery.advance loop).closed = s.delivery.closed := Delivery.advance_frame.2.2
  have hmayCall (id : SubscriptionId) :
      (s.delivery.advance loop).mayCall id = s.delivery.mayCall id := Delivery.mayCall_advance
  refine hs.shrink (hs.delivery.advance h) Delivery.accepted_advance
    (fun id => Delivery.acceptedFor_advance) (fun id hmem => hregistered ▸ hmem) (fun id hmay => ?_)
    (hs.delivery.advance_draining h) (.refl _) (fun id hmem => ?_)
  · exact ⟨hmayCall id ▸ hmay, fun hmem => hregistered ▸ hmem⟩
  · rw [hregistered, hclosed]
    exact hs.handled id hmem

theorem Inv.close (hs : Inv s) : Inv { s with delivery := s.delivery.close } := by
  refine hs.shrink hs.delivery.close rfl (fun _ => rfl)
    (fun id hmem => absurd hmem List.not_mem_nil) (fun id hmay => ?_) (fun h => absurd rfl h)
    (.refl _) (fun _ _ => .inr rfl)
  have hnever : s.delivery.close.mayCall id = false := Delivery.mayCall_of_closed rfl
  rw [hnever] at hmay
  cases hmay

/-- A subscription's identity is given up. -/
theorem Inv.release (hs : Inv s) : Inv { s with handles := s.handles.erase id } :=
  hs.shrink hs.delivery rfl (fun _ => rfl) (fun _ h => h) (fun _ h => ⟨h, fun h => h⟩) hs.drained
    List.erase_sublist fun other hmem => hs.handled other (List.mem_of_mem_erase hmem)

theorem Inv.removed (hs : Inv s) : Inv (removed thread id s) := by
  unfold EventState.removed
  split
  · exact hs
  · exact hs.removing hs.removals

/-- A subscription is removed. -/
theorem Inv.remove (hs : Inv s) :
    Inv (remove thread id { s with handles := s.handles.erase id }) := by
  unfold EventState.remove
  split
  next hmem =>
    have hretired : Inv { s with
        delivery := (s.delivery.retire id).deactivate id
        handles := s.handles.erase id } := by
      refine hs.shrink (hs.delivery.retire.deactivate) rfl (fun _ => rfl)
        (fun other hother => List.mem_of_mem_erase hother) (fun other hmay => ?_) hs.drained
        List.erase_sublist (fun other hother => ?_)
      · have hne : other ≠ id := by
          rintro rfl
          rw [Delivery.mayCall_deactivate_self] at hmay
          cases hmay
        refine ⟨?_, fun hother => (List.mem_erase_of_ne hne).2 hother⟩
        by_contra hnot
        have hnever : ((s.delivery.retire id).deactivate id).mayCall other = false :=
          Delivery.mayCall_deactivate (Bool.eq_false_iff.2 hnot)
        rw [hnever] at hmay
        cases hmay
      · obtain ⟨hne, hother⟩ := (hs.handles.mem_erase_iff).1 hother
        exact (hs.handled other hother).imp_left (List.mem_erase_of_ne hne).2
    dsimp only
    split
    · exact hretired
    · refine hretired.removing fun removal hremoval => ?_
      rcases List.mem_cons.1 hremoval with rfl | hremoval
      · exact Delivery.mayCall_deactivate_self
      · exact hretired.removals removal hremoval
  next => exact hs.release.removed

theorem Inv.wake (hs : Inv s) : Inv (wake thread id s) :=
  (hs.removing fun removal hmem => hs.removals removal (List.mem_of_mem_erase hmem)).removed

/-- A call of `SnapshotAndSubscribe` goes on. -/
theorem Inv.proceed (hs : Inv s) (h : observing ∈ s.observing) : Inv (proceed observing s) := by
  obtain ⟨hfloor, hknown⟩ := hs.observing observing h
  unfold EventState.proceed
  cases hstage : observing.stage with
  | revision =>
    dsimp only
    split
    · exact hs.unavailable
    next hopen =>
      have hne : s.nextRevision ≠ 0 := fun hzero => hopen (.inr (.inr hzero))
      have heq := (hs.numbered.eq_of_ne_zero hne).1
      refine hs.goto ⟨.refl _, ?_, fun item hmem _ => hs.reflected item hmem⟩
      omega
  | snapshot revision =>
    rw [hstage] at hknown
    have hupto : s.controller.owners.Upto (AppController.begin s.controller).owners :=
      AppController.begin_owners ▸ .refl _
    have hnext : (AppController.begin s.controller).nextCapture = s.controller.nextCapture + 1 :=
      AppController.begin_nextCapture
    have hbegan : ∀ capture began, Began (AppController.begin s.controller) capture began →
        Began s.controller capture began ∨
          (capture = s.controller.nextCapture ∧ began = s.controller.owners) :=
      fun capture began => AppController.began_begin
    have hbegun : Inv { s with controller := AppController.begin s.controller } := by
      refine hs.controlling (AppController.step_inv _ .begin trivial hs.controller) hupto
        (hnext ▸ Nat.le_succ _) fun capture began hcapture => ?_
      exact (hbegan capture began hcapture).imp_right fun hnew => by
        rw [hnew.1, hnext]
        exact ⟨Nat.le_refl _, Nat.lt_succ_self _⟩
    refine hbegun.goto ⟨hfloor.trans hupto, hknown, ?_, fun began hcapture => ?_⟩
    · rw [hnext]
      exact Nat.lt_succ_self _
    · rcases hbegan _ began hcapture with hold | ⟨-, rfl⟩
      · exact absurd (hs.captures _ began hold) (Nat.lt_irrefl _)
      · exact hfloor
  | captured revision capture =>
    rw [hstage] at hknown
    obtain ⟨hpast, -, hbegan⟩ := hknown
    dsimp only
    split
    · exact hs.unavailable
    next snapshot hreturned =>
      obtain ⟨call, hcall, hsnapshot⟩ := Option.bind_eq_some_iff.1 hreturned
      have hcoherent := hs.controller.coherent call (List.mem_of_find?_eq_some hcall)
      have hid : call.id = capture := by simpa using List.find?_some hcall
      have hupto := (hbegan call.began
        (.inr ⟨call, List.mem_of_find?_eq_some hcall, hid, rfl⟩)).trans hcoherent.began
      refine hs.goto ⟨hfloor, ?_⟩
      change Past revision snapshot.parts (published s.delivery)
      rw [hcoherent.parts snapshot hsnapshot]
      exact hpast.mono hupto
  | register revision snapshot =>
    rw [hstage] at hknown
    dsimp only
    unfold finish
    split
    · exact hs.unavailable
    next hopen =>
      obtain ⟨-, hne⟩ := not_or.1 hopen
      split
      · split
        · exact hs.goto ⟨hfloor, trivial⟩
        · exact hs.unavailable
      next hsame =>
        have hlast : revision = (published s.delivery).length :=
          (not_not.1 hsame).symm.trans hs.numbered.last
        refine hs.unavailable.register hne fun observation hmem => ?_
        rcases List.mem_cons.1 hmem with rfl | hmem
        · exact .inr ⟨rfl, hlast, hknown⟩
        · exact .inl hmem

theorem step_inv (s : State) (e : Event) (h : Enabled s e) (hs : Inv s) : Inv (step s e) := by
  cases e with
  | controller event =>
    obtain ⟨hupto, hnext⟩ := AppController.step_upto h
    refine hs.controlling (AppController.step_inv _ event h hs.controller) hupto hnext
      fun capture began hcapture => ?_
    refine (AppController.began_step h hcapture).imp_right fun hnew => ?_
    rw [hnew.1, hnew.2.2]
    exact ⟨Nat.le_refl _, Nat.lt_succ_self _⟩
  | publish thread event generation => exact hs.publish h
  | drain loop => exact hs.drain h
  | subscribe =>
    dsimp only [step, subscribe]
    split
    · exact hs
    next hopen => exact hs.register (not_or.1 hopen).2 fun _ => .inl
  | reset thread id => exact hs.remove
  | wake thread id => exact hs.wake
  | requestStop => exact hs.close
  | observe =>
    dsimp only [step, observe]
    split
    · refine hs.calling fun observing hmem => ?_
      rcases List.mem_cons.1 hmem with rfl | hmem
      · exact .inr ⟨.refl _, trivial⟩
      · exact .inl hmem
    · exact hs
  | proceed observing => exact hs.proceed h.1

/-! ## Subscriptions that are reset -/

theorem quiet_remove (h : s.delivery.Quiet id) (other : SubscriptionId) :
    Delivery.Calm id s.delivery (remove thread other s).delivery := by
  unfold remove removed
  split
  · dsimp only
    split
    · exact h.retire.trans h.retire.quiet.deactivate
    · exact h.retire.trans h.retire.quiet.deactivate
  · split
    · exact h.refl
    · exact h.refl

theorem quiet_publish (h : s.delivery.Quiet id) :
    Delivery.Calm id s.delivery (publish thread event generation s).delivery := by
  unfold publish
  split
  · exact h.refl
  · split
    · exact h.refl
    · exact h.accept.trans h.accept.quiet.enter

theorem quiet_proceed (h : s.delivery.Quiet id) :
    Delivery.Calm id s.delivery (proceed observing s).delivery := by
  unfold proceed
  split
  · split <;> exact h.refl
  · exact h.refl
  · split <;> exact h.refl
  · unfold finish
    split
    · exact h.refl
    · split
      · split <;> exact h.refl
      · exact h.register

/-- A subscription that is quiet stays so. -/
theorem quiet_step (e : Event) (h : s.delivery.Quiet id) :
    Delivery.Calm id s.delivery (step s e).delivery := by
  cases e with
  | controller event => exact h.refl
  | publish thread event generation => exact quiet_publish h
  | drain loop => exact h.advance
  | subscribe =>
    dsimp only [step, subscribe]
    split
    · exact h.refl
    · exact h.register
  | reset thread other =>
    have hreleased : Delivery.Quiet id
        { s with handles := s.handles.erase other }.delivery := h
    exact quiet_remove hreleased other
  | wake thread other =>
    dsimp only [step, wake, removed]
    split <;> exact h.refl
  | requestStop => exact h.close
  | observe =>
    dsimp only [step, observe]
    split <;> exact h.refl
  | proceed observing => exact quiet_proceed h

theorem quiet_exec : ∀ (events : List Event) (s : State), s.delivery.Quiet id →
    Delivery.Calm id s.delivery (applicationEvents.exec s events).delivery
  | [], _, h => h.refl
  | event :: events, s, h =>
    (quiet_step event h).trans (quiet_exec events (step s event) (quiet_step event h).quiet)

/-- No thread that does not deliver resets a subscription after `RequestStop`, while the handler is
executing. -/
def InTime (s : State) : Event → Prop
  | .reset thread id => ¬ (s.delivery.closed = true ∧ s.delivery.drainThread ≠ some thread ∧
      id ∈ s.delivery.executing.map Prod.fst)
  | _ => True

instance (s : State) (e : Event) : Decidable (InTime s e) := by
  cases e <;> unfold InTime <;> infer_instance

/-- The subscriptions whose `Reset` has returned are quiet. -/
def Fenced (s : State) : Prop := ∀ id ∈ s.fenced, s.delivery.Quiet id

theorem Fenced.removed (h : Fenced s)
    (hquiet : s.delivery.drainThread ≠ some thread → s.delivery.Quiet id) :
    Fenced (removed thread id s) := by
  unfold EventState.removed
  split
  · exact h
  next hthread =>
    intro other hmem
    rcases List.mem_cons.1 hmem with rfl | hmem
    · exact hquiet hthread
    · exact h other hmem

theorem proceed_fenced : (proceed observing s).fenced = s.fenced := by
  unfold proceed
  split
  · split <;> rfl
  · rfl
  · split <;> rfl
  · unfold finish
    split
    · rfl
    · split
      · split <;> rfl
      · rfl

theorem publish_fenced : (publish thread event generation s).fenced = s.fenced := by
  unfold publish
  split
  · rfl
  · split <;> rfl

/-- What is fenced stays quiet, and what is added to it is quiet already. -/
theorem step_fenced (e : Event) (henabled : Enabled s e) (hok : InTime s e) (hs : Inv s)
    (h : Fenced s) : Fenced (step s e) := by
  have hkept (hsame : (step s e).fenced = s.fenced) : Fenced (step s e) :=
    fun id hmem => (quiet_step e (h id (hsame ▸ hmem))).quiet
  cases e with
  | controller | drain | requestStop => exact hkept rfl
  | publish => exact hkept publish_fenced
  | proceed => exact hkept proceed_fenced
  | subscribe | observe =>
    refine hkept ?_
    dsimp only [step, subscribe, observe]
    split <;> rfl
  | wake thread id =>
    have hwoken : Fenced { s with removals := s.removals.erase (thread, id) } := h
    exact hwoken.removed fun _ => ⟨hs.removals _ henabled.1, henabled.2⟩
  | reset thread id =>
    have hreleased : Fenced { s with handles := s.handles.erase id } := h
    dsimp only [step, remove]
    split
    next hmem =>
      have hretired : ∀ other ∈ s.fenced, Delivery.Quiet other
          ((s.delivery.retire id).deactivate id) :=
        fun other hother => (h other hother).retire.quiet.deactivate.quiet
      split <;> exact hretired
    next hunregistered =>
      refine hreleased.removed fun hthread => ?_
      have hclosed := (hs.handled id henabled).resolve_left hunregistered
      refine ⟨Delivery.mayCall_of_closed hclosed, fun hexecuting => ?_⟩
      exact hok ⟨hclosed, hthread, hexecuting⟩

/-! ## In every run -/

/-- What a subscription was told of, the latest first. -/
def told (id : SubscriptionId) (delivery : Events) : List EventNotification :=
  Delivery.told id delivery.history

/-- What the application's events can be relied on for. -/
structure Reliable (s : State) : Prop where
  /-- The accepted events have the revisions from 1 on. -/
  revisions : ((published s.delivery).map EventNotification.revision).reverse =
    List.range' 1 (published s.delivery).length
  /-- A handler is told of the events that were accepted while it was active, in their order from
  the first on, and of none twice. -/
  ordered : ∀ id, told id s.delivery <:+ publishedFor id s.delivery ∧
    (told id s.delivery).Pairwise (·.revision > ·.revision)
  /-- One that is active is told, or is to be told, of all of them. -/
  complete : ∀ id, s.delivery.mayCall id = true →
    (told id s.delivery).reverse ++ s.delivery.outstanding id =
      (publishedFor id s.delivery).reverse
  /-- A thread is there to tell it. -/
  attended : s.delivery.loops = [] → ∀ id, s.delivery.outstanding id = []
  /-- No two handlers are executing. -/
  alone : s.delivery.calls.length ≤ 1
  /-- After `Reset` has returned to a thread that does not deliver, the handler is not executing. -/
  fenced : ∀ id ∈ s.fenced, id ∉ s.delivery.calls
  /-- An observation's snapshot has all events up to its revision, and its handler gets all later
  ones. -/
  gapless : ∀ observation ∈ s.observed, observation.Gapless s.delivery

theorem Inv.reliable (hs : Inv s) (h : Fenced s) : Reliable s where
  revisions := hs.numbered.revisions
  ordered := fun id => by
    have hsuffix := hs.delivery.inOrder id
    exact ⟨hsuffix, (hs.numbered.pairwise.sublist
      (Delivery.acceptedFor_sublist _)).sublist hsuffix.sublist⟩
  complete := hs.delivery.complete
  attended := fun hloops id => by
    have hidle : s.delivery.draining ≠ true := by
      rcases hs.delivery.alone with ⟨hidle, -⟩ | ⟨thread, point, -, -, hone, -⟩
      · simp [hidle]
      · simp [hone] at hloops
    have hqueue : s.delivery.queue = [] := by
      by_contra hne
      exact hidle (hs.drained hne)
    exact Delivery.outstanding_eq_nil hloops hqueue
  alone := hs.delivery.calls_length
  fenced := fun id hmem => hs.delivery.executing_eq ▸ (h id hmem).2
  gapless := hs.observed

/-- In every run in which no thread that does not deliver resets a subscription after `RequestStop`
while its handler is executing, the events are delivered in order, completely and one at a time, an
observation misses none of them and repeats none, and a handler whose `Reset` has returned to a
thread that does not deliver is never called again. -/
theorem events_reliable {owners : Parts} (events later : List Event)
    (hrun : applicationEvents.Run { controller := { owners := owners } } events)
    (hok : applicationEvents.Always InTime { controller := { owners := owners } } events) :
    ∀ s, s = applicationEvents.exec { controller := { owners := owners } } events →
      Reliable s ∧ (applicationEvents.Run s later →
        ∀ t, t = applicationEvents.exec s later → ∀ id ∈ s.fenced,
          id ∉ t.delivery.calls ∧ told id t.delivery = told id s.delivery) := by
  rintro s rfl
  have hstep (s : State) (e : Event) (h : Enabled s e ∧ InTime s e) (hs : Inv s ∧ Fenced s) :
      Inv (step s e) ∧ Fenced (step s e) :=
    ⟨step_inv s e h.1 hs.1, step_fenced e h.1 h.2 hs.1 hs.2⟩
  obtain ⟨hs, hfenced⟩ := EventSystem.Always.invariant hstep (hrun.and hok)
    ⟨inv_initial owners, fun _ h => absurd h List.not_mem_nil⟩
  refine ⟨hs.reliable hfenced, fun hlater => ?_⟩
  rintro t rfl id hmem
  have hnext : Inv (applicationEvents.exec _ later) := hlater.invariant step_inv hs
  have hcalm := quiet_exec later _ (hfenced id hmem)
  exact ⟨hnext.delivery.executing_eq ▸ hcalm.quiet.2, hcalm.told⟩

/-- The controller before anything has happened. -/
def quietState : State := { controller := { owners := AppController.quietParts } }

/-- An observation, an event that comes after it, and a `Reset` while the event is delivered. -/
def observedEvents : List Event :=
  let calling (stage : Stage) : Event := .proceed ⟨0, stage, AppController.quietParts⟩
  let changed : EventNotification := ⟨1, .settingsChanged 4, 0⟩
  [.observe, calling .revision, calling (.snapshot 0)] ++
    (AppController.undisturbed 0 AppController.quietParts AppController.quietParts 0).map
      .controller ++
    [calling (.captured 0 0), calling (.register 0 ⟨AppController.quietParts, 0, 0⟩),
      .publish 7 changed.event 0, .drain (7, .taking), .drain (7, .handing changed [1]), .reset 8 1,
      .drain (7, .calling changed 1 []), .wake 8 1]

/-- The observation has revision 0, and its handler is told of the event with revision 1 and, after
its `Reset` has returned, of no other one. -/
theorem events_reliable_observed :
    let s := applicationEvents.exec quietState observedEvents
    let t := applicationEvents.exec s [.publish 9 .deviceActivityChanged 7, .requestStop]
    Reliable s ∧ s.observed = [⟨⟨AppController.quietParts, 0, 0⟩, 0, 1⟩] ∧ s.fenced = [1] ∧
      (told 1 t.delivery).map EventNotification.revision = [1] := by
  intro s t
  have hrun : applicationEvents.Run quietState observedEvents := by
    refine ⟨trivial, ⟨.head _, nofun⟩, ⟨.head _, nofun⟩, .head _, .head _, .head _, .head _,
      .head _, .head _, .head _, .head _, .head _, .head _, ⟨.head _, ?_⟩, ⟨.head _, nofun⟩,
      Nat.le_refl 4, .head _, .head _, .head _, .head _, ⟨.head _, List.not_mem_nil⟩, trivial⟩
    exact fun _ _ h => ⟨_, .head _, (Stage.captured.inj h).2⟩
  have hok : applicationEvents.Always InTime quietState observedEvents := by
    decide
  have hlater : applicationEvents.Run s [.publish 9 .deviceActivityChanged 7, .requestStop] :=
    ⟨Nat.le_refl 7, trivial, trivial⟩
  obtain ⟨hreliable, hfenced⟩ := events_reliable observedEvents _ hrun hok s rfl
  refine ⟨hreliable, rfl, rfl, ?_⟩
  rw [(hfenced hlater t rfl 1 (.head _)).2]
  rfl

/-- A handler is executing when `RequestStop` and then `Reset` come. `Remove` does not find the
subscription any more, and returns at once. -/
theorem executing_after_reset :
    ¬ ∀ (owners : Parts) (events : List Event),
      applicationEvents.Run { controller := { owners := owners } } events →
        ∀ s, s = applicationEvents.exec { controller := { owners := owners } } events →
          ∀ id ∈ s.fenced, id ∉ s.delivery.calls := by
  intro h
  let changed : EventNotification := ⟨1, .deviceActivityChanged, 7⟩
  have hrun : applicationEvents.Run quietState [.subscribe, .publish 7 changed.event 7,
      .drain (7, .taking), .drain (7, .handing changed [1]), .requestStop, .reset 8 1] :=
    ⟨trivial, Nat.le_refl 7, .head _, .head _, trivial, .head _, trivial⟩
  exact h AppController.quietParts _ hrun _ rfl 1 (.head _) (.head _)

end EventState

end PlaybackConnector
