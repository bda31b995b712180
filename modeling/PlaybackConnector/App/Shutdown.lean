import PlaybackConnector.App.EventState
import PlaybackConnector.Transition.Admission

/-!
# The shutdown of the controller

Every call of the controller takes a lease (`CallLease`, `AppControllerUseCases.cpp:49`) and every
device fact is observed under a count (`ObserveDevice`, `AppController.cpp:130`). `Shutdown`
(`AppController.cpp:301`) refuses new calls, then closes the events, then waits for the calls, and
then for the observations and for the thread that delivers events, unless that is its own. The
steps are those of `applicationEvents`, whose captures and calls of `SnapshotAndSubscribe` hold
leases, and the critical sections of the other calls, of the observations and of `Shutdown`, of any
number of threads.

When `Shutdown` has returned nobody is inside and nothing happens any more (`shutdown_final`).
-/

namespace PlaybackConnector.ControllerShutdown

open EventState (ThreadId SubscriptionId)

/-- Where a thread stands. In `RequestStop`, `shutdown` says that `Shutdown` has called it. -/
inductive Point
  /-- In a call, before its lease. -/
  | calling
  /-- In a call with its lease. -/
  | inCall
  /-- In `ObserveDevice`, before its first lock. -/
  | observing
  | inObservation
  /-- In `RequestStop`, before its first lock. -/
  | stopping (shutdown : Bool)
  /-- In `RequestStop`, before that of the events. -/
  | closing (shutdown : Bool)
  /-- In the wait for the calls. -/
  | awaitingCalls
  /-- In `Drain`. -/
  | draining
deriving Repr, DecidableEq

/-- The controller. Source: `AppController` (`AppController.hpp:296`), `EventState`
(`AppController.cpp:211`). -/
structure State where
  /-- The field `controller.running` of it is `m_running`, and `delivery.closed` is `Closed`. -/
  events : EventState.State
  activeCalls : Nat := 0
  activeDeviceObservations : Nat := 0
  threads : List (ThreadId × Point) := []
  /-- The threads to which `Shutdown` has returned. No code reads it. -/
  returned : List ThreadId := []
  /-- How many connections the observations have recorded in the settings. No code reads it. -/
  recorded : Nat := 0
deriving DecidableEq

namespace State

/-- `m_running` and `m_activeCalls`. -/
def calls (s : State) : Gate := ⟨!s.events.controller.running, s.activeCalls⟩

/-- `Closed` and `ActiveDeviceObservations`. -/
def observations (s : State) : Gate := ⟨s.events.delivery.closed, s.activeDeviceObservations⟩

def goOn (thread : ThreadId) (point : Point) (s : State) : State :=
  { s with threads := (thread, point) :: s.threads }

end State

/-- The calls of `SnapshotAndSubscribe` and the captures. -/
def inner (events : EventState.State) : Nat :=
  events.controller.captures.length + events.observing.length

/-- A step of `applicationEvents`. A capture or a call of `SnapshotAndSubscribe` takes its lease in
the critical section with which it begins; one that is over has still to release it.
Source: `Snapshot` (`AppControllerUseCases.cpp:107`), `SnapshotAndSubscribe`
(`AppController.cpp:330`). -/
def proceed (thread : ThreadId) (event : EventState.Event) (s : State) : State :=
  let events := EventState.step s.events event
  { s with
    events := events
    activeCalls := s.activeCalls + (inner events - inner s.events)
    threads := List.replicate (inner s.events - inner events) (thread, .inCall) ++ s.threads }

/-- The next step of a thread, which is no longer counted at its point. -/
def advance (thread : ThreadId) : Point → State → State
  /- Source: `CallLease` (`AppControllerUseCases.cpp:49`). -/
  | .calling => fun s =>
    match s.calls.enter with
    | (false, _) => s
    | (true, calls) => { s with activeCalls := calls.active }.goOn thread .inCall
  /- Source: `~CallLease` (`AppControllerUseCases.cpp:56`). -/
  | .inCall => fun s => { s with activeCalls := s.calls.leave.active }
  /- Source: `ObserveDevice` (`AppController.cpp:133`). -/
  | .observing => fun s =>
    match s.observations.enter with
    | (false, _) => s
    | (true, observations) =>
      { s with activeDeviceObservations := observations.active }.goOn thread .inObservation
  /- Source: `ObserveDevice` (`AppController.cpp:138`). -/
  | .inObservation => fun s => { s with activeDeviceObservations := s.observations.leave.active }
  /- Source: `RequestStop` (`AppController.cpp:290`). -/
  | .stopping shutdown => fun s =>
    { s with events := EventState.step s.events (.controller .requestStop) }.goOn thread
      (.closing shutdown)
  | .closing shutdown => fun s =>
    let s := { s with events := EventState.step s.events .requestStop }
    if shutdown then s.goOn thread .awaitingCalls else s
  /- Source: `Shutdown` (`AppController.cpp:303`). -/
  | .awaitingCalls => fun s => s.goOn thread .draining
  | .draining => fun s => { s with returned := thread :: s.returned }

/-- What happens to the controller. -/
inductive Event
  /-- A thread comes: a call, an observation, `RequestStop` or `Shutdown`. -/
  | call (thread : ThreadId)
  | observe (thread : ThreadId)
  | requestStop (thread : ThreadId)
  | shutdown (thread : ThreadId)
  | step (thread : ThreadId) (point : Point)
  | event (thread : ThreadId) (event : EventState.Event)
  /-- An observation records a connection. Source: `ObserveDevice` (`AppController.cpp:181`). -/
  | record (thread : ThreadId)
deriving DecidableEq

/-- The event is one of a call with a lease: another one than a capture, which has its own. -/
def NeedsCall : EventState.Event → Prop
  | .controller .read | .controller (.note _) | .controller (.advance _) => True
  | _ => False

/-- The event is a step of `RequestStop`. -/
def IsStop : EventState.Event → Prop
  | .controller .requestStop | .requestStop => True
  | _ => False

instance : ∀ event, Decidable (NeedsCall event)
  | .controller .read | .controller (.note _) | .controller (.advance _) => isTrue trivial
  | .controller (.owners _) | .controller .begin | .controller (.proceed ..)
  | .controller (.throw _) | .controller .requestStop | .publish .. | .drain _ | .subscribe
  | .reset .. | .wake .. | .requestStop | .observe | .proceed _ => isFalse not_false

instance : ∀ event, Decidable (IsStop event)
  | .controller .requestStop | .requestStop => isTrue trivial
  | .controller (.owners _) | .controller .begin | .controller (.proceed ..)
  | .controller (.throw _) | .controller .read | .controller (.note _) | .controller (.advance _)
  | .publish .. | .drain _ | .subscribe | .reset .. | .wake .. | .observe | .proceed _ =>
    isFalse not_false

/-- The condition of a wait. Source: `Shutdown` (`AppController.cpp:305`), `Drain`
(`AppController.cpp:84`). -/
def Awaited (thread : ThreadId) (s : State) : Point → Prop
  | .awaitingCalls => s.activeCalls = 0
  | .draining => s.activeDeviceObservations = 0 ∧
      (s.events.delivery.draining = false ∨ s.events.delivery.drainThread = some thread)
  | _ => True

/-- The event can happen. -/
def Enabled (s : State) : Event → Prop
  | .call _ | .observe _ | .requestStop _ | .shutdown _ => True
  | .step thread point => (thread, point) ∈ s.threads ∧ Awaited thread s point
  | .event thread event => EventState.Enabled s.events event ∧ ¬ IsStop event ∧
      (NeedsCall event → (thread, .inCall) ∈ s.threads)
  | .record thread => (thread, .inObservation) ∈ s.threads

/-- The state after an event. -/
def handle (s : State) : Event → State
  | .call thread => s.goOn thread .calling
  | .observe thread => s.goOn thread .observing
  | .requestStop thread => s.goOn thread (.stopping false)
  | .shutdown thread => s.goOn thread (.stopping true)
  | .step thread point => advance thread point { s with threads := s.threads.erase (thread, point) }
  | .event thread event => proceed thread event s
  | .record _ => { s with recorded := s.recorded + 1 }

end ControllerShutdown

/-- A controller with its calls, its observations and its events. -/
def controllerShutdown : EventSystem ControllerShutdown.State ControllerShutdown.Event where
  enabled := ControllerShutdown.Enabled
  step := ControllerShutdown.handle

namespace ControllerShutdown

open EventState (ThreadId SubscriptionId)

variable {s : State} {e : Event} {thread : ThreadId} {point : Point} {event : EventState.Event}
  {x : ThreadId × Point}

/-! ## Who is inside -/

/-- The thread holds a lease. -/
def leased (x : ThreadId × Point) : Bool := x.2 == .inCall

/-- The thread is counted as observing. -/
def observes (x : ThreadId × Point) : Bool := x.2 == .inObservation

/-- What a thread that has come to a point relies on. -/
def Reached (s : State) : Point → Prop
  | .closing _ => s.events.controller.running = false
  | .awaitingCalls => s.events.controller.running = false ∧ s.events.delivery.closed = true
  | .draining => s.calls.Drained ∧ s.events.delivery.closed = true
  | _ => True

/-- Nobody is inside any more, and only one thread may still deliver. -/
structure Over (thread : ThreadId) (s : State) : Prop where
  calls : s.calls.Drained
  observations : s.observations.Drained
  loops : ∀ loop ∈ s.events.delivery.loops, loop.1 = thread

/-- What holds between any two events. -/
structure Inv (s : State) : Prop where
  events : EventState.Inv s.events
  calls : s.activeCalls = s.threads.countP leased + inner s.events
  observations : s.observations.Counts observes s.threads
  closed : s.events.delivery.closed = true →
    s.events.delivery.queue = [] ∧ s.events.delivery.registered = []
  reached : ∀ x ∈ s.threads, Reached s x.2
  returned : ∀ thread ∈ s.returned, Over thread s

/-! ## The events once they are closed -/

section
variable {a b : EventState.State}

/-- No event is accepted and no handler is called: who delivers comes to an end. -/
structure Silent (a b : EventState.State) : Prop where
  closed : b.delivery.closed = true
  queue : b.delivery.queue = []
  registered : b.delivery.registered = []
  published : EventState.published b.delivery = EventState.published a.delivery
  told : ∀ id, EventState.told id b.delivery = EventState.told id a.delivery
  loops : ∀ loop ∈ b.delivery.loops, ∃ other ∈ a.delivery.loops, other.1 = loop.1

theorem Silent.of_same (hclosed : a.delivery.closed = true)
    (hempty : a.delivery.queue = [] ∧ a.delivery.registered = [])
    (h : b.delivery = a.delivery) : Silent a b := by
  refine ⟨h ▸ hclosed, h ▸ hempty.1, h ▸ hempty.2, by rw [h], fun _ => by rw [h], ?_⟩
  rw [h]
  exact fun loop hloop => ⟨loop, hloop, rfl⟩

/-- Only the loop that delivers goes on. -/
theorem silent_drain (loop : ThreadId × Delivery.Point SubscriptionId EventState.EventNotification)
    (hclosed : a.delivery.closed = true) (hloop : loop ∈ a.delivery.loops)
    (hempty : a.delivery.queue = [] ∧ a.delivery.registered = []) :
    Silent a (EventState.step a (.drain loop)) := by
  obtain ⟨hregistered, -, hstays⟩ : (a.delivery.advance loop).registered = a.delivery.registered ∧
    _ ∧ (a.delivery.advance loop).closed = a.delivery.closed := Delivery.advance_frame
  obtain ⟨hqueue, htold, hloops⟩ := Delivery.advance_of_closed hclosed hempty.1 loop
  refine ⟨hstays.trans hclosed, hqueue, hregistered.trans hempty.2, Delivery.accepted_advance,
    htold, fun other hother => ?_⟩
  rcases hloops other hother with hother | hthread
  · exact ⟨other, hother, rfl⟩
  · exact ⟨loop, hloop, hthread.symm⟩

/-- Nothing is accepted once the events are closed. -/
theorem silent_step (henabled : EventState.Enabled a event) (hclosed : a.delivery.closed = true)
    (hempty : a.delivery.queue = [] ∧ a.delivery.registered = []) :
    Silent a (EventState.step a event) := by
  cases event with
  | controller event => exact .of_same hclosed hempty rfl
  | publish thread event generation =>
    have hrefused : EventState.publish thread event generation a = a := if_pos (.inl hclosed)
    exact .of_same hclosed hempty (congrArg EventState.State.delivery hrefused)
  | drain loop => exact silent_drain loop hclosed henabled hempty
  | subscribe =>
    have hrefused : EventState.subscribe a = a := if_pos (.inl hclosed)
    exact .of_same hclosed hempty (congrArg EventState.State.delivery hrefused)
  | reset thread id =>
    refine .of_same hclosed hempty ?_
    have hnone : id ∉ a.delivery.registered := by simp [hempty.2]
    simp only [EventState.step, EventState.remove, EventState.removed, if_neg hnone]
    split <;> rfl
  | wake thread id =>
    refine .of_same hclosed hempty ?_
    simp only [EventState.step, EventState.wake, EventState.removed]
    split <;> rfl
  | requestStop =>
    exact ⟨rfl, rfl, rfl, rfl, fun _ => rfl, fun loop hloop => ⟨loop, hloop, rfl⟩⟩
  | observe =>
    refine .of_same hclosed hempty ?_
    simp only [EventState.step, EventState.observe]
    split <;> rfl
  | proceed observing =>
    refine .of_same hclosed hempty ?_
    simp only [EventState.step, EventState.proceed, EventState.finish]
    split
    · rw [if_pos (.inl hclosed)]
      rfl
    · rfl
    · split <;> rfl
    · rw [if_pos (.inl hclosed)]
      rfl

/-- Other steps than those of `RequestStop` close nothing. -/
theorem closed_step (h : ¬ IsStop event) :
    (EventState.step a event).delivery.closed = a.delivery.closed := by
  cases event with
  | requestStop => exact absurd trivial h
  | controller event => rfl
  | publish thread event generation =>
    simp only [EventState.step, EventState.publish]
    repeat' split
    all_goals first | rfl | exact Delivery.enter_closed
  | drain loop => exact Delivery.advance_frame.2.2
  | subscribe =>
    simp only [EventState.step, EventState.subscribe]
    split <;> rfl
  | reset thread id =>
    simp only [EventState.step, EventState.remove, EventState.removed]
    repeat' split
    all_goals rfl
  | wake thread id =>
    simp only [EventState.step, EventState.wake, EventState.removed]
    split <;> rfl
  | observe =>
    simp only [EventState.step, EventState.observe]
    split <;> rfl
  | proceed observing =>
    simp only [EventState.step, EventState.proceed, EventState.finish]
    repeat' split
    all_goals rfl

/-! ## The calls once the controller does not run -/

/-- No call is under way, and none has returned anything more. -/
structure Still (a b : EventState.State) : Prop where
  running : b.controller.running = false
  captures : b.controller.captures = []
  observing : b.observing = []
  generation : b.controller.generation = a.controller.generation
  snapshots : b.controller.snapshots = a.controller.snapshots
  observed : b.observed = a.observed

theorem Still.of_same (hrunning : a.controller.running = false)
    (hcaptures : a.controller.captures = []) (hobserving : a.observing = [])
    (h : b.controller = a.controller) (h' : b.observing = a.observing)
    (h'' : b.observed = a.observed) : Still a b :=
  ⟨h ▸ hrunning, h ▸ hcaptures, h'.trans hobserving, by rw [h], by rw [h], h''⟩

/-- Nothing begins and nothing changes once no call is under way. -/
theorem still_step (henabled : EventState.Enabled a event) (hneeds : ¬ NeedsCall event)
    (hrunning : a.controller.running = false) (hcaptures : a.controller.captures = [])
    (hobserving : a.observing = []) : Still a (EventState.step a event) := by
  have hsame : ∀ delivery handles removals fenced lastStartupPublication nextRevision nextId,
      Still a { a with
        delivery := delivery
        handles := handles
        removals := removals
        fenced := fenced
        lastStartupPublication := lastStartupPublication
        nextRevision := nextRevision
        nextId := nextId } :=
    fun _ _ _ _ _ _ _ => .of_same hrunning hcaptures hobserving rfl rfl rfl
  cases event with
  | controller event =>
    cases event with
    | owners next => exact ⟨hrunning, hcaptures, hobserving, rfl, rfl, rfl⟩
    | begin =>
      refine ⟨?_, ?_, hobserving, ?_, ?_, rfl⟩
      all_goals simp [EventState.step, AppController.step, AppController.begin,
        AppController.State.finish, AppController.State.snapshots, hrunning, hcaptures]
    | proceed capture _ | throw capture =>
      have hmem : capture ∈ a.controller.captures := henabled
      rw [hcaptures] at hmem
      exact absurd hmem List.not_mem_nil
    | read | note | advance => exact absurd trivial hneeds
    | requestStop =>
      have hstopped : AppController.requestStop a.controller = a.controller :=
        if_neg (by simp [hrunning])
      exact .of_same hrunning hcaptures hobserving hstopped rfl rfl
  | publish thread event generation =>
    simp only [EventState.step, EventState.publish]
    repeat' split
    all_goals exact hsame ..
  | drain loop => exact hsame ..
  | subscribe =>
    simp only [EventState.step, EventState.subscribe, EventState.register]
    split
    all_goals exact hsame ..
  | reset thread id =>
    simp only [EventState.step, EventState.remove, EventState.removed]
    repeat' split
    all_goals exact hsame ..
  | wake thread id =>
    simp only [EventState.step, EventState.wake, EventState.removed]
    split
    all_goals exact hsame ..
  | requestStop => exact hsame ..
  | observe =>
    have hrefused : EventState.observe a = a := if_neg (by simp [hrunning])
    exact .of_same hrunning hcaptures hobserving (congrArg EventState.State.controller hrefused)
      (congrArg EventState.State.observing hrefused) (congrArg EventState.State.observed hrefused)
  | proceed observing =>
    have hmem := henabled.1
    rw [hobserving] at hmem
    exact absurd hmem List.not_mem_nil

/-- Other steps than those of `RequestStop` do not change whether the controller runs. -/
theorem running_step (h : ¬ IsStop event) :
    (EventState.step a event).controller.running = a.controller.running := by
  cases event with
  | controller event =>
    cases event with
    | requestStop => exact absurd trivial h
    | owners | throw | read | advance => rfl
    | begin =>
      simp only [EventState.step, AppController.step, AppController.begin]
      split <;> rfl
    | note revision =>
      simp only [EventState.step, AppController.step, AppController.noteSettings]
      repeat' split
      all_goals rfl
    | proceed capture opened =>
      simp only [EventState.step, AppController.step, AppController.proceed, AppController.retry,
        AppController.noteSettings]
      repeat' split
      all_goals rfl
  | publish thread event generation =>
    simp only [EventState.step, EventState.publish]
    repeat' split
    all_goals rfl
  | drain | requestStop => rfl
  | subscribe =>
    simp only [EventState.step, EventState.subscribe]
    split <;> rfl
  | reset thread id =>
    simp only [EventState.step, EventState.remove, EventState.removed]
    repeat' split
    all_goals rfl
  | wake thread id =>
    simp only [EventState.step, EventState.wake, EventState.removed]
    split <;> rfl
  | observe =>
    simp only [EventState.step, EventState.observe]
    split <;> rfl
  | proceed observing =>
    simp only [EventState.step, EventState.proceed, EventState.finish, AppController.begin]
    repeat' split
    all_goals rfl

end

/-! ## What a step keeps -/

variable {t : State}

/-- What was refused stays refused, and who has left does not come back. -/
structure Onward (s t : State) : Prop where
  running : s.events.controller.running = false → t.events.controller.running = false
  closed : s.events.delivery.closed = true → t.events.delivery.closed = true
  calls : s.calls.Drained → t.calls.Drained
  observations : s.observations.Drained → t.observations.Drained
  loops : s.events.delivery.closed = true → ∀ loop ∈ t.events.delivery.loops,
    ∃ other ∈ s.events.delivery.loops, other.1 = loop.1

theorem Onward.of_events (h : t.events = s.events)
    (hcalls : s.calls.Drained → t.calls.Drained)
    (hobservations : s.observations.Drained → t.observations.Drained) : Onward s t := by
  refine ⟨by rw [h]; exact id, by rw [h]; exact id, hcalls, hobservations, ?_⟩
  rw [h]
  exact fun _ loop hloop => ⟨loop, hloop, rfl⟩

theorem Reached.onward (honward : Onward s t) (h : Reached s point) : Reached t point := by
  cases point with
  | calling | inCall | observing | inObservation | stopping => trivial
  | closing => exact honward.running h
  | awaitingCalls => exact ⟨honward.running h.1, honward.closed h.2⟩
  | draining => exact ⟨honward.calls h.1, honward.closed h.2⟩

theorem Over.onward (honward : Onward s t) (h : Over thread s) : Over thread t where
  calls := honward.calls h.calls
  observations := honward.observations h.observations
  loops := by
    intro loop hloop
    obtain ⟨other, hother, hthread⟩ := honward.loops h.observations.1 loop hloop
    exact hthread ▸ h.loops other hother

theorem Inv.onward (h : Inv s) (honward : Onward s t) (hevents : EventState.Inv t.events)
    (hcalls : t.activeCalls = t.threads.countP leased + inner t.events)
    (hobservations : t.observations.Counts observes t.threads)
    (hclosed : t.events.delivery.closed = true →
      t.events.delivery.queue = [] ∧ t.events.delivery.registered = [])
    (hthreads : ∀ x ∈ t.threads, x ∈ s.threads ∨ Reached t x.2)
    (hreturned : ∀ thread ∈ t.returned, thread ∈ s.returned ∨ Over thread t) : Inv t where
  events := hevents
  calls := hcalls
  observations := hobservations
  closed := hclosed
  reached := fun x hx => (hthreads x hx).elim (fun hx => (h.reached x hx).onward honward) id
  returned := fun thread hthread =>
    (hreturned thread hthread).elim (fun hthread => (h.returned thread hthread).onward honward) id

/-- A thread comes to a point at which it is not counted. -/
theorem Inv.goOn (h : Inv s) (thread : ThreadId) {point : Point}
    (hleased : leased (thread, point) = false) (hobserves : observes (thread, point) = false)
    (hreached : Reached s point) :
    Inv (s.goOn thread point) := by
  refine h.onward (.of_events rfl id id) h.events ?_ (h.observations.cons hobserves) h.closed
    (fun x hx => ?_) fun _ => .inl
  · rw [State.goOn, List.countP_cons_of_neg (by simp [hleased])]
    exact h.calls
  · rcases List.mem_cons.1 hx with rfl | hx
    · exact .inr hreached
    · exact .inl hx

/-- A thread that is not counted goes. -/
theorem Inv.erase (h : Inv s) (hleased : leased x = false) (hobserves : observes x = false) :
    Inv { s with threads := s.threads.erase x } := by
  refine h.onward (.of_events rfl id id) h.events ?_ (h.observations.erase hobserves) h.closed
    (fun y hy => .inl (List.mem_of_mem_erase hy)) fun _ => .inl
  have hcount : (s.threads.erase x).countP leased = s.threads.countP leased := by
    simp [List.countP_erase, hleased]
  rw [hcount]
  exact h.calls

/-- A call takes its lease. -/
theorem Inv.enterCall (h : Inv s) (thread : ThreadId)
    (hopen : s.events.controller.running = true) :
    Inv ({ s with activeCalls := s.activeCalls + 1 }.goOn thread .inCall) := by
  have hundrained : ¬ s.calls.Drained := fun hdrained => by
    simp [State.calls, Gate.Drained, hopen] at hdrained
  refine h.onward (.of_events rfl (fun hdrained => absurd hdrained hundrained) id) h.events ?_
    (h.observations.cons rfl) h.closed (fun x hx => ?_) fun _ => .inl
  · have hcalls := h.calls
    rw [State.goOn, List.countP_cons_of_pos rfl]
    dsimp only
    omega
  · rcases List.mem_cons.1 hx with rfl | hx
    · exact .inr trivial
    · exact .inl hx

/-- A call gives its lease back. -/
theorem Inv.leaveCall (h : Inv s) (hmem : (thread, Point.inCall) ∈ s.threads) :
    Inv { s with
      activeCalls := s.activeCalls - 1
      threads := s.threads.erase (thread, .inCall) } := by
  have hpositive : 0 < s.threads.countP leased := List.countP_pos_iff.2 ⟨_, hmem, rfl⟩
  have hobservations : s.observations.Counts observes (s.threads.erase (thread, .inCall)) :=
    h.observations.erase rfl
  refine h.onward (.of_events rfl Gate.Drained.leave id) h.events ?_
    hobservations h.closed (fun y hy => .inl (List.mem_of_mem_erase hy)) fun _ => .inl
  have hcount : (s.threads.erase (thread, .inCall)).countP leased =
      s.threads.countP leased - 1 := by
    rw [List.countP_erase, if_pos ⟨hmem, rfl⟩]
  have hcalls := h.calls
  dsimp only
  omega

theorem Inv.enterObservation (h : Inv s) (thread : ThreadId)
    (hopen : s.events.delivery.closed = false) :
    Inv ({ s with activeDeviceObservations := s.activeDeviceObservations + 1 }.goOn thread
      .inObservation) := by
  have hundrained : ¬ s.observations.Drained := fun hdrained => by
    simp [State.observations, Gate.Drained, hopen] at hdrained
  have hentered : s.observations.enter = (true, _) := Gate.enter_of_open hopen
  have hcounts := h.observations.enter (thread, Point.inObservation) (by rw [hentered]) rfl
  rw [hentered] at hcounts
  refine h.onward (.of_events rfl id fun hdrained => absurd hdrained hundrained) h.events ?_
    hcounts h.closed (fun x hx => ?_) fun _ => .inl
  · rw [State.goOn, List.countP_cons_of_neg (by simp [leased])]
    exact h.calls
  · rcases List.mem_cons.1 hx with rfl | hx
    · exact .inr trivial
    · exact .inl hx

theorem Inv.leaveObservation (h : Inv s) (hmem : (thread, Point.inObservation) ∈ s.threads) :
    Inv { s with
      activeDeviceObservations := s.activeDeviceObservations - 1
      threads := s.threads.erase (thread, .inObservation) } := by
  refine h.onward (.of_events rfl id Gate.Drained.leave) h.events ?_
    (h.observations.leave hmem rfl) h.closed (fun y hy => .inl (List.mem_of_mem_erase hy))
    fun _ => .inl
  have hcount : (s.threads.erase (thread, .inObservation)).countP leased =
      s.threads.countP leased := by
    simp [List.countP_erase, leased]
  rw [hcount]
  exact h.calls

theorem inner_requestStop :
    inner (EventState.step s.events (.controller .requestStop)) = inner s.events := by
  have hcaptures : (AppController.requestStop s.events.controller).captures =
      s.events.controller.captures := AppController.requestStop_sameCalls.captures
  simp only [inner, EventState.step, AppController.step, hcaptures]

/-- The controller is stopped. -/
theorem Inv.stop (h : Inv s) (thread : ThreadId) (shutdown : Bool) :
    Inv ({ s with events := EventState.step s.events (.controller .requestStop) }.goOn thread
      (.closing shutdown)) := by
  have hstopped : (EventState.step s.events (.controller .requestStop)).controller.running =
      false := by
    simp only [EventState.step, AppController.step, AppController.requestStop]
    split
    · rfl
    next hrunning => exact Bool.eq_false_iff.2 hrunning
  have hstop : Inv { s with events := EventState.step s.events (.controller .requestStop) } := by
    refine h.onward ⟨fun _ => hstopped, id, fun hdrained => ⟨by simp [State.calls, hstopped],
      hdrained.2⟩, id, fun _ loop hloop => ⟨loop, hloop, rfl⟩⟩
      (EventState.step_inv s.events (.controller .requestStop) trivial h.events) ?_ h.observations
      h.closed (fun _ => .inl) fun _ => .inl
    exact h.calls.trans (congrArg _ inner_requestStop.symm)
  exact hstop.goOn thread rfl rfl hstopped

/-- The events are closed. -/
theorem Inv.close (h : Inv s) : Inv { s with events := EventState.step s.events .requestStop } :=
  h.onward ⟨id, fun _ => rfl, id, fun hdrained => ⟨rfl, hdrained.2⟩,
    fun _ loop hloop => ⟨loop, hloop, rfl⟩⟩
    (EventState.step_inv s.events .requestStop trivial h.events) h.calls h.observations
    (fun _ => ⟨rfl, rfl⟩) (fun _ => .inl) fun _ => .inl

/-- The thread that delivers, if there is one, is the one that waits. -/
theorem Inv.alone (h : Inv s) (hawaited : s.events.delivery.draining = false ∨
    s.events.delivery.drainThread = some thread) :
    ∀ loop ∈ s.events.delivery.loops, loop.1 = thread := by
  intro loop hloop
  obtain ⟨hdraining, hthread, -⟩ := h.events.delivery.eq_loop hloop
  rcases hawaited with hidle | hself
  · exact absurd (hidle.symm.trans hdraining) Bool.false_ne_true
  · exact Option.some.inj (hthread.symm.trans hself)

theorem inv_step_thread (h : Inv s) (hmem : (thread, point) ∈ s.threads)
    (hawaited : Awaited thread s point) :
    Inv (advance thread point { s with threads := s.threads.erase (thread, point) }) := by
  have hreached := h.reached _ hmem
  cases point with
  | calling =>
    have herased := h.erase (x := (thread, .calling)) rfl rfl
    rcases hrunning : s.events.controller.running with _ | _
    · have hrefused : Gate.enter s.calls = (false, s.calls) :=
        Gate.enter_of_closed (by simp [State.calls, hrunning])
      simp only [advance, State.calls] at hrefused ⊢
      rw [hrefused]
      exact herased
    · have hentered : Gate.enter s.calls = (true, _) :=
        Gate.enter_of_open (by simp [State.calls, hrunning])
      simp only [advance, State.calls] at hentered ⊢
      rw [hentered]
      exact herased.enterCall thread hrunning
  | inCall => exact h.leaveCall hmem
  | observing =>
    have herased := h.erase (x := (thread, .observing)) rfl rfl
    rcases hclosed : s.events.delivery.closed with _ | _
    · have hentered : Gate.enter s.observations = (true, _) :=
        Gate.enter_of_open (by simp [State.observations, hclosed])
      simp only [advance, State.observations] at hentered ⊢
      rw [hentered]
      exact herased.enterObservation thread hclosed
    · have hrefused : Gate.enter s.observations = (false, s.observations) :=
        Gate.enter_of_closed (by simp [State.observations, hclosed])
      simp only [advance, State.observations] at hrefused ⊢
      rw [hrefused]
      exact herased
  | inObservation => exact h.leaveObservation hmem
  | stopping shutdown =>
    have herased := h.erase (x := (thread, .stopping shutdown)) rfl rfl
    exact herased.stop thread shutdown
  | closing shutdown =>
    have hclosed := (h.erase (x := (thread, .closing shutdown)) rfl rfl).close
    cases shutdown with
    | false => exact hclosed
    | true => exact hclosed.goOn thread rfl rfl ⟨hreached, rfl⟩
  | awaitingCalls =>
    have herased := h.erase (x := (thread, .awaitingCalls)) rfl rfl
    exact herased.goOn thread rfl rfl
      ⟨⟨by simp [State.calls, hreached.1], hawaited⟩, hreached.2⟩
  | draining =>
    have herased := h.erase (x := (thread, .draining)) rfl rfl
    refine herased.onward (.of_events rfl id id) herased.events herased.calls herased.observations
      herased.closed (fun _ => .inl) fun other hother => ?_
    rcases List.mem_cons.1 hother with rfl | hother
    · exact .inr ⟨hreached.1, ⟨hreached.2, hawaited.1⟩, h.alone hawaited.2⟩
    · exact .inl hother

/-- When no call is counted, none is under way. -/
theorem Inv.idle (h : Inv s) (hdrained : s.calls.Drained) : (∀ x ∈ s.threads, leased x = false) ∧
    s.events.controller.captures = [] ∧ s.events.observing = [] := by
  have hcalls := h.calls
  have hactive : s.activeCalls = 0 := hdrained.2
  have hnone : s.threads.countP leased = 0 := by omega
  have hinner : inner s.events = 0 := by omega
  refine ⟨fun x hx => Bool.eq_false_iff.2 (List.countP_eq_zero.1 hnone x hx), ?_, ?_⟩
  · exact List.eq_nil_of_length_eq_zero (Nat.eq_zero_of_add_eq_zero_right hinner)
  · exact List.eq_nil_of_length_eq_zero (Nat.eq_zero_of_add_eq_zero_left hinner)

/-- No event needs a call once none is under way. -/
theorem Inv.needs_none (h : Inv s) (hdrained : s.calls.Drained)
    (hen : Enabled s (.event thread event)) : ¬ NeedsCall event := by
  intro hneeds
  exact absurd ((h.idle hdrained).1 _ (hen.2.2 hneeds)) (by simp [leased])

theorem Inv.still (h : Inv s) (hdrained : s.calls.Drained)
    (hen : Enabled s (.event thread event)) : Still s.events (EventState.step s.events event) := by
  obtain ⟨-, hcaptures, hobserving⟩ := h.idle hdrained
  have hrunning : s.events.controller.running = false := by
    simpa [State.calls] using hdrained.1
  exact still_step hen.1 (h.needs_none hdrained hen) hrunning hcaptures hobserving

theorem inv_proceed (h : Inv s) (hen : Enabled s (.event thread event)) :
    Inv (proceed thread event s) := by
  have henabled := hen.1
  have hstop := hen.2.1
  have hrunning : (EventState.step s.events event).controller.running = _ := running_step hstop
  have hclosed : (EventState.step s.events event).delivery.closed = _ := closed_step hstop
  have hcounts : (proceed thread event s).observations.Counts observes
      (proceed thread event s).threads := by
    have hcount := h.observations
    simp only [Gate.Counts, State.observations, proceed, List.countP_append, observes,
      List.countP_replicate] at hcount ⊢
    simpa using hcount
  refine h.onward ⟨hrunning.trans, hclosed.trans, fun hdrained => ?_, fun hdrained =>
    ⟨hclosed.trans hdrained.1, hdrained.2⟩, fun hsealed => (silent_step henabled hsealed
      (h.closed hsealed)).loops⟩ (EventState.step_inv _ _ henabled h.events) ?_ hcounts
    (fun hsealed => ?_) (fun x hx => ?_) fun _ => .inl
  · have hstill := h.still hdrained hen
    have hinner : inner (EventState.step s.events event) = 0 := by
      simp [inner, hstill.captures, hstill.observing]
    have hactive : s.activeCalls = 0 := hdrained.2
    refine ⟨by simp [State.calls, proceed, hstill.running], ?_⟩
    simp [State.calls, proceed, hinner, hactive]
  · have hcalls := h.calls
    simp only [proceed, List.countP_append, List.countP_replicate, leased, beq_self_eq_true,
      if_true] at hcalls ⊢
    omega
  · have hsilent := silent_step henabled (hclosed.symm.trans hsealed)
      (h.closed (hclosed.symm.trans hsealed))
    exact ⟨hsilent.queue, hsilent.registered⟩
  · rcases List.mem_append.1 hx with hx | hx
    · rw [(List.mem_replicate.1 hx).2]
      exact .inr trivial
    · exact .inl hx

theorem inv_step (hen : Enabled s e) (h : Inv s) : Inv (handle s e) := by
  cases e with
  | call thread | observe thread | requestStop thread | shutdown thread =>
    exact h.goOn thread rfl rfl trivial
  | step thread point => exact inv_step_thread h hen.1 hen.2
  | event thread event => exact inv_proceed h hen
  | record thread =>
    exact h.onward (.of_events rfl id id) h.events h.calls h.observations h.closed (fun _ => .inl)
      fun _ => .inl

theorem inv_initial (owners : AppController.Parts) :
    Inv { events := { controller := { owners := owners } } } where
  events := EventState.inv_initial owners
  calls := rfl
  observations := rfl
  closed := nofun
  reached := nofun
  returned := nofun

/-! ## After the shutdown -/

/-- What nobody changes any more. -/
structure Ended (s t : State) : Prop where
  generation : t.events.controller.generation = s.events.controller.generation
  snapshots : t.events.controller.snapshots = s.events.controller.snapshots
  observed : t.events.observed = s.events.observed
  published : EventState.published t.events.delivery = EventState.published s.events.delivery
  told : ∀ id, EventState.told id t.events.delivery = EventState.told id s.events.delivery
  recorded : t.recorded = s.recorded

theorem Ended.of_same (h : t.events = s.events) (hrecorded : t.recorded = s.recorded) :
    Ended s t :=
  ⟨by rw [h], by rw [h], by rw [h], by rw [h], fun _ => by rw [h], hrecorded⟩

theorem Ended.of_step (hstill : Still s.events t.events) (hsilent : Silent s.events t.events)
    (hrecorded : t.recorded = s.recorded) : Ended s t :=
  ⟨hstill.generation, hstill.snapshots, hstill.observed, hsilent.published, hsilent.told, hrecorded⟩

theorem Ended.trans {u : State} (h : Ended s t) (h' : Ended t u) : Ended s u where
  generation := h'.generation.trans h.generation
  snapshots := h'.snapshots.trans h.snapshots
  observed := h'.observed.trans h.observed
  published := h'.published.trans h.published
  told := fun id => (h'.told id).trans (h.told id)
  recorded := h'.recorded.trans h.recorded

/-- A step of `RequestStop` changes nothing any more. -/
theorem Inv.ended_stop (h : Inv s) (hover : Over thread s) (event : EventState.Event)
    (hneeds : ¬ NeedsCall event) (henabled : EventState.Enabled s.events event)
    (ht : t.events = EventState.step s.events event) (hrecorded : t.recorded = s.recorded) :
    Ended s t := by
  obtain ⟨-, hcaptures, hobserving⟩ := h.idle hover.calls
  have hrunning : s.events.controller.running = false := by
    simpa [State.calls] using hover.calls.1
  have hsealed : s.events.delivery.closed = true := hover.observations.1
  exact .of_step (ht ▸ still_step henabled hneeds hrunning hcaptures hobserving)
    (ht ▸ silent_step henabled hsealed (h.closed hsealed)) hrecorded

theorem ended_step (hen : Enabled s e) (h : Inv s) (hover : Over thread s) :
    Ended s (handle s e) := by
  cases e with
  | call | observe | requestStop | shutdown => exact .of_same rfl rfl
  | step other point =>
    cases point with
    | calling =>
      have hrefused : Gate.enter s.calls = (false, s.calls) := hover.calls.enter
      simp only [handle, advance, State.calls] at hrefused ⊢
      rw [hrefused]
      exact .of_same rfl rfl
    | observing =>
      have hrefused : Gate.enter s.observations = (false, s.observations) :=
        hover.observations.enter
      simp only [handle, advance, State.observations] at hrefused ⊢
      rw [hrefused]
      exact .of_same rfl rfl
    | inCall | inObservation | awaitingCalls | draining => exact .of_same rfl rfl
    | stopping shutdown =>
      exact h.ended_stop hover (.controller .requestStop) not_false trivial rfl rfl
    | closing shutdown =>
      cases shutdown with
      | false | true => exact h.ended_stop hover .requestStop not_false trivial rfl rfl
  | event other event =>
    exact h.ended_stop hover event (h.needs_none hover.calls hen) hen.1 rfl rfl
  | record other =>
    have hnone := h.observations.none_inside hover.observations _ hen
    exact absurd hnone (by simp [observes])

theorem returned_step (e : Event) (h : thread ∈ s.returned) :
    thread ∈ (handle s e).returned := by
  cases e with
  | step other point =>
    cases point with
    | calling | observing =>
      simp only [handle, advance]
      split <;> exact h
    | closing shutdown => cases shutdown <;> exact h
    | draining => exact .tail _ h
    | inCall | inObservation | stopping | awaitingCalls => exact h
  | call | observe | requestStop | shutdown | event | record => exact h

theorem ended_exec : ∀ {s : State} {es : List Event}, controllerShutdown.Run s es → Inv s →
    thread ∈ s.returned → Ended s (controllerShutdown.exec s es)
  | _, [], _, _, _ => .of_same rfl rfl
  | s, e :: es, ⟨hen, hrun⟩, h, hreturned => by
    have hmem : thread ∈ (handle s e).returned := returned_step e hreturned
    exact (ended_step hen h (h.returned thread hreturned)).trans
      (ended_exec hrun (inv_step hen h) hmem)

/-- What holds once `Shutdown` has returned to a thread. -/
structure Final (thread : ThreadId) (s : State) : Prop where
  /-- No call of the controller is under way, -/
  calls : (∀ x ∈ s.threads, x.2 ≠ .inCall) ∧ s.events.controller.captures = [] ∧
    s.events.observing = []
  /-- and no device fact is observed. -/
  observations : ∀ x ∈ s.threads, x.2 ≠ .inObservation
  /-- No event is to be delivered, and a handler is called only by that thread itself. -/
  handlers : s.events.delivery.registered = [] ∧ s.events.delivery.queue = [] ∧
    (∀ loop ∈ s.events.delivery.loops, loop.1 = thread) ∧
    ∀ call ∈ s.events.delivery.executing, call.2 = thread
  /-- From then on no snapshot or observation is returned, no event is published, no handler is
  called, no connection is recorded and the generation is the same. -/
  later : ∀ es, controllerShutdown.Run s es → Ended s (controllerShutdown.exec s es)

/-- What `Shutdown` waits for, and what it leaves. -/
structure Barrier (s : State) : Prop where
  /-- Its first wait is over when no call is under way, -/
  calls : ∀ thread, (thread, .awaitingCalls) ∈ s.threads → (∀ x ∈ s.threads, x.2 ≠ .inCall) →
    s.events.controller.captures = [] → s.events.observing = [] →
    Enabled s (.step thread .awaitingCalls)
  /-- and its second when no fact is observed and no other thread delivers. -/
  drain : ∀ thread, (thread, .draining) ∈ s.threads → (∀ x ∈ s.threads, x.2 ≠ .inObservation) →
    (∀ loop ∈ s.events.delivery.loops, loop.1 = thread) → Enabled s (.step thread .draining)
  returned : ∀ thread ∈ s.returned, Final thread s

/-- Who executes a handler is the one who delivers. -/
theorem Inv.executing (h : Inv s) (hloops : ∀ loop ∈ s.events.delivery.loops, loop.1 = thread) :
    ∀ call ∈ s.events.delivery.executing, call.2 = thread := by
  intro call hcall
  rcases h.events.delivery.alone with ⟨-, -, -, hnone⟩ | ⟨other, point, -, -, hone, hexecuting⟩
  · rw [hnone] at hcall
    cases hcall
  · rw [hexecuting] at hcall
    obtain ⟨subscriber, -, rfl⟩ := List.mem_map.1 hcall
    exact hloops (other, point) (by rw [hone]; exact .head _)

theorem Inv.final (h : Inv s) (hreturned : thread ∈ s.returned) : Final thread s := by
  have hover := h.returned thread hreturned
  obtain ⟨hleased, hcaptures, hobserving⟩ := h.idle hover.calls
  have hobserves := h.observations.none_inside hover.observations
  obtain ⟨hqueue, hregistered⟩ := h.closed hover.observations.1
  refine ⟨⟨fun x hx hpoint => ?_, hcaptures, hobserving⟩, fun x hx hpoint => ?_,
    ⟨hregistered, hqueue, hover.loops, h.executing hover.loops⟩,
    fun es hrun => ended_exec hrun h hreturned⟩
  · exact absurd (hleased x hx) (by simp [leased, hpoint])
  · exact absurd (hobserves x hx) (by simp [observes, hpoint])

/-- `Shutdown` waits no longer than somebody is inside, and nothing of what the controller does goes
on after it has returned. -/
theorem shutdown_final {owners : AppController.Parts} {s : State}
    (h : controllerShutdown.Reachable { events := { controller := { owners := owners } } } s) :
    Barrier s := by
  have hinv : Inv s := h.invariant (fun _ _ hen => inv_step hen) (inv_initial owners)
  refine ⟨fun thread hmem hcalls hcaptures hobserving => ⟨hmem, ?_⟩,
    fun thread hmem hobserves hloops => ⟨hmem, ?_, ?_⟩, fun thread => hinv.final⟩
  · have hnone : s.threads.countP leased = 0 :=
      List.countP_eq_zero.2 fun x hx => by simpa [leased] using hcalls x hx
    have hactive := hinv.calls
    rw [hnone, inner, hcaptures, hobserving] at hactive
    exact hactive
  · have hnone : s.threads.countP observes = 0 :=
      List.countP_eq_zero.2 fun x hx => by simpa [observes] using hobserves x hx
    exact Eq.trans hinv.observations hnone
  · rcases hinv.events.delivery.alone with ⟨hidle, -⟩ | ⟨other, point, -, hthread, hone, -⟩
    · exact .inl hidle
    · have hself : other = thread := hloops (other, point) (by rw [hone]; exact .head _)
      exact .inr (hself ▸ hthread)

/-- A fact is observed and a handler told of its event, and a call is under way, when the controller
is shut down. -/
def busyShutdown : List Event :=
  let item : EventState.EventNotification := ⟨1, .deviceActivityChanged, 7⟩
  [.event 6 .subscribe, .observe 7, .step 7 .observing, .record 7,
    .event 7 (.publish 7 item.event 7), .event 7 (.drain (7, .taking)),
    .event 7 (.drain (7, .handing item [1])), .call 8, .step 8 .calling, .shutdown 9,
    .step 9 (.stopping true), .step 9 (.closing true), .step 8 .inCall, .step 9 .awaitingCalls,
    .event 7 (.drain (7, .calling item 1 [])), .event 7 (.drain (7, .handing item [])),
    .event 7 (.drain (7, .taking)), .step 7 .inObservation, .step 9 .draining]

theorem shutdown_final_busy :
    let s := controllerShutdown.exec { events := EventState.quietState } busyShutdown
    s.returned = [9] ∧ s.recorded = 1 ∧ Barrier s := by
  have hrun : controllerShutdown.Run { events := EventState.quietState } busyShutdown := by
    refine ⟨⟨trivial, not_false, nofun⟩, trivial, ⟨.head _, trivial⟩, .head _,
      ⟨Nat.le_refl 7, not_false, nofun⟩, ⟨.head _, not_false, nofun⟩, ⟨.head _, not_false, nofun⟩,
      trivial, ⟨.head _, trivial⟩, trivial, ⟨.head _, trivial⟩, ⟨.head _, trivial⟩,
      ⟨.tail _ (.head _), trivial⟩, ⟨.head _, rfl⟩, ⟨.head _, not_false, nofun⟩,
      ⟨.head _, not_false, nofun⟩, ⟨.head _, not_false, nofun⟩, ⟨.tail _ (.head _), trivial⟩,
      ⟨.head _, rfl, .inl rfl⟩, trivial⟩
  exact ⟨rfl, rfl, shutdown_final ⟨busyShutdown, hrun, rfl⟩⟩

end ControllerShutdown

end PlaybackConnector
