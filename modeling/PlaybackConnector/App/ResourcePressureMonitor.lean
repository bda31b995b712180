import PlaybackConnector.App.ResourcePressureState
import Mathlib

/-!
# The resource pressure monitor

`ResourcePressureMonitor` (`ResourcePressureMonitor.cpp`): every start of the monitor has a context
of its own, whose callbacks probe the system, any number of them at a time, and one of which
delivers the snapshots that were accepted to the handler. A context that is not the current one any
more drops what its probes bring.

A stop waits for the mutex of the context before another one is started, so that what a probe finds
when it has locked the mutex stays so until it has unlocked it: its check and what follows are one
step.
-/

namespace PlaybackConnector

/-- Source: `ResourcePressureSnapshot` (`ResourcePressureMonitor.hpp:14`). -/
structure ResourcePressureSnapshot where
  /-- Source: `Values`. -/
  values : ResourcePressureValues
  /-- Source: `ObservedAt`. -/
  observedAt : TimePoint
  /-- Source: `Sequence`. -/
  sequence : Nat
deriving Repr, DecidableEq

namespace ResourcePressureMonitor

/-- Where the thread is that delivers the snapshots of a context. -/
inductive Point
  /-- Before the next round of the loop. -/
  | loop
  /-- The handler is called. -/
  | called (snapshot : ResourcePressureSnapshot)
  /-- The handler has found that its owner is not stopped. -/
  | admitted (snapshot : ResourcePressureSnapshot)
  /-- The owner knows of the constraint, if the snapshot is one. -/
  | fenced (snapshot : ResourcePressureSnapshot)
deriving Repr, DecidableEq

/-- The snapshot that the handler is called with. -/
def Point.snapshots : Point → List ResourcePressureSnapshot
  | loop => []
  | called snapshot | admitted snapshot | fenced snapshot => [snapshot]

/-- Source: `RunContext` (`ResourcePressureMonitor.cpp:82`). -/
structure RunContext where
  /-- Source: `Running`. -/
  running : Bool := false
  /-- Source: `NextProbeTicket`. -/
  nextProbeTicket : Nat := 0
  /-- Source: `LastAppliedProbeTicket`. -/
  lastAppliedProbeTicket : Nat := 0
  /-- Source: `Reducer`. -/
  reducer : ResourcePressureValues := {}
  /-- Source: `LastPublished`. -/
  lastPublished : Option ResourcePressureValues := none
  /-- Source: `LastSnapshotPublishedAt`. -/
  lastSnapshotPublishedAt : Option TimePoint := none
  /-- Source: `PendingSnapshots`. -/
  pendingSnapshots : List ResourcePressureSnapshot := []
  /-- Source: `DeliveryActive`. -/
  deliveryActive : Bool := false
  /-- The callbacks that may probe and have no ticket yet. -/
  admitted : Nat := 0
  /-- The tickets of the probes under way. -/
  probing : List Nat := []
  /-- The thread that delivers. -/
  delivery : Option Point := none
deriving Repr, DecidableEq

/-- The snapshots that are still to be dispatched. -/
def RunContext.undelivered (context : RunContext) : List ResourcePressureSnapshot :=
  (context.delivery.map Point.snapshots).getD [] ++ context.pendingSnapshots

/-- Source: `Impl` (`ResourcePressureMonitor.cpp:81`), with the contexts by their epochs. -/
structure State where
  /-- Source: `HeartbeatInterval`. -/
  heartbeatInterval : Int := 30000
  /-- Source: `Epoch`. -/
  epoch : Nat := 0
  /-- Source: `Sequence`. -/
  sequence : Nat := 0
  /-- Every context that there was. -/
  contexts : Nat → RunContext := fun _ => {}

/-- A context is what is given. -/
def State.setContext (s : State) (epoch : Nat) (context : RunContext) : State :=
  { s with contexts := Function.update s.contexts epoch context }

@[simp] theorem State.epoch_setContext (s : State) (epoch : Nat) (context : RunContext) :
    (s.setContext epoch context).epoch = s.epoch := rfl

@[simp] theorem State.sequence_setContext (s : State) (epoch : Nat) (context : RunContext) :
    (s.setContext epoch context).sequence = s.sequence := rfl

@[simp] theorem State.contexts_setContext (s : State) (epoch : Nat) (context : RunContext) :
    (s.setContext epoch context).contexts epoch = context :=
  Function.update_self ..

theorem State.contexts_setContext_of_ne (s : State) {epoch other : Nat} (h : other ≠ epoch)
    (context : RunContext) : (s.setContext epoch context).contexts other = s.contexts other :=
  Function.update_of_ne h ..

/-- The context runs and is the current one. -/
def State.isCurrent (s : State) (epoch : Nat) : Bool :=
  (s.contexts epoch).running && s.epoch == epoch

/-! ## Start and stop -/

/-- A new context. Source: `Start` (`ResourcePressureMonitor.cpp:326`). -/
def start (s : State) : State :=
  { s with epoch := s.epoch + 1 }.setContext (s.epoch + 1) { running := true }

/-- No context is the current one. Source: `Stop` (`ResourcePressureMonitor.cpp:358`). -/
def stop (s : State) : State := { s with epoch := s.epoch + 1 }

/-- Source: `Shutdown` (`ResourcePressureMonitor.cpp:131`). -/
def shutdown (epoch : Nat) (s : State) : State :=
  s.setContext epoch { s.contexts epoch with running := false }

/-! ## Probes -/

/-- A callback passes the first check. Source: `ProbeAndPublish`
(`ResourcePressureMonitor.cpp:189`). -/
def enterProbe (epoch : Nat) (s : State) : State :=
  let context := s.contexts epoch
  if s.isCurrent epoch then s.setContext epoch { context with admitted := context.admitted + 1 }
  else s

/-- It takes its ticket and begins to measure. Source: `ProbeAndPublish`
(`ResourcePressureMonitor.cpp:190`). -/
def takeTicket (epoch : Nat) (s : State) : State :=
  let context := s.contexts epoch
  s.setContext epoch { context with
    admitted := context.admitted - 1
    nextProbeTicket := context.nextProbeTicket + 1
    probing := context.probing ++ [context.nextProbeTicket + 1] }

/-- It is time for a snapshot even if nothing changed. Source: `heartbeatDue`
(`ResourcePressureMonitor.cpp:215`). -/
def heartbeatDue (interval : Int) (observedAt : TimePoint) (context : RunContext) : Bool :=
  match context.lastSnapshotPublishedAt with
  | none => true
  | some publishedAt => AdaptiveResourcePolicy.ticks interval ≤ observedAt - publishedAt

/-- The snapshot that is accepted with the values. Source: `ProbeAndPublish`
(`ResourcePressureMonitor.cpp:217`). -/
def acceptedSnapshot (values : ResourcePressureValues) (observedAt : TimePoint)
    (context : RunContext) (s : State) : Option ResourcePressureSnapshot :=
  if context.lastPublished ≠ some values ∨
      heartbeatDue s.heartbeatInterval observedAt context = true then
    some ⟨values, observedAt, s.sequence + 1⟩
  else none

/-- A snapshot waits for its delivery, which begins if there is none. Source: `ProbeAndPublish`
(`ResourcePressureMonitor.cpp:219`). -/
def enqueue (snapshot : ResourcePressureSnapshot) (context : RunContext) : RunContext :=
  { context with
    pendingSnapshots := context.pendingSnapshots ++ [snapshot]
    lastPublished := some snapshot.values
    lastSnapshotPublishedAt := some snapshot.observedAt
    deliveryActive := true
    delivery := if context.deliveryActive then context.delivery else some .loop }

/-- A probe is too old, or its context is. Source: `ProbeAndPublish`
(`ResourcePressureMonitor.cpp:206`). -/
def isDropped (epoch ticket : Nat) (s : State) : Bool :=
  !s.isCurrent epoch || decide (ticket ≤ (s.contexts epoch).lastAppliedProbeTicket)

/-- The snapshot that a probe brings. -/
def finished (epoch : Nat) (probe : ResourcePressureProbe) (observedAt : TimePoint)
    (s : State) : Option ResourcePressureSnapshot :=
  let context := s.contexts epoch
  acceptedSnapshot (context.reducer.apply probe) observedAt context s

/-- A probe has measured. Source: `ProbeAndPublish` (`ResourcePressureMonitor.cpp:204`). -/
def finishProbe (epoch ticket : Nat) (probe : ResourcePressureProbe) (observedAt : TimePoint)
    (s : State) : State :=
  let context := { s.contexts epoch with probing := (s.contexts epoch).probing.erase ticket }
  if isDropped epoch ticket s then s.setContext epoch context
  else
    let context := { context with
      lastAppliedProbeTicket := ticket
      reducer := context.reducer.apply probe }
    match finished epoch probe observedAt s with
    | none => s.setContext epoch context
    | some snapshot =>
      { s with sequence := s.sequence + 1 }.setContext epoch (enqueue snapshot context)

/-! ## Delivery -/

/-- A round of the loop begins. Source: `ProbeAndPublish` (`ResourcePressureMonitor.cpp:244`). -/
def takeSnapshot (epoch : Nat) (s : State) : State :=
  let context := s.contexts epoch
  match context.pendingSnapshots with
  | snapshot :: rest =>
    if s.isCurrent epoch then
      s.setContext epoch { context with
        pendingSnapshots := rest
        delivery := some (.called snapshot) }
    else s.setContext epoch { context with
      pendingSnapshots := []
      deliveryActive := false
      delivery := none }
  | [] => s.setContext epoch { context with
      deliveryActive := false
      delivery := none }

/-- The delivering thread goes on to a point. -/
def moveTo (epoch : Nat) (point : Point) (s : State) : State :=
  s.setContext epoch { s.contexts epoch with delivery := some point }

end ResourcePressureMonitor

end PlaybackConnector
