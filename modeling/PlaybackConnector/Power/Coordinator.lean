import PlaybackConnector.Session.State
import PlaybackConnector.Transition.System

/-!
# The power-transition coordinator

`PowerTransitionCoordinator` (`PowerTransitionCoordinator.cpp`). The lifecycle methods run on the
host's UI context, one after the other, and call back into the host between their critical
sections; the timer's ticks and the workers' completions come at any time. So `HandleSuspend` and
`HandleResume` are split where they call the host, `UiCall` says which of them is under way, and
every other event can come between their parts.

A `Reconnect` callback is only known to be callable or empty. The ledger's fields (`scheduled`,
`deliveries`, `inFlight`, `matched`) are read by no code: they say for which generations a timer
was scheduled, what was handed to the host and not completed yet, and whether a matched resume has
come since the last suspend.
-/

namespace PlaybackConnector

namespace PowerTransitionCoordinator

/-! ## Recovery state -/

/-- Source: `c_duplicateResumeWindow` (`PowerTransitionCoordinator.cpp:18`), in seconds. -/
def duplicateResumeWindow : Nat := 2

/-- Source: `c_maxResumeReconnectAttempts` (`PowerTransitionCoordinator.cpp:19`). -/
def maxResumeReconnectAttempts : Nat := 6

/-- Source: `ResumeState::Target` (`PowerTransitionCoordinator.cpp:70`). -/
structure Target where
  id : WString
  attempts : Nat
deriving Repr, DecidableEq

/-- Source: `ResumeState::Selection` (`PowerTransitionCoordinator.cpp:74`). -/
structure Selection where
  eligible : List WString
  exhausted : List WString
deriving Repr, DecidableEq

/-- Source: `ResumeState` (`PowerTransitionCoordinator.cpp:66`). -/
structure ResumeState where
  targets : List Target
  generation : Nat
  deliverySequence : Nat
  /-- The callback, when there is one, and whether it can be called. -/
  reconnect : Option Bool
  deliveryInFlight : Bool
  cancelled : Bool
deriving Repr, DecidableEq

namespace ResumeState

/-- One id of a new cycle. Source: the loop of `BeginCycle` (`PowerTransitionCoordinator.cpp:83`). -/
def capture (targets : List Target) (id : WString) : List Target :=
  if id ≠ [] ∧ ∀ target ∈ targets, target.id ≠ id then targets ++ [⟨id, 0⟩] else targets

/-- Source: `BeginCycle` (`PowerTransitionCoordinator.cpp:80`). -/
def beginCycle (activeDeviceIds : List WString) (s : ResumeState) : ResumeState :=
  { s with
    targets := activeDeviceIds.foldl capture
      (s.targets.map fun target => { target with attempts := 0 }) }

/-- The target may not be attempted any more. -/
def Target.isExhausted (target : Target) : Bool := maxResumeReconnectAttempts ≤ target.attempts

/-- What `SelectEligible` returns. Source: `SelectEligible` (`PowerTransitionCoordinator.cpp:89`). -/
def selection (s : ResumeState) : Selection where
  eligible := (s.targets.filter (!Target.isExhausted ·)).map (·.id)
  exhausted := (s.targets.filter (Target.isExhausted ·)).map (·.id)

/-- What `SelectEligible` leaves. Source: `PowerTransitionCoordinator.cpp:94`. -/
def dropExhausted (s : ResumeState) : ResumeState :=
  { s with targets := s.targets.filter (!Target.isExhausted ·) }

/-- Source: `RecordAttempts` (`PowerTransitionCoordinator.cpp:98`). -/
def recordAttempts (attemptedIds : List WString) (s : ResumeState) : ResumeState :=
  { s with
    targets := s.targets.map fun target =>
      if target.id ∈ attemptedIds then { target with attempts := target.attempts + 1 }
      else target }

end ResumeState

/-- What was handed to a `Reconnect` callback. -/
structure Delivery where
  generation : Nat
  sequence : Nat
  ids : List WString
deriving Repr, DecidableEq

/-- The lifecycle method that is under way: it waits for a callback of the host, or for the
scheduler. -/
inductive UiCall
  | none
  | suspending (generation : Nat)
  | resuming (matchedSuspend : Bool)
  | scheduling (generation : Nat)
deriving Repr, DecidableEq

/-- Source: the members of `PowerTransitionCoordinator` (`PowerTransitionCoordinator.hpp:65`). -/
structure State where
  exiting : Bool
  powerSuspended : Bool
  resumeState : ResumeState
  lastResumeHandledAt : Nat
  /-- The generation of the timer that can be cancelled. -/
  cancelTimer : Option Nat
  call : UiCall
  scheduled : List Nat
  deliveries : List Delivery
  inFlight : List Delivery
  matched : Bool
deriving Repr, DecidableEq

/-- A new coordinator. -/
def initial : State where
  exiting := false
  powerSuspended := false
  resumeState := ⟨[], 0, 0, none, false, false⟩
  lastResumeHandledAt := 0
  cancelTimer := none
  call := .none
  scheduled := []
  deliveries := []
  inFlight := []
  matched := false

/-! ## The methods -/

/-- Source: `Cancel` (`PowerTransitionCoordinator.cpp:131`). -/
def cancel (s : State) : State :=
  { s with
    resumeState := { s.resumeState with
      cancelled := true
      targets := []
      reconnect := none
      deliveryInFlight := false
      generation := s.resumeState.generation + 1 }
    cancelTimer := none }

/-- `HandleSuspend` up to its callbacks. Source: `PowerTransitionCoordinator.cpp:144`. -/
def beginSuspend (s : State) : State :=
  if s.exiting ∨ s.powerSuspended then s
  else
    { s with
      powerSuspended := true
      resumeState := { s.resumeState with
        cancelled := true
        reconnect := none
        deliveryInFlight := false
        generation := s.resumeState.generation + 1 }
      cancelTimer := none
      call := .suspending (s.resumeState.generation + 1)
      matched := false }

/-- `HandleSuspend` after its callbacks. Source: `PowerTransitionCoordinator.cpp:161`. -/
def endSuspend (generation : Nat) (activeDeviceIds : List WString) (s : State) : State :=
  if s.resumeState.generation ≠ generation ∨ s.exiting then { s with call := .none }
  else
    { s with
      resumeState := { s.resumeState.beginCycle activeDeviceIds with cancelled := false }
      call := .none }

/-- `HandleResume` up to its callback. Source: `PowerTransitionCoordinator.cpp:175`. -/
def beginResume (now : Nat) (s : State) : State :=
  if s.exiting then s
  else if !s.powerSuspended ∧ s.lastResumeHandledAt ≠ 0 ∧
      now - s.lastResumeHandledAt < duplicateResumeWindow then s
  else
    { s with
      lastResumeHandledAt := now
      powerSuspended := false
      call := .resuming s.powerSuspended
      matched := s.matched || s.powerSuspended }

/-- `HandleResume` after its callback. Source: `PowerTransitionCoordinator.cpp:184`. -/
def armResume (matchedSuspend callable : Bool) (s : State) : State :=
  if !matchedSuspend then { s with call := .none }
  else
    let s := { s with cancelTimer := none, call := .none }
    if s.resumeState.cancelled ∨ s.resumeState.targets = [] then s
    else
      { s with
        resumeState := { s.resumeState with reconnect := some callable, deliveryInFlight := false }
        call := .scheduling s.resumeState.generation }

/-- The scheduler returned a cancellation handle. Source: `PowerTransitionCoordinator.cpp:196`. -/
def schedule (generation : Nat) (s : State) : State :=
  { s with cancelTimer := some generation, scheduled := generation :: s.scheduled, call := .none }

/-- Source: `NotifyDeviceConnected` (`PowerTransitionCoordinator.cpp:215`). -/
def notifyDeviceConnected (deviceId : WString) (s : State) : State :=
  if deviceId = [] then s
  else
    let s := { s with resumeState := { s.resumeState with
      targets := s.resumeState.targets.filter (·.id ≠ deviceId) } }
    if s.resumeState.targets = [] then { s with cancelTimer := none } else s

/-- `DeliverResumeReconnect` selects targets, and hands the eligible ones to the callback. Source:
`DeliverResumeReconnect` (`PowerTransitionCoordinator.cpp:239`). -/
def hand (s : State) : State :=
  let selection := s.resumeState.selection
  let resumeState := s.resumeState.dropExhausted
  let resumeState := { resumeState with
    deliverySequence := resumeState.deliverySequence + 1
    deliveryInFlight := selection.eligible ≠ [] ∧ resumeState.reconnect = some true }
  let s := { s with resumeState := resumeState }
  if resumeState.deliveryInFlight then
    let delivery : Delivery :=
      ⟨resumeState.generation, resumeState.deliverySequence, selection.eligible⟩
    { s with deliveries := delivery :: s.deliveries, inFlight := delivery :: s.inFlight }
  else s

/-- Source: `DeliverResumeReconnect` (`PowerTransitionCoordinator.cpp:239`). -/
def deliverResumeReconnect (generation : Nat) (s : State) : State :=
  if s.resumeState.cancelled ∨ s.resumeState.generation ≠ generation ∨ s.resumeState.targets = []
  then s
  else if s.resumeState.deliveryInFlight then s
  else hand s

/-- A callback reports that it is done. Source: `completed` (`PowerTransitionCoordinator.cpp:259`). -/
def complete (generation sequence : Nat) (attemptedIds : List WString) (s : State) : State :=
  let s := { s with inFlight := s.inFlight.filter fun delivery =>
    ¬ (delivery.generation = generation ∧ delivery.sequence = sequence) }
  if s.resumeState.cancelled ∨ s.resumeState.generation ≠ generation ∨
      s.resumeState.deliverySequence ≠ sequence ∨ !s.resumeState.deliveryInFlight then s
  else
    { s with resumeState := { s.resumeState.recordAttempts attemptedIds with
      deliveryInFlight := false } }

/-! ## The coordinator as an event system -/

/-- What can happen to a coordinator. -/
inductive Event
  | exit
  | suspend
  /-- The callbacks of `HandleSuspend` return. -/
  | suspended (activeDeviceIds : List WString)
  | suspendThrew
  | resume (now : Nat)
  /-- The callback of `HandleResume` returns. -/
  | resumed (callable : Bool)
  | resumeThrew
  | timerScheduled
  | timerUnavailable
  | tick (generation : Nat)
  | completed (generation sequence : Nat) (attemptedIds : List WString)
  | connected (deviceId : WString)
  | cancel
deriving Repr, DecidableEq

/-- A lifecycle method begins when none is under way, and its parts come in their order; a tick
needs a timer, and a completion a delivery. -/
def Enabled (s : State) : Event → Prop
  | .suspend | .resume _ => s.call = .none
  | .suspended _ | .suspendThrew => ∃ generation, s.call = .suspending generation
  | .resumed _ | .resumeThrew => ∃ matchedSuspend, s.call = .resuming matchedSuspend
  | .timerScheduled | .timerUnavailable => ∃ generation, s.call = .scheduling generation
  | .tick generation => generation ∈ s.scheduled
  | .completed generation sequence _ =>
    ∃ delivery ∈ s.deliveries, delivery.generation = generation ∧ delivery.sequence = sequence
  | .exit | .connected _ | .cancel => True

instance (s : State) : DecidablePred (Enabled s)
  | .suspend | .resume _ => inferInstanceAs (Decidable (s.call = .none))
  | .suspended _ | .suspendThrew =>
    match h : s.call with
    | .suspending generation => isTrue ⟨generation, h⟩
    | .none | .resuming _ | .scheduling _ => isFalse (by rintro ⟨_, h'⟩; simp [h] at h')
  | .resumed _ | .resumeThrew =>
    match h : s.call with
    | .resuming matchedSuspend => isTrue ⟨matchedSuspend, h⟩
    | .none | .suspending _ | .scheduling _ => isFalse (by rintro ⟨_, h'⟩; simp [h] at h')
  | .timerScheduled | .timerUnavailable =>
    match h : s.call with
    | .scheduling generation => isTrue ⟨generation, h⟩
    | .none | .suspending _ | .resuming _ => isFalse (by rintro ⟨_, h'⟩; simp [h] at h')
  | .tick _ => inferInstanceAs (Decidable (_ ∈ s.scheduled))
  | .completed _ _ _ => inferInstanceAs (Decidable (∃ delivery ∈ s.deliveries, _))
  | .exit | .connected _ | .cancel => inferInstanceAs (Decidable True)

/-- The step of an event. -/
def handle (s : State) : Event → State
  | .exit => { s with exiting := true }
  | .suspend => beginSuspend s
  | .suspended activeDeviceIds =>
    match s.call with
    | .suspending generation => endSuspend generation activeDeviceIds s
    | _ => s
  | .resume now => beginResume now s
  | .resumed callable =>
    match s.call with
    | .resuming matchedSuspend => armResume matchedSuspend callable s
    | _ => s
  | .suspendThrew | .resumeThrew => { s with call := .none }
  | .timerScheduled =>
    match s.call with
    | .scheduling generation => schedule generation s
    | _ => s
  | .timerUnavailable =>
    match s.call with
    | .scheduling generation => deliverResumeReconnect generation { s with call := .none }
    | _ => s
  | .tick generation => deliverResumeReconnect generation s
  | .completed generation sequence attemptedIds => complete generation sequence attemptedIds s
  | .connected deviceId => notifyDeviceConnected deviceId s
  | .cancel => cancel s

end PowerTransitionCoordinator

/-- Source: `PowerTransitionCoordinator` (`PowerTransitionCoordinator.hpp:18`). -/
def powerTransitionCoordinator :
    EventSystem PowerTransitionCoordinator.State PowerTransitionCoordinator.Event where
  enabled := PowerTransitionCoordinator.Enabled
  step := PowerTransitionCoordinator.handle

instance (s : PowerTransitionCoordinator.State) (e : PowerTransitionCoordinator.Event) :
    Decidable (powerTransitionCoordinator.enabled s e) :=
  inferInstanceAs (Decidable (PowerTransitionCoordinator.Enabled s e))

end PlaybackConnector
