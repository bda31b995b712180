import PlaybackConnector.Transition.System
import Mathlib

/-!
# The UI dispatcher

`UiDispatcher::Run` (`UiDispatcher.cpp:117`). A task is given to the dispatcher's queue or, when
that rejects it, to a queue of the dispatcher's own, of which a window message tells the UI thread.
The steps are the critical sections of `Mutex`, the accesses of `Stopped`, and the calls of the two
transports, of any number of threads. The UI thread may go on with anything that it has begun, as
nested message loops make it do; a callback that finds the state gone is one that was dropped.

A call of `Run` and its task are known by the call's number. What is assumed of the dispatcher's
queue is that it has queued the callback if it says so, and that a refusal or an exception means
that it has not.
-/

namespace PlaybackConnector

namespace UiDispatcher

/-- The number of a call of `Run`. -/
abbrev Ticket := Nat

/-- Where a call of `Run` stands. -/
inductive Point
  /-- Before it looks at its task and at `Stopped`. -/
  | entered
  /-- On the UI thread, before `Invoke` looks at `Stopped`. -/
  | invoking
  /-- On the UI thread, in the task. -/
  | working
  /-- In `Enqueue`. -/
  | enqueuing
  /-- In `Enqueue`, which has queued the callback. -/
  | enqueued
  /-- Before the first critical section of `Fallback`. -/
  | fallingBack
  /-- Before `PostMessageW`. -/
  | posting
  /-- Before the second critical section of `Fallback`. -/
  | posted (result : Bool)
  | returned (result : Bool)
deriving Repr, DecidableEq

/-- A call of `Run`, and what became of its task. -/
structure Call where
  onUiThread : Bool
  hasTask : Bool
  point : Point := .entered
  /-- The dispatcher's queue holds its callback. -/
  callback : Bool := false
  /-- Source: `PendingTask::Claimed` (`UiDispatcher.cpp:21`). -/
  claimed : Bool := false
  /-- The window's queue holds its message. -/
  message : Bool := false
  /-- A queue dropped its callback or its message. No code reads it. -/
  lost : Bool := false
  /-- How often its task was begun. No code reads it. -/
  runs : Nat := 0
deriving Repr, DecidableEq

/-- What the UI thread has begun for the callbacks and the messages. -/
inductive Frame
  /-- An `Invoke`, before it looks at `Stopped`. -/
  | invoking (ticket : Ticket)
  /-- An `Invoke`, in the task. -/
  | working (ticket : Ticket)
  /-- A `Drain`, before it invokes the next of the tasks it has claimed. -/
  | draining (ready : List Ticket)
deriving Repr, DecidableEq

/-- Source: the members of `UiDispatcher::State` (`UiDispatcher.cpp:89`). -/
structure State where
  stopped : Bool
  /-- `StoppedEvent` is set. -/
  stoppedEvent : Bool
  posting : Nat
  queue : List Ticket
  /-- The calls of `Run`, in the order of their numbers. -/
  calls : List Call
  frames : List Frame
  /-- The calls of `Stop` that wait for the admitted posts. -/
  stopping : Nat
deriving Repr, DecidableEq

/-- Nothing was called yet. -/
def initial : State := ⟨false, false, 0, [], [], [], 0⟩

/-! ## The steps of a call -/

/-- A call changes. -/
def State.update (ticket : Ticket) (change : Call → Call) (s : State) : State :=
  { s with calls := s.calls.modify ticket change }

/-- A call goes on. -/
def State.move (ticket : Ticket) (point : Point) (s : State) : State :=
  s.update ticket fun c => { c with point := point }

/-- Source: `Run` (`UiDispatcher.cpp:117`). -/
def enter (ticket : Ticket) (c : Call) (s : State) : State :=
  if !c.hasTask ∨ s.stopped then s.move ticket (.returned false)
  else s.move ticket (if c.onUiThread then .invoking else .enqueuing)

/-- `Invoke` from `Run`. Source: `Invoke` (`UiDispatcher.cpp:29`). -/
def invokeHere (ticket : Ticket) (s : State) : State :=
  if s.stopped then s.move ticket (.returned false)
  else s.update ticket fun c => { c with point := .working, runs := c.runs + 1 }

/-- The result of `Enqueue`, or that it threw. Source: `Run` (`UiDispatcher.cpp:121`). -/
def enqueue (ticket : Ticket) (accepted : Bool) (s : State) : State :=
  if accepted then s.update ticket fun c => { c with point := .enqueued, callback := true }
  else s.move ticket .fallingBack

/-- The first critical section of `Fallback`; where it cannot allocate, `Run` returns false. Source:
`Fallback` (`UiDispatcher.cpp:40`). -/
def fallBack (ticket : Ticket) (throws : Bool) (s : State) : State :=
  if throws ∨ s.stopped then s.move ticket (.returned false)
  else { s.move ticket .posting with queue := s.queue ++ [ticket], posting := s.posting + 1 }

/-- `PostMessageW`. Source: `Fallback` (`UiDispatcher.cpp:50`). -/
def post (ticket : Ticket) (result : Bool) (s : State) : State :=
  s.update ticket fun c => { c with point := .posted result, message := result }

/-- The second critical section of `Fallback`. Source: `Fallback` (`UiDispatcher.cpp:52`). -/
def settle (ticket : Ticket) (result : Bool) (c : Call) (s : State) : State :=
  let accepted := result || c.claimed
  { s.move ticket (.returned accepted) with
    queue := if accepted then s.queue else s.queue.filter (· ≠ ticket)
    posting := s.posting - 1 }

/-! ## The steps of the UI thread -/

/-- The queue runs the callback, which enters `Invoke`. Source: `Run` (`UiDispatcher.cpp:123`). -/
def deliver (ticket : Ticket) (s : State) : State :=
  { s.update ticket fun c => { c with callback := false } with
    frames := .invoking ticket :: s.frames }

/-- The critical section of `Drain`. Source: `Drain` (`UiDispatcher.cpp:66`). -/
def drain (s : State) : State :=
  { s with
    queue := []
    calls := s.calls.mapIdx fun ticket c =>
      if ticket ∈ s.queue then { c with claimed := true } else c
    frames := .draining s.queue :: s.frames }

/-- The window procedure gets the message of a call. Source: `HandleMessage`
(`UiDispatcher.cpp:199`). -/
def handleMessage (ticket : Ticket) (s : State) : State :=
  drain (s.update ticket fun c => { c with message := false })

/-- A drain invokes the next task, or is over. Source: `Drain` (`UiDispatcher.cpp:72`). -/
def next (ready : List Ticket) (s : State) : State :=
  let frames := s.frames.erase (.draining ready)
  match ready with
  | [] => { s with frames := frames }
  | ticket :: rest => { s with frames := .invoking ticket :: .draining rest :: frames }

/-- Source: `Invoke` (`UiDispatcher.cpp:29`). -/
def invoke (ticket : Ticket) (s : State) : State :=
  let frames := s.frames.erase (.invoking ticket)
  if s.stopped then { s with frames := frames }
  else
    { s.update ticket fun c => { c with runs := c.runs + 1 } with
      frames := .working ticket :: frames }

/-- The task returns or throws; what it throws is logged. Source: `Invoke`
(`UiDispatcher.cpp:34`). -/
def finish (ticket : Ticket) (s : State) : State :=
  { s with frames := s.frames.erase (.working ticket) }

/-- The critical section of `Stop` up to its wait. Source: `Stop` (`UiDispatcher.cpp:78`). -/
def stop (s : State) : State :=
  { s with stopped := true, queue := [], stopping := s.stopping + 1 }

/-- The end of `Stop`. Source: `Stop` (`UiDispatcher.cpp:86`). -/
def endStop (s : State) : State :=
  { s with stoppedEvent := true, stopping := s.stopping - 1 }

/-! ## The dispatcher as an event system -/

/-- A step of a call, of a queue or of the UI thread. -/
inductive Event
  | call (onUiThread hasTask : Bool)
  | enter (ticket : Ticket)
  | invokeHere (ticket : Ticket)
  | finishHere (ticket : Ticket) (threw : Bool)
  | enqueue (ticket : Ticket) (accepted : Bool)
  | accept (ticket : Ticket)
  | fallBack (ticket : Ticket) (throws : Bool)
  | post (ticket : Ticket) (result : Bool)
  | settle (ticket : Ticket) (result : Bool)
  | deliver (ticket : Ticket)
  | dropCallback (ticket : Ticket)
  | handleMessage (ticket : Ticket)
  | dropMessage (ticket : Ticket)
  | next (ready : List Ticket)
  | invoke (ticket : Ticket)
  | finish (ticket : Ticket) (threw : Bool)
  | stop
  | endStop
deriving Repr, DecidableEq

/-- The call stands at the point. -/
def State.isAt (ticket : Ticket) (point : Point) (s : State) : Bool :=
  s.calls[ticket]?.any (·.point = point)

/-- What can happen: a call goes on from where it stands, a queue delivers or drops what it holds,
and the UI thread goes on with what it has begun. -/
def Enabled (s : State) : Event → Prop
  | .call _ _ | .stop => True
  | .enter ticket => s.isAt ticket .entered
  | .invokeHere ticket => s.isAt ticket .invoking
  | .finishHere ticket _ => s.isAt ticket .working
  | .enqueue ticket _ => s.isAt ticket .enqueuing
  | .accept ticket => s.isAt ticket .enqueued
  | .fallBack ticket _ => s.isAt ticket .fallingBack
  | .post ticket _ => s.isAt ticket .posting
  | .settle ticket result => s.isAt ticket (.posted result)
  | .deliver ticket | .dropCallback ticket => s.calls[ticket]?.any (·.callback) = true
  | .handleMessage ticket | .dropMessage ticket => s.calls[ticket]?.any (·.message) = true
  | .next ready => .draining ready ∈ s.frames
  | .invoke ticket => .invoking ticket ∈ s.frames
  | .finish ticket _ => .working ticket ∈ s.frames
  | .endStop => 0 < s.stopping ∧ s.posting = 0

instance (s : State) : DecidablePred (Enabled s)
  | .call _ _ | .stop => isTrue trivial
  | .enter _ | .invokeHere _ | .finishHere _ _ | .enqueue _ _ | .accept _ | .fallBack _ _
  | .post _ _ | .settle _ _ | .deliver _ | .dropCallback _ | .handleMessage _ | .dropMessage _ =>
    inferInstanceAs (Decidable (_ = true))
  | .next _ | .invoke _ | .finish _ _ => inferInstanceAs (Decidable (_ ∈ _))
  | .endStop => inferInstanceAs (Decidable (_ ∧ _))

/-- What follows on what the call reads. -/
def withCall (ticket : Ticket) (body : Call → State → State) (s : State) : State :=
  match s.calls[ticket]? with
  | none => s
  | some c => body c s

/-- The call whose task a step begins. -/
def begins : Event → State → Option Ticket
  | .invokeHere ticket, s | .invoke ticket, s => if s.stopped then none else some ticket
  | _, _ => none

/-- The step of an event. -/
def handle : Event → State → State
  | .call onUiThread hasTask => fun s =>
    { s with calls := s.calls ++ [{ onUiThread := onUiThread, hasTask := hasTask }] }
  | .enter ticket => withCall ticket (enter ticket)
  | .invokeHere ticket => invokeHere ticket
  | .finishHere ticket threw => State.move ticket (.returned !threw)
  | .enqueue ticket accepted => enqueue ticket accepted
  | .accept ticket => State.move ticket (.returned true)
  | .fallBack ticket throws => fallBack ticket throws
  | .post ticket result => post ticket result
  | .settle ticket result => withCall ticket (settle ticket result)
  | .deliver ticket => deliver ticket
  | .dropCallback ticket => State.update ticket fun c => { c with callback := false, lost := true }
  | .handleMessage ticket => handleMessage ticket
  | .dropMessage ticket => State.update ticket fun c => { c with message := false, lost := true }
  | .next ready => next ready
  | .invoke ticket => invoke ticket
  | .finish ticket _ => finish ticket
  | .stop => stop
  | .endStop => endStop

end UiDispatcher

/-- Any number of threads that use one dispatcher. Source: `UiDispatcher`
(`UiDispatcher.hpp:18`). -/
def uiDispatcher : EventSystem UiDispatcher.State UiDispatcher.Event where
  enabled := UiDispatcher.Enabled
  step s e := UiDispatcher.handle e s

namespace UiDispatcher

/-! ## Where the task of a call is -/

/-- The calls whose tasks a frame has yet to begin. -/
def Frame.awaits : Frame → List Ticket
  | .invoking ticket => [ticket]
  | .working _ => []
  | .draining ready => ready

/-- The calls whose tasks the UI thread is to begin for a callback or a message. -/
def State.awaited (s : State) : List Ticket := s.frames.flatMap Frame.awaits

/-- The call has yet to give its task to a queue or to begin it. -/
def Point.holds : Point → Bool
  | .entered | .invoking | .enqueuing | .fallingBack => true
  | .working | .enqueued | .posting | .posted _ | .returned _ => false

/-- In how many places the task of a call is, those where it was begun included. -/
def Call.places (queued awaited : Nat) (c : Call) : Nat :=
  c.point.holds.toNat + c.callback.toNat + queued + awaited + c.runs

/-- A call stands in the dispatcher's own queue `queued` times and is to be begun by the UI thread
`awaited` times. -/
structure Accounted (stopped : Bool) (queued awaited : Nat) (c : Call) : Prop where
  /-- A task is in one place at most. -/
  once : c.places queued awaited ≤ 1
  /-- A task gets lost by a stop, by a queue or by a call that says so, by nothing else. -/
  kept : stopped = false → c.lost = false → c.point ≠ .returned false → c.places queued awaited = 1
  /-- The task of a worker's call that says so is gone. -/
  refused : c.point = .returned false → c.onUiThread = false → c.places queued awaited = 0
  /-- A worker does not begin its task itself. -/
  here : c.point = .invoking ∨ c.point = .working → c.onUiThread = true
  /-- Only a drain takes a task from the dispatcher's own queue while its post is admitted. -/
  unclaimed : c.point = .posting ∨ (∃ result, c.point = .posted result) → c.claimed = false →
    c.callback = false ∧ awaited = 0 ∧ c.runs = 0
  /-- A drain leaves nothing of what it has claimed in the queue. -/
  claimed : c.claimed = true → queued = 0
  /-- Before `Fallback` nothing is claimed. -/
  early : c.point.holds → c.claimed = false
  /-- What is in the dispatcher's own queue, a message tells the UI thread of. -/
  told : 0 < queued →
    c.point = .posting ∨ c.point = .posted false ∨ c.message = true ∨ c.lost = true

/-- What holds in every state of the dispatcher. -/
def Inv (s : State) : Prop :=
  ∀ ticket, match s.calls[ticket]? with
    | none => s.queue.count ticket = 0 ∧ s.awaited.count ticket = 0
    | some c => Accounted s.stopped (s.queue.count ticket) (s.awaited.count ticket) c

theorem inv_initial : Inv initial := fun _ => ⟨rfl, rfl⟩

/-- A call that was just made. -/
theorem Accounted.made (stopped onUiThread hasTask : Bool) :
    Accounted stopped 0 0 { onUiThread := onUiThread, hasTask := hasTask } := by
  constructor <;> simp [Call.places, Point.holds]

/-! ## The steps of one call -/

variable {s s' : State} {ticket : Ticket} {c : Call} {change : Call → Call} {point : Point}

theorem call_of_isAt (h : s.isAt ticket point = true) :
    ∃ c, s.calls[ticket]? = some c ∧ c.point = point := by
  simpa [State.isAt, Option.any_eq_true] using h

theorem Inv.call (h : Inv s) (hc : s.calls[ticket]? = some c) :
    Accounted s.stopped (s.queue.count ticket) (s.awaited.count ticket) c := by
  simpa only [hc] using h ticket

/-- A step that changes one call, and that concerns the task of no other. -/
theorem Inv.update (h : Inv s) (hc : s.calls[ticket]? = some c)
    (hcalls : s'.calls = s.calls.modify ticket change) (hstopped : s'.stopped = s.stopped)
    (hothers : ∀ other, other ≠ ticket → s'.queue.count other = s.queue.count other ∧
      s'.awaited.count other = s.awaited.count other)
    (hstep : Accounted s.stopped (s.queue.count ticket) (s.awaited.count ticket) c →
      Accounted s.stopped (s'.queue.count ticket) (s'.awaited.count ticket) (change c)) :
    Inv s' := by
  intro other
  rw [hcalls, hstopped, List.getElem?_modify]
  by_cases hother : ticket = other
  · subst hother
    simpa [hc] using hstep (h.call hc)
  · obtain ⟨hqueue, hawaited⟩ := hothers other (Ne.symm hother)
    have hthis := h other
    rw [hqueue, hawaited]
    cases hget : s.calls[other]? <;> simpa [hget, hother] using hthis

/-- A step that changes one call, and no task's place in a queue or on the UI thread. -/
theorem Inv.move (h : Inv s) (hc : s.calls[ticket]? = some c)
    (hstep : ∀ queued awaited, Accounted s.stopped queued awaited c →
      Accounted s.stopped queued awaited (change c)) : Inv (s.update ticket change) :=
  h.update hc rfl rfl (fun _ _ => ⟨rfl, rfl⟩) (hstep _ _)

section Accounted

variable {stopped : Bool} {queued awaited : Nat}

/-- A call returns false and lets its task go that no queue has taken. -/
theorem Accounted.refuse (h : Accounted stopped queued awaited c) (hholds : c.point.holds) :
    Accounted stopped queued awaited { c with point := .returned false } := by
  obtain ⟨once, kept, refused, here, unclaimed, claimed, early, told⟩ := h
  constructor <;> grind -linarith [Call.places, Point.holds]

/-- A call goes on to another point before it gives its task away. -/
theorem Accounted.goOn (h : Accounted stopped queued awaited c) (hholds : c.point.holds)
    (hpoint : point.holds) (hthread : point = .invoking → c.onUiThread = true) :
    Accounted stopped queued awaited { c with point := point } := by
  obtain ⟨once, kept, refused, here, unclaimed, claimed, early, told⟩ := h
  constructor <;> grind -linarith [Call.places, Point.holds]

/-- `Invoke` from `Run` begins the task. -/
theorem Accounted.begin (h : Accounted stopped queued awaited c) (hpoint : c.point = .invoking) :
    Accounted stopped queued awaited { c with point := .working, runs := c.runs + 1 } := by
  obtain ⟨once, kept, refused, here, unclaimed, claimed, early, told⟩ := h
  constructor <;> grind -linarith [Call.places, Point.holds]

/-- The task that `Run` has invoked returns or throws. -/
theorem Accounted.finish (h : Accounted stopped queued awaited c) (hpoint : c.point = .working)
    (result : Bool) : Accounted stopped queued awaited { c with point := .returned result } := by
  obtain ⟨once, kept, refused, here, unclaimed, claimed, early, told⟩ := h
  constructor <;> grind -linarith [Call.places, Point.holds]

/-- `Enqueue` takes the callback. -/
theorem Accounted.enqueued (h : Accounted stopped queued awaited c)
    (hpoint : c.point = .enqueuing) :
    Accounted stopped queued awaited { c with point := .enqueued, callback := true } := by
  obtain ⟨once, kept, refused, here, unclaimed, claimed, early, told⟩ := h
  constructor <;> grind -linarith [Call.places, Point.holds]

/-- `Run` returns what `Enqueue` said. -/
theorem Accounted.accepted (h : Accounted stopped queued awaited c) (hpoint : c.point = .enqueued) :
    Accounted stopped queued awaited { c with point := .returned true } := by
  obtain ⟨once, kept, refused, here, unclaimed, claimed, early, told⟩ := h
  constructor <;> grind -linarith [Call.places, Point.holds]

/-- `Fallback` puts the task into the dispatcher's own queue. -/
theorem Accounted.fellBack (h : Accounted stopped queued awaited c)
    (hpoint : c.point = .fallingBack) :
    Accounted stopped (queued + 1) awaited { c with point := .posting } := by
  obtain ⟨once, kept, refused, here, unclaimed, claimed, early, told⟩ := h
  constructor <;> grind -linarith [Call.places, Point.holds]

/-- `PostMessageW` has sent the message, or has not. -/
theorem Accounted.posted (h : Accounted stopped queued awaited c) (hpoint : c.point = .posting)
    (result : Bool) : Accounted stopped queued awaited
      { c with point := .posted result, message := result } := by
  obtain ⟨once, kept, refused, here, unclaimed, claimed, early, told⟩ := h
  constructor <;> grind -linarith [Call.places, Point.holds]

/-- A post that was made, or whose task a drain has claimed meanwhile, is accepted. -/
theorem Accounted.settled (h : Accounted stopped queued awaited c) {result : Bool}
    (hpoint : c.point = .posted result) (haccepted : (result || c.claimed) = true) :
    Accounted stopped queued awaited { c with point := .returned true } := by
  obtain ⟨once, kept, refused, here, unclaimed, claimed, early, told⟩ := h
  constructor <;> grind -linarith [Call.places, Point.holds]

/-- A post that failed takes its task back. -/
theorem Accounted.takenBack (h : Accounted stopped queued awaited c) {result : Bool}
    (hpoint : c.point = .posted result) (hrejected : (result || c.claimed) = false) :
    Accounted stopped 0 awaited { c with point := .returned false } := by
  obtain ⟨once, kept, refused, here, unclaimed, claimed, early, told⟩ := h
  have hclaimed : c.claimed = false := (Bool.or_eq_false_iff.1 hrejected).2
  obtain ⟨hcallback, hawaited, hruns⟩ := unclaimed (.inr ⟨result, hpoint⟩) hclaimed
  constructor <;> grind -linarith [Call.places, Point.holds]

/-- The queue runs the callback. -/
theorem Accounted.delivered (h : Accounted stopped queued awaited c)
    (hcallback : c.callback = true) :
    Accounted stopped queued (awaited + 1) { c with callback := false } := by
  obtain ⟨once, kept, refused, here, unclaimed, claimed, early, told⟩ := h
  constructor <;> grind -linarith [Call.places, Point.holds]

/-- A queue drops the callback or the message. -/
theorem Accounted.dropped (h : Accounted stopped queued awaited c) (callback message : Bool)
    (hcallback : callback → c.callback) : Accounted stopped queued awaited
      { c with callback := callback, message := message, lost := true } := by
  obtain ⟨once, kept, refused, here, unclaimed, claimed, early, told⟩ := h
  cases callback with
  | false => constructor <;> grind -linarith [Call.places, Point.holds]
  | true => constructor <;> grind -linarith [Call.places, Point.holds]

/-- A drain claims the task of a call that is in the queue. -/
theorem Accounted.drained (h : Accounted stopped queued awaited c) (hqueued : 0 < queued)
    (message : Bool) : Accounted stopped 0 (awaited + queued)
      { c with claimed := true, message := message } := by
  obtain ⟨once, kept, refused, here, unclaimed, claimed, early, told⟩ := h
  constructor <;> grind -linarith [Call.places, Point.holds]

/-- A call whose task is not in the queue gets its message, or nothing. -/
theorem Accounted.notDrained (h : Accounted stopped 0 awaited c) (message : Bool) :
    Accounted stopped 0 awaited { c with message := message } := by
  obtain ⟨once, kept, refused, here, unclaimed, claimed, early, told⟩ := h
  constructor <;> grind -linarith [Call.places, Point.holds]

/-- `Invoke` begins a task for a callback or a message. -/
theorem Accounted.begun (h : Accounted stopped queued (awaited + 1) c) :
    Accounted stopped queued awaited { c with runs := c.runs + 1 } := by
  obtain ⟨once, kept, refused, here, unclaimed, claimed, early, told⟩ := h
  constructor <;> grind -linarith [Call.places, Point.holds]

/-- After the stop a task need not be anywhere. -/
theorem Accounted.afterStop {queued' awaited' : Nat} (h : Accounted stopped queued awaited c)
    (hqueued : queued' ≤ queued) (hawaited : awaited' ≤ awaited) :
    Accounted true queued' awaited' c := by
  obtain ⟨once, kept, refused, here, unclaimed, claimed, early, told⟩ := h
  constructor <;> grind -linarith [Call.places, Point.holds]

end Accounted

/-! ## Every step keeps the account -/

/-- What the UI thread awaits without one of its frames. -/
theorem awaited_erase {frame : Frame} (hframe : frame ∈ s.frames) (ticket : Ticket) :
    s.awaited.count ticket = frame.awaits.count ticket +
      ((s.frames.erase frame).flatMap Frame.awaits).count ticket := by
  have hperm := (List.perm_cons_erase hframe).flatMap_right Frame.awaits
  simpa [State.awaited, List.count_append] using hperm.count_eq ticket

/-- The UI thread awaits the tasks of calls only. -/
theorem Inv.call_of_awaited (h : Inv s) (hawaited : ticket ∈ s.awaited) :
    ∃ c, s.calls[ticket]? = some c := by
  have hcount := List.count_pos_iff.2 hawaited
  have hthis := h ticket
  cases hc : s.calls[ticket]? with
  | none => simp only [hc] at hthis; omega
  | some c => exact ⟨c, rfl⟩

theorem inv_call (h : Inv s) (onUiThread hasTask : Bool) :
    Inv (handle (.call onUiThread hasTask) s) := by
  intro ticket
  have hthis := h ticket
  change match (s.calls ++ [_])[ticket]? with | none => _ | some c => _
  rw [List.getElem?_append]
  split_ifs with hlt
  · exact hthis
  · simp only [List.getElem?_eq_none (Nat.le_of_not_lt hlt)] at hthis
    cases hget : ([{ onUiThread, hasTask }] : List Call)[ticket - s.calls.length]? with
    | none => exact hthis
    | some c =>
      obtain rfl : c = { onUiThread, hasTask } := by
        simpa using List.mem_of_getElem? hget
      change Accounted s.stopped (s.queue.count ticket) (s.awaited.count ticket) _
      rw [hthis.1, hthis.2]
      exact .made ..

theorem inv_enter (h : Inv s) (hc : s.calls[ticket]? = some c) (hpoint : c.point = .entered) :
    Inv (enter ticket c s) := by
  unfold enter
  split_ifs with hrefuse hthread
  · exact h.move hc fun _ _ hthis => hthis.refuse (by simp [hpoint, Point.holds])
  · exact h.move hc fun _ _ hthis => hthis.goOn (by simp [hpoint, Point.holds]) rfl fun _ => hthread
  · exact h.move hc fun _ _ hthis => hthis.goOn (by simp [hpoint, Point.holds]) rfl (by simp)

theorem inv_invokeHere (h : Inv s) (hc : s.calls[ticket]? = some c) (hpoint : c.point = .invoking) :
    Inv (invokeHere ticket s) := by
  unfold invokeHere
  split_ifs with hstopped
  · exact h.move hc fun _ _ hthis => hthis.refuse (by simp [hpoint, Point.holds])
  · exact h.move hc fun _ _ hthis => hthis.begin hpoint

theorem inv_enqueue (h : Inv s) (hc : s.calls[ticket]? = some c) (hpoint : c.point = .enqueuing)
    (accepted : Bool) : Inv (enqueue ticket accepted s) := by
  unfold enqueue
  split_ifs with haccepted
  · exact h.move hc fun _ _ hthis => hthis.enqueued hpoint
  · exact h.move hc fun _ _ hthis => hthis.goOn (by simp [hpoint, Point.holds]) rfl (by simp)

theorem inv_fallBack (h : Inv s) (hc : s.calls[ticket]? = some c) (hpoint : c.point = .fallingBack)
    (throws : Bool) : Inv (fallBack ticket throws s) := by
  unfold fallBack
  split_ifs with hrefuse
  · exact h.move hc fun _ _ hthis => hthis.refuse (by simp [hpoint, Point.holds])
  · refine h.update hc rfl rfl (fun other hother => ⟨?_, rfl⟩) fun hthis => ?_
    · simp [Ne.symm hother]
    · change Accounted s.stopped ((s.queue ++ [ticket]).count ticket) (s.awaited.count ticket) _
      rw [List.count_append, List.count_singleton_self]
      exact hthis.fellBack hpoint

theorem inv_settle (h : Inv s) (hc : s.calls[ticket]? = some c) {result : Bool}
    (hpoint : c.point = .posted result) : Inv (settle ticket result c s) := by
  cases haccepted : result || c.claimed with
  | true =>
    simp only [settle, haccepted, if_true]
    exact h.update hc rfl rfl (fun _ _ => ⟨rfl, rfl⟩) fun hthis => hthis.settled hpoint haccepted
  | false =>
    simp only [settle, haccepted, Bool.false_eq_true, if_false]
    refine h.update hc rfl rfl (fun other hother => ⟨?_, rfl⟩) fun hthis => ?_
    · simp [List.count_filter, hother]
    · have hqueued : (s.queue.filter (· ≠ ticket)).count ticket = 0 := by
        simp [List.count_eq_zero]
      change Accounted s.stopped ((s.queue.filter (· ≠ ticket)).count ticket) _ _
      rw [hqueued]
      exact hthis.takenBack hpoint haccepted

theorem inv_deliver (h : Inv s) (hc : s.calls[ticket]? = some c) (hcallback : c.callback = true) :
    Inv (deliver ticket s) := by
  refine h.update hc rfl rfl (fun other hother => ⟨rfl, ?_⟩) fun hthis => ?_
  · simpa [deliver, State.awaited, Frame.awaits, State.update] using
      List.count_cons_of_ne (Ne.symm hother)
  · simpa [deliver, State.awaited, Frame.awaits, State.update] using hthis.delivered hcallback

/-- A drain, for the message of one of the calls. -/
theorem inv_handleMessage (h : Inv s) (ticket : Ticket) : Inv (handleMessage ticket s) := by
  intro other
  have hthis := h other
  have hawaited : (handleMessage ticket s).awaited.count other =
      s.awaited.count other + s.queue.count other := by
    simp [handleMessage, drain, State.update, State.awaited, Frame.awaits, Nat.add_comm]
  have hqueue : (handleMessage ticket s).queue.count other = 0 := rfl
  have hcall : (handleMessage ticket s).calls[other]? = s.calls[other]?.map fun c =>
      let c := if ticket = other then { c with message := false } else c
      if other ∈ s.queue then { c with claimed := true } else c := by
    simp only [handleMessage, drain, State.update, List.getElem?_mapIdx, List.getElem?_modify]
    cases s.calls[other]? <;> rfl
  rw [hcall, hawaited, hqueue]
  cases hc : s.calls[other]? with
  | none => simp only [hc] at hthis; simp [hthis]
  | some c =>
    simp only [hc] at hthis
    change Accounted s.stopped 0 _ _
    by_cases hmem : other ∈ s.queue
    · have hdrained := hthis.drained (List.count_pos_iff.2 hmem)
      split_ifs with hticket
      · exact hdrained false
      · exact hdrained c.message
    · have hcount : s.queue.count other = 0 := List.count_eq_zero.2 hmem
      rw [hcount] at hthis ⊢
      split_ifs with hticket
      · exact hthis.notDrained false
      · exact hthis

/-- A step that moves what the UI thread has begun, and nothing else. -/
theorem Inv.frames (h : Inv s) {frames : List Frame}
    (hawaited : ∀ ticket, (frames.flatMap Frame.awaits).count ticket = s.awaited.count ticket) :
    Inv { s with frames := frames } := by
  intro ticket
  have hthis := h ticket
  rw [← hawaited ticket] at hthis
  exact hthis

theorem inv_next (h : Inv s) {ready : List Ticket} (hframe : .draining ready ∈ s.frames) :
    Inv (next ready s) := by
  cases ready with
  | nil => exact h.frames fun ticket => by simp [awaited_erase hframe, Frame.awaits]
  | cons first rest =>
    refine h.frames fun ticket => ?_
    simp only [awaited_erase hframe, Frame.awaits, List.flatMap_cons, List.count_append,
      List.count_cons, List.count_nil]
    omega

theorem inv_finish (h : Inv s) (hframe : .working ticket ∈ s.frames) : Inv (finish ticket s) :=
  h.frames fun ticket => by simp [awaited_erase hframe, Frame.awaits]

theorem inv_invoke (h : Inv s) (hframe : .invoking ticket ∈ s.frames) : Inv (invoke ticket s) := by
  have hmem : ticket ∈ s.awaited := List.mem_flatMap.2 ⟨_, hframe, by simp [Frame.awaits]⟩
  obtain ⟨c, hc⟩ := h.call_of_awaited hmem
  unfold invoke
  split_ifs with hstopped
  · intro other
    have hthis := h other
    have hawaited : ((s.frames.erase (.invoking ticket)).flatMap Frame.awaits).count other ≤
        s.awaited.count other := by
      rw [awaited_erase hframe]
      exact Nat.le_add_left _ _
    change match s.calls[other]? with | none => _ | some c => _
    cases hget : s.calls[other]? with
    | none =>
      simp only [hget] at hthis
      exact ⟨hthis.1, Nat.eq_zero_of_le_zero (hthis.2 ▸ hawaited)⟩
    | some c =>
      simp only [hget] at hthis
      change Accounted s.stopped _ _ c
      rw [hstopped]
      exact hthis.afterStop (Nat.le_refl _) hawaited
  · have hawaited : ∀ other, ((Frame.working ticket :: s.frames.erase (.invoking ticket)).flatMap
        Frame.awaits).count other =
          ((s.frames.erase (.invoking ticket)).flatMap Frame.awaits).count other := by
      simp [Frame.awaits]
    refine h.update hc rfl rfl (fun other hother => ⟨rfl, ?_⟩) fun hthis => ?_
    · rw [awaited_erase hframe]
      refine (hawaited other).trans ?_
      simp [Frame.awaits, Ne.symm hother]
    · rw [awaited_erase hframe] at hthis
      refine (congrArg (Accounted _ _ · _) (hawaited ticket)).mpr (Accounted.begun ?_)
      simpa [Frame.awaits, State.update, Nat.add_comm] using hthis

theorem inv_stop (h : Inv s) : Inv (stop s) := by
  intro ticket
  have hthis := h ticket
  change match s.calls[ticket]? with | none => _ | some c => _
  cases hc : s.calls[ticket]? with
  | none => simp only [hc] at hthis; exact ⟨rfl, hthis.2⟩
  | some c =>
    simp only [hc] at hthis
    exact hthis.afterStop (Nat.zero_le _) (Nat.le_refl _)

theorem call_of_any {p : Call → Bool} (h : s.calls[ticket]?.any p = true) :
    ∃ c, s.calls[ticket]? = some c ∧ p c = true := by
  simpa [Option.any_eq_true] using h

theorem inv_handle {e : Event} (he : Enabled s e) (h : Inv s) : Inv (handle e s) := by
  cases e with
  | call onUiThread hasTask => exact inv_call h onUiThread hasTask
  | enter ticket =>
    obtain ⟨c, hc, hpoint⟩ := call_of_isAt he
    simpa only [handle, withCall, hc] using inv_enter h hc hpoint
  | invokeHere ticket =>
    obtain ⟨c, hc, hpoint⟩ := call_of_isAt he
    exact inv_invokeHere h hc hpoint
  | finishHere ticket threw =>
    obtain ⟨c, hc, hpoint⟩ := call_of_isAt he
    exact h.move hc fun _ _ hthis => hthis.finish hpoint _
  | enqueue ticket accepted =>
    obtain ⟨c, hc, hpoint⟩ := call_of_isAt he
    exact inv_enqueue h hc hpoint _
  | accept ticket =>
    obtain ⟨c, hc, hpoint⟩ := call_of_isAt he
    exact h.move hc fun _ _ hthis => hthis.accepted hpoint
  | fallBack ticket throws =>
    obtain ⟨c, hc, hpoint⟩ := call_of_isAt he
    exact inv_fallBack h hc hpoint _
  | post ticket result =>
    obtain ⟨c, hc, hpoint⟩ := call_of_isAt he
    exact h.move hc fun _ _ hthis => hthis.posted hpoint _
  | settle ticket result =>
    obtain ⟨c, hc, hpoint⟩ := call_of_isAt he
    simpa only [handle, withCall, hc] using inv_settle h hc hpoint
  | deliver ticket =>
    obtain ⟨c, hc, hcallback⟩ := call_of_any he
    exact inv_deliver h hc hcallback
  | dropCallback ticket =>
    obtain ⟨c, hc, -⟩ := call_of_any he
    exact h.move hc fun _ _ hthis => hthis.dropped false c.message (by simp)
  | handleMessage ticket => exact inv_handleMessage h ticket
  | dropMessage ticket =>
    obtain ⟨c, hc, -⟩ := call_of_any he
    exact h.move hc fun _ _ hthis => hthis.dropped c.callback false id
  | next ready => exact inv_next h he
  | invoke ticket => exact inv_invoke h he
  | finish ticket threw => exact inv_finish h he
  | stop => exact inv_stop h
  | endStop => exact h

/-! ## What a result says -/

/-- The queues and the UI thread have done what there was to do for a call. -/
def Delivered (s : State) (ticket : Ticket) (c : Call) : Prop :=
  c.lost = false ∧ c.callback = false ∧ c.message = false ∧ ticket ∉ s.awaited

instance (s : State) (ticket : Ticket) (c : Call) : Decidable (Delivered s ticket c) :=
  inferInstanceAs (Decidable (_ ∧ _))

/-- No task runs twice. -/
theorem Inv.runs_le (h : Inv s) (hc : s.calls[ticket]? = some c) : c.runs ≤ 1 := by
  have hplaces := (h.call hc).once
  simp only [Call.places] at hplaces
  omega

/-- The task of a call that returned true runs, unless the dispatcher stops. -/
theorem Inv.runs_of_accepted (h : Inv s) (hc : s.calls[ticket]? = some c)
    (hpoint : c.point = .returned true) (hstopped : s.stopped = false)
    (hdelivered : Delivered s ticket c) : c.runs = 1 := by
  obtain ⟨hlost, hcallback, hmessage, hawaited⟩ := hdelivered
  have hthis := h.call hc
  have hplaces := hthis.kept hstopped hlost (by simp [hpoint])
  have hqueued : s.queue.count ticket = 0 := by
    by_contra hpos
    have htold := hthis.told (Nat.pos_of_ne_zero hpos)
    simp [hpoint, hlost, hmessage] at htold
  rw [Call.places, hqueued, List.count_eq_zero.2 hawaited, hpoint, hcallback] at hplaces
  simpa [Point.holds] using hplaces

/-- The task of a worker's call that returned false has not run. -/
theorem Inv.runs_of_rejected (h : Inv s) (hc : s.calls[ticket]? = some c)
    (hpoint : c.point = .returned false) (hthread : c.onUiThread = false) : c.runs = 0 := by
  have hplaces := (h.call hc).refused hpoint hthread
  simp only [Call.places] at hplaces
  omega

/-! ## What a step begins -/

/-- A call of which the task was begun so many times more. -/
def Begun (times : Nat) (c c' : Call) : Prop :=
  c'.onUiThread = c.onUiThread ∧ c'.runs = c.runs + times

/-- What leaves a call as it is begins nothing. -/
theorem Begun.refl (c : Call) : Begun 0 c c := ⟨rfl, rfl⟩

/-- A step that changes one call and begins no task. -/
theorem update_begun_none (hc : s.calls[ticket]? = some c) (changed : Ticket)
    (hchange : ∀ c, Begun 0 c (change c)) :
    ∃ c', (s.update changed change).calls[ticket]? = some c' ∧ Begun 0 c c' := by
  simp only [State.update, List.getElem?_modify, hc]
  by_cases hticket : changed = ticket
  · exact ⟨change c, by simp [hticket], hchange c⟩
  · exact ⟨c, by simp [hticket], .refl c⟩

theorem handleMessage_begun (hc : s.calls[ticket]? = some c) (message : Ticket) :
    ∃ c', (handleMessage message s).calls[ticket]? = some c' ∧ Begun 0 c c' := by
  simp only [handleMessage, drain, State.update, List.getElem?_mapIdx, List.getElem?_modify, hc]
  refine ⟨_, rfl, ?_⟩
  by_cases hqueue : ticket ∈ s.queue <;> by_cases hticket : message = ticket <;>
    simp [Begun, hqueue, hticket]

theorem invoke_begun (hc : s.calls[ticket]? = some c) (invoked : Ticket) :
    ∃ c', (invoke invoked s).calls[ticket]? = some c' ∧
      Begun (if begins (.invoke invoked) s = some ticket then 1 else 0) c c' := by
  cases hstopped : s.stopped with
  | true => exact ⟨c, by simpa [invoke, hstopped] using hc, by simp [begins, hstopped, Begun]⟩
  | false =>
    by_cases hticket : invoked = ticket
    · subst hticket
      exact ⟨{ c with runs := c.runs + 1 }, by simp [invoke, hstopped, State.update, hc],
        by simp [begins, hstopped, Begun]⟩
    · exact ⟨c, by simp [invoke, hstopped, State.update, hc, hticket],
        by simp [begins, hstopped, hticket, Begun]⟩

theorem invokeHere_begun (hc : s.calls[ticket]? = some c) (invoked : Ticket) :
    ∃ c', (invokeHere invoked s).calls[ticket]? = some c' ∧
      Begun (if begins (.invokeHere invoked) s = some ticket then 1 else 0) c c' := by
  cases hstopped : s.stopped with
  | true =>
    simp only [invokeHere, begins, hstopped, if_true]
    exact update_begun_none hc invoked fun _ => .refl _
  | false =>
    by_cases hticket : invoked = ticket
    · subst hticket
      exact ⟨{ c with point := .working, runs := c.runs + 1 },
        by simp [invokeHere, hstopped, State.update, hc], by simp [begins, hstopped, Begun]⟩
    · exact ⟨c, by simp [invokeHere, hstopped, State.update, hc, hticket],
        by simp [begins, hstopped, hticket, Begun]⟩

theorem enter_begun (hc : s.calls[ticket]? = some c) (changed : Ticket) (found : Call) :
    ∃ c', (enter changed found s).calls[ticket]? = some c' ∧ Begun 0 c c' := by
  unfold enter
  split_ifs <;> exact update_begun_none hc changed fun _ => ⟨rfl, rfl⟩

theorem enqueue_begun (hc : s.calls[ticket]? = some c) (changed : Ticket) (accepted : Bool) :
    ∃ c', (enqueue changed accepted s).calls[ticket]? = some c' ∧ Begun 0 c c' := by
  unfold enqueue
  split_ifs <;> exact update_begun_none hc changed fun _ => ⟨rfl, rfl⟩

theorem fallBack_begun (hc : s.calls[ticket]? = some c) (changed : Ticket) (throws : Bool) :
    ∃ c', (fallBack changed throws s).calls[ticket]? = some c' ∧ Begun 0 c c' := by
  unfold fallBack
  split_ifs <;> exact update_begun_none hc changed fun _ => ⟨rfl, rfl⟩

/-- A step begins the task of the call that it says, and no other. -/
theorem handle_begun (e : Event) (hc : s.calls[ticket]? = some c) :
    ∃ c', (handle e s).calls[ticket]? = some c' ∧
      Begun (if begins e s = some ticket then 1 else 0) c c' := by
  cases e with
  | call onUiThread hasTask =>
    refine ⟨c, ?_, .refl c⟩
    obtain ⟨hlt, -⟩ := List.getElem?_eq_some_iff.1 hc
    exact (List.getElem?_append_left hlt).trans hc
  | enter changed =>
    simp only [handle, withCall]
    cases s.calls[changed]? with
    | none => exact ⟨c, hc, .refl c⟩
    | some found => exact enter_begun hc changed found
  | invokeHere invoked => exact invokeHere_begun hc invoked
  | enqueue changed accepted => exact enqueue_begun hc changed accepted
  | fallBack changed throws => exact fallBack_begun hc changed throws
  | settle changed result =>
    simp only [handle, withCall]
    cases s.calls[changed]? with
    | none => exact ⟨c, hc, .refl c⟩
    | some found => exact update_begun_none hc changed fun _ => ⟨rfl, rfl⟩
  | next ready =>
    refine ⟨c, ?_, .refl c⟩
    cases ready <;> exact hc
  | finishHere changed | accept changed | post changed | deliver changed | dropCallback changed
  | dropMessage changed => exact update_begun_none hc changed fun _ => ⟨rfl, rfl⟩
  | handleMessage message => exact handleMessage_begun hc message
  | invoke invoked => exact invoke_begun hc invoked
  | finish | stop | endStop => exact ⟨c, hc, .refl c⟩

/-- A task that is begun was not begun before. -/
theorem Inv.fresh (h : Inv s) {e : Event} (he : Enabled s e) (hbegins : begins e s = some ticket) :
    ∃ c, s.calls[ticket]? = some c ∧ c.runs = 0 := by
  cases e with
  | invokeHere invoked =>
    obtain ⟨-, rfl⟩ : s.stopped = false ∧ invoked = ticket := by simpa [begins] using hbegins
    obtain ⟨c, hc, hpoint⟩ := call_of_isAt he
    have hplaces := (h.call hc).once
    simp only [Call.places, hpoint, Point.holds, Bool.toNat_true] at hplaces
    exact ⟨c, hc, by omega⟩
  | invoke invoked =>
    obtain ⟨-, rfl⟩ : s.stopped = false ∧ invoked = ticket := by simpa [begins] using hbegins
    have hmem : invoked ∈ s.awaited := List.mem_flatMap.2 ⟨_, he, by simp [Frame.awaits]⟩
    obtain ⟨c, hc⟩ := h.call_of_awaited hmem
    have hplaces := (h.call hc).once
    have hpos := List.count_pos_iff.2 hmem
    simp only [Call.places] at hplaces
    exact ⟨c, hc, by omega⟩
  | _ => simp [begins] at hbegins

end UiDispatcher

end PlaybackConnector
