import PlaybackConnector.Transition.System
import Mathlib

/-!
# The refreshes of the UI

`UiRefreshScheduler` (`UiRefreshScheduler.cpp:16`) gathers the requests of any thread in a
`UiRefreshCoalescer` and has the UI thread apply them. Of all who request only one reserves the
drain; the reservation goes from there to a callback in the dispatcher's queue, to the retry timer
or to the drain. The steps are the critical sections, the accesses of the atomic members and the
calls of the queue and of `Apply`, of any number of threads.

What is assumed of the dispatcher's queue is that it has queued the callback if and only if it says
so, and that it drops none while the scheduler is not stopped.
-/

namespace PlaybackConnector

/-- Source: `UiRefreshCoalescer::Flags` (`UiRefreshCoalescer.hpp:14`). -/
abbrev RefreshFlags := BitVec 32

/-! ## The coalescer -/

/-- Source: the members of `UiRefreshCoalescer` (`UiRefreshCoalescer.hpp:54`). -/
structure UiRefreshCoalescer where
  pendingFlags : RefreshFlags
  drainScheduled : Bool
  cancelled : Bool
deriving Repr, DecidableEq

namespace UiRefreshCoalescer

/-- Source: `Request` (`UiRefreshCoalescer.hpp:16`). -/
def request (flags : RefreshFlags) (c : UiRefreshCoalescer) : Bool × UiRefreshCoalescer :=
  if c.cancelled ∨ flags = 0 then (false, c)
  else (!c.drainScheduled,
    { c with pendingFlags := c.pendingFlags ||| flags, drainScheduled := true })

/-- Source: `BeginDrain` (`UiRefreshCoalescer.hpp:27`). -/
def beginDrain (c : UiRefreshCoalescer) : RefreshFlags × UiRefreshCoalescer :=
  (c.pendingFlags, { c with pendingFlags := 0 })

/-- Source: `CompleteDrain` (`UiRefreshCoalescer.hpp:34`). -/
def completeDrain (c : UiRefreshCoalescer) : Bool × UiRefreshCoalescer :=
  if c.cancelled then (false, c)
  else if c.pendingFlags ≠ 0 then (true, c)
  else (false, { c with drainScheduled := false })

/-- Source: `Cancel` (`UiRefreshCoalescer.hpp:44`). -/
def cancel (_ : UiRefreshCoalescer) : UiRefreshCoalescer := ⟨0, false, true⟩

variable {c : UiRefreshCoalescer} {flags : RefreshFlags}

theorem request_of_open (hopen : c.cancelled = false) (hflags : flags ≠ 0) :
    c.request flags = (!c.drainScheduled,
      { c with pendingFlags := c.pendingFlags ||| flags, drainScheduled := true }) :=
  if_neg (not_or.2 ⟨by simp [hopen], hflags⟩)

theorem request_zero (c : UiRefreshCoalescer) : c.request 0 = (false, c) := if_pos (.inr rfl)

theorem request_pendingFlags (hopen : c.cancelled = false) (flags : RefreshFlags) :
    (c.request flags).2.pendingFlags = c.pendingFlags ||| flags := by
  by_cases hflags : flags = 0
  · rw [hflags, request_zero]
    exact (BitVec.or_zero ..).symm
  · rw [request_of_open hopen hflags]

/-- What was requested since is drained once more. -/
theorem completeDrain_of_pending (hopen : c.cancelled = false) (hpending : c.pendingFlags ≠ 0) :
    c.completeDrain = (true, c) := by
  rw [completeDrain, if_neg (by simp [hopen]), if_pos hpending]

theorem completeDrain_pendingFlags (c : UiRefreshCoalescer) :
    c.completeDrain.2.pendingFlags = c.pendingFlags := by
  unfold completeDrain
  split_ifs <;> rfl

theorem completeDrain_of_empty (hopen : c.cancelled = false) (hpending : c.pendingFlags = 0) :
    c.completeDrain = (false, { c with drainScheduled := false }) := by
  rw [completeDrain, if_neg (by simp [hopen]), if_neg (fun h => h hpending)]

end UiRefreshCoalescer

namespace UiRefreshScheduler

/-- A value of `NextTicket`. -/
abbrev Ticket := BitVec 64

/-! ## The scheduler -/

/-- Where a thread stands. -/
inductive Point
  /-- In `Request`, before `Pending.Request`. -/
  | requesting (flags : RefreshFlags)
  /-- In `Queue`, before it looks at `Stopped`. -/
  | queueing
  /-- Before it takes a ticket. -/
  | numbering
  /-- Before it stores the ticket. -/
  | storing (ticket : Ticket)
  /-- In `Enqueue`. -/
  | enqueuing (ticket : Ticket)
  /-- After `Enqueue` has returned false or thrown. -/
  | rejected (ticket : Ticket)
  /-- In `Arm`. -/
  | arming (delay : Nat)
  /-- In `OnTimer`. -/
  | onTimer
  /-- In a callback that has claimed the ticket, before it looks at `Stopped`. -/
  | claimed
  /-- In `Drain`, before `BeginDrain`. -/
  | draining
  /-- In `Apply`, of the numbered drain. -/
  | applying (flags : RefreshFlags) (drain : Nat)
  /-- After `Apply`, before it looks at `Stopped`. -/
  | applied (flags : RefreshFlags) (drain : Nat) (succeeded : Bool)
  /-- Before it requests again what has failed. -/
  | failing (flags : RefreshFlags) (drain : Nat)
  /-- Before `CompleteDrain`. -/
  | completing (succeeded : Bool)
  /-- In `Stop`, before it clears `QueuedTicket`. -/
  | clearing
  /-- In `Stop`, before `Pending.Cancel`. -/
  | cancelling
  /-- In `Stop`, before it takes the timer. -/
  | disarming
deriving Repr, DecidableEq

/-- A call of `Request`, with the number of the drains that were begun before. No code reads it. -/
structure Request where
  flags : RefreshFlags
  since : Nat
deriving Repr, DecidableEq

/-- A call of `Apply` that is over, with the number of its drain. No code reads it. -/
structure Apply where
  drain : Nat
  flags : RefreshFlags
  succeeded : Bool
deriving Repr, DecidableEq

/-- Source: the members of `UiRefreshScheduler::State` (`UiRefreshScheduler.cpp:16`). -/
structure State where
  pending : UiRefreshCoalescer
  stopped : Bool
  nextTicket : Ticket
  queuedTicket : Ticket
  failures : Nat
  /-- `Timer` holds the timer. -/
  timer : Bool
  /-- The delay that the timer is armed with, in milliseconds. -/
  armed : Option Nat
  /-- The tickets of the callbacks that the dispatcher's queue holds. -/
  callbacks : List Ticket
  /-- Where the threads stand. -/
  threads : List Point
  /-- How many drains were begun. No code reads it. -/
  drains : Nat
  requests : List Request
  applies : List Apply
deriving Repr, DecidableEq

/-- Source: the constructor (`UiRefreshScheduler.cpp:116`). -/
def initial : State where
  pending := ⟨0, false, false⟩
  stopped := false
  nextTicket := 0
  queuedTicket := 0
  failures := 0
  timer := true
  armed := none
  callbacks := []
  threads := []
  drains := 0
  requests := []
  applies := []

/-- A thread goes on at the point. -/
def State.goOn (point : Point) (s : State) : State := { s with threads := point :: s.threads }

/-- A thread leaves the point. -/
def State.leave (point : Point) (s : State) : State :=
  { s with threads := s.threads.erase point }

/-- A thread goes on at the point, unless the scheduler is stopped. -/
def State.unlessStopped (point : Point) (s : State) : State :=
  if s.stopped then s else s.goOn point

/-- Source: `Request` (`UiRefreshScheduler.cpp:126`). -/
def request (flags : RefreshFlags) (s : State) : State :=
  let (reserved, pending) := s.pending.request flags
  let s := { s with pending := pending, requests := ⟨flags, s.drains⟩ :: s.requests }
  if reserved then s.goOn .queueing else s

/-- The answer of the queue. Source: `Queue` (`UiRefreshScheduler.cpp:75`). -/
def enqueue (ticket : Ticket) (accepted : Bool) (s : State) : State :=
  if accepted then { s with callbacks := s.callbacks ++ [ticket] } else s.goOn (.rejected ticket)

/-- Source: `Arm` (`UiRefreshScheduler.cpp:48`). -/
def arm (delay : Nat) (s : State) : State :=
  if s.stopped ∨ !s.timer then s else { s with armed := some delay }

/-- The first step of `Drain`. Source: `Drain` (`UiRefreshScheduler.cpp:94`). -/
def beginDrain (s : State) : State :=
  let (flags, pending) := s.pending.beginDrain
  { s with pending := pending, drains := s.drains + 1 }.goOn (.applying flags s.drains)

/-- `Apply` returns or throws. Source: `Drain` (`UiRefreshScheduler.cpp:97`). -/
def apply (flags : RefreshFlags) (drain : Nat) (succeeded : Bool) (s : State) : State :=
  { s with applies := ⟨drain, flags, succeeded⟩ :: s.applies }.goOn
    (.applied flags drain succeeded)

/-- The end of `Drain`. Source: `Drain` (`UiRefreshScheduler.cpp:103`). -/
def completeDrain (succeeded : Bool) (s : State) : State :=
  let failures := if succeeded then 0 else min (s.failures + 1) 6
  let (again, pending) := s.pending.completeDrain
  let s := { s with failures := failures, pending := pending }
  if !again then s
  else s.goOn (if succeeded then .queueing else .arming (100 <<< (failures - 1)))

/-- A thread goes on from the point that it has left. The answer is what the apartment, the queue or
`Apply` says; nothing else asks for one. -/
def advance (retryMask : RefreshFlags) (answer : Bool) : Point → State → State
  | .requesting flags => request flags
  | .queueing => State.unlessStopped .numbering
  | .numbering => fun s =>
    { s with nextTicket := s.nextTicket + 1 }.goOn (.storing (s.nextTicket + 1))
  | .storing ticket => fun s => { s with queuedTicket := ticket }.goOn (.enqueuing ticket)
  | .enqueuing ticket => enqueue ticket answer
  | .rejected ticket => fun s =>
    { s with queuedTicket := if s.queuedTicket = ticket then 0 else s.queuedTicket }.goOn
      (.arming 100)
  | .arming delay => arm delay
  | .onTimer => State.goOn (if answer then .queueing else .arming 100)
  | .claimed => State.unlessStopped .draining
  | .draining => beginDrain
  | .applying flags drain => apply flags drain answer
  | .applied flags drain succeeded =>
    State.unlessStopped (if succeeded then .completing true else .failing flags drain)
  | .failing flags _ => fun s =>
    { s with pending := (s.pending.request (flags &&& retryMask)).2 }.goOn (.completing false)
  | .completing succeeded => completeDrain succeeded
  | .clearing => fun s => { s with queuedTicket := 0 }.goOn .cancelling
  | .cancelling => fun s => { s with pending := s.pending.cancel }.goOn .disarming
  | .disarming => fun s => { s with timer := false, armed := none }

/-- The queue runs a callback, which claims its ticket. Source: `Queue`
(`UiRefreshScheduler.cpp:79`). -/
def deliver (ticket : Ticket) (s : State) : State :=
  let s := { s with callbacks := s.callbacks.erase ticket }
  if s.queuedTicket = ticket then { s with queuedTicket := 0 }.goOn .claimed else s

/-! ## The scheduler as an event system -/

/-- A call from outside, a step of the queue or of the timer, or a thread's next step. -/
inductive Event
  | request (flags : RefreshFlags)
  | stop
  | fire
  | deliver (ticket : Ticket)
  | drop (ticket : Ticket)
  | step (point : Point) (answer : Bool)
deriving Repr, DecidableEq

/-- What can happen. -/
def Enabled (s : State) : Event → Prop
  | .request _ | .stop => True
  | .fire => s.armed.isSome
  | .deliver ticket => ticket ∈ s.callbacks
  | .drop ticket => ticket ∈ s.callbacks ∧ s.stopped
  | .step point _ => point ∈ s.threads

instance (s : State) : DecidablePred (Enabled s)
  | .request _ | .stop => isTrue trivial
  | .fire => inferInstanceAs (Decidable (_ = true))
  | .deliver _ | .step _ _ => inferInstanceAs (Decidable (_ ∈ _))
  | .drop _ => inferInstanceAs (Decidable (_ ∧ _))

/-- The step of an event. -/
def handle (retryMask : RefreshFlags) : Event → State → State
  | .request flags => State.goOn (.requesting flags)
  | .stop => fun s => { s with stopped := true }.goOn .clearing
  | .fire => fun s => { s with armed := none }.goOn .onTimer
  | .deliver ticket => deliver ticket
  | .drop ticket => fun s => { s with callbacks := s.callbacks.erase ticket }
  | .step point answer => fun s => advance retryMask answer point (s.leave point)

end UiRefreshScheduler

/-- Any number of threads that use one scheduler. Source: `UiRefreshScheduler`
(`UiRefreshScheduler.hpp:14`). -/
def uiRefreshScheduler (retryMask : RefreshFlags) :
    EventSystem UiRefreshScheduler.State UiRefreshScheduler.Event where
  enabled := UiRefreshScheduler.Enabled
  step s e := UiRefreshScheduler.handle retryMask e s

instance (retryMask : RefreshFlags) (s : UiRefreshScheduler.State) (e : UiRefreshScheduler.Event) :
    Decidable ((uiRefreshScheduler retryMask).enabled s e) :=
  inferInstanceAs (Decidable (UiRefreshScheduler.Enabled s e))

namespace UiRefreshScheduler

/-! ## Who has the reservation -/

/-- What a thread is about. -/
inductive Role
  /-- To ask for a refresh. -/
  | asks
  /-- To give the reservation to the queue or to the timer. -/
  | handsOver
  /-- To drain, from the claim of its ticket on. -/
  | drains
  /-- To stop the scheduler. -/
  | stops
deriving Repr, DecidableEq

/-- What a thread at the point is about. -/
def Point.role : Point → Role
  | .requesting _ => .asks
  | .queueing | .numbering | .storing _ | .enqueuing _ | .rejected _ | .arming _ | .onTimer =>
    .handsOver
  | .claimed | .draining | .applying _ _ | .applied _ _ _ | .failing _ _ | .completing _ => .drains
  | .clearing | .cancelling | .disarming => .stops

/-- The thread has the role. -/
def Point.has (role : Role) (point : Point) : Bool := decide (point.role = role)

/-- The thread has the reservation. -/
def Point.holds (point : Point) : Bool := point.has .drains || point.has .handsOver

/-- How many callbacks in the queue are live, which is what `QueuedTicket` says. -/
def State.live (s : State) : Nat := s.callbacks.count s.queuedTicket

/-- What can back a reservation: live callbacks, the armed timer, drains in progress and threads on
their way to the queue or to the timer. -/
def State.backers (s : State) : Nat :=
  s.live + s.armed.isSome.toNat + s.threads.countP (Point.has .drains) +
    s.threads.countP (Point.has .handsOver)

/-- What holds of the reservation while the scheduler is not stopped. -/
structure Reserved (s : State) : Prop where
  isOpen : s.pending.cancelled = false ∧ s.timer = true
  backed : s.backers = s.pending.drainScheduled.toNat
  pending : s.pending.pendingFlags ≠ 0 → s.pending.drainScheduled = true
  live : ∀ ticket ∈ s.callbacks, ticket = s.queuedTicket
  stored : ∀ ticket, .enqueuing ticket ∈ s.threads → s.queuedTicket = ticket
  running : ∀ point ∈ s.threads, point.role ≠ .stops

/-- What holds where a thread with the reservation has left its point. -/
structure Carried (s : State) : Prop where
  isOpen : s.pending.cancelled = false ∧ s.timer = true
  reserved : s.pending.drainScheduled = true
  callbacks : s.callbacks = []
  armed : s.armed = none
  threads : ∀ point ∈ s.threads, point.holds = false ∧ point.role ≠ .stops

variable {s : State} {point : Point}

theorem countP_holds (threads : List Point) : threads.countP Point.holds =
    threads.countP (Point.has .drains) + threads.countP (Point.has .handsOver) := by
  induction threads with
  | nil => rfl
  | cons point threads ih =>
    simp only [List.countP_cons, ih, Point.holds, Point.has]
    by_cases hdrains : point.role = .drains
    · simp [hdrains]
      omega
    · by_cases hhands : point.role = .handsOver
      · simp [hhands]
        omega
      · simp [hdrains, hhands]

theorem State.backers_eq (s : State) :
    s.backers = s.live + s.armed.isSome.toNat + s.threads.countP Point.holds := by
  rw [countP_holds, State.backers]
  omega

theorem countP_erase {threads : List Point} (h : point ∈ threads) (p : Point → Bool) :
    threads.countP p = (threads.erase point).countP p + (p point).toNat := by
  rw [(List.perm_cons_erase h).countP_eq p, List.countP_cons]
  cases p point <;> rfl

theorem reserved_initial : Reserved initial := by
  constructor <;> simp [initial, State.backers, State.live]

/-- A thread with the reservation is the only one that has it. -/
theorem Reserved.leave (h : Reserved s) (hpoint : point ∈ s.threads) (hholds : point.holds = true) :
    Carried (s.leave point) := by
  have hbacked := h.backed
  rw [State.backers_eq, countP_erase hpoint, hholds] at hbacked
  have hbound : s.pending.drainScheduled.toNat ≤ 1 := Bool.toNat_le _
  simp only [Bool.toNat_true] at hbacked
  have hlive : s.live = 0 := by omega
  have harmed : s.armed.isSome.toNat = 0 := by omega
  have hthreads : (s.threads.erase point).countP Point.holds = 0 := by omega
  refine ⟨h.isOpen, ?_, ?_, ?_, fun other hother =>
    ⟨?_, h.running other (List.mem_of_mem_erase hother)⟩⟩
  · cases hthis : s.pending.drainScheduled with
    | true => exact hthis
    | false => simp [hthis] at hbacked
  · rw [State.live, List.count_eq_zero] at hlive
    cases hcallbacks : s.callbacks with
    | nil => exact hcallbacks
    | cons ticket rest =>
      have hmem : ticket ∈ s.callbacks := by simp [hcallbacks]
      exact absurd (h.live ticket hmem ▸ hmem) hlive
  · cases hthis : s.armed with
    | none => exact hthis
    | some delay => simp [hthis] at harmed
  · exact Bool.eq_false_iff.2 (List.countP_eq_zero.1 hthreads other hother)

/-- A thread without the reservation leaves the others as they are. -/
theorem Reserved.leave_other (h : Reserved s) (hpoint : point ∈ s.threads)
    (hholds : point.holds = false) : Reserved (s.leave point) := by
  refine ⟨h.isOpen, ?_, h.pending, h.live, fun ticket hmem => ?_, fun other hother => ?_⟩
  · have hbacked := h.backed
    rw [State.backers_eq, countP_erase hpoint, hholds] at hbacked
    rw [State.backers_eq]
    exact hbacked
  · exact h.stored ticket (List.mem_of_mem_erase hmem)
  · exact h.running other (List.mem_of_mem_erase hother)

/-- The reservation goes on with the thread. -/
theorem Carried.goOn (h : Carried s) (hholds : point.holds = true)
    (hstored : ∀ ticket, point = .enqueuing ticket → s.queuedTicket = ticket) :
    Reserved (s.goOn point) := by
  have hnone : s.threads.countP Point.holds = 0 :=
    List.countP_eq_zero.2 fun other hother => by simp [(h.threads other hother).1]
  refine ⟨h.isOpen, ?_, fun _ => h.reserved, ?_, fun ticket hmem => ?_, fun other hother => ?_⟩
  · simp [State.backers_eq, State.goOn, State.live, h.callbacks, h.armed, h.reserved, hnone, hholds]
  · simp [State.goOn, h.callbacks]
  · obtain hthis | hmem := List.mem_cons.1 hmem
    · exact hstored ticket hthis.symm
    · exact absurd (h.threads _ hmem).1 (by simp [Point.holds, Point.has, Point.role])
  · obtain rfl | hother := List.mem_cons.1 hother
    · intro hstops
      simp [Point.holds, Point.has, hstops] at hholds
    · exact (h.threads other hother).2

/-- The reservation goes to a callback. -/
theorem Carried.callback (h : Carried s) : Reserved { s with callbacks := [s.queuedTicket] } := by
  have hnone : s.threads.countP Point.holds = 0 :=
    List.countP_eq_zero.2 fun other hother => by simp [(h.threads other hother).1]
  refine ⟨h.isOpen, ?_, fun _ => h.reserved, by simp, fun ticket hmem => ?_, fun other hother => ?_⟩
  · simp [State.backers_eq, State.live, h.armed, h.reserved, hnone]
  · exact absurd (h.threads _ hmem).1 (by simp [Point.holds, Point.has, Point.role])
  · exact (h.threads other hother).2

/-- The reservation goes to the timer. -/
theorem Carried.arm (h : Carried s) (delay : Nat) : Reserved { s with armed := some delay } := by
  have hnone : s.threads.countP Point.holds = 0 :=
    List.countP_eq_zero.2 fun other hother => by simp [(h.threads other hother).1]
  refine ⟨h.isOpen, ?_, fun _ => h.reserved, by simp [h.callbacks], fun ticket hmem => ?_,
    fun other hother => ?_⟩
  · simp [State.backers_eq, State.live, h.callbacks, h.reserved, hnone]
  · exact absurd (h.threads _ hmem).1 (by simp [Point.holds, Point.has, Point.role])
  · exact (h.threads other hother).2

/-- The reservation is given back. -/
theorem Carried.release (h : Carried s) (hpending : s.pending.pendingFlags = 0) :
    Reserved { s with pending := { s.pending with drainScheduled := false } } := by
  have hnone : s.threads.countP Point.holds = 0 :=
    List.countP_eq_zero.2 fun other hother => by simp [(h.threads other hother).1]
  refine ⟨h.isOpen, ?_, fun hthis => absurd hpending hthis, by simp [h.callbacks],
    fun ticket hmem => ?_, fun other hother => ?_⟩
  · simp [State.backers_eq, State.live, h.callbacks, h.armed, hnone]
  · exact absurd (h.threads _ hmem).1 (by simp [Point.holds, Point.has, Point.role])
  · exact (h.threads other hother).2

/-- The reservation is made. -/
theorem Reserved.reserve (h : Reserved s) (hscheduled : s.pending.drainScheduled = false)
    (flags : RefreshFlags) :
    Carried { s with
      pending := { s.pending with pendingFlags := flags, drainScheduled := true } } := by
  have hbacked := h.backed
  rw [State.backers_eq, hscheduled, Bool.toNat_false] at hbacked
  have hlive : s.live = 0 := by omega
  have harmed : s.armed.isSome.toNat = 0 := by omega
  have hthreads : s.threads.countP Point.holds = 0 := by omega
  refine ⟨h.isOpen, rfl, ?_, ?_, fun other hother => ⟨?_, h.running other hother⟩⟩
  · rw [State.live, List.count_eq_zero] at hlive
    exact List.eq_nil_iff_forall_not_mem.2 fun ticket hmem => hlive (h.live ticket hmem ▸ hmem)
  · exact Option.not_isSome_iff_eq_none.1 fun hsome => by simp [hsome] at harmed
  · exact Bool.eq_false_iff.2 (List.countP_eq_zero.1 hthreads other hother)

/-! ## Every step keeps the reservation -/

theorem reserved_request (h : Reserved s) (flags : RefreshFlags) : Reserved (request flags s) := by
  by_cases hflags : flags = 0
  · subst hflags
    rw [request, UiRefreshCoalescer.request_zero]
    exact ⟨h.isOpen, h.backed, h.pending, h.live, h.stored, h.running⟩
  · rw [request, UiRefreshCoalescer.request_of_open h.isOpen.1 hflags]
    cases hscheduled : s.pending.drainScheduled with
    | true =>
      refine ⟨h.isOpen, ?_, fun _ => rfl, h.live, h.stored, h.running⟩
      exact h.backed.trans (congrArg Bool.toNat hscheduled)
    | false =>
      have hcarried := h.reserve hscheduled (s.pending.pendingFlags ||| flags)
      show Reserved (State.goOn .queueing _)
      exact Carried.goOn ⟨hcarried.isOpen, hcarried.reserved, hcarried.callbacks, hcarried.armed,
        hcarried.threads⟩ rfl (by simp)

theorem reserved_enqueue {ticket : Ticket} (h : Carried s) (hticket : s.queuedTicket = ticket)
    (accepted : Bool) : Reserved (enqueue ticket accepted s) := by
  subst hticket
  unfold enqueue
  split_ifs
  · rw [h.callbacks]
    exact h.callback
  · exact h.goOn rfl (by simp)

theorem arm_of_open (h : Carried s) (hstopped : s.stopped = false) (delay : Nat) :
    arm delay s = { s with armed := some delay } :=
  if_neg (by simp [hstopped, h.isOpen.2])

theorem reserved_completeDrain (h : Carried s) (succeeded : Bool) :
    Reserved (completeDrain succeeded s) := by
  by_cases hflags : s.pending.pendingFlags = 0
  · rw [completeDrain, UiRefreshCoalescer.completeDrain_of_empty h.isOpen.1 hflags]
    have hreleased := h.release hflags
    exact ⟨hreleased.isOpen, hreleased.backed, hreleased.pending, hreleased.live, hreleased.stored,
      hreleased.running⟩
  · rw [completeDrain, UiRefreshCoalescer.completeDrain_of_pending h.isOpen.1 hflags]
    refine Carried.goOn ⟨h.isOpen, h.reserved, h.callbacks, h.armed, h.threads⟩ ?_ ?_
    · split_ifs <;> rfl
    · split_ifs <;> simp

theorem unlessStopped_of_running (hstopped : s.stopped = false) (point : Point) :
    s.unlessStopped point = s.goOn point :=
  if_neg (by simp [hstopped])

theorem reserved_advance (h : Reserved s) (hstopped : s.stopped = false)
    (hpoint : point ∈ s.threads) (retryMask : RefreshFlags) (answer : Bool) :
    Reserved (advance retryMask answer point (s.leave point)) := by
  cases point with
  | requesting flags => exact reserved_request (h.leave_other hpoint rfl) flags
  | queueing =>
    rw [advance, unlessStopped_of_running (by exact hstopped)]
    exact (h.leave hpoint rfl).goOn rfl (by simp)
  | numbering =>
    have hcarried := h.leave hpoint rfl
    exact Carried.goOn ⟨hcarried.isOpen, hcarried.reserved, hcarried.callbacks, hcarried.armed,
      hcarried.threads⟩ rfl (by simp)
  | storing ticket =>
    have hcarried := h.leave hpoint rfl
    refine Carried.goOn ⟨hcarried.isOpen, hcarried.reserved, hcarried.callbacks, hcarried.armed,
      hcarried.threads⟩ rfl fun other hother => ?_
    exact Point.enqueuing.inj hother
  | enqueuing ticket =>
    exact reserved_enqueue (h.leave hpoint rfl) (h.stored ticket hpoint) answer
  | rejected ticket =>
    have hcarried := h.leave hpoint rfl
    exact Carried.goOn ⟨hcarried.isOpen, hcarried.reserved, hcarried.callbacks, hcarried.armed,
      hcarried.threads⟩ rfl (by simp)
  | arming delay =>
    have hcarried := h.leave hpoint rfl
    rw [advance, arm_of_open hcarried hstopped]
    exact hcarried.arm delay
  | onTimer =>
    refine (h.leave hpoint rfl).goOn ?_ ?_
    · split_ifs <;> rfl
    · split_ifs <;> simp
  | claimed =>
    rw [advance, unlessStopped_of_running (by exact hstopped)]
    exact (h.leave hpoint rfl).goOn rfl (by simp)
  | draining =>
    have hcarried := h.leave hpoint rfl
    exact Carried.goOn ⟨hcarried.isOpen, hcarried.reserved, hcarried.callbacks, hcarried.armed,
      hcarried.threads⟩ rfl (by simp)
  | applying flags drain =>
    have hcarried := h.leave hpoint rfl
    exact Carried.goOn ⟨hcarried.isOpen, hcarried.reserved, hcarried.callbacks, hcarried.armed,
      hcarried.threads⟩ rfl (by simp)
  | applied flags drain succeeded =>
    rw [advance, unlessStopped_of_running (by exact hstopped)]
    refine (h.leave hpoint rfl).goOn ?_ ?_
    · split_ifs <;> rfl
    · split_ifs <;> simp
  | failing flags drain =>
    have hcarried := h.leave hpoint rfl
    refine Carried.goOn ⟨?_, ?_, hcarried.callbacks, hcarried.armed, hcarried.threads⟩ rfl (by simp)
    · refine ⟨?_, hcarried.isOpen.2⟩
      simp only [UiRefreshCoalescer.request]
      split_ifs <;> exact hcarried.isOpen.1
    · simp only [UiRefreshCoalescer.request]
      split_ifs
      · exact hcarried.reserved
      · rfl
  | completing succeeded => exact reserved_completeDrain (h.leave hpoint rfl) succeeded
  | clearing | cancelling | disarming => exact absurd rfl (h.running _ hpoint)

/-- A live callback claims its ticket. -/
theorem reserved_deliver (h : Reserved s) {ticket : Ticket} (hticket : ticket ∈ s.callbacks) :
    Reserved (deliver ticket s) := by
  obtain rfl := h.live ticket hticket
  have hbacked := h.backed
  have hpos : 0 < s.callbacks.count s.queuedTicket := List.count_pos_iff.2 hticket
  have hbound : s.pending.drainScheduled.toNat ≤ 1 := Bool.toNat_le _
  rw [State.backers_eq, State.live] at hbacked
  have hcount : (s.callbacks.erase s.queuedTicket).count s.queuedTicket = 0 := by
    rw [List.count_erase_self]
    omega
  have harmed : s.armed.isSome.toNat = 0 := by omega
  have hthreads : s.threads.countP Point.holds = 0 := by omega
  simp only [deliver, if_true]
  refine Carried.goOn ⟨h.isOpen, ?_, ?_, ?_, fun other hother => ⟨?_, h.running other hother⟩⟩ rfl
    (by simp)
  · cases hthis : s.pending.drainScheduled with
    | true => rfl
    | false => simp [hthis] at hbacked; omega
  · refine List.eq_nil_iff_forall_not_mem.2 fun other hother => ?_
    have hsame := h.live other (List.mem_of_mem_erase hother)
    exact List.count_eq_zero.1 hcount (hsame ▸ hother)
  · exact Option.not_isSome_iff_eq_none.1 fun hsome => by simp [hsome] at harmed
  · exact Bool.eq_false_iff.2 (List.countP_eq_zero.1 hthreads other hother)

/-- The timer fires. -/
theorem reserved_fire (h : Reserved s) (harmed : s.armed.isSome = true) :
    Reserved ({ s with armed := none }.goOn .onTimer) := by
  have hbacked := h.backed
  have hbound : s.pending.drainScheduled.toNat ≤ 1 := Bool.toNat_le _
  rw [State.backers_eq, harmed, Bool.toNat_true, State.live] at hbacked
  have hthreads : s.threads.countP Point.holds = 0 := by omega
  have hlive : s.callbacks.count s.queuedTicket = 0 := by omega
  refine Carried.goOn ⟨h.isOpen, ?_, ?_, rfl, fun other hother => ⟨?_, h.running other hother⟩⟩ rfl
    (by simp)
  · cases hthis : s.pending.drainScheduled with
    | true => rfl
    | false => simp [hthis] at hbacked
  · refine List.eq_nil_iff_forall_not_mem.2 fun other hother => ?_
    exact List.count_eq_zero.1 hlive (h.live other hother ▸ hother)
  · exact Bool.eq_false_iff.2 (List.countP_eq_zero.1 hthreads other hother)

/-! ## What a step leaves -/

theorem advance_stopped (retryMask : RefreshFlags) (answer : Bool) (point : Point) (s : State) :
    (advance retryMask answer point s).stopped = s.stopped := by
  cases point <;> simp only [advance, request, enqueue, arm, beginDrain, apply, completeDrain,
    State.unlessStopped, State.goOn] <;> (try split_ifs) <;> rfl

theorem handle_stopped (retryMask : RefreshFlags) (e : Event)
    (h : (handle retryMask e s).stopped = false) : s.stopped = false := by
  cases e with
  | stop => exact absurd h (by simp [handle, State.goOn])
  | deliver ticket =>
    simp only [handle, deliver] at h
    split_ifs at h <;> exact h
  | step point answer => exact (advance_stopped retryMask answer point (s.leave point)).symm.trans h
  | request | fire | drop => exact h

theorem reserved_handle {retryMask : RefreshFlags} {e : Event} (he : Enabled s e)
    (h : s.stopped = false → Reserved s) (hstopped : (handle retryMask e s).stopped = false) :
    Reserved (handle retryMask e s) := by
  have hrunning := handle_stopped retryMask e hstopped
  have hthis := h hrunning
  cases e with
  | request flags =>
    refine ⟨hthis.isOpen, ?_, hthis.pending, hthis.live, fun ticket hmem => ?_,
      fun other hother => ?_⟩
    · rw [State.backers_eq]
      exact (State.backers_eq s).symm.trans hthis.backed
    · exact hthis.stored ticket ((List.mem_cons.1 hmem).resolve_left (by simp))
    · obtain rfl | hother := List.mem_cons.1 hother
      · simp [Point.role]
      · exact hthis.running other hother
  | stop => exact absurd hstopped (by simp [handle, State.goOn])
  | fire => exact reserved_fire hthis he
  | deliver ticket => exact reserved_deliver hthis he
  | drop ticket => exact absurd he.2 (by simp [hrunning])
  | step point answer => exact reserved_advance hthis hrunning he retryMask answer

/-! ## What becomes of a request -/

/-- What the thread has taken from the pending flags, with the number of its drain. -/
def Point.taken : Point → Option (RefreshFlags × Nat)
  | .applying flags drain | .applied flags drain _ | .failing flags drain => some (flags, drain)
  | .requesting _ | .queueing | .numbering | .storing _ | .enqueuing _ | .rejected _ | .arming _
  | .onTimer | .claimed | .draining | .completing _ | .clearing | .cancelling | .disarming => none

/-- A drain that was begun since has the flag and is not over. -/
def Taken (s : State) (since flag : Nat) : Prop :=
  ∃ point ∈ s.threads, ∃ flags drain, point.taken = some (flags, drain) ∧ since ≤ drain ∧
    flags.getLsbD flag = true

/-- An `Apply` that was begun since was given the flag, and has succeeded or is not retried. -/
def Served (retryMask : RefreshFlags) (s : State) (since flag : Nat) : Prop :=
  ∃ a ∈ s.applies, since ≤ a.drain ∧ a.flags.getLsbD flag = true ∧
    (a.succeeded = true ∨ retryMask.getLsbD flag = false)

/-- A flag that was requested then is pending, with a drain, or applied. -/
def Kept (retryMask : RefreshFlags) (s : State) (since flag : Nat) : Prop :=
  s.pending.pendingFlags.getLsbD flag = true ∨ Taken s since flag ∨ Served retryMask s since flag

/-- What the records of the requests and of the calls of `Apply` say. -/
structure Recorded (s : State) : Prop where
  since : ∀ r ∈ s.requests, r.since ≤ s.drains
  applied : ∀ flags drain succeeded, .applied flags drain succeeded ∈ s.threads →
    ⟨drain, flags, succeeded⟩ ∈ s.applies
  failing : ∀ flags drain, .failing flags drain ∈ s.threads → ⟨drain, flags, false⟩ ∈ s.applies

theorem recorded_initial : Recorded initial := by
  constructor <;> simp [initial]

variable {s' : State} {retryMask : RefreshFlags} {since flag : Nat}

/-- A step that loses no flag that is pending, with a drain or applied. -/
theorem Kept.mono (h : Kept retryMask s since flag)
    (hpending : s.pending.pendingFlags.getLsbD flag = true →
      s'.pending.pendingFlags.getLsbD flag = true)
    (hthreads : ∀ point ∈ s.threads, point.taken.isSome → point ∈ s'.threads)
    (happlies : ∀ a ∈ s.applies, a ∈ s'.applies) : Kept retryMask s' since flag := by
  obtain h | ⟨point, hpoint, flags, drain, htaken, hsince, hflag⟩ | ⟨a, ha, hserved⟩ := h
  · exact .inl (hpending h)
  · exact .inr (.inl ⟨point, hthreads point hpoint (by simp [htaken]), flags, drain, htaken, hsince,
      hflag⟩)
  · exact .inr (.inr ⟨a, happlies a ha, hserved⟩)

/-- A thread that has taken nothing leaves its point. -/
theorem Kept.leave (h : Kept retryMask s since flag) (hpoint : point.taken = none) :
    Kept retryMask (s.leave point) since flag :=
  h.mono id (fun other hother htaken => (List.mem_erase_of_ne (by
    rintro rfl
    simp [hpoint] at htaken)).2 hother) fun _ => id

/-- A thread goes on at a point. -/
theorem Kept.goOn (h : Kept retryMask s since flag) (point : Point) :
    Kept retryMask (s.goOn point) since flag :=
  h.mono id (fun _ hother _ => List.mem_cons_of_mem _ hother) fun _ => id

/-- A thread leaves a point with what it has taken. -/
theorem Kept.leave_taken (h : Kept retryMask s since flag) (point : Point) :
    Kept retryMask (s.leave point) since flag ∨
      ∃ flags drain, point.taken = some (flags, drain) ∧ since ≤ drain ∧
        flags.getLsbD flag = true := by
  obtain h | ⟨other, hother, flags, drain, htaken, hthis⟩ | h := h
  · exact .inl (.inl h)
  · by_cases hsame : other = point
    · exact .inr ⟨flags, drain, hsame ▸ htaken, hthis⟩
    · have hmem := (List.mem_erase_of_ne hsame).2 hother
      exact .inl (.inr (.inl ⟨other, hmem, flags, drain, htaken, hthis⟩))
  · exact .inl (.inr (.inr h))

theorem Recorded.leave (h : Recorded s) (point : Point) : Recorded (s.leave point) where
  since := h.since
  applied := fun flags drain succeeded hmem =>
    h.applied flags drain succeeded (List.mem_of_mem_erase hmem)
  failing := fun flags drain hmem => h.failing flags drain (List.mem_of_mem_erase hmem)

theorem Recorded.goOn (h : Recorded s)
    (happlied : ∀ flags drain succeeded, point = .applied flags drain succeeded →
      ⟨drain, flags, succeeded⟩ ∈ s.applies)
    (hfailing : ∀ flags drain, point = .failing flags drain → ⟨drain, flags, false⟩ ∈ s.applies) :
    Recorded (s.goOn point) := by
  refine ⟨h.since, fun flags drain succeeded hmem => ?_, fun flags drain hmem => ?_⟩
  · obtain hthis | hmem := List.mem_cons.1 hmem
    · exact happlied flags drain succeeded hthis.symm
    · exact h.applied flags drain succeeded hmem
  · obtain hthis | hmem := List.mem_cons.1 hmem
    · exact hfailing flags drain hthis.symm
    · exact h.failing flags drain hmem

theorem Recorded.unlessStopped (h : Recorded s) (hgoOn : Recorded (s.goOn point)) :
    Recorded (s.unlessStopped point) := by
  unfold State.unlessStopped
  split_ifs
  · exact h
  · exact hgoOn

theorem recorded_request (h : Recorded s) (flags : RefreshFlags) : Recorded (request flags s) := by
  have hrecord : Recorded { s with
      pending := (s.pending.request flags).2
      requests := ⟨flags, s.drains⟩ :: s.requests } := by
    refine ⟨fun r hr => ?_, h.applied, h.failing⟩
    obtain rfl | hr := List.mem_cons.1 hr
    · exact Nat.le_refl _
    · exact h.since r hr
  simp only [request]
  split_ifs
  · exact hrecord.goOn (by simp) (by simp)
  · exact hrecord

theorem recorded_advance (h : Recorded s) (hpoint : point ∈ s.threads) (retryMask : RefreshFlags)
    (answer : Bool) : Recorded (advance retryMask answer point (s.leave point)) := by
  have hleave := h.leave point
  cases point with
  | requesting flags => exact recorded_request hleave flags
  | queueing | claimed => exact hleave.unlessStopped (hleave.goOn (by simp) (by simp))
  | numbering | storing | rejected | clearing | cancelling =>
    exact Recorded.goOn ⟨hleave.since, hleave.applied, hleave.failing⟩ (by simp) (by simp)
  | enqueuing ticket =>
    simp only [advance, enqueue]
    split_ifs
    · exact ⟨hleave.since, hleave.applied, hleave.failing⟩
    · exact hleave.goOn (by simp) (by simp)
  | arming delay =>
    simp only [advance, arm]
    split_ifs
    · exact hleave
    · exact ⟨hleave.since, hleave.applied, hleave.failing⟩
  | onTimer =>
    simp only [advance]
    split_ifs <;> exact hleave.goOn (by simp) (by simp)
  | draining =>
    refine Recorded.goOn ⟨fun r hr => ?_, hleave.applied, hleave.failing⟩ (by simp) (by simp)
    exact Nat.le_succ_of_le (hleave.since r hr)
  | applying flags drain =>
    refine Recorded.goOn ⟨hleave.since, ?_, ?_⟩ ?_ (by simp)
    · exact fun _ _ _ hmem => List.mem_cons_of_mem _ (hleave.applied _ _ _ hmem)
    · exact fun _ _ hmem => List.mem_cons_of_mem _ (hleave.failing _ _ hmem)
    · rintro _ _ _ ⟨⟩
      exact List.mem_cons_self
  | applied flags drain succeeded =>
    refine hleave.unlessStopped ?_
    cases succeeded with
    | true => exact hleave.goOn (by simp) (by simp)
    | false =>
      refine hleave.goOn (by simp) ?_
      rintro _ _ ⟨⟩
      exact h.applied flags drain false hpoint
  | failing flags drain =>
    exact Recorded.goOn ⟨hleave.since, hleave.applied, hleave.failing⟩ (by simp) (by simp)
  | completing succeeded =>
    simp only [advance, completeDrain]
    cases succeeded <;> split_ifs <;>
      first
      | exact ⟨hleave.since, hleave.applied, hleave.failing⟩
      | exact Recorded.goOn ⟨hleave.since, hleave.applied, hleave.failing⟩ (by simp) (by simp)
  | disarming => exact ⟨hleave.since, hleave.applied, hleave.failing⟩

theorem recorded_handle (h : Recorded s) {e : Event} (he : Enabled s e) (retryMask : RefreshFlags) :
    Recorded (handle retryMask e s) := by
  cases e with
  | request flags => exact h.goOn (by simp) (by simp)
  | stop | fire => exact Recorded.goOn ⟨h.since, h.applied, h.failing⟩ (by simp) (by simp)
  | deliver ticket =>
    simp only [handle, deliver]
    split_ifs
    · exact Recorded.goOn ⟨h.since, h.applied, h.failing⟩ (by simp) (by simp)
    · exact ⟨h.since, h.applied, h.failing⟩
  | drop ticket => exact ⟨h.since, h.applied, h.failing⟩
  | step point answer => exact recorded_advance h he retryMask answer

/-! ## No request is lost -/

/-- What was requested is kept. -/
def AllKept (retryMask : RefreshFlags) (s : State) : Prop :=
  ∀ r ∈ s.requests, ∀ flag, r.flags.getLsbD flag = true → Kept retryMask s r.since flag

/-- A thread that has taken nothing goes on, with the pending flags and the records as they are. -/
theorem AllKept.next (h : AllKept retryMask s) (hpoint : point.taken = none)
    (hpending : s'.pending.pendingFlags = s.pending.pendingFlags)
    (hthreads : ∀ other ∈ s.threads.erase point, other ∈ s'.threads)
    (hrequests : s'.requests = s.requests) (happlies : s'.applies = s.applies) :
    AllKept retryMask s' := by
  intro r hr flag hflag
  rw [hrequests] at hr
  refine ((h r hr flag hflag).leave hpoint).mono ?_ (fun other hother _ => hthreads other hother) ?_
  · rw [hpending]
    exact id
  · rw [happlies]
    exact fun _ => id

theorem kept_request (h : AllKept retryMask s) (hopen : s.pending.cancelled = false)
    (flags : RefreshFlags) : AllKept retryMask (request flags s) := by
  have hpending : (request flags s).pending.pendingFlags = s.pending.pendingFlags ||| flags := by
    rw [← UiRefreshCoalescer.request_pendingFlags hopen flags]
    simp only [request]
    split_ifs <;> rfl
  have hrequests : (request flags s).requests = ⟨flags, s.drains⟩ :: s.requests := by
    simp only [request]
    split_ifs <;> rfl
  have happlies : (request flags s).applies = s.applies := by
    simp only [request]
    split_ifs <;> rfl
  have hthreads : ∀ other ∈ s.threads, other ∈ (request flags s).threads := by
    intro other hother
    simp only [request]
    split_ifs
    · exact List.mem_cons_of_mem _ hother
    · exact hother
  intro r hr flag hflag
  rw [hrequests] at hr
  obtain rfl | hr := List.mem_cons.1 hr
  · refine .inl ?_
    rw [hpending, BitVec.getLsbD_or, hflag, Bool.or_true]
  · have hold := h r hr flag hflag
    refine hold.mono (fun hthis => ?_) (fun other hother _ => hthreads other hother) ?_
    · rw [hpending, BitVec.getLsbD_or, hthis, Bool.true_or]
    · rw [happlies]
      exact fun _ => id

/-- A drain takes the pending flags. -/
theorem kept_beginDrain (h : AllKept retryMask s) (hrecorded : Recorded s) :
    AllKept retryMask (beginDrain s) := by
  intro r hr flag hflag
  obtain hpending | ⟨point, hpoint, htaken⟩ | hserved := h r hr flag hflag
  · exact .inr (.inl ⟨_, List.mem_cons_self, s.pending.pendingFlags, s.drains, rfl,
      hrecorded.since r hr, hpending⟩)
  · exact .inr (.inl ⟨point, List.mem_cons_of_mem _ hpoint, htaken⟩)
  · exact .inr (.inr hserved)

/-- `Apply` is over. -/
theorem kept_apply (h : AllKept retryMask s) (flags : RefreshFlags) (drain : Nat)
    (succeeded : Bool) :
    AllKept retryMask (apply flags drain succeeded (s.leave (.applying flags drain))) := by
  intro r hr flag hflag
  obtain hkept | ⟨flags', drain', htaken, hsince, hhas⟩ :=
    (h r hr flag hflag).leave_taken (.applying flags drain)
  · exact hkept.mono id (fun _ hother _ => List.mem_cons_of_mem _ hother)
      fun _ => List.mem_cons_of_mem _
  · obtain ⟨rfl, rfl⟩ := Prod.mk.inj (Option.some.inj htaken)
    exact .inr (.inl ⟨_, List.mem_cons_self, flags, drain, rfl, hsince, hhas⟩)

/-- What `Apply` has been given is served, or is requested again next. -/
theorem kept_applied (h : AllKept retryMask s) (hrecorded : Recorded s) {flags : RefreshFlags}
    {drain : Nat} {succeeded : Bool} (hpoint : .applied flags drain succeeded ∈ s.threads) :
    AllKept retryMask ((s.leave (.applied flags drain succeeded)).goOn
      (if succeeded then .completing true else .failing flags drain)) := by
  intro r hr flag hflag
  obtain hkept | ⟨flags', drain', htaken, hsince, hhas⟩ :=
    (h r hr flag hflag).leave_taken (.applied flags drain succeeded)
  · exact hkept.goOn _
  · obtain ⟨rfl, rfl⟩ := Prod.mk.inj (Option.some.inj htaken)
    cases succeeded with
    | true => exact .inr (.inr ⟨_, hrecorded.applied _ _ _ hpoint, hsince, hhas, .inl rfl⟩)
    | false => exact .inr (.inl ⟨_, List.mem_cons_self, flags, drain, rfl, hsince, hhas⟩)

/-- What has failed is requested again, or is not retried. -/
theorem kept_failing (h : AllKept retryMask s) (hrecorded : Recorded s)
    (hopen : s.pending.cancelled = false) {flags : RefreshFlags} {drain : Nat}
    (hpoint : .failing flags drain ∈ s.threads) (answer : Bool) :
    AllKept retryMask
      (advance retryMask answer (.failing flags drain) (s.leave (.failing flags drain))) := by
  have hpending := UiRefreshCoalescer.request_pendingFlags hopen (flags &&& retryMask)
  intro r hr flag hflag
  obtain hkept | ⟨flags', drain', htaken, hsince, hhas⟩ :=
    (h r hr flag hflag).leave_taken (.failing flags drain)
  · refine hkept.mono (fun hthis => ?_) (fun _ hother _ => List.mem_cons_of_mem _ hother)
      fun _ => id
    change (s.pending.request (flags &&& retryMask)).2.pendingFlags.getLsbD flag = true
    rw [hpending, BitVec.getLsbD_or, show s.pending.pendingFlags.getLsbD flag = true from hthis,
      Bool.true_or]
  · obtain ⟨rfl, rfl⟩ := Prod.mk.inj (Option.some.inj htaken)
    cases hretry : retryMask.getLsbD flag with
    | true =>
      refine .inl ?_
      change (s.pending.request (flags &&& retryMask)).2.pendingFlags.getLsbD flag = true
      rw [hpending, BitVec.getLsbD_or, BitVec.getLsbD_and, hhas, hretry]
      exact Bool.or_true _
    | false => exact .inr (.inr ⟨_, hrecorded.failing _ _ hpoint, hsince, hhas, .inr hretry⟩)

theorem kept_advance (h : AllKept retryMask s) (hreserved : Reserved s) (hrecorded : Recorded s)
    (hstopped : s.stopped = false) (hpoint : point ∈ s.threads) (answer : Bool) :
    AllKept retryMask (advance retryMask answer point (s.leave point)) := by
  have hleave : ∀ {point : Point}, point.taken = none → AllKept retryMask (s.leave point) :=
    fun htaken => h.next htaken rfl (fun _ => id) rfl rfl
  have hgoOn : ∀ other ∈ s.threads.erase point, ∀ next, other ∈ next :: s.threads.erase point :=
    fun _ hother _ => List.mem_cons_of_mem _ hother
  cases point with
  | requesting flags => exact kept_request (hleave rfl) hreserved.isOpen.1 flags
  | queueing | claimed =>
    rw [advance, unlessStopped_of_running (by exact hstopped)]
    exact h.next rfl rfl (fun other hother => hgoOn other hother _) rfl rfl
  | numbering | storing | rejected =>
    exact h.next rfl rfl (fun other hother => hgoOn other hother _) rfl rfl
  | enqueuing ticket =>
    simp only [advance, enqueue]
    split_ifs
    · exact h.next rfl rfl (fun _ => id) rfl rfl
    · exact h.next rfl rfl (fun other hother => hgoOn other hother _) rfl rfl
  | arming delay =>
    simp only [advance, arm]
    split_ifs
    · exact hleave rfl
    · exact h.next rfl rfl (fun _ => id) rfl rfl
  | onTimer => exact h.next rfl rfl (fun other hother => hgoOn other hother _) rfl rfl
  | draining => exact kept_beginDrain (hleave rfl) (hrecorded.leave _)
  | applying flags drain => exact kept_apply h flags drain answer
  | applied flags drain succeeded =>
    rw [advance, unlessStopped_of_running (by exact hstopped)]
    exact kept_applied h hrecorded hpoint
  | failing flags drain => exact kept_failing h hrecorded hreserved.isOpen.1 hpoint answer
  | completing succeeded =>
    have hpending := UiRefreshCoalescer.completeDrain_pendingFlags s.pending
    simp only [advance, completeDrain]
    by_cases hagain : (!s.pending.completeDrain.1) = true
    · rw [if_pos (by exact hagain)]
      exact h.next rfl hpending (fun _ => id) rfl rfl
    · rw [if_neg (by exact hagain)]
      exact h.next rfl hpending (fun other hother => hgoOn other hother _) rfl rfl
  | clearing | cancelling | disarming => exact absurd rfl (hreserved.running _ hpoint)

/-- A step that moves no thread that has taken something. -/
theorem AllKept.same (h : AllKept retryMask s)
    (hpending : s'.pending.pendingFlags = s.pending.pendingFlags)
    (hthreads : ∀ other ∈ s.threads, other ∈ s'.threads)
    (hrequests : s'.requests = s.requests) (happlies : s'.applies = s.applies) :
    AllKept retryMask s' := by
  intro r hr flag hflag
  rw [hrequests] at hr
  refine (h r hr flag hflag).mono ?_ (fun other hother _ => hthreads other hother) ?_
  · rw [hpending]
    exact id
  · rw [happlies]
    exact fun _ => id

theorem kept_handle {e : Event} (he : Enabled s e) (h : AllKept retryMask s)
    (hreserved : Reserved s) (hrecorded : Recorded s) (hstopped : s.stopped = false) :
    AllKept retryMask (handle retryMask e s) := by
  cases e with
  | request | stop | fire =>
    exact h.same rfl (fun _ hother => List.mem_cons_of_mem _ hother) rfl rfl
  | deliver ticket =>
    simp only [handle, deliver]
    split_ifs
    · exact h.same rfl (fun _ hother => List.mem_cons_of_mem _ hother) rfl rfl
    · exact h.same rfl (fun _ => id) rfl rfl
  | drop ticket => exact h.same rfl (fun _ => id) rfl rfl
  | step point answer => exact kept_advance h hreserved hrecorded hstopped he answer

end UiRefreshScheduler

/-! ## No refresh is lost -/

open UiRefreshScheduler (Kept Served Point)

/-- What holds of the reservation and of the requests. -/
structure RefreshKept (retryMask : RefreshFlags) (s : UiRefreshScheduler.State) : Prop where
  /-- Where a flag is pending, the drain is reserved, -/
  reserved : s.pending.pendingFlags ≠ 0 → s.pending.drainScheduled = true
  /-- and a reservation is with exactly one live callback, armed timer, drain in progress or thread
  on its way to the queue or to the timer. -/
  backed : s.pending.drainScheduled = true →
    s.live + s.armed.isSome.toNat + s.threads.countP (Point.has .drains) +
      s.threads.countP (Point.has .handsOver) = 1
  /-- A flag that was requested is pending, with a drain that was begun since and is not over, or
  was given since to an `Apply` that has succeeded or that is not retried. -/
  kept : ∀ r ∈ s.requests, ∀ flag, r.flags.getLsbD flag = true → Kept retryMask s r.since flag

/-- While the scheduler is not stopped no refresh is lost, whatever the threads do. -/
theorem refresh_kept {retryMask : RefreshFlags} {es : List UiRefreshScheduler.Event}
    (hrun : (uiRefreshScheduler retryMask).Run UiRefreshScheduler.initial es)
    (hstopped :
      ((uiRefreshScheduler retryMask).exec UiRefreshScheduler.initial es).stopped = false) :
    RefreshKept retryMask ((uiRefreshScheduler retryMask).exec UiRefreshScheduler.initial es) := by
  have hinv := EventSystem.Always.invariant (S := uiRefreshScheduler retryMask)
    (I := fun s => UiRefreshScheduler.Recorded s ∧ (s.stopped = false →
      UiRefreshScheduler.Reserved s ∧ UiRefreshScheduler.AllKept retryMask s)) ?_ hrun
    ⟨UiRefreshScheduler.recorded_initial, fun _ =>
      ⟨UiRefreshScheduler.reserved_initial,
        by simp [UiRefreshScheduler.AllKept, UiRefreshScheduler.initial]⟩⟩
  · obtain ⟨hreserved, hkept⟩ := hinv.2 hstopped
    refine ⟨hreserved.pending, fun hscheduled => ?_, hkept⟩
    have hbacked := hreserved.backed
    rw [hscheduled] at hbacked
    exact hbacked
  · rintro s e he ⟨hrecorded, hrunning⟩
    refine ⟨UiRefreshScheduler.recorded_handle hrecorded he retryMask, fun hstopped' => ?_⟩
    have hbefore := UiRefreshScheduler.handle_stopped retryMask e hstopped'
    obtain ⟨hreserved, hkept⟩ := hrunning hbefore
    exact ⟨UiRefreshScheduler.reserved_handle he (fun _ => hreserved) hstopped',
      UiRefreshScheduler.kept_handle he hkept hreserved hrecorded hbefore⟩

/-- A request is drained, and `Apply` fails. -/
def failedRefresh : List UiRefreshScheduler.Event :=
  [.request 3, .step (.requesting 3) false, .step .queueing false, .step .numbering false,
    .step (.storing 1) false, .step (.enqueuing 1) true, .deliver 1, .step .claimed false,
    .step .draining false, .step (.applying 3 0) false, .step (.applied 3 0 false) false,
    .step (.failing 3 0) false, .step (.completing false) false, .step (.arming 100) false]

theorem refresh_kept_failed : (uiRefreshScheduler 1).Run UiRefreshScheduler.initial failedRefresh ∧
    RefreshKept 1 ((uiRefreshScheduler 1).exec UiRefreshScheduler.initial failedRefresh) := by
  have hrun : (uiRefreshScheduler 1).Run UiRefreshScheduler.initial failedRefresh := by decide
  exact ⟨hrun, refresh_kept hrun (by decide)⟩

/-! ## What is on its way -/

/-- A reservation is with a live callback, the armed timer or a drain in progress. -/
def BackedAtRest (s : UiRefreshScheduler.State) : Prop :=
  s.stopped = false → s.pending.pendingFlags ≠ 0 → s.pending.drainScheduled = true ∧
    s.live + s.armed.isSome.toNat + s.threads.countP (Point.has .drains) = 1

/-- A flag that was requested is pending, or applied. -/
def KeptAtRest (retryMask : RefreshFlags) (s : UiRefreshScheduler.State) : Prop :=
  ∀ r ∈ s.requests, ∀ flag, r.flags.getLsbD flag = true →
    s.pending.pendingFlags.getLsbD flag = true ∨ Served retryMask s r.since flag

instance (retryMask : RefreshFlags) (s : UiRefreshScheduler.State) (since flag : Nat) :
    Decidable (Served retryMask s since flag) :=
  inferInstanceAs (Decidable (∃ a ∈ s.applies, _))

/-- A thread has made a reservation, and is on its way to the queue. -/
def reservedRefresh : List UiRefreshScheduler.Event := [.request 1, .step (.requesting 1) false]

/-- A drain has taken what was requested, and is in `Apply`. -/
def takenRefresh : List UiRefreshScheduler.Event :=
  reservedRefresh ++ [.step .queueing false, .step .numbering false, .step (.storing 1) false,
    .step (.enqueuing 1) true, .deliver 1, .step .claimed false, .step .draining false]

/-- `Stop` has dropped what was requested. -/
def stoppedRefresh : List UiRefreshScheduler.Event :=
  reservedRefresh ++ [.stop, .step .clearing false, .step .cancelling false]

theorem refresh_on_its_way :
    let S := uiRefreshScheduler 1
    let initial := UiRefreshScheduler.initial
    (S.Run initial reservedRefresh ∧ ¬ BackedAtRest (S.exec initial reservedRefresh)) ∧
      (S.Run initial takenRefresh ∧ ¬ KeptAtRest 1 (S.exec initial takenRefresh)) ∧
      (S.Run initial stoppedRefresh ∧ ¬ KeptAtRest 1 (S.exec initial stoppedRefresh)) := by
  refine ⟨⟨by decide, fun h => ?_⟩, ⟨by decide, fun h => ?_⟩, ⟨by decide, fun h => ?_⟩⟩
  · exact absurd (h rfl (by decide)).2 (by decide)
  · exact absurd (h ⟨1, 0⟩ (by decide) 0 (by decide)) (by decide)
  · exact absurd (h ⟨1, 0⟩ (by decide) 0 (by decide)) (by decide)

end PlaybackConnector
