import PlaybackConnector.Session.State
import PlaybackConnector.Transition.Admission
import PlaybackConnector.Transition.System

/-!
# The shutdown of the logger

Threads hand their lines to a bounded queue, whose worker writes them to a file and which drops the
oldest line when it is full (`SubmitLog`, `Logger.cpp:295`). `Shutdown` (`Logger.cpp:412`) closes
the admission, and a callback of the thread pool waits for the calls inside, drains the queue, notes
how many lines were dropped and releases everything (`LogRelease::Run`, `Logger.cpp:263`). The steps
are the critical sections, the accesses of the atomic members and the calls of the queue, of any
number of threads.

Nobody uses the queue or the file after they are released, and when the logger is finished every
line that was accepted is in the file, in order, or counted as dropped (`logger_accounts`).

The queue with its worker and its file is not of this repository. What is assumed of it is what it
documents (`LogPool.Documented`).
-/

namespace PlaybackConnector.Logger

/-! ## The queue -/

/-- An entry of the queue: a line, or a request to flush. -/
inductive LogItem
  | line (message : WString)
  | flush
deriving Repr, DecidableEq

/-- The queue, its worker and its file. -/
structure LogPool where
  State : Type
  initial : State
  /-- `async_logger::info` and `flush`. -/
  post : LogItem → State → State
  /-- A step of the worker. -/
  work : State → State
  /-- The destructor of `thread_pool`. -/
  join : State → State
  overrunCounter : State → Nat
  queued : State → List LogItem
  written : State → List LogItem

/-- What the queue documents, with `overrun_oldest`. -/
structure LogPool.Documented (pool : LogPool) : Prop where
  initial : pool.queued pool.initial = [] ∧ pool.written pool.initial = [] ∧
    pool.overrunCounter pool.initial = 0
  /-- A full queue drops its oldest entry and counts it. -/
  post : ∀ item s, pool.written (pool.post item s) = pool.written s ∧
    (pool.queued (pool.post item s) = pool.queued s ++ [item] ∧
        pool.overrunCounter (pool.post item s) = pool.overrunCounter s ∨
      ∃ oldest, oldest :: pool.queued (pool.post item s) = pool.queued s ++ [item] ∧
        pool.overrunCounter (pool.post item s) = pool.overrunCounter s + 1)
  /-- The worker writes the entries in their order. -/
  work : ∀ s, pool.written (pool.work s) ++ pool.queued (pool.work s) =
      pool.written s ++ pool.queued s ∧
    pool.overrunCounter (pool.work s) = pool.overrunCounter s
  /-- The destructor has the worker write what is queued. -/
  join : ∀ s, pool.written (pool.join s) = pool.written s ++ pool.queued s ∧
    pool.queued (pool.join s) = [] ∧ pool.overrunCounter (pool.join s) = pool.overrunCounter s

/-! ## The state -/

/-- The arguments of `SubmitLog`. Source: `SubmitLog` (`Logger.cpp:295`). -/
inductive LogCall
  | flush
  | write (message : WString) (persist : Bool)
deriving Repr, DecidableEq

/-- What the call posts. -/
def LogCall.item : LogCall → Option LogItem
  | .flush => some .flush
  | .write message true => some (.line message)
  | .write _ false => none

/-- Where a thread stands. `release` says that it is the callback of the release. -/
inductive Point
  /-- In `SubmitLog`, before its first lock. -/
  | calling (call : LogCall)
  /-- Admitted, before the call of the queue. -/
  | admitted (call : LogCall)
  /-- Before `overrun_counter`. -/
  | counting (release : Bool)
  /-- In `ObserveDrops`, before the load. -/
  | observing (release : Bool) (count : Nat)
  /-- In the loop of `ObserveDrops`. -/
  | raising (release : Bool) (count previous : Nat)
  /-- Before the lock under which the call is over. -/
  | leaving
  /-- In `Shutdown`, before its first lock. -/
  | shuttingDown
  /-- Before `SubmitThreadpoolWork`. -/
  | submitting
  /-- In the wait of `Shutdown`. -/
  | awaiting
  /-- In `Run`, in its wait. -/
  | waiting
  /-- Before `Pool.reset`. -/
  | joining
  /-- Before `Async.reset`. -/
  | clearing
  /-- Before the notice of the dropped lines. -/
  | noticing
  /-- Before `File.reset`. -/
  | closing
  /-- Before the lock under which the release is finished. -/
  | finishing
deriving Repr, DecidableEq

/-- Source: `LogState` (`Logger.cpp:230`). -/
structure LogState (pool : LogPool) where
  /-- `ActiveCalls` and `Closing`. -/
  gate : Gate := {}
  finished : Bool := false
  dropped : Nat := 0
  errors : Nat := 0
  /-- `m_impl->Release`. -/
  releaseHeld : Bool := true
  poolHeld : Bool := true
  asyncHeld : Bool := true
  fileHeld : Bool := true
  queue : pool.State := pool.initial
  /-- The notice of the dropped lines in the file. -/
  notice : Option Nat := none
  /-- Where the threads stand. -/
  threads : List Point := []
  /-- What was posted. No code reads it. -/
  accepted : List LogItem := []
  /-- Something was used after it was released. No code reads it. -/
  faulted : Bool := false

namespace LogState

variable {pool : LogPool}

def goOn (point : Point) (s : LogState pool) : LogState pool :=
  { s with threads := point :: s.threads }

/-- The call of the queue, which may throw. Source: `SubmitLog` (`Logger.cpp:315`). -/
def post (call : LogCall) (succeeds : Bool) (s : LogState pool) : LogState pool :=
  match call.item with
  | none => if succeeds then s else { s with errors := s.errors + 1 }
  | some item =>
    let s := { s with faulted := s.faulted || !s.asyncHeld || !s.poolHeld }
    if succeeds then
      { s with queue := pool.post item s.queue, accepted := s.accepted ++ [item] }
    else { s with errors := s.errors + 1 }

/-- Where `ObserveDrops` returns to. -/
def observed : Bool → Point
  | false => .leaving
  | true => .joining

/-- The loop of `ObserveDrops`; the exchange may fail spuriously. Source: `ObserveDrops`
(`Logger.cpp:246`). -/
def raise (release : Bool) (count previous : Nat) (succeeds : Bool) (s : LogState pool) :
    LogState pool :=
  if previous < count then
    if s.dropped = previous ∧ succeeds then { s with dropped := count }.goOn (observed release)
    else s.goOn (.raising release count s.dropped)
  else s.goOn (observed release)

/-- The release is taken once. Source: `Shutdown` (`Logger.cpp:418`). -/
def shutdown (s : LogState pool) : LogState pool :=
  if s.gate.closed then s.goOn .awaiting
  else { s with gate := s.gate.close, releaseHeld := false }.goOn .submitting

/-- A thread goes on from the point that it has left. `succeeds` is what the queue, the exchange and
the writer of the notice say; nothing else asks for it. -/
def advance (succeeds : Bool) : Point → LogState pool → LogState pool
  | .calling call => fun s =>
    match s.gate.enter with
    | (false, _) => s
    | (true, gate) => { s with gate := gate }.goOn (.admitted call)
  | .admitted call => fun s => (s.post call succeeds).goOn (.counting false)
  | .counting release => fun s =>
    { s with faulted := s.faulted || !s.poolHeld }.goOn
      (.observing release (pool.overrunCounter s.queue))
  | .observing release count => fun s => s.goOn (.raising release count s.dropped)
  | .raising release count previous => raise release count previous succeeds
  | .leaving => fun s => { s with gate := s.gate.leave }
  | .shuttingDown => shutdown
  | .submitting => fun s => (s.goOn .waiting).goOn .awaiting
  | .awaiting => fun s => s
  | .waiting => goOn (.counting true)
  | .joining => fun s =>
    { s with queue := pool.join s.queue, poolHeld := false }.goOn .clearing
  | .clearing => fun s => { s with asyncHeld := false }.goOn .noticing
  | .noticing => fun s =>
    let s := { s with faulted := s.faulted || !s.fileHeld }
    if succeeds then
      { s with notice := if s.dropped ≠ 0 then some s.dropped else none }.goOn .closing
    else { s with errors := s.errors + 1 }.goOn .closing
  | .closing => fun s => { s with fileHeld := false }.goOn .finishing
  | .finishing => fun s => { s with finished := true }

/-! ## The system -/

inductive Event
  | call (call : LogCall)
  | shutdown
  /-- A step of the worker. -/
  | work
  | step (point : Point) (succeeds : Bool)
deriving Repr, DecidableEq

/-- The release waits for the calls inside, and the worker ends with the queue. -/
def Enabled (s : LogState pool) : Event → Prop
  | .call _ | .shutdown => True
  | .work => s.poolHeld = true
  | .step point _ => point ∈ s.threads ∧ (point = .waiting → s.gate.active = 0)

def handle (s : LogState pool) : Event → LogState pool
  | .call call => s.goOn (.calling call)
  | .shutdown => s.goOn .shuttingDown
  | .work => { s with queue := pool.work s.queue }
  | .step point succeeds => advance succeeds point { s with threads := s.threads.erase point }

end LogState

/-- Any number of threads that use one logger. -/
def logger (pool : LogPool) : EventSystem (LogState pool) LogState.Event where
  enabled := LogState.Enabled
  step := LogState.handle

/-! ## Points -/

/-- The thread is counted in `ActiveCalls`. -/
def Point.inside : Point → Bool
  | .admitted _ | .counting false | .observing false _ | .raising false .. | .leaving => true
  | _ => false

/-- How far the thread with the release is. -/
def Point.stage : Point → Option Nat
  | .submitting | .waiting => some 0
  | .counting true | .observing true _ | .raising true .. => some 1
  | .joining => some 2
  | .clearing => some 3
  | .noticing => some 4
  | .closing => some 5
  | .finishing => some 6
  | _ => none

def Point.releases (point : Point) : Bool := point.stage.isSome

/-- A thread that observes the counter has read one that is not too high, and no lower one than it
finds noted. -/
def Point.Observed (counter dropped : Nat) : Point → Prop
  | .observing release count => count ≤ counter ∧ (release = true → count = counter)
  | .raising release count previous =>
    count ≤ counter ∧ (release = true → count = counter) ∧ previous ≤ dropped
  | _ => True

variable {point point' : Point}

theorem Point.inside_of_releases (h : point.releases = true) : point.inside = false := by
  cases point with
  | counting release | observing release | raising release =>
    cases release with
    | false => cases h
    | true => rfl
  | admitted | leaving => cases h
  | _ => rfl

theorem Point.releases_of_inside (h : point.inside = true) : point.releases = false := by
  rw [← Bool.not_eq_true]
  intro hreleases
  rw [inside_of_releases hreleases] at h
  cases h

theorem Point.stage_of_not_releases (h : point.releases = false) : point.stage = none := by
  simpa [releases] using h

theorem Point.Observed.mono {counter dropped dropped' : Nat} (h : point.Observed counter dropped)
    (hdropped : dropped ≤ dropped') : point.Observed counter dropped' := by
  cases point with
  | raising release count previous => exact ⟨h.1, h.2.1, Nat.le_trans h.2.2 hdropped⟩
  | observing => exact h
  | _ => trivial

/-! ## What every step keeps -/

namespace LogState

variable {pool : LogPool} {s t : LogState pool} {e : Event} {stage : Nat}

/-- The release has come to a stage. -/
structure At (stage : Nat) (s : LogState pool) : Prop where
  drained : 1 ≤ stage → s.gate.Drained
  dropped : 2 ≤ stage → s.dropped = pool.overrunCounter s.queue
  poolHeld : s.poolHeld = decide (stage ≤ 2)
  asyncHeld : s.asyncHeld = decide (stage ≤ 3)
  fileHeld : s.fileHeld = decide (stage ≤ 5)
  queued : 3 ≤ stage → pool.queued s.queue = []
  notice : ∀ count ∈ s.notice, 5 ≤ stage ∧ count = s.dropped

/-- Everything that was accepted is written or queued, in order, or counted as dropped. -/
structure Accounted (s : LogState pool) : Prop where
  sublist : (pool.written s.queue ++ pool.queued s.queue).Sublist s.accepted
  length : (pool.written s.queue ++ pool.queued s.queue).length + pool.overrunCounter s.queue =
    s.accepted.length

structure Inv (s : LogState pool) : Prop where
  counts : s.gate.Counts Point.inside s.threads
  /-- The release is held by the logger, by a thread, or by nobody any more. -/
  token : s.releaseHeld.toNat + s.threads.countP Point.releases + s.finished.toNat = 1
  closed : s.gate.closed = !s.releaseHeld
  held : s.releaseHeld = true → At 0 s
  stage : ∀ point ∈ s.threads, ∀ stage ∈ point.stage, At stage s
  ended : s.finished = true → At 6 s
  observed : ∀ point ∈ s.threads, point.Observed (pool.overrunCounter s.queue) s.dropped
  dropped : s.dropped ≤ pool.overrunCounter s.queue
  accounted : Accounted s
  faultless : s.faulted = false

theorem inv_initial (hpool : pool.Documented) : Inv ({} : LogState pool) where
  counts := rfl
  token := rfl
  closed := rfl
  held := fun _ => ⟨nofun, nofun, rfl, rfl, rfl, nofun, nofun⟩
  stage := nofun
  ended := nofun
  observed := nofun
  dropped := Nat.zero_le _
  accounted := by
    obtain ⟨hqueued, hwritten, hcounter⟩ := hpool.initial
    constructor
    · rw [hqueued, hwritten]
      exact .slnil
    · rw [hqueued, hwritten, hcounter]
      rfl
  faultless := rfl

/-! ### Threads -/

theorem At.threads (h : At stage s) (threads : List Point) :
    At stage { s with threads := threads } :=
  ⟨h.drained, h.dropped, h.poolHeld, h.asyncHeld, h.fileHeld, h.queued, h.notice⟩

theorem Accounted.threads (h : Accounted s) (threads : List Point) :
    Accounted { s with threads := threads } :=
  ⟨h.sublist, h.length⟩

/-- Threads come, go and go on, but not the one with the release. -/
theorem Inv.threads (h : Inv s) {threads : List Point}
    (hcounts : s.gate.Counts Point.inside threads)
    (htoken : threads.countP Point.releases = s.threads.countP Point.releases)
    (hthreads : ∀ point ∈ threads, point ∈ s.threads ∨ point.releases = false ∧
      point.Observed (pool.overrunCounter s.queue) s.dropped) :
    Inv { s with threads := threads } where
  counts := hcounts
  token := by rw [htoken]; exact h.token
  closed := h.closed
  held := fun held => (h.held held).threads _
  stage := fun point hpoint stage hstage => by
    rcases hthreads point hpoint with hpoint | ⟨hreleases, -⟩
    · exact (h.stage point hpoint stage hstage).threads _
    · rw [Point.stage_of_not_releases hreleases] at hstage
      cases hstage
  ended := fun hended => (h.ended hended).threads _
  observed := fun point hpoint => (hthreads point hpoint).elim (h.observed point) And.right
  dropped := h.dropped
  accounted := h.accounted.threads _
  faultless := h.faultless

/-- A thread comes. -/
theorem Inv.goOn (h : Inv s) (point : Point) (hinside : point.inside = false)
    (hreleases : point.releases = false)
    (hobserved : point.Observed (pool.overrunCounter s.queue) s.dropped) : Inv (s.goOn point) :=
  h.threads (h.counts.cons hinside) (List.countP_cons_of_neg (by simp [hreleases]))
    (List.forall_mem_cons.2 ⟨.inr ⟨hreleases, hobserved⟩, fun _ => .inl⟩)

/-- A thread goes. -/
theorem Inv.erase (h : Inv s) (point : Point) (hinside : point.inside = false)
    (hreleases : point.releases = false) :
    Inv { s with threads := s.threads.erase point } :=
  h.threads (h.counts.erase hinside)
    (by rw [List.countP_erase, if_neg (by simp [hreleases]), Nat.sub_zero])
    fun _ hpoint => .inl (List.mem_of_mem_erase hpoint)

/-- A thread that has not the release goes on. -/
theorem Inv.move (h : Inv s) (hmem : point ∈ s.threads) (hinside : point'.inside = point.inside)
    (hreleases : point.releases = false) (hreleases' : point'.releases = false)
    (hobserved : point'.Observed (pool.overrunCounter s.queue) s.dropped) :
    Inv { s with threads := point' :: s.threads.erase point } :=
  h.threads (h.counts.move hmem hinside)
    (by rw [List.countP_cons_of_neg (by simp [hreleases']), List.countP_erase,
      if_neg (by simp [hreleases]), Nat.sub_zero])
    (List.forall_mem_cons.2 ⟨.inr ⟨hreleases', hobserved⟩,
      fun _ hpoint => .inl (List.mem_of_mem_erase hpoint)⟩)

/-- Only one thread has the release. -/
theorem Inv.only (h : Inv s) (hmem : point ∈ s.threads) (hreleases : point.releases = true) :
    s.releaseHeld = false ∧ s.finished = false ∧
      ∀ other ∈ s.threads.erase point, other.releases = false := by
  have htoken := h.token
  have hpositive : 0 < s.threads.countP Point.releases :=
    List.countP_pos_iff.2 ⟨point, hmem, hreleases⟩
  have hrest : (s.threads.erase point).countP Point.releases = 0 := by
    rw [List.countP_erase, if_pos ⟨hmem, hreleases⟩]
    omega
  refine ⟨?_, ?_, fun other hother =>
    Bool.eq_false_iff.2 (List.countP_eq_zero.1 hrest other hother)⟩
  · cases hheld : s.releaseHeld with
    | false => rfl
    | true =>
      rw [hheld, Bool.toNat_true] at htoken
      omega
  · cases hfinished : s.finished with
    | false => rfl
    | true =>
      rw [hfinished, Bool.toNat_true] at htoken
      omega

/-- The thread with the release goes on to its next point. -/
theorem Inv.release (h : Inv s) (stage : Nat) (hmem : point ∈ s.threads)
    (hreleases : point.releases = true)
    (hthreads : t.threads = point' :: s.threads.erase point) (hgate : t.gate = s.gate)
    (hheld : t.releaseHeld = s.releaseHeld) (hfinished : t.finished = s.finished)
    (hcounter : pool.overrunCounter t.queue = pool.overrunCounter s.queue)
    (hdropped : s.dropped ≤ t.dropped ∧ t.dropped ≤ pool.overrunCounter t.queue)
    (haccounted : Accounted t) (hfaultless : t.faulted = false)
    (hstage : point'.stage = some stage) (hat : At stage t)
    (hobserved : point'.Observed (pool.overrunCounter t.queue) t.dropped) : Inv t := by
  obtain ⟨hnone, hunfinished, hothers⟩ := h.only hmem hreleases
  have hreleases' : point'.releases = true := by rw [Point.releases, hstage]; rfl
  refine ⟨?_, ?_, ?_, fun held => ?_, ?_, fun hended => ?_, ?_, hdropped.2, haccounted, hfaultless⟩
  · rw [hgate, hthreads]
    refine h.counts.move hmem ?_
    rw [Point.inside_of_releases hreleases, Point.inside_of_releases hreleases']
  · rw [hheld, hfinished, hthreads, hnone, hunfinished, List.countP_cons_of_pos hreleases',
      List.countP_eq_zero.2 fun other hother => by simp [hothers other hother]]
    rfl
  · rw [hgate, hheld]
    exact h.closed
  · rw [hheld, hnone] at held
    cases held
  · rw [hthreads]
    refine List.forall_mem_cons.2 ⟨fun stage' hstage' => ?_, fun other hother stage' hstage' => ?_⟩
    · rw [hstage] at hstage'
      cases hstage'
      exact hat
    · rw [Point.stage_of_not_releases (hothers other hother)] at hstage'
      cases hstage'
  · rw [hfinished, hunfinished] at hended
    cases hended
  · rw [hthreads]
    refine List.forall_mem_cons.2 ⟨hobserved, fun other hother => ?_⟩
    rw [hcounter]
    exact (h.observed other (List.mem_of_mem_erase hother)).mono hdropped.1

/-- While a call is inside, the release waits. -/
theorem Inv.waits (h : Inv s) (hmem : point ∈ s.threads) (hinside : point.inside = true)
    (hat : At stage s) : stage = 0 := by
  by_contra hstage
  have hoff := h.counts.none_inside (hat.drained (by omega)) point hmem
  rw [hinside] at hoff
  cases hoff

/-- While a call is inside, nothing was released. -/
theorem Inv.at_of_inside (h : Inv s) (hmem : point ∈ s.threads) (hinside : point.inside = true) :
    At 0 s ∧ s.finished = false := by
  have htoken := h.token
  have hfinished : s.finished = false := by
    rw [← Bool.not_eq_true]
    intro hfinished
    exact absurd (h.waits hmem hinside (h.ended hfinished)) (by decide)
  refine ⟨?_, hfinished⟩
  rcases hheld : s.releaseHeld with _ | _
  · rw [hheld, hfinished, Bool.toNat_false] at htoken
    obtain ⟨other, hother, hreleases⟩ := List.countP_pos_iff.1
      (show 0 < s.threads.countP Point.releases by omega)
    obtain ⟨stage, hstage⟩ := Option.isSome_iff_exists.1 hreleases
    have hat := h.stage other hother stage hstage
    rwa [h.waits hmem hinside hat] at hat
  · exact h.held hheld

/-- A call inside changes the queue and what is noted. -/
theorem Inv.change (h : Inv s) (hmem : point ∈ s.threads) (hinside : point.inside = true)
    (hthreads : t.threads = s.threads) (hgate : t.gate = s.gate)
    (hheld : t.releaseHeld = s.releaseHeld) (hfinished : t.finished = s.finished)
    (hflags : t.poolHeld = s.poolHeld ∧ t.asyncHeld = s.asyncHeld ∧ t.fileHeld = s.fileHeld ∧
      t.notice = s.notice)
    (hcounter : pool.overrunCounter s.queue ≤ pool.overrunCounter t.queue)
    (hdropped : s.dropped ≤ t.dropped ∧ t.dropped ≤ pool.overrunCounter t.queue)
    (haccounted : Accounted t) (hfaultless : t.faulted = false) : Inv t := by
  obtain ⟨hat, hunfinished⟩ := h.at_of_inside hmem hinside
  obtain ⟨hpool, hasync, hfile, hnotice⟩ := hflags
  have hat' : At 0 t := by
    refine ⟨nofun, nofun, hpool.trans hat.poolHeld, hasync.trans hat.asyncHeld,
      hfile.trans hat.fileHeld, nofun, fun count hcount => ?_⟩
    rw [hnotice] at hcount
    exact absurd (hat.notice count hcount).1 (by decide)
  have hwaits : ∀ other ∈ s.threads, ∀ stage ∈ other.stage, stage = 0 :=
    fun other hother stage hstage => h.waits hmem hinside (h.stage other hother stage hstage)
  refine ⟨?_, ?_, ?_, fun _ => hat', ?_, fun hended => ?_, ?_, hdropped.2, haccounted, hfaultless⟩
  · rw [hgate, hthreads]
    exact h.counts
  · rw [hheld, hfinished, hthreads]
    exact h.token
  · rw [hgate, hheld]
    exact h.closed
  · rw [hthreads]
    intro other hother stage hstage
    rwa [hwaits other hother stage hstage]
  · rw [hfinished, hunfinished] at hended
    cases hended
  · rw [hthreads]
    intro other hother
    have hobserved := h.observed other hother
    cases other with
    | observing release count =>
      cases release with
      | false => exact ⟨Nat.le_trans hobserved.1 hcounter, nofun⟩
      | true => exact absurd (hwaits _ hother 1 rfl) (by decide)
    | raising release count previous =>
      cases release with
      | false =>
        exact ⟨Nat.le_trans hobserved.1 hcounter, nofun, Nat.le_trans hobserved.2.2 hdropped.1⟩
      | true => exact absurd (hwaits _ hother 1 rfl) (by decide)
    | _ => trivial

/-! ### Calls -/

theorem post_threads (call : LogCall) (succeeds : Bool) (s : LogState pool) (threads : List Point) :
    post call succeeds { s with threads := threads } =
      { s.post call succeeds with threads := threads } := by
  unfold post
  split
  · split <;> rfl
  · dsimp only
    split <;> rfl

theorem threads_post (call : LogCall) (succeeds : Bool) (s : LogState pool) :
    (s.post call succeeds).threads = s.threads := by
  unfold post
  split
  · split <;> rfl
  · dsimp only
    split <;> rfl

theorem accounted_post (hpool : pool.Documented) (h : Accounted s) (item : LogItem) :
    Accounted { s with queue := pool.post item s.queue, accepted := s.accepted ++ [item] } := by
  obtain ⟨hwritten, hkept⟩ := hpool.post item s.queue
  have hlength := h.length
  simp only [List.length_append] at hlength
  have hsublist := h.sublist.append (List.Sublist.refl [item])
  rw [List.append_assoc] at hsublist
  rcases hkept with ⟨hqueued, hcounter⟩ | ⟨oldest, hqueued, hcounter⟩
  · constructor
    · dsimp only
      rw [hwritten, hqueued]
      exact hsublist
    · simp only [hwritten, hqueued, hcounter, List.length_append]
      omega
  · rw [← hqueued] at hsublist
    have hlength' := congrArg List.length hqueued
    simp only [List.length_cons, List.length_append, List.length_nil] at hlength'
    constructor
    · dsimp only
      rw [hwritten]
      exact ((List.Sublist.refl _).append (List.sublist_cons_self oldest _)).trans hsublist
    · simp only [hwritten, hcounter, List.length_append, List.length_singleton]
      omega

theorem Inv.post (hpool : pool.Documented) (h : Inv s) {call : LogCall}
    (hmem : .admitted call ∈ s.threads) (succeeds : Bool) : Inv (s.post call succeeds) := by
  obtain ⟨hat, -⟩ := h.at_of_inside hmem rfl
  have hfault : (s.faulted || !s.asyncHeld || !s.poolHeld) = false := by
    rw [h.faultless, hat.asyncHeld, hat.poolHeld]
    rfl
  have hcounter (item : LogItem) : pool.overrunCounter s.queue ≤
      pool.overrunCounter (pool.post item s.queue) := by
    obtain ⟨-, ⟨-, hcounter⟩ | ⟨oldest, -, hcounter⟩⟩ := hpool.post item s.queue <;> omega
  unfold LogState.post
  split
  · split
    · exact h
    · exact h.change hmem rfl rfl rfl rfl rfl ⟨rfl, rfl, rfl, rfl⟩ (Nat.le_refl _)
        ⟨Nat.le_refl _, h.dropped⟩ ⟨h.accounted.sublist, h.accounted.length⟩ h.faultless
  · next item _ =>
    dsimp only
    split
    · have haccounted := accounted_post hpool h.accounted item
      exact h.change hmem rfl rfl rfl rfl rfl ⟨rfl, rfl, rfl, rfl⟩ (hcounter item)
        ⟨Nat.le_refl _, Nat.le_trans h.dropped (hcounter item)⟩
        ⟨haccounted.sublist, haccounted.length⟩
        hfault
    · exact h.change hmem rfl rfl rfl rfl rfl ⟨rfl, rfl, rfl, rfl⟩ (Nat.le_refl _)
        ⟨Nat.le_refl _, h.dropped⟩ ⟨h.accounted.sublist, h.accounted.length⟩ hfault

/-- While the logger holds the release, no thread has it. -/
theorem Inv.none_of_open (h : Inv s) (hopen : s.gate.closed = false) :
    s.releaseHeld = true ∧ s.finished = false ∧ s.threads.countP Point.releases = 0 ∧ At 0 s ∧
      ∀ other ∈ s.threads, other.releases = false := by
  have hheld : s.releaseHeld = true := by
    have hclosed := h.closed
    rw [hopen] at hclosed
    simpa using hclosed
  have htoken := h.token
  rw [hheld, Bool.toNat_true] at htoken
  have hzero : s.threads.countP Point.releases = 0 := by omega
  have hfinished : s.finished = false := by
    rw [← Bool.not_eq_true]
    intro hfinished
    rw [hfinished, Bool.toNat_true] at htoken
    omega
  exact ⟨hheld, hfinished, hzero, h.held hheld,
    fun other hother => Bool.eq_false_iff.2 (List.countP_eq_zero.1 hzero other hother)⟩

theorem inv_call (h : Inv s) (call : LogCall) (succeeds : Bool) :
    Inv (advance succeeds (.calling call)
      { s with threads := s.threads.erase (.calling call) }) := by
  have hleft := h.erase (.calling call) rfl rfl
  rcases hclosed : s.gate.closed with _ | _
  · obtain ⟨hheld, hfinished, hzero, hat, hnone⟩ := hleft.none_of_open hclosed
    have hcounts := hleft.counts.enter (.admitted call) (by rw [Gate.enter_of_open hclosed]) rfl
    rw [Gate.enter_of_open hclosed] at hcounts
    simp only [advance, Gate.enter_of_open hclosed]
    refine ⟨hcounts, (hleft.goOn .awaiting rfl rfl trivial).token, h.closed,
      fun _ => ⟨nofun, nofun, hat.poolHeld, hat.asyncHeld, hat.fileHeld, nofun, hat.notice⟩,
      List.forall_mem_cons.2 ⟨nofun, fun other hother stage hstage => ?_⟩,
      fun hended => absurd (hfinished.symm.trans hended) Bool.false_ne_true,
      List.forall_mem_cons.2 ⟨trivial, hleft.observed⟩, h.dropped,
      ⟨h.accounted.sublist, h.accounted.length⟩, h.faultless⟩
    rw [Point.stage_of_not_releases (hnone other hother)] at hstage
    cases hstage
  · simp only [advance, Gate.enter_of_closed hclosed]
    exact hleft

theorem inv_leaving (h : Inv s) (hmem : .leaving ∈ s.threads) (succeeds : Bool) :
    Inv (advance succeeds .leaving { s with threads := s.threads.erase .leaving }) := by
  obtain ⟨hat, hunfinished⟩ := h.at_of_inside hmem rfl
  have hat' : At 0 (advance succeeds .leaving { s with threads := s.threads.erase .leaving }) :=
    ⟨nofun, nofun, hat.poolHeld, hat.asyncHeld, hat.fileHeld, nofun, hat.notice⟩
  refine ⟨h.counts.leave hmem rfl, ?_, h.closed, fun _ => hat', fun other hother stage hstage => ?_,
    fun hended => absurd (hunfinished.symm.trans hended) Bool.false_ne_true,
    fun other hother => h.observed other (List.mem_of_mem_erase hother), h.dropped,
    ⟨h.accounted.sublist, h.accounted.length⟩, h.faultless⟩
  · have htoken := h.token
    simpa only [advance, List.countP_erase, Point.releases, Point.stage, Option.isSome_none,
      Bool.false_eq_true, and_false, if_false, Nat.sub_zero] using htoken
  · have hstage' := h.stage other (List.mem_of_mem_erase hother) stage hstage
    rwa [h.waits hmem rfl hstage']

theorem inv_shutdown (h : Inv s) (succeeds : Bool) :
    Inv (advance succeeds .shuttingDown
      { s with threads := s.threads.erase .shuttingDown }) := by
  have hleft := h.erase .shuttingDown rfl rfl
  simp only [advance, shutdown]
  split
  · exact hleft.goOn .awaiting rfl rfl trivial
  · next hopen =>
    obtain ⟨hheld, hfinished, hzero, hat, hnone⟩ := hleft.none_of_open (Bool.eq_false_iff.2 hopen)
    refine ⟨hleft.counts.close.cons rfl, ?_, rfl, nofun,
      List.forall_mem_cons.2 ⟨fun stage hstage => ?_, fun other hother stage hstage => ?_⟩,
      fun hended => absurd (hfinished.symm.trans hended) Bool.false_ne_true,
      List.forall_mem_cons.2 ⟨trivial, hleft.observed⟩, h.dropped,
      ⟨h.accounted.sublist, h.accounted.length⟩, h.faultless⟩
    · have hone :
          (Point.submitting :: s.threads.erase .shuttingDown).countP Point.releases = 1 := by
        rw [List.countP_cons_of_pos rfl, hzero]
      simp only [LogState.goOn, hone, hfinished]
      rfl
    · cases hstage
      exact ⟨nofun, nofun, hat.poolHeld, hat.asyncHeld, hat.fileHeld, nofun, hat.notice⟩
    · rw [Point.stage_of_not_releases (hnone other hother)] at hstage
      cases hstage

/-! ### The release -/

/-- The count that the release has observed is noted. -/
theorem inv_observed (h : Inv s) {count previous : Nat}
    (hmem : .raising true count previous ∈ s.threads) (hcount : s.dropped = count) :
    Inv (LogState.goOn .joining { s with
      threads := s.threads.erase (.raising true count previous) }) := by
  have hat := h.stage _ hmem 1 rfl
  have hobserved := h.observed _ hmem
  refine h.release 2 hmem rfl rfl rfl rfl rfl rfl ⟨Nat.le_refl _, h.dropped⟩
    ⟨h.accounted.sublist, h.accounted.length⟩ h.faultless rfl ?_ trivial
  exact ⟨fun _ => hat.drained (Nat.le_refl _), fun _ => hcount.trans (hobserved.2.1 rfl),
    hat.poolHeld, hat.asyncHeld, hat.fileHeld, nofun, fun count hcount =>
      absurd (hat.notice count hcount).1 (by decide)⟩

theorem inv_raise (h : Inv s) {release : Bool} {count previous : Nat}
    (hmem : .raising release count previous ∈ s.threads) (succeeds : Bool) :
    Inv (raise release count previous succeeds
      { s with threads := s.threads.erase (.raising release count previous) }) := by
  have hobserved := h.observed _ hmem
  have hdropped := h.dropped
  unfold raise
  split_ifs with hless hexchange
  · obtain ⟨hsame, -⟩ := hexchange
    dsimp only at hsame
    cases release with
    | false =>
      have hchanged : Inv { s with dropped := count } :=
        h.change hmem rfl rfl rfl rfl rfl ⟨rfl, rfl, rfl, rfl⟩ (Nat.le_refl _)
          ⟨by dsimp only; omega, hobserved.1⟩ ⟨h.accounted.sublist, h.accounted.length⟩ h.faultless
      exact hchanged.move hmem rfl rfl rfl trivial
    | true =>
      have hat := h.stage _ hmem 1 rfl
      refine h.release 2 hmem rfl rfl rfl rfl rfl rfl
        ⟨by dsimp only [LogState.goOn]; omega, hobserved.1⟩
        ⟨h.accounted.sublist, h.accounted.length⟩ h.faultless rfl ?_ trivial
      exact ⟨fun _ => hat.drained (Nat.le_refl _), fun _ => hobserved.2.1 rfl,
        hat.poolHeld, hat.asyncHeld, hat.fileHeld, nofun, fun count hcount =>
          absurd (hat.notice count hcount).1 (by decide)⟩
  · cases release with
    | false => exact h.move hmem rfl rfl rfl ⟨hobserved.1, nofun, Nat.le_refl _⟩
    | true =>
      have hat := h.stage _ hmem 1 rfl
      exact h.release 1 hmem rfl rfl rfl rfl rfl rfl ⟨Nat.le_refl _, h.dropped⟩
        ⟨h.accounted.sublist, h.accounted.length⟩ h.faultless rfl (hat.threads _)
        ⟨hobserved.1, hobserved.2.1, Nat.le_refl _⟩
  · cases release with
    | false => exact h.move hmem rfl rfl rfl trivial
    | true =>
      -- What was found noted is as high as the counter.
      have hcount := hobserved.2.1 rfl
      have hprevious := hobserved.2.2
      exact inv_observed h hmem (by omega)

theorem inv_work (hpool : pool.Documented) (h : Inv s) (hheld : s.poolHeld = true) :
    Inv { s with queue := pool.work s.queue } := by
  obtain ⟨hsame, hcounter⟩ := hpool.work s.queue
  have hat : ∀ stage, At stage s → At stage { s with queue := pool.work s.queue } := by
    intro stage hat
    refine ⟨hat.drained, fun hstage => (hat.dropped hstage).trans hcounter.symm, hat.poolHeld,
      hat.asyncHeld, hat.fileHeld, fun hstage => ?_, hat.notice⟩
    have hpoolHeld := hat.poolHeld
    rw [hheld] at hpoolHeld
    exact absurd (of_decide_eq_true hpoolHeld.symm) (by omega)
  have haccounted : Accounted { s with queue := pool.work s.queue } := by
    constructor
    · rw [hsame]
      exact h.accounted.sublist
    · rw [hsame, hcounter]
      exact h.accounted.length
  refine ⟨h.counts, h.token, h.closed, fun held => hat 0 (h.held held),
    fun point hpoint stage hstage => hat stage (h.stage point hpoint stage hstage),
    fun hended => hat 6 (h.ended hended), ?_, ?_, haccounted, h.faultless⟩
  · rw [hcounter]
    exact h.observed
  · rw [hcounter]
    exact h.dropped

theorem inv_joining (hpool : pool.Documented) (h : Inv s) (hmem : .joining ∈ s.threads)
    (succeeds : Bool) :
    Inv (advance succeeds .joining { s with threads := s.threads.erase .joining }) := by
  obtain ⟨hwritten, hqueued, hcounter⟩ := hpool.join s.queue
  have hat := h.stage _ hmem 2 rfl
  have hlength := h.accounted.length
  simp only [advance]
  refine h.release 3 hmem rfl rfl rfl rfl rfl hcounter ⟨Nat.le_refl _, ?_⟩ ⟨?_, ?_⟩ h.faultless rfl
    ?_ trivial
  · rw [LogState.goOn, hcounter]
    exact h.dropped
  · rw [LogState.goOn, hwritten, hqueued, List.append_nil]
    exact h.accounted.sublist
  · rw [LogState.goOn, hwritten, hqueued, List.append_nil, hcounter]
    exact hlength
  · exact ⟨fun _ => hat.drained (by decide), fun _ => (hat.dropped (by decide)).trans hcounter.symm,
      rfl, hat.asyncHeld, hat.fileHeld, fun _ => hqueued, fun count hcount =>
        absurd (hat.notice count hcount).1 (by decide)⟩

theorem inv_noticing (h : Inv s) (hmem : .noticing ∈ s.threads) (succeeds : Bool) :
    Inv (advance succeeds .noticing { s with threads := s.threads.erase .noticing }) := by
  have hat := h.stage _ hmem 4 rfl
  have hdropped : s.dropped ≤ s.dropped ∧ s.dropped ≤ pool.overrunCounter s.queue :=
    ⟨Nat.le_refl _, h.dropped⟩
  have hfault : (s.faulted || !s.fileHeld) = false := by
    rw [h.faultless, hat.fileHeld]
    rfl
  simp only [advance]
  split
  · refine h.release 5 hmem rfl rfl rfl rfl rfl rfl hdropped
      ⟨h.accounted.sublist, h.accounted.length⟩ hfault rfl ?_ trivial
    refine ⟨fun _ => hat.drained (by decide), fun _ => hat.dropped (by decide), hat.poolHeld,
      hat.asyncHeld, hat.fileHeld, fun _ => hat.queued (by decide), fun count hcount => ?_⟩
    simp only [LogState.goOn] at hcount
    split at hcount
    · cases hcount
      exact ⟨Nat.le_refl _, rfl⟩
    · cases hcount
  · refine h.release 5 hmem rfl rfl rfl rfl rfl rfl hdropped
      ⟨h.accounted.sublist, h.accounted.length⟩ hfault rfl ?_ trivial
    exact ⟨fun _ => hat.drained (by decide), fun _ => hat.dropped (by decide), hat.poolHeld,
      hat.asyncHeld, hat.fileHeld, fun _ => hat.queued (by decide), fun count hcount =>
        absurd (hat.notice count hcount).1 (by decide)⟩

theorem inv_finishing (h : Inv s) (hmem : .finishing ∈ s.threads) (succeeds : Bool) :
    Inv (advance succeeds .finishing { s with threads := s.threads.erase .finishing }) := by
  have hat := h.stage _ hmem 6 rfl
  obtain ⟨hheld, hfinished, hnone⟩ := h.only hmem rfl
  refine ⟨h.counts.erase rfl, ?_, h.closed,
    fun held => absurd (hheld.symm.trans held) Bool.false_ne_true,
    fun other hother stage hstage => ?_,
    fun _ => ⟨hat.drained, hat.dropped, hat.poolHeld, hat.asyncHeld, hat.fileHeld, hat.queued,
      hat.notice⟩,
    fun other hother => h.observed other (List.mem_of_mem_erase hother), h.dropped,
    ⟨h.accounted.sublist, h.accounted.length⟩, h.faultless⟩
  · have hzero : (s.threads.erase .finishing).countP Point.releases = 0 :=
      List.countP_eq_zero.2 fun other hother => by simp [hnone other hother]
    simp only [advance, hheld, hzero]
    rfl
  · rw [Point.stage_of_not_releases (hnone other hother)] at hstage
    cases hstage

/-- One step keeps the invariant. -/
theorem inv_step (hpool : pool.Documented) (hen : Enabled s e) (h : Inv s) : Inv (s.handle e) := by
  cases e with
  | call call => exact h.goOn (.calling call) rfl rfl trivial
  | shutdown => exact h.goOn .shuttingDown rfl rfl trivial
  | work => exact inv_work hpool h hen
  | step point succeeds =>
    obtain ⟨hmem, hwait⟩ := hen
    have hsame : s.dropped ≤ s.dropped ∧ s.dropped ≤ pool.overrunCounter s.queue :=
      ⟨Nat.le_refl _, h.dropped⟩
    have haccounted := h.accounted
    cases point with
    | calling call => exact inv_call h call succeeds
    | admitted call =>
      have hposted := h.post hpool hmem succeeds
      have hmem' : .admitted call ∈ (s.post call succeeds).threads := by
        rw [threads_post]
        exact hmem
      have hmoved : Inv { s.post call succeeds with
          threads := .counting false :: (s.post call succeeds).threads.erase (.admitted call) } :=
        hposted.move hmem' rfl rfl rfl trivial
      simp only [handle, advance, post_threads]
      rwa [threads_post] at hmoved
    | counting release =>
      cases release with
      | false =>
        obtain ⟨hat, -⟩ := h.at_of_inside hmem rfl
        have hfault : (s.faulted || !s.poolHeld) = false := by
          rw [h.faultless, hat.poolHeld]
          rfl
        have hsafe : Inv { s with faulted := s.faulted || !s.poolHeld } := by
          rw [hfault, ← h.faultless]
          exact h
        exact hsafe.move hmem rfl rfl rfl ⟨Nat.le_refl _, nofun⟩
      | true =>
        have hat := h.stage _ hmem 1 rfl
        have hfault : (s.faulted || !s.poolHeld) = false := by
          rw [h.faultless, hat.poolHeld]
          rfl
        exact h.release 1 hmem rfl rfl rfl rfl rfl rfl hsame
          ⟨haccounted.sublist, haccounted.length⟩ hfault rfl
          ⟨hat.drained, hat.dropped, hat.poolHeld, hat.asyncHeld, hat.fileHeld, hat.queued,
            hat.notice⟩ ⟨Nat.le_refl _, fun _ => rfl⟩
    | observing release count =>
      have hobserved := h.observed _ hmem
      cases release with
      | false => exact h.move hmem rfl rfl rfl ⟨hobserved.1, nofun, Nat.le_refl _⟩
      | true =>
        exact h.release 1 hmem rfl rfl rfl rfl rfl rfl hsame
          ⟨haccounted.sublist, haccounted.length⟩ h.faultless rfl
          ((h.stage _ hmem 1 rfl).threads _) ⟨hobserved.1, hobserved.2, Nat.le_refl _⟩
    | raising release count previous => exact inv_raise h hmem succeeds
    | leaving => exact inv_leaving h hmem succeeds
    | shuttingDown => exact inv_shutdown h succeeds
    | submitting =>
      have hwaiting : Inv { s with threads := .waiting :: s.threads.erase .submitting } :=
        h.release 0 hmem rfl rfl rfl rfl rfl rfl hsame ⟨haccounted.sublist, haccounted.length⟩
          h.faultless rfl ((h.stage _ hmem 0 rfl).threads _) trivial
      exact hwaiting.goOn .awaiting rfl rfl trivial
    | awaiting => exact h.erase .awaiting rfl rfl
    | waiting =>
      have hat := h.stage _ hmem 0 rfl
      have hclosed : s.gate.closed = true := by rw [h.closed, (h.only hmem rfl).1]; rfl
      refine h.release 1 hmem rfl rfl rfl rfl rfl rfl hsame
        ⟨haccounted.sublist, haccounted.length⟩ h.faultless rfl ?_ trivial
      exact ⟨fun _ => ⟨hclosed, hwait rfl⟩, fun h => absurd h (by decide), hat.poolHeld,
        hat.asyncHeld, hat.fileHeld, fun h => absurd h (by decide), fun count hcount =>
          absurd (hat.notice count hcount).1 (by decide)⟩
    | joining => exact inv_joining hpool h hmem succeeds
    | clearing =>
      have hat := h.stage _ hmem 3 rfl
      refine h.release 4 hmem rfl rfl rfl rfl rfl rfl hsame
        ⟨haccounted.sublist, haccounted.length⟩ h.faultless rfl ?_ trivial
      exact ⟨fun _ => hat.drained (by decide), fun _ => hat.dropped (by decide), hat.poolHeld, rfl,
        hat.fileHeld, fun _ => hat.queued (by decide), fun count hcount =>
          absurd (hat.notice count hcount).1 (by decide)⟩
    | noticing => exact inv_noticing h hmem succeeds
    | closing =>
      have hat := h.stage _ hmem 5 rfl
      refine h.release 6 hmem rfl rfl rfl rfl rfl rfl hsame
        ⟨haccounted.sublist, haccounted.length⟩ h.faultless rfl ?_ trivial
      exact ⟨fun _ => hat.drained (by decide), fun _ => hat.dropped (by decide), hat.poolHeld,
        hat.asyncHeld, rfl, fun _ => hat.queued (by decide), fun count hcount =>
          ⟨by decide, (hat.notice count hcount).2⟩⟩
    | finishing => exact inv_finishing h hmem succeeds

/-! ## Main result -/

/-- When the logger is finished, nothing is posted any more. -/
theorem accepted_step (hen : Enabled s e) (h : Inv s) (hfinished : s.finished = true) :
    (s.handle e).finished = true ∧ (s.handle e).accepted = s.accepted ∧
      (s.handle e).dropped = s.dropped ∧ (s.handle e).queue = s.queue := by
  have hat := h.ended hfinished
  have hnone := h.counts.none_inside (hat.drained (by decide))
  have hunreleased : ∀ point ∈ s.threads, point.releases = false := by
    intro point hpoint
    rw [← Bool.not_eq_true]
    intro hreleases
    exact absurd ((h.only hpoint hreleases).2.1.symm.trans hfinished) Bool.false_ne_true
  cases e with
  | call | shutdown => exact ⟨hfinished, rfl, rfl, rfl⟩
  | work => exact absurd (hat.poolHeld.symm.trans hen) (by decide)
  | step point succeeds =>
    have hinside := hnone point hen.1
    have hreleases := hunreleased point hen.1
    have hclosed := (hat.drained (by decide)).1
    cases point with
    | calling call =>
      have hstep : s.handle (.step (.calling call) succeeds) =
          { s with threads := s.threads.erase (.calling call) } := by
        simp only [handle, advance, Gate.enter_of_closed hclosed]
      rw [hstep]
      exact ⟨hfinished, rfl, rfl, rfl⟩
    | admitted | leaving => cases hinside
    | counting release | observing release | raising release =>
      cases release with
      | false => cases hinside
      | true => cases hreleases
    | shuttingDown =>
      have hstep : s.handle (.step .shuttingDown succeeds) =
          LogState.goOn .awaiting { s with threads := s.threads.erase .shuttingDown } :=
        if_pos hclosed
      rw [hstep]
      exact ⟨hfinished, rfl, rfl, rfl⟩
    | awaiting => exact ⟨hfinished, rfl, rfl, rfl⟩
    | submitting | waiting | joining | clearing | noticing | closing | finishing => cases hreleases

theorem accepted_exec (hpool : pool.Documented) :
    ∀ {s : LogState pool} {es : List Event}, (logger pool).Run s es → Inv s → s.finished = true →
      ((logger pool).exec s es).accepted = s.accepted ∧
      ((logger pool).exec s es).dropped = s.dropped ∧ ((logger pool).exec s es).queue = s.queue
  | _, [], _, _, _ => ⟨rfl, rfl, rfl⟩
  | _, _ :: _, ⟨hen, hrun⟩, h, hfinished => by
    obtain ⟨hfinished', haccepted, hdropped, hqueue⟩ := accepted_step hen h hfinished
    obtain ⟨haccepted', hdropped', hqueue'⟩ :=
      accepted_exec hpool hrun (inv_step hpool hen h) hfinished'
    exact ⟨haccepted'.trans haccepted, hdropped'.trans hdropped, hqueue'.trans hqueue⟩

/-- What holds of the logger in every state of every run. -/
structure Accounts (pool : LogPool) (s : LogState pool) : Prop where
  /-- Neither a call nor the release uses what was released. -/
  faultless : s.faulted = false
  /-- No more lines are noted as dropped than were. -/
  dropped : s.dropped + (pool.written s.queue ++ pool.queued s.queue).length ≤ s.accepted.length
  /-- The release finishes when no call is inside: then every line that was accepted is in the file,
  in order, or was dropped, and the dropped ones are counted, also in the notice. -/
  finished : s.finished = true → (∀ point ∈ s.threads, point.inside = false) ∧
    (pool.written s.queue).Sublist s.accepted ∧
    s.dropped + (pool.written s.queue).length = s.accepted.length ∧
    ∀ count ∈ s.notice, count = s.dropped
  /-- Nothing is accepted after that. -/
  ended : s.finished = true → ∀ es, (logger pool).Run s es →
    ((logger pool).exec s es).accepted = s.accepted ∧
    ((logger pool).exec s es).dropped = s.dropped ∧ ((logger pool).exec s es).queue = s.queue

theorem logger_accounts {pool : LogPool} (hpool : pool.Documented) {s : LogState pool}
    (h : (logger pool).Reachable {} s) : Accounts pool s := by
  have hinv : Inv s := h.invariant (fun _ _ hen => inv_step hpool hen) (inv_initial hpool)
  have hlength := hinv.accounted.length
  have hdropped := hinv.dropped
  refine ⟨hinv.faultless, by omega, fun hfinished => ?_,
    fun hfinished es hrun => accepted_exec hpool hrun hinv hfinished⟩
  have hat := hinv.ended hfinished
  have hsublist := hinv.accounted.sublist
  rw [hat.queued (by decide), List.append_nil] at hsublist hlength
  refine ⟨hinv.counts.none_inside (hat.drained (by decide)), hsublist, ?_,
    fun count hcount => (hat.notice count hcount).2⟩
  rw [hat.dropped (by decide)]
  omega

/-! ## A run -/

/-- A queue of one entry. -/
def smallPool : LogPool where
  State := List LogItem × List LogItem × Nat
  initial := ([], [], 0)
  post item s := match s with
    | ([], written, dropped) => ([item], written, dropped)
    | (_ :: queued, written, dropped) => (queued ++ [item], written, dropped + 1)
  work s := match s with
    | ([], written, dropped) => ([], written, dropped)
    | (item :: queued, written, dropped) => (queued, written ++ [item], dropped)
  join s := ([], s.2.1 ++ s.1, s.2.2)
  overrunCounter s := s.2.2
  queued s := s.1
  written s := s.2.1

theorem smallPool_documented : smallPool.Documented where
  initial := ⟨rfl, rfl, rfl⟩
  post := by
    rintro item ⟨_ | ⟨oldest, queued⟩, written, dropped⟩
    · exact ⟨rfl, .inl ⟨rfl, rfl⟩⟩
    · exact ⟨rfl, .inr ⟨oldest, rfl, rfl⟩⟩
  work := by
    rintro ⟨_ | ⟨item, queued⟩, written, dropped⟩
    · exact ⟨rfl, rfl⟩
    · exact ⟨List.append_assoc _ _ _, rfl⟩
  join := fun _ => ⟨rfl, rfl, rfl⟩

instance (s : LogState smallPool) : ∀ e, Decidable ((logger smallPool).enabled s e)
  | .call _ | .shutdown => isTrue trivial
  | .work => inferInstanceAs (Decidable (s.poolHeld = true))
  | .step point _ =>
    inferInstanceAs (Decidable (point ∈ s.threads ∧ (point = .waiting → s.gate.active = 0)))

/-- Two lines, of which the queue drops the first, and a shutdown while both calls are inside. -/
def droppedLine : List Event :=
  let first : LogCall := .write [65] true
  let second : LogCall := .write [66] true
  [.call first, .step (.calling first) true, .step (.admitted first) true, .call second,
    .step (.calling second) true, .shutdown, .step .shuttingDown true,
    .step (.admitted second) true, .step (.counting false) true,
    .step (.observing false 1) true, .step (.raising false 1 0) true, .step .submitting true,
    .step .leaving true, .step (.counting false) true, .step (.observing false 1) true,
    .step (.raising false 1 1) true, .step .leaving true, .step .waiting true,
    .step (.counting true) true, .step (.observing true 1) true, .step (.raising true 1 1) true,
    .step .joining true, .step .clearing true, .step .noticing true, .step .closing true,
    .step .finishing true, .step .awaiting true]

theorem logger_accounts_dropped :
    ((logger smallPool).exec {} droppedLine).finished = true ∧
    ((logger smallPool).exec {} droppedLine).notice = some 1 ∧
    Accounts smallPool ((logger smallPool).exec {} droppedLine) :=
  ⟨by decide, by decide, logger_accounts smallPool_documented ⟨droppedLine, by decide, rfl⟩⟩

end LogState

end PlaybackConnector.Logger
