import PlaybackConnector.Transition.System

/-!
# The serialized executor

`DeviceService::State::Post` (`DeviceService.cpp:112`). There is no executor thread: a `Post` that
finds nothing executing runs the queue until it is empty, for every thread that posts meanwhile.
The steps are the critical sections of `QueueMutex` and what happens between them, each taken by a
`Post` of its own, so nothing in the state says that only one of them runs the loop; that is the
invariant (`Inv`).

A task is known by the number of its `Post` call, which also stands for the call's `Completion`.
-/

namespace PlaybackConnector

namespace Executor

/-- A `std::thread::id`. -/
abbrev ThreadId := Nat

/-- The number of a `Post` call. -/
abbrev Ticket := Nat

/-- Where a `Post` stands that runs the loop: before the critical section that takes a task, in the
task, or before the signal of the task's completion. -/
inductive Point
  | looking | running (task : Ticket) | signalling (task : Ticket)
deriving Repr, DecidableEq

/-- A `Post` that runs the loop. -/
structure Loop where
  thread : ThreadId
  ticket : Ticket
  point : Point
deriving Repr, DecidableEq

/-- The begin or the end of a task. -/
inductive TaskMark
  | begun (task : Ticket) | ended (task : Ticket)
deriving Repr, DecidableEq

/-- Source: the queue's fields of `DeviceService::State` (`DeviceService.cpp:66`), the calls of
`Post` that have not returned, and what became of the others. -/
structure State where
  queue : List Ticket
  isExecuting : Bool
  executorThread : Option ThreadId
  /-- The calls that run the loop. -/
  loops : List Loop
  /-- The calls that wait for their completion. -/
  waiting : List (ThreadId × Ticket)
  /-- The completions whose `Done` is set. -/
  done : List Ticket
  /-- The number of calls so far. -/
  posted : Nat
  /-- The tasks' begins and ends, in the order in which they happened. -/
  trace : List TaskMark
  /-- The calls that returned, with what they returned. -/
  returned : List (Ticket × Bool)
deriving Repr, DecidableEq

/-- Nothing was posted yet. -/
def initial : State := ⟨[], false, none, [], [], [], 0, [], []⟩

/-! ## The critical sections -/

/-- The first critical section. Source: `Post` (`DeviceService.cpp:117`). -/
def post (thread : ThreadId) (waitForCompletion : Bool) (s : State) : State :=
  let ticket := s.posted
  let s := { s with queue := s.queue ++ [ticket], posted := s.posted + 1 }
  if !s.isExecuting then
    { s with
      isExecuting := true
      executorThread := some thread
      loops := ⟨thread, ticket, .looking⟩ :: s.loops }
  else if waitForCompletion ∧ s.executorThread ≠ some thread then
    { s with waiting := (thread, ticket) :: s.waiting }
  else { s with returned := (ticket, false) :: s.returned }

/-- A `Post` that runs the loop moves on. -/
def State.move (l : Loop) (point : Point) (s : State) : State :=
  { s with loops := { l with point := point } :: s.loops.erase l }

/-- The critical section of the loop: the queue is empty and the `Post` returns, or its first task
is taken. Source: `Post` (`DeviceService.cpp:138`). -/
def take (l : Loop) (s : State) : State :=
  match s.queue with
  | [] =>
    { s with
      isExecuting := false
      executorThread := none
      loops := s.loops.erase l
      returned := (l.ticket, true) :: s.returned }
  | task :: queue =>
    { s.move l (.running task) with queue := queue, trace := s.trace ++ [.begun task] }

/-- The task returns or throws; what it throws is logged. Source: `Post`
(`DeviceService.cpp:147`). -/
def finish (l : Loop) (task : Ticket) (s : State) : State :=
  { s.move l (.signalling task) with trace := s.trace ++ [.ended task] }

/-- Source: `Completion::Signal` (`DeviceService.cpp:46`). -/
def signal (l : Loop) (task : Ticket) (s : State) : State :=
  { s.move l .looking with done := task :: s.done }

/-- The end of the wait. Source: `Completion::Wait` (`DeviceService.cpp:54`). -/
def wake (thread : ThreadId) (ticket : Ticket) (s : State) : State :=
  { s with
    waiting := s.waiting.erase (thread, ticket)
    returned := (ticket, true) :: s.returned }

/-- The steps of the threads. -/
inductive Event
  | post (thread : ThreadId) (waitForCompletion : Bool)
  | take (l : Loop)
  | finish (l : Loop) (task : Ticket) (threw : Bool)
  | signal (l : Loop) (task : Ticket)
  | wake (thread : ThreadId) (ticket : Ticket)
deriving Repr, DecidableEq

/-- The step is a new call. -/
def Event.isPost : Event → Bool
  | post _ _ => true
  | _ => false

/-- What a thread can do: call `Post` unless it waits, also from a task, or go on with a call. -/
def Enabled (s : State) : Event → Prop
  | .post thread _ => thread ∉ s.waiting.map Prod.fst
  | .take l => l ∈ s.loops ∧ l.point = .looking
  | .finish l task _ => l ∈ s.loops ∧ l.point = .running task
  | .signal l task => l ∈ s.loops ∧ l.point = .signalling task
  | .wake thread ticket => (thread, ticket) ∈ s.waiting ∧ ticket ∈ s.done

instance (s : State) : DecidablePred (Enabled s)
  | .post _ _ => inferInstanceAs (Decidable (_ ∉ _))
  | .take _ | .finish _ _ _ | .signal _ _ | .wake _ _ => inferInstanceAs (Decidable (_ ∧ _))

/-- The step of an event. -/
def handle : Event → State → State
  | .post thread waitForCompletion => post thread waitForCompletion
  | .take l => take l
  | .finish l task _ => finish l task
  | .signal l task => signal l task
  | .wake thread ticket => wake thread ticket

end Executor

/-- Any number of threads that post to one executor. Source: `DeviceService::State::Post`
(`DeviceService.cpp:112`). -/
def executor : EventSystem Executor.State Executor.Event where
  enabled := Executor.Enabled
  step s e := Executor.handle e s

namespace Executor

instance (s : State) (e : Event) : Decidable (executor.enabled s e) :=
  inferInstanceAs (Decidable (Enabled s e))

variable {s : State} {e : Event}

/-! ## The tasks that ran -/

/-- The tasks that were begun, in their order. -/
def State.begun (s : State) : List Ticket :=
  s.trace.filterMap fun
    | .begun task => some task
    | .ended _ => none

/-- The tasks that ended, in their order. -/
def State.ended (s : State) : List Ticket :=
  s.trace.filterMap fun
    | .begun _ => none
    | .ended task => some task

/-- One task after the other. -/
def ran (tasks : List Ticket) : List TaskMark := tasks.flatMap fun task => [.begun task, .ended task]

theorem ran_append (tasks : List Ticket) (task : Ticket) :
    ran (tasks ++ [task]) = ran tasks ++ [.begun task] ++ [.ended task] := by
  simp [ran]

/-- The task that a loop is in, and has not ended. -/
def Point.task : Point → Option Ticket
  | running task => some task
  | looking | signalling _ => none

/-- Where the executor stands: a call that runs no loop has nothing to do. -/
def State.point (s : State) : Point := (s.loops.head?.map (·.point)).getD .looking

theorem filterMap_begun_ran (tasks : List Ticket) : (ran tasks).filterMap (fun
    | .begun task => some task
    | .ended _ => none) = tasks := by
  induction tasks with
  | nil => rfl
  | cons task tasks ih => simpa [ran] using ih

/-- The tasks were begun in the order of their calls, one after the other. -/
theorem begun_eq (h : s.trace = ran s.ended ++ s.point.task.toList.map .begun) :
    s.begun = s.ended ++ s.point.task.toList := by
  unfold State.begun
  rw [h, List.filterMap_append, filterMap_begun_ran]
  cases s.point.task <;> rfl

/-! ## The invariant -/

/-- Either nobody runs the loop, and there is nothing to run, or one call does. -/
def Alone (s : State) : Prop :=
  s.loops = [] ∧ s.isExecuting = false ∧ s.executorThread = none ∧ s.queue = [] ∨
    ∃ l, s.loops = [l] ∧ s.isExecuting = true ∧ s.executorThread = some l.thread

/-- What holds between any two steps of the threads. -/
structure Inv (s : State) : Prop where
  alone : Alone s
  serial : s.trace = ran s.ended ++ s.point.task.toList.map .begun
  order : s.ended ++ s.point.task.toList ++ s.queue = List.range s.posted
  signalled : ∀ task, task ∈ s.ended ↔ task ∈ s.done ∨ s.point = .signalling task
  returned : ∀ ticket, (ticket, true) ∈ s.returned → ticket ∈ s.ended
  accounted : (s.returned.map Prod.fst ++ s.waiting.map Prod.snd ++
    s.loops.map Loop.ticket).Perm (List.range s.posted)

theorem inv_initial : Inv initial := by
  refine ⟨.inl ⟨rfl, rfl, rfl, rfl⟩, rfl, rfl, ?_, ?_, .nil⟩ <;>
    simp [initial, State.ended, State.point]

/-- The call that runs the loop is the only one. -/
theorem Inv.eq_loop (hs : Inv s) {l : Loop} (hl : l ∈ s.loops) :
    s.loops = [l] ∧ s.isExecuting = true ∧ s.executorThread = some l.thread := by
  rcases hs.alone with ⟨hnone, -⟩ | ⟨l', hone, hexec, hthread⟩
  · simp [hnone] at hl
  · rw [hone, List.mem_singleton] at hl
    subst hl
    exact ⟨hone, hexec, hthread⟩

theorem point_eq {l : Loop} (h : s.loops = [l]) : s.point = l.point := by simp [State.point, h]

theorem move_loops {l : Loop} (h : s.loops = [l]) (point : Point) :
    (s.move l point).loops = [{ l with point := point }] := by
  simp [State.move, h]

theorem post_inv (hs : Inv s) (thread : ThreadId) (waitForCompletion : Bool) :
    Inv (post thread waitForCompletion s) := by
  obtain ⟨halone, hserial, horder, hsignalled, hreturned, haccounted⟩ := hs
  have horder' : s.ended ++ s.point.task.toList ++ (s.queue ++ [s.posted]) =
      List.range (s.posted + 1) := by
    rw [← List.append_assoc, horder, List.range_succ]
  have hcount {tickets : List Ticket} (h : tickets.Perm (s.posted ::
      (s.returned.map Prod.fst ++ s.waiting.map Prod.snd ++ s.loops.map Loop.ticket))) :
      tickets.Perm (List.range (s.posted + 1)) := by
    rw [List.range_succ]
    exact h.trans ((haccounted.cons _).trans (List.perm_append_singleton _ _).symm)
  unfold post
  dsimp only
  split
  · rename_i hidle
    rcases halone with ⟨hnone, -, -, hempty⟩ | ⟨l, -, hexec, -⟩
    · have hpoint : s.point = .looking := by simp [State.point, hnone]
      rw [hpoint] at hserial horder' hsignalled
      exact ⟨.inr ⟨_, by rw [hnone], rfl, rfl⟩, hserial, horder', hsignalled, hreturned,
        hcount List.perm_middle⟩
    · simp [hexec] at hidle
  · rename_i hbusy
    have halone' : ∃ l, s.loops = [l] ∧ s.isExecuting = true ∧ s.executorThread = some l.thread := by
      rcases halone with ⟨-, hexec, -⟩ | h
      · simp [hexec] at hbusy
      · exact h
    split
    · refine ⟨.inr halone', hserial, horder', hsignalled, hreturned, hcount ?_⟩
      simp
    · refine ⟨.inr halone', hserial, horder', hsignalled, ?_, hcount (by simp)⟩
      intro ticket h
      simp only [List.mem_cons, Prod.mk.injEq, Bool.true_eq_false, and_false, false_or] at h
      exact hreturned ticket h

/-- The invariant, for a state whose tasks and whose point are known. -/
theorem inv_of (tasks : List Ticket) (point : Point) (hended : s.ended = tasks)
    (hpoint : s.point = point) (halone : Alone s)
    (hserial : s.trace = ran tasks ++ point.task.toList.map .begun)
    (horder : tasks ++ point.task.toList ++ s.queue = List.range s.posted)
    (hsignalled : ∀ task, task ∈ tasks ↔ task ∈ s.done ∨ point = .signalling task)
    (hreturned : ∀ ticket, (ticket, true) ∈ s.returned → ticket ∈ tasks)
    (haccounted : (s.returned.map Prod.fst ++ s.waiting.map Prod.snd ++
      s.loops.map Loop.ticket).Perm (List.range s.posted)) : Inv s := by
  subst hended hpoint
  exact ⟨halone, hserial, horder, hsignalled, hreturned, haccounted⟩

theorem take_inv (hs : Inv s) {l : Loop} (hl : l ∈ s.loops) (hpoint : l.point = .looking) :
    Inv (take l s) := by
  obtain ⟨hone, hexec, hthread⟩ := hs.eq_loop hl
  obtain ⟨-, hserial, horder, hsignalled, hreturned, haccounted⟩ := hs
  rw [point_eq hone, hpoint] at hserial horder hsignalled
  unfold take
  split
  · rename_i hempty
    have hnone : s.loops.erase l = [] := by simp [hone]
    have hended : s.ended = List.range s.posted := by simpa [hempty, Point.task] using horder
    have hticket : l.ticket ∈ s.ended := by
      rw [hended, ← haccounted.mem_iff]
      simp [hone]
    refine inv_of s.ended .looking rfl ?_ (.inl ⟨hnone, rfl, rfl, hempty⟩)
      hserial horder hsignalled ?_ ?_
    · simp [State.point, hnone]
    · intro ticket h
      rcases List.mem_cons.1 h with h | h
      · cases h
        exact hticket
      · exact hreturned ticket h
    · rw [hnone]
      rw [hone] at haccounted
      refine List.Perm.trans ?_ haccounted
      simp only [List.map_nil, List.map_cons, List.append_nil, List.cons_append]
      exact (List.perm_append_singleton _ _).symm
  · rename_i task queue hqueue
    have hmove := move_loops hone (.running task)
    refine inv_of s.ended (.running task) ?_ (point_eq hmove)
      (.inr ⟨_, hmove, hexec, hthread⟩) ?_ ?_ ?_ hreturned ?_
    · simp [State.ended]
    · rw [hserial]
      simp [Point.task]
    · rw [hqueue] at horder
      simpa [Point.task, State.move] using horder
    · intro task'
      have hdone := hsignalled task'
      simp only [reduceCtorEq, or_false] at hdone ⊢
      exact hdone
    · rw [hone] at haccounted
      rw [hmove]
      exact haccounted

theorem finish_inv (hs : Inv s) {l : Loop} {task : Ticket} (hl : l ∈ s.loops)
    (hpoint : l.point = .running task) : Inv (finish l task s) := by
  obtain ⟨hone, hexec, hthread⟩ := hs.eq_loop hl
  obtain ⟨-, hserial, horder, hsignalled, hreturned, haccounted⟩ := hs
  rw [point_eq hone, hpoint] at hserial horder hsignalled
  have hmove := move_loops hone (.signalling task)
  refine inv_of (s.ended ++ [task]) (.signalling task) ?_ (point_eq hmove)
    (.inr ⟨_, hmove, hexec, hthread⟩) ?_ ?_ ?_
    (fun _ h => List.mem_append_left _ (hreturned _ h)) ?_
  · simp [finish, State.ended, State.move]
  · show s.trace ++ [.ended task] = _
    rw [hserial, ran_append]
    simp [Point.task]
  · simpa [Point.task, finish, State.move] using horder
  · intro task'
    have hdone := hsignalled task'
    simp only [reduceCtorEq, or_false] at hdone
    simp [hdone, finish, State.move, eq_comm]
  · rw [hone] at haccounted
    show List.Perm (_ ++ List.map _ (s.move l _).loops) _
    rw [hmove]
    exact haccounted

theorem signal_inv (hs : Inv s) {l : Loop} {task : Ticket} (hl : l ∈ s.loops)
    (hpoint : l.point = .signalling task) : Inv (signal l task s) := by
  obtain ⟨hone, hexec, hthread⟩ := hs.eq_loop hl
  obtain ⟨-, hserial, horder, hsignalled, hreturned, haccounted⟩ := hs
  rw [point_eq hone, hpoint] at hserial horder hsignalled
  have hmove := move_loops hone .looking
  refine inv_of s.ended .looking rfl (point_eq hmove)
    (.inr ⟨_, hmove, hexec, hthread⟩) hserial horder ?_ hreturned ?_
  · intro task'
    simp [hsignalled task', signal, State.move, or_comm, eq_comm]
  · rw [hone] at haccounted
    show List.Perm (_ ++ List.map _ (s.move l _).loops) _
    rw [hmove]
    exact haccounted

theorem wake_inv (hs : Inv s) {thread : ThreadId} {ticket : Ticket}
    (hwaiting : (thread, ticket) ∈ s.waiting) (hdone : ticket ∈ s.done) :
    Inv (wake thread ticket s) := by
  refine ⟨hs.alone, hs.serial, hs.order, hs.signalled, ?_, ?_⟩
  · intro ticket' h
    rcases List.mem_cons.1 h with h | h
    · cases h
      exact (hs.signalled ticket).2 (.inl hdone)
    · exact hs.returned ticket' h
  · refine List.Perm.trans ?_ hs.accounted
    have hsplit : (s.waiting.map Prod.snd).Perm
        (ticket :: (s.waiting.erase (thread, ticket)).map Prod.snd) :=
      (List.perm_cons_erase hwaiting).map Prod.snd
    refine List.Perm.append_right _ ?_
    refine List.Perm.trans ?_ (hsplit.symm.append_left _)
    exact List.perm_middle.symm

theorem step_inv (he : executor.enabled s e) (hs : Inv s) : Inv (executor.step s e) := by
  cases e with
  | post thread waitForCompletion => exact post_inv hs thread waitForCompletion
  | take l => exact take_inv hs he.1 he.2
  | finish l task threw => exact finish_inv hs he.1 he.2
  | signal l task => exact signal_inv hs he.1 he.2
  | wake thread ticket => exact wake_inv hs he.1 he.2

theorem run_inv {es : List Event} (hrun : executor.Run initial es) :
    Inv (executor.exec initial es) :=
  EventSystem.Always.invariant (fun _ _ he hs => step_inv he hs) hrun inv_initial

/-! ## What `Post` promises -/

/-- The tasks ran one at a time and in the order of their calls, and those that did not are queued
for a call that runs the loop; a call that returned `true` returned after its task. -/
structure LosesNothing (s : State) : Prop where
  order : s.begun ++ s.queue = List.range s.posted
  serial : s.trace = ran s.ended ∨ ∃ task, s.trace = ran s.ended ++ [.begun task]
  idle : s.isExecuting = false → s.queue = [] ∧ s.ended = List.range s.posted
  returned : ∀ ticket, (ticket, true) ∈ s.returned → ticket ∈ s.ended
  once : (s.returned.map Prod.fst).Nodup

theorem Inv.losesNothing (hs : Inv s) : LosesNothing s := by
  refine ⟨?_, ?_, fun hidle => ?_, hs.returned, ?_⟩
  · rw [begun_eq hs.serial, hs.order]
  · have hserial := hs.serial
    cases htask : s.point.task with
    | none => exact .inl (by simpa [htask] using hserial)
    | some task => exact .inr ⟨task, by simpa [htask] using hserial⟩
  · rcases hs.alone with ⟨hnone, -, -, hempty⟩ | ⟨l, -, hexec, -⟩
    · have horder := hs.order
      have hpoint : s.point = .looking := by simp [State.point, hnone]
      exact ⟨hempty, by simpa [hempty, hpoint, Point.task] using horder⟩
    · simp [hexec] at hidle
  · have hall : (s.returned.map Prod.fst ++ s.waiting.map Prod.snd ++
        s.loops.map Loop.ticket).Nodup := hs.accounted.nodup_iff.2 List.nodup_range
    exact (List.nodup_append.1 (List.nodup_append.1 hall).1).1

/-- A call that returns `false` leaves its task in the queue of the one that runs the loop. -/
def LeavesQueued (s : State) (e : Event) : Prop :=
  ∀ ticket, (ticket, false) ∈ (executor.step s e).returned → (ticket, false) ∈ s.returned ∨
    ticket ∈ (executor.step s e).queue ∧ ∃ l, (executor.step s e).loops = [l]

theorem step_leavesQueued (he : executor.enabled s e) (hs : Inv s) : LeavesQueued s e := by
  intro ticket h
  cases e with
  | post thread waitForCompletion =>
    change (ticket, false) ∈ (post thread waitForCompletion s).returned at h
    show _ ∨ ticket ∈ (post thread waitForCompletion s).queue ∧
      ∃ l, (post thread waitForCompletion s).loops = [l]
    unfold post at h ⊢
    dsimp only at h ⊢
    split at h
    · exact .inl h
    rename_i hbusy
    rw [if_neg hbusy]
    split at h
    · exact .inl h
    rename_i hnowait
    rw [if_neg hnowait]
    rcases List.mem_cons.1 h with h | h
    · cases h
      rcases hs.alone with ⟨-, hexec, -⟩ | ⟨l, hone, -⟩
      · simp [hexec] at hbusy
      · exact .inr ⟨by simp, l, hone⟩
    · exact .inl h
  | take l =>
    change (ticket, false) ∈ (take l s).returned at h
    unfold take at h
    split at h
    · rcases List.mem_cons.1 h with h | h
      · cases h
      · exact .inl h
    · exact .inl h
  | finish l task threw => exact .inl h
  | signal l task => exact .inl h
  | wake thread ticket' =>
    rcases List.mem_cons.1 h with h | h
    · cases h
    · exact .inl h

/-! ## The queue is drained -/

/-- The steps that a loop has left in a task. -/
def Point.work : Point → Nat
  | looking => 1
  | signalling _ => 2
  | running _ => 3

/-- The steps that the calls have left. -/
def State.work (s : State) : Nat :=
  3 * s.queue.length + (s.loops.map (·.point.work)).sum + s.waiting.length

theorem step_work (he : executor.enabled s e) (hs : Inv s) (hpost : e.isPost = false) :
    (executor.step s e).work < s.work := by
  cases e with
  | post thread waitForCompletion => cases hpost
  | take l =>
    obtain ⟨hone, -, -⟩ := hs.eq_loop he.1
    show (take l s).work < s.work
    unfold take
    split
    · rename_i hempty
      simp [State.work, hone, hempty, he.2, Point.work]
    · rename_i task queue hqueue
      simp only [State.work, move_loops hone _, hone, hqueue, List.map_cons, List.map_nil,
        List.sum_cons, List.sum_nil, List.length_cons, Point.work, he.2]
      simp only [State.move]
      omega
  | finish l task threw =>
    obtain ⟨hone, -, -⟩ := hs.eq_loop he.1
    simp [executor, handle, finish, State.work, State.move, hone, he.2, Point.work]
  | signal l task =>
    obtain ⟨hone, -, -⟩ := hs.eq_loop he.1
    simp [executor, handle, signal, State.work, State.move, hone, he.2, Point.work]
  | wake thread ticket =>
    have hpos := List.length_pos_of_mem he.1
    simp only [executor, handle, wake, State.work, List.length_erase_of_mem he.1]
    omega

/-- When no call can go on, every task has run, and every call has returned. -/
theorem quiescent (hs : Inv s) (hquiet : ∀ e : Event, e.isPost = false → ¬ executor.enabled s e) :
    s.ended = List.range s.posted ∧ ∀ ticket < s.posted, ticket ∈ s.returned.map Prod.fst := by
  have hnone : s.loops = [] := by
    rcases hs.alone with ⟨hnone, -⟩ | ⟨l, hone, -⟩
    · exact hnone
    · have hl : l ∈ s.loops := by simp [hone]
      cases hpoint : l.point with
      | looking => exact absurd ⟨hl, hpoint⟩ (hquiet (.take l) rfl)
      | running task => exact absurd ⟨hl, hpoint⟩ (hquiet (.finish l task false) rfl)
      | signalling task => exact absurd ⟨hl, hpoint⟩ (hquiet (.signal l task) rfl)
  have hidle : s.isExecuting = false := by
    rcases hs.alone with ⟨-, hidle, -⟩ | ⟨l, hone, -⟩
    · exact hidle
    · simp [hone] at hnone
  have hended := (hs.losesNothing.idle hidle).2
  have hwaiting : s.waiting = [] := by
    rw [List.eq_nil_iff_forall_not_mem]
    rintro ⟨thread, ticket⟩ hmem
    have hticket : ticket ∈ s.ended := by
      rw [hended, ← hs.accounted.mem_iff]
      simp only [List.mem_append, List.mem_map]
      exact .inl (.inr ⟨_, hmem, rfl⟩)
    have hdone : ticket ∈ s.done :=
      ((hs.signalled ticket).1 hticket).resolve_right (by simp [State.point, hnone])
    exact hquiet (.wake thread ticket) rfl ⟨hmem, hdone⟩
  refine ⟨hended, fun ticket hticket => ?_⟩
  have hmem := hs.accounted.mem_iff.2 (List.mem_range.2 hticket)
  simpa [hwaiting, hnone] using hmem

/-- Two threads, the second of which waits for its task, and a task that posts another one. -/
def twoThreads : List Event :=
  [.post 1 true, .post 2 true, .take ⟨1, 0, .looking⟩, .post 1 true,
    .finish ⟨1, 0, .running 0⟩ 0 true, .signal ⟨1, 0, .signalling 0⟩ 0]

end Executor

end PlaybackConnector
