import Mathlib

/-!
# Ordered delivery

A component that tells its subscribers of items in the order in which it accepts them, without a
thread of its own: an item is queued together with those that are registered at that moment, and
the thread that finds nobody draining the queue drains it, calling one subscriber after the other.
A subscriber that is deactivated is skipped, and a call that is under way is known as executing.
The operations are critical sections, or parts of them, and any number of threads perform them in
any order.

`Delivery.Inv` is what they keep: one thread drains the queue, and what a subscriber was told,
followed by what it is still to be told, is what was accepted while it was registered. Once a
subscriber is deactivated and not executing, it stays so (`Quiet`).
-/

namespace PlaybackConnector

namespace Delivery

/-- Where a thread that drains the queue stands: before it takes the next item, before it looks at
the next of an item's recipients, or in the call of one of them. -/
inductive Point (σ α : Type*)
  | taking
  | handing (item : α) (rest : List σ)
  | calling (item : α) (subscriber : σ) (rest : List σ)
deriving Repr, DecidableEq

/-- What happened. -/
inductive Occurrence (σ α : Type*)
  | accepted (item : α) (recipients : List σ)
  | begun (subscriber : σ) (item : α)
  | ended (subscriber : σ)
deriving Repr, DecidableEq

end Delivery

open Delivery in
/-- Subscribers `σ`, items `α` and threads `τ`. -/
structure Delivery (σ α τ : Type*) where
  registered : List σ := []
  inactive : List σ := []
  closed : Bool := false
  queue : List (α × List σ) := []
  draining : Bool := false
  drainThread : Option τ := none
  /-- The threads that are in the loop that drains the queue. -/
  loops : List (τ × Point σ α) := []
  /-- The subscribers that are marked as executing, with the threads that execute them. -/
  executing : List (σ × τ) := []
  /-- What happened, the latest first. -/
  history : List (Occurrence σ α) := []
deriving Repr, DecidableEq

namespace Delivery

section
variable {σ α τ : Type*} [DecidableEq σ]

/-! ## Operations -/

/-- A subscriber is registered. -/
def register (subscriber : σ) (s : Delivery σ α τ) : Delivery σ α τ :=
  { s with registered := s.registered ++ [subscriber] }

/-- A subscriber is no longer registered. -/
def retire (subscriber : σ) (s : Delivery σ α τ) : Delivery σ α τ :=
  { s with registered := s.registered.erase subscriber }

/-- A subscriber is deactivated. -/
def deactivate (subscriber : σ) (s : Delivery σ α τ) : Delivery σ α τ :=
  { s with inactive := subscriber :: s.inactive }

/-- All who are registered are deactivated, and no longer registered. -/
def retireAll (s : Delivery σ α τ) : Delivery σ α τ :=
  { s with registered := [], inactive := s.registered ++ s.inactive }

/-- Nobody is told of anything any more, and what is queued is discarded. -/
def close (s : Delivery σ α τ) : Delivery σ α τ := { s.retireAll with closed := true, queue := [] }

/-- An item is accepted for recipients, who are to be all who are registered, in any order. -/
def accept (item : α) (recipients : List σ) (s : Delivery σ α τ) : Delivery σ α τ :=
  { s with
    queue := s.queue ++ [(item, recipients)]
    history := .accepted item recipients :: s.history }

/-- A thread comes to drain the queue. -/
def enter (thread : τ) (s : Delivery σ α τ) : Delivery σ α τ :=
  if s.draining then s
  else { s with draining := true, drainThread := some thread, loops := (thread, .taking) :: s.loops }

/-- A thread in the loop goes on. -/
def move [DecidableEq α] [DecidableEq τ] (loop : τ × Point σ α) (point : Point σ α)
    (s : Delivery σ α τ) : Delivery σ α τ :=
  { s with loops := (loop.1, point) :: s.loops.erase loop }

/-- A subscriber may be called. -/
def mayCall (subscriber : σ) (s : Delivery σ α τ) : Bool :=
  !(s.inactive.contains subscriber) && !s.closed

/-- The next step of a thread in the loop. -/
def advance [DecidableEq α] [DecidableEq τ] (loop : τ × Point σ α)
    (s : Delivery σ α τ) : Delivery σ α τ :=
  match loop.2 with
  | .taking =>
    match s.queue with
    | [] => { s with draining := false, drainThread := none, loops := s.loops.erase loop }
    | (item, recipients) :: rest => { s.move loop (.handing item recipients) with queue := rest }
  | .handing _ [] => s.move loop .taking
  | .handing item (subscriber :: rest) =>
    if s.mayCall subscriber then
      { s.move loop (.calling item subscriber rest) with
        executing := (subscriber, loop.1) :: s.executing
        history := .begun subscriber item :: s.history }
    else s.move loop (.handing item rest)
  | .calling item subscriber rest =>
    { s.move loop (.handing item rest) with
      executing := s.executing.filter fun call => call.1 ≠ subscriber
      history := .ended subscriber :: s.history }

/-! ## What a subscriber is told -/

/-- The items that were accepted for a subscriber, the latest first. -/
def acceptedFor (subscriber : σ) (history : List (Occurrence σ α)) : List α :=
  history.filterMap fun
    | .accepted item recipients => if subscriber ∈ recipients then some item else none
    | _ => none

/-- The items that were accepted, the latest first. -/
def accepted (history : List (Occurrence σ α)) : List α :=
  history.filterMap fun
    | .accepted item _ => some item
    | _ => none

/-- The items that a subscriber was told of, the latest first. -/
def told (subscriber : σ) (history : List (Occurrence σ α)) : List α :=
  history.filterMap fun
    | .begun other item => if other = subscriber then some item else none
    | _ => none

/-- The item that a thread in the loop is still to tell a subscriber of. -/
def Point.outstanding (subscriber : σ) : Point σ α → List α
  | .taking => []
  | .handing item rest | .calling item _ rest => if subscriber ∈ rest then [item] else []

/-- The items that a subscriber is still to be told of. -/
def outstanding (subscriber : σ) (s : Delivery σ α τ) : List α :=
  s.loops.flatMap (fun loop => loop.2.outstanding subscriber) ++
    s.queue.filterMap fun entry => if subscriber ∈ entry.2 then some entry.1 else none

/-- The recipients that a thread in the loop is still to look at. -/
def Point.recipients : Point σ α → List σ
  | .taking => []
  | .handing _ rest | .calling _ _ rest => rest

/-- The subscriber that a thread in the loop is calling. -/
def Point.called : Point σ α → Option σ
  | .calling _ subscriber _ => some subscriber
  | _ => none

/-- The subscribers whose calls are under way. -/
def calls (s : Delivery σ α τ) : List σ := s.loops.filterMap fun loop => loop.2.called

/-- One thread drains the queue. -/
def Alone (s : Delivery σ α τ) : Prop :=
  (s.draining = false ∧ s.drainThread = none ∧ s.loops = [] ∧ s.executing = []) ∨
    ∃ thread point, s.draining = true ∧ s.drainThread = some thread ∧ s.loops = [(thread, point)] ∧
      s.executing = point.called.toList.map fun subscriber => (subscriber, thread)

/-- What holds between any two operations. -/
structure Inv (s : Delivery σ α τ) : Prop where
  alone : Alone s
  registered : s.registered.Nodup
  queued : ∀ entry ∈ s.queue, entry.2.Nodup
  handed : ∀ loop ∈ s.loops, loop.2.recipients.Nodup
  /-- An active subscriber was told, and is to be told, of what was accepted for it. -/
  complete : ∀ subscriber, s.mayCall subscriber = true →
    (told subscriber s.history).reverse ++ outstanding subscriber s =
      (acceptedFor subscriber s.history).reverse
  /-- Every subscriber was told of what was first accepted for it. -/
  inOrder : ∀ subscriber, told subscriber s.history <:+ acceptedFor subscriber s.history

/-- A subscriber is deactivated, and no call of it is under way. -/
def Quiet (subscriber : σ) (s : Delivery σ α τ) : Prop :=
  s.mayCall subscriber = false ∧ subscriber ∉ s.executing.map Prod.fst

variable {s : Delivery σ α τ} {subscriber other : σ} {item : α} {thread : τ} {point : Point σ α}
  {loop : τ × Point σ α}

/-! ## The operations keep the invariant -/

theorem Inv.initial : Inv ({} : Delivery σ α τ) := by
  refine ⟨.inl ⟨rfl, rfl, rfl, rfl⟩, .nil, nofun, nofun, fun _ _ => rfl, fun _ => List.suffix_refl _⟩

/-- A thread that is in the loop is the only one. -/
theorem Inv.eq_loop (hs : Inv s) (h : loop ∈ s.loops) :
    s.draining = true ∧ s.drainThread = some loop.1 ∧ s.loops = [loop] ∧
      s.executing = loop.2.called.toList.map fun subscriber => (subscriber, loop.1) := by
  rcases hs.alone with ⟨-, -, hnone, -⟩ | ⟨thread, point, hdraining, hthread, hone, hexecuting⟩
  · simp [hnone] at h
  · rw [hone, List.mem_singleton] at h
    subst h
    exact ⟨hdraining, hthread, hone, hexecuting⟩

/-- Those are marked as executing whose calls are under way. -/
theorem Inv.executing_eq (hs : Inv s) : s.executing.map Prod.fst = s.calls := by
  rcases hs.alone with ⟨-, -, hnone, hexecuting⟩ | ⟨thread, point, -, -, hone, hexecuting⟩
  · rw [calls, hnone, hexecuting]
    rfl
  · rw [calls, hone, hexecuting]
    cases hcalled : point.called with
    | none => simp [hcalled]
    | some subscriber => simp [hcalled]

/-- No two calls are under way. -/
theorem Inv.calls_length (hs : Inv s) : s.calls.length ≤ 1 := by
  rcases hs.alone with ⟨-, -, hnone, -⟩ | ⟨thread, point, -, -, hone, -⟩
  · simp [calls, hnone]
  · rw [calls, hone]
    exact List.length_filterMap_le _ _

/-- Nothing is outstanding while nobody drains the queue, when it is empty. -/
theorem outstanding_eq_nil (hloops : s.loops = []) (hqueue : s.queue = []) :
    s.outstanding subscriber = [] := by
  simp [outstanding, hloops, hqueue]

theorem outstanding_of_loop (subscriber : σ) (h : s.loops = [loop]) : s.outstanding subscriber =
    loop.2.outstanding subscriber ++
      s.queue.filterMap fun entry => if subscriber ∈ entry.2 then some entry.1 else none := by
  simp [outstanding, h]

theorem move_loops [DecidableEq α] [DecidableEq τ] (h : s.loops = [loop]) :
    (s.move loop point).loops = [(loop.1, point)] := by
  simp [move, h]

@[simp] theorem move_queue [DecidableEq α] [DecidableEq τ] :
    (s.move loop point).queue = s.queue := rfl

@[simp] theorem move_history [DecidableEq α] [DecidableEq τ] :
    (s.move loop point).history = s.history := rfl

theorem Inv.register (hs : Inv s) (h : subscriber ∉ s.registered) : Inv (s.register subscriber) where
  alone := hs.alone
  registered := List.nodup_append.2 ⟨hs.registered, List.nodup_singleton _, by
    intro a ha b hb hab
    rw [List.mem_singleton.1 hb] at hab
    exact h (hab ▸ ha)⟩
  queued := hs.queued
  handed := hs.handed
  complete := hs.complete
  inOrder := hs.inOrder

theorem Inv.retire (hs : Inv s) : Inv (s.retire subscriber) where
  alone := hs.alone
  registered := hs.registered.erase _
  queued := hs.queued
  handed := hs.handed
  complete := hs.complete
  inOrder := hs.inOrder

theorem Inv.deactivate (hs : Inv s) : Inv (s.deactivate subscriber) where
  alone := hs.alone
  registered := hs.registered
  queued := hs.queued
  handed := hs.handed
  complete := fun other hmay => hs.complete other (by
    simp only [mayCall, Delivery.deactivate, List.contains_cons, Bool.not_or, Bool.and_eq_true]
      at hmay ⊢
    exact ⟨hmay.1.2, hmay.2⟩)
  inOrder := hs.inOrder

theorem Inv.retireAll (hs : Inv s) : Inv s.retireAll where
  alone := hs.alone
  registered := .nil
  queued := hs.queued
  handed := hs.handed
  complete := fun other hmay => hs.complete other (by
    simp only [mayCall, Delivery.retireAll, Bool.and_eq_true, Bool.not_eq_true',
      List.contains_eq_mem, decide_eq_false_iff_not, List.mem_append, not_or] at hmay ⊢
    exact ⟨hmay.1.2, hmay.2⟩)
  inOrder := hs.inOrder

theorem Inv.close (hs : Inv s) : Inv s.close where
  alone := hs.alone
  registered := .nil
  queued := nofun
  handed := hs.handed
  complete := fun other hmay => by simp [mayCall, Delivery.close] at hmay
  inOrder := hs.inOrder

theorem acceptedFor_accepted (recipients : List σ) (history : List (Occurrence σ α)) :
    acceptedFor subscriber (.accepted item recipients :: history) =
      (if subscriber ∈ recipients then [item] else []) ++ acceptedFor subscriber history := by
  by_cases hmem : subscriber ∈ recipients
  · simp [acceptedFor, hmem]
  · simp [acceptedFor, hmem]

/-- What was accepted for a subscriber is part of what was accepted. -/
theorem acceptedFor_sublist (history : List (Occurrence σ α)) :
    (acceptedFor subscriber history).Sublist (accepted history) := by
  induction history with
  | nil => exact .slnil
  | cons occurrence history ih =>
    cases occurrence with
    | accepted item recipients =>
      rw [acceptedFor_accepted]
      split
      · exact ih.cons_cons item
      · exact ih.cons item
    | begun | ended => exact ih

/-- What is accepted is outstanding for all its recipients. -/
theorem Inv.accept (hs : Inv s) {recipients : List σ} (h : recipients.Perm s.registered) :
    Inv (s.accept item recipients) := by
  have htold : ∀ other, told other (s.accept item recipients).history = told other s.history :=
    fun _ => rfl
  have haccepted : ∀ other, acceptedFor other (s.accept item recipients).history =
      (if other ∈ recipients then [item] else []) ++ acceptedFor other s.history :=
    fun _ => acceptedFor_accepted _ _
  have houtstanding : ∀ other, (s.accept item recipients).outstanding other =
      s.outstanding other ++ if other ∈ recipients then [item] else [] := by
    intro other
    by_cases hmem : other ∈ recipients
    · simp [outstanding, Delivery.accept, hmem]
    · simp [outstanding, Delivery.accept, hmem]
  refine ⟨hs.alone, hs.registered, fun entry hentry => ?_, hs.handed, fun other hmay => ?_,
    fun other => ?_⟩
  · rcases List.mem_append.1 hentry with hentry | hentry
    · exact hs.queued entry hentry
    · obtain rfl := List.mem_singleton.1 hentry
      exact h.nodup_iff.2 hs.registered
  · rw [htold, haccepted, houtstanding, ← List.append_assoc, hs.complete other hmay,
      List.reverse_append]
    split <;> rfl
  · rw [htold, haccepted]
    exact (hs.inOrder other).trans (List.suffix_append _ _)

theorem Inv.enter (hs : Inv s) : Inv (s.enter thread) := by
  unfold Delivery.enter
  split
  · exact hs
  next hidle =>
    rcases hs.alone with ⟨-, -, hnone, hexecuting⟩ | ⟨_, _, hdraining, -⟩
    · refine ⟨.inr ⟨thread, .taking, rfl, rfl, by rw [hnone], hexecuting⟩, hs.registered,
        hs.queued, ?_, fun other hmay => ?_, hs.inOrder⟩
      · intro loop h
        simp only [hnone, List.mem_singleton] at h
        exact h ▸ .nil
      · rw [← hs.complete other hmay]
        simp [outstanding, Point.outstanding, hnone]
    · exact absurd hdraining hidle

/-- The loop is left when the queue is empty. -/
theorem Inv.leave [DecidableEq α] [DecidableEq τ] (hs : Inv s) (hloop : loop ∈ s.loops)
    (hpoint : loop.2 = .taking) (hqueue : s.queue = []) : Inv
      { s with draining := false, drainThread := none, loops := s.loops.erase loop } := by
  obtain ⟨-, -, hone, hexecuting⟩ := hs.eq_loop hloop
  have hleft : s.loops.erase loop = [] := by simp [hone]
  refine ⟨.inl ⟨rfl, rfl, hleft, ?_⟩, hs.registered, hs.queued, ?_, fun other hmay => ?_,
    hs.inOrder⟩
  · rw [hexecuting, hpoint]
    rfl
  · rw [hleft]
    exact nofun
  · rw [← hs.complete other hmay, outstanding_of_loop _ hone, hpoint, hqueue]
    simp [outstanding, hleft, Point.outstanding]

/-- A step in the loop that calls nobody, and after which the same is outstanding for all who are
active. -/
theorem Inv.step [DecidableEq α] [DecidableEq τ] (hs : Inv s) (hloop : loop ∈ s.loops)
    {queue : List (α × List σ)}
    {executing : List (σ × τ)} {history : List (Occurrence σ α)}
    (hexecuting : executing = point.called.toList.map fun subscriber => (subscriber, loop.1))
    (hqueued : ∀ entry ∈ queue, entry.2.Nodup) (hhanded : point.recipients.Nodup)
    (hcomplete : ∀ subscriber, s.mayCall subscriber = true →
      (told subscriber history).reverse ++ (point.outstanding subscriber ++
        queue.filterMap fun entry => if subscriber ∈ entry.2 then some entry.1 else none) =
      (told subscriber s.history).reverse ++ s.outstanding subscriber)
    (haccepted : ∀ subscriber,
      acceptedFor subscriber history = acceptedFor subscriber s.history)
    (htold : ∀ subscriber, s.mayCall subscriber = false →
      told subscriber history = told subscriber s.history) :
    Inv { s.move loop point with queue := queue, executing := executing, history := history } := by
  obtain ⟨hdraining, hthread, hone, -⟩ := hs.eq_loop hloop
  have hmoved : (s.move loop point).loops = [(loop.1, point)] := move_loops hone
  have hall : ∀ subscriber, s.mayCall subscriber = true →
      (told subscriber history).reverse ++ (point.outstanding subscriber ++
        queue.filterMap fun entry => if subscriber ∈ entry.2 then some entry.1 else none) =
      (acceptedFor subscriber history).reverse := by
    intro subscriber hmay
    rw [hcomplete subscriber hmay, hs.complete subscriber hmay, haccepted]
  refine ⟨.inr ⟨loop.1, point, hdraining, hthread, hmoved, hexecuting⟩, hs.registered, hqueued,
    ?_, fun other hmay => ?_, fun other => ?_⟩
  · intro other hother
    rw [hmoved, List.mem_singleton] at hother
    exact hother ▸ hhanded
  · have houtstanding := outstanding_of_loop other
      (s := { s.move loop point with queue := queue, executing := executing, history := history })
      hmoved
    rw [houtstanding]
    exact hall other hmay
  · cases hmay : s.mayCall other with
    | true =>
      have hreverse := congrArg List.reverse (hall other hmay)
      rw [List.reverse_append, List.reverse_reverse, List.reverse_reverse] at hreverse
      exact hreverse ▸ List.suffix_append _ _
    | false =>
      rw [htold other hmay, haccepted]
      exact hs.inOrder other

/-- A step in the loop. -/
theorem Inv.advance [DecidableEq α] [DecidableEq τ] (hs : Inv s) (hloop : loop ∈ s.loops) :
    Inv (s.advance loop) := by
  obtain ⟨-, -, hone, hexecuting⟩ := hs.eq_loop hloop
  have hhanded := hs.handed loop hloop
  have houtstanding : ∀ subscriber, s.outstanding subscriber = loop.2.outstanding subscriber ++
      s.queue.filterMap fun entry => if subscriber ∈ entry.2 then some entry.1 else none :=
    fun _ => outstanding_of_loop _ hone
  obtain ⟨thread, point⟩ := loop
  unfold Delivery.advance
  cases point with
  | taking =>
    cases hqueue : s.queue with
    | nil =>
      have hleft := hs.leave hloop rfl hqueue
      rw [hqueue] at hleft
      exact hleft
    | cons entry rest =>
      obtain ⟨item, recipients⟩ := entry
      refine hs.step hloop hexecuting (fun entry h => hs.queued entry ?_) ?_ (fun other _ => ?_)
        (fun _ => rfl) (fun _ _ => rfl)
      · exact hqueue ▸ List.mem_cons_of_mem _ h
      · exact hs.queued (item, recipients) (hqueue ▸ List.mem_cons_self)
      · rw [houtstanding, hqueue]
        by_cases hmem : other ∈ recipients
        · simp [Point.outstanding, hmem]
        · simp [Point.outstanding, hmem]
  | handing item recipients =>
    cases recipients with
    | nil =>
      exact hs.step hloop hexecuting hs.queued .nil
        (fun other _ => by simp [houtstanding, Point.outstanding]) (fun _ => rfl) (fun _ _ => rfl)
    | cons subscriber rest =>
      obtain ⟨hfresh, hrest⟩ := List.nodup_cons.1 hhanded
      dsimp only
      split
      next hmay =>
        refine hs.step hloop (by rw [hexecuting]; rfl) hs.queued hrest (fun other _ => ?_)
          (fun _ => rfl) (fun other hnot => ?_)
        · rw [houtstanding]
          by_cases heq : subscriber = other
          · subst heq
            simp [told, Point.outstanding, hfresh]
          · simp [told, Point.outstanding, heq, Ne.symm heq]
        · have hne : subscriber ≠ other := by
            rintro rfl
            simp [hmay] at hnot
          simp [told, hne]
      next hmay =>
        refine hs.step hloop hexecuting hs.queued hrest (fun other hother => ?_)
          (fun _ => rfl) (fun _ _ => rfl)
        have hne : other ≠ subscriber := by
          rintro rfl
          exact hmay hother
        simp [houtstanding, Point.outstanding, hne]
  | calling item subscriber rest =>
    refine hs.step hloop ?_ hs.queued hhanded
      (fun other _ => by simp [houtstanding, Point.outstanding, told]) (fun _ => rfl) (fun _ _ => rfl)
    simp [hexecuting, Point.called]

/-! ## What the steps of the loop leave alone -/

theorem advance_frame [DecidableEq α] [DecidableEq τ] :
    (s.advance loop).registered = s.registered ∧ (s.advance loop).inactive = s.inactive ∧
      (s.advance loop).closed = s.closed := by
  unfold Delivery.advance
  repeat' split
  all_goals exact ⟨rfl, rfl, rfl⟩

@[simp] theorem advance_registered [DecidableEq α] [DecidableEq τ] :
    (s.advance loop).registered = s.registered := advance_frame.1

@[simp] theorem mayCall_advance [DecidableEq α] [DecidableEq τ] :
    (s.advance loop).mayCall subscriber = s.mayCall subscriber := by
  simp [mayCall, advance_frame]

@[simp] theorem acceptedFor_advance [DecidableEq α] [DecidableEq τ] :
    acceptedFor subscriber (s.advance loop).history = acceptedFor subscriber s.history := by
  unfold Delivery.advance
  repeat' split
  all_goals rfl

/-- The loop is left only when the queue is empty. -/
theorem Inv.advance_draining [DecidableEq α] [DecidableEq τ] (hs : Inv s) (hloop : loop ∈ s.loops)
    (hqueue : (s.advance loop).queue ≠ []) : (s.advance loop).draining = true := by
  have hdraining := (hs.eq_loop hloop).1
  unfold Delivery.advance at hqueue ⊢
  split at hqueue
  · split at hqueue
    next hempty => exact absurd hempty hqueue
    next => exact hdraining
  · exact hdraining
  · split <;> exact hdraining
  · exact hdraining

@[simp] theorem accepted_advance [DecidableEq α] [DecidableEq τ] :
    accepted (s.advance loop).history = accepted s.history := by
  unfold Delivery.advance
  repeat' split
  all_goals rfl

omit [DecidableEq σ] in
@[simp] theorem enter_queue : (s.enter thread).queue = s.queue := by
  unfold enter
  split <;> rfl

omit [DecidableEq σ] in
@[simp] theorem enter_registered : (s.enter thread).registered = s.registered := by
  unfold enter
  split <;> rfl

omit [DecidableEq σ] in
@[simp] theorem enter_closed : (s.enter thread).closed = s.closed := by
  unfold enter
  split <;> rfl

omit [DecidableEq σ] in
@[simp] theorem enter_history : (s.enter thread).history = s.history := by
  unfold enter
  split <;> rfl

omit [DecidableEq σ] in
@[simp] theorem enter_draining : (s.enter thread).draining = true := by
  unfold enter
  split
  · assumption
  · rfl

@[simp] theorem mayCall_enter : (s.enter thread).mayCall subscriber = s.mayCall subscriber := by
  unfold enter
  split <;> rfl

@[simp] theorem mayCall_deactivate_self : (s.deactivate subscriber).mayCall subscriber = false := by
  simp [mayCall, deactivate]

theorem mayCall_deactivate (h : s.mayCall subscriber = false) :
    (s.deactivate other).mayCall subscriber = false := by
  simp only [mayCall, Delivery.deactivate, List.contains_cons, Bool.not_or, Bool.and_eq_false_iff]
    at h ⊢
  exact h.imp_left .inr

theorem mayCall_of_closed (h : s.closed = true) : s.mayCall subscriber = false := by
  simp [mayCall, h]

/-- Once it is closed with nothing queued, a thread in the loop only comes to its end. -/
theorem advance_of_closed [DecidableEq α] [DecidableEq τ] (hclosed : s.closed = true)
    (hqueue : s.queue = []) (loop : τ × Point σ α) :
    (s.advance loop).queue = [] ∧
      (∀ subscriber, told subscriber (s.advance loop).history = told subscriber s.history) ∧
      ∀ other ∈ (s.advance loop).loops, other ∈ s.loops ∨ other.1 = loop.1 := by
  have hmoved (point : Point σ α) :
      ∀ other ∈ (s.move loop point).loops, other ∈ s.loops ∨ other.1 = loop.1 := by
    intro other hother
    rcases List.mem_cons.1 hother with rfl | hother
    · exact .inr rfl
    · exact .inl (List.mem_of_mem_erase hother)
  obtain ⟨thread, point⟩ := loop
  cases point with
  | taking =>
    rw [Delivery.advance, hqueue]
    exact ⟨rfl, fun _ => rfl, fun other hother => .inl (List.mem_of_mem_erase hother)⟩
  | handing item rest =>
    cases rest with
    | nil => exact ⟨hqueue, fun _ => rfl, hmoved _⟩
    | cons subscriber rest =>
      have hskipped : s.advance (thread, .handing item (subscriber :: rest)) =
          s.move (thread, .handing item (subscriber :: rest)) (.handing item rest) :=
        if_neg (by simp [mayCall_of_closed hclosed])
      rw [hskipped]
      exact ⟨hqueue, fun _ => rfl, hmoved _⟩
  | calling item subscriber rest => exact ⟨hqueue, fun _ => rfl, hmoved _⟩

theorem mayCall_retireAll (h : s.mayCall subscriber = false) :
    s.retireAll.mayCall subscriber = false := by
  simp only [mayCall, Delivery.retireAll, Bool.and_eq_false_iff, Bool.not_eq_false',
    List.contains_eq_mem, decide_eq_true_eq, List.mem_append] at h ⊢
  exact h.imp_left .inr

/-! ## A subscriber that is quiet stays so -/

/-- The subscriber stays quiet, and is told of nothing more. -/
structure Calm (subscriber : σ) (s t : Delivery σ α τ) : Prop where
  quiet : Quiet subscriber t
  told : told subscriber t.history = told subscriber s.history

theorem Calm.trans {t u : Delivery σ α τ} (h : Calm subscriber s t) (h' : Calm subscriber t u) :
    Calm subscriber s u :=
  ⟨h'.quiet, h'.told.trans h.told⟩

theorem Quiet.refl (h : Quiet subscriber s) : Calm subscriber s s := ⟨h, rfl⟩

theorem Quiet.register (h : Quiet subscriber s) : Calm subscriber s (s.register other) := ⟨h, rfl⟩

theorem Quiet.retire (h : Quiet subscriber s) : Calm subscriber s (s.retire other) := ⟨h, rfl⟩

theorem Quiet.accept (h : Quiet subscriber s) {recipients : List σ} :
    Calm subscriber s (s.accept item recipients) := ⟨h, rfl⟩

theorem Quiet.deactivate (h : Quiet subscriber s) : Calm subscriber s (s.deactivate other) :=
  ⟨⟨mayCall_deactivate h.1, h.2⟩, rfl⟩

theorem Quiet.retireAll (h : Quiet subscriber s) : Calm subscriber s s.retireAll :=
  ⟨⟨mayCall_retireAll h.1, h.2⟩, rfl⟩

theorem Quiet.close (h : Quiet subscriber s) : Calm subscriber s s.close :=
  ⟨⟨by simp [mayCall, Delivery.close], h.2⟩, rfl⟩

theorem Quiet.enter (h : Quiet subscriber s) : Calm subscriber s (s.enter thread) := by
  unfold Delivery.enter
  split
  · exact h.refl
  · exact ⟨h, rfl⟩

theorem Quiet.advance [DecidableEq α] [DecidableEq τ] (h : Quiet subscriber s) :
    Calm subscriber s (s.advance loop) := by
  unfold Delivery.advance
  split
  · split
    · exact ⟨h, rfl⟩
    · exact ⟨h, rfl⟩
  · exact ⟨h, rfl⟩
  next item called rest _ =>
    split
    next hmay =>
      have hne : called ≠ subscriber := by
        rintro rfl
        rw [h.1] at hmay
        cases hmay
      refine ⟨⟨h.1, fun hmem => ?_⟩, ?_⟩
      · rcases List.mem_cons.1 hmem with heq | hmem
        · exact hne heq.symm
        · exact h.2 hmem
      · simp [Delivery.told, hne]
    next => exact ⟨h, rfl⟩
  next item called rest _ =>
    refine ⟨⟨h.1, fun hmem => h.2 ?_⟩, rfl⟩
    obtain ⟨call, hcall, hsubscriber⟩ := List.mem_map.1 hmem
    exact hsubscriber ▸ List.mem_map_of_mem (List.mem_filter.1 hcall).1

end

end Delivery

end PlaybackConnector
