import PlaybackConnector.App.ResourcePressureMonitor
import PlaybackConnector.Transition.History
import PlaybackConnector.Transition.System

/-!
# The permission to preload

`AdaptiveResourceController` (`AdaptiveResourceController.cpp`) with its monitor. The handler of the
monitor stages a fence, the number of the last observation known to constrain the background, and
has the UI thread apply the observation, which evaluates it: the evaluation captures whether
preloading is allowed, calls the picker, whose calls may run other work of the UI thread, and
publishes the status, for which it looks at the fence again.

The history is what happened, the latest first. No code reads it.
-/

namespace PlaybackConnector

namespace AdaptiveResourceController

open ResourcePressureMonitor (Point RunContext)

/-! ## State -/

/-- The status, as far as it follows from the pressure. Source: `ResourceStatusSnapshot`
(`AppModels.hpp:274`). -/
structure ResourceStatus where
  /-- Source: `Evaluated`. -/
  evaluated : Bool := false
  /-- Source: `SnapshotFresh`. -/
  snapshotFresh : Bool := false
  /-- Source: `PositiveAuthorizationCurrent`. -/
  positiveAuthorizationCurrent : Bool := false
  /-- Source: `PreloadAllowed`. -/
  preloadAllowed : Bool := false
  /-- Source: `Memory`. -/
  memory : MemoryPressureState := .unknown
  /-- Source: `Activity`. -/
  activity : UserActivityState := .unknown
  /-- Source: `EnergySaver`. -/
  energySaver : Option Bool := none
deriving Repr, DecidableEq

/-- An evaluation that has not returned. Source: the locals of `Evaluate`
(`AdaptiveResourceController.cpp:169`). -/
structure Evaluation where
  /-- Source: `snapshotFresh`. -/
  snapshotFresh : Bool
  /-- Source: `pressureValues`. -/
  pressureValues : ResourcePressureValues
  /-- Source: `input.PreloadAllowed`. -/
  preloadAllowed : Bool
  /-- The number of the observation that is evaluated. No code reads it. -/
  sequence : Nat
deriving Repr, DecidableEq

/-- What happened. -/
inductive Occurrence
  /-- A probe was not dropped, and may have brought a snapshot. -/
  | accepted (epoch ticket : Nat) (snapshot : Option ResourcePressureSnapshot)
  /-- The handler made a constraint known to the controller. -/
  | staged (snapshot : ResourcePressureSnapshot)
  /-- The UI thread applied an observation. -/
  | applied (snapshot : ResourcePressureSnapshot)
  /-- An evaluation of the observation with this number captured that preloading is allowed. -/
  | authorized (sequence : Nat)
  /-- It published that, when the last observation that was applied had the second number. -/
  | published (sequence applied : Nat)
deriving Repr, DecidableEq

/-- Source: the data members (`AdaptiveResourceController.hpp:53`). -/
structure State where
  /-- Source: `m_monitor`. -/
  monitor : ResourcePressureMonitor.State := {}
  /-- Source: `m_stopped`. -/
  stopped : Bool := false
  /-- Source: `m_pressure`. -/
  pressure : ResourcePressureValues := {}
  /-- Source: `m_snapshot`. -/
  snapshot : ResourceStatus := {}
  /-- Source: `m_lastObservedAt`. -/
  lastObservedAt : Option TimePoint := none
  /-- Source: `m_lastSequence`. -/
  lastSequence : Nat := 0
  /-- Source: `m_lastConstrainedSequence`. -/
  lastConstrainedSequence : Nat := 0
  /-- The observations whose work the UI thread was given and has not run. -/
  dispatched : List ResourcePressureSnapshot := []
  /-- The evaluations in progress, the innermost first. -/
  evaluations : List Evaluation := []
  /-- What happened. No code reads it. -/
  history : List Occurrence := []

/-! ## The handler -/

/-- The handler's critical section. Source: `Start` (`AdaptiveResourceController.cpp:126`). -/
def stage (snapshot : ResourcePressureSnapshot) (s : State) : State :=
  if snapshot.values.isBackgroundConstrained then
    { s with
      lastConstrainedSequence := max s.lastConstrainedSequence snapshot.sequence
      history := .staged snapshot :: s.history }
  else s

/-- The delivering thread of a context makes its next step: a round of the loop, or a step of the
handler, whose dispatch may fail. Source: `Start` (`AdaptiveResourceController.cpp:124`) and
`OnPressureChanged` (`AdaptiveResourceController.cpp:156`). -/
def deliver (epoch : Nat) (isPosted : Bool) (s : State) : State :=
  match (s.monitor.contexts epoch).delivery with
  | none => s
  | some .loop => { s with monitor := ResourcePressureMonitor.takeSnapshot epoch s.monitor }
  | some (.called snapshot) =>
    { s with
      monitor := ResourcePressureMonitor.moveTo epoch
        (if s.stopped then .loop else .admitted snapshot) s.monitor }
  | some (.admitted snapshot) =>
    stage snapshot
      { s with monitor := ResourcePressureMonitor.moveTo epoch (.fenced snapshot) s.monitor }
  | some (.fenced snapshot) =>
    { s with
      monitor := ResourcePressureMonitor.moveTo epoch .loop s.monitor
      dispatched := if isPosted then s.dispatched ++ [snapshot] else s.dispatched }

/-! ## Evaluation -/

/-- Source: `c_resourcePressureSnapshotMaximumAge` (`AdaptiveResourceController.cpp:15`). -/
def resourcePressureSnapshotMaximumAge : Int := 75000

/-- The authorization is current. -/
def isAuthorizationCurrent (s : State) : Bool :=
  isPositiveResourceAuthorizationCurrent s.lastSequence s.lastConstrainedSequence

/-- What an evaluation captures. Source: `Evaluate` (`AdaptiveResourceController.cpp:178`). -/
def capture (now : TimePoint) (s : State) : Evaluation :=
  let snapshotFresh :=
    isResourcePressureSnapshotFresh s.lastObservedAt now resourcePressureSnapshotMaximumAge
  let pressureValues := if snapshotFresh then s.pressure else {}
  { snapshotFresh := snapshotFresh
    pressureValues := pressureValues
    preloadAllowed := snapshotFresh && isAuthorizationCurrent s && pressureValues.canPreload
    sequence := s.lastSequence }

/-- An evaluation begins, if the tray and the window are there. Source: `Evaluate`
(`AdaptiveResourceController.cpp:169`). -/
def evaluate (isReady : Bool) (now : TimePoint) (s : State) : State :=
  if s.stopped || !isReady then s
  else
    let evaluation := capture now s
    { s with
      evaluations := evaluation :: s.evaluations
      history := if evaluation.preloadAllowed then .authorized s.lastSequence :: s.history
        else s.history }

/-- The UI thread runs the work of an observation. Source: `OnPressureChanged`
(`AdaptiveResourceController.cpp:158`). -/
def runDispatched (snapshot : ResourcePressureSnapshot) (isReady : Bool) (now : TimePoint)
    (s : State) : State :=
  let s := { s with dispatched := s.dispatched.erase snapshot }
  if s.stopped || decide (snapshot.sequence ≤ s.lastSequence) then s
  else
    evaluate isReady now { s with
      lastSequence := snapshot.sequence
      pressure := snapshot.values
      lastObservedAt := some snapshot.observedAt
      history := .applied snapshot :: s.history }

/-- The status that an evaluation publishes. Source: `Evaluate`
(`AdaptiveResourceController.cpp:240`). -/
def status (evaluation : Evaluation) (s : State) : ResourceStatus where
  evaluated := true
  snapshotFresh := evaluation.snapshotFresh
  positiveAuthorizationCurrent := isAuthorizationCurrent s
  preloadAllowed := evaluation.preloadAllowed && isAuthorizationCurrent s
  memory := evaluation.pressureValues.memory
  activity := evaluation.pressureValues.userActivity
  energySaver := evaluation.pressureValues.energySaver

/-- The innermost evaluation ends without an exception. Source: `Evaluate`
(`AdaptiveResourceController.cpp:224`). -/
def publish (s : State) : State :=
  match s.evaluations with
  | [] => s
  | evaluation :: outer =>
    let s := { s with evaluations := outer }
    if s.stopped then s
    else
      { s with
        snapshot := status evaluation s
        history := if (status evaluation s).preloadAllowed then
            .published evaluation.sequence s.lastSequence :: s.history
          else s.history }

/-! ## Runs -/

/-- What happens. -/
inductive Event
  /-- The monitor starts a context. -/
  | start
  /-- The monitor is stopped: there is no current context. -/
  | stopMonitor
  /-- A context that is stopped does not run any more. -/
  | shutdown (epoch : Nat)
  /-- A timer or a notification calls back. -/
  | enterProbe (epoch : Nat)
  | takeTicket (epoch : Nat)
  | finishProbe (epoch ticket : Nat) (probe : ResourcePressureProbe) (observedAt : TimePoint)
  | deliver (epoch : Nat) (isPosted : Bool)
  | runDispatched (snapshot : ResourcePressureSnapshot) (isReady : Bool) (now : TimePoint)
  /-- A timer or the tray asks for an evaluation. -/
  | evaluate (isReady : Bool) (now : TimePoint)
  | publish
  /-- The innermost evaluation ends with an exception. -/
  | abandon
  /-- Source: `Stop` (`AdaptiveResourceController.cpp:62`). -/
  | stop
deriving Repr, DecidableEq

/-- A probe has measured, which is noted. -/
def finishProbe (epoch ticket : Nat) (probe : ResourcePressureProbe) (observedAt : TimePoint)
    (s : State) : State :=
  { s with
    monitor := ResourcePressureMonitor.finishProbe epoch ticket probe observedAt s.monitor
    history := if ResourcePressureMonitor.isDropped epoch ticket s.monitor then s.history
      else .accepted epoch ticket
        (ResourcePressureMonitor.finished epoch probe observedAt s.monitor) :: s.history }

/-- The event can happen. -/
def Enabled (s : State) : Event → Prop
  | .takeTicket epoch => 0 < (s.monitor.contexts epoch).admitted
  | .finishProbe epoch ticket _ _ => ticket ∈ (s.monitor.contexts epoch).probing
  | .deliver epoch _ => (s.monitor.contexts epoch).delivery ≠ none
  | .runDispatched snapshot _ _ => snapshot ∈ s.dispatched
  | .publish | .abandon => s.evaluations ≠ []
  | .start | .stopMonitor | .shutdown _ | .enterProbe _ | .evaluate _ _ | .stop => True

instance (s : State) (e : Event) : Decidable (Enabled s e) := by
  cases e <;> unfold Enabled <;> infer_instance

/-- The state after an event. -/
def step (s : State) : Event → State
  | .start => { s with monitor := ResourcePressureMonitor.start s.monitor }
  | .stopMonitor => { s with monitor := ResourcePressureMonitor.stop s.monitor }
  | .shutdown epoch => { s with monitor := ResourcePressureMonitor.shutdown epoch s.monitor }
  | .enterProbe epoch => { s with monitor := ResourcePressureMonitor.enterProbe epoch s.monitor }
  | .takeTicket epoch => { s with monitor := ResourcePressureMonitor.takeTicket epoch s.monitor }
  | .finishProbe epoch ticket probe observedAt => finishProbe epoch ticket probe observedAt s
  | .deliver epoch isPosted => deliver epoch isPosted s
  | .runDispatched snapshot isReady now => runDispatched snapshot isReady now s
  | .evaluate isReady now => evaluate isReady now s
  | .publish => publish s
  | .abandon => { s with evaluations := s.evaluations.tail }
  | .stop => { s with stopped := true }

end AdaptiveResourceController

/-- The controller and its monitor. -/
def adaptiveResourceController :
    EventSystem AdaptiveResourceController.State AdaptiveResourceController.Event where
  enabled := AdaptiveResourceController.Enabled
  step := AdaptiveResourceController.step

instance (s : AdaptiveResourceController.State) (e : AdaptiveResourceController.Event) :
    Decidable (adaptiveResourceController.enabled s e) :=
  inferInstanceAs (Decidable (AdaptiveResourceController.Enabled s e))

namespace AdaptiveResourceController

open ResourcePressureMonitor (Point RunContext)

variable {s t : State} {history : List Occurrence} {snapshot : ResourcePressureSnapshot}
  {monitor : ResourcePressureMonitor.State}

/-! ## What is kept -/

/-- A snapshot that a probe brought. -/
def Accepted (snapshot : ResourcePressureSnapshot) (history : List Occurrence) : Prop :=
  ∃ epoch ticket, .accepted epoch ticket (some snapshot) ∈ history

/-- What every occurrence comes with. A probe that is not dropped is later than all before it, and
so is the number of its snapshot. An observation that is applied was accepted, and is newer than
those applied before. Preloading is authorized for an observation that was applied and allows it,
and no constraint that had been staged is newer. What is published was authorized, and if no
observation was applied since then, no constraint that has been staged is newer. -/
def Fenced : Occurrence → List Occurrence → Prop
  | .accepted epoch ticket snapshot, earlier =>
    ∀ epoch' ticket' snapshot', .accepted epoch' ticket' snapshot' ∈ earlier →
      (epoch' < epoch ∨ epoch' = epoch ∧ ticket' < ticket) ∧
        ∀ older ∈ snapshot', ∀ newer ∈ snapshot, older.sequence < newer.sequence
  | .staged snapshot, earlier =>
    snapshot.values.isBackgroundConstrained = true ∧ Accepted snapshot earlier
  | .applied snapshot, earlier => Accepted snapshot earlier ∧
    ∀ older, .applied older ∈ earlier → older.sequence < snapshot.sequence
  | .authorized sequence, earlier =>
    (∃ snapshot, .applied snapshot ∈ earlier ∧ snapshot.sequence = sequence ∧
      snapshot.values.canPreload = true) ∧
    ∀ snapshot, .staged snapshot ∈ earlier → snapshot.sequence ≤ sequence
  | .published sequence applied, earlier => .authorized sequence ∈ earlier ∧
    (applied = sequence → ∀ snapshot, .staged snapshot ∈ earlier → snapshot.sequence ≤ sequence)

/-- How the state goes with what happened. -/
structure Inv (s : State) : Prop where
  fenced : Throughout Fenced s.history
  /-- The monitor goes on from the last probe that it accepted. -/
  accepted : ∀ epoch ticket snapshot, .accepted epoch ticket snapshot ∈ s.history →
    epoch ≤ s.monitor.epoch ∧ ticket ≤ (s.monitor.contexts epoch).lastAppliedProbeTicket ∧
      ∀ older ∈ snapshot, older.sequence ≤ s.monitor.sequence
  /-- What is under way was accepted. -/
  undelivered : ∀ epoch, ∀ snapshot ∈ (s.monitor.contexts epoch).undelivered,
    Accepted snapshot s.history
  dispatched : ∀ snapshot ∈ s.dispatched, Accepted snapshot s.history
  /-- The fence is where the last constraint is that was staged. -/
  staged : ∀ snapshot, .staged snapshot ∈ s.history →
    snapshot.sequence ≤ s.lastConstrainedSequence
  /-- The controller goes on from the last observation that it applied. -/
  applied : ∀ snapshot, .applied snapshot ∈ s.history → snapshot.sequence ≤ s.lastSequence
  current : s.lastObservedAt.isSome = true → ∃ snapshot, .applied snapshot ∈ s.history ∧
    snapshot.sequence = s.lastSequence ∧ snapshot.values = s.pressure
  /-- What an evaluation has captured was noted. -/
  evaluations : ∀ evaluation ∈ s.evaluations, evaluation.preloadAllowed = true →
    .authorized evaluation.sequence ∈ s.history

theorem Inv.initial : Inv {} where
  fenced := throughout_nil
  accepted _ _ _ h := by cases h
  undelivered _ _ h := by cases h
  dispatched _ h := by cases h
  staged _ h := by cases h
  applied _ h := by cases h
  current h := by cases h
  evaluations _ h := by cases h

theorem Accepted.cons (h : Accepted snapshot history) (occurrence : Occurrence) :
    Accepted snapshot (occurrence :: history) := by
  obtain ⟨epoch, ticket, hmem⟩ := h
  exact ⟨epoch, ticket, List.mem_cons_of_mem _ hmem⟩

/-! ## The monitor -/

/-- The monitor has gone on without accepting anything. -/
structure Later (before after : ResourcePressureMonitor.State) : Prop where
  epoch : before.epoch ≤ after.epoch
  sequence : before.sequence = after.sequence
  tickets : ∀ epoch ≤ before.epoch, (before.contexts epoch).lastAppliedProbeTicket =
    (after.contexts epoch).lastAppliedProbeTicket
  undelivered : ∀ epoch, (after.contexts epoch).undelivered ⊆ (before.contexts epoch).undelivered

theorem Inv.later (h : Inv s) (hlater : Later s.monitor monitor) :
    Inv { s with monitor := monitor } where
  fenced := h.fenced
  accepted epoch ticket snapshot hmem := by
    obtain ⟨hepoch, hticket, hsequence⟩ := h.accepted epoch ticket snapshot hmem
    refine ⟨Nat.le_trans hepoch hlater.epoch, ?_, fun older holder => ?_⟩
    · rw [← hlater.tickets epoch hepoch]
      exact hticket
    · rw [← hlater.sequence]
      exact hsequence older holder
  undelivered epoch snapshot hmem := h.undelivered epoch snapshot (hlater.undelivered epoch hmem)
  dispatched := h.dispatched
  staged := h.staged
  applied := h.applied
  current := h.current
  evaluations := h.evaluations

/-- A context goes on with its last ticket, and with no more than what it had to deliver. -/
theorem later_setContext (s : ResourcePressureMonitor.State) (epoch : Nat) {context : RunContext}
    (hticket : (s.contexts epoch).lastAppliedProbeTicket = context.lastAppliedProbeTicket)
    (hundelivered : context.undelivered ⊆ (s.contexts epoch).undelivered) :
    Later s (s.setContext epoch context) where
  epoch := Nat.le_refl _
  sequence := rfl
  tickets other _ := by
    by_cases heq : other = epoch
    · rw [heq, s.contexts_setContext]
      exact hticket
    · rw [s.contexts_setContext_of_ne heq]
  undelivered other := by
    by_cases heq : other = epoch
    · rw [heq, s.contexts_setContext]
      exact hundelivered
    · rw [s.contexts_setContext_of_ne heq]
      exact List.Subset.refl _

section
open ResourcePressureMonitor

theorem later_start (s : ResourcePressureMonitor.State) : Later s (start s) where
  epoch := Nat.le_succ _
  sequence := rfl
  tickets other hother := by
    have hne : other ≠ s.epoch + 1 := by omega
    rw [start, ResourcePressureMonitor.State.contexts_setContext_of_ne _ hne]
  undelivered other := by
    by_cases heq : other = s.epoch + 1
    · rw [heq, start, ResourcePressureMonitor.State.contexts_setContext]
      exact List.nil_subset _
    · rw [start, ResourcePressureMonitor.State.contexts_setContext_of_ne _ heq]
      exact List.Subset.refl _

theorem later_stop (s : ResourcePressureMonitor.State) :
    Later s (ResourcePressureMonitor.stop s) where
  epoch := Nat.le_succ _
  sequence := rfl
  tickets _ _ := rfl
  undelivered _ := List.Subset.refl _

theorem later_shutdown (epoch : Nat) (s : ResourcePressureMonitor.State) :
    Later s (shutdown epoch s) :=
  later_setContext s epoch rfl (List.Subset.refl _)

theorem Later.refl (s : ResourcePressureMonitor.State) : Later s s where
  epoch := Nat.le_refl _
  sequence := rfl
  tickets _ _ := rfl
  undelivered _ := List.Subset.refl _

theorem later_enterProbe (epoch : Nat) (s : ResourcePressureMonitor.State) :
    Later s (enterProbe epoch s) := by
  rw [enterProbe]
  split
  · exact later_setContext s epoch rfl (List.Subset.refl _)
  · exact Later.refl s

theorem later_takeTicket (epoch : Nat) (s : ResourcePressureMonitor.State) :
    Later s (takeTicket epoch s) :=
  later_setContext s epoch rfl (List.Subset.refl _)

theorem later_takeSnapshot {epoch : Nat} {s : ResourcePressureMonitor.State}
    (h : (s.contexts epoch).delivery = some .loop) : Later s (takeSnapshot epoch s) := by
  have hpending : (s.contexts epoch).undelivered = (s.contexts epoch).pendingSnapshots := by
    rw [RunContext.undelivered, h]
    rfl
  rw [takeSnapshot]
  split
  · next snapshot rest hsplit =>
    split
    · refine later_setContext s epoch rfl ?_
      rw [hpending, hsplit]
      exact List.Subset.refl _
    · exact later_setContext s epoch rfl (List.nil_subset _)
  · next hsplit =>
    refine later_setContext s epoch rfl ?_
    rw [hpending]
    exact List.Subset.refl _

theorem later_moveTo {epoch : Nat} {s : ResourcePressureMonitor.State} {point target : Point}
    (h : (s.contexts epoch).delivery = some point) (htarget : target.snapshots ⊆ point.snapshots) :
    Later s (moveTo epoch target s) := by
  refine later_setContext s epoch rfl ?_
  rw [RunContext.undelivered, RunContext.undelivered, h]
  exact List.append_subset.2 ⟨fun _ hmem => List.mem_append_left _ (htarget hmem),
    fun _ hmem => List.mem_append_right _ hmem⟩

/-- The monitor has accepted a probe, and what it brought. -/
structure Accepts (epoch ticket : Nat) (snapshot : Option ResourcePressureSnapshot)
    (before after : ResourcePressureMonitor.State) : Prop where
  epoch_eq : after.epoch = before.epoch
  sequence : before.sequence ≤ after.sequence
  ticket_eq : (after.contexts epoch).lastAppliedProbeTicket = ticket
  others : ∀ other ≠ epoch, after.contexts other = before.contexts other
  undelivered : (after.contexts epoch).undelivered ⊆
    (before.contexts epoch).undelivered ++ snapshot.toList
  newer : ∀ newer ∈ snapshot, before.sequence < newer.sequence ∧ newer.sequence ≤ after.sequence

theorem undelivered_enqueue (snapshot : ResourcePressureSnapshot) (context : RunContext) :
    (enqueue snapshot context).undelivered ⊆ context.undelivered ++ [snapshot] := by
  rw [RunContext.undelivered, RunContext.undelivered, enqueue, ← List.append_assoc]
  dsimp only
  split
  · exact List.Subset.refl _
  · intro other hmem
    rw [List.append_assoc]
    exact List.mem_append_right _ hmem

theorem accepts_finishProbe {epoch ticket : Nat} {s : ResourcePressureMonitor.State}
    (probe : ResourcePressureProbe) (observedAt : TimePoint)
    (h : isDropped epoch ticket s = false) :
    Accepts epoch ticket (finished epoch probe observedAt s) s
      (ResourcePressureMonitor.finishProbe epoch ticket probe observedAt s) := by
  have hnumber : ∀ newer ∈ finished epoch probe observedAt s, newer.sequence = s.sequence + 1 := by
    intro newer hnewer
    simp only [finished, acceptedSnapshot] at hnewer
    split at hnewer
    · cases hnewer
      rfl
    · cases hnewer
  rw [ResourcePressureMonitor.finishProbe]
  simp only [h, Bool.false_eq_true, if_false]
  split
  · next hnone =>
    rw [hnone]
    refine ⟨rfl, Nat.le_refl _, ?_, fun other hother => ?_, ?_, fun _ hmem => by cases hmem⟩
    · rw [ResourcePressureMonitor.State.contexts_setContext]
    · exact ResourcePressureMonitor.State.contexts_setContext_of_ne _ hother _
    · rw [ResourcePressureMonitor.State.contexts_setContext, Option.toList_none, List.append_nil]
      exact List.Subset.refl _
  · next snapshot hsome =>
    rw [hsome]
    refine ⟨rfl, Nat.le_succ _, ?_, fun other hother => ?_, ?_, fun newer hmem => ?_⟩
    · rw [ResourcePressureMonitor.State.contexts_setContext]
      rfl
    · exact ResourcePressureMonitor.State.contexts_setContext_of_ne _ hother _
    · rw [ResourcePressureMonitor.State.contexts_setContext]
      exact undelivered_enqueue snapshot _
    · rw [hnumber newer (hsome ▸ hmem)]
      exact ⟨Nat.lt_succ_self _, Nat.le_refl _⟩

theorem later_finishProbe {epoch ticket : Nat} {s : ResourcePressureMonitor.State}
    (probe : ResourcePressureProbe) (observedAt : TimePoint) (h : isDropped epoch ticket s = true) :
    Later s (ResourcePressureMonitor.finishProbe epoch ticket probe observedAt s) := by
  rw [ResourcePressureMonitor.finishProbe]
  simp only [h, if_true]
  exact later_setContext s epoch rfl (List.Subset.refl _)

/-- The probe that is not dropped is one of the current context, and later than the last one. -/
theorem current_of_not_dropped {epoch ticket : Nat} {s : ResourcePressureMonitor.State}
    (h : isDropped epoch ticket s = false) :
    epoch = s.epoch ∧ (s.contexts epoch).lastAppliedProbeTicket < ticket := by
  simp only [isDropped, ResourcePressureMonitor.State.isCurrent, Bool.or_eq_false_iff,
    Bool.not_eq_false', Bool.and_eq_true, beq_iff_eq, decide_eq_false_iff_not, Nat.not_le] at h
  exact ⟨h.1.2.symm, h.2⟩

/-! ## Steps -/

theorem Inv.finishProbe (h : Inv s) (epoch ticket : Nat) (probe : ResourcePressureProbe)
    (observedAt : TimePoint) :
    Inv (AdaptiveResourceController.finishProbe epoch ticket probe observedAt s) := by
  cases hdropped : isDropped epoch ticket s.monitor with
  | true =>
    rw [AdaptiveResourceController.finishProbe, if_pos hdropped]
    exact h.later (later_finishProbe probe observedAt hdropped)
  | false =>
    have haccepts := accepts_finishProbe probe observedAt hdropped
    obtain ⟨hepoch, hticket⟩ := current_of_not_dropped hdropped
    rw [AdaptiveResourceController.finishProbe, if_neg (Bool.eq_false_iff.1 hdropped)]
    generalize finished epoch probe observedAt s.monitor = brought at haccepts
    refine {
      fenced := ⟨fun epoch' ticket' snapshot' hmem => ?_, h.fenced⟩
      accepted := fun epoch' ticket' snapshot' hmem => ?_
      undelivered := fun other snapshot hmem => ?_
      dispatched := fun snapshot hmem => (h.dispatched snapshot hmem).cons _
      staged := fun snapshot hmem => ?_
      applied := fun snapshot hmem => ?_
      current := fun hsome => ?_
      evaluations := fun evaluation hmem hallowed => ?_ }
    · -- the probe is later than all before it
      obtain ⟨hle, happlied, hsequence⟩ := h.accepted epoch' ticket' snapshot' hmem
      refine ⟨?_, fun older holder newer hnewer => ?_⟩
      · obtain hlt | heq := Nat.lt_or_eq_of_le hle
        · exact .inl (hepoch ▸ hlt)
        · subst heq
          exact .inr ⟨hepoch.symm, Nat.lt_of_le_of_lt (hepoch ▸ happlied) hticket⟩
      · exact Nat.lt_of_le_of_lt (hsequence older holder) (haccepts.newer newer hnewer).1
    · obtain heq | hmem := List.mem_cons.1 hmem
      · cases heq
        rw [haccepts.epoch_eq, haccepts.ticket_eq]
        exact ⟨Nat.le_of_eq hepoch, Nat.le_refl _, fun newer hnewer =>
          (haccepts.newer newer hnewer).2⟩
      · obtain ⟨hle, happlied, hsequence⟩ := h.accepted epoch' ticket' snapshot' hmem
        refine ⟨haccepts.epoch_eq ▸ hle, ?_, fun older holder =>
          Nat.le_trans (hsequence older holder) haccepts.sequence⟩
        by_cases heq : epoch' = epoch
        · subst heq
          rw [haccepts.ticket_eq]
          exact Nat.le_of_lt (Nat.lt_of_le_of_lt happlied hticket)
        · rw [haccepts.others epoch' heq]
          exact happlied
    · by_cases heq : other = epoch
      · subst heq
        obtain hold | hnew := List.mem_append.1 (haccepts.undelivered hmem)
        · exact (h.undelivered other snapshot hold).cons _
        · cases Option.mem_toList.1 hnew
          exact ⟨other, ticket, List.mem_cons_self⟩
      · rw [haccepts.others other heq] at hmem
        exact (h.undelivered other snapshot hmem).cons _
    · exact h.staged snapshot ((List.mem_cons.1 hmem).resolve_left nofun)
    · exact h.applied snapshot ((List.mem_cons.1 hmem).resolve_left nofun)
    · obtain ⟨snapshot, hmem, hlast⟩ := h.current hsome
      exact ⟨snapshot, List.mem_cons_of_mem _ hmem, hlast⟩
    · exact List.mem_cons_of_mem _ (h.evaluations evaluation hmem hallowed)

/-- An occurrence that the fence allows is noted, if neither the monitor nor the UI thread goes on
with it. -/
theorem Inv.note (h : Inv s) {occurrence : Occurrence} (hfenced : Fenced occurrence s.history)
    (haccepted : ∀ epoch ticket brought, occurrence ≠ .accepted epoch ticket brought)
    (happlied : ∀ brought, occurrence ≠ .applied brought)
    (hstaged : ∀ brought, occurrence = .staged brought →
      brought.sequence ≤ s.lastConstrainedSequence) :
    Inv { s with history := occurrence :: s.history } where
  fenced := ⟨hfenced, h.fenced⟩
  accepted epoch ticket brought hmem := h.accepted epoch ticket brought
    ((List.mem_cons.1 hmem).resolve_left fun heq => haccepted epoch ticket brought heq.symm)
  undelivered epoch other hmem := (h.undelivered epoch other hmem).cons _
  dispatched other hmem := (h.dispatched other hmem).cons _
  staged other hmem := by
    obtain heq | hmem := List.mem_cons.1 hmem
    · exact hstaged other heq.symm
    · exact h.staged other hmem
  applied other hmem := h.applied other
    ((List.mem_cons.1 hmem).resolve_left fun heq => happlied other heq.symm)
  current hsome := by
    obtain ⟨last, hmem, hlast⟩ := h.current hsome
    exact ⟨last, List.mem_cons_of_mem _ hmem, hlast⟩
  evaluations evaluation hmem hallowed :=
    List.mem_cons_of_mem _ (h.evaluations evaluation hmem hallowed)

theorem Inv.stage (h : Inv s) (haccepted : Accepted snapshot s.history) :
    Inv (stage snapshot s) := by
  rw [AdaptiveResourceController.stage]
  split
  · next hconstrained =>
    have hraised : Inv { s with
        lastConstrainedSequence := max s.lastConstrainedSequence snapshot.sequence } :=
      { h with
        staged := fun other hmem => Nat.le_trans (h.staged other hmem) (Nat.le_max_left ..) }
    refine hraised.note ⟨hconstrained, haccepted⟩ nofun nofun fun brought heq => ?_
    cases heq
    exact Nat.le_max_right ..
  · exact h

theorem Inv.deliver (h : Inv s) (epoch : Nat) (isPosted : Bool) :
    Inv (deliver epoch isPosted s) := by
  -- the snapshot that the thread holds is under way
  have hheld {point : Point} {held : ResourcePressureSnapshot}
      (hpoint : (s.monitor.contexts epoch).delivery = some point)
      (hmem : held ∈ point.snapshots) : Accepted held s.history := by
    refine h.undelivered epoch held ?_
    rw [RunContext.undelivered, hpoint]
    exact List.mem_append_left _ hmem
  rw [AdaptiveResourceController.deliver]
  split
  · exact h
  · next hpoint => exact h.later (later_takeSnapshot hpoint)
  · next snapshot hpoint =>
    refine h.later (later_moveTo hpoint ?_)
    split
    · exact List.nil_subset _
    · exact List.Subset.refl _
  · next snapshot hpoint =>
    have hmoved : Inv { s with monitor := moveTo epoch (.fenced snapshot) s.monitor } :=
      h.later (later_moveTo hpoint (List.Subset.refl _))
    exact hmoved.stage (hheld hpoint List.mem_cons_self)
  · next snapshot hpoint =>
    have hmoved : Inv { s with monitor := moveTo epoch .loop s.monitor } :=
      h.later (later_moveTo hpoint (List.nil_subset _))
    refine { hmoved with dispatched := fun other hmem => ?_ }
    split at hmem
    · obtain hold | hnew := List.mem_append.1 hmem
      · exact h.dispatched other hold
      · exact hheld hpoint hnew
    · exact h.dispatched other hmem

/-- What an evaluation is allowed: the last observation that was applied allows it, and no
constraint that was staged is newer. -/
theorem Inv.of_preloadAllowed (h : Inv s) {now : TimePoint}
    (hallowed : (capture now s).preloadAllowed = true) :
    Fenced (.authorized s.lastSequence) s.history := by
  simp only [capture, Bool.and_eq_true] at hallowed
  obtain ⟨⟨hfresh, hcurrent⟩, hcan⟩ := hallowed
  have hsome : s.lastObservedAt.isSome = true := by
    cases hobserved : s.lastObservedAt with
    | none =>
      rw [hobserved] at hfresh
      cases hfresh
    | some => rfl
  obtain ⟨snapshot, hmem, hsequence, hvalues⟩ := h.current hsome
  rw [if_pos hfresh, ← hvalues] at hcan
  refine ⟨⟨snapshot, hmem, hsequence, hcan⟩, fun other hother => ?_⟩
  exact Nat.le_trans (h.staged other hother) (of_decide_eq_true hcurrent)

theorem Inv.evaluate (h : Inv s) (isReady : Bool) (now : TimePoint) :
    Inv (evaluate isReady now s) := by
  rw [AdaptiveResourceController.evaluate]
  split
  · exact h
  · cases hallowed : (capture now s).preloadAllowed with
    | false =>
      simp only [hallowed, Bool.false_eq_true, if_false]
      refine { h with evaluations := fun evaluation hmem hpreload => ?_ }
      obtain rfl | hmem := List.mem_cons.1 hmem
      · rw [hallowed] at hpreload
        cases hpreload
      · exact h.evaluations evaluation hmem hpreload
    | true =>
      simp only [hallowed, if_true]
      have hnoted := h.note (h.of_preloadAllowed hallowed) nofun nofun nofun
      refine { hnoted with evaluations := fun evaluation hmem hpreload => ?_ }
      obtain rfl | hmem := List.mem_cons.1 hmem
      · exact List.mem_cons_self
      · exact hnoted.evaluations evaluation hmem hpreload

theorem Inv.runDispatched (h : Inv s) (hmem : snapshot ∈ s.dispatched) (isReady : Bool)
    (now : TimePoint) : Inv (runDispatched snapshot isReady now s) := by
  have haccepted := h.dispatched snapshot hmem
  have hrest : ∀ other ∈ s.dispatched.erase snapshot, Accepted other s.history :=
    fun other hother => h.dispatched other (List.mem_of_mem_erase hother)
  rw [AdaptiveResourceController.runDispatched]
  dsimp only
  split
  · exact { h with dispatched := hrest }
  · next hgoes =>
    rw [Bool.or_eq_true, not_or, decide_eq_true_iff, Nat.not_le] at hgoes
    have hlt := hgoes.2
    refine Inv.evaluate ?_ isReady now
    exact {
      fenced := ⟨⟨haccepted, fun older holder =>
        Nat.lt_of_le_of_lt (h.applied older holder) hlt⟩, h.fenced⟩
      accepted := fun epoch ticket brought hmem =>
        h.accepted epoch ticket brought ((List.mem_cons.1 hmem).resolve_left nofun)
      undelivered := fun epoch other hmem => (h.undelivered epoch other hmem).cons _
      dispatched := fun other hmem => (hrest other hmem).cons _
      staged := fun other hmem => h.staged other ((List.mem_cons.1 hmem).resolve_left nofun)
      applied := fun other hmem => by
        obtain heq | hmem := List.mem_cons.1 hmem
        · cases heq
          exact Nat.le_refl _
        · exact Nat.le_of_lt (Nat.lt_of_le_of_lt (h.applied other hmem) hlt)
      current := fun _ => ⟨snapshot, List.mem_cons_self, rfl, rfl⟩
      evaluations := fun evaluation hmem hallowed =>
        List.mem_cons_of_mem _ (h.evaluations evaluation hmem hallowed) }

theorem Inv.abandon (h : Inv s) : Inv { s with evaluations := s.evaluations.tail } :=
  { h with
    evaluations := fun evaluation hmem =>
      h.evaluations evaluation (List.mem_of_mem_tail hmem) }

theorem Inv.publish (h : Inv s) : Inv (publish s) := by
  rw [AdaptiveResourceController.publish]
  split
  · exact h
  · next evaluation outer hsplit =>
    have hinner := h.evaluations evaluation (hsplit ▸ List.mem_cons_self)
    have houter : ∀ other ∈ outer, other.preloadAllowed = true →
        .authorized other.sequence ∈ s.history :=
      fun other hmem => h.evaluations other (hsplit ▸ List.mem_cons_of_mem _ hmem)
    dsimp only
    split
    · exact { h with evaluations := houter }
    · split
      · next hallowed =>
        rw [status, Bool.and_eq_true] at hallowed
        have hcurrent : s.lastConstrainedSequence ≤ s.lastSequence :=
          of_decide_eq_true hallowed.2
        have hfenced : Fenced (.published evaluation.sequence s.lastSequence) s.history :=
          ⟨hinner hallowed.1, fun heq other hmem =>
            heq ▸ Nat.le_trans (h.staged other hmem) hcurrent⟩
        have hnoted := h.note hfenced nofun nofun nofun
        exact { hnoted with
          evaluations := fun other hmem hpreload =>
            List.mem_cons_of_mem _ (houter other hmem hpreload) }
      · exact { h with evaluations := houter }

theorem Inv.step (h : Inv s) (e : Event) (henabled : Enabled s e) :
    Inv (AdaptiveResourceController.step s e) := by
  cases e with
  | start => exact h.later (later_start _)
  | stopMonitor => exact h.later (later_stop _)
  | shutdown epoch => exact h.later (later_shutdown epoch _)
  | enterProbe epoch => exact h.later (later_enterProbe epoch _)
  | takeTicket epoch => exact h.later (later_takeTicket epoch _)
  | finishProbe epoch ticket probe observedAt => exact h.finishProbe epoch ticket probe observedAt
  | deliver epoch isPosted => exact h.deliver epoch isPosted
  | runDispatched snapshot isReady now => exact h.runDispatched henabled isReady now
  | evaluate isReady now => exact h.evaluate isReady now
  | publish => exact h.publish
  | abandon => exact h.abandon
  | stop => exact { h with }

end

/-! ## What is claimed -/

/-- No constraint that the monitor had accepted is newer than what is authorized or published. -/
def Unsurpassed (sequence : Nat) (earlier : List Occurrence) : Prop :=
  ∀ snapshot, Accepted snapshot earlier → snapshot.values.isBackgroundConstrained = true →
    snapshot.sequence ≤ sequence

/-- What every occurrence would come with, if the fence were where the monitor is. -/
def Unoutdated : Occurrence → List Occurrence → Prop
  | .authorized sequence, earlier => Unsurpassed sequence earlier
  | .published sequence _, earlier => Unsurpassed sequence earlier
  | occurrence, earlier => Fenced occurrence earlier

/-- The memory is high, and the user is there. -/
def permissiveProbe : ResourcePressureProbe :=
  { lowMemorySignaled := some false
    highMemorySignaled := some true
    userActivity := some .available
    energySaver := some false }

/-- The memory is low. -/
def constrainedProbe : ResourcePressureProbe :=
  { permissiveProbe with
    lowMemorySignaled := some true
    highMemorySignaled := some false }

def permissiveSnapshot : ResourcePressureSnapshot :=
  ⟨ResourcePressureValues.apply {} permissiveProbe, 0, 1⟩

def constrainedSnapshot : ResourcePressureSnapshot :=
  ⟨ResourcePressureValues.apply {} constrainedProbe, 1, 2⟩

/-- An observation that allows preloading is dispatched, then one that does not is accepted, and
then the first one is applied. -/
def outdatedPermission : List Event :=
  [.start, .enterProbe 1, .takeTicket 1, .finishProbe 1 1 permissiveProbe 0, .deliver 1 true,
    .deliver 1 true, .deliver 1 true, .deliver 1 true, .enterProbe 1, .takeTicket 1,
    .finishProbe 1 2 constrainedProbe 1, .runDispatched permissiveSnapshot true 2, .publish]

end AdaptiveResourceController

open AdaptiveResourceController in
/-- Whatever happens in the monitor and the controller comes with what `Fenced` says. -/
theorem adaptiveResourceController_fenced {s : AdaptiveResourceController.State}
    (h : adaptiveResourceController.Reachable {} s) : Throughout Fenced s.history :=
  (h.invariant (fun _ e henabled hinv => hinv.step e henabled) Inv.initial).fenced

open AdaptiveResourceController in
theorem adaptiveResourceController_fenced_outdated :
    Throughout Fenced (adaptiveResourceController.exec {} outdatedPermission).history :=
  adaptiveResourceController_fenced ⟨outdatedPermission, by decide, rfl⟩

open AdaptiveResourceController in
/-- The monitor can have accepted a constraint that the fence does not know of. -/
theorem not_unoutdated : ¬ ∀ s : AdaptiveResourceController.State,
    adaptiveResourceController.Reachable {} s → Throughout Unoutdated s.history := by
  intro h
  have hrun := h _ ⟨outdatedPermission, by decide, rfl⟩
  have hhistory : (adaptiveResourceController.exec {} outdatedPermission).history =
      [.published 1 1, .authorized 1, .applied permissiveSnapshot,
        .accepted 1 2 (some constrainedSnapshot), .accepted 1 1 (some permissiveSnapshot)] := by
    decide
  rw [hhistory] at hrun
  have haccepted : Accepted constrainedSnapshot [.applied permissiveSnapshot,
      .accepted 1 2 (some constrainedSnapshot), .accepted 1 1 (some permissiveSnapshot)] :=
    ⟨1, 2, by decide⟩
  have hle : constrainedSnapshot.sequence ≤ 1 :=
    hrun.2.1 constrainedSnapshot haccepted (by decide)
  exact absurd hle (by decide)

end PlaybackConnector
