import PlaybackConnector.App.UiDispatcher

/-!
# Actions that the UI thread runs for a waiting caller

`UiDispatcher::RunAndWait` (`UiDispatcher.cpp:137`) gives the dispatcher a task that runs the
caller's action behind a `ControlUiActionGate`, and waits until the task is over, the caller's stop
token or deadline says so, or the dispatcher stops. The dispatcher is the one of the calls of `Run`;
the steps of a call of `RunAndWait` and of its task are the accesses of the gate and of the events.
What the stop token and the clock say when they are asked is part of the step.
-/

namespace PlaybackConnector

/-! ## The gate -/

namespace ControlUiActionGate

/-- Source: `ControlUiActionGate::Phase` (`ControlUiActionGate.hpp:11`). -/
inductive Phase
  | pending
  | running
  | cancelled
  | completed
deriving Repr, DecidableEq

/-- Source: `ControlUiActionGate::Result` (`ControlUiActionGate.hpp:12`). -/
inductive Result
  | failed
  | succeeded
  | indeterminate
deriving Repr, DecidableEq

end ControlUiActionGate

/-- Source: the members of `ControlUiActionGate` (`ControlUiActionGate.hpp:39`). -/
structure ControlUiActionGate where
  phase : ControlUiActionGate.Phase := .pending
  succeeded : Bool := false
deriving Repr, DecidableEq

namespace ControlUiActionGate

/-- The exchange of `TryBegin`. Source: `TryBegin` (`ControlUiActionGate.hpp:14`). -/
def tryBegin (gate : ControlUiActionGate) : ControlUiActionGate :=
  if gate.phase = .pending then { gate with phase := .running } else gate

/-- The exchange of `CancelOrClassify`. Source: `CancelOrClassify`
(`ControlUiActionGate.hpp:24`). -/
def cancel (gate : ControlUiActionGate) : ControlUiActionGate :=
  if gate.phase = .pending then { gate with phase := .cancelled } else gate

/-- What follows on the load of the phase. Source: `Classify` (`ControlUiActionGate.hpp:34`). -/
def classify (gate : ControlUiActionGate) : Phase → Result
  | .completed => if gate.succeeded then .succeeded else .failed
  | .running => .indeterminate
  | .pending | .cancelled => .failed

end ControlUiActionGate

namespace UiAction

open ControlUiActionGate (Phase Result)
open UiDispatcher (Ticket)

/-! ## The calls of `RunAndWait` -/

/-- Where a call of `RunAndWait` stands. -/
inductive Point
  /-- Before it looks at its arguments and at `Stopped`. -/
  | entered
  /-- On the UI thread, before `Invoke` looks at `Stopped`. -/
  | invoking
  /-- On the UI thread, in the action. -/
  | working
  /-- With the stop callback registered, before `Run`. -/
  | calling
  /-- In `Run`. -/
  | running
  /-- Before it looks at the deadline, or in the wait. -/
  | waiting
  /-- With the phase loaded, before it loads what the action returned. -/
  | classifying (phase : Phase)
  | returned (result : Result)
deriving Repr, DecidableEq

/-- Where the task stands that a call of `RunAndWait` has given to `Run`. -/
inductive Stage
  | absent
  /-- Before it looks at the stop token and at the deadline. -/
  | entered
  /-- Before `TryBegin`. -/
  | checked
  /-- In the action. -/
  | working
  /-- Before the first store of `Complete`. -/
  | worked (succeeded : Bool)
  /-- Before the second store of `Complete`. -/
  | stored
  /-- Before it sets `Completed`. -/
  | signalling
  | done
deriving Repr, DecidableEq

/-- A call of `RunAndWait`, with its `ActionState`. Source: `UiDispatcher.cpp:151`. -/
structure Action where
  onUiThread : Bool
  hasWork : Bool
  point : Point := .entered
  /-- The call of `Run` that it makes. -/
  call : Option Ticket := none
  gate : ControlUiActionGate := {}
  /-- `Completed` is set. -/
  completed : Bool := false
  /-- `Cancelled` is set. -/
  cancelled : Bool := false
  stage : Stage := .absent
  /-- How often the action was begun. No code reads it. -/
  begun : Nat := 0
  /-- Whether the action, once it was over, had returned true. No code reads it. -/
  outcome : Option Bool := none
deriving Repr, DecidableEq

/-- A step of one call of `RunAndWait` or of its task. A result of an action is none where it
threw. -/
inductive Move
  | check (late : Bool)
  | invokeHere
  | finishHere (result : Option Bool)
  | ran (result : Bool)
  | cancel
  | signalCancel
  | wake
  | giveUp
  | classify (phase : Phase)
  | checkTask (late : Bool)
  | tryBegin
  | finish (result : Option Bool)
  | store (succeeded : Bool)
  | complete
  | signal
deriving Repr, DecidableEq

/-- `CancelOrClassify` where the call returns what it says. Source: `CancelOrClassify`
(`ControlUiActionGate.hpp:24`). -/
def cancelOrClassify (a : Action) : Action :=
  { a with
    gate := a.gate.cancel
    point := if a.gate.phase = .pending then .returned .failed else .classifying a.gate.phase }

/-- The first tests of `RunAndWait`, and the registration of the stop callback. Source: `RunAndWait`
(`UiDispatcher.cpp:142`). -/
def check (stopped late : Bool) (a : Action) : Action :=
  if !a.hasWork ∨ stopped ∨ late then { a with point := .returned .failed }
  else { a with point := if a.onUiThread then .invoking else .calling }

/-- `Invoke` from `RunAndWait`. Source: `RunAndWait` (`UiDispatcher.cpp:148`). -/
def invokeHere (stopped : Bool) (a : Action) : Action :=
  if stopped then { a with point := .returned .failed }
  else { a with point := .working, begun := a.begun + 1 }

/-- The action that `RunAndWait` has invoked is over. Source: `RunAndWait`
(`UiDispatcher.cpp:148`). -/
def finishHere (result : Option Bool) (a : Action) : Action :=
  { a with
    point := .returned (if result = some true then .succeeded else .failed)
    outcome := some (result = some true) }

/-- `Run` has returned. Source: `RunAndWait` (`UiDispatcher.cpp:165`). -/
def ran (result : Bool) (a : Action) : Action :=
  if result then { a with point := .waiting } else cancelOrClassify a

/-- The task looks at the stop token and at the deadline. Source: `RunAndWait`
(`UiDispatcher.cpp:168`). -/
def checkTask (late : Bool) (a : Action) : Action :=
  { a with gate := if late then a.gate.cancel else a.gate, stage := .checked }

/-- The task's `TryBegin`. Source: `RunAndWait` (`UiDispatcher.cpp:171`). -/
def tryBegin (a : Action) : Action :=
  if a.gate.phase = .pending then
    { a with gate := a.gate.tryBegin, stage := .working, begun := a.begun + 1 }
  else { a with stage := .signalling }

/-- The action is over. Source: `RunAndWait` (`UiDispatcher.cpp:174`). -/
def finish (result : Option Bool) (a : Action) : Action :=
  { a with stage := .worked (result = some true), outcome := some (result = some true) }

/-- What a step makes of a call, with `stopped` the dispatcher's `Stopped`. -/
def Action.move (stopped : Bool) (a : Action) : Move → Action
  | .check late => check stopped late a
  | .invokeHere => invokeHere stopped a
  | .finishHere result => finishHere result a
  | .ran result => ran result a
  | .cancel => { a with gate := a.gate.cancel }
  | .signalCancel => { a with cancelled := true }
  | .wake => { a with point := .classifying a.gate.phase }
  | .giveUp => cancelOrClassify a
  | .classify phase => { a with point := .returned (a.gate.classify phase) }
  | .checkTask late => checkTask late a
  | .tryBegin => tryBegin a
  | .finish result => finish result a
  | .store succeeded => { a with gate := { a.gate with succeeded := succeeded }, stage := .stored }
  | .complete => { a with gate := { a.gate with phase := .completed }, stage := .signalling }
  | .signal => { a with completed := true, stage := .done }

/-! ## The calls and the dispatcher as an event system -/

/-- The dispatcher and the calls of `RunAndWait`, in the order in which they were made. -/
structure State where
  dispatcher : UiDispatcher.State
  actions : List Action
deriving Repr, DecidableEq

/-- Nothing was called yet. -/
def initial : State := ⟨UiDispatcher.initial, []⟩

/-- A step of the dispatcher, a new call, a call of `Run` that a call makes, or another step of a
call. -/
inductive Event
  | dispatcher (e : UiDispatcher.Event)
  | runAndWait (onUiThread hasWork : Bool)
  | run (action : Nat)
  | move (action : Nat) (m : Move)
deriving Repr, DecidableEq

/-- The stop callback is registered. -/
def Action.registered (a : Action) : Bool := decide (a.point = .calling) || a.call.isSome

/-- The call's call of `Run` has returned the result. -/
def Action.hasReturned (d : UiDispatcher.State) (a : Action) (result : Bool) : Bool :=
  a.call.any fun ticket => d.isAt ticket (.returned result)

/-- When a step of a call can be made. -/
def Move.Enabled (d : UiDispatcher.State) (a : Action) : Move → Prop
  | .check _ => a.point = .entered
  | .invokeHere => a.point = .invoking
  | .finishHere _ => a.point = .working
  | .ran result => a.point = .running ∧ a.hasReturned d result
  | .cancel | .signalCancel => a.registered
  | .wake => a.point = .waiting ∧ a.completed
  | .giveUp => a.point = .waiting
  | .classify phase => a.point = .classifying phase
  | .checkTask _ => a.stage = .entered
  | .tryBegin => a.stage = .checked
  | .finish _ => a.stage = .working
  | .store succeeded => a.stage = .worked succeeded
  | .complete => a.stage = .stored
  | .signal => a.stage = .signalling

instance (d : UiDispatcher.State) (a : Action) : DecidablePred (Move.Enabled d a)
  | .check _ | .invokeHere | .finishHere _ | .giveUp | .classify _ | .checkTask _ | .tryBegin
  | .finish _ | .store _ | .complete | .signal => inferInstanceAs (Decidable (_ = _))
  | .ran _ | .wake => inferInstanceAs (Decidable (_ ∧ _))
  | .cancel | .signalCancel => inferInstanceAs (Decidable (_ = true))

/-- A task that a call of `RunAndWait` has given to `Run` is over when it has set `Completed`, and
throws nothing. -/
def Finishes (actions : List Action) : UiDispatcher.Event → Prop
  | .finish ticket threw => ∀ a ∈ actions, a.call = some ticket → a.stage = .done ∧ threw = false
  | _ => True

instance (actions : List Action) : DecidablePred (Finishes actions) := fun e => by
  unfold Finishes
  split <;> infer_instance

/-- What can happen. -/
def Enabled (s : State) : Event → Prop
  | .dispatcher e => UiDispatcher.Enabled s.dispatcher e ∧ Finishes s.actions e
  | .runAndWait _ _ => True
  | .run action => s.actions[action]?.any (·.point = .calling)
  | .move action m => ∃ a ∈ s.actions[action]?, m.Enabled s.dispatcher a

instance (s : State) : DecidablePred (Enabled s)
  | .dispatcher _ => inferInstanceAs (Decidable (_ ∧ _))
  | .runAndWait _ _ => isTrue trivial
  | .run _ => inferInstanceAs (Decidable (_ = true))
  | .move _ _ => inferInstanceAs (Decidable (∃ a ∈ _, _))

/-- The task of the call of `Run` is begun. -/
def Action.enter (begun : Option Ticket) (a : Action) : Action :=
  if begun.isSome ∧ a.call = begun then { a with stage := .entered } else a

/-- The step of an event. -/
def handle : Event → State → State
  | .dispatcher e => fun s =>
    { dispatcher := UiDispatcher.handle e s.dispatcher
      actions := s.actions.map (Action.enter (UiDispatcher.begins e s.dispatcher)) }
  | .runAndWait onUiThread hasWork => fun s =>
    { s with actions := s.actions ++ [{ onUiThread := onUiThread, hasWork := hasWork }] }
  | .run action => fun s =>
    { dispatcher := UiDispatcher.handle (.call false true) s.dispatcher
      actions := s.actions.modify action fun a =>
        { a with point := .running, call := some s.dispatcher.calls.length } }
  | .move action m => fun s =>
    { s with
      actions := s.actions.modify action fun a => a.move s.dispatcher.stopped m }

end UiAction

/-- Any number of threads that use one dispatcher, also to wait for actions. Source:
`UiDispatcher` (`UiDispatcher.hpp:18`). -/
def uiAction : EventSystem UiAction.State UiAction.Event where
  enabled := UiAction.Enabled
  step s e := UiAction.handle e s

instance (s : UiAction.State) (e : UiAction.Event) : Decidable (uiAction.enabled s e) :=
  inferInstanceAs (Decidable (UiAction.Enabled s e))

namespace UiAction

open ControlUiActionGate (Phase Result)
open UiDispatcher (Ticket)

/-! ## What a call and its task keep -/

section

variable (gate : ControlUiActionGate) (begun : Nat) (outcome : Option Bool)

/-- What the place where the task stands says of the gate, of `Completed` and of the action. -/
def StageInv (completed : Bool) : Stage → Prop
  | .absent | .entered | .checked =>
    (gate.phase = .pending ∨ gate.phase = .cancelled) ∧ completed = false
  | .working => gate.phase = .running ∧ completed = false
  | .worked succeeded => gate.phase = .running ∧ completed = false ∧ outcome = some succeeded
  | .stored => gate.phase = .running ∧ completed = false ∧ outcome = some gate.succeeded
  | .signalling | .done => gate.phase = .completed ∨ gate.phase = .cancelled

/-- What the phase of the gate says of the action. -/
def PhaseInv : Phase → Prop
  | .pending | .cancelled => begun = 0
  | .running => begun = 1
  | .completed => begun = 1 ∧ outcome = some gate.succeeded

/-- What the result says of the gate. -/
def ResultInv : Result → Prop
  | .succeeded => gate.phase = .completed ∧ gate.succeeded = true
  | .failed => gate.phase = .cancelled ∨ gate.phase = .completed ∧ gate.succeeded = false
  | .indeterminate => True

/-- What the place where a call stands says of the gate, once the call has called `Run`. -/
def PointInv : Point → Prop
  | .running | .waiting => True
  | .classifying phase =>
    phase = .running ∨ (phase = .cancelled ∨ phase = .completed) ∧ gate.phase = phase
  | .returned result => ResultInv gate result
  | _ => False

/-- What the place where a call stands says of the action, where the call has not called `Run`. -/
def BeforeInv : Point → Prop
  | .entered | .invoking | .calling => begun = 0
  | .working => begun = 1
  | .returned result => begun ≤ 1 ∧ (result = .succeeded → begun = 1 ∧ outcome = some true) ∧
      (result = .failed → begun = 1 ∧ outcome = some false ∨ begun = 0)
  | _ => False

end

section

variable {gate : ControlUiActionGate} {begun : Nat} {outcome : Option Bool} {completed : Bool}

/-- A call that has not been told the end of the action knows nothing of the gate. -/
theorem PointInv.of_phase {gate' : ControlUiActionGate} {point : Point} (h : PointInv gate point)
    (hphase : gate.phase = .pending ∨ gate.phase = .running) : PointInv gate' point := by
  cases point with
  | returned result =>
    obtain hthis | hthis := hphase <;> cases result <;> simp_all [PointInv, ResultInv]
  | classifying phase =>
    obtain hrunning | ⟨hover, hsame⟩ := h
    · exact .inl hrunning
    · subst hsame
      obtain hthis | hthis := hphase <;> simp [hthis] at hover
  | _ => exact h

/-- A pending gate is cancelled. -/
theorem StageInv.cancelled {stage : Stage} (h : StageInv gate outcome completed stage)
    (hphase : gate.phase = .pending) :
    StageInv { gate with phase := .cancelled } outcome completed stage := by
  cases stage <;> simp_all [StageInv]

end

/-- What holds of every call of `RunAndWait`. -/
structure Sound (a : Action) : Prop where
  before : a.call = none → BeforeInv a.begun a.outcome a.point ∧ a.stage = .absent
  after : a.call.isSome → PointInv a.gate a.point ∧ PhaseInv a.gate a.begun a.outcome a.gate.phase
  stage : StageInv a.gate a.outcome a.completed a.stage

variable {a : Action}

theorem Sound.made (onUiThread hasWork : Bool) :
    Sound { onUiThread := onUiThread, hasWork := hasWork } where
  before := fun _ => ⟨rfl, rfl⟩
  after := by simp
  stage := ⟨.inl rfl, rfl⟩

/-- The exchange of `CancelOrClassify`, by whoever makes it. -/
theorem Sound.cancel (h : Sound a) : Sound { a with gate := a.gate.cancel } := by
  obtain ⟨before, after, stage⟩ := h
  unfold ControlUiActionGate.cancel
  split_ifs with hphase
  · refine ⟨before, fun hcall => ?_, stage.cancelled hphase⟩
    obtain ⟨hpoint, hbegun⟩ := after hcall
    rw [hphase] at hbegun
    exact ⟨hpoint.of_phase (.inl hphase), hbegun⟩
  · exact ⟨before, after, stage⟩

/-- `CancelOrClassify` of a call that has called `Run`. -/
theorem Sound.cancelOrClassify (h : Sound a) (hcall : a.call.isSome) :
    Sound (cancelOrClassify a) := by
  obtain ⟨before, after, stage⟩ := h.cancel
  refine ⟨fun hnone => ?_, fun _ => ⟨?_, (after hcall).2⟩, stage⟩
  · exact absurd hnone (Option.isSome_iff_ne_none.1 hcall)
  · cases hphase : a.gate.phase <;>
      simp [UiAction.cancelOrClassify, ControlUiActionGate.cancel, hphase, PointInv, ResultInv]

/-- A call that stands behind `Run` has called it. -/
theorem Sound.called (h : Sound a) (hpoint : ∀ begun outcome, ¬ BeforeInv begun outcome a.point) :
    a.call.isSome := by
  by_contra hnone
  exact hpoint _ _ (h.before (Option.not_isSome_iff_eq_none.1 hnone)).1

/-- The task stands somewhere only where the call has called `Run`. -/
theorem Sound.called_of_stage (h : Sound a) (hstage : a.stage ≠ .absent) : a.call.isSome := by
  by_contra hnone
  exact hstage (h.before (Option.not_isSome_iff_eq_none.1 hnone)).2

/-- A call that stands before `Run` has not called it. -/
theorem Sound.notCalled (h : Sound a) (hpoint : ∀ gate, ¬ PointInv gate a.point) :
    a.call = none := by
  by_contra hsome
  exact hpoint _ (h.after (Option.isSome_iff_ne_none.2 hsome)).1

/-- A step of a call that has not called `Run`. -/
theorem Sound.goOn (h : Sound a) {point : Point} {begun : Nat} {outcome : Option Bool}
    (hcall : a.call = none) (hpoint : BeforeInv begun outcome point) :
    Sound { a with point := point, begun := begun, outcome := outcome } := by
  obtain ⟨before, after, stage⟩ := h
  obtain ⟨-, hstage⟩ := before hcall
  rw [hstage] at stage
  refine ⟨fun _ => ⟨hpoint, hstage⟩, fun hsome => by simp [hcall] at hsome, ?_⟩
  rw [hstage]
  exact stage

/-- What there is to show of a call that has called `Run`. -/
theorem Sound.of_called (hcall : a.call.isSome) (hpoint : PointInv a.gate a.point)
    (hphase : PhaseInv a.gate a.begun a.outcome a.gate.phase)
    (hstage : StageInv a.gate a.outcome a.completed a.stage) : Sound a :=
  ⟨fun hnone => absurd hnone (Option.isSome_iff_ne_none.1 hcall), fun _ => ⟨hpoint, hphase⟩, hstage⟩

theorem Sound.check (h : Sound a) (hpoint : a.point = .entered) (stopped late : Bool) :
    Sound (check stopped late a) := by
  have hcall := h.notCalled (by simp [hpoint, PointInv])
  have hbegun : a.begun = 0 := by simpa [hpoint, BeforeInv] using (h.before hcall).1
  unfold UiAction.check
  split_ifs
  · exact h.goOn hcall ⟨by omega, by simp, fun _ => .inr hbegun⟩
  · exact h.goOn hcall hbegun
  · exact h.goOn hcall hbegun

theorem Sound.invokeHere (h : Sound a) (hpoint : a.point = .invoking) (stopped : Bool) :
    Sound (invokeHere stopped a) := by
  have hcall := h.notCalled (by simp [hpoint, PointInv])
  have hbegun : a.begun = 0 := by simpa [hpoint, BeforeInv] using (h.before hcall).1
  unfold UiAction.invokeHere
  split_ifs
  · exact h.goOn hcall ⟨by omega, by simp, fun _ => .inr hbegun⟩
  · exact h.goOn hcall (congrArg (· + 1) hbegun)

theorem Sound.finishHere (h : Sound a) (hpoint : a.point = .working) (result : Option Bool) :
    Sound (finishHere result a) := by
  have hcall := h.notCalled (by simp [hpoint, PointInv])
  have hbegun : a.begun = 1 := by simpa [hpoint, BeforeInv] using (h.before hcall).1
  refine h.goOn hcall ⟨Nat.le_of_eq hbegun, ?_, ?_⟩
  · split_ifs with hresult <;> simp [hresult, hbegun]
  · split_ifs with hresult <;> simp [hresult, hbegun]

theorem Sound.ran (h : Sound a) (hpoint : a.point = .running) (result : Bool) :
    Sound (ran result a) := by
  have hcall := h.called (by simp [hpoint, BeforeInv])
  unfold UiAction.ran
  split_ifs
  · exact .of_called hcall trivial (h.after hcall).2 h.stage
  · exact h.cancelOrClassify hcall

theorem Sound.wake (h : Sound a) (hpoint : a.point = .waiting) (hcompleted : a.completed = true) :
    Sound { a with point := .classifying a.gate.phase } := by
  have hcall := h.called (by simp [hpoint, BeforeInv])
  have hover : a.gate.phase = .completed ∨ a.gate.phase = .cancelled := by
    have hstage := h.stage
    cases hs : a.stage <;> simp_all [StageInv]
  exact .of_called hcall (.inr ⟨hover.symm, rfl⟩) (h.after hcall).2 h.stage

theorem Sound.classify (h : Sound a) {phase : Phase} (hpoint : a.point = .classifying phase) :
    Sound { a with point := .returned (a.gate.classify phase) } := by
  have hcall := h.called (by simp [hpoint, BeforeInv])
  obtain ⟨hthis, hphase⟩ := h.after hcall
  refine .of_called hcall ?_ hphase h.stage
  rw [hpoint] at hthis
  obtain rfl | ⟨rfl | rfl, hgate⟩ := hthis
  · trivial
  · exact .inl hgate
  · cases hsucceeded : a.gate.succeeded with
    | true => simp [ControlUiActionGate.classify, PointInv, ResultInv, hgate, hsucceeded]
    | false => simp [ControlUiActionGate.classify, PointInv, ResultInv, hgate, hsucceeded]

theorem Sound.checkTask (h : Sound a) (hstage : a.stage = .entered) (late : Bool) :
    Sound (checkTask late a) := by
  have hcall := h.called_of_stage (by simp [hstage])
  have key : ∀ {a : Action}, Sound a → a.call.isSome → a.stage = .entered →
      Sound { a with stage := .checked } := fun h hcall hstage =>
    .of_called hcall (h.after hcall).1 (h.after hcall).2 (by simpa [hstage, StageInv] using h.stage)
  cases late with
  | false => exact key h hcall hstage
  | true => exact key h.cancel hcall hstage

theorem Sound.tryBegin (h : Sound a) (hstage : a.stage = .checked) : Sound (tryBegin a) := by
  have hcall := h.called_of_stage (by simp [hstage])
  obtain ⟨hpoint, hphase⟩ := h.after hcall
  have hthis := h.stage
  rw [hstage] at hthis
  unfold UiAction.tryBegin
  split_ifs with hpending
  · rw [hpending] at hphase
    have hgate : a.gate.tryBegin = { a.gate with phase := .running } := if_pos hpending
    rw [hgate]
    exact .of_called hcall (hpoint.of_phase (.inl hpending)) (congrArg (· + 1) hphase)
      ⟨rfl, hthis.2⟩
  · exact .of_called hcall hpoint hphase (.inr (hthis.1.resolve_left hpending))

theorem Sound.finish (h : Sound a) (hstage : a.stage = .working) (result : Option Bool) :
    Sound (finish result a) := by
  have hcall := h.called_of_stage (by simp [hstage])
  obtain ⟨hpoint, hphase⟩ := h.after hcall
  have hthis := h.stage
  rw [hstage] at hthis
  obtain ⟨hrunning, hcompleted⟩ := hthis
  rw [hrunning] at hphase
  refine .of_called hcall hpoint ?_ ⟨hrunning, hcompleted, rfl⟩
  rw [show (UiAction.finish result a).gate.phase = .running from hrunning]
  exact hphase

theorem Sound.store (h : Sound a) {succeeded : Bool} (hstage : a.stage = .worked succeeded) :
    Sound { a with gate := { a.gate with succeeded := succeeded }, stage := .stored } := by
  have hcall := h.called_of_stage (by simp [hstage])
  obtain ⟨hpoint, hphase⟩ := h.after hcall
  have hthis := h.stage
  rw [hstage] at hthis
  obtain ⟨hrunning, hcompleted, houtcome⟩ := hthis
  rw [hrunning] at hphase
  refine .of_called hcall (hpoint.of_phase (.inr hrunning)) ?_ ⟨hrunning, hcompleted, houtcome⟩
  rw [hrunning]
  exact hphase

theorem Sound.complete (h : Sound a) (hstage : a.stage = .stored) :
    Sound { a with gate := { a.gate with phase := .completed }, stage := .signalling } := by
  have hcall := h.called_of_stage (by simp [hstage])
  obtain ⟨hpoint, hphase⟩ := h.after hcall
  have hthis := h.stage
  rw [hstage] at hthis
  obtain ⟨hrunning, hcompleted, houtcome⟩ := hthis
  rw [hrunning] at hphase
  exact .of_called hcall (hpoint.of_phase (.inr hrunning)) ⟨hphase, houtcome⟩ (.inl rfl)

theorem Sound.signal (h : Sound a) (hstage : a.stage = .signalling) :
    Sound { a with completed := true, stage := .done } := by
  have hcall := h.called_of_stage (by simp [hstage])
  obtain ⟨hpoint, hphase⟩ := h.after hcall
  have hthis := h.stage
  rw [hstage] at hthis
  exact .of_called hcall hpoint hphase hthis

/-- Every step of a call and of its task. -/
theorem Sound.move (h : Sound a) {d : UiDispatcher.State} {m : Move} (hm : m.Enabled d a)
    (stopped : Bool) : Sound (a.move stopped m) := by
  cases m with
  | check late => exact h.check hm stopped late
  | invokeHere => exact h.invokeHere hm stopped
  | finishHere result => exact h.finishHere hm result
  | ran result => exact h.ran hm.1 result
  | cancel => exact h.cancel
  | signalCancel => exact ⟨h.before, h.after, h.stage⟩
  | wake => exact h.wake hm.1 hm.2
  | giveUp => exact h.cancelOrClassify (h.called (by simp [show a.point = _ from hm, BeforeInv]))
  | classify phase => exact h.classify hm
  | checkTask late => exact h.checkTask hm late
  | tryBegin => exact h.tryBegin hm
  | finish result => exact h.finish hm result
  | store succeeded => exact h.store hm
  | complete => exact h.complete hm
  | signal => exact h.signal hm

/-! ## The calls and the dispatcher -/

/-- The task of a call stands where its call of `Run` has begun it. -/
def Linked (d : UiDispatcher.State) (a : Action) : Prop :=
  ∀ ticket, a.call = some ticket → ∃ c, d.calls[ticket]? = some c ∧
    (c.runs = 0 → a.stage = .absent)

/-- What holds in every state. -/
structure Inv (s : State) : Prop where
  dispatcher : UiDispatcher.Inv s.dispatcher
  actions : ∀ a ∈ s.actions, Sound a ∧ Linked s.dispatcher a

theorem inv_initial : Inv initial := ⟨UiDispatcher.inv_initial, by simp [initial]⟩

variable {s : State} {d : UiDispatcher.State}

/-- A step of the dispatcher that does not begin the task of the call. -/
theorem Linked.handle (h : Linked d a) {e : UiDispatcher.Event} :
    Linked (UiDispatcher.handle e d) a := by
  intro ticket hcall
  obtain ⟨c, hc, hstage⟩ := h ticket hcall
  obtain ⟨c', hc', -, hruns⟩ := UiDispatcher.handle_begun e hc
  exact ⟨c', hc', fun hzero => hstage (by omega)⟩

/-- A step of the dispatcher begins the task of the call, or does not. -/
theorem enter_handle (hd : UiDispatcher.Inv d) (hsound : Sound a) (hlinked : Linked d a)
    {e : UiDispatcher.Event} (he : UiDispatcher.Enabled d e) :
    Sound (a.enter (UiDispatcher.begins e d)) ∧
      Linked (UiDispatcher.handle e d) (a.enter (UiDispatcher.begins e d)) := by
  unfold Action.enter
  split_ifs with hbegun
  · obtain ⟨hsome, hcall⟩ := hbegun
    obtain ⟨ticket, hticket⟩ := Option.isSome_iff_exists.1 hsome
    rw [hticket] at hcall
    obtain ⟨c, hc, hstage⟩ := hlinked ticket hcall
    obtain ⟨fresh, hfresh, hruns⟩ := hd.fresh he hticket
    obtain rfl : fresh = c := Option.some.inj (hfresh.symm.trans hc)
    have hthis := hsound.stage
    rw [hstage hruns] at hthis
    obtain ⟨hpoint, hphase⟩ := hsound.after (by simp [hcall])
    refine ⟨.of_called (by simp [hcall]) hpoint hphase hthis, fun other hother => ?_⟩
    obtain rfl : ticket = other := Option.some.inj (hcall.symm.trans hother)
    obtain ⟨c', hc', -, htimes⟩ := UiDispatcher.handle_begun e hc
    simp only [hticket, if_true] at htimes
    exact ⟨c', hc', fun hzero => by omega⟩
  · exact ⟨hsound, hlinked.handle⟩

/-- A step of a call calls nothing. -/
theorem move_call (a : Action) (stopped : Bool) (m : Move) : (a.move stopped m).call = a.call := by
  cases m <;> simp only [Action.move, check, invokeHere, finishHere, ran, cancelOrClassify,
    checkTask, tryBegin, finish] <;> split_ifs <;> rfl

/-- A step of a call does not begin its task. -/
theorem move_stage {m : Move} (hm : m.Enabled d a) (hstage : a.stage = .absent) (stopped : Bool) :
    (a.move stopped m).stage = .absent := by
  cases m <;> simp_all [Action.move, Move.Enabled, check, invokeHere, finishHere, ran,
    cancelOrClassify] <;> split_ifs <;> first | assumption | rfl

theorem Linked.move (h : Linked d a) {m : Move} (hm : m.Enabled d a) (stopped : Bool) :
    Linked d (a.move stopped m) := by
  intro ticket hcall
  rw [move_call] at hcall
  obtain ⟨c, hc, hstage⟩ := h ticket hcall
  exact ⟨c, hc, fun hzero => move_stage hm (hstage hzero) stopped⟩

/-- A call calls `Run`. -/
theorem Sound.run (h : Sound a) (hpoint : a.point = .calling) (ticket : Ticket) :
    Sound { a with point := .running, call := some ticket } ∧ a.stage = .absent := by
  have hcall := h.notCalled (by simp [hpoint, PointInv])
  obtain ⟨hbegun, hstage⟩ := h.before hcall
  have hthis := h.stage
  rw [hpoint] at hbegun
  rw [hstage] at hthis
  refine ⟨.of_called rfl trivial ?_ h.stage, hstage⟩
  obtain hphase | hphase := hthis.1
  · rw [hphase]; exact hbegun
  · rw [hphase]; exact hbegun

/-- What `modify` leaves in a list. -/
theorem mem_modify {α : Type*} {l : List α} {i : Nat} {f : α → α} {x : α} (h : x ∈ l.modify i f) :
    x ∈ l ∨ ∃ y, l[i]? = some y ∧ x = f y := by
  obtain ⟨j, hj⟩ := List.mem_iff_getElem?.1 h
  rw [List.getElem?_modify] at hj
  obtain ⟨y, hy, rfl⟩ := Option.map_eq_some_iff.1 hj
  split_ifs with hij
  · subst hij
    exact .inr ⟨y, hy, rfl⟩
  · exact .inl (List.mem_of_getElem? hy)

theorem inv_handle {e : Event} (he : Enabled s e) (h : Inv s) : Inv (handle e s) := by
  cases e with
  | dispatcher e =>
    refine ⟨UiDispatcher.inv_handle he.1 h.dispatcher, fun a ha => ?_⟩
    obtain ⟨b, hb, rfl⟩ := List.mem_map.1 ha
    obtain ⟨hsound, hlinked⟩ := h.actions b hb
    exact enter_handle h.dispatcher hsound hlinked he.1
  | runAndWait onUiThread hasWork =>
    refine ⟨h.dispatcher, fun a ha => ?_⟩
    obtain ha | ha := List.mem_append.1 ha
    · exact h.actions a ha
    · obtain rfl := List.mem_singleton.1 ha
      exact ⟨.made .., fun ticket hcall => absurd hcall (by simp)⟩
  | run action =>
    refine ⟨UiDispatcher.inv_handle (e := .call false true) trivial h.dispatcher, fun a ha => ?_⟩
    obtain ha | ⟨b, hb, rfl⟩ := mem_modify ha
    · obtain ⟨hsound, hlinked⟩ := h.actions a ha
      exact ⟨hsound, hlinked.handle⟩
    · obtain ⟨hsound, -⟩ := h.actions b (List.mem_of_getElem? hb)
      have hpoint : b.point = .calling := by simpa [Enabled, hb] using he
      obtain ⟨hrun, hstage⟩ := hsound.run hpoint s.dispatcher.calls.length
      refine ⟨hrun, fun ticket hcall => ?_⟩
      obtain rfl : s.dispatcher.calls.length = ticket := Option.some.inj hcall
      exact ⟨_, List.getElem?_concat_length, fun _ => hstage⟩
  | move action m =>
    obtain ⟨b, hb, hm⟩ := he
    refine ⟨h.dispatcher, fun a ha => ?_⟩
    obtain ha | ⟨c, hc, rfl⟩ := mem_modify ha
    · exact h.actions a ha
    · obtain rfl : b = c := Option.some.inj (hb.symm.trans hc)
      obtain ⟨hsound, hlinked⟩ := h.actions b (List.mem_of_getElem? hc)
      exact ⟨hsound.move hm _, hlinked.move hm _⟩

/-! ## A call that has failed for good -/

/-- A call that has returned, and whose action was not begun and is not begun any more. -/
structure Abandoned (a : Action) : Prop where
  begun : a.begun = 0
  returned : ∃ result, a.point = .returned result
  closed : a.call = none ∨ a.gate.phase = .cancelled

theorem Abandoned.move (h : Abandoned a) (hsound : Sound a) {m : Move} (hm : m.Enabled d a)
    (stopped : Bool) : Abandoned (a.move stopped m) := by
  obtain ⟨hbegun, ⟨result, hpoint⟩, hclosed⟩ := h
  have hphase : a.stage = .absent ∨ a.gate.phase = .cancelled :=
    hclosed.imp_left fun hcall => (hsound.before hcall).2
  have hstage := hsound.stage
  cases m with
  | check | invokeHere | finishHere | giveUp | classify =>
    exact absurd hpoint (by simp [show a.point = _ from hm])
  | ran | wake => exact absurd hpoint (by simp [hm.1])
  | cancel =>
    refine ⟨hbegun, ⟨result, hpoint⟩, hclosed.imp_right fun hcancelled => ?_⟩
    simp [Action.move, ControlUiActionGate.cancel, hcancelled]
  | signalCancel => exact ⟨hbegun, ⟨result, hpoint⟩, hclosed⟩
  | checkTask late =>
    have hcancelled := hphase.resolve_left (by simp [show a.stage = _ from hm])
    refine ⟨hbegun, ⟨result, hpoint⟩, .inr ?_⟩
    cases late <;> simp [Action.move, checkTask, ControlUiActionGate.cancel, hcancelled]
  | tryBegin =>
    have hcancelled := hphase.resolve_left (by simp [show a.stage = _ from hm])
    simp only [Action.move, tryBegin, hcancelled, reduceCtorEq, if_false]
    exact ⟨hbegun, ⟨result, hpoint⟩, .inr hcancelled⟩
  | signal =>
    exact ⟨hbegun, ⟨result, hpoint⟩, hclosed⟩
  | finish | store | complete =>
    have hcancelled := hphase.resolve_left (by simp [show a.stage = _ from hm])
    rw [show a.stage = _ from hm] at hstage
    exact absurd hstage.1 (by simp [hcancelled])

theorem Abandoned.handle (h : Inv s) {e : Event} (he : Enabled s e) {action : Nat}
    (ha : ∃ a, s.actions[action]? = some a ∧ Abandoned a) :
    ∃ a, (handle e s).actions[action]? = some a ∧ Abandoned a := by
  obtain ⟨a, hget, hthis⟩ := ha
  cases e with
  | dispatcher e =>
    refine ⟨_, by rw [UiAction.handle, List.getElem?_map, hget]; rfl, ?_⟩
    unfold Action.enter
    split_ifs
    · exact ⟨hthis.begun, hthis.returned, hthis.closed⟩
    · exact hthis
  | runAndWait onUiThread hasWork =>
    obtain ⟨hlt, -⟩ := List.getElem?_eq_some_iff.1 hget
    exact ⟨a, (List.getElem?_append_left hlt).trans hget, hthis⟩
  | run caller =>
    by_cases hcaller : caller = action
    · subst hcaller
      obtain ⟨result, hreturned⟩ := hthis.returned
      simp [Enabled, hget, hreturned] at he
    · exact ⟨a, by simp [UiAction.handle, hcaller, hget], hthis⟩
  | move mover m =>
    by_cases hmover : mover = action
    · subst hmover
      obtain ⟨b, hb, hm⟩ := he
      obtain rfl : b = a := Option.some.inj (hb.symm.trans hget)
      obtain ⟨hsound, -⟩ := h.actions b (List.mem_of_getElem? hget)
      exact ⟨_, by simp [UiAction.handle, hget], hthis.move hsound hm s.dispatcher.stopped⟩
    · exact ⟨a, by simp [UiAction.handle, hmover, hget], hthis⟩

/-- A call that has returned a failure. -/
theorem Sound.failed (h : Sound a) (hpoint : a.point = .returned .failed) :
    (a.begun = 1 ∧ a.outcome = some false) ∨ Abandoned a := by
  cases hcall : a.call with
  | none =>
    have hbefore := (h.before hcall).1
    rw [hpoint] at hbefore
    exact (hbefore.2.2 rfl).imp_right fun hbegun => ⟨hbegun, ⟨_, hpoint⟩, .inl hcall⟩
  | some ticket =>
    obtain ⟨hresult, hphase⟩ := h.after (by simp [hcall])
    rw [hpoint] at hresult
    obtain hcancelled | ⟨hcompleted, hsucceeded⟩ := hresult
    · rw [hcancelled] at hphase
      exact .inr ⟨hphase, ⟨_, hpoint⟩, .inr hcancelled⟩
    · rw [hcompleted] at hphase
      exact .inl ⟨hphase.1, hphase.2.trans (congrArg some hsucceeded)⟩

theorem Sound.succeeded (h : Sound a) (hpoint : a.point = .returned .succeeded) :
    a.begun = 1 ∧ a.outcome = some true := by
  cases hcall : a.call with
  | none =>
    have hbefore := (h.before hcall).1
    rw [hpoint] at hbefore
    exact hbefore.2.1 rfl
  | some ticket =>
    obtain ⟨hresult, hphase⟩ := h.after (by simp [hcall])
    rw [hpoint] at hresult
    obtain ⟨hcompleted, hsucceeded⟩ := hresult
    rw [hcompleted] at hphase
    exact ⟨hphase.1, hphase.2.trans (congrArg some hsucceeded)⟩

theorem Sound.begun_le (h : Sound a) : a.begun ≤ 1 := by
  cases hcall : a.call with
  | none =>
    have hbefore := (h.before hcall).1
    cases hpoint : a.point <;> rw [hpoint] at hbefore <;> simp [BeforeInv] at hbefore <;> omega
  | some ticket =>
    have hphase := (h.after (by simp [hcall])).2
    cases hgate : a.gate.phase <;> rw [hgate] at hphase <;> simp [PhaseInv] at hphase <;> omega

end UiAction

/-! ## Results are definite -/

open UiDispatcher (Delivered)

/-- What the results of `Run` and of `RunAndWait` say in a state and of what follows on it. -/
structure DefiniteResults (s : UiAction.State) : Prop where
  /-- A task is executed at most once, -/
  once : ∀ c ∈ s.dispatcher.calls, c.runs ≤ 1
  /-- and exactly once if `Run` has returned true, what the queues had of it is delivered and `Stop`
  has not intervened. -/
  accepted : ∀ (ticket : Nat) (c : UiDispatcher.Call), s.dispatcher.calls[ticket]? = some c →
    c.point = .returned true → s.dispatcher.stopped = false → Delivered s.dispatcher ticket c →
    c.runs = 1
  /-- The task of a worker's call that has returned false is not executed. -/
  rejected : ∀ c ∈ s.dispatcher.calls, c.point = .returned false → c.onUiThread = false →
    c.runs = 0
  /-- `RunAndWait` executes its action at most once. -/
  onceWaiting : ∀ a ∈ s.actions, a.begun ≤ 1
  /-- If it has returned `Succeeded`, the action ran and returned true. -/
  succeeded : ∀ a ∈ s.actions, a.point = .returned .succeeded →
    a.begun = 1 ∧ a.outcome = some true
  /-- If it has returned `Failed`, the action ran and did not succeed, or did not run and does not
  run in what follows. -/
  failed : ∀ (action : Nat) (a : UiAction.Action), s.actions[action]? = some a →
    a.point = .returned .failed → (a.begun = 1 ∧ a.outcome = some false) ∨
      ∀ es, uiAction.Run s es → ∃ a', (uiAction.exec s es).actions[action]? = some a' ∧ a'.begun = 0

/-- The results are definite in every state, whatever the threads do. -/
theorem results_definite {es : List UiAction.Event} (hrun : uiAction.Run UiAction.initial es) :
    DefiniteResults (uiAction.exec UiAction.initial es) := by
  have hinv : UiAction.Inv (uiAction.exec UiAction.initial es) :=
    EventSystem.Always.invariant (S := uiAction) (fun _ _ he h => UiAction.inv_handle he h) hrun
      UiAction.inv_initial
  have hsound := fun a ha => (hinv.actions a ha).1
  constructor
  case once =>
    intro c hc
    obtain ⟨ticket, hget⟩ := List.mem_iff_getElem?.1 hc
    exact hinv.dispatcher.runs_le hget
  case accepted => exact fun _ _ hget => hinv.dispatcher.runs_of_accepted hget
  case rejected =>
    intro c hc
    obtain ⟨ticket, hget⟩ := List.mem_iff_getElem?.1 hc
    exact hinv.dispatcher.runs_of_rejected hget
  case onceWaiting => exact fun a ha => (hsound a ha).begun_le
  case succeeded => exact fun a ha => (hsound a ha).succeeded
  case failed =>
    intro action a hget hpoint
    have hfailed := (hsound a (List.mem_of_getElem? hget)).failed hpoint
    refine hfailed.imp_right fun habandoned es' hrun' => ?_
    have hlater := EventSystem.Always.invariant (S := uiAction)
      (I := fun s => UiAction.Inv s ∧ ∃ a, s.actions[action]? = some a ∧ UiAction.Abandoned a)
      (fun _ _ he h => ⟨UiAction.inv_handle he h.1, UiAction.Abandoned.handle h.1 he h.2⟩) hrun'
      ⟨hinv, a, hget, habandoned⟩
    obtain ⟨a', hget', habandoned'⟩ := hlater.2
    exact ⟨a', hget', habandoned'.begun⟩

/-- A worker waits for an action, which the UI thread runs. -/
def waitedFor : List UiAction.Event :=
  [.runAndWait false true, .move 0 (.check false), .run 0, .dispatcher (.enter 0),
    .dispatcher (.enqueue 0 true), .dispatcher (.accept 0), .move 0 (.ran true),
    .dispatcher (.deliver 0), .dispatcher (.invoke 0), .move 0 (.checkTask false),
    .move 0 .tryBegin, .move 0 (.finish (some true)), .move 0 (.store true), .move 0 .complete,
    .move 0 .signal, .dispatcher (.finish 0 false), .move 0 .wake, .move 0 (.classify .completed)]

theorem results_definite_waitedFor : uiAction.Run UiAction.initial waitedFor ∧
    (uiAction.exec UiAction.initial waitedFor).actions.map (·.point) = [.returned .succeeded] ∧
    DefiniteResults (uiAction.exec UiAction.initial waitedFor) := by
  have hrun : uiAction.Run UiAction.initial waitedFor := by decide
  exact ⟨hrun, by decide, results_definite hrun⟩

end PlaybackConnector
