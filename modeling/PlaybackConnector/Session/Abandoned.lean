import PlaybackConnector.Session.Steps

/-!
# A close that timed out

A close that timed out, or whose timeout could not be scheduled, is abandoned: its operation has
failed, and the barrier stays up until the late completion and its cooldown. Two operations do not
recognise it: `HandleDeviceRemoved` and `Suspend` set `Disconnecting` before they ask `BeginClose`,
which then keeps the close as it is. In the runs in which neither comes in an abandoned close, and
only in these, an abandoned close stays terminal (`abandoned_stays_terminal_iff`).
-/

namespace PlaybackConnector

/-- The states that an operation is in while it is under way. -/
def DeviceLifecycleState.IsUnderWay (l : DeviceLifecycleState) : Prop :=
  l = .connecting ∨ l = .disconnecting ∨ l = .waitingForReconnect

instance (l : DeviceLifecycleState) : Decidable l.IsUnderWay :=
  inferInstanceAs (Decidable (l = .connecting ∨ l = .disconnecting ∨ l = .waitingForReconnect))

namespace Session

variable {p : Platform} {e : Event} {s t u : Session}

/-- The close in flight is abandoned. -/
def Abandoned (s : SessionState) : Prop :=
  s.isCloseInFlight = true ∧ s.isCloseContinuationAbandoned = true

instance (s : SessionState) : Decidable (Abandoned s) :=
  inferInstanceAs (Decidable (_ = true ∧ _ = true))

/-- What may end an abandoned close: its late completion, the cooldown after it, and `Shutdown`. -/
def MayEndAbandoned (s : SessionState) (e : Event) : Prop :=
  e = .closeBarrier s.closeBarrierEpoch false ∨ e = .closeCooldown s.closeBarrierEpoch ∨
    e = .operation .shutdown

instance (s : SessionState) (e : Event) : Decidable (MayEndAbandoned s e) :=
  inferInstanceAs (Decidable (_ = _ ∨ _ = _ ∨ _ = _))

/-- From `s` to `t` the close stays abandoned, its operation is not under way again, and nothing
is created or closed. -/
structure StaysTerminal (s t : Session) : Prop where
  notUnderWay : ¬ t.lifecycle.IsUnderWay
  creates : t.ledger.creates = s.ledger.creates
  barrier : t.ledger.barrier = s.ledger.barrier
  abandoned : Abandoned t.toSessionState

/-- In an abandoned close, an event that may not end it leaves the session terminal. -/
def KeepsAbandoned (p : Platform) (s : Session) (e : Event) : Prop :=
  Abandoned s.toSessionState → ¬ MayEndAbandoned s.toSessionState e →
    StaysTerminal s ((deviceSession p).step s e)

/-- An operation that does not recognise an abandoned close. -/
def OverlooksAbandoned (s : SessionState) (e : Event) : Prop :=
  Abandoned s ∧ (e = .operation .handleDeviceRemoved ∨
    e = .operation .suspend ∧ s.isSuspended = false)

instance (s : SessionState) (e : Event) : Decidable (OverlooksAbandoned s e) :=
  inferInstanceAs (Decidable (_ ∧ (_ = _ ∨ _ = _ ∧ _ = _)))

/-- An abandoned close is not under way. -/
def AbandonedSettled (s : Session) : Prop :=
  Abandoned s.toSessionState → ¬ s.lifecycle.IsUnderWay

theorem Move.abandonedSettled (hs : Inv s) (h : Move p e s t) (ha : AbandonedSettled s) :
    AbandonedSettled t := by
  obtain ⟨c1, c2, c3, c4, c5, c6, c7, c8, c9, c10, c11, c12, c13, c14⟩ := hs.coherent
  unfold AbandonedSettled Abandoned DeviceLifecycleState.IsUnderWay at *
  cases h
  all_goals
    try dsimp
    first | assumption | grind -linarith

theorem Head.abandonedSettled (hs : Inv s) (h : Head p s e t)
    (hok : ¬ OverlooksAbandoned s.toSessionState e) (ha : AbandonedSettled s) :
    AbandonedSettled t := by
  obtain ⟨c1, c2, c3, c4, c5, c6, c7, c8, c9, c10, c11, c12, c13, c14⟩ := hs.coherent
  unfold AbandonedSettled OverlooksAbandoned Abandoned DeviceLifecycleState.IsUnderWay at *
  cases h
  case disconnectIdle | disconnectClose =>
    cases ‹Disconnecting _ _ _ _› <;> dsimp <;> grind -linarith
  case cancelNothing | cancelIdle | cancelClose =>
    cases ‹Cancelling _ _ _› <;> dsimp <;> grind -linarith [cancelsActiveReconnect]
  all_goals
    try dsimp
    first | assumption | grind -linarith

/-- `StaysTerminal` at a point of a task, with the barrier's epoch. -/
def Terminal (s t : Session) : Prop :=
  StaysTerminal s t ∧ t.closeBarrierEpoch = s.closeBarrierEpoch

theorem Move.terminal (hs : Inv s) (h : Move p e s t)
    (hev : ¬ MayEndAbandoned u.toSessionState e) (ht : Terminal u s) : Terminal u t := by
  obtain ⟨c1, c2, c3, c4, c5, c6, c7, c8, c9, c10, c11, c12, c13, c14⟩ := hs.coherent
  obtain ⟨⟨h1, h2, h3, h4⟩, h5⟩ := ht
  unfold MayEndAbandoned at hev
  unfold Abandoned DeviceLifecycleState.IsUnderWay at *
  cases h
  all_goals
    refine ⟨⟨?_, ?_, ?_, ?_⟩, ?_⟩ <;>
      (try dsimp [Abandoned, DeviceLifecycleState.IsUnderWay]) <;>
      first | assumption | grind -linarith [Confirms]

theorem Head.terminal (hs : Inv s) (h : Head p s e t)
    (hok : ¬ OverlooksAbandoned s.toSessionState e) (hev : ¬ MayEndAbandoned s.toSessionState e)
    (ha : Abandoned s.toSessionState) (hset : ¬ s.lifecycle.IsUnderWay) : Terminal s t := by
  obtain ⟨c1, c2, c3, c4, c5, c6, c7, c8, c9, c10, c11, c12, c13, c14⟩ := hs.coherent
  unfold OverlooksAbandoned at hok
  unfold MayEndAbandoned at hev
  unfold Abandoned DeviceLifecycleState.IsUnderWay at *
  cases h
  case disconnectIdle => grind -linarith
  case disconnectClose => grind -linarith
  case cancelNothing =>
    cases ‹Cancelling _ _ _› <;> refine ⟨⟨?_, rfl, rfl, ?_⟩, rfl⟩ <;>
      dsimp [Abandoned, DeviceLifecycleState.IsUnderWay] <;> grind -linarith
  case cancelIdle => grind -linarith
  case cancelClose => grind -linarith [cancelsActiveReconnect]
  all_goals
    refine ⟨⟨?_, ?_, ?_, ?_⟩, ?_⟩ <;>
      (try dsimp [Abandoned, DeviceLifecycleState.IsUnderWay]) <;>
      first | assumption | grind -linarith

/-- An event that does not overlook an abandoned close keeps it. -/
theorem step_keepsAbandoned (hs : Inv s) (hset : AbandonedSettled s)
    (he : (deviceSession p).enabled s e) (hok : ¬ OverlooksAbandoned s.toSessionState e) :
    KeepsAbandoned p s e := by
  intro ha hev
  have hterm : Terminal s ((deviceSession p).step s e) :=
    step_establishes hs he (fun _ hu => hu.terminal hs hok hev ha (hset ha))
      fun _ _ hv hm ht => hm.terminal hv hev ht
  exact hterm.1

/-- An operation that overlooks an abandoned close makes the session `Disconnecting`. -/
theorem step_overlooks (hs : Inv s) (hover : OverlooksAbandoned s.toSessionState e) :
    ((deviceSession p).step s e).lifecycle = .disconnecting := by
  obtain ⟨⟨hf, ha⟩, hop⟩ := hover
  have hconn := hs.coherent.inFlight hf
  have hsd : s.isShutdown = false := by
    cases h : s.isShutdown with
    | false => rfl
    | true => simp [(hs.coherent.shutdown h).1] at hf
  rcases hop with rfl | ⟨rfl, hsu⟩
  · simp [deviceSession, delivered, Event.continuation, handle, operate, handleDeviceRemoved,
      removeDevice, closeRemoved, beginClose, hsd, hconn, hf, ha]
  · simp [deviceSession, delivered, Event.continuation, handle, operate, suspend, beginSuspendClose,
      beginClose, hsd, hsu, hconn, hf, ha]

theorem overlooks_not_keepsAbandoned (hs : Inv s) (hover : OverlooksAbandoned s.toSessionState e) :
    ¬ KeepsAbandoned p s e := by
  intro hkeep
  have hev : ¬ MayEndAbandoned s.toSessionState e := by
    rcases hover.2 with rfl | ⟨rfl, -⟩ <;> simp [MayEndAbandoned]
  exact (hkeep hover.1 hev).notUnderWay (.inr (.inl (step_overlooks hs hover)))

/-- An abandoned close stays terminal along a run exactly when the run's device is not removed and
not suspended in it: everything but the late completion, its cooldown and `Shutdown` leaves the
session out of `Connecting`, `Disconnecting` and `WaitingForReconnect`, creates and closes nothing,
and leaves the close abandoned. -/
theorem abandoned_stays_terminal_iff {deviceId deviceName : WString} {es : List Event}
    (hrun : (deviceSession p).Run (initial deviceId deviceName) es) :
    (deviceSession p).Always (KeepsAbandoned p) (initial deviceId deviceName) es ↔
      (deviceSession p).Always (fun s e => ¬ OverlooksAbandoned s.toSessionState e)
        (initial deviceId deviceName) es := by
  have hinit : Inv (initial deviceId deviceName) := inv_initial _ _
  constructor
  · intro hkeep
    refine (hrun.and hkeep).of_invariant (I := Inv) (fun s e h hs => step_inv h.1 hs) ?_ hinit
    intro s e h hs hover
    exact overlooks_not_keepsAbandoned hs hover h.2
  · intro hok
    refine (hrun.and hok).of_invariant (I := fun s => Inv s ∧ AbandonedSettled s) ?_ ?_
      ⟨hinit, fun h => by simp [Abandoned, initial] at h⟩
    · intro s e h hs
      exact ⟨step_inv h.1 hs.1, step_establishes hs.1 h.1
        (fun _ hu => hu.abandonedSettled hs.1 h.2 hs.2)
        fun _ _ hv hm hi => hm.abandonedSettled hv hi⟩
    · intro s e h hs
      exact step_keepsAbandoned hs.1 hs.2 h.1 h.2

/-- A connection is disconnected, and its close times out. -/
def timedOutDisconnect : List Event :=
  [.operation (.connect .manualConnect true), .operation (.disconnect false),
    .closeBarrier 1 true]

/-- A removal of the device in an abandoned close. -/
theorem removal_revives_abandoned :
    let s := (deviceSession obligingPlatform).exec (initial [65] [66]) timedOutDisconnect
    (deviceSession obligingPlatform).Run (initial [65] [66])
        (timedOutDisconnect ++ [.operation .handleDeviceRemoved]) ∧
      ¬ KeepsAbandoned obligingPlatform s (.operation .handleDeviceRemoved) := by
  refine ⟨by decide, fun hkeep => ?_⟩
  exact (hkeep (by decide) (by decide)).notUnderWay (by decide)

theorem abandoned_stays_terminal_timedOutDisconnect :
    (deviceSession obligingPlatform).Always (KeepsAbandoned obligingPlatform) (initial [65] [66])
        (timedOutDisconnect ++ [.operation .resume, .closeBarrier 1 false]) ↔
      (deviceSession obligingPlatform).Always
        (fun s e => ¬ OverlooksAbandoned s.toSessionState e) (initial [65] [66])
        (timedOutDisconnect ++ [.operation .resume, .closeBarrier 1 false]) :=
  abandoned_stays_terminal_iff (by decide)

end Session

end PlaybackConnector
