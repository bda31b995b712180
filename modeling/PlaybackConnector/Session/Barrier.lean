import PlaybackConnector.Session.Steps

/-!
# The close barrier

No connection is created before the last one is closed, its completion has come and its cooldown
has ended (`create_behind_barrier`).
-/

namespace PlaybackConnector

/-- How far the last close is. -/
inductive BarrierPhase
  | free | closing | coolingDown
deriving Repr, DecidableEq

namespace BarrierPhase

/-- The phase after the marks, the latest of which come first. -/
def after : List BarrierMark → BarrierPhase
  | [] => free
  | .create :: marks => after marks
  | .close :: _ => closing
  | .closeCompleted :: _ => coolingDown
  | .cooldownEnded :: _ => free

/-- A connection is created or closed when no close is under way, a completion follows a close,
and the end of a cooldown follows a completion. -/
def Ordered : List BarrierMark → Prop
  | [] => True
  | .create :: marks => after marks = free ∧ Ordered marks
  | .close :: marks => after marks = free ∧ Ordered marks
  | .closeCompleted :: marks => after marks = closing ∧ Ordered marks
  | .cooldownEnded :: marks => after marks = coolingDown ∧ Ordered marks

/-- The phase that the flags of a session stand for. -/
def of (s : SessionState) : BarrierPhase :=
  if s.isCloseInFlight then if s.isCloseCooldown then coolingDown else closing else free

end BarrierPhase

namespace Session

open BarrierPhase

variable {p : Platform} {e : Event} {s t : Session}

/-- Nothing is open and nothing is being closed. -/
def NothingOpen (s : SessionState) : Prop :=
  s.connection = none ∧ s.closingConnection = none ∧ s.isCloseInFlight = false

/-- What the ledger says of the barrier. -/
structure BarrierKept (s : Session) : Prop where
  creates : ∀ b ∈ s.ledger.creates, NothingOpen b
  ordered : Ordered s.ledger.barrier
  phase : s.isShutdown = false → after s.ledger.barrier = of s.toSessionState

theorem Move.barrierKept (hs : Inv s) (h : Move p e s t) (hb : BarrierKept s) : BarrierKept t := by
  obtain ⟨h1, h2, h3⟩ := hb
  obtain ⟨c1, c2, c3, c4, c5, c6, c7, c8, c9, c10, c11, c12, c13, c14⟩ := hs.coherent
  cases h
  all_goals
    try dsimp
    constructor <;> first | assumption | grind -linarith [NothingOpen, Ordered, after, of]

theorem Head.barrierKept (hs : Inv s) (h : Head p s e t) (hb : BarrierKept s) : BarrierKept t := by
  obtain ⟨h1, h2, h3⟩ := hb
  obtain ⟨c1, c2, c3, c4, c5, c6, c7, c8, c9, c10, c11, c12, c13, c14⟩ := hs.coherent
  cases h
  case disconnectIdle | disconnectClose =>
    cases ‹Disconnecting _ _ _ _› <;> constructor <;> dsimp <;> grind -linarith [of]
  case cancelNothing | cancelIdle | cancelClose =>
    cases ‹Cancelling _ _ _› <;> constructor <;> dsimp <;> grind -linarith [of]
  all_goals
    try dsimp
    constructor <;> first | assumption | grind -linarith [NothingOpen, Ordered, after, of]

theorem barrierKept_initial (deviceId deviceName : WString) :
    BarrierKept (initial deviceId deviceName) := by
  constructor <;> simp [initial, Ledger.empty, Ordered, after, of]

/-- No connection is created while another one is open or is being closed: in every run, at every
`Create` call nothing is open, and every connection that was closed before it has had its
completion and the end of its cooldown. -/
theorem create_behind_barrier {deviceId deviceName : WString} {es : List Event}
    (hrun : (deviceSession p).Run (initial deviceId deviceName) es) :
    (∀ b ∈ ((deviceSession p).exec (initial deviceId deviceName) es).ledger.creates,
      NothingOpen b) ∧
      Ordered ((deviceSession p).exec (initial deviceId deviceName) es).ledger.barrier := by
  have hkept : BarrierKept ((deviceSession p).exec (initial deviceId deviceName) es) :=
    run_preserves (fun _ _ _ hs h => h.barrierKept hs) (fun _ _ _ hs h => h.barrierKept hs)
      (inv_initial deviceId deviceName) (barrierKept_initial deviceId deviceName) hrun
  exact ⟨hkept.creates, hkept.ordered⟩

/-- A start that fails, the close of its connection, and a second start. -/
def failedStart : List Event :=
  [.operation (.connect .manualConnect true), .started 1 ⟨0, 7⟩ .failed,
    .operation (.connect .manualConnect true), .closeBarrier 1 false, .closeCooldown 1,
    .operation (.connect .manualConnect true)]

theorem create_behind_barrier_failedStart :
    (∀ b ∈ ((deviceSession obligingPlatform).exec (initial [65] [66]) failedStart).ledger.creates,
      NothingOpen b) ∧
      Ordered ((deviceSession obligingPlatform).exec (initial [65] [66])
        failedStart).ledger.barrier :=
  create_behind_barrier (by decide)

end Session

end PlaybackConnector
