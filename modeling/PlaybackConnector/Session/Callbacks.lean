import PlaybackConnector.Session.Steps

/-!
# Stale callbacks

A callback of a connection knows the connection by the operation epoch and by its address. A
transient retry creates its connections under one epoch, so two of them can share both, and then a
callback of the first is taken for one of the second (`reused_address_fails_retry`). As long as no
other connection of the present epoch had the present connection's address, a callback of a
connection that is not the present one does nothing (`stale_callback_inert`).
-/

namespace PlaybackConnector

namespace Session

variable {p : Platform} {e : Event} {s t u : Session}

/-- The callbacks that the platform holds are callbacks of created connections, and the connection
of the session is the one created last; the epochs that connections were created under grow. -/
structure CallbacksCoherent (s : Session) : Prop where
  handed : ∀ callback epoch c, .connection callback epoch c ∈ s.ledger.handed →
    (epoch, c) ∈ s.ledger.created
  current : ∀ c, s.connection = some c → ∃ epoch, s.ledger.created.head? = some (epoch, c)
  newest : ∀ x ∈ s.ledger.created, ∀ y, s.ledger.created.head? = some y → x.1 ≤ y.1
  past : ∀ x ∈ s.ledger.created, x.1 ≤ s.operationEpoch

theorem createConnection_created (epoch : Nat) :
    (s.createConnection p epoch).ledger.created =
      (s.createdConnection p).toList.map (epoch, ·) ++ s.ledger.created := rfl

theorem createConnection_connection (epoch : Nat) :
    (s.createConnection p epoch).connection = s.createdConnection p := rfl

theorem CallbacksCoherent.create (hs : CallbacksCoherent s) :
    CallbacksCoherent (s.createConnection p s.operationEpoch) := by
  obtain ⟨h1, h2, h3, h4⟩ := hs
  cases hc : s.createdConnection p with
  | none =>
    have hcreated := createConnection_created (p := p) (s := s) s.operationEpoch
    rw [hc] at hcreated
    refine ⟨by rwa [hcreated], ?_, by rwa [hcreated], by rwa [hcreated]⟩
    intro c hconn
    rw [createConnection_connection, hc] at hconn
    cases hconn
  | some c =>
    have hcreated : (s.createConnection p s.operationEpoch).ledger.created =
        (s.operationEpoch, c) :: s.ledger.created := by
      rw [createConnection_created, hc]
      rfl
    have hpast (x) (hx : x ∈ (s.operationEpoch, c) :: s.ledger.created) :
        x.1 ≤ s.operationEpoch := by
      rcases List.mem_cons.1 hx with rfl | hx
      · exact Nat.le_refl _
      · exact h4 x hx
    refine ⟨?_, ?_, ?_, by rwa [hcreated]⟩
    · intro callback epoch c' hc'
      rw [hcreated]
      exact List.mem_cons_of_mem _ (h1 _ _ _ hc')
    · intro c' hconn
      rw [createConnection_connection, hc] at hconn
      cases hconn
      exact ⟨s.operationEpoch, by rw [hcreated]; rfl⟩
    · rw [hcreated]
      rintro x hx y hy
      cases hy
      exact hpast x hx

/-- A new epoch. -/
theorem CallbacksCoherent.later (hs : CallbacksCoherent s)
    (hledger : t.ledger.handed = s.ledger.handed ∧ t.ledger.created = s.ledger.created)
    (hconn : t.connection = none) (hep : s.operationEpoch ≤ t.operationEpoch) :
    CallbacksCoherent t := by
  obtain ⟨h1, h2, h3, h4⟩ := hs
  obtain ⟨hh, hc⟩ := hledger
  refine ⟨by rwa [hh, hc], by simp [hconn], by rwa [hc], ?_⟩
  rw [hc]
  exact fun x hx => Nat.le_trans (h4 x hx) hep

/-- The connection of the session was created under the present epoch, when another connection
was. -/
theorem CallbacksCoherent.mem_created (hs : CallbacksCoherent s) {c c' : NativeConnection}
    (hc : s.connection = some c) (hc' : (s.operationEpoch, c') ∈ s.ledger.created) :
    (s.operationEpoch, c) ∈ s.ledger.created := by
  obtain ⟨epoch, hhead⟩ := hs.current c hc
  have hmem := List.mem_of_head? hhead
  have hle : epoch ≤ s.operationEpoch := hs.past _ hmem
  have hge : s.operationEpoch ≤ epoch := hs.newest _ hc' _ hhead
  rwa [Nat.le_antisymm hle hge] at hmem

/-- A callback of a created connection is given to the platform. -/
theorem CallbacksCoherent.hand (hs : CallbacksCoherent s) {callback : ConnectionCallback}
    {epoch : Nat} {c : NativeConnection} (hc : (epoch, c) ∈ s.ledger.created) (returned : Bool)
    (token : Nat) :
    CallbacksCoherent { s with
      stateChangedToken := token
      ledger := s.ledger.hand (.connection callback epoch c) returned } := by
  refine ⟨?_, hs.current, hs.newest, hs.past⟩
  intro callback' epoch' c' hc'
  rcases List.mem_cons.1 hc' with h | h
  · cases h
    exact hc
  · exact hs.handed _ _ _ h

theorem Move.callbacksCoherent (h : Move p e s t) (hs : CallbacksCoherent s) :
    CallbacksCoherent t := by
  have hsame := hs
  obtain ⟨h1, h2, h3, h4⟩ := hs
  cases h
  case startCreate operation openImmediately hcan hcause hc =>
    exact CallbacksCoherent.create (hsame.later ⟨rfl, rfl⟩ hc (Nat.le_succ _))
  case timerCreate hsd hwait hc => exact CallbacksCoherent.create (hsame.later ⟨rfl, rfl⟩ hc (Nat.le_refl _))
  case replaceCreate hends hsu ha hcont =>
    exact CallbacksCoherent.create (s := s.endCooldown.clearPendingClose) ⟨h1, h2, h3, h4⟩
  case endRestarted hends hsus hrqd hreq hname =>
    exact CallbacksCoherent.create (hsame.later ⟨rfl, rfl⟩ rfl (Nat.le_succ _))
  case register c hc hcreated => exact hsame.hand (List.mem_of_head? hcreated) false _
  case start c hc hcreated => exact hsame.hand (List.mem_of_head? hcreated) _ _
  case openConnection c c' hc hstarted =>
    exact hsame.hand (hsame.mem_created hc (h1 _ _ _ hstarted)) _ _
  all_goals
    try dsimp
    constructor <;> first | assumption | grind -linarith

theorem Head.callbacksCoherent (hcoh : Coherent s.toSessionState) (h : Head p s e t)
    (hs : CallbacksCoherent s) : CallbacksCoherent t := by
  have hsame := hs
  obtain ⟨h1, h2, h3, h4⟩ := hs
  cases h
  case disconnectIdle | disconnectClose =>
    cases ‹Disconnecting _ _ _ _› <;> constructor <;> dsimp <;> grind -linarith
  case cancelNothing | cancelIdle | cancelClose =>
    cases ‹Cancelling _ _ _› <;> constructor <;> dsimp <;> grind -linarith
  case resumeRestarted hsd hsu hpend hreq hnf hdisc hname =>
    exact CallbacksCoherent.create (hsame.later ⟨rfl, rfl⟩ (hcoh.suspended hsu) (Nat.le_succ _))
  all_goals
    try dsimp
    constructor <;> first | assumption | grind -linarith

theorem callbacksCoherent_initial (deviceId deviceName : WString) :
    CallbacksCoherent (initial deviceId deviceName) := by
  constructor <;> simp [initial, Ledger.empty]

theorem step_callbacksCoherent (hs : Inv s) (he : (deviceSession p).enabled s e)
    (hc : CallbacksCoherent s) : CallbacksCoherent ((deviceSession p).step s e) :=
  step_establishes hs he (fun _ hu => hu.callbacksCoherent hs.coherent hc)
    fun _ _ _ hm hi => hm.callbacksCoherent hi

/-! ## Stale callbacks -/

/-- The epoch and the connection that a connection callback captures. -/
def captured : Event → Option (Nat × NativeConnection)
  | .started epoch c _ | .opened epoch c _ | .stateChanged epoch c _ | .failurePosted _ epoch c =>
    some (epoch, c)
  | _ => none

/-- The event is a callback of a connection that is not the session's, or not any more. -/
def StaleCallback (s : SessionState) (e : Event) : Prop :=
  ∃ epoch c, captured e = some (epoch, c) ∧ s.connection ≠ some c

/-- A connection other than the present one was created under the present epoch, at the present
one's address. -/
def AddressReused (s : Session) : Prop :=
  ∃ x ∈ s.ledger.created, x.1 = s.operationEpoch ∧ s.connection ≠ some x.2 ∧
    s.connection.map (·.address) = some x.2.address

instance (s : Session) : Decidable (AddressReused s) :=
  inferInstanceAs (Decidable (∃ x ∈ s.ledger.created, x.1 = s.operationEpoch ∧ _))

/-- A stale callback changes no field of the session, and publishes nothing. -/
def Inert (p : Platform) (s : Session) (e : Event) : Prop :=
  StaleCallback s.toSessionState e →
    ((deviceSession p).step s e).toSessionState = s.toSessionState ∧
      ((deviceSession p).step s e).ledger.facts = s.ledger.facts

/-- The guard of the callbacks sees that a connection is not the present one. -/
theorem isCurrentConnection_stale (hs : CallbacksCoherent s) {callback : ConnectionCallback}
    {epoch : Nat} {c : NativeConnection} (hhanded : .connection callback epoch c ∈ s.ledger.handed)
    (hstale : s.connection ≠ some c) (hfresh : ¬ AddressReused s) :
    isCurrentConnection s.toSessionState epoch c = false := by
  cases hcur : isCurrentConnection s.toSessionState epoch c with
  | false => rfl
  | true =>
    obtain ⟨-, rfl, c', hc', haddress⟩ := isCurrentConnection_iff.1 hcur
    exact absurd ⟨_, hs.handed _ _ _ hhanded, rfl, hstale, by simp [hc', haddress]⟩ hfresh

theorem step_inert (hs : CallbacksCoherent s) (he : (deviceSession p).enabled s e)
    (hfresh : ¬ AddressReused s) : Inert p s e := by
  rintro ⟨epoch, c, hcap, hstale⟩
  have hcur {callback : ConnectionCallback} (h : e.continuation = some (.connection callback epoch c)) :
      isCurrentConnection s.toSessionState epoch c = false :=
    isCurrentConnection_stale hs (he _ h) hstale hfresh
  have hguard {s : SessionState} (h : isCurrentConnection s epoch c = false) :
      (!isCurrentConnection s epoch c) = true := by rw [h]; rfl
  have hstep : (deviceSession p).step s e = s.delivered e := by
    unfold captured at hcap
    split at hcap
    · cases hcap
      exact if_pos (hguard (hcur rfl))
    · cases hcap
      exact if_pos (hguard (hcur rfl))
    · cases hcap
      exact if_pos (.inl (hguard (hcur rfl)))
    · cases hcap
      exact if_neg (ne_true_of_eq_false (hcur rfl))
    · cases hcap
  rw [hstep]
  unfold delivered
  split <;> exact ⟨rfl, rfl⟩

/-- Stale callbacks are inert along every run in which the allocator gives no two connections of
one epoch the address of the present one. -/
theorem stale_callback_inert {deviceId deviceName : WString} {es : List Event}
    (hrun : (deviceSession p).Run (initial deviceId deviceName) es)
    (hfresh : (deviceSession p).Always (fun s _ => ¬ AddressReused s)
      (initial deviceId deviceName) es) :
    (deviceSession p).Always (Inert p) (initial deviceId deviceName) es := by
  refine (hrun.and hfresh).of_invariant (I := fun s => Inv s ∧ CallbacksCoherent s) ?_ ?_
    ⟨inv_initial _ _, callbacksCoherent_initial _ _⟩
  · intro s e h hs
    exact ⟨step_inv h.1 hs.1, step_callbacksCoherent hs.1 h.1 hs.2⟩
  · intro s e h hs
    exact step_inert hs.2 h.1 h.2

/-- A connection whose open failed transiently is replaced by one at its address, under its
epoch. -/
def transientRetry : List Event :=
  [.operation (.connect .manualConnect true), .started 1 ⟨0, 7⟩ .success,
    .opened 1 ⟨0, 7⟩ ⟨.timedOut, true⟩, .closeBarrier 1 false, .closeCooldown 1,
    .transientOpenRetryTimer 2 1]

/-- The `Closed` of the first connection fails the second. -/
theorem reused_address_fails_retry :
    let s := (deviceSession obligingPlatform).exec (initial [65] [66]) transientRetry
    (deviceSession obligingPlatform).Run (initial [65] [66])
        (transientRetry ++ [.stateChanged 1 ⟨0, 7⟩ .closed]) ∧
      s.connection = some ⟨1, 7⟩ ∧ ¬ Inert obligingPlatform s (.stateChanged 1 ⟨0, 7⟩ .closed) := by
  intro s
  refine ⟨by decide, by decide, fun hinert => ?_⟩
  have hsame := (hinert ⟨1, ⟨0, 7⟩, rfl, by decide⟩).1
  exact absurd (congrArg (·.lifecycle) hsame) (by decide)

/-- The late completion of a start whose connection was closed. -/
theorem stale_callback_inert_lateStart :
    (deviceSession obligingPlatform).Always (Inert obligingPlatform) (initial [65] [66])
      [.operation (.connect .manualConnect true), .operation (.disconnect false),
        .started 1 ⟨0, 7⟩ .success] :=
  stale_callback_inert (by decide) (by decide)

end Session

end PlaybackConnector
