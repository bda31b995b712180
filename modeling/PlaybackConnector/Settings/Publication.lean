import PlaybackConnector.Transition.Delivery
import PlaybackConnector.Settings.Saved

/-!
# The publication of settings

How `SettingsStore` tells its subscribers of what it commits (`SettingsStore.cpp:177`). The store of
`settingsStore` is one part of the state, and goes its way as if nobody had subscribed
(`publishingStore_store`). A commit queues the new snapshot for the subscriptions of that moment in
its own critical section, and its thread then comes to drain the queue. A callback can commit,
subscribe and reset like any other code.

What no code reads comes last: the committed revisions with the subscriptions of their moment, and
the subscriptions whose `Reset` has returned to a thread that was not in their callback.
-/

namespace PlaybackConnector.Settings

/-- Source: `SettingsSnapshot` (`SettingsStore.hpp:20`). -/
structure SettingsSnapshot where
  data : SettingsData
  revision : Nat
  isDirty : Bool
deriving DecidableEq

namespace Publication

/-- A `std::thread::id`. -/
abbrev ThreadId := Nat

/-- The number of a subscription. -/
abbrev SubscriptionId := Nat

/-- Where a `Reset` stands: in `DeactivateAndWait`, or before the subscription is erased, with
whether it was called in the subscription's callback. -/
inductive Reset
  | waiting (thread : ThreadId) (subscription : SubscriptionId)
  | erasing (subscription : SubscriptionId) (inside : Bool)
deriving Repr, DecidableEq

/-- The store, its subscriptions and its publications. The field `delivery` holds `subscriptions`
with the fields of their `SubscriptionState`, `pendingPublications`, `publishing` and
`publisherThread` (`SettingsStore.cpp:183`). -/
structure State where
  store : Store.State := {}
  nextSubscriptionId : Nat := 0
  delivery : Delivery SubscriptionId SettingsSnapshot ThreadId := {}
  /-- The threads that have committed, and come to drain the publications. -/
  arriving : List ThreadId := []
  resets : List Reset := []
  commits : List (Nat × List SubscriptionId) := []
  fenced : List SubscriptionId := []

/-- The snapshot that a step of the store commits. Source: `Commit` (`SettingsStore.cpp:499`) and
`Load` (`SettingsStore.cpp:658`). -/
def committed (event : Store.Event) (s t : Store.State) : Option SettingsSnapshot :=
  if t.revision = s.revision then none
  else
    some {
      data := t.data
      revision := t.revision
      isDirty :=
        match event with
        | .commitLoad _ => false
        | _ => t.revision ≠ s.persistedRevision }

/-- The commit is published. Source: `Commit` (`SettingsStore.cpp:498`) and `shouldPublish`
(`SettingsStore.cpp:655`). -/
def shouldPublish (event : Store.Event) (s : State) : Bool :=
  match event with
  | .commitLoad _ => !s.store.closing && s.delivery.registered ≠ []
  | _ => s.delivery.registered ≠ []

/-- What a step of the store means to its subscribers. They are listed in the order in which the
table holds them. -/
def publish (thread : ThreadId) (event : Store.Event) (recipients : List SubscriptionId)
    (t : Store.State) (s : State) : State :=
  match event with
  | .close _ _ => { s with store := t, delivery := s.delivery.retireAll }
  | _ =>
    match committed event s.store t with
    | none => { s with store := t }
    | some snapshot =>
      { s with
        store := t
        delivery := if shouldPublish event s then s.delivery.accept snapshot recipients else s.delivery
        arriving := thread :: s.arriving
        commits := (snapshot.revision, recipients) :: s.commits }

/-- Source: `Subscribe` (`SettingsStore.cpp:588`). -/
def subscribe (s : State) : State :=
  if s.store.shutdownRequested ∨ s.store.closing then s
  else
    { s with
      nextSubscriptionId := s.nextSubscriptionId + 1
      delivery := s.delivery.register (s.nextSubscriptionId + 1) }

/-- The first critical section of a `Reset`. Source: `DeactivateAndWait`
(`SettingsStore.cpp:211`). -/
def reset (thread : ThreadId) (subscription : SubscriptionId) (s : State) : State :=
  { s with
    delivery := s.delivery.deactivate subscription
    resets :=
      (if (subscription, thread) ∈ s.delivery.executing then .erasing subscription true
        else .waiting thread subscription) :: s.resets }

/-- The end of the wait. Source: `DeactivateAndWait` (`SettingsStore.cpp:217`). -/
def wake (thread : ThreadId) (subscription : SubscriptionId) (s : State) : State :=
  { s with
    resets := .erasing subscription false :: s.resets.erase (.waiting thread subscription) }

/-- The subscription is erased, and `Reset` returns. Source: `Subscribe`
(`SettingsStore.cpp:599`). -/
def erase (subscription : SubscriptionId) (inside : Bool) (s : State) : State :=
  { s with
    delivery := s.delivery.retire subscription
    resets := s.resets.erase (.erasing subscription inside)
    fenced := if inside then s.fenced else subscription :: s.fenced }

/-- A thread that has committed comes to drain the publications. Source: `DrainPublications`
(`SettingsStore.cpp:437`). -/
def arrive (thread : ThreadId) (s : State) : State :=
  { s with
    delivery := s.delivery.enter thread
    arriving := s.arriving.erase thread }

/-- What happens in the store and to its subscribers. -/
inductive Event
  /-- A step of the store, with the subscriptions as its table lists them. -/
  | store (thread : ThreadId) (event : Store.Event) (recipients : List SubscriptionId)
  | subscribe
  | reset (thread : ThreadId) (subscription : SubscriptionId)
  | wake (thread : ThreadId) (subscription : SubscriptionId)
  | erase (subscription : SubscriptionId) (inside : Bool)
  | arrive (thread : ThreadId)
  /-- A step of the loop of `DrainPublications` (`SettingsStore.cpp:444`). -/
  | drain (loop : ThreadId × Delivery.Point SubscriptionId SettingsSnapshot)

/-- The event can happen. -/
def Enabled (s : State) : Event → Prop
  | .store _ event recipients => Store.Enabled s.store event ∧ recipients.Perm s.delivery.registered
  | .subscribe => True
  | .reset _ subscription => 0 < subscription ∧ subscription ≤ s.nextSubscriptionId
  | .wake thread subscription => .waiting thread subscription ∈ s.resets ∧
      subscription ∉ s.delivery.executing.map Prod.fst
  | .erase subscription inside => .erasing subscription inside ∈ s.resets
  | .arrive thread => thread ∈ s.arriving
  | .drain loop => loop ∈ s.delivery.loops

/-- The state after an event. -/
def step (lib : TextLibraries) (s : State) : Event → State
  | .store thread event recipients =>
    publish thread event recipients (Store.step lib s.store event) s
  | .subscribe => subscribe s
  | .reset thread subscription => reset thread subscription s
  | .wake thread subscription => wake thread subscription s
  | .erase subscription inside => erase subscription inside s
  | .arrive thread => arrive thread s
  | .drain loop => { s with delivery := s.delivery.advance loop }

end Publication

/-- The settings store and its subscribers, from its construction on. -/
def publishingStore (lib : TextLibraries) : EventSystem Publication.State Publication.Event where
  enabled := Publication.Enabled
  step := Publication.step lib

namespace Publication

variable {lib : TextLibraries} {s : State} {event : Event} {thread : ThreadId}
  {subscription : SubscriptionId}

/-! ## The store goes its way -/

@[simp] theorem publish_store (event : Store.Event) (recipients : List SubscriptionId)
    (t : Store.State) : (publish thread event recipients t s).store = t := by
  unfold publish
  split
  · rfl
  · split <;> rfl

@[simp] theorem subscribe_store : (subscribe s).store = s.store := by
  unfold subscribe
  split <;> rfl

/-- The steps of the store in a run. -/
def storeEvents (events : List Event) : List Store.Event :=
  events.filterMap fun
    | .store _ event _ => some event
    | _ => none

/-- The store of a run with subscribers is the store of the run without them. -/
theorem publishingStore_store : ∀ (events : List Event) (s : State),
    ((publishingStore lib).exec s events).store =
      (settingsStore lib).exec s.store (storeEvents events) ∧
    ((publishingStore lib).Run s events → (settingsStore lib).Run s.store (storeEvents events))
  | [], _ => ⟨rfl, fun _ => trivial⟩
  | event :: events, s => by
    obtain ⟨hexec, hrun⟩ := publishingStore_store events ((publishingStore lib).step s event)
    cases event with
    | store thread event recipients =>
      have hstore : ((publishingStore lib).step s (.store thread event recipients)).store =
          (settingsStore lib).step s.store event := publish_store event recipients _
      rw [hstore] at hexec hrun
      exact ⟨hexec, fun h => ⟨h.1.1, hrun h.2⟩⟩
    | subscribe =>
      have hstore : ((publishingStore lib).step s .subscribe).store = s.store := subscribe_store
      rw [hstore] at hexec hrun
      exact ⟨hexec, fun h => hrun h.2⟩
    | reset | wake | erase | arrive | drain => exact ⟨hexec, fun h => hrun h.2⟩

/-! ## What is published -/

/-- The committed revisions while a subscription was registered, the latest first. -/
def State.committedFor (s : State) (subscription : SubscriptionId) : List Nat :=
  (s.commits.filter fun commit => subscription ∈ commit.2).map Prod.fst

/-- What holds between any two events. -/
structure Inv (s : State) : Prop where
  store : Store.Inv s.store
  delivery : s.delivery.Inv
  closing : s.store.closing = true → s.delivery.registered = []
  numbered : ∀ subscription ∈ s.delivery.registered, subscription ≤ s.nextSubscriptionId
  ordered : (s.commits.map Prod.fst).Pairwise (· > ·)
  bounded : ∀ commit ∈ s.commits, commit.1 ≤ s.store.revision
  accepted : ∀ subscription, (Delivery.acceptedFor subscription s.delivery.history).map
    SettingsSnapshot.revision = s.committedFor subscription
  drained : s.delivery.queue ≠ [] → s.delivery.draining = true ∨ s.arriving ≠ []
  waiting : ∀ thread subscription, .waiting thread subscription ∈ s.resets →
    s.delivery.mayCall subscription = false
  erasing : ∀ subscription, .erasing subscription false ∈ s.resets →
    s.delivery.Quiet subscription
  fenced : ∀ subscription ∈ s.fenced, s.delivery.Quiet subscription

theorem inv_initial : Inv {} where
  store := Store.inv_initial
  delivery := .initial
  closing := nofun
  numbered := nofun
  ordered := .nil
  bounded := nofun
  accepted := fun _ => rfl
  drained := fun h => absurd rfl h
  waiting := nofun
  erasing := nofun
  fenced := nofun

/-- A step of the store that commits nothing leaves the subscribers alone. -/
theorem Inv.keep (hs : Inv s) {t : Store.State} (ht : Store.Inv t)
    (hclosing : t.closing = true → s.delivery.registered = [])
    (hrevision : s.store.revision ≤ t.revision) : Inv { s with store := t } where
  store := ht
  delivery := hs.delivery
  closing := hclosing
  numbered := hs.numbered
  ordered := hs.ordered
  bounded := fun commit h => (hs.bounded commit h).trans hrevision
  accepted := hs.accepted
  drained := hs.drained
  waiting := hs.waiting
  erasing := hs.erasing
  fenced := hs.fenced

/-- A step of the store that commits a snapshot. -/
theorem Inv.commit (hs : Inv s) {event : Store.Event} {recipients : List SubscriptionId}
    (hperm : recipients.Perm s.delivery.registered) {t : Store.State} (ht : Store.Inv t)
    (hclosing : t.closing = true → s.delivery.registered = []) {snapshot : SettingsSnapshot}
    (hsnapshot : snapshot.revision = t.revision) (hlt : s.store.revision < t.revision) :
    Inv { s with
      store := t
      delivery := if shouldPublish event s then s.delivery.accept snapshot recipients else s.delivery
      arriving := thread :: s.arriving
      commits := (snapshot.revision, recipients) :: s.commits } := by
  have hordered : ((snapshot.revision :: s.commits.map Prod.fst)).Pairwise (· > ·) := by
    refine List.pairwise_cons.2 ⟨fun revision hmem => ?_, hs.ordered⟩
    obtain ⟨commit, hcommit, rfl⟩ := List.mem_map.1 hmem
    have hle := hs.bounded commit hcommit
    omega
  have hbounded : ∀ commit ∈ (snapshot.revision, recipients) :: s.commits,
      commit.1 ≤ t.revision := by
    intro commit hmem
    rcases List.mem_cons.1 hmem with rfl | hmem
    · exact Nat.le_of_eq hsnapshot
    · exact (hs.bounded commit hmem).trans hlt.le
  have hcommitted : ∀ subscription, (((snapshot.revision, recipients) ::
      s.commits).filter fun commit => subscription ∈ commit.2).map Prod.fst =
      (if subscription ∈ recipients then [snapshot.revision] else []) ++
        s.committedFor subscription := by
    intro subscription
    by_cases hmem : subscription ∈ recipients
    · simp [State.committedFor, hmem]
    · simp [State.committedFor, hmem]
  cases hpublish : shouldPublish event s with
  | true =>
    refine ⟨ht, hs.delivery.accept hperm, hclosing, hs.numbered, hordered, hbounded,
      fun subscription => ?_, fun _ => .inr (List.cons_ne_nil _ _), hs.waiting,
      fun subscription h => (hs.erasing subscription h).accept.quiet,
      fun subscription h => (hs.fenced subscription h).accept.quiet⟩
    refine Eq.trans ?_ (hcommitted subscription).symm
    rw [← hs.accepted]
    simp only [if_true, Delivery.accept, Delivery.acceptedFor_accepted, List.map_append]
    split <;> rfl
  | false =>
    have hnobody : s.delivery.registered = [] := by
      cases event with
      | commitLoad now =>
        simp only [shouldPublish, Bool.and_eq_false_iff, Bool.not_eq_false',
          decide_eq_false_iff_not, not_not] at hpublish
        exact hpublish.elim hs.closing id
      | _ => simpa [shouldPublish] using hpublish
    refine ⟨ht, hs.delivery, hclosing, hs.numbered, hordered, hbounded,
      fun subscription => ?_, fun _ => .inr (List.cons_ne_nil _ _), hs.waiting, hs.erasing,
      hs.fenced⟩
    refine Eq.trans ?_ (hcommitted subscription).symm
    rw [hnobody] at hperm
    rw [← hs.accepted, List.perm_nil.1 hperm]
    rfl

/-- A step of the store that closes it. -/
theorem Inv.retireAll (hs : Inv s) {t : Store.State} (ht : Store.Inv t)
    (hrevision : s.store.revision ≤ t.revision) :
    Inv { s with store := t, delivery := s.delivery.retireAll } where
  store := ht
  delivery := hs.delivery.retireAll
  closing := fun _ => rfl
  numbered := nofun
  ordered := hs.ordered
  bounded := fun commit h => (hs.bounded commit h).trans hrevision
  accepted := hs.accepted
  drained := hs.drained
  waiting := fun thread subscription h =>
    Delivery.mayCall_retireAll (hs.waiting thread subscription h)
  erasing := fun subscription h => (hs.erasing subscription h).retireAll.quiet
  fenced := fun subscription h => (hs.fenced subscription h).retireAll.quiet

/-- A step of the store. -/
theorem Inv.publish (hs : Inv s) {event : Store.Event} {recipients : List SubscriptionId}
    (h : Store.Enabled s.store event) (hperm : recipients.Perm s.delivery.registered) :
    Inv (publish thread event recipients (Store.step lib s.store event) s) := by
  have ht : Store.Inv (Store.step lib s.store event) := Store.step_inv lib s.store event h hs.store
  obtain ⟨hclosing, hrevision⟩ := Store.step_monotone lib hs.store.core h
  have hcommits : ∀ t, (t.closing = true → s.delivery.registered = []) → Store.Inv t →
      s.store.revision ≤ t.revision → Inv (match committed event s.store t with
      | none => { s with store := t }
      | some snapshot =>
        { s with
          store := t
          delivery := if shouldPublish event s then s.delivery.accept snapshot recipients else s.delivery
          arriving := thread :: s.arriving
          commits := (snapshot.revision, recipients) :: s.commits }) := by
    intro t hclosing ht hrevision
    by_cases hsame : t.revision = s.store.revision
    · simp only [committed, if_pos hsame]
      exact hs.keep ht hclosing hrevision
    · simp only [committed, if_neg hsame]
      exact hs.commit hperm ht hclosing rfl (by omega)
  cases event with
  | close mode maximumAttempts => exact hs.retireAll ht hrevision
  | _ =>
    have hkept := hclosing.trans (Bool.or_false _)
    exact hcommits _ (fun h => hs.closing (hkept ▸ h)) ht hrevision

theorem Inv.subscribe (hs : Inv s) : Inv (subscribe s) := by
  unfold Publication.subscribe
  split
  · exact hs
  next hopen =>
    have hfresh : s.nextSubscriptionId + 1 ∉ s.delivery.registered := fun hmem => by
      exact absurd (hs.numbered _ hmem) (Nat.not_succ_le_self _)
    refine ⟨hs.store, hs.delivery.register hfresh, fun hclosing => absurd (.inr hclosing) hopen,
      fun subscription hmem => ?_, hs.ordered, hs.bounded, hs.accepted, hs.drained, hs.waiting,
      fun subscription h => ((hs.erasing subscription h).register).quiet,
      fun subscription h => ((hs.fenced subscription h).register).quiet⟩
    rcases List.mem_append.1 hmem with hmem | hmem
    · exact Nat.le_succ_of_le (hs.numbered subscription hmem)
    · exact Nat.le_of_eq (List.mem_singleton.1 hmem)

theorem Inv.reset (hs : Inv s) : Inv (reset thread subscription s) where
  store := hs.store
  delivery := hs.delivery.deactivate
  closing := hs.closing
  numbered := hs.numbered
  ordered := hs.ordered
  bounded := hs.bounded
  accepted := hs.accepted
  drained := hs.drained
  waiting := fun thread' other h => by
    rcases List.mem_cons.1 h with heq | h
    · split at heq
      · cases heq
      · obtain ⟨-, rfl⟩ := Reset.waiting.inj heq
        exact Delivery.mayCall_deactivate_self
    · exact Delivery.mayCall_deactivate (hs.waiting thread' other h)
  erasing := fun other h => by
    rcases List.mem_cons.1 h with heq | h
    · split at heq <;> cases heq
    · exact (hs.erasing other h).deactivate.quiet
  fenced := fun other h => (hs.fenced other h).deactivate.quiet

theorem Inv.wake (lib : TextLibraries) (hs : Inv s)
    (h : (publishingStore lib).enabled s (.wake thread subscription)) :
    Inv (wake thread subscription s) where
  store := hs.store
  delivery := hs.delivery
  closing := hs.closing
  numbered := hs.numbered
  ordered := hs.ordered
  bounded := hs.bounded
  accepted := hs.accepted
  drained := hs.drained
  waiting := fun thread' other hmem => by
    rcases List.mem_cons.1 hmem with heq | hmem
    · cases heq
    · exact hs.waiting thread' other (List.mem_of_mem_erase hmem)
  erasing := fun other hmem => by
    rcases List.mem_cons.1 hmem with heq | hmem
    · obtain ⟨rfl, -⟩ := Reset.erasing.inj heq
      exact ⟨hs.waiting thread other h.1, h.2⟩
    · exact hs.erasing other (List.mem_of_mem_erase hmem)
  fenced := hs.fenced

theorem Inv.erase (lib : TextLibraries) (hs : Inv s) {inside : Bool}
    (h : (publishingStore lib).enabled s (.erase subscription inside)) :
    Inv (erase subscription inside s) where
  store := hs.store
  delivery := hs.delivery.retire
  closing := fun hclosing => by
    have hnone := hs.closing hclosing
    simp [Publication.erase, Delivery.retire, hnone]
  numbered := fun other hmem => hs.numbered other (List.mem_of_mem_erase hmem)
  ordered := hs.ordered
  bounded := hs.bounded
  accepted := hs.accepted
  drained := hs.drained
  waiting := fun thread other hmem => hs.waiting thread other (List.mem_of_mem_erase hmem)
  erasing := fun other hmem => hs.erasing other (List.mem_of_mem_erase hmem)
  fenced := fun other hmem => by
    cases inside with
    | true => exact hs.fenced other hmem
    | false =>
      rcases List.mem_cons.1 hmem with rfl | hmem
      · exact hs.erasing other h
      · exact hs.fenced other hmem

theorem Inv.arrive (hs : Inv s) : Inv (arrive thread s) where
  store := hs.store
  delivery := hs.delivery.enter
  closing := fun hclosing => Delivery.enter_registered.trans (hs.closing hclosing)
  numbered := fun other hmem => hs.numbered other (by simpa [Publication.arrive] using hmem)
  ordered := hs.ordered
  bounded := hs.bounded
  accepted := fun subscription =>
    (congrArg (fun history => (Delivery.acceptedFor subscription history).map
      SettingsSnapshot.revision) Delivery.enter_history).trans (hs.accepted subscription)
  drained := fun _ => .inl Delivery.enter_draining
  waiting := fun thread' other hmem => Delivery.mayCall_enter.trans (hs.waiting thread' other hmem)
  erasing := fun other hmem => (hs.erasing other hmem).enter.quiet
  fenced := fun other hmem => (hs.fenced other hmem).enter.quiet

theorem Inv.drain (hs : Inv s) {loop : ThreadId × Delivery.Point SubscriptionId SettingsSnapshot}
    (h : loop ∈ s.delivery.loops) : Inv { s with delivery := s.delivery.advance loop } where
  store := hs.store
  delivery := hs.delivery.advance h
  closing := fun hclosing => Delivery.advance_registered.trans (hs.closing hclosing)
  numbered := fun other hmem => hs.numbered other (by simpa using hmem)
  ordered := hs.ordered
  bounded := hs.bounded
  accepted := fun subscription =>
    (congrArg _ Delivery.acceptedFor_advance).trans (hs.accepted subscription)
  drained := fun hqueue => .inl (hs.delivery.advance_draining h hqueue)
  waiting := fun thread other hmem => Delivery.mayCall_advance.trans (hs.waiting thread other hmem)
  erasing := fun other hmem => (hs.erasing other hmem).advance.quiet
  fenced := fun other hmem => (hs.fenced other hmem).advance.quiet

theorem step_inv (lib : TextLibraries) (s : State) (e : Event) (h : Enabled s e) (hs : Inv s) :
    Inv (step lib s e) := by
  cases e with
  | store thread event recipients => exact hs.publish h.1 h.2
  | subscribe => exact hs.subscribe
  | reset thread subscription => exact hs.reset
  | wake thread subscription => exact hs.wake lib h
  | erase subscription inside => exact hs.erase lib h
  | arrive thread => exact hs.arrive
  | drain loop => exact hs.drain h

/-! ## A subscription that is quiet stays so -/

theorem quiet_publish (event : Store.Event) (recipients : List SubscriptionId) (t : Store.State)
    (h : s.delivery.Quiet subscription) :
    Delivery.Calm subscription s.delivery (publish thread event recipients t s).delivery := by
  unfold publish
  split
  · exact h.retireAll
  · split
    · exact h.refl
    · dsimp only
      split
      · exact h.accept
      · exact h.refl

theorem quiet_step (lib : TextLibraries) (event : Event) (h : s.delivery.Quiet subscription) :
    Delivery.Calm subscription s.delivery (step lib s event).delivery := by
  cases event with
  | store thread event recipients => exact quiet_publish event recipients _ h
  | subscribe =>
    simp only [step, subscribe]
    split
    · exact h.refl
    · exact h.register
  | reset thread other => exact h.deactivate
  | wake thread other => exact h.refl
  | erase other inside => exact h.retire
  | arrive thread => exact h.enter
  | drain loop => exact h.advance

/-- In a run, a subscription that is quiet is told of nothing more. -/
theorem quiet_exec (lib : TextLibraries) : ∀ (events : List Event) (s : State),
    s.delivery.Quiet subscription →
      Delivery.Calm subscription s.delivery ((publishingStore lib).exec s events).delivery
  | [], _, h => h.refl
  | event :: events, s, h => by
    have hstep := quiet_step lib event h
    have hexec := quiet_exec lib events (step lib s event) hstep.quiet
    exact ⟨hexec.quiet, hexec.told.trans hstep.told⟩

/-! ## In every run -/

/-- The revisions that a subscriber was told of, the latest first. -/
def State.told (s : State) (subscription : SubscriptionId) : List Nat :=
  (Delivery.told subscription s.delivery.history).map SettingsSnapshot.revision

/-- The revisions that a subscriber is still to be told of. -/
def State.outstanding (s : State) (subscription : SubscriptionId) : List Nat :=
  (s.delivery.outstanding subscription).map SettingsSnapshot.revision

/-- What the subscribers can rely on. -/
structure Published (s : State) : Prop where
  /-- A subscriber is told of revisions that were committed while it was registered, in the order of
  their commits from the first on, and none twice. -/
  ordered : ∀ subscription, s.told subscription <:+ s.committedFor subscription ∧
    (s.told subscription).Pairwise (· > ·)
  /-- One that may be called is told, or is to be told, of all of them. -/
  complete : ∀ subscription, s.delivery.mayCall subscription = true →
    (s.told subscription).reverse ++ s.outstanding subscription =
      (s.committedFor subscription).reverse
  /-- A thread is there to tell it. -/
  attended : s.delivery.loops = [] → s.arriving = [] →
    ∀ subscription, s.outstanding subscription = []
  /-- No two callbacks are executing. -/
  alone : s.delivery.calls.length ≤ 1
  /-- After `Reset` has returned to a thread that is not in the callback, the callback is not
  executing. -/
  fenced : ∀ subscription ∈ s.fenced, subscription ∉ s.delivery.calls

theorem Inv.committedFor_pairwise (hs : Inv s) (subscription : SubscriptionId) :
    (s.committedFor subscription).Pairwise (· > ·) :=
  hs.ordered.sublist (List.filter_sublist.map Prod.fst)

theorem Inv.told_suffix (hs : Inv s) (subscription : SubscriptionId) :
    s.told subscription <:+ s.committedFor subscription := by
  rw [← hs.accepted subscription]
  exact (hs.delivery.inOrder subscription).map SettingsSnapshot.revision

theorem Inv.published (hs : Inv s) : Published s where
  ordered := fun subscription => ⟨hs.told_suffix subscription,
    (hs.committedFor_pairwise subscription).sublist (hs.told_suffix subscription).sublist⟩
  complete := fun subscription hmay => by
    have hcomplete := congrArg (List.map SettingsSnapshot.revision)
      (hs.delivery.complete subscription hmay)
    rw [List.map_append, List.map_reverse, List.map_reverse, hs.accepted] at hcomplete
    exact hcomplete
  attended := fun hloops harriving subscription => by
    have hidle : s.delivery.draining ≠ true := by
      rcases hs.delivery.alone with ⟨hidle, -⟩ | ⟨thread, point, -, -, hone, -⟩
      · simp [hidle]
      · simp [hone] at hloops
    have hqueue : s.delivery.queue = [] := by
      by_contra hne
      exact (hs.drained hne).elim hidle fun h => h harriving
    rw [State.outstanding, Delivery.outstanding_eq_nil hloops hqueue]
    rfl
  alone := hs.delivery.calls_length
  fenced := fun subscription hmem =>
    hs.delivery.executing_eq ▸ (hs.fenced subscription hmem).2

/-- In every run of the store, with its loads, commits, subscribers, resets and callbacks in any
order, the subscribers are told in order, completely and one at a time, and one whose `Reset` has
returned to a thread that is not in its callback is never called again. -/
theorem publication_reliable (lib : TextLibraries) (events later : List Event)
    (hrun : (publishingStore lib).Run {} events) :
    Published ((publishingStore lib).exec {} events) ∧
      ((publishingStore lib).Run ((publishingStore lib).exec {} events) later →
        ∀ subscription ∈ ((publishingStore lib).exec {} events).fenced,
          subscription ∉ ((publishingStore lib).exec {} (events ++ later)).delivery.calls ∧
          ((publishingStore lib).exec {} (events ++ later)).told subscription =
            ((publishingStore lib).exec {} events).told subscription) := by
  have hs : Inv ((publishingStore lib).exec {} events) :=
    hrun.invariant (step_inv lib) inv_initial
  refine ⟨hs.published, fun hlater subscription hmem => ?_⟩
  have hnext : Inv ((publishingStore lib).exec ((publishingStore lib).exec {} events) later) :=
    hlater.invariant (step_inv lib) hs
  have hcalm := quiet_exec lib later _ (hs.fenced subscription hmem)
  rw [EventSystem.exec_append]
  exact ⟨hnext.delivery.executing_eq ▸ hcalm.quiet.2,
    congrArg (List.map SettingsSnapshot.revision) hcalm.told⟩

/-- There are two subscribers. The callback of the first one commits, and another thread resets its
subscription. -/
def reentrantEvents (first : SettingsSnapshot) : List Event :=
  [.subscribe, .subscribe, .store 7 (.commit (.setStartWithWindows true) 0) [2, 1], .arrive 7,
    .drain (7, .taking), .drain (7, .handing first [2, 1]),
    .store 7 (.commit (.setStartWithWindows false) 0) [1, 2], .arrive 7, .reset 8 2,
    .drain (7, .calling first 2 [1]), .wake 8 2, .erase 2 false]

/-- The second subscriber is told of both revisions. -/
def drainedEvents (first second : SettingsSnapshot) : List Event :=
  [.drain (7, .handing first [1]), .drain (7, .calling first 1 []), .drain (7, .handing first []),
    .drain (7, .taking), .drain (7, .handing second [1, 2])]

/-- The subscriber that is reset was told of the first revision only, the other one of both. -/
theorem publication_reliable_reentrant :
    let first : SettingsSnapshot := ⟨{ startWithWindows := true }, 1, true⟩
    let second : SettingsSnapshot := ⟨{}, 2, true⟩
    let s := (publishingStore textLibraries).exec {} (reentrantEvents first)
    let t := (publishingStore textLibraries).exec {}
      (reentrantEvents first ++ drainedEvents first second)
    Published s ∧ s.fenced = [2] ∧ t.told 2 = s.told 2 ∧ s.told 2 = [1] ∧ t.told 1 = [2, 1] := by
  intro first second s t
  have hrun : (publishingStore textLibraries).Run {} (reentrantEvents first) := by
    exact ⟨trivial, trivial, ⟨⟨trivial, .inl rfl⟩, .swap 1 2 []⟩, .head _, .head _, .head _,
      ⟨⟨trivial, .inl rfl⟩, .refl _⟩, .head _, ⟨by decide, by decide⟩, .head _,
      ⟨.head _, List.not_mem_nil⟩, .head _, trivial⟩
  have hlater : (publishingStore textLibraries).Run s (drainedEvents first second) :=
    ⟨.head _, .head _, .head _, .head _, .head _, trivial⟩
  obtain ⟨hpublished, hfenced⟩ := publication_reliable textLibraries _ (drainedEvents first second)
    hrun
  exact ⟨hpublished, rfl, (hfenced hlater 2 (.head _)).2, rfl, rfl⟩

end Publication

end PlaybackConnector.Settings
