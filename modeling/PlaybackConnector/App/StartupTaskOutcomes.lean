import PlaybackConnector.Transition.History
import PlaybackConnector.App.StartupTaskSerial

/-!
# The startup task coordinator serves the latest request

What the operations of `startupTaskCoordinator` lead to: what is committed and how requests are
coalesced (`Faithful`), what the published snapshot says (`Announced`), that the requests are
decided in the order in which they are posted (`Queued`), and that a request that is not superseded
is attempted once the system completes its calls (`effort`). Together with `Serial` this is
`last_request_wins`.
-/

namespace PlaybackConnector

namespace StartupTaskCoordinator

open LatestStartupTaskRequestState

/-! ## Commits and coalesced requests -/

/-- What a commit and a coalesced request rest on. A commit carries what the system reported to the
operation of the latest accepted request. A coalesced request is answered by the latest accepted
one, which asks for the same, or has not completed when a refresh is asked for. -/
def Truthful : Occurrence → List Occurrence → Prop
  | .committed operation actual, earlier =>
    (accepted earlier).head? = some operation ∧ .reported operation (some actual) ∈ earlier
  | .requested desired result, earlier => result.coalesced = true →
    ∃ latest, (accepted earlier).head? = some latest ∧ result.revision = latest.revision ∧
      (∀ d, desired = some d → latest.kind = .desired ∧ latest.desired = d) ∧
      (desired = none → .completed latest ∉ earlier)
  | _, _ => True

/-- The work that the drainer has taken. -/
def Stage.work : Stage → Option Work
  | .taken work | .run work => some work
  | _ => none

/-- The result that is about to be committed. -/
def Stage.confirming : Stage → Option (OperationToken × Bool)
  | .confirmed operation actual _ | .commit operation actual _ => some (operation, actual)
  | _ => none

variable {s t : StartupTaskCoordinator} {work : Work} {stage : Stage} {operation : OperationToken}
  {desired : Option Bool} {systemCall : SystemCall}

/-- The work that is posted and not done. -/
def works (s : StartupTaskCoordinator) : List Work :=
  (s.stage.bind Stage.work).toList ++ s.pending

/-- What the history says of the work, the latest request and the commits. -/
structure Faithful (s : StartupTaskCoordinator) : Prop where
  works : ∀ operation actual failed, .complete operation true actual failed ∈ s.works →
    .reported operation (some actual) ∈ s.history
  confirming : ∀ operation actual, s.stage.bind Stage.confirming = some (operation, actual) →
    (accepted s.history).head? = some operation ∧ .reported operation (some actual) ∈ s.history
  completed : ∀ operation, .completed operation ∈ s.history → operation ∈ accepted s.history
  unsettled : ∀ latest, s.requests.latestRequest = some latest →
    s.requests.latestSettled = false → .completed latest ∉ s.history
  truthful : Throughout Truthful s.history

/-- A step that neither decides a request nor a completion. -/
theorem Faithful.keep (hs : Faithful s) (hrequests : t.requests = s.requests)
    (hhistory : t.history = s.history ∨ ∃ occurrence, t.history = occurrence :: s.history ∧
      (∀ d result, occurrence ≠ .requested d result) ∧ (∀ o, occurrence ≠ .completed o) ∧
      Truthful occurrence s.history)
    (hworks : ∀ operation actual failed, .complete operation true actual failed ∈ t.works →
      .complete operation true actual failed ∈ s.works ∨
      .reported operation (some actual) ∈ t.history)
    (hconfirming : ∀ operation actual, t.stage.bind Stage.confirming = some (operation, actual) →
      s.stage.bind Stage.confirming = some (operation, actual)) : Faithful t := by
  have haccepted : accepted t.history = accepted s.history := by
    rcases hhistory with heq | ⟨occurrence, heq, hrequested, -, -⟩
    · rw [heq]
    · rw [heq, accepted_cons_of_not hrequested]
  have hmem : ∀ occurrence ∈ s.history, occurrence ∈ t.history := by
    rcases hhistory with heq | ⟨occurrence, heq, -⟩
    · simp [heq]
    · intro other hother
      exact heq ▸ List.mem_cons_of_mem _ hother
  have hcompleted : ∀ o, .completed o ∈ t.history → .completed o ∈ s.history := by
    rcases hhistory with heq | ⟨occurrence, heq, -, hnot, -⟩
    · simp [heq]
    · intro o ho
      rw [heq] at ho
      rcases List.mem_cons.1 ho with heq | ho
      · exact absurd heq.symm (hnot o)
      · exact ho
  refine ⟨fun o actual failed h => ?_, fun o actual h => ?_, fun o h => ?_, ?_, ?_⟩
  · rcases hworks o actual failed h with h | h
    · exact hmem _ (hs.works o actual failed h)
    · exact h
  · obtain ⟨hhead, hreported⟩ := hs.confirming o actual (hconfirming o actual h)
    exact ⟨haccepted ▸ hhead, hmem _ hreported⟩
  · exact haccepted ▸ hs.completed o (hcompleted o h)
  · intro latest hlatest hsettled hin
    rw [hrequests] at hlatest hsettled
    exact hs.unsettled latest hlatest hsettled (hcompleted latest hin)
  · rcases hhistory with heq | ⟨occurrence, heq, -, -, htruthful⟩
    · exact heq ▸ hs.truthful
    · exact heq ▸ ⟨htruthful, hs.truthful⟩

/-- The drainer goes on to a stage with the same work and the same result to commit, or with
none. -/
theorem Faithful.goto (hs : Faithful s) {stage' : Stage} (hstage : s.stage = some stage)
    (hwork : ∀ work, stage'.work = some work → stage.work = some work)
    (hconfirming : ∀ result, stage'.confirming = some result → stage.confirming = some result) :
    Faithful (s.goto stage') := by
  refine hs.keep rfl (.inl rfl) (fun o actual failed h => .inl ?_) (fun o actual h => ?_)
  · simp only [StartupTaskCoordinator.works, StartupTaskCoordinator.goto, hstage, Option.bind_some,
      List.mem_append, Option.mem_toList] at h ⊢
    exact h.imp_left (hwork _)
  · rw [hstage]
    exact hconfirming _ h

/-- Work is posted, whose result, if it has one, has been reported. -/
theorem Faithful.post (hs : Faithful s)
    (hwork : ∀ o actual failed, work = .complete o true actual failed →
      .reported o (some actual) ∈ s.history) : Faithful (s.post work) := by
  unfold StartupTaskCoordinator.post
  split
  · exact hs
  · refine hs.keep rfl (.inl rfl) (fun o actual failed h => ?_) (fun o actual h => ?_)
    · simp only [StartupTaskCoordinator.works, List.mem_append, List.mem_singleton,
        Option.mem_toList] at h ⊢
      rcases h with h | h | h
      · cases hstage : s.stage with
        | none =>
          rw [hstage] at h
          cases h
        | some stage =>
          rw [hstage] at h
          exact .inl (.inl h)
      · exact .inl (.inr h)
      · exact .inr (hwork o actual failed h.symm)
    · cases hstage : s.stage with
      | none =>
        rw [hstage] at h
        cases h
      | some stage =>
        rw [hstage] at h
        exact h

/-- What the decision of a request leaves to do. -/
theorem request_spec (desired : Option Bool) (s : StartupTaskCoordinator) :
    (s.request desired).requests = (s.requests.request desired).1 ∧
    (s.request desired).history =
      .requested desired (s.requests.request desired).2 :: s.history ∧
    (s.request desired).pending = s.pending ∧ (s.request desired).published = s.published ∧
    (((!(s.requests.request desired).2.accepted || (s.requests.request desired).2.coalesced) =
        true ∧ (s.request desired).stage = some .next) ∨
      ((!(s.requests.request desired).2.accepted || (s.requests.request desired).2.coalesced) =
        false ∧ ∃ snapshot : StartupTaskSnapshot, snapshot.busy = true ∧
        (s.request desired).stage =
          some (.publish snapshot (s.requests.request desired).2.operationToStart))) := by
  unfold StartupTaskCoordinator.request
  dsimp only
  split
  next hnot => exact ⟨rfl, rfl, rfl, rfl, .inl ⟨hnot, rfl⟩⟩
  next hrecorded =>
    refine ⟨rfl, rfl, rfl, rfl, .inr ⟨Bool.eq_false_iff.2 hrecorded, _, ?_, rfl⟩⟩
    cases desired with
    | none => rfl
    | some enabled => rfl

theorem request_stopped : (s.request desired).stopped = s.stopped := by
  unfold StartupTaskCoordinator.request
  dsimp only
  split <;> rfl

theorem request_running : (s.request desired).running = s.running := by
  unfold StartupTaskCoordinator.request
  dsimp only
  split <;> rfl

theorem Faithful.request (hs : Faithful s) (hserial : Serial s)
    (hlast : (s.request desired).requests.revisionExhausted = false) :
    Faithful (s.request desired) := by
  obtain ⟨hrequests, hhistory, hpending, -, hstage⟩ := request_spec desired s
  replace hstage : (s.request desired).stage = some .next ∨ ∃ snapshot operationToStart,
      (s.request desired).stage = some (.publish snapshot operationToStart) := by
    rcases hstage with ⟨-, hstage⟩ | ⟨-, snapshot, -, hstage⟩
    · exact .inl hstage
    · exact .inr ⟨snapshot, _, hstage⟩
  have hrequested := requested (hrequests ▸ hlast)
  have hworks : ∀ w ∈ (s.request desired).works, w ∈ s.works := by
    intro w hw
    refine List.mem_append_right _ ?_
    rw [← hpending]
    rcases hstage with hstage | ⟨_, _, hstage⟩
    all_goals
      rw [StartupTaskCoordinator.works, hstage] at hw
      exact hw
  have hnone : (s.request desired).stage.bind Stage.confirming = none := by
    rcases hstage with hstage | ⟨_, _, hstage⟩
    all_goals
      rw [hstage]
      rfl
  have hreported : ∀ o actual failed,
      .complete o true actual failed ∈ (s.request desired).works →
      .reported o (some actual) ∈ (s.request desired).history := by
    intro o actual failed h
    rw [hhistory]
    exact List.mem_cons_of_mem _ (hs.works o actual failed (hworks _ h))
  have hcompleted : ∀ o, .completed o ∈ (s.request desired).history →
      .completed o ∈ s.history := by
    intro o h
    rw [hhistory] at h
    simpa using h
  have hrecorded : ∀ request : OperationToken,
      request.revision = s.requests.revision + 1 →
      (s.request desired).requests.latestRequest = some request →
      (s.requests.request desired).2.coalesced = false →
      accepted (s.request desired).history = request :: accepted s.history →
      Faithful (s.request desired) := by
    intro request hrevision hlatest hcoalesced haccepted
    refine ⟨hreported, fun o actual h => ?_, fun o h => ?_, fun latest h _ hin => ?_, ?_⟩
    · rw [hnone] at h
      cases h
    · exact haccepted ▸ List.mem_cons_of_mem _ (hs.completed o (hcompleted o h))
    · obtain rfl := Option.some.inj (hlatest.symm.trans h)
      have hle := hserial.bounded request (hs.completed request (hcompleted request hin))
      omega
    · rw [hhistory]
      refine ⟨fun htrue => ?_, hs.truthful⟩
      rw [hcoalesced] at htrue
      cases htrue
  generalize s.requests.request desired = decided at hrequested hrequests hhistory hrecorded
  cases hrequested with
  | coalesced latest hlatest hsame hrefresh =>
    have haccepted : accepted (s.request desired).history = accepted s.history := by
      rw [hhistory]
      rfl
    refine ⟨hreported, fun o actual h => ?_, fun o h => ?_, fun latest h hsettled hin => ?_, ?_⟩
    · rw [hnone] at h
      cases h
    · exact haccepted ▸ hs.completed o (hcompleted o h)
    · rw [hrequests] at h hsettled
      exact hs.unsettled latest h hsettled (hcompleted latest hin)
    · rw [hhistory]
      refine ⟨fun _ => ⟨latest, hserial.latest latest hlatest, rfl, hsame, fun hnone => ?_⟩,
        hs.truthful⟩
      exact hs.unsettled latest hlatest (hrefresh hnone)
  | queued current hbusy request hrevision hkind hdesired =>
    refine hrecorded request hrevision (by rw [hrequests]) rfl ?_
    rw [hhistory, accepted_requested s.history rfl hkind hdesired]
  | started hidle request hrevision hkind hdesired =>
    refine hrecorded request hrevision (by rw [hrequests]) rfl ?_
    rw [hhistory, accepted_requested s.history rfl hkind hdesired]

/-- What the decision of a completion leaves to do. -/
theorem complete_spec (operation : OperationToken) (known actual failed : Bool)
    (s : StartupTaskCoordinator) :
    let decided := s.requests.complete operation (desiredReached operation known actual)
    let t := s.complete operation known actual failed
    t.requests = decided.1 ∧ t.history = .completed operation :: s.history ∧
    t.pending = s.pending ∧ t.published = s.published ∧
    ((decided.2.disposition = .publish ∧ known = true ∧
        t.stage = some (.confirmed operation actual failed)) ∨
      (decided.2.disposition = .publish ∧ t.stage = some (.result operation (failed || !known))) ∨
      (decided.2.disposition ≠ .publish ∧
        t.stage = some (.startNext decided.2.operationToStart))) := by
  obtain ⟨decided, hdecided⟩ : ∃ decided,
    s.requests.complete operation (desiredReached operation known actual) = decided := ⟨_, rfl⟩
  unfold StartupTaskCoordinator.complete
  rw [hdecided]
  dsimp only
  split
  next hpublish =>
    split
    next hknown => exact ⟨rfl, rfl, rfl, rfl, .inl ⟨hpublish, hknown, rfl⟩⟩
    next => exact ⟨rfl, rfl, rfl, rfl, .inr (.inl ⟨hpublish, rfl⟩)⟩
  next hnot => exact ⟨rfl, rfl, rfl, rfl, .inr (.inr ⟨hnot, rfl⟩)⟩

theorem complete_stopped {known actual failed : Bool} :
    (s.complete operation known actual failed).stopped = s.stopped := by
  unfold StartupTaskCoordinator.complete
  dsimp only
  split
  · split <;> rfl
  · rfl

theorem complete_running {known actual failed : Bool} :
    (s.complete operation known actual failed).running = s.running := by
  unfold StartupTaskCoordinator.complete
  dsimp only
  split
  · split <;> rfl
  · rfl

theorem Faithful.complete (hs : Faithful s) (hserial : Serial s) {known actual failed : Bool}
    (hstage : s.stage = some (.run (.complete operation known actual failed)))
    (hhad : s.requests.revisionExhausted = false) :
    Faithful (s.complete operation known actual failed) := by
  have hserved : operation ∈ s.served := by
    rw [served_of_stage hstage]
    exact List.mem_append_left _ (List.mem_append_left _ List.mem_cons_self)
  have hflight := hserial.mem_inFlight (List.mem_append_right _ hserved)
  obtain ⟨hmem, hsome⟩ := hserial.inFlight operation hflight
  obtain ⟨hrequests, hhistory, hpending, -, hnext⟩ :=
    complete_spec operation known actual failed s
  have hcompleted := LatestStartupTaskRequestState.completed
    (desiredReached operation known actual) hhad hflight hsome
  generalize hdecided : s.requests.complete operation (desiredReached operation known actual) =
    decided at hrequests hnext hcompleted
  generalize s.complete operation known actual failed = t at hrequests hhistory hpending hnext ⊢
  have haccepted : accepted t.history = accepted s.history := by
    rw [hhistory]
    rfl
  have hin : ∀ occurrence ∈ s.history, occurrence ∈ t.history := by
    intro occurrence h
    exact hhistory ▸ List.mem_cons_of_mem _ h
  constructor
  · intro o a f h
    refine hin _ (hs.works o a f (List.mem_append_right _ ?_))
    rw [← hpending]
    rcases hnext with ⟨-, -, hnext⟩ | ⟨-, hnext⟩ | ⟨-, hnext⟩
    all_goals
      rw [StartupTaskCoordinator.works, hnext] at h
      exact h
  · intro o a h
    rcases hnext with ⟨hpublish, rfl, hnext⟩ | ⟨-, hnext⟩ | ⟨-, hnext⟩
    · rw [hnext] at h
      obtain ⟨rfl, rfl⟩ := Prod.mk.inj (Option.some.inj h)
      refine ⟨?_, hin _ (hs.works operation actual failed ?_)⟩
      · rw [haccepted]
        cases hcompleted with
        | publish latest hlatest hsame =>
          rcases hserial.served_or_later hlatest hserved with rfl | hlater
          · exact hserial.latest _ hlatest
          · unfold Later at hlater
            omega
        | superseded latest hlatest hother => cases hpublish
      · rw [StartupTaskCoordinator.works, hstage]
        exact List.mem_cons_self
    · rw [hnext] at h
      cases h
    · rw [hnext] at h
      cases h
  · intro o h
    rw [haccepted]
    rw [hhistory] at h
    rcases List.mem_cons.1 h with heq | h
    · obtain rfl := Occurrence.completed.inj heq
      exact hmem
    · exact hs.completed o h
  · intro latest hlatest hsettled h
    rw [hrequests] at hlatest hsettled
    cases hcompleted with
    | publish =>
      dsimp only at hlatest hsettled
      rw [hsettled] at hlatest
      cases hlatest
    | superseded latest' hlatest' hother =>
      dsimp only at hlatest hsettled
      rw [hhistory] at h
      rcases List.mem_cons.1 h with heq | h
      · obtain rfl := Occurrence.completed.inj heq
        obtain rfl := Option.some.inj (hlatest.symm.trans hlatest')
        exact hother rfl
      · exact hs.unsettled latest hlatest hsettled h
  · rw [hhistory]
    exact ⟨trivial, hs.truthful⟩

theorem Faithful.drain (hs : Faithful s) (hserial : Serial s)
    (hhad : s.requests.revisionExhausted = false)
    (hlast : s.drain.requests.revisionExhausted = false) : Faithful s.drain := by
  unfold StartupTaskCoordinator.drain at hlast ⊢
  cases hstage : s.stage with
  | none => exact hs
  | some stage =>
    rw [hstage] at hlast
    cases stage with
    | next =>
      cases hpending : s.pending with
      | nil =>
        exact hs.keep rfl (.inl rfl) nofun nofun
      | cons work rest =>
        refine hs.keep rfl (.inl rfl) (fun o actual failed h => .inl ?_) nofun
        rw [StartupTaskCoordinator.works, hstage, hpending]
        exact h
    | taken work =>
      dsimp only
      split
      · exact hs.goto hstage nofun nofun
      · exact hs.goto hstage (fun _ h => h) nofun
    | run work =>
      cases work with
      | request desired => exact hs.request hserial hlast
      | queryActual o =>
        refine hs.keep rfl (.inl rfl) (fun o actual failed h => .inl ?_) nofun
        exact List.mem_append_right _ h
      | complete o known actual failed => exact hs.complete hserial hstage hhad
      | deliver => exact hs.goto hstage nofun nofun
    | confirmed o actual failed =>
      dsimp only
      split
      · exact hs.goto hstage nofun fun _ h => h
      · exact hs.goto hstage nofun nofun
    | commit o actual failed =>
      refine hs.keep rfl (.inr ⟨_, rfl, nofun, nofun, ?_⟩)
        (fun o actual failed h => .inl (List.mem_append_right _ h)) nofun
      exact hs.confirming o actual (by rw [hstage]; rfl)
    | result o failed => exact hs.goto hstage nofun nofun
    | publish snapshot operationToStart =>
      dsimp only [StartupTaskCoordinator.publish]
      split
      · exact hs.goto hstage nofun nofun
      · exact hs.keep rfl (.inr ⟨_, rfl, nofun, nofun, trivial⟩)
          (fun o actual failed h => .inl (List.mem_append_right _ h)) nofun
    | deliver operationToStart => exact hs.goto hstage nofun nofun
    | startNext operationToStart =>
      cases operationToStart with
      | none => exact hs.goto hstage nofun nofun
      | some o =>
        dsimp only
        split
        · exact hs.goto hstage nofun nofun
        · exact hs.goto hstage nofun nofun
    | start o =>
      exact hs.keep rfl (.inr ⟨_, rfl, nofun, nofun, trivial⟩)
        (fun o actual failed h => .inl (List.mem_append_right _ h)) nofun

theorem Faithful.postRequest (hs : Faithful s) : Faithful (s.postRequest desired) := by
  unfold StartupTaskCoordinator.postRequest
  split
  · exact hs
  · have hposted : Faithful (s.post (.request desired)) := hs.post nofun
    exact hposted.keep rfl (.inr ⟨_, rfl, nofun, nofun, trivial⟩) (fun _ _ _ h => .inl h)
      fun _ _ h => h

/-- A step keeps what the history says. -/
theorem Faithful.step (hs : Faithful s) (hserial : Serial s) {event : Event}
    (hhad : s.requests.revisionExhausted = false)
    (hlast : (startupTaskCoordinator.step s event).requests.revisionExhausted = false) :
    Faithful (startupTaskCoordinator.step s event) := by
  cases event with
  | refresh => exact hs.postRequest
  | requestDesired enabled => exact hs.postRequest
  | subscribe => exact hs.post nofun
  | shutdown =>
    refine hs.keep rfl (.inl rfl) (fun o actual failed h => .inl ?_) fun _ _ h => h
    exact (List.mem_append.1 h).elim (List.mem_append_left _) nofun
  | drain => exact hs.drain hserial hhad hlast
  | setCompleted o =>
    have herased := hs.keep (t := { s with running := s.running.erase (o, .set) }) rfl (.inl rfl)
      (fun _ _ _ h => .inl h) fun _ _ h => h
    exact herased.post nofun
  | queryCompleted o actual =>
    have hreported := hs.keep
      (t := { s with
        running := s.running.erase (o, .query), history := .reported o actual :: s.history })
      rfl (.inr ⟨_, rfl, nofun, nofun, trivial⟩) (fun _ _ _ h => .inl h) fun _ _ h => h
    refine hreported.post fun o' actual' failed h => ?_
    obtain ⟨rfl, hknown, hactual, -⟩ := Work.complete.inj h
    obtain ⟨a, rfl⟩ := Option.isSome_iff_exists.1 hknown
    obtain rfl := hactual
    exact List.mem_cons_self

/-! ## What the published snapshot says -/

/-- What the published snapshot says of the operation in flight. A request or a result that is
decided is not said before it is published. -/
def AnnouncedAt (s : StartupTaskCoordinator) : Stage → Prop
  | .publish snapshot _ => snapshot.busy = s.requests.inFlight.isSome
  | .confirmed .. | .commit .. | .result .. => s.requests.inFlight = none
  | _ => s.published.busy = s.requests.inFlight.isSome

/-- The drainer is between the decision of a request or a completion and its publication. -/
def Stage.announcing : Stage → Bool
  | .publish .. | .confirmed .. | .commit .. | .result .. => true
  | _ => false

/-- The published snapshot says whether an operation is in flight, until the coordinator is stopped;
then it says that none is. -/
structure Announced (s : StartupTaskCoordinator) : Prop where
  running : s.stopped = false → s.AnnouncedAt (s.stage.getD .next)
  stopped : s.stopped = true → s.published.busy = false

/-- A step of the drainer that neither decides nor publishes. -/
theorem Announced.keep (hs : Announced s) (hstopped : t.stopped = s.stopped)
    (hpublished : t.published = s.published)
    (hrunning : s.stopped = false → s.AnnouncedAt (s.stage.getD .next) →
      t.AnnouncedAt (t.stage.getD .next)) : Announced t := by
  constructor
  · intro h
    rw [hstopped] at h
    exact hrunning h (hs.running h)
  · intro h
    rw [hstopped] at h
    exact hpublished ▸ hs.stopped h

theorem Announced.post (hs : Announced s) : Announced (s.post work) := by
  unfold StartupTaskCoordinator.post
  split
  · exact hs
  · refine hs.keep rfl rfl fun _ h => ?_
    cases hstage : s.stage with
    | none => exact hstage ▸ h
    | some stage => exact hstage ▸ h

theorem Announced.request (hs : Announced s)
    (hstage : s.stage = some (.run (.request desired)))
    (hlast : (s.request desired).requests.revisionExhausted = false) :
    Announced (s.request desired) := by
  obtain ⟨hrequests, -, -, hpublished, hnext⟩ := request_spec desired s
  have hrequested := requested (hrequests ▸ hlast)
  refine hs.keep request_stopped hpublished fun _ h => ?_
  rw [hstage] at h
  generalize s.requests.request desired = decided at hrequested hrequests hnext
  cases hrequested with
  | coalesced latest =>
    rcases hnext with ⟨-, hnext⟩ | ⟨hrecorded, -⟩
    · rw [hnext]
      exact (congrArg _ hpublished).trans (h.trans (by rw [hrequests]))
    · cases hrecorded
  | queued current hcurrent request =>
    rcases hnext with ⟨hnot, -⟩ | ⟨-, snapshot, hbusy, hnext⟩
    · cases hnot
    · rw [hnext]
      exact hbusy.trans (by rw [hrequests, hcurrent]; rfl)
  | started hidle request =>
    rcases hnext with ⟨hnot, -⟩ | ⟨-, snapshot, hbusy, hnext⟩
    · cases hnot
    · rw [hnext]
      exact hbusy.trans (by rw [hrequests]; rfl)

theorem Announced.complete (hs : Announced s) (hserial : Serial s) {known actual failed : Bool}
    (hstage : s.stage = some (.run (.complete operation known actual failed)))
    (hhad : s.requests.revisionExhausted = false) :
    Announced (s.complete operation known actual failed) := by
  have hserved : operation ∈ s.served := by
    rw [served_of_stage hstage]
    exact List.mem_append_left _ (List.mem_append_left _ List.mem_cons_self)
  have hflight := hserial.mem_inFlight (List.mem_append_right _ hserved)
  obtain ⟨hrequests, -, -, hpublished, hnext⟩ := complete_spec operation known actual failed s
  have hcompleted := LatestStartupTaskRequestState.completed
    (desiredReached operation known actual) hhad hflight
    (hserial.inFlight operation hflight).2
  refine hs.keep complete_stopped hpublished fun _ h => ?_
  rw [hstage] at h
  generalize s.requests.complete operation (desiredReached operation known actual) = decided
    at hcompleted hrequests hnext
  cases hcompleted with
  | publish latest =>
    rcases hnext with ⟨-, -, hnext⟩ | ⟨-, hnext⟩ | ⟨hnot, -⟩
    · rw [hnext]
      exact congrArg _ hrequests
    · rw [hnext]
      exact congrArg _ hrequests
    · exact absurd rfl hnot
  | superseded latest =>
    rcases hnext with ⟨hpublish, -⟩ | ⟨hpublish, -⟩ | ⟨-, hnext⟩
    · cases hpublish
    · cases hpublish
    · rw [hnext]
      refine (congrArg _ hpublished).trans (h.trans ?_)
      rw [hrequests, hflight]
      rfl

theorem Announced.drain (hs : Announced s) (hserial : Serial s)
    (hhad : s.requests.revisionExhausted = false)
    (hlast : s.drain.requests.revisionExhausted = false) : Announced s.drain := by
  unfold StartupTaskCoordinator.drain at hlast ⊢
  cases hstage : s.stage with
  | none => exact hs
  | some stage =>
    rw [hstage] at hlast
    have hstay : ∀ stage', (s.AnnouncedAt stage → s.AnnouncedAt stage') →
        Announced (s.goto stage') := by
      intro stage' himp
      refine hs.keep rfl rfl fun _ h => ?_
      rw [hstage] at h
      exact himp h
    cases stage with
    | next =>
      cases hpending : s.pending with
      | nil => exact hs.keep rfl rfl fun _ h => by rwa [hstage] at h
      | cons work rest => exact hs.keep rfl rfl fun _ h => by rwa [hstage] at h
    | taken work =>
      dsimp only
      split
      · exact hstay _ fun h => h
      · exact hstay _ fun h => h
    | run work =>
      cases work with
      | request desired => exact hs.request hstage hlast
      | queryActual o => exact hs.keep rfl rfl fun _ h => by rwa [hstage] at h
      | complete o known actual failed => exact hs.complete hserial hstage hhad
      | deliver => exact hstay _ fun h => h
    | confirmed o actual failed =>
      dsimp only
      split
      · exact hstay _ fun h => h
      · exact hstay _ fun h => h
    | commit o actual failed => exact hs.keep rfl rfl fun _ h => by rwa [hstage] at h
    | result o failed =>
      refine hstay _ fun h => ?_
      have hidle : s.requests.inFlight = none := h
      simp [AnnouncedAt, resultSnapshot, hidle]
    | publish snapshot operationToStart =>
      dsimp only [StartupTaskCoordinator.publish]
      split
      next hstopped =>
        refine ⟨fun h => ?_, fun _ => hs.stopped hstopped⟩
        exact absurd hstopped (Bool.eq_false_iff.1 h)
      next hstopped =>
        refine ⟨fun h => ?_, fun h => absurd h hstopped⟩
        have hbusy := hs.running h
        rw [hstage] at hbusy
        exact hbusy
    | deliver operationToStart => exact hstay _ fun h => h
    | startNext operationToStart =>
      cases operationToStart with
      | none => exact hstay _ fun h => h
      | some o =>
        dsimp only
        split
        · exact hstay _ fun h => h
        · exact hstay _ fun h => h
    | start o => exact hs.keep rfl rfl fun _ h => by rwa [hstage] at h

/-- A step keeps what the published snapshot says. -/
theorem Announced.step (hs : Announced s) (hserial : Serial s) {event : Event}
    (hhad : s.requests.revisionExhausted = false)
    (hlast : (startupTaskCoordinator.step s event).requests.revisionExhausted = false) :
    Announced (startupTaskCoordinator.step s event) := by
  have hpostRequest : ∀ desired, Announced (s.postRequest desired) := by
    intro desired
    unfold StartupTaskCoordinator.postRequest
    split
    · exact hs
    · exact ⟨hs.post.running, hs.post.stopped⟩
  cases event with
  | refresh => exact hpostRequest none
  | requestDesired enabled => exact hpostRequest (some enabled)
  | subscribe => exact hs.post
  | shutdown =>
    refine ⟨nofun, fun _ => ?_⟩
    simp only [startupTaskCoordinator, StartupTaskCoordinator.stop]
    split
    next => rfl
    next hbusy => exact Bool.eq_false_iff.2 hbusy
  | drain => exact hs.drain hserial hhad hlast
  | setCompleted o =>
    have herased : Announced { s with running := s.running.erase (o, .set) } :=
      ⟨hs.running, hs.stopped⟩
    exact herased.post
  | queryCompleted o actual =>
    have hreported : Announced { s with
        running := s.running.erase (o, .query), history := .reported o actual :: s.history } :=
      ⟨hs.running, hs.stopped⟩
    exact hreported.post

/-! ## The order of the requests -/

/-- The posted requests, the latest first. -/
def posts (history : List Occurrence) : List (Option Bool) :=
  history.filterMap fun
    | .posted desired => some desired
    | _ => none

/-- The decided requests, the latest first. -/
def decisions (history : List Occurrence) : List (Option Bool) :=
  history.filterMap fun
    | .requested desired _ => some desired
    | _ => none

/-- The request that the work is. -/
def Work.requested : Work → Option (Option Bool)
  | .request desired => some desired
  | _ => none

/-- The request that the drainer has taken. -/
def Stage.requested (stage : Stage) : Option (Option Bool) := stage.work.bind Work.requested

/-- The requests that are posted and not decided. -/
def queued (s : StartupTaskCoordinator) : List (Option Bool) :=
  (s.stage.bind Stage.requested).toList ++ s.pending.filterMap Work.requested

/-- The requests are decided in the order in which they are posted, and the queue is drained as long
as there is work. -/
structure Queued (s : StartupTaskCoordinator) : Prop where
  order : s.stopped = false →
    (posts s.history).reverse = (decisions s.history).reverse ++ s.queued
  idle : s.stage = none → s.pending = []

theorem Queued.keep (hs : Queued s) (hstopped : t.stopped = s.stopped)
    (hposts : posts t.history = posts s.history)
    (hdecisions : decisions t.history = decisions s.history) (hqueued : t.queued = s.queued)
    (hstage : t.stage = none → t.pending = []) : Queued t :=
  ⟨fun h => by rw [hposts, hdecisions, hqueued, hs.order (hstopped ▸ h)], hstage⟩

theorem queued_of_stage (h : s.stage = some stage) :
    s.queued = stage.requested.toList ++ s.pending.filterMap Work.requested := by
  simp [queued, h]

theorem stage_post (h : s.stopped = false) : (s.post work).stage ≠ none := by
  simp [StartupTaskCoordinator.post, h]

theorem queued_post (h : s.stopped = false) :
    (s.post work).queued = s.queued ++ work.requested.toList := by
  have hpending : [work].filterMap Work.requested = work.requested.toList := by
    cases hwork : work.requested with
    | none => simp [hwork]
    | some d => simp [hwork]
  cases hstage : s.stage with
  | none =>
    simp [StartupTaskCoordinator.post, h, queued, hstage, Stage.requested, Stage.work, hpending]
  | some stage => simp [StartupTaskCoordinator.post, h, queued, hstage, hpending]

theorem Queued.post (hs : Queued s) (hwork : work.requested = none) : Queued (s.post work) := by
  cases hstopped : s.stopped with
  | true =>
    have hpost : s.post work = s := by simp [StartupTaskCoordinator.post, hstopped]
    rw [hpost]
    exact hs
  | false =>
    refine hs.keep post_stopped (by rw [post_history]) (by rw [post_history]) ?_
      fun h => absurd h (stage_post hstopped)
    simp [queued_post hstopped, hwork]

theorem Queued.postRequest (hs : Queued s) : Queued (s.postRequest desired) := by
  unfold StartupTaskCoordinator.postRequest
  split
  · exact hs
  next hrunning =>
    have hstopped : s.stopped = false := Bool.eq_false_iff.2 hrunning
    refine ⟨fun _ => ?_, fun h => absurd h (stage_post hstopped)⟩
    have hhistory : ((s.post (.request desired)).note (.posted desired)).history =
        .posted desired :: s.history := congrArg _ post_history
    have hqueued : ((s.post (.request desired)).note (.posted desired)).queued =
        s.queued ++ [desired] := queued_post hstopped
    have hposts : posts (.posted desired :: s.history) = desired :: posts s.history := rfl
    have hdecisions : decisions (.posted desired :: s.history) = decisions s.history := rfl
    rw [hhistory, hqueued, hposts, hdecisions, List.reverse_cons, hs.order hstopped,
      List.append_assoc]

/-- The drainer goes on to a stage with the same request. -/
theorem Queued.next (hs : Queued s) (hstage : s.stage = some stage) {stage' : Stage}
    (hstage' : t.stage = some stage') (hrequested : stage'.requested = stage.requested)
    (hstopped : t.stopped = s.stopped) (hpending : t.pending = s.pending)
    (hposts : posts t.history = posts s.history)
    (hdecisions : decisions t.history = decisions s.history) : Queued t := by
  refine hs.keep hstopped hposts hdecisions ?_ fun h => ?_
  · rw [queued_of_stage hstage, queued_of_stage hstage', hrequested, hpending]
  · rw [hstage'] at h
    cases h

theorem Queued.drain (hs : Queued s) : Queued s.drain := by
  unfold StartupTaskCoordinator.drain
  cases hstage : s.stage with
  | none => exact hs
  | some stage =>
    have hstay : ∀ stage', stage'.requested = stage.requested → Queued (s.goto stage') :=
      fun stage' h => hs.next hstage rfl h rfl rfl rfl rfl
    cases stage with
    | next =>
      cases hpending : s.pending with
      | nil =>
        refine hs.keep rfl rfl rfl ?_ fun _ => rfl
        rw [queued_of_stage hstage, hpending]
        rfl
      | cons work rest =>
        refine hs.keep rfl rfl rfl ?_ fun h => by cases h
        rw [queued_of_stage hstage, hpending]
        cases hwork : work.requested with
        | none =>
          simp [queued, StartupTaskCoordinator.goto, Stage.requested, Stage.work, hwork]
        | some d =>
          simp [queued, StartupTaskCoordinator.goto, Stage.requested, Stage.work, hwork]
    | taken work =>
      dsimp only
      split
      next hstopped =>
        refine ⟨fun hrunning => ?_, fun h => by cases h⟩
        exact absurd hstopped (Bool.eq_false_iff.1 hrunning)
      next => exact hstay _ rfl
    | run work =>
      cases work with
      | request desired =>
        obtain ⟨-, hhistory, hpending, -, hnext⟩ := request_spec desired s
        have hstopped : (s.request desired).stopped = s.stopped := request_stopped
        refine ⟨fun hrunning => ?_, fun h => ?_⟩
        · have hqueued : (s.request desired).queued = s.pending.filterMap Work.requested := by
            rcases hnext with ⟨-, hnext⟩ | ⟨-, snapshot, -, hnext⟩
            · rw [queued_of_stage hnext, hpending]
              rfl
            · rw [queued_of_stage hnext, hpending]
              rfl
          have horder := hs.order (hstopped ▸ hrunning)
          rw [queued_of_stage hstage] at horder
          have hdecisions : decisions (s.request desired).history =
              desired :: decisions s.history := by
            rw [hhistory]
            rfl
          have hposts : posts (s.request desired).history = posts s.history := by
            rw [hhistory]
            rfl
          rw [hposts, hdecisions, hqueued, horder, List.reverse_cons, List.append_assoc]
          rfl
        · rcases hnext with ⟨-, hnext⟩ | ⟨-, snapshot, -, hnext⟩
          · simp [hnext] at h
          · simp [hnext] at h
      | queryActual o => exact hs.next hstage rfl rfl rfl rfl rfl rfl
      | complete o known actual failed =>
        obtain ⟨-, hhistory, hpending, -, hnext⟩ := complete_spec o known actual failed s
        have hposts := congrArg posts hhistory
        have hdecisions := congrArg decisions hhistory
        rcases hnext with ⟨-, -, hnext⟩ | ⟨-, hnext⟩ | ⟨-, hnext⟩
        · exact hs.next hstage hnext rfl complete_stopped hpending hposts hdecisions
        · exact hs.next hstage hnext rfl complete_stopped hpending hposts hdecisions
        · exact hs.next hstage hnext rfl complete_stopped hpending hposts hdecisions
      | deliver => exact hstay _ rfl
    | confirmed o actual failed =>
      dsimp only
      split
      · exact hstay _ rfl
      · exact hstay _ rfl
    | commit o actual failed => exact hs.next hstage rfl rfl rfl rfl rfl rfl
    | result o failed => exact hstay _ rfl
    | publish snapshot operationToStart =>
      dsimp only [StartupTaskCoordinator.publish]
      split
      · exact hstay _ rfl
      · exact hs.next hstage rfl rfl rfl rfl rfl rfl
    | deliver operationToStart => exact hstay _ rfl
    | startNext operationToStart =>
      cases operationToStart with
      | none => exact hstay _ rfl
      | some o =>
        dsimp only
        split
        · exact hstay _ rfl
        · exact hstay _ rfl
    | start o => exact hs.next hstage rfl rfl rfl rfl rfl rfl

/-- A step keeps the requests in order. -/
theorem Queued.step (hs : Queued s) {event : Event} :
    Queued (startupTaskCoordinator.step s event) := by
  cases event with
  | refresh => exact hs.postRequest
  | requestDesired enabled => exact hs.postRequest
  | subscribe => exact hs.post rfl
  | shutdown => exact ⟨nofun, fun _ => rfl⟩
  | drain => exact hs.drain
  | setCompleted o =>
    have herased : Queued { s with running := s.running.erase (o, .set) } := ⟨hs.order, hs.idle⟩
    exact herased.post rfl
  | queryCompleted o actual =>
    have hreported : Queued { s with
        running := s.running.erase (o, .query), history := .reported o actual :: s.history } :=
      ⟨hs.order, hs.idle⟩
    exact hreported.post rfl

/-! ## Every request is served in the end -/

/-- The drainer and the system go on. -/
def Event.Internal : Event → Prop
  | .drain | .setCompleted _ | .queryCompleted _ _ => True
  | _ => False

/-- How many steps a call of the system leads to at most. -/
def SystemCall.effort : SystemCall → Nat
  | .set => 16
  | .query => 11

/-- How many steps the work leads to at most, once it runs. -/
def Work.effort : Work → Nat
  | .request _ => 22
  | .queryActual _ => 13
  | .complete .. => 8
  | .deliver => 2

/-- How many steps the drainer's stage leads to at most; an operation that is about to be started
takes 17 more. -/
def Stage.effort : Stage → Nat
  | .next => 1
  | .taken work => work.effort + 1
  | .run work => work.effort
  | .confirmed .. => 7
  | .commit .. => 6
  | .result .. => 5
  | .publish _ operationToStart => 4 + 17 * operationToStart.toList.length
  | .deliver operationToStart => 3 + 17 * operationToStart.toList.length
  | .startNext operationToStart => 2 + 17 * operationToStart.toList.length
  | .start _ => 18

/-- The operation in flight is to be followed by that of a later request. -/
def lag (requests : LatestStartupTaskRequestState) : Nat :=
  match requests.inFlight, requests.latestRequest with
  | some operation, some latest => if latest.revision = operation.revision then 0 else 12
  | _, _ => 0

/-- A bound on the steps of the drainer and the system while nothing else happens. -/
def effort (s : StartupTaskCoordinator) : Nat :=
  (s.stage.map Stage.effort).getD 0 + (s.running.map fun call => call.2.effort).sum +
    (s.pending.map fun work => work.effort + 1).sum + lag s.requests

theorem effort_of_stage (h : s.stage = some stage) : s.effort =
    stage.effort + (s.running.map fun call => call.2.effort).sum +
      (s.pending.map fun work => work.effort + 1).sum + lag s.requests := by
  simp [effort, h]

theorem effort_post_le (s : StartupTaskCoordinator) (work : Work) :
    (s.post work).effort ≤ s.effort + work.effort + 2 := by
  unfold StartupTaskCoordinator.post
  split
  · omega
  · cases hstage : s.stage with
    | none =>
      simp only [effort, hstage, List.map_append, List.sum_append, Option.getD_none,
        Option.map_some, Option.getD_some, Option.map_none, Stage.effort, List.map_cons,
        List.map_nil, List.sum_cons, List.sum_nil]
      omega
    | some stage =>
      simp only [effort, hstage, List.map_append, List.sum_append, Option.map_some,
        Option.getD_some, List.map_cons, List.map_nil, List.sum_cons, List.sum_nil]
      omega

/-- A call that completes has been counted. -/
theorem effort_erase (h : (operation, systemCall) ∈ s.running) (history : List Occurrence) :
    ({ s with running := s.running.erase (operation, systemCall), history := history } :
      StartupTaskCoordinator).effort + systemCall.effort = s.effort := by
  have hsum : (s.running.map fun call => call.2.effort).sum = systemCall.effort +
      ((s.running.erase (operation, systemCall)).map fun call => call.2.effort).sum := by
    have hperm := (List.perm_cons_erase h).map fun call => call.2.effort
    simpa using hperm.sum_nat
  simp only [effort]
  omega

/-- What a request adds to the work: its operation, or that it is to follow another. -/
theorem lag_request (r : LatestStartupTaskRequestState) (desired : Option Bool) :
    17 * (r.request desired).2.operationToStart.toList.length + lag (r.request desired).1 ≤
      17 + lag r ∧
    ((!(r.request desired).2.accepted || (r.request desired).2.coalesced) = true →
      lag (r.request desired).1 ≤ lag r) := by
  rcases request_cases r desired with ⟨-, hrefused⟩ | ⟨latest, -, -, -, hcoalesced⟩ |
    ⟨-, hrecorded⟩
  · simp [hrefused]
  · simp [hcoalesced]
  · rw [hrecorded]
    unfold recordRequest
    split
    · simp [lag]
    · dsimp only
      split
      next hflight =>
        obtain ⟨current, hcurrent⟩ := Option.isSome_iff_exists.1 hflight
        have hlag : ∀ l : OperationToken,
            (if l.revision = current.revision then 0 else 12) ≤ 17 + lag r := by
          intro l
          split <;> omega
        simpa [lag, hcurrent] using hlag ⟨r.revision + 1, _, _⟩
      next => simp [lag]

/-- A completion that is followed by an operation makes up for it. -/
theorem lag_complete (operation : OperationToken) (r : LatestStartupTaskRequestState) (retain : Bool) :
    17 * (r.complete operation retain).2.operationToStart.toList.length +
      lag (r.complete operation retain).1 ≤ 5 + lag r ∧
    ((r.complete operation retain).2.disposition = .publish →
      lag (r.complete operation retain).1 = 0) := by
  unfold LatestStartupTaskRequestState.complete
  split
  · simp
  next hnot =>
    obtain ⟨-, hflight⟩ := not_or.1 hnot
    rw [not_not] at hflight
    dsimp only
    split
    next hlatest => simp [lag]
    next latest hlatest =>
      split
      next => simp [lag]
      next hother => simp [lag, hflight, hlatest, hother]

theorem effort_drain (h : s.stage ≠ none) : s.drain.effort < s.effort := by
  obtain ⟨stage, hstage⟩ := Option.ne_none_iff_exists'.1 h
  unfold StartupTaskCoordinator.drain
  rw [hstage]
  have hgoto : ∀ stage' : Stage, stage'.effort < stage.effort →
      (s.goto stage').effort < s.effort := by
    intro stage' hlt
    rw [effort_of_stage hstage]
    simp only [effort, goto, Option.map_some, Option.getD_some]
    omega
  cases stage with
  | next =>
    cases hpending : s.pending with
    | nil =>
      rw [effort_of_stage hstage]
      simp only [effort, Option.map_none, Option.getD_none, Stage.effort, hpending]
      omega
    | cons work rest =>
      rw [effort_of_stage hstage]
      simp only [effort, goto, Option.map_some, Option.getD_some, Stage.effort, hpending,
        List.map_cons, List.sum_cons]
      omega
  | taken work =>
    dsimp only
    split
    · exact hgoto _ (by cases work <;> simp [Stage.effort, Work.effort])
    · exact hgoto _ (Nat.lt_succ_self _)
  | run work =>
    cases work with
    | request desired =>
      obtain ⟨hrequests, -, hpending, -, hnext⟩ := request_spec desired s
      obtain ⟨hstarted, hrefused⟩ := lag_request s.requests desired
      have hrunning : (s.request desired).running = s.running := request_running
      rcases hnext with ⟨hnot, hnext⟩ | ⟨-, snapshot, -, hnext⟩
      · have hlag := hrefused hnot
        rw [effort_of_stage hstage, effort_of_stage hnext, hrequests, hpending, hrunning]
        simp only [Stage.effort, Work.effort]
        omega
      · rw [effort_of_stage hstage, effort_of_stage hnext, hrequests, hpending, hrunning]
        simp only [Stage.effort, Work.effort]
        omega
    | queryActual o =>
      rw [effort_of_stage hstage]
      simp only [effort, goto, StartupTaskCoordinator.call, Option.map_some, Option.getD_some,
        Stage.effort, Work.effort, List.map_cons, List.sum_cons, SystemCall.effort]
      omega
    | complete o known actual failed =>
      obtain ⟨hrequests, -, hpending, -, hnext⟩ := complete_spec o known actual failed s
      obtain ⟨hlag, hnone⟩ :=
        lag_complete o s.requests (desiredReached o known actual)
      have hrunning : (s.complete o known actual failed).running = s.running := complete_running
      rcases hnext with ⟨hpublish, -, hnext⟩ | ⟨hpublish, hnext⟩ | ⟨-, hnext⟩
      · rw [effort_of_stage hstage, effort_of_stage hnext, hrequests, hpending, hrunning,
          hnone hpublish]
        simp only [Stage.effort, Work.effort]
        omega
      · rw [effort_of_stage hstage, effort_of_stage hnext, hrequests, hpending, hrunning,
          hnone hpublish]
        simp only [Stage.effort, Work.effort]
        omega
      · rw [effort_of_stage hstage, effort_of_stage hnext, hrequests, hpending, hrunning]
        simp only [Stage.effort, Work.effort]
        omega
    | deliver => exact hgoto _ (by decide)
  | confirmed o actual failed =>
    dsimp only
    split
    · exact hgoto _ (Nat.lt_succ_self _)
    · exact hgoto _ (Nat.lt_succ_of_lt (Nat.lt_succ_self _))
  | commit o actual failed => exact hgoto _ (Nat.lt_succ_self _)
  | result o failed => exact hgoto _ (Nat.lt_succ_self _)
  | publish snapshot operationToStart =>
    dsimp only [publish]
    split
    · exact hgoto _ (by simp only [Stage.effort]; omega)
    · exact hgoto (.deliver operationToStart) (by simp only [Stage.effort]; omega)
  | deliver operationToStart => exact hgoto _ (by simp only [Stage.effort]; omega)
  | startNext operationToStart =>
    cases operationToStart with
    | none => exact hgoto _ (by decide)
    | some o =>
      dsimp only
      split
      · exact hgoto _ (by simp [Stage.effort])
      · exact hgoto _ (Nat.lt_succ_self _)
  | start o =>
    rw [effort_of_stage hstage]
    have hcall : (firstCall o).effort ≤ 16 := by
      unfold firstCall
      split <;> decide
    simp only [effort, goto, note, StartupTaskCoordinator.call, Option.map_some, Option.getD_some,
      Stage.effort, List.map_cons, List.sum_cons]
    omega

/-- Every step of the drainer and the system leaves less to do. -/
theorem effort_step {event : Event} (h : startupTaskCoordinator.enabled s event)
    (hinternal : event.Internal) : (startupTaskCoordinator.step s event).effort < s.effort := by
  cases event with
  | refresh | requestDesired | subscribe | shutdown => cases hinternal
  | drain => exact effort_drain h
  | setCompleted o =>
    have hpost := effort_post_le { s with running := s.running.erase (o, .set) }
      (.queryActual o)
    have herase := effort_erase h s.history
    simp only [Work.effort, SystemCall.effort] at hpost herase
    exact Nat.lt_of_le_of_lt hpost (by omega)
  | queryCompleted o actual =>
    have hpost := effort_post_le
      { s with
        running := s.running.erase (o, .query), history := .reported o actual :: s.history }
      (.complete o actual.isSome (actual.getD false)
        (queryFailed o actual.isSome (actual.getD false)))
    have herase := effort_erase h (.reported o actual :: s.history)
    simp only [Work.effort, SystemCall.effort] at hpost herase
    exact Nat.lt_of_le_of_lt hpost (by omega)

/-! ## The latest request wins -/

/-- A coordinator before its first request. -/
def create (hasCommit : Bool) : StartupTaskCoordinator := { hasCommit := hasCommit }

/-- What holds of a coordinator whose revisions are not exhausted. -/
structure Consistent (s : StartupTaskCoordinator) : Prop where
  serial : Serial s
  faithful : Faithful s
  announced : Announced s
  queued : Queued s

theorem Consistent.create (hasCommit : Bool) : Consistent (create hasCommit) where
  serial := .create hasCommit
  faithful := by
    constructor <;> simp [StartupTaskCoordinator.create, works]
  announced := ⟨fun _ => rfl, fun _ => rfl⟩
  queued := ⟨fun _ => rfl, fun _ => rfl⟩

theorem Consistent.run {hasCommit : Bool} {events : List Event}
    (hrun : startupTaskCoordinator.Run (StartupTaskCoordinator.create hasCommit) events)
    (hlast : (startupTaskCoordinator.exec (StartupTaskCoordinator.create hasCommit)
      events).requests.revisionExhausted = false) :
    Consistent (startupTaskCoordinator.exec (StartupTaskCoordinator.create hasCommit) events) := by
  refine EventSystem.Always.invariant (S := startupTaskCoordinator)
    (I := fun s => s.requests.revisionExhausted = false → Consistent s)
    (fun s event henabled hs hlast => ?_) hrun (fun _ => .create hasCommit) hlast
  have hmove := serveMove_step henabled
  have hhad := hmove.not_exhausted hlast
  obtain ⟨hserial, hfaithful, hannounced, hqueued⟩ := hs hhad
  exact ⟨hserial.move hmove hlast, hfaithful.step hserial hhad hlast,
    hannounced.step hserial hhad hlast, hqueued.step⟩

/-- Nothing is left to the drainer and to the system. -/
def Settled (s : StartupTaskCoordinator) : Prop :=
  ∀ event : Event, event.Internal → ¬ startupTaskCoordinator.enabled s event

/-- The latest request wins, and the state is truthful. -/
structure LastRequestWins (s : StartupTaskCoordinator) : Prop where
  /-- At most one operation is in flight at the system. -/
  single : s.running.length ≤ 1
  /-- The operations are attempted in the order of the requests. -/
  inOrder : (attempts s.history).Pairwise Later
  /-- When none is in flight, the last accepted request is the last that was attempted. -/
  attempted : s.stopped = false → s.requests.inFlight = none →
    (attempts s.history).head? = (accepted s.history).head?
  /-- What commits and coalesced requests rest on. -/
  truthful : ∀ occurrence earlier, (occurrence :: earlier) <:+ s.history →
    Truthful occurrence earlier
  /-- The published snapshot is busy while an operation is in flight, except between a decision and
  its publication. -/
  busy : s.stopped = false → s.stage.any Stage.announcing = false →
    s.published.busy = s.requests.inFlight.isSome
  /-- A stopped coordinator is not busy. -/
  stopped : s.stopped = true → s.published.busy = false
  /-- The requests are decided in the order in which they are posted. -/
  decided : s.stopped = false → (posts s.history).reverse = (decisions s.history).reverse ++ s.queued
  /-- The drainer and the system come to an end. -/
  settles : ∀ events, startupTaskCoordinator.Run s events → (∀ event ∈ events, event.Internal) →
    events.length ≤ s.effort
  /-- Then every posted request is decided, and every accepted one is attempted unless a later one
  is accepted. -/
  settled : s.stopped = false → Settled s → s.queued = [] ∧ ∀ request ∈ accepted s.history,
    request ∈ attempts s.history ∨ ∃ later ∈ accepted s.history, Later later request

theorem Serial.running_length_le (hs : Serial s) : s.running.length ≤ 1 := by
  have honce := hs.once.length_le
  have hflight : s.requests.inFlight.toList.length ≤ 1 := by
    cases s.requests.inFlight with
    | none => exact Nat.zero_le _
    | some _ => exact Nat.le_refl _
  simp only [StartupTaskCoordinator.served, List.length_append, List.length_map] at honce
  omega

/-- In a settled coordinator no operation is in flight. -/
theorem Consistent.settled (hs : Consistent s) (hstopped : s.stopped = false) (h : Settled s) :
    s.requests.inFlight = none ∧ s.queued = [] := by
  have hstage : s.stage = none := Classical.byContradiction (h .drain trivial)
  have hpending := hs.queued.idle hstage
  have hrunning : s.running = [] := by
    cases hcalls : s.running with
    | nil => rfl
    | cons call rest =>
      obtain ⟨o, systemCall⟩ := call
      have hmem : (o, systemCall) ∈ s.running := by simp [hcalls]
      cases systemCall with
      | set => exact absurd hmem (h (.setCompleted o) trivial)
      | query => exact absurd hmem (h (.queryCompleted o none) trivial)
  constructor
  · have hcarried := hs.serial.carried hstopped
    simp only [waiting, served, hstage, hpending, hrunning, Option.bind_none, Option.toList_none,
      List.map_nil, List.filterMap_nil, List.append_nil] at hcarried
    cases hflight : s.requests.inFlight with
    | none => rfl
    | some o =>
      rw [hflight] at hcarried
      exact absurd hcarried.length_eq (by simp)
  · simp [StartupTaskCoordinator.queued, hstage, hpending]

/-- In every run, however requests, stops, the drainer and the system take turns, as long as the
revisions are not exhausted. -/
theorem last_request_wins (hasCommit : Bool) (events : List Event)
    (hrun : startupTaskCoordinator.Run (StartupTaskCoordinator.create hasCommit) events)
    (hlast : (startupTaskCoordinator.exec (StartupTaskCoordinator.create hasCommit)
      events).requests.revisionExhausted = false) :
    LastRequestWins
      (startupTaskCoordinator.exec (StartupTaskCoordinator.create hasCommit) events) := by
  have hs := Consistent.run hrun hlast
  generalize startupTaskCoordinator.exec (StartupTaskCoordinator.create hasCommit) events = s at hs
  exact {
    single := hs.serial.running_length_le
    inOrder := hs.serial.inOrder
    attempted := hs.serial.idle
    truthful := fun occurrence earlier h => hs.faithful.truthful.at h
    busy := fun hstopped hannouncing => by
      have hbusy := hs.announced.running hstopped
      cases hstage : s.stage with
      | none => rwa [hstage] at hbusy
      | some stage =>
        rw [hstage] at hbusy hannouncing
        cases stage with
        | publish | confirmed | commit | result => cases hannouncing
        | _ => exact hbusy
    stopped := hs.announced.stopped
    decided := hs.queued.order
    settles := fun events hrun hinternal => by
      have hsteps := hrun.and (EventSystem.always_of_forall hinternal)
      exact hsteps.length_le (I := fun _ => True) effort (fun _ _ _ _ => trivial)
        (fun s event h _ => effort_step h.1 h.2) trivial
    settled := fun hstopped hsettled => by
      obtain ⟨hidle, hqueued⟩ := hs.settled hstopped hsettled
      refine ⟨hqueued, fun request hmem => ?_⟩
      have hhead := hs.serial.idle hstopped hidle
      cases hlatest : (accepted s.history).head? with
      | none => simp [List.head?_eq_none_iff.1 hlatest] at hmem
      | some latest =>
        rw [hlatest] at hhead
        rcases later_of_head hs.serial.ordered hlatest hmem with rfl | hlater
        · exact .inl (List.mem_of_mem_head? hhead)
        · exact .inr ⟨latest, List.mem_of_mem_head? hlatest, hlater⟩ }

/-- A request, its operation and its result, until nothing is left to do. -/
theorem last_request_wins_requestDesired :
    LastRequestWins (startupTaskCoordinator.exec (StartupTaskCoordinator.create true)
      ([.requestDesired true] ++ List.replicate 8 .drain ++ [.setCompleted ⟨1, .desired, true⟩] ++
        List.replicate 4 .drain ++ [.queryCompleted ⟨1, .desired, true⟩ (some true)] ++
        List.replicate 10 .drain)) :=
  last_request_wins true _ (by decide) (by decide)

/-- A coordinator that is stopped while the system carries out an operation says that it is not
busy; and a refresh that is asked for during a set is answered by the set's request, which is no
refresh. -/
theorem busy_after_shutdown :
    let started : List Event := .requestDesired true :: List.replicate 8 .drain
    let stopped := startupTaskCoordinator.exec (StartupTaskCoordinator.create true)
      (started ++ [.shutdown])
    let refreshed := startupTaskCoordinator.exec (StartupTaskCoordinator.create true)
      (started ++ .refresh :: List.replicate 4 .drain)
    (startupTaskCoordinator.Run (StartupTaskCoordinator.create true) (started ++ [.shutdown]) ∧
      stopped.running = [(⟨1, .desired, true⟩, .set)] ∧
      stopped.requests.inFlight = some ⟨1, .desired, true⟩ ∧ stopped.published.busy = false) ∧
    (startupTaskCoordinator.Run (StartupTaskCoordinator.create true)
        (started ++ .refresh :: List.replicate 4 .drain) ∧
      refreshed.history.head? = some (.requested none ⟨1, true, true, none⟩) ∧
      accepted refreshed.history = [⟨1, .desired, true⟩]) := by
  decide

end StartupTaskCoordinator

end PlaybackConnector
