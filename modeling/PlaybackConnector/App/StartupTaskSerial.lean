import Mathlib
import PlaybackConnector.App.StartupTaskCoordinator

/-!
# The startup task coordinator serves one operation at a time

An operation in flight is carried by one of the drainer's stage, the calls of the system and the
queue: it waits for its start, or it is served. What a step does to it is a `ServeMove`, and that it
is carried once, and that the operations are attempted in the order of the requests, is the
invariant of these moves (`Serial`).
-/

namespace PlaybackConnector

namespace StartupTaskCoordinator

open LatestStartupTaskRequestState

/-! ## What the history says -/

/-- The accepted requests, the latest first; a coalesced request is not counted. -/
def accepted (history : List Occurrence) : List OperationToken :=
  history.filterMap fun
    | .requested desired result =>
      if result.accepted && !result.coalesced then
        some ⟨result.revision, if desired.isSome then .desired else .refresh, desired.getD false⟩
      else none
    | _ => none

/-- The operations that were started, the latest first. -/
def attempts (history : List Occurrence) : List OperationToken :=
  history.filterMap fun
    | .started operation => some operation
    | _ => none

/-- The first revision is that of a later request. -/
def Later (later earlier : OperationToken) : Prop := earlier.revision < later.revision

/-! ## What carries the operation in flight -/

/-- The operation that the work goes on with. -/
def Work.operation : Work → Option OperationToken
  | .queryActual operation | .complete operation _ _ _ => some operation
  | _ => none

/-- The operation that the drainer goes on with. -/
def Stage.served : Stage → Option OperationToken
  | .taken work | .run work => work.operation
  | _ => none

/-- The operation that the drainer is about to start. -/
def Stage.waiting : Stage → Option OperationToken
  | .publish _ operationToStart | .deliver operationToStart | .startNext operationToStart =>
    operationToStart
  | .start operation => some operation
  | _ => none

variable (s t : StartupTaskCoordinator)

/-- The operations that are about to be started. -/
def waiting : List OperationToken := (s.stage.bind Stage.waiting).toList

/-- The operations that are started and not completed. -/
def served : List OperationToken :=
  (s.stage.bind Stage.served).toList ++ s.running.map Prod.fst ++
    s.pending.filterMap Work.operation

/-- What a step does to the requests and to what carries the operation in flight. -/
inductive ServeMove : Prop
  | keep (hrequests : t.requests = s.requests) (hstopped : t.stopped = s.stopped)
    (haccepted : accepted t.history = accepted s.history)
    (hattempts : attempts t.history = attempts s.history)
    (hwaiting : t.waiting = s.waiting) (hserved : t.served.Perm s.served)
  | drop (hrequests : t.requests = s.requests) (hstopped : t.stopped = true)
    (haccepted : accepted t.history = accepted s.history)
    (hattempts : attempts t.history = attempts s.history)
    (hwaiting : t.waiting.Sublist s.waiting) (hserved : t.served.Subperm s.served)
  | request (desired : Option Bool)
    (hrequests : t.requests = (s.requests.request desired).1) (hstopped : t.stopped = s.stopped)
    (haccepted : accepted t.history =
      accepted (.requested desired (s.requests.request desired).2 :: s.history))
    (hattempts : attempts t.history = attempts s.history) (hnone : s.waiting = [])
    (hwaiting : t.waiting = (s.requests.request desired).2.operationToStart.toList)
    (hserved : t.served = s.served)
  | complete (operation : OperationToken) (retain : Bool)
    (hrequests : t.requests = (s.requests.complete operation retain).1)
    (hstopped : t.stopped = s.stopped)
    (haccepted : accepted t.history = accepted s.history)
    (hattempts : attempts t.history = attempts s.history) (hnone : s.waiting = [])
    (hwaiting : t.waiting = (s.requests.complete operation retain).2.operationToStart.toList)
    (hserved : s.served = operation :: t.served)
  | start (operation : OperationToken)
    (hrequests : t.requests = s.requests) (hstopped : t.stopped = s.stopped)
    (haccepted : accepted t.history = accepted s.history)
    (hattempts : attempts t.history = operation :: attempts s.history)
    (hone : s.waiting = [operation]) (hwaiting : t.waiting = [])
    (hserved : t.served = operation :: s.served)

variable {s t} {occurrence : Occurrence} {work : Work} {stage : Stage} {operation : OperationToken}
  {desired : Option Bool} {systemCall : SystemCall}

@[simp] theorem accepted_cons_of_not (h : ∀ d result, occurrence ≠ .requested d result)
    (history : List Occurrence) : accepted (occurrence :: history) = accepted history := by
  cases occurrence with
  | requested d result => exact absurd rfl (h d result)
  | _ => rfl

@[simp] theorem attempts_cons_of_not (h : ∀ o, occurrence ≠ .started o)
    (history : List Occurrence) : attempts (occurrence :: history) = attempts history := by
  cases occurrence with
  | started o => exact absurd rfl (h o)
  | _ => rfl

@[simp] theorem attempts_cons_started (history : List Occurrence) :
    attempts (.started operation :: history) = operation :: attempts history := rfl

theorem waiting_of_stage (h : s.stage = some stage) : s.waiting = stage.waiting.toList := by
  simp [waiting, h]

theorem served_of_stage (h : s.stage = some stage) :
    s.served = stage.served.toList ++ s.running.map Prod.fst ++
      s.pending.filterMap Work.operation := by
  simp [served, h]

/-- A post that is admitted adds its operation to the queue. -/
theorem post_served (work : Work) (h : s.stopped = false) :
    (s.post work).waiting = s.waiting ∧
      (s.post work).served = s.served ++ work.operation.toList := by
  cases hstage : s.stage with
  | none =>
    cases hwork : work.operation with
    | none => simp [post, h, waiting, served, hstage, Stage.waiting, Stage.served, hwork]
    | some o => simp [post, h, waiting, served, hstage, Stage.waiting, Stage.served, hwork]
  | some stage =>
    cases hwork : work.operation with
    | none => simp [post, h, waiting, served, hstage, hwork]
    | some o => simp [post, h, waiting, served, hstage, hwork]

@[simp] theorem post_requests : (s.post work).requests = s.requests := by
  unfold post
  split <;> rfl

@[simp] theorem post_stopped : (s.post work).stopped = s.stopped := by
  unfold post
  split <;> rfl

@[simp] theorem post_history : (s.post work).history = s.history := by
  unfold post
  split <;> rfl

/-- A post of work that goes on with no operation. -/
theorem serveMove_post (h : work.operation = none) : ServeMove s (s.post work) := by
  cases hstopped : s.stopped with
  | true =>
    have hpost : s.post work = s := by simp [post, hstopped]
    rw [hpost]
    exact .keep rfl rfl rfl rfl rfl (.refl _)
  | false =>
    obtain ⟨hwaiting, hserved⟩ := post_served work hstopped
    refine .keep (by simp) (by simp) (by simp) (by simp) hwaiting ?_
    simp [hserved, h]

theorem serveMove_postRequest : ServeMove s (s.postRequest desired) := by
  unfold postRequest
  split
  · exact .keep rfl rfl rfl rfl rfl (.refl _)
  next hstopped =>
    obtain ⟨hwaiting, hserved⟩ :=
      post_served (.request desired) (Bool.eq_false_iff.2 hstopped)
    have hhistory : (s.post (.request desired)).history = s.history := post_history
    have haccepted := congrArg accepted hhistory
    have hattempts := congrArg attempts hhistory
    refine .keep post_requests post_stopped haccepted hattempts hwaiting ?_
    · exact List.Perm.of_eq (hserved.trans (List.append_nil _))

theorem serveMove_stop : ServeMove s s.stop := by
  refine .drop rfl rfl rfl rfl (.refl _) ?_
  simp only [served, stop, List.filterMap_nil, List.append_nil]
  exact (List.sublist_append_left _ _).subperm

/-- A call of the system completes, and the work that follows is posted. -/
theorem serveMove_callCompleted (hcall : (operation, systemCall) ∈ s.running)
    (hwork : work.operation = some operation) (history : List Occurrence)
    (haccepted : accepted history = accepted s.history)
    (hattempts : attempts history = attempts s.history) :
    ServeMove s (post work
      { s with running := s.running.erase (operation, systemCall), history := history }) := by
  obtain ⟨u, hu⟩ : ∃ u, u =
      { s with running := s.running.erase (operation, systemCall), history := history } := ⟨_, rfl⟩
  have hrunning : (s.running.map Prod.fst).Perm (operation :: u.running.map Prod.fst) := by
    rw [hu]
    exact (List.perm_cons_erase hcall).map Prod.fst
  have hserved : s.served.Perm (u.served ++ [operation]) := by
    have hstage : u.stage = s.stage := by rw [hu]
    have hpending : u.pending = s.pending := by rw [hu]
    unfold served
    rw [hstage, hpending]
    refine (((hrunning.append_left _).append_right _).trans ?_)
    simp only [List.append_assoc, List.cons_append]
    refine List.perm_middle.trans ((List.perm_append_singleton operation _).symm.trans ?_)
    simp only [List.append_assoc, List.Perm.refl]
  have hwaiting : u.waiting = s.waiting := by rw [hu]; rfl
  rw [← hu]
  cases hstopped : s.stopped with
  | true =>
    have hpost : u.post work = u := by simp [post, hu, hstopped]
    rw [hpost]
    refine .drop (by rw [hu]) (by rw [hu, hstopped]) (by rw [hu]; exact haccepted)
      (by rw [hu]; exact hattempts) (by rw [hwaiting]) ?_
    exact ((List.sublist_append_left _ _).subperm).trans hserved.symm.subperm
  | false =>
    obtain ⟨hw, hs⟩ := post_served (s := u) work (by rw [hu]; exact hstopped)
    refine .keep (by rw [post_requests, hu]) (by rw [post_stopped, hu]) ?_ ?_
      (hw.trans hwaiting) ?_
    · rw [post_history, hu]
      exact haccepted
    · rw [post_history, hu]
      exact hattempts
    · rw [hs, hwork]
      exact hserved.symm

/-- The drainer goes on to a stage that carries the same operation. -/
theorem serveMove_goto {stage' : Stage} (hstage : s.stage = some stage)
    (hwaiting : stage'.waiting = stage.waiting) (hserved : stage'.served = stage.served) :
    ServeMove s (s.goto stage') := by
  refine .keep rfl rfl rfl rfl ?_ ?_
  · rw [waiting_of_stage hstage, waiting_of_stage (s := s.goto stage') rfl, hwaiting]
  · rw [served_of_stage hstage, served_of_stage (s := s.goto stage') rfl, hserved]
    rfl

/-- The drainer of a stopped coordinator drops the operation. -/
theorem serveMove_drop (hstage : s.stage = some stage) (hstopped : s.stopped = true) :
    ServeMove s (s.goto .next) := by
  refine .drop rfl hstopped rfl rfl ?_ ?_
  · rw [waiting_of_stage (s := s.goto .next) rfl]
    exact List.nil_sublist _
  · have hserved : (s.goto .next).served =
        s.running.map Prod.fst ++ s.pending.filterMap Work.operation := rfl
    rw [served_of_stage hstage, hserved, List.append_assoc]
    exact (List.sublist_append_right _ _).subperm

theorem serveMove_request (hstage : s.stage = some (.run (.request desired))) :
    ServeMove s (s.request desired) := by
  have hnone : s.waiting = [] := by rw [waiting_of_stage hstage]; rfl
  have hserved : s.served = s.running.map Prod.fst ++ s.pending.filterMap Work.operation := by
    rw [served_of_stage hstage]
    rfl
  unfold StartupTaskCoordinator.request
  dsimp only
  split
  next hnot =>
    refine .request desired rfl rfl rfl rfl hnone ?_ ?_
    · rw [operationToStart_of_not hnot]
      rfl
    · rw [hserved]
      rfl
  next =>
    refine .request desired rfl rfl rfl rfl hnone rfl ?_
    rw [hserved]
    rfl

theorem serveMove_complete {known actual failed : Bool}
    (hstage : s.stage = some (.run (.complete operation known actual failed))) :
    ServeMove s (s.complete operation known actual failed) := by
  have hnone : s.waiting = [] := by rw [waiting_of_stage hstage]; rfl
  have hserved : s.served =
      operation :: (s.running.map Prod.fst ++ s.pending.filterMap Work.operation) := by
    rw [served_of_stage hstage]
    rfl
  obtain ⟨decided, hdecided⟩ : ∃ decided,
    s.requests.complete operation (desiredReached operation known actual) = decided := ⟨_, rfl⟩
  unfold StartupTaskCoordinator.complete
  rw [hdecided]
  dsimp only
  split
  next hpublish =>
    have hstart : decided.2.operationToStart = none := by
      rw [← hdecided]
      exact operationToStart_of_publish (hdecided ▸ hpublish)
    split
    all_goals
      refine .complete operation (desiredReached operation known actual) (by rw [hdecided]; rfl)
        rfl rfl rfl hnone ?_ hserved
      rw [hdecided, hstart]
      rfl
  next =>
    refine .complete operation (desiredReached operation known actual) (by rw [hdecided]; rfl)
      rfl rfl rfl hnone ?_ hserved
    rw [hdecided]
    rfl

theorem serveMove_publish {snapshot : StartupTaskSnapshot}
    {operationToStart : Option OperationToken}
    (hstage : s.stage = some (.publish snapshot operationToStart)) :
    ServeMove s (s.publish snapshot operationToStart) := by
  unfold publish
  split
  · exact serveMove_goto hstage rfl rfl
  · refine .keep rfl rfl rfl rfl ?_ ?_
    · rw [waiting_of_stage hstage]
      rfl
    · rw [served_of_stage hstage]
      exact .refl _

/-- What the drainer's steps do. -/
theorem serveMove_drain : ServeMove s s.drain := by
  unfold drain
  cases hstage : s.stage with
  | none => exact .keep rfl rfl rfl rfl rfl (.refl _)
  | some stage =>
    cases stage with
    | next =>
      cases hpending : s.pending with
      | nil =>
        refine .keep rfl rfl rfl rfl ?_ ?_
        · simp [waiting, hstage, Stage.waiting]
        · simp [served, hstage, Stage.served, hpending]
      | cons work rest =>
        refine .keep rfl rfl rfl rfl ?_ ?_
        · simp [waiting, goto, hstage, Stage.waiting]
        · rw [served_of_stage hstage, hpending]
          cases hwork : work.operation with
          | none => simp [served, goto, Stage.served, hwork]
          | some o =>
            simp only [served, goto, Option.bind_some, Stage.served, hwork, Option.toList_some,
              Option.toList_none, List.filterMap_cons_some hwork, List.nil_append,
              List.cons_append]
            exact List.perm_middle.symm
    | taken work =>
      dsimp only
      split
      next hstopped => exact serveMove_drop hstage hstopped
      next => exact serveMove_goto hstage rfl rfl
    | run work =>
      cases work with
      | request desired => exact serveMove_request hstage
      | queryActual o =>
        refine .keep rfl rfl rfl rfl ?_ ?_
        · rw [waiting_of_stage hstage]
          rfl
        · rw [served_of_stage hstage]
          exact .refl _
      | complete o known actual failed => exact serveMove_complete hstage
      | deliver => exact serveMove_goto hstage rfl rfl
    | confirmed o actual failed =>
      dsimp only
      split
      · exact serveMove_goto hstage rfl rfl
      · exact serveMove_goto hstage rfl rfl
    | commit o actual failed =>
      refine .keep rfl rfl rfl rfl ?_ ?_
      · rw [waiting_of_stage hstage]
        rfl
      · rw [served_of_stage hstage]
        exact .refl _
    | result o failed => exact serveMove_goto hstage rfl rfl
    | publish snapshot operationToStart => exact serveMove_publish hstage
    | deliver operationToStart => exact serveMove_goto hstage rfl rfl
    | startNext operationToStart =>
      cases operationToStart with
      | none => exact serveMove_goto hstage rfl rfl
      | some o =>
        dsimp only
        split
        next hstopped => exact serveMove_drop hstage hstopped
        next => exact serveMove_goto hstage rfl rfl
    | start o =>
      refine .start o rfl rfl rfl rfl ?_ rfl ?_
      · rw [waiting_of_stage hstage]
        rfl
      · rw [served_of_stage hstage]
        rfl

/-- What every step does to the requests and to what carries the operation in flight. -/
theorem serveMove_step {event : Event} (h : startupTaskCoordinator.enabled s event) :
    ServeMove s (startupTaskCoordinator.step s event) := by
  cases event with
  | refresh => exact serveMove_postRequest
  | requestDesired enabled => exact serveMove_postRequest
  | subscribe => exact serveMove_post rfl
  | shutdown => exact serveMove_stop
  | drain => exact serveMove_drain
  | setCompleted o => exact serveMove_callCompleted h rfl _ rfl rfl
  | queryCompleted o actual => exact serveMove_callCompleted h rfl _ rfl rfl

/-! ## The operation in flight is carried once -/

/-- What relates the requests, the attempts and what carries the operation in flight. While the
coordinator is not stopped, the operation in flight is carried exactly once. -/
structure Serial (s : StartupTaskCoordinator) : Prop where
  ordered : (accepted s.history).Pairwise Later
  bounded : ∀ request ∈ accepted s.history, request.revision ≤ s.requests.revision
  latest : ∀ request, s.requests.latestRequest = some request →
    (accepted s.history).head? = some request
  inFlight : ∀ operation, s.requests.inFlight = some operation →
    operation ∈ accepted s.history ∧ s.requests.latestRequest.isSome
  attempted : ∀ operation ∈ attempts s.history, operation ∈ accepted s.history
  inOrder : (attempts s.history).Pairwise Later
  waiting : ∀ operation ∈ s.waiting, ∀ earlier ∈ attempts s.history, Later operation earlier
  served : ∀ operation ∈ s.served, (attempts s.history).head? = some operation
  once : (s.waiting ++ s.served).Subperm s.requests.inFlight.toList
  carried : s.stopped = false → (s.waiting ++ s.served).Perm s.requests.inFlight.toList
  idle : s.stopped = false → s.requests.inFlight = none →
    (attempts s.history).head? = (accepted s.history).head?

/-- The latest of the accepted requests is the one with the greatest revision. -/
theorem later_of_head {requests : List OperationToken} {latest : OperationToken}
    (h : requests.Pairwise Later) (hlatest : requests.head? = some latest)
    (hmem : operation ∈ requests) : operation = latest ∨ Later latest operation := by
  cases requests with
  | nil => cases hmem
  | cons first rest =>
    obtain rfl := Option.some.inj hlatest
    rcases List.mem_cons.1 hmem with rfl | hrest
    · exact .inl rfl
    · exact .inr ((List.pairwise_cons.1 h).1 operation hrest)

theorem Serial.mem_inFlight (hs : Serial s) (h : operation ∈ s.waiting ++ s.served) :
    s.requests.inFlight = some operation :=
  Option.mem_toList.1 (hs.once.subset h)

/-- An operation that is served is that of the latest request, or of an earlier one. -/
theorem Serial.served_or_later (hs : Serial s) {latest : OperationToken}
    (hlatest : s.requests.latestRequest = some latest) (h : operation ∈ s.served) :
    operation = latest ∨ Later latest operation :=
  later_of_head hs.ordered (hs.latest latest hlatest)
    (hs.inFlight operation (hs.mem_inFlight (List.mem_append_right _ h))).1

theorem Serial.create (hasCommit : Bool) :
    Serial { hasCommit := hasCommit : StartupTaskCoordinator } := by
  constructor <;> simp [accepted, attempts, StartupTaskCoordinator.waiting,
    StartupTaskCoordinator.served]

/-- A recorded request. -/
theorem accepted_requested {r : Nat} {operationToStart : Option OperationToken}
    {request : OperationToken} (history : List Occurrence)
    (hrevision : request.revision = r)
    (hkind : request.kind = if desired.isSome then .desired else .refresh)
    (hdesired : request.desired = desired.getD false) :
    accepted (.requested desired ⟨r, true, false, operationToStart⟩ :: history) =
      request :: accepted history := by
  obtain ⟨revision, kind, d⟩ := request
  subst hrevision hkind hdesired
  rfl

theorem Serial.keep (hs : Serial s) (hrequests : t.requests = s.requests)
    (hstopped : t.stopped = s.stopped) (haccepted : accepted t.history = accepted s.history)
    (hattempts : attempts t.history = attempts s.history) (hwaiting : t.waiting = s.waiting)
    (hserved : t.served.Perm s.served) : Serial t := by
  have hcarried : (t.waiting ++ t.served).Perm (s.waiting ++ s.served) :=
    hwaiting ▸ hserved.append_left _
  constructor
  · exact haccepted ▸ hs.ordered
  · exact haccepted ▸ hrequests ▸ hs.bounded
  · exact haccepted ▸ hrequests ▸ hs.latest
  · exact haccepted ▸ hrequests ▸ hs.inFlight
  · exact haccepted ▸ hattempts ▸ hs.attempted
  · exact hattempts ▸ hs.inOrder
  · exact hattempts ▸ hwaiting ▸ hs.waiting
  · intro operation hmem
    exact hattempts ▸ hs.served operation (hserved.subset hmem)
  · exact hrequests ▸ hcarried.subperm.trans hs.once
  · intro hrunning
    exact hrequests ▸ hcarried.trans (hs.carried (hstopped ▸ hrunning))
  · exact haccepted ▸ hattempts ▸ hrequests ▸ hstopped ▸ hs.idle

/-- A stopped coordinator may drop the operation in flight. -/
theorem Serial.drop (hs : Serial s) (hrequests : t.requests = s.requests)
    (hstopped : t.stopped = true) (haccepted : accepted t.history = accepted s.history)
    (hattempts : attempts t.history = attempts s.history)
    (hwaiting : t.waiting.Sublist s.waiting) (hserved : t.served.Subperm s.served) : Serial t := by
  constructor
  · exact haccepted ▸ hs.ordered
  · exact haccepted ▸ hrequests ▸ hs.bounded
  · exact haccepted ▸ hrequests ▸ hs.latest
  · exact haccepted ▸ hrequests ▸ hs.inFlight
  · exact haccepted ▸ hattempts ▸ hs.attempted
  · exact hattempts ▸ hs.inOrder
  · intro operation hmem
    exact hattempts ▸ hs.waiting operation (hwaiting.subset hmem)
  · intro operation hmem
    exact hattempts ▸ hs.served operation (hserved.subset hmem)
  · exact hrequests ▸ (hwaiting.subperm.append hserved).trans hs.once
  · intro hrunning
    rw [hstopped] at hrunning
    cases hrunning
  · intro hrunning
    rw [hstopped] at hrunning
    cases hrunning

/-- A request that is recorded becomes the latest; if no operation is in flight, its own is. -/
theorem Serial.record (hs : Serial s) {request : OperationToken}
    (hrevision : request.revision = s.requests.revision + 1)
    (hnow : t.requests.revision = s.requests.revision + 1)
    (hlatest : t.requests.latestRequest = some request)
    (hflight : t.requests.inFlight = some (s.requests.inFlight.getD request))
    (haccepted : accepted t.history = request :: accepted s.history)
    (hattempts : attempts t.history = attempts s.history)
    (hnone : s.waiting = [])
    (hwaiting : t.waiting = if s.requests.inFlight = none then [request] else [])
    (hserved : t.served = s.served) (hstopped : t.stopped = s.stopped) : Serial t := by
  have hbelow : ∀ earlier ∈ accepted s.history, Later request earlier := by
    intro earlier hmem
    have hle := hs.bounded earlier hmem
    unfold Later
    omega
  have honce := hs.once
  rw [hnone, List.nil_append] at honce
  have hcarried : t.waiting ++ t.served = if s.requests.inFlight = none then [request]
      else s.served := by
    rw [hwaiting, hserved]
    split
    next hidle =>
      rw [hidle] at honce
      simpa using List.subperm_nil.1 honce
    next => rfl
  constructor
  · rw [haccepted]
    exact List.pairwise_cons.2 ⟨hbelow, hs.ordered⟩
  · intro other hmem
    rw [haccepted] at hmem
    rcases List.mem_cons.1 hmem with rfl | hmem
    · omega
    · have hle := hs.bounded other hmem
      omega
  · intro other hother
    rw [haccepted]
    exact hlatest.symm.trans hother
  · intro operation hoperation
    refine ⟨?_, by simp [hlatest]⟩
    rw [haccepted]
    cases hidle : s.requests.inFlight with
    | none =>
      rw [hflight, hidle] at hoperation
      obtain rfl := Option.some.inj hoperation
      exact List.mem_cons_self
    | some current =>
      rw [hflight, hidle] at hoperation
      obtain rfl := Option.some.inj hoperation
      exact List.mem_cons_of_mem _ (hs.inFlight _ hidle).1
  · intro operation hmem
    rw [hattempts] at hmem
    exact haccepted ▸ List.mem_cons_of_mem _ (hs.attempted operation hmem)
  · exact hattempts ▸ hs.inOrder
  · intro operation hmem earlier hearlier
    rw [hattempts] at hearlier
    rw [hwaiting] at hmem
    split at hmem
    · obtain rfl := List.mem_singleton.1 hmem
      exact hbelow earlier (hs.attempted earlier hearlier)
    · cases hmem
  · exact hattempts ▸ hserved ▸ hs.served
  · rw [hcarried, hflight]
    cases hidle : s.requests.inFlight with
    | none => exact .refl _
    | some current => simpa [hidle] using honce
  · intro hrunning
    have hall := hs.carried (hstopped ▸ hrunning)
    rw [hnone, List.nil_append] at hall
    rw [hcarried, hflight]
    cases hidle : s.requests.inFlight with
    | none => exact .refl _
    | some current => simpa [hidle] using hall
  · intro _ hidle
    rw [hflight] at hidle
    cases hidle

theorem Serial.request (hs : Serial s)
    (hrequests : t.requests = (s.requests.request desired).1) (hstopped : t.stopped = s.stopped)
    (haccepted : accepted t.history =
      accepted (.requested desired (s.requests.request desired).2 :: s.history))
    (hattempts : attempts t.history = attempts s.history) (hnone : s.waiting = [])
    (hwaiting : t.waiting = (s.requests.request desired).2.operationToStart.toList)
    (hserved : t.served = s.served) (hlast : t.requests.revisionExhausted = false) :
    Serial t := by
  have hrequested := requested (hrequests ▸ hlast)
  generalize s.requests.request desired = decided at hrequested hrequests haccepted hwaiting
  cases hrequested with
  | coalesced latest =>
    exact hs.keep hrequests hstopped haccepted hattempts (hwaiting.trans hnone.symm)
      (.of_eq hserved)
  | queued operation hbusy request hrevision hkind hdesired =>
    rw [accepted_requested s.history rfl hkind hdesired] at haccepted
    refine hs.record hrevision ?_ ?_ ?_ haccepted hattempts hnone ?_ hserved hstopped
    · rw [hrequests]
    · rw [hrequests]
    · rw [hrequests, hbusy]
      rfl
    · simpa [hbusy] using hwaiting
  | started hidle request hrevision hkind hdesired =>
    rw [accepted_requested s.history rfl hkind hdesired] at haccepted
    refine hs.record hrevision ?_ ?_ ?_ haccepted hattempts hnone ?_ hserved hstopped
    · rw [hrequests]
    · rw [hrequests]
    · rw [hrequests, hidle]
      rfl
    · simpa [hidle] using hwaiting

/-- The completion of the operation in flight is that of the latest request, or the latest request's
operation follows. -/
theorem Serial.complete (hs : Serial s) {retain : Bool}
    (hrequests : t.requests = (s.requests.complete operation retain).1)
    (haccepted : accepted t.history = accepted s.history)
    (hattempts : attempts t.history = attempts s.history) (hnone : s.waiting = [])
    (hwaiting : t.waiting = (s.requests.complete operation retain).2.operationToStart.toList)
    (hserved : s.served = operation :: t.served) (hlast : t.requests.revisionExhausted = false) :
    Serial t := by
  have hmemServed : operation ∈ s.served := by simp [hserved]
  have hhead := hs.served operation hmemServed
  have hflight := hs.mem_inFlight (List.mem_append_right _ hmemServed)
  obtain ⟨hmem, hsome⟩ := hs.inFlight operation hflight
  have hempty : t.served = [] := by
    have hlength := hs.once.length_le
    rw [hnone, hserved, hflight] at hlength
    simpa using hlength
  have hcompleted := completed retain
    (by rwa [hrequests, complete_revisionExhausted] at hlast) hflight hsome
  generalize s.requests.complete operation retain = decided at hcompleted hrequests hwaiting
  have hordered : (accepted t.history).Pairwise Later := haccepted ▸ hs.ordered
  have hattempted : ∀ other ∈ attempts t.history, other ∈ accepted t.history :=
    haccepted ▸ hattempts ▸ hs.attempted
  have hinOrder : (attempts t.history).Pairwise Later := hattempts ▸ hs.inOrder
  cases hcompleted with
  | publish latest hlatest hsame =>
    have hlatestHead := hs.latest latest hlatest
    have heq : operation = latest := by
      rcases hs.served_or_later hlatest hmemServed with heq | hlater
      · exact heq
      · unfold Later at hlater
        omega
    constructor
    · exact hordered
    · rw [haccepted, hrequests]
      exact hs.bounded
    · intro other hother
      rw [hrequests] at hother
      dsimp only at hother
      split at hother
      · exact haccepted ▸ hlatestHead.trans hother
      · cases hother
    · intro other hother
      rw [hrequests] at hother
      cases hother
    · exact hattempted
    · exact hinOrder
    · simp [hwaiting]
    · simp [hempty]
    · rw [hwaiting, hempty]
      exact List.nil_subperm
    · intro _
      rw [hwaiting, hempty, hrequests]
      exact .refl _
    · intro _ _
      rw [hattempts, haccepted, hhead, hlatestHead, heq]
  | superseded latest hlatest hother =>
    have hlatestHead := hs.latest latest hlatest
    have hlater : Later latest operation := by
      rcases hs.served_or_later hlatest hmemServed with rfl | hlater
      · exact absurd rfl hother
      · exact hlater
    have hcarried : t.waiting ++ t.served = t.requests.inFlight.toList := by
      rw [hwaiting, hempty, hrequests]
      rfl
    constructor
    · exact hordered
    · rw [haccepted, hrequests]
      exact hs.bounded
    · rw [haccepted, hrequests]
      exact hs.latest
    · intro other hother
      rw [hrequests] at hother
      obtain rfl := Option.some.inj hother
      refine ⟨haccepted ▸ List.mem_of_mem_head? hlatestHead, ?_⟩
      rw [hrequests, hlatest]
      rfl
    · exact hattempted
    · exact hinOrder
    · intro other hmem earlier hearlier
      rw [hwaiting] at hmem
      obtain rfl := List.mem_singleton.1 hmem
      rw [hattempts] at hearlier
      rcases later_of_head hs.inOrder hhead hearlier with rfl | hless
      · exact hlater
      · exact Nat.lt_trans hless hlater
    · simp [hempty]
    · exact hcarried ▸ .refl _
    · exact fun _ => .of_eq hcarried
    · intro _ hidle
      rw [hrequests] at hidle
      cases hidle

theorem Serial.start (hs : Serial s) (hrequests : t.requests = s.requests)
    (haccepted : accepted t.history = accepted s.history)
    (hattempts : attempts t.history = operation :: attempts s.history)
    (hone : s.waiting = [operation]) (hwaiting : t.waiting = [])
    (hserved : t.served = operation :: s.served) : Serial t := by
  have hflight : s.requests.inFlight = some operation := hs.mem_inFlight (by simp [hone])
  have hempty : s.served = [] := by
    have hlength := hs.once.length_le
    rw [hone, hflight] at hlength
    simpa using hlength
  have hcarried : t.waiting ++ t.served = t.requests.inFlight.toList := by
    rw [hwaiting, hserved, hempty, hrequests, hflight]
    rfl
  constructor
  · exact haccepted ▸ hs.ordered
  · exact haccepted ▸ hrequests ▸ hs.bounded
  · exact haccepted ▸ hrequests ▸ hs.latest
  · exact haccepted ▸ hrequests ▸ hs.inFlight
  · intro other hmem
    rw [hattempts] at hmem
    rw [haccepted]
    rcases List.mem_cons.1 hmem with rfl | hmem
    · exact (hs.inFlight _ hflight).1
    · exact hs.attempted other hmem
  · rw [hattempts]
    exact List.pairwise_cons.2 ⟨hs.waiting operation (by simp [hone]), hs.inOrder⟩
  · simp [hwaiting]
  · intro other hmem
    rw [hserved, hempty] at hmem
    obtain rfl := List.mem_singleton.1 hmem
    rw [hattempts]
    rfl
  · exact hcarried ▸ .refl _
  · exact fun _ => .of_eq hcarried
  · intro _ hidle
    rw [hrequests, hflight] at hidle
    cases hidle

/-- Every move keeps the operation in flight carried once. -/
theorem Serial.move (hs : Serial s) (hmove : ServeMove s t)
    (hlast : t.requests.revisionExhausted = false) : Serial t := by
  cases hmove with
  | keep hrequests hstopped haccepted hattempts hwaiting hserved =>
    exact hs.keep hrequests hstopped haccepted hattempts hwaiting hserved
  | drop hrequests hstopped haccepted hattempts hwaiting hserved =>
    exact hs.drop hrequests hstopped haccepted hattempts hwaiting hserved
  | request desired hrequests hstopped haccepted hattempts hnone hwaiting hserved =>
    exact hs.request hrequests hstopped haccepted hattempts hnone hwaiting hserved hlast
  | complete operation retain hrequests _ haccepted hattempts hnone hwaiting hserved =>
    exact hs.complete hrequests haccepted hattempts hnone hwaiting hserved hlast
  | start operation hrequests _ haccepted hattempts hone hwaiting hserved =>
    exact hs.start hrequests haccepted hattempts hone hwaiting hserved

/-- Once the revisions are exhausted, they stay so. -/
theorem ServeMove.not_exhausted (hmove : ServeMove s t)
    (hlast : t.requests.revisionExhausted = false) : s.requests.revisionExhausted = false := by
  cases hmove with
  | keep hrequests | drop hrequests | start _ hrequests => rwa [hrequests] at hlast
  | request desired hrequests => exact not_exhausted_of_request (hrequests ▸ hlast)
  | complete operation retain hrequests =>
    rwa [hrequests, complete_revisionExhausted] at hlast

end StartupTaskCoordinator

end PlaybackConnector
