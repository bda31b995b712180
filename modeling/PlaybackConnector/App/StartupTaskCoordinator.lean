import PlaybackConnector.Transition.System
import PlaybackConnector.App.LatestStartupTaskRequestState

/-!
# The startup task coordinator

`StartupTaskCoordinator` (`StartupTaskCoordinator.cpp`): requests and the completions of operations
are posted to a queue, which the thread that finds nobody draining it drains. The steps are the
critical sections of `Mutex` and the calls of foreign code between them, so that other threads and
the foreign code itself can post, stop and complete operations at each of these points; what only
the drainer accesses (the request policy and the confirmed state) changes along with its next step.

The operations are those of the system: a set, which is always followed by a query, and a query.
The history notes what happened, the latest first. The observers' registrations are left out.
-/

namespace PlaybackConnector

/-- Source: `StartupTaskSnapshot` (`StartupTaskSnapshot.hpp:9`). -/
structure StartupTaskSnapshot where
  publication : Nat := 0
  revision : Nat := 0
  enabled : Bool := false
  known : Bool := false
  busy : Bool := false
  failed : Bool := false
deriving Repr, DecidableEq

namespace StartupTaskCoordinator

/-- The work that is posted: a request, the query that follows a set, the completion of a query
(`Complete`, `StartupTaskCoordinator.cpp:203`), and the first delivery to an observer. -/
inductive Work
  | request (desired : Option Bool)
  | queryActual (operation : OperationToken)
  | complete (operation : OperationToken) (known actual failed : Bool)
  | deliver
deriving Repr, DecidableEq

/-- What the system does for an operation. -/
inductive SystemCall
  | set | query
deriving Repr, DecidableEq

/-- Where the drainer stands. -/
inductive Stage
  /-- Before the critical section that takes the next work. -/
  | next
  /-- The work is taken; `IsStopped` comes next. -/
  | taken (work : Work)
  /-- The work runs. -/
  | run (work : Work)
  /-- A query's result is accepted and known; `IsStopped` comes next. -/
  | confirmed (operation : OperationToken) (actual failed : Bool)
  /-- The call of `Commit`. -/
  | commit (operation : OperationToken) (actual failed : Bool)
  /-- `Snapshot` comes next, for the result of an operation. -/
  | result (operation : OperationToken) (failed : Bool)
  /-- `Publish`. -/
  | publish (snapshot : StartupTaskSnapshot) (operationToStart : Option OperationToken)
  /-- The observers are told. -/
  | deliver (operationToStart : Option OperationToken)
  /-- `IsStopped` comes next, if there is an operation to start. -/
  | startNext (operationToStart : Option OperationToken)
  /-- `Run`. -/
  | start (operation : OperationToken)
deriving Repr, DecidableEq

/-- What happened. -/
inductive Occurrence
  | posted (desired : Option Bool)
  | requested (desired : Option Bool) (result : RequestResult)
  | started (operation : OperationToken)
  | reported (operation : OperationToken) (actual : Option Bool)
  | completed (operation : OperationToken)
  | committed (operation : OperationToken) (actual : Bool)
  | published (snapshot : StartupTaskSnapshot)
deriving Repr, DecidableEq

end StartupTaskCoordinator

open StartupTaskCoordinator in
/-- Source: the data members of `StartupTaskCoordinator::State`
(`StartupTaskCoordinator.cpp:236`). -/
structure StartupTaskCoordinator where
  /-- There is a `Commit`. -/
  hasCommit : Bool
  requests : LatestStartupTaskRequestState := {}
  confirmedEnabled : Bool := false
  confirmedKnown : Bool := false
  published : StartupTaskSnapshot := {}
  pending : List Work := []
  /-- Where the thread stands that drains the queue, if `Draining`. -/
  stage : Option Stage := none
  stopped : Bool := false
  /-- The calls of the system that have not completed. -/
  running : List (OperationToken × SystemCall) := []
  history : List Occurrence := []
deriving Repr, DecidableEq

namespace StartupTaskCoordinator

/-- The call that an operation begins with. Source: `Run` (`StartupTaskCoordinator.cpp:196`). -/
def firstCall (operation : OperationToken) : SystemCall :=
  if operation.kind = .desired then .set else .query

/-- `failed`. Source: `QueryActual` (`StartupTaskCoordinator.cpp:182`). -/
def queryFailed (operation : OperationToken) (known actual : Bool) : Bool :=
  !known || (operation.kind = .desired && actual ≠ operation.desired)

/-- `desiredReached`. Source: `Complete` (`StartupTaskCoordinator.cpp:204`). -/
def desiredReached (operation : OperationToken) (known actual : Bool) : Bool :=
  operation.kind ≠ .desired || (known && actual = operation.desired)

/-- Something happened. -/
def note (occurrence : Occurrence) (s : StartupTaskCoordinator) : StartupTaskCoordinator :=
  { s with history := occurrence :: s.history }

/-- The critical section of `Post` that admits the work; if nobody drains the queue, the poster
begins to. Source: `Post` (`StartupTaskCoordinator.cpp:38`). -/
def post (work : Work) (s : StartupTaskCoordinator) : StartupTaskCoordinator :=
  if s.stopped then s
  else { s with pending := s.pending ++ [work], stage := some (s.stage.getD .next) }

/-- A request is posted, and accepted unless the coordinator is stopped. Source: `Refresh` and
`RequestDesired` (`StartupTaskCoordinator.cpp:278`). -/
def postRequest (desired : Option Bool) (s : StartupTaskCoordinator) : StartupTaskCoordinator :=
  if s.stopped then s else (s.post (.request desired)).note (.posted desired)

/-- Source: `Stop` (`StartupTaskCoordinator.cpp:140`). -/
def stop (s : StartupTaskCoordinator) : StartupTaskCoordinator :=
  { s with
    stopped := true
    published :=
      if s.published.busy then
        { s.published with busy := false, publication := (s.published.publication + 1) % 2 ^ 64 }
      else s.published
    pending := [] }

/-- The drainer goes on to a stage. -/
def goto (stage : Stage) (s : StartupTaskCoordinator) : StartupTaskCoordinator :=
  { s with stage := some stage }

/-- A request is decided, and its snapshot is made. Source: `Request`
(`StartupTaskCoordinator.cpp:158`). -/
def request (desired : Option Bool) (s : StartupTaskCoordinator) : StartupTaskCoordinator :=
  let decided := s.requests.request desired
  let result := decided.2
  let s := { s with requests := decided.1 }.note (.requested desired result)
  if !result.accepted || result.coalesced then s.goto .next
  else
    let snapshot := { s.published with revision := result.revision, busy := true, failed := false }
    let snapshot :=
      match desired with
      | some enabled => { snapshot with enabled := enabled, known := false }
      | none => snapshot
    s.goto (.publish snapshot result.operationToStart)

/-- A completion is decided. Source: `Complete` (`StartupTaskCoordinator.cpp:203`). -/
def complete (operation : OperationToken) (known actual failed : Bool)
    (s : StartupTaskCoordinator) : StartupTaskCoordinator :=
  let decided := s.requests.complete operation (desiredReached operation known actual)
  let s := { s with requests := decided.1 }.note (.completed operation)
  match decided.2.disposition with
  | .publish =>
    if known then
      { s with confirmedKnown := true, confirmedEnabled := actual }.goto
        (.confirmed operation actual failed)
    else s.goto (.result operation (failed || !known))
  | _ => s.goto (.startNext decided.2.operationToStart)

/-- The snapshot of an operation's result. Source: `Complete` (`StartupTaskCoordinator.cpp:219`). -/
def resultSnapshot (operation : OperationToken) (failed : Bool) (s : StartupTaskCoordinator) :
    StartupTaskSnapshot :=
  { s.published with
    revision := operation.revision
    known := s.confirmedKnown
    enabled := s.confirmedEnabled
    busy := false
    failed := failed }

/-- The critical section of `Publish` (`StartupTaskCoordinator.cpp:100`). -/
def publish (snapshot : StartupTaskSnapshot) (operationToStart : Option OperationToken)
    (s : StartupTaskCoordinator) : StartupTaskCoordinator :=
  if s.stopped then s.goto (.startNext operationToStart)
  else
    let snapshot := { snapshot with publication := (s.published.publication + 1) % 2 ^ 64 }
    ({ s with published := snapshot }.note (.published snapshot)).goto (.deliver operationToStart)

/-- The system is called. -/
def call (operation : OperationToken) (systemCall : SystemCall) (s : StartupTaskCoordinator) :
    StartupTaskCoordinator :=
  { s with running := (operation, systemCall) :: s.running }

/-- The drainer's next step. -/
def drain (s : StartupTaskCoordinator) : StartupTaskCoordinator :=
  match s.stage with
  | none => s
  | some .next =>
    match s.pending with
    | [] => { s with stage := none }
    | work :: rest => { s with pending := rest }.goto (.taken work)
  | some (.taken work) => if s.stopped then s.goto .next else s.goto (.run work)
  | some (.run (.request desired)) => s.request desired
  | some (.run (.queryActual operation)) => (s.call operation .query).goto .next
  | some (.run (.complete operation known actual failed)) =>
    s.complete operation known actual failed
  | some (.run .deliver) => s.goto .next
  | some (.confirmed operation actual failed) =>
    if s.hasCommit && !s.stopped then s.goto (.commit operation actual failed)
    else s.goto (.result operation failed)
  | some (.commit operation actual failed) =>
    (s.note (.committed operation actual)).goto (.result operation failed)
  | some (.result operation failed) =>
    s.goto (.publish (s.resultSnapshot operation failed) none)
  | some (.publish snapshot operationToStart) => s.publish snapshot operationToStart
  | some (.deliver operationToStart) => s.goto (.startNext operationToStart)
  | some (.startNext none) => s.goto .next
  | some (.startNext (some operation)) =>
    if s.stopped then s.goto .next else s.goto (.start operation)
  | some (.start operation) =>
    ((s.call operation (firstCall operation)).note (.started operation)).goto .next

/-- A set has completed, whether or not it succeeded. Source: `SetDesired`
(`StartupTaskCoordinator.cpp:187`). -/
def setCompleted (operation : OperationToken) (s : StartupTaskCoordinator) :
    StartupTaskCoordinator :=
  { s with running := s.running.erase (operation, .set) }.post (.queryActual operation)

/-- A query has completed with the state of the startup task, or has failed. Source: `QueryActual`
(`StartupTaskCoordinator.cpp:174`). -/
def queryCompleted (operation : OperationToken) (actual : Option Bool)
    (s : StartupTaskCoordinator) : StartupTaskCoordinator :=
  let known := actual.isSome
  let actual' := actual.getD false
  ({ s with running := s.running.erase (operation, .query) }.note (.reported operation actual)).post
    (.complete operation known actual' (queryFailed operation known actual'))

/-- What happens to a coordinator. -/
inductive Event
  | refresh
  | requestDesired (enabled : Bool)
  | subscribe
  | shutdown
  | drain
  | setCompleted (operation : OperationToken)
  | queryCompleted (operation : OperationToken) (actual : Option Bool)
deriving Repr, DecidableEq

end StartupTaskCoordinator

open StartupTaskCoordinator in
/-- The coordinator, its callers and the system. -/
def startupTaskCoordinator : EventSystem StartupTaskCoordinator StartupTaskCoordinator.Event where
  enabled s
    | .drain => s.stage ≠ none
    | .setCompleted operation => (operation, .set) ∈ s.running
    | .queryCompleted operation _ => (operation, .query) ∈ s.running
    | _ => True
  step s
    | .refresh => s.postRequest none
    | .requestDesired enabled => s.postRequest (some enabled)
    | .subscribe => s.post .deliver
    | .shutdown => s.stop
    | .drain => s.drain
    | .setCompleted operation => s.setCompleted operation
    | .queryCompleted operation actual => s.queryCompleted operation actual

instance (s : StartupTaskCoordinator) (event : StartupTaskCoordinator.Event) :
    Decidable (startupTaskCoordinator.enabled s event) :=
  match event with
  | .drain => inferInstanceAs (Decidable (s.stage ≠ none))
  | .setCompleted operation => inferInstanceAs (Decidable ((operation, _) ∈ s.running))
  | .queryCompleted operation _ => inferInstanceAs (Decidable ((operation, _) ∈ s.running))
  | .refresh | .requestDesired _ | .subscribe | .shutdown => inferInstanceAs (Decidable True)

end PlaybackConnector
