import Mathlib

/-!
# The latest startup task request

`LatestStartupTaskRequestState` (`LatestStartupTaskRequestState.hpp`): the policy by which requests
and the operations that serve them follow each other. At most one operation is in flight; a request
that comes meanwhile is remembered, and the completion of the operation then starts the one for the
latest request. `Recorded` and `Completed` say what a request and a completion can do.
-/

namespace PlaybackConnector

/-- Source: `RequestKind` (`LatestStartupTaskRequestState.hpp:15`). -/
inductive RequestKind
  | refresh | desired
deriving Repr, DecidableEq

/-- Source: `OperationToken` (`LatestStartupTaskRequestState.hpp:17`). -/
structure OperationToken where
  revision : Nat
  kind : RequestKind
  desired : Bool
deriving Repr, DecidableEq

/-- Source: `RequestResult` (`LatestStartupTaskRequestState.hpp:25`). -/
structure RequestResult where
  revision : Nat
  accepted : Bool
  coalesced : Bool
  operationToStart : Option OperationToken
deriving Repr, DecidableEq

/-- Source: `CompletionDisposition` (`LatestStartupTaskRequestState.hpp:32`). -/
inductive CompletionDisposition
  | stale | publish | superseded
deriving Repr, DecidableEq

/-- Source: `CompletionResult` (`LatestStartupTaskRequestState.hpp:34`). -/
structure CompletionResult where
  disposition : CompletionDisposition
  operationToStart : Option OperationToken
deriving Repr, DecidableEq

/-- Source: the data members of `LatestStartupTaskRequestState`
(`LatestStartupTaskRequestState.hpp:94`). -/
structure LatestStartupTaskRequestState where
  revision : Nat := 0
  latestRequest : Option OperationToken := none
  inFlight : Option OperationToken := none
  latestSettled : Bool := false
  revisionExhausted : Bool := false
deriving Repr, DecidableEq

namespace LatestStartupTaskRequestState

/-- `std::numeric_limits<std::uint64_t>::max()`. -/
def maxRevision : Nat := 2 ^ 64 - 1

/-- Source: `RecordRequest` (`LatestStartupTaskRequestState.hpp:76`). -/
def recordRequest (kind : RequestKind) (desired : Bool) (r : LatestStartupTaskRequestState) :
    LatestStartupTaskRequestState × RequestResult :=
  if r.revision = maxRevision then
    ({ r with
        revisionExhausted := true, latestSettled := false, latestRequest := none
        inFlight := none }, ⟨r.revision, false, false, none⟩)
  else
    let request : OperationToken := ⟨r.revision + 1, kind, desired⟩
    let r := { r with
      revision := r.revision + 1, latestRequest := some request, latestSettled := false }
    if r.inFlight.isSome then (r, ⟨request.revision, true, false, none⟩)
    else ({ r with inFlight := some request }, ⟨request.revision, true, false, some request⟩)

/-- Source: `RequestDesired` (`LatestStartupTaskRequestState.hpp:39`). -/
def requestDesired (desired : Bool) (r : LatestStartupTaskRequestState) :
    LatestStartupTaskRequestState × RequestResult :=
  if r.revisionExhausted then (r, ⟨r.revision, false, false, none⟩)
  else
    match r.latestRequest with
    | some latest =>
      if latest.kind = .desired ∧ latest.desired = desired then
        (r, ⟨latest.revision, true, true, none⟩)
      else r.recordRequest .desired desired
    | none => r.recordRequest .desired desired

/-- Source: `RequestRefresh` (`LatestStartupTaskRequestState.hpp:49`). -/
def requestRefresh (r : LatestStartupTaskRequestState) :
    LatestStartupTaskRequestState × RequestResult :=
  if r.revisionExhausted then (r, ⟨r.revision, false, false, none⟩)
  else
    match r.latestSettled, r.latestRequest with
    | false, some latest => (r, ⟨latest.revision, true, true, none⟩)
    | _, _ => r.recordRequest .refresh false

/-- `RequestDesired` for a desired state and `RequestRefresh` for none. Source:
`StartupTaskCoordinator.cpp:159`. -/
def request (desired : Option Bool) (r : LatestStartupTaskRequestState) :
    LatestStartupTaskRequestState × RequestResult :=
  match desired with
  | some desired => r.requestDesired desired
  | none => r.requestRefresh

/-- Source: `Complete` (`LatestStartupTaskRequestState.hpp:59`). -/
def complete (operation : OperationToken) (retainForCoalescing : Bool)
    (r : LatestStartupTaskRequestState) : LatestStartupTaskRequestState × CompletionResult :=
  if r.revisionExhausted ∨ r.inFlight ≠ some operation then (r, ⟨.stale, none⟩)
  else
    let r := { r with inFlight := none }
    match r.latestRequest with
    | none => (r, ⟨.stale, none⟩)
    | some latest =>
      if latest.revision = operation.revision then
        ({ r with
            latestSettled := retainForCoalescing
            latestRequest := if retainForCoalescing then some latest else none },
          ⟨.publish, none⟩)
      else ({ r with inFlight := some latest }, ⟨.superseded, some latest⟩)

/-! ## What a request does -/

/-- What a request does while revisions last: it is answered by the latest one, or it becomes the
latest one, and its operation is to start unless another is in flight. -/
inductive Requested (r : LatestStartupTaskRequestState) (desired : Option Bool) :
    LatestStartupTaskRequestState × RequestResult → Prop
  | coalesced (latest : OperationToken) (hlatest : r.latestRequest = some latest)
    (hsame : ∀ d, desired = some d → latest.kind = .desired ∧ latest.desired = d)
    (hrefresh : desired = none → r.latestSettled = false) :
    Requested r desired (r, ⟨latest.revision, true, true, none⟩)
  | queued (operation : OperationToken) (hbusy : r.inFlight = some operation)
    (request : OperationToken) (hrevision : request.revision = r.revision + 1)
    (hkind : request.kind = if desired.isSome then .desired else .refresh)
    (hdesired : request.desired = desired.getD false) :
    Requested r desired
      ({ r with revision := r.revision + 1, latestRequest := some request, latestSettled := false },
        ⟨request.revision, true, false, none⟩)
  | started (hidle : r.inFlight = none) (request : OperationToken)
    (hrevision : request.revision = r.revision + 1)
    (hkind : request.kind = if desired.isSome then .desired else .refresh)
    (hdesired : request.desired = desired.getD false) :
    Requested r desired
      ({ r with
          revision := r.revision + 1, latestRequest := some request, latestSettled := false
          inFlight := some request }, ⟨request.revision, true, false, some request⟩)

variable {r : LatestStartupTaskRequestState} {desired : Option Bool} {operation : OperationToken}
  {retain : Bool}

/-- A request is refused, coalesced or recorded. -/
theorem request_cases (r : LatestStartupTaskRequestState) (desired : Option Bool) :
    (r.revisionExhausted = true ∧ r.request desired = (r, ⟨r.revision, false, false, none⟩)) ∨
    (∃ latest, r.latestRequest = some latest ∧
      (∀ d, desired = some d → latest.kind = .desired ∧ latest.desired = d) ∧
      (desired = none → r.latestSettled = false) ∧
      r.request desired = (r, ⟨latest.revision, true, true, none⟩)) ∨
    (r.revisionExhausted = false ∧ r.request desired =
      r.recordRequest (if desired.isSome then .desired else .refresh) (desired.getD false)) := by
  cases hexhausted : r.revisionExhausted with
  | true =>
    cases desired with
    | none => simp [request, requestRefresh, hexhausted]
    | some d => simp [request, requestDesired, hexhausted]
  | false =>
    cases desired with
    | some d =>
      cases hlatest : r.latestRequest with
      | none => simp [request, requestDesired, hexhausted, hlatest]
      | some latest =>
        by_cases hsame : latest.kind = .desired ∧ latest.desired = d
        · simp [request, requestDesired, hexhausted, hlatest, hsame]
        · simp [request, requestDesired, hexhausted, hlatest, hsame]
    | none =>
      cases hsettled : r.latestSettled with
      | true => simp [request, requestRefresh, hexhausted, hsettled]
      | false =>
        cases hlatest : r.latestRequest with
        | none => simp [request, requestRefresh, hexhausted, hsettled, hlatest]
        | some latest => simp [request, requestRefresh, hexhausted, hsettled, hlatest]

/-- A request that is refused or coalesced starts nothing. -/
theorem operationToStart_of_not
    (h : (!(r.request desired).2.accepted || (r.request desired).2.coalesced) = true) :
    (r.request desired).2.operationToStart = none := by
  rcases request_cases r desired with ⟨-, hrefused⟩ | ⟨_, -, -, -, hcoalesced⟩ | ⟨-, hrecorded⟩
  · rw [hrefused]
  · rw [hcoalesced]
  · rw [hrecorded] at h ⊢
    unfold recordRequest at h ⊢
    split
    · rfl
    · dsimp only at h ⊢
      split <;> simp_all

theorem requested_recordRequest
    (hlast : (r.recordRequest (if desired.isSome then .desired else .refresh)
      (desired.getD false)).1.revisionExhausted = false) :
    Requested r desired
      (r.recordRequest (if desired.isSome then .desired else .refresh) (desired.getD false)) := by
  have hrevision : r.revision ≠ maxRevision := by
    intro hmax
    simp [recordRequest, hmax] at hlast
  cases hflight : r.inFlight with
  | none =>
    simp only [recordRequest, if_neg hrevision, hflight, Option.isSome_none, Bool.false_eq_true,
      if_false]
    exact .started hflight ⟨r.revision + 1, _, _⟩ rfl rfl rfl
  | some operation =>
    simp only [recordRequest, if_neg hrevision, hflight, Option.isSome_some, if_true]
    exact hflight ▸ .queued operation hflight ⟨r.revision + 1, _, _⟩ rfl rfl rfl

/-- A request while revisions last. -/
theorem requested (hlast : (r.request desired).1.revisionExhausted = false) :
    Requested r desired (r.request desired) := by
  rcases request_cases r desired with ⟨hexhausted, hrefused⟩ |
    ⟨latest, hlatest, hsame, hrefresh, hcoalesced⟩ | ⟨-, hrecorded⟩
  · rw [hrefused, hexhausted] at hlast
    cases hlast
  · rw [hcoalesced]
    exact .coalesced latest hlatest hsame hrefresh
  · rw [hrecorded] at hlast ⊢
    exact requested_recordRequest hlast

/-- Once the revisions are exhausted, they stay so. -/
theorem not_exhausted_of_request (hlast : (r.request desired).1.revisionExhausted = false) :
    r.revisionExhausted = false := by
  rcases request_cases r desired with ⟨hexhausted, hrefused⟩ | ⟨_, -, -, -, hcoalesced⟩ | ⟨h, -⟩
  · rw [hrefused, hexhausted] at hlast
    cases hlast
  · rwa [hcoalesced] at hlast
  · exact h

/-! ## What a completion does -/

/-- What the completion of the operation in flight does: the result of the latest request's
operation is to be published, and any other makes way for the latest request's. -/
inductive Completed (r : LatestStartupTaskRequestState) (operation : OperationToken)
    (retain : Bool) : LatestStartupTaskRequestState × CompletionResult → Prop
  | publish (latest : OperationToken) (hlatest : r.latestRequest = some latest)
    (hsame : latest.revision = operation.revision) :
    Completed r operation retain
      ({ r with
          inFlight := none, latestSettled := retain
          latestRequest := if retain then some latest else none }, ⟨.publish, none⟩)
  | superseded (latest : OperationToken) (hlatest : r.latestRequest = some latest)
    (hother : latest.revision ≠ operation.revision) :
    Completed r operation retain
      ({ r with inFlight := some latest }, ⟨.superseded, some latest⟩)

theorem completed (retain : Bool) (hhad : r.revisionExhausted = false)
    (hflight : r.inFlight = some operation) (hlatest : r.latestRequest.isSome) :
    Completed r operation retain (r.complete operation retain) := by
  obtain ⟨latest, hlatest⟩ := Option.isSome_iff_exists.1 hlatest
  by_cases hsame : latest.revision = operation.revision
  · have hcomplete : r.complete operation retain = ({ r with
        inFlight := none, latestSettled := retain
        latestRequest := if retain then some latest else none }, ⟨.publish, none⟩) := by
      simp [complete, hhad, hflight, hlatest, hsame]
    rw [hcomplete]
    exact .publish latest hlatest hsame
  · have hcomplete : r.complete operation retain =
        ({ r with inFlight := some latest }, ⟨.superseded, some latest⟩) := by
      simp [complete, hhad, hflight, hlatest, hsame]
    rw [hcomplete]
    exact .superseded latest hlatest hsame

/-- A completion that is to be published starts nothing. -/
theorem operationToStart_of_publish
    (h : (r.complete operation retain).2.disposition = .publish) :
    (r.complete operation retain).2.operationToStart = none := by
  unfold complete at h ⊢
  split
  · rfl
  · rename_i hnot
    rw [if_neg hnot] at h
    dsimp only at h ⊢
    split
    · rfl
    · rename_i latest hlatest
      rw [hlatest] at h
      dsimp only at h
      split <;> simp_all

@[simp] theorem complete_revisionExhausted :
    (r.complete operation retain).1.revisionExhausted = r.revisionExhausted := by
  unfold complete
  split
  · rfl
  · dsimp only
    split
    · rfl
    · split <;> rfl

end LatestStartupTaskRequestState

end PlaybackConnector
