import PlaybackConnector.Control.CommandLineControlServer
import PlaybackConnector.Control.Ledger

/-!
# The accounts of the command-line control server

Who holds a record of the cache, and who is about to ask for one, can be read off the instances and
the callbacks: `CommandLineControlServer.holders`. In every state that the server can reach, the
books of the cache are in order for them: `cache_accounting`.
-/

namespace PlaybackConnector.Control

open RequestCache (Holders)
open CommandLineControlServer

/-! ## Holders -/

/-- The part of an instance. -/
def PipeInstance.holders (i : PipeInstance) : Holders :=
  (if i.pendingDelivery then .pends i.request.correlationId else 0) +
    match i.acknowledgementRecord with
    | none => 0
    | some record => .delivers (i.request.correlationId, record)

/-- The instance delivers a record. -/
def PipeInstance.delivers (key : CorrelationId × Nat) (i : PipeInstance) : Bool :=
  i.acknowledgementRecord.any fun record => key == (i.request.correlationId, record)

/-- The callback has a record to deliver. -/
def HandlerCallback.delivers (key : CorrelationId × Nat) (b : HandlerCallback) : Bool :=
  match b.point with
  | .answered _ (some record) => key == (b.request.correlationId, record)
  | _ => false

/-- The connection delivers a record: its instance does, or its callback is about to. -/
def Slot.delivers (key : CorrelationId × Nat) (slot : Slot) : Bool :=
  slot.pipe.delivers key || slot.callback.any (HandlerCallback.delivers key)

/-- What a callback does with a record. -/
def HandlerPoint.holders (id : CorrelationId) : HandlerPoint → Holders
  | .entered _ | .failed | .answered _ none => 0
  | .waiting record => .waits (id, record)
  | .executing record | .returned record _ _ => .executes (id, record)
  | .answered _ (some record) => .delivers (id, record)

/-- The part of a callback. -/
def HandlerCallback.holders (b : HandlerCallback) : Holders :=
  b.point.holders b.request.correlationId +
    if b.pendingDelivery then .pends b.pendingCorrelation else 0

/-- The part of an instance and its callback. -/
def Slot.holders (slot : Slot) : Holders :=
  slot.pipe.holders + (slot.callback.map HandlerCallback.holders).getD 0

/-- Who has to do with the cache. -/
def CommandLineControlServer.holders (s : CommandLineControlServer) : Holders :=
  (s.slots.map Slot.holders).sum + (s.releasing.map Holders.delivers).sum

/-! ## Instances and callbacks -/

/-- The phases in which a response is delivered. -/
def isDelivering : PipePhase → Bool
  | .writingResponseHeader | .writingResponsePayload | .readingAcknowledgement => true
  | .disconnected | .connecting | .readingRequestHeader | .readingRequestPayload
  | .runningHandler => false

/-- The callback has not got an answer yet. -/
def HandlerPoint.asks : HandlerPoint → Bool
  | .entered _ | .waiting _ | .executing _ | .returned _ _ _ => true
  | .answered _ _ | .failed => false

/-- The callback has to do with the request of its instance. -/
def HandlerPoint.isBound : HandlerPoint → Bool
  | .entered canRun => canRun
  | .waiting _ | .executing _ | .returned _ _ _ | .answered _ (some _) => true
  | .answered _ none | .failed => false

/-- The response that a handler has returned fits a record. -/
def HandlerPoint.Fits : HandlerPoint → Prop
  | .returned _ response _ => response.payload.length * sizeofChar ≤ maxPayloadBytes
  | .entered _ | .waiting _ | .executing _ | .answered _ _ | .failed => True

/-- A callback and its instance's request agree. -/
structure HandlerCallback.Ok (b : HandlerCallback) (request : Request) : Prop where
  pending : b.pendingCorrelation = request.correlationId
  asks : b.point.asks → b.pendingDelivery
  bound : b.point.isBound → b.request = request
  fits : b.point.Fits

/-- An instance and its callback agree. -/
structure Slot.Ok (slot : Slot) : Prop where
  delivering : slot.pipe.acknowledgementRecord.isSome → isDelivering slot.pipe.phase
  pending : slot.pipe.pendingDelivery = slot.submitted
  submitted : slot.submitted → slot.pipe.phase = .runningHandler ∧ slot.callback = none
  callback : ∀ b, slot.callback = some b →
    slot.pipe.phase = .runningHandler ∧ b.Ok slot.pipe.request

/-- The books are in order. -/
structure CommandLineControlServer.Inv (o : CacheOptions) (s : CommandLineControlServer) : Prop where
  ledger : RequestCache.Ledger o s.cache s.holders
  slots : ∀ slot ∈ s.slots, slot.Ok

variable {o : CacheOptions} {s : CommandLineControlServer} {slot : Slot} {i : PipeInstance}
  {b : HandlerCallback} {c : RequestCache} {rest : Holders} {running armed : Bool} {now : Nat}

/-! ## Sums -/

theorem sum_set {l : List Slot} {index : Nat} (h : index < l.length) (slot : Slot) :
    ((l.set index slot).map Slot.holders).sum =
      slot.holders + ((l.eraseIdx index).map Slot.holders).sum := by
  induction l generalizing index with
  | nil => exact absurd h (Nat.not_lt_zero _)
  | cons first others ih =>
    cases index with
    | zero => simp
    | succ index =>
      simp only [List.set_cons_succ, List.eraseIdx_cons_succ, List.map_cons, List.sum_cons]
      rw [ih (Nat.lt_of_succ_lt_succ h), add_left_comm]

theorem covered_zero : (0 : Holders).Covered :=
  fun key hkey => absurd hkey (Multiset.notMem_zero key)

theorem covered_pends (id : CorrelationId) : (Holders.pends id).Covered :=
  fun key hkey => absurd hkey (Multiset.notMem_zero key)

theorem covered_delivers (key : CorrelationId × Nat) : (Holders.delivers key).Covered :=
  fun key hkey => absurd hkey (Multiset.notMem_zero key)

theorem PipeInstance.covered (i : PipeInstance) : i.holders.Covered := by
  unfold holders
  refine .add ?_ ?_
  · split
    · exact covered_pends _
    · exact covered_zero
  · split
    · exact covered_zero
    · exact covered_delivers _

theorem HandlerCallback.Ok.covered {request : Request} (h : b.Ok request) : b.holders.Covered := by
  cases hpoint : b.point with
  | waiting record =>
    intro key hkey
    have hpending : b.pendingDelivery := h.asks (by rw [hpoint]; rfl)
    have hrequest : b.request = request := h.bound (by rw [hpoint]; rfl)
    simp only [HandlerCallback.holders, hpending, hpoint, HandlerPoint.holders, if_true] at hkey ⊢
    rcases Multiset.mem_add.1 hkey with hkey | hkey
    · rw [Multiset.mem_singleton.1 hkey, hrequest, h.pending]
      simp
    · exact absurd hkey (Multiset.notMem_zero key)
  | entered | executing | returned | failed =>
    intro key hkey
    have hnone : b.holders.waiting = 0 := by
      simp only [HandlerCallback.holders, hpoint, HandlerPoint.holders]
      split <;> rfl
    exact absurd (hnone ▸ hkey) (Multiset.notMem_zero key)
  | answered response record =>
    intro key hkey
    have hnone : b.holders.waiting = 0 := by
      cases record <;> simp only [HandlerCallback.holders, hpoint, HandlerPoint.holders] <;>
        split <;> rfl
    exact absurd (hnone ▸ hkey) (Multiset.notMem_zero key)

theorem Slot.Ok.covered (h : slot.Ok) : slot.holders.Covered := by
  unfold holders
  refine .add (PipeInstance.covered _) ?_
  cases hcallback : slot.callback with
  | none => exact covered_zero
  | some b => exact (h.callback b hcallback).2.covered

theorem covered_slots {slots : List Slot} (h : ∀ slot ∈ slots, slot.Ok) :
    (slots.map Slot.holders).sum.Covered := by
  induction slots with
  | nil => exact covered_zero
  | cons slot slots ih =>
    exact .add (Slot.Ok.covered (h slot List.mem_cons_self))
      (ih fun other hmem => h other (List.mem_cons_of_mem _ hmem))

theorem covered_releasing (releasing : List (CorrelationId × Nat)) :
    (releasing.map Holders.delivers).sum.Covered := by
  induction releasing with
  | nil => exact covered_zero
  | cons record releasing ih => exact .add (covered_delivers record) ih

/-! ## Sections keep the books -/

/-- An instance that neither delivers nor handles anything. -/
structure PipeInstance.Vacant (i : PipeInstance) : Prop where
  pending : i.pendingDelivery = false
  record : i.acknowledgementRecord = none

theorem PipeInstance.Vacant.holders (h : i.Vacant) : Slot.holders { pipe := i } = 0 := by
  simp only [Slot.holders, PipeInstance.holders, h.pending, h.record]
  rfl

/-- An instance without a callback is in order. -/
theorem ok_of_pipe (hpending : i.pendingDelivery = false)
    (hdelivering : i.acknowledgementRecord.isSome → isDelivering i.phase) :
    Slot.Ok { pipe := i } where
  delivering := hdelivering
  pending := hpending
  submitted hsubmitted := by cases hsubmitted
  callback b hb := by cases hb

theorem PipeInstance.Vacant.ok (h : i.Vacant) : Slot.Ok { pipe := i } :=
  ok_of_pipe h.pending fun hsome => by
    rw [h.record] at hsome
    cases hsome

/-- A client that is done with leaves nothing behind. -/
theorem finishClientLocked_spec (running armed : Bool) (hs : RequestCache.Ledger o c (i.holders + rest))
    (hrest : rest.Covered) :
    RequestCache.Ledger o (finishClientLocked o running armed now i c).2 rest ∧
      (finishClientLocked o running armed now i c).1.Vacant := by
  have hvacant : ∀ i : PipeInstance, i.Vacant → (if running then arm armed i else i).Vacant := by
    intro i hi
    split
    · exact ⟨hi.pending, hi.record⟩
    · exact hi
  unfold PipeInstance.holders at hs
  unfold finishClientLocked
  cases hpending : i.pendingDelivery with
  | false =>
    cases hrecord : i.acknowledgementRecord with
    | none =>
      simp only [hpending, hrecord, Bool.false_eq_true, if_false, add_zero, zero_add] at hs ⊢
      exact ⟨hs, hvacant _ ⟨rfl, rfl⟩⟩
    | some record =>
      simp only [hpending, hrecord, Bool.false_eq_true, if_false, zero_add] at hs ⊢
      exact ⟨hs.completeDelivery false now, hvacant _ ⟨rfl, rfl⟩⟩
  | true =>
    cases hrecord : i.acknowledgementRecord with
    | none =>
      simp only [hpending, hrecord, if_true, add_zero] at hs ⊢
      exact ⟨hs.completePendingDelivery hrest, hvacant _ ⟨rfl, rfl⟩⟩
    | some record =>
      simp only [hpending, hrecord, if_true, add_assoc] at hs ⊢
      have hsettled := hs.completePendingDelivery (.add (covered_delivers _) hrest)
      exact ⟨hsettled.completeDelivery false now, hvacant _ ⟨rfl, rfl⟩⟩

/-- A section of an instance and the cache keeps the books, and the instance in order. -/
def Keeps (o : CacheOptions) (rest : Holders) (slot : Slot) (c : RequestCache) : Prop :=
  RequestCache.Ledger o c (slot.holders + rest) ∧ slot.Ok

theorem finish_keeps (hs : RequestCache.Ledger o c (i.holders + rest)) (hrest : rest.Covered) :
    Keeps o rest (finishSlot o running armed now i c).1
      (finishSlot o running armed now i c).2 := by
  obtain ⟨hledger, hvacant⟩ := finishClientLocked_spec running armed hs hrest
  refine ⟨?_, hvacant.ok⟩
  have hholders : (finishSlot o running armed now i c).1.holders = 0 := hvacant.holders
  rw [hholders, zero_add]
  exact hledger

/-- An instance without a callback. -/
theorem holders_of_pipe (i : PipeInstance) (submitted : Bool) :
    Slot.holders { pipe := i, submitted := submitted } = i.holders := add_zero _

theorem dispatchRequestLocked_keeps (hs : RequestCache.Ledger o c rest) (hrest : rest.Covered)
    (hvacant : i.Vacant) :
    Keeps o rest (dispatchRequestLocked o running armed now i c).1
      (dispatchRequestLocked o running armed now i c).2 := by
  unfold dispatchRequestLocked
  have hzero : i.holders = 0 := (holders_of_pipe i false).symm.trans hvacant.holders
  split
  · exact finish_keeps (by rwa [hzero, zero_add]) hrest
  · refine ⟨?_, ?_⟩
    · rw [holders_of_pipe, PipeInstance.holders]
      simp only [hvacant.record, if_true, add_zero]
      exact hs.addPending _
    · exact {
        delivering := fun hsome => by
          rw [hvacant.record] at hsome
          cases hsome
        pending := rfl
        submitted := fun _ => ⟨rfl, rfl⟩
        callback := fun b hb => by cases hb }

theorem handleConnectedInstanceLocked_keeps {admitting trusted started : Bool}
    (hs : RequestCache.Ledger o c rest) (hrest : rest.Covered) (hvacant : i.Vacant) :
    Keeps o rest
      { pipe := (handleConnectedInstanceLocked o admitting trusted started running armed now i c).1 }
      (handleConnectedInstanceLocked o admitting trusted started running armed now i c).2 := by
  have hzero : ∀ i : PipeInstance, i.Vacant → i.holders = 0 := fun i hi =>
    (holders_of_pipe i false).symm.trans hi.holders
  have hconnected : i.connected.Vacant := ⟨hvacant.pending, rfl⟩
  unfold handleConnectedInstanceLocked
  split
  · exact finish_keeps (by rwa [hzero i hvacant, zero_add]) hrest
  · split
    · exact finish_keeps (by rwa [hzero _ hconnected, zero_add]) hrest
    · refine ⟨?_, hconnected.ok⟩
      rwa [hconnected.holders, zero_add]

/-- What a transfer leaves of an instance that handles no request. -/
structure PipeInstance.Moved (i : PipeInstance) (next : PipeInstance.Next × PipeInstance) :
    Prop where
  pending : next.2.pendingDelivery = false
  record : next.2.acknowledgementRecord = i.acknowledgementRecord
  request : i.acknowledgementRecord.isSome →
    next.2.request.correlationId = i.request.correlationId
  transfer : next.1 = .transfer → next.2.acknowledgementRecord.isSome →
    isDelivering next.2.phase
  dispatch : next.1 = .dispatch → next.2.acknowledgementRecord = none

theorem handleCompletedTransfer_moved (hpending : i.pendingDelivery = false)
    (hdelivering : i.acknowledgementRecord.isSome → isDelivering i.phase) :
    i.Moved i.handleCompletedTransfer := by
  have hnone : isDelivering i.phase = false → i.acknowledgementRecord = none := by
    intro hphase
    cases hrecord : i.acknowledgementRecord with
    | none => rfl
    | some record =>
      have hdelivers := hdelivering (by rw [hrecord]; rfl)
      rw [hphase] at hdelivers
      cases hdelivers
  unfold PipeInstance.handleCompletedTransfer
  cases hphase : i.phase with
  | readingRequestHeader =>
    have hrecord := hnone (by rw [hphase]; rfl)
    simp only
    split
    · exact ⟨hpending, rfl, fun _ => rfl, fun h => (by cases h), fun h => (by cases h)⟩
    · split
      · exact ⟨hpending, rfl, fun hsome => by simp [hrecord] at hsome, fun h => (by cases h),
          fun _ => hrecord⟩
      · exact ⟨hpending, rfl, fun hsome => by simp [hrecord] at hsome,
          fun _ hsome => by simp [PipeInstance.startTransfer, hrecord] at hsome,
          fun h => (by cases h)⟩
  | readingRequestPayload =>
    exact ⟨hpending, rfl, fun _ => rfl, fun h => (by cases h), fun _ => hnone (by rw [hphase]; rfl)⟩
  | writingResponseHeader =>
    simp only
    split
    · exact ⟨hpending, rfl, fun _ => rfl, fun _ _ => rfl, fun h => (by cases h)⟩
    · exact ⟨hpending, rfl, fun _ => rfl, fun _ _ => rfl, fun h => (by cases h)⟩
  | writingResponsePayload =>
    exact ⟨hpending, rfl, fun _ => rfl, fun _ _ => rfl, fun h => (by cases h)⟩
  | readingAcknowledgement =>
    simp only
    split
    · exact ⟨hpending, rfl, fun _ => rfl, fun h => (by cases h), fun h => (by cases h)⟩
    · exact ⟨hpending, rfl, fun _ => rfl, fun h => (by cases h), fun h => (by cases h)⟩
  | disconnected | connecting | runningHandler =>
    exact ⟨hpending, rfl, fun _ => rfl, fun h => (by cases h), fun h => (by cases h)⟩

theorem handleTransferred_moved (count : Nat) (bytes : List UInt8)
    (hpending : i.pendingDelivery = false)
    (hdelivering : i.acknowledgementRecord.isSome → isDelivering i.phase) :
    i.Moved (i.handleTransferred count bytes) := by
  unfold PipeInstance.handleTransferred
  split
  · exact ⟨hpending, rfl, fun _ => rfl, nofun, nofun⟩
  · simp only
    split
    · exact ⟨hpending, rfl, fun _ => rfl, fun _ => hdelivering, nofun⟩
    · have hcompleted :=
        handleCompletedTransfer_moved (i := i.advance count bytes) hpending hdelivering
      exact ⟨hcompleted.pending, hcompleted.record, hcompleted.request, hcompleted.transfer,
        hcompleted.dispatch⟩

theorem PipeInstance.Moved.holders {next : PipeInstance.Next × PipeInstance} (h : i.Moved next)
    (hpending : i.pendingDelivery = false) : next.2.holders = i.holders := by
  unfold PipeInstance.holders
  rw [h.pending, hpending, h.record]
  cases hrecord : i.acknowledgementRecord with
  | none => rfl
  | some record => rw [h.request (by rw [hrecord]; rfl)]

theorem handleIoCompletion_keeps {completion : Completion} {started : Bool}
    (hs : RequestCache.Ledger o c (i.holders + rest)) (hrest : rest.Covered)
    (hok : Slot.Ok { pipe := i }) :
    Keeps o rest (handleIoCompletion o completion started running armed now i c).1
      (handleIoCompletion o completion started running armed now i c).2 := by
  have hpending : i.pendingDelivery = false := hok.pending
  unfold handleIoCompletion
  cases hrunning : running with
  | false =>
    have hsame : RequestCache.Ledger o c (Slot.holders { pipe := i } + rest) := by
      rwa [holders_of_pipe]
    exact ⟨hsame, hok⟩
  | true =>
    cases completion with
    | failed => exact finish_keeps hs hrest
    | transferred count bytes =>
      have hmoved := handleTransferred_moved count bytes hpending
        hok.delivering
      have hholders := hmoved.holders hpending
      simp only [Bool.not_true, Bool.false_eq_true, if_false]
      generalize i.handleTransferred count bytes = result at hmoved hholders ⊢
      obtain ⟨next, j⟩ := result
      rw [← hholders] at hs
      cases next with
      | transfer =>
        simp only
        split
        · have hsame : RequestCache.Ledger o c (Slot.holders { pipe := j } + rest) := by
            rwa [holders_of_pipe]
          exact ⟨hsame, ok_of_pipe hmoved.pending (hmoved.transfer rfl)⟩
        · exact finish_keeps hs hrest
      | dispatch =>
        have hvacant : j.Vacant := ⟨hmoved.pending, hmoved.dispatch rfl⟩
        rw [← holders_of_pipe j false, hvacant.holders, zero_add] at hs
        exact dispatchRequestLocked_keeps hs hrest hvacant
      | acknowledged =>
        cases hrecord : j.acknowledgementRecord with
        | none => simpa only [hrecord] using finish_keeps hs hrest
        | some record =>
          have hdelivered := hs
          rw [PipeInstance.holders, hmoved.pending, hrecord] at hdelivered
          simp only [Bool.false_eq_true, if_false, zero_add] at hdelivered
          have hvacant : PipeInstance.Vacant { j with acknowledgementRecord := none } :=
            ⟨hmoved.pending, rfl⟩
          have hzero : PipeInstance.holders { j with acknowledgementRecord := none } = 0 :=
            (holders_of_pipe _ false).symm.trans hvacant.holders
          simp only [hrecord]
          refine finish_keeps ?_ hrest
          rw [hzero, zero_add]
          exact hdelivered.completeDelivery true now
      | finish => exact finish_keeps hs hrest

/-! ## Callbacks keep the books -/

theorem enter_keeps {copied : Bool} {delivery : Nat} (hok : slot.Ok)
    (hsubmitted : slot.submitted) (hs : RequestCache.Ledger o c (slot.holders + rest)) :
    Keeps o rest (enter copied running delivery slot.pipe) c := by
  obtain ⟨hphase, hcallback⟩ := hok.submitted hsubmitted
  have hpending : slot.pipe.pendingDelivery = true := hok.pending.trans hsubmitted
  have hrecord : slot.pipe.acknowledgementRecord = none := by
    cases hrecord : slot.pipe.acknowledgementRecord with
    | none => rfl
    | some record =>
      have hdelivers := hok.delivering (by rw [hrecord]; rfl)
      rw [hphase] at hdelivers
      cases hdelivers
  constructor
  · have hholders : (enter copied running delivery slot.pipe).holders = slot.holders := by
      simp only [Slot.holders, enter, PipeInstance.holders, HandlerCallback.holders,
        HandlerPoint.holders, hpending, hrecord, hcallback, Option.map_some, Option.map_none,
        Option.getD_some, Option.getD_none, Bool.false_eq_true, if_false, if_true, add_zero,
        zero_add]
    rwa [hholders]
  · exact {
      delivering := fun hsome => by simp [enter, hrecord] at hsome
      pending := rfl
      submitted := fun h => by cases h
      callback := fun b hb => by
        cases hb
        exact ⟨hphase, rfl, fun _ => hpending, fun hbound => if_pos hbound, trivial⟩ }

theorem holders_of_callback (hb : slot.callback = some b) (rest : Holders) :
    slot.holders + rest = b.holders + (slot.pipe.holders + rest) := by
  simp only [Slot.holders, hb, Option.map_some, Option.getD_some]
  rw [add_comm slot.pipe.holders, add_assoc]

/-- A section of a callback leaves its instance. -/
theorem callback_keeps (hok : slot.Ok) (hb : slot.callback = some b) {b' : HandlerCallback}
    {c' : RequestCache} (hb' : b'.Ok slot.pipe.request)
    (hs : RequestCache.Ledger o c' (b'.holders + (slot.pipe.holders + rest))) :
    Keeps o rest { slot with callback := some b' } c' := by
  refine ⟨?_, ?_⟩
  · rwa [holders_of_callback (b := b') rfl]
  · exact {
      delivering := hok.delivering
      pending := hok.pending
      submitted := fun hsubmitted => by
        rw [(hok.submitted hsubmitted).2] at hb
        cases hb
      callback := fun other hother => by
        cases hother
        exact ⟨(hok.callback b hb).1, hb'⟩ }

theorem answer_holders (found : RequestCache.Found) (id : CorrelationId) :
    (answer found).holders id = found.holders id := by
  cases found <;> rfl

theorem answer_fits (found : RequestCache.Found) : (answer found).Fits := by
  cases found <;> trivial

theorem ask_keeps {stopRequested ready deadlinePassed allocated canRun : Bool}
    (hok : slot.Ok) (hb : slot.callback = some b) (hpoint : b.point = .entered canRun)
    (hs : RequestCache.Ledger o c (slot.holders + rest)) :
    Keeps o rest { slot with
      callback := some (ask o stopRequested ready deadlinePassed allocated now b c).1 }
      (ask o stopRequested ready deadlinePassed allocated now b c).2 := by
  obtain ⟨hphase, hbok⟩ := hok.callback b hb
  have hpending : b.pendingDelivery := hbok.asks (by rw [hpoint]; rfl)
  rw [holders_of_callback hb, HandlerCallback.holders, hpoint, hpending] at hs
  simp only [HandlerPoint.holders, if_true, zero_add] at hs
  by_cases hrun : b.point = .entered true ∧ ready = true
  · simp only [ask, if_pos hrun]
    have hrequest : b.request = slot.pipe.request := hbok.bound (by rw [hrun.1]; rfl)
    have hacquired := hs.acquire b.delivery
      (Multiset.mem_add.2 (.inl (by simpa [hbok.pending] using congrArg Request.correlationId hrequest))) now stopRequested
      deadlinePassed allocated
    refine callback_keeps hok hb ⟨hbok.pending, fun _ => hpending, fun _ => hrequest, answer_fits _⟩ ?_
    simp only [HandlerCallback.holders, answer_holders, hpending, if_true]
    rwa [add_assoc]
  · simp only [ask, if_neg hrun]
    have hrefused := hs.refuse b.delivery b.request b.request.correlationId .operationFailed
    refine callback_keeps hok hb ⟨hbok.pending, fun _ => hpending, (fun h => by cases h), trivial⟩ ?_
    simp only [HandlerCallback.holders, answer_holders, hpending, if_true]
    rwa [add_assoc]

theorem wake_keeps {stopRequested deadlinePassed : Bool} {record : Nat}
    (hok : slot.Ok) (hb : slot.callback = some b) (hpoint : b.point = .waiting record)
    (hs : RequestCache.Ledger o c (slot.holders + rest)) :
    Keeps o rest { slot with callback := some (wake stopRequested deadlinePassed b c).1 }
      (wake stopRequested deadlinePassed b c).2 := by
  obtain ⟨hphase, hbok⟩ := hok.callback b hb
  have hpending : b.pendingDelivery := hbok.asks (by rw [hpoint]; rfl)
  have hrequest : b.request = slot.pipe.request := hbok.bound (by rw [hpoint]; rfl)
  rw [holders_of_callback hb, HandlerCallback.holders, hpoint, hpending] at hs
  simp only [HandlerPoint.holders, if_true, add_assoc] at hs
  obtain ⟨r, hr, hkey⟩ := hs.waiting (b.request.correlationId, record) (by simp)
  obtain ⟨hid, rfl⟩ := Prod.mk.inj hkey
  have hawaited := hs.unwait.await b.delivery b.request hr
    (Multiset.mem_add.2 (.inl (by simp [hid, hrequest, hbok.pending]))) stopRequested deadlinePassed
  rw [hid] at hawaited
  simp only [wake, hpoint]
  refine callback_keeps hok hb ⟨hbok.pending, fun _ => hpending, fun _ => hrequest, answer_fits _⟩ ?_
  simp only [HandlerCallback.holders, answer_holders, hpending, if_true]
  rwa [add_assoc]

theorem returns_keeps {record : Nat} {result : Option Response} (hok : slot.Ok)
    (hb : slot.callback = some b) (hpoint : b.point = .executing record)
    (hs : RequestCache.Ledger o c (slot.holders + rest)) :
    Keeps o rest { slot with callback := some (returns result now b c).1 }
      (returns result now b c).2 := by
  obtain ⟨hphase, hbok⟩ := hok.callback b hb
  have hpending : b.pendingDelivery := hbok.asks (by rw [hpoint]; rfl)
  have hrequest : b.request = slot.pipe.request := hbok.bound (by rw [hpoint]; rfl)
  rw [holders_of_callback hb, HandlerCallback.holders, hpoint] at hs
  simp only [returns, hpoint]
  exact callback_keeps hok hb ⟨hbok.pending, fun _ => hpending, fun _ => hrequest,
    RequestCache.sanitize_payload b.request result⟩ hs

theorem complete_keeps {record completedAt : Nat} {response : Response}
    (hok : slot.Ok) (hb : slot.callback = some b)
    (hpoint : b.point = .returned record response completedAt)
    (hs : RequestCache.Ledger o c (slot.holders + rest)) :
    Keeps o rest { slot with callback := some (complete o b c).1 } (complete o b c).2 := by
  obtain ⟨hphase, hbok⟩ := hok.callback b hb
  have hpending : b.pendingDelivery := hbok.asks (by rw [hpoint]; rfl)
  have hrequest : b.request = slot.pipe.request := hbok.bound (by rw [hpoint]; rfl)
  have hpayload := hbok.fits
  rw [hpoint] at hpayload
  rw [holders_of_callback hb, HandlerCallback.holders, hpoint] at hs
  simp only [HandlerPoint.holders, add_assoc] at hs
  simp only [complete, hpoint]
  refine callback_keeps hok hb ⟨hbok.pending, fun _ => hpending, fun _ => hrequest, trivial⟩ ?_
  simp only [HandlerCallback.holders, HandlerPoint.holders, add_assoc]
  exact hs.complete hpayload completedAt

/-- A callback that has its answer, or has failed, waits for nothing. -/
theorem HandlerPoint.covered {point : HandlerPoint} {id : CorrelationId}
    (h : point.asks = false) : (point.holders id).Covered := by
  cases point with
  | entered | waiting | executing | returned => cases h
  | answered response record =>
    cases record with
    | none => exact covered_zero
    | some record => exact covered_delivers _
  | failed => exact covered_zero

theorem settle_keeps (hok : slot.Ok) (hb : slot.callback = some b) (hpoint : b.point.asks = false)
    (hpending : b.pendingDelivery) (hrest : rest.Covered)
    (hs : RequestCache.Ledger o c (slot.holders + rest)) :
    Keeps o rest { slot with callback := some (settle b c).1 } (settle b c).2 := by
  obtain ⟨hphase, hbok⟩ := hok.callback b hb
  rw [holders_of_callback hb, HandlerCallback.holders, hpending, add_comm (b.point.holders _),
    add_assoc] at hs
  refine callback_keeps hok hb ⟨hbok.pending, fun h => absurd (hpoint.symm.trans h) (by decide), hbok.bound,
    hbok.fits⟩ ?_
  simp only [settle, HandlerCallback.holders, Bool.false_eq_true, if_false, add_zero]
  exact hs.completePendingDelivery
    (.add (HandlerPoint.covered hpoint) (.add (PipeInstance.covered _) hrest))

/-- While a callback runs its instance holds nothing. -/
theorem Slot.Ok.vacant (hok : slot.Ok) (hb : slot.callback = some b) : slot.pipe.Vacant := by
  obtain ⟨hphase, -⟩ := hok.callback b hb
  refine ⟨?_, ?_⟩
  · rw [hok.pending]
    cases hsubmitted : slot.submitted with
    | false => rfl
    | true =>
      rw [(hok.submitted hsubmitted).2] at hb
      cases hb
  · cases hrecord : slot.pipe.acknowledgementRecord with
    | none => rfl
    | some record =>
      have hdelivers := hok.delivering (by rw [hrecord]; rfl)
      rw [hphase] at hdelivers
      cases hdelivers

theorem handOver_keeps {copied started : Bool} {response : Response} {record : Option Nat}
    (hok : slot.Ok) (hb : slot.callback = some b) (hpoint : b.point = .answered response record)
    (hpending : b.pendingDelivery = false) (hrest : rest.Covered)
    (hs : RequestCache.Ledger o c (slot.holders + rest)) :
    Keeps o
      (((b.held (handOver o copied started running armed now b response record slot.pipe
        c).2.2).map Holders.delivers).sum + rest)
      { pipe := (handOver o copied started running armed now b response record slot.pipe c).1 }
      (handOver o copied started running armed now b response record slot.pipe c).2.1 := by
  obtain ⟨hphase, hbok⟩ := hok.callback b hb
  have hvacant := hok.vacant hb
  have hzero : slot.pipe.holders = 0 := (holders_of_pipe _ false).symm.trans hvacant.holders
  have hheld : b.point.holders b.request.correlationId =
      ((b.held record).map Holders.delivers).sum := by
    rw [hpoint]
    cases record with
    | none => rfl
    | some record => exact (add_zero _).symm
  have hcovered : (((b.held record).map Holders.delivers).sum + rest).Covered :=
    .add (hheld ▸ HandlerPoint.covered (by rw [hpoint]; rfl)) hrest
  rw [holders_of_callback hb, HandlerCallback.holders, hpending, hheld, hzero] at hs
  simp only [Bool.false_eq_true, if_false, add_zero, zero_add] at hs
  have hfinish : ∀ i : PipeInstance, i.holders = ((b.held record).map Holders.delivers).sum →
      Keeps o (0 + rest) (finishSlot o running armed now i c).1
        (finishSlot o running armed now i c).2 := by
    intro i hi
    rw [zero_add]
    exact finish_keeps (by rwa [hi]) hrest
  have hgiven : ∀ i : PipeInstance, i.pendingDelivery = false → i.acknowledgementRecord = record →
      i.request = slot.pipe.request → i.holders = ((b.held record).map Holders.delivers).sum := by
    intro i hi hrecord hrequest
    rw [PipeInstance.holders, hi, hrecord, hrequest]
    cases record with
    | none => rfl
    | some record =>
      rw [HandlerCallback.held, hbok.bound (by rw [hpoint]; rfl)]
      exact add_comm _ _
  have hsent : ∀ i : PipeInstance, i.holders = ((b.held record).map Holders.delivers).sum →
      RequestCache.Ledger o (c.note (.sent b.delivery response))
        (Slot.holders { pipe := i } + (0 + rest)) := by
    intro i hi
    rw [holders_of_pipe, hi, zero_add]
    exact hs.note _
  unfold handOver
  split
  · refine ⟨?_, hvacant.ok⟩
    rwa [hvacant.holders, zero_add]
  · split
    · exact finish_keeps (by rwa [hzero, zero_add]) hcovered
    · simp only
      split
      · exact hfinish _ (hgiven _ hvacant.pending rfl rfl)
      · split
        · exact ⟨hsent _ (hgiven _ hvacant.pending rfl rfl), ok_of_pipe hvacant.pending fun _ => rfl⟩
        · exact hfinish _ (hgiven _ hvacant.pending rfl rfl)

/-- An instance that handles no request has no callback. -/
theorem Slot.Ok.idle (hok : slot.Ok) (hphase : slot.pipe.phase ≠ .runningHandler) :
    slot = { pipe := slot.pipe } := by
  obtain ⟨pipe, submitted, callback⟩ := slot
  have hsubmitted : submitted = false := by
    cases hsubmitted : submitted with
    | false => rfl
    | true => exact absurd (hok.submitted hsubmitted).1 hphase
  have hcallback : callback = none := by
    cases hcallback : callback with
    | none => rfl
    | some b => exact absurd (hok.callback b hcallback).1 hphase
  rw [hsubmitted, hcallback]

/-- An instance that neither handles a request nor delivers a response holds nothing. -/
theorem Slot.Ok.vacant_of_phase {i : PipeInstance} (hok : Slot.Ok { pipe := i })
    (hphase : isDelivering i.phase = false) : i.Vacant := by
  refine ⟨hok.pending, ?_⟩
  cases hrecord : i.acknowledgementRecord with
  | none => rfl
  | some record =>
    have hdelivers : isDelivering i.phase = true := hok.delivering (by simp [hrecord])
    rw [hphase] at hdelivers
    cases hdelivers

theorem armed_holders (armed : List Bool) :
    ((armed.map fun armed => ({ pipe := arm armed {} } : Slot)).map Slot.holders).sum = 0 := by
  induction armed with
  | nil => rfl
  | cons first armed ih =>
    have hvacant : (arm first {}).Vacant := ⟨rfl, rfl⟩
    rw [List.map_cons, List.map_cons, List.sum_cons, hvacant.holders, ih, zero_add]

/-! ## The server keeps the books -/

namespace CommandLineControlServer

variable {index : Nat}

/-- A section of an instance, of its callback and of the cache, after which some records are still
to be released. -/
theorem Inv.update (hs : Inv o s) (hslot : s.slots[index]? = some slot) (slot' : Slot)
    (c' : RequestCache) (held : List (CorrelationId × Nat))
    (hkeeps : ∀ rest : Holders, rest.Covered → RequestCache.Ledger o s.cache (slot.holders + rest) →
      Keeps o ((held.map Holders.delivers).sum + rest) slot' c') :
    Inv o { s with
      slots := s.slots.set index slot', cache := c', releasing := held ++ s.releasing } := by
  obtain ⟨hindex, hget⟩ := List.getElem?_eq_some_iff.1 hslot
  have hothers : ∀ other ∈ s.slots.eraseIdx index, other.Ok :=
    fun other hmem => hs.slots other ((List.eraseIdx_sublist _ _).subset hmem)
  have hledger := hs.ledger
  have hbefore : s.slots.set index slot = s.slots := by rw [← hget, List.set_getElem_self]
  rw [holders, ← hbefore, sum_set hindex, add_assoc] at hledger
  obtain ⟨hafter, hok⟩ := hkeeps _ (.add (covered_slots hothers) (covered_releasing s.releasing))
    hledger
  refine ⟨?_, fun other hmem => ?_⟩
  · simp only [holders, List.map_append, List.sum_append, sum_set hindex]
    rwa [add_assoc, add_left_comm (List.sum (List.map Slot.holders _))]
  · rcases List.mem_or_eq_of_mem_set hmem with hmem | rfl
    · exact hs.slots other hmem
    · exact hok

theorem Inv.onSlot (hs : Inv o s) (hslot : s.slots[index]? = some slot)
    (body : Slot → RequestCache → Slot × RequestCache)
    (hkeeps : ∀ rest : Holders, rest.Covered → RequestCache.Ledger o s.cache (slot.holders + rest) →
      Keeps o rest (body slot s.cache).1 (body slot s.cache).2) :
    Inv o (s.onSlot index body) := by
  have hupdated := hs.update hslot (body slot s.cache).1 (body slot s.cache).2 []
    fun rest hrest hledger => by simpa using hkeeps rest hrest hledger
  rw [CommandLineControlServer.onSlot, hslot]
  exact hupdated

theorem Inv.onCallback (hs : Inv o s) (hslot : s.slots[index]? = some slot)
    (hb : slot.callback = some b)
    (body : HandlerCallback → RequestCache → HandlerCallback × RequestCache)
    (hkeeps : ∀ rest : Holders, rest.Covered → RequestCache.Ledger o s.cache (slot.holders + rest) →
      Keeps o rest { slot with callback := some (body b s.cache).1 } (body b s.cache).2) :
    Inv o (s.onCallback index body) :=
  hs.onSlot hslot _ fun rest hrest hledger => by simpa only [hb] using hkeeps rest hrest hledger

theorem Inv.initial : Inv o {} where
  ledger := by
    constructor <;> first
      | exact List.nodup_nil
      | exact rfl
      | exact Nat.zero_le _
      | exact fun _ => rfl
      | exact fun _ h => absurd h List.not_mem_nil
  slots slot hslot := absurd hslot List.not_mem_nil

/-- Callbacks and instances that have gone leave nothing. -/
theorem holders_stopped (hreleasing : s.releasing = [])
    (hcallbacks : ∀ slot ∈ s.slots, slot.callback.isNone) : s.holders.executing = 0 := by
  have hslots : ∀ slots : List Slot, (∀ slot ∈ slots, slot.callback.isNone) →
      (slots.map Slot.holders).sum.executing = 0 := by
    intro slots
    induction slots with
    | nil => exact fun _ => rfl
    | cons slot slots ih =>
      intro h
      have hnone : slot.callback = none :=
        Option.isNone_iff_eq_none.1 (h slot List.mem_cons_self)
      have hpipe : slot.pipe.holders.executing = 0 := by
        unfold PipeInstance.holders
        split <;> split <;> rfl
      have hrest := ih fun other hmem => h other (List.mem_cons_of_mem _ hmem)
      simp [Slot.holders, hnone, hpipe, hrest]
  simp [holders, hreleasing, hslots s.slots hcallbacks]

theorem step_inv (o : CacheOptions) (s : CommandLineControlServer) (e : Event) (h : enabled s e)
    (hs : Inv o s) : Inv o (step o s e) := by
  cases e with
  | start armed =>
    obtain ⟨-, hslots, hreleasing⟩ := h
    have hledger := hs.ledger
    refine ⟨?_, fun slot hmem => ?_⟩
    · simp only [holders, hslots, hreleasing, List.map_nil, List.sum_nil] at hledger
      simp only [step, holders, armed_holders, hreleasing, List.map_nil, List.sum_nil]
      exact hledger
    · obtain ⟨first, -, rfl⟩ := List.mem_map.1 hmem
      exact PipeInstance.Vacant.ok ⟨rfl, rfl⟩
  | requestStop => exact ⟨hs.ledger, hs.slots⟩
  | signalStop => exact ⟨hs.ledger, hs.slots⟩
  | stopped =>
    obtain ⟨-, hreleasing, hcallbacks⟩ := h
    have hstopped := hs.ledger.stop (holders_stopped hreleasing hcallbacks)
    refine ⟨?_, fun slot hmem => absurd hmem List.not_mem_nil⟩
    simp only [step, holders, hreleasing, List.map_nil, List.sum_nil, add_zero]
    exact hstopped
  | tick => exact ⟨hs.ledger, hs.slots⟩
  | prune now => exact ⟨hs.ledger.pruneRequestRecords now, hs.slots⟩
  | rearm index armed =>
    obtain ⟨slot, hslot, -, hphase⟩ := h
    have hok := hs.slots slot (List.mem_of_getElem? hslot)
    have hidle := hok.idle (by rw [hphase]; exact nofun)
    have hvacant := (hidle ▸ hok).vacant_of_phase (by rw [hphase]; rfl)
    have harmed : (arm armed slot.pipe).Vacant := ⟨hvacant.pending, hvacant.record⟩
    refine hs.onSlot hslot (fun slot c => ({ slot with pipe := arm armed slot.pipe }, c))
      fun rest hrest hledger => ?_
    rw [hidle] at hledger ⊢
    rw [hvacant.holders] at hledger
    exact ⟨by rwa [harmed.holders], harmed.ok⟩
  | connected index trusted started armed now =>
    obtain ⟨slot, hslot, hphase, -⟩ := h
    have hok := hs.slots slot (List.mem_of_getElem? hslot)
    have hidle := hok.idle (by rw [hphase]; exact nofun)
    have hvacant := (hidle ▸ hok).vacant_of_phase (by rw [hphase]; rfl)
    refine hs.onSlot hslot (fun slot c =>
      ({ slot with pipe := (handleConnectedInstanceLocked o (s.running && s.accepting) trusted
          started s.running armed now slot.pipe c).1 },
        (handleConnectedInstanceLocked o (s.running && s.accepting) trusted started s.running
          armed now slot.pipe c).2)) fun rest hrest hledger => ?_
    rw [hidle] at hledger ⊢
    rw [hvacant.holders, zero_add] at hledger
    exact handleConnectedInstanceLocked_keeps hledger hrest hvacant
  | transferred index completion started armed now =>
    obtain ⟨slot, hslot, hphase, -⟩ := h
    have hok := hs.slots slot (List.mem_of_getElem? hslot)
    have hidle := hok.idle fun hrunning => by
      rw [hrunning] at hphase
      cases hphase
    refine hs.onSlot hslot (fun slot c => handleIoCompletion o completion started s.running armed
      now slot.pipe c) fun rest hrest hledger => ?_
    rw [hidle, holders_of_pipe] at hledger
    exact handleIoCompletion_keeps hledger hrest (hidle ▸ hok)
  | enter index copied =>
    obtain ⟨slot, hslot, hsubmitted⟩ := h
    have hok := hs.slots slot (List.mem_of_getElem? hslot)
    have hentered := hs.onSlot hslot
      (fun slot c => (enter copied s.running s.nextDelivery slot.pipe, c))
      fun rest hrest hledger => enter_keeps hok hsubmitted hledger
    exact ⟨hentered.ledger, hentered.slots⟩
  | ask index ready deadlinePassed allocated records now =>
    obtain ⟨slot, b, canRun, hslot, hb, hpoint, -, hperm⟩ := h
    have hok := hs.slots slot (List.mem_of_getElem? hslot)
    exact hs.onCallback hslot hb
      (fun b c => ask o s.stopRequested ready deadlinePassed allocated now b
        { c with requestRecords := records })
      fun rest hrest hledger => ask_keeps hok hb hpoint (hledger.perm hperm)
  | wake index deadlinePassed =>
    obtain ⟨slot, b, record, hslot, hb, hpoint⟩ := h
    have hok := hs.slots slot (List.mem_of_getElem? hslot)
    exact hs.onCallback hslot hb (wake s.stopRequested deadlinePassed)
      fun rest hrest hledger => wake_keeps hok hb hpoint hledger
  | returns index result =>
    obtain ⟨slot, b, record, hslot, hb, hpoint⟩ := h
    have hok := hs.slots slot (List.mem_of_getElem? hslot)
    exact hs.onCallback hslot hb (returns result s.clock)
      fun rest hrest hledger => returns_keeps hok hb hpoint hledger
  | complete index =>
    obtain ⟨slot, b, record, response, completedAt, hslot, hb, hpoint⟩ := h
    have hok := hs.slots slot (List.mem_of_getElem? hslot)
    exact hs.onCallback hslot hb (complete o)
      fun rest hrest hledger => complete_keeps hok hb hpoint hledger
  | settle index =>
    obtain ⟨slot, b, hslot, hb, hpending, hpoint⟩ := h
    have hok := hs.slots slot (List.mem_of_getElem? hslot)
    have hasks : b.point.asks = false := by
      rcases hpoint with hpoint | ⟨response, record, hpoint⟩ <;> rw [hpoint] <;> rfl
    exact hs.onCallback hslot hb settle
      fun rest hrest hledger => settle_keeps hok hb hasks hpending hrest hledger
  | handOver index copied started armed now =>
    obtain ⟨slot, b, hslot, hb, hpending, -, hpoint⟩ := h
    have hok := hs.slots slot (List.mem_of_getElem? hslot)
    rcases hpoint with hpoint | ⟨response, record, hpoint⟩
    · have hvacant := hok.vacant hb
      have hzero : slot.holders = slot.pipe.holders := by
        simp [Slot.holders, hb, HandlerCallback.holders, hpending, hpoint, HandlerPoint.holders]
      have hfinished := hs.update hslot
        (finishSlot o s.running armed now slot.pipe s.cache).1
        (finishSlot o s.running armed now slot.pipe s.cache).2 [] fun rest hrest hledger => by
          simpa using finish_keeps (hzero ▸ hledger) hrest
      simp only [step, hslot, hb, hpoint]
      exact hfinished
    · simp only [step, hslot, hb, hpoint]
      exact hs.update hslot _ _ _ fun rest hrest hledger =>
        handOver_keeps hok hb hpoint hpending hrest hledger
  | release record now =>
    obtain ⟨hmem, -⟩ := h
    have hledger := hs.ledger
    have hsum := ((List.perm_cons_erase hmem).map Holders.delivers).sum_eq
    refine ⟨?_, hs.slots⟩
    rw [holders, hsum, List.map_cons, List.sum_cons, add_left_comm] at hledger
    exact hledger.completeDelivery false now

/-! ## In every run -/

/-- The connections that deliver a record: those whose instance or callback has it, and the
callbacks that have yet to release it. -/
def deliveries (key : CorrelationId × Nat) (s : CommandLineControlServer) : Nat :=
  s.slots.countP (Slot.delivers key) + s.releasing.count key

/-- The accounts of the cache. -/
structure Accounting (o : CacheOptions) (s : CommandLineControlServer) : Prop where
  /-- The size of the cache is the sum of the sizes of its records. -/
  bytes : s.cache.requestCacheBytes = (s.cache.requestRecords.map RequestRecord.bytes).sum
  /-- The cache is not larger than its limit. -/
  bytes_le : s.cache.requestCacheBytes ≤ o.maxRequestCacheBytes
  /-- It has no more records than its limit. -/
  length_le : s.cache.requestRecords.length ≤ o.maxRequestRecords
  /-- The counter of a record is the number of the connections that deliver it. -/
  active : ∀ r ∈ s.cache.requestRecords, r.activeDeliveries = s.deliveries r.key
  /-- What a connection delivers is a record of the cache, with its response and a counter that
  the connection can release. -/
  delivering : ∀ key, 0 < s.deliveries key →
    ∃ r ∈ s.cache.requestRecords, r.key = key ∧ r.isComplete ∧ 0 < r.activeDeliveries
  /-- No record is larger than the cache. -/
  covered : ∀ r ∈ s.cache.requestRecords, r.bytes ≤ s.cache.requestCacheBytes
  /-- A response that is about to go into a record leaves it no larger than it is. -/
  reserved : ∀ slot ∈ s.slots, ∀ b record response completedAt, slot.callback = some b →
    b.point = .returned record response completedAt →
      ∃ r ∈ s.cache.requestRecords, r.serial = record ∧
        requestBytes r.request + responseBytes response ≤ r.bytes

theorem pipe_delivers (i : PipeInstance) (key : CorrelationId × Nat) :
    i.holders.delivering.count key = if i.delivers key then 1 else 0 := by
  have hpending : (if i.pendingDelivery then Holders.pends i.request.correlationId
      else 0).delivering = 0 := by split <;> rfl
  cases hrecord : i.acknowledgementRecord with
  | none => simp [PipeInstance.holders, PipeInstance.delivers, hpending, hrecord]
  | some record =>
    simp [PipeInstance.holders, PipeInstance.delivers, hpending, hrecord, Multiset.count_singleton]

theorem callback_delivers (b : HandlerCallback) (key : CorrelationId × Nat) :
    b.holders.delivering.count key = if b.delivers key then 1 else 0 := by
  have hpending : (if b.pendingDelivery then Holders.pends b.pendingCorrelation
      else 0).delivering = 0 := by split <;> rfl
  cases hpoint : b.point with
  | answered response record =>
    cases record with
    | none =>
      simp [HandlerCallback.holders, HandlerCallback.delivers, HandlerPoint.holders, hpending, hpoint]
    | some record =>
      simp [HandlerCallback.holders, HandlerCallback.delivers, HandlerPoint.holders, hpending,
        hpoint, Multiset.count_singleton]
  | entered | waiting | executing | returned | failed =>
    simp [HandlerCallback.holders, HandlerCallback.delivers, HandlerPoint.holders, hpending, hpoint]

/-- An instance and its callback do not both deliver a record. -/
theorem slot_delivers (hok : slot.Ok) (key : CorrelationId × Nat) :
    slot.holders.delivering.count key = if slot.delivers key then 1 else 0 := by
  rw [Slot.holders, Holders.add_delivering, Multiset.count_add, pipe_delivers, Slot.delivers]
  cases hcallback : slot.callback with
  | none => simp
  | some b =>
    have hnone : slot.pipe.delivers key = false := by
      rw [PipeInstance.delivers, (hok.vacant hcallback).record]
      rfl
    simp [hnone, callback_delivers]

/-- The deliveries that the books count are those of the connections. -/
theorem deliveries_eq (hs : ∀ slot ∈ s.slots, slot.Ok) (key : CorrelationId × Nat) :
    s.holders.delivering.count key = s.deliveries key := by
  have hslots : ∀ slots : List Slot, (∀ slot ∈ slots, slot.Ok) →
      (slots.map Slot.holders).sum.delivering.count key = slots.countP (Slot.delivers key) := by
    intro slots
    induction slots with
    | nil => exact fun _ => rfl
    | cons slot slots ih =>
      intro h
      rw [List.map_cons, List.sum_cons, Holders.add_delivering, Multiset.count_add,
        slot_delivers (h slot List.mem_cons_self), ih fun other hmem =>
          h other (List.mem_cons_of_mem _ hmem), List.countP_cons, add_comm]
  have hreleasing : ∀ releasing : List (CorrelationId × Nat),
      (releasing.map Holders.delivers).sum.delivering.count key = releasing.count key := by
    intro releasing
    induction releasing with
    | nil => rfl
    | cons record releasing ih =>
      simp only [List.map_cons, List.sum_cons, Holders.add_delivering, Multiset.count_add, ih,
        Holders.delivers_delivering, Multiset.count_singleton, List.count_cons, beq_iff_eq]
      rw [add_comm]
      simp only [eq_comm]
  rw [holders, Holders.add_delivering, Multiset.count_add, hslots s.slots hs, hreleasing,
    deliveries]

theorem Inv.accounting (hs : Inv o s) : Accounting o s where
  bytes := hs.ledger.bytes
  bytes_le := hs.ledger.bytes_le
  length_le := hs.ledger.length_le
  active r hr := (hs.ledger.active r hr).trans (deliveries_eq hs.slots r.key)
  delivering key hkey := by
    rw [← deliveries_eq hs.slots] at hkey
    obtain ⟨r, hr, rfl, hcomplete⟩ := hs.ledger.delivering key (Multiset.count_pos.1 hkey)
    exact ⟨r, hr, rfl, hcomplete, hs.ledger.active r hr ▸ hkey⟩
  covered r hr := by
    rw [hs.ledger.bytes, ← List.sum_map_erase _ hr]
    exact Nat.le_add_right _ _
  reserved slot hslot b record response completedAt hb hpoint := by
    have hok := hs.slots slot hslot
    obtain ⟨-, hbok⟩ := hok.callback b hb
    have hfits := hbok.fits
    rw [hpoint] at hfits
    have hexecuting : (b.request.correlationId, record) ∈ s.holders.executing := by
      obtain ⟨before, after, hsplit⟩ := List.append_of_mem hslot
      simp [holders, hsplit, Slot.holders, hb, HandlerCallback.holders, hpoint,
        HandlerPoint.holders]
    obtain ⟨r, hr, hkey, hopen⟩ := hs.ledger.executing _ hexecuting
    refine ⟨r, hr, (Prod.mk.inj hkey).2, ?_⟩
    rw [(hs.ledger.executed r hr hopen).2, reservedBytes, responseBytes]
    have hpayload : response.payload.length * sizeofChar ≤ maxPayloadBytes := hfits
    omega

/-- In every state that the server can reach the accounts of the cache are in order. -/
theorem cache_accounting (o : CacheOptions) {es : List Event} (hrun : (controlServer o).Run {} es) :
    Accounting o ((controlServer o).exec {} es) :=
  (EventSystem.Always.invariant (S := controlServer o) (I := Inv o) (fun s e h hs =>
    step_inv o s e h hs) hrun Inv.initial).accounting

/-- A request that a client sends. -/
def exampleRequest : Request where
  command := .list
  correlationId := ⟨0, 1⟩

/-- A client connects, its request is executed, and its response is about to be sent. -/
def servedRun : List Event :=
  [.start [true], .connected 0 true true true 0,
    .transferred 0 (.transferred 40 exampleRequest.bytes) true true 0, .enter 0 true,
    .ask 0 true false true [] 0, .returns 0 (some {}), .complete 0, .settle 0,
    .handOver 0 true true true 0]

/-- Source: the defaults of `CommandLineControlServer::Options`
(`CommandLineControlServer.hpp:29`). -/
def defaultCacheOptions : CacheOptions := ⟨64, 1048576, 90000, 1000, by decide⟩

/-- The client delivers the record. -/
theorem cache_accounting_served :
    Accounting defaultCacheOptions ((controlServer defaultCacheOptions).exec {} servedRun) ∧
      ((controlServer defaultCacheOptions).exec {} servedRun).deliveries (⟨0, 1⟩, 0) = 1 := by
  refine ⟨cache_accounting defaultCacheOptions ⟨⟨rfl, rfl, rfl⟩, ⟨_, rfl, rfl, Nat.le_refl _⟩,
    ⟨_, rfl, rfl, Nat.le_refl _⟩, ⟨_, rfl, rfl⟩, ⟨_, _, _, rfl, rfl, rfl, Nat.le_refl _, .refl _⟩,
    ⟨_, _, _, rfl, rfl, rfl⟩, ⟨_, _, _, _, _, rfl, rfl, rfl⟩,
    ⟨_, _, rfl, rfl, rfl, .inr ⟨_, _, rfl⟩⟩, ⟨_, _, rfl, rfl, rfl, Nat.le_refl _, .inr ⟨_, _, rfl⟩⟩,
    trivial⟩, rfl⟩

end CommandLineControlServer

end PlaybackConnector.Control
