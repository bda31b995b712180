import PlaybackConnector.Control.Executions

/-!
# Refusals of the command-line control server

A delivery that is told that the server is busy or about to stop is not told so of a command that
ran to its end: while a record has its response and is there, it serves every delivery of its
request (`refusals_unanswered`).
-/

namespace PlaybackConnector.Control

namespace RequestCache

/-- The record of an execution has its response, and has not left. -/
def Finished (id : CorrelationId) (history : List Occurrence) : Prop :=
  ∃ executor serial request response, .executed executor serial request ∈ history ∧
    request.correlationId = id ∧ .completed serial response ∈ history ∧
    ∀ r pending cause, .removed r pending cause ∈ history → r.serial ≠ serial

/-- A delivery is told that the server is busy, or that it stops, only while there is no response
that it could be told. -/
def Unanswered : Occurrence → List Occurrence → Prop
  | .refused _ request response _, earlier =>
    response.code = .busy ∨ response.code = .unavailable → ¬ Finished request.correlationId earlier
  | .executed _ _ _, _ | .completed _ _, _ | .served _ _ _ _, _ | .sent _ _, _
  | .removed _ _ _, _ => True

variable {o : CacheOptions} {c : RequestCache} {r : RequestRecord} {serial delivery : Nat}
  {request : Request} {history history' : List Occurrence}

/-- What grows without a delivery has no more refusals. -/
theorem Grows.unanswered (hgrows : Grows none history history')
    (h : Throughout Unanswered history) : Throughout Unanswered history' := by
  obtain ⟨added, rfl, hadded⟩ := hgrows
  induction added with
  | nil => exact h
  | cons occurrence added ih =>
    have hnone := (hadded occurrence List.mem_cons_self).elim id id
    refine ⟨?_, ih fun other hmem => hadded other (List.mem_cons_of_mem _ hmem)⟩
    cases occurrence with
    | refused => cases hnone
    | executed | completed | served | sent | removed => trivial

/-- If the records of a request have no response, none of its executions is finished. -/
theorem Recorded.not_finished (h : Recorded o c) {id : CorrelationId}
    (hopen : ∀ r ∈ c.requestRecords, r.id = id → r.isComplete = false) :
    ¬ Finished id c.history := by
  rintro ⟨executor, serial, request, response, hexecuted, hid, hcompleted, hthere⟩
  obtain ⟨-, ⟨r, hr, hserial, hrequest⟩ | ⟨r, pending, cause, hgone, hserial⟩⟩ :=
    h.executed executor serial request hexecuted
  · have hdone := ((h.completed serial response hcompleted).2 r hr hserial).1
    rw [hopen r hr ((congrArg Request.correlationId hrequest).trans hid)] at hdone
    cases hdone
  · exact hthere r pending cause hgone hserial

/-- The record that a delivery waits for is one of its request. -/
theorem Recorded.id_of_createdFor (h : Recorded o c)
    (hcreated : CreatedFor serial request c.history) (hr : r ∈ c.requestRecords)
    (hserial : r.serial = serial) : r.id = request.correlationId := by
  obtain ⟨executor, request', hexecuted, hid, -⟩ := hcreated
  obtain ⟨executor', hrecord⟩ := h.record r hr
  rw [hserial] at hrecord
  -- a serial number is given to one execution only
  have hsame : request' = r.request := by
    have hunique := h.once
    generalize c.history = history at hexecuted hrecord hunique
    induction history with
    | nil => cases hexecuted
    | cons occurrence history ih =>
      obtain heq | hexecuted := List.mem_cons.1 hexecuted
      · obtain heq' | hrecord := List.mem_cons.1 hrecord
        · exact (Occurrence.executed.inj (heq.trans heq'.symm)).2.2
        · rw [← heq] at hunique
          exact absurd rfl (hunique.1.2 _ _ _ hrecord).1
      · obtain heq' | hrecord := List.mem_cons.1 hrecord
        · rw [← heq'] at hunique
          exact absurd rfl (hunique.1.2 _ _ _ hexecuted).1
        · exact ih hexecuted hrecord hunique.2
  exact (congrArg Request.correlationId hsame).symm.trans hid

theorem unanswered_await (h : Recorded o c) (hcreated : CreatedFor serial request c.history)
    (hunanswered : Throughout Unanswered c.history) (stopRequested deadlinePassed : Bool) :
    Throughout Unanswered
      (c.await delivery request serial stopRequested deadlinePassed).2.history := by
  rw [RequestCache.await]
  split
  · exact hunanswered
  · next r hfind =>
    obtain ⟨hr, hserial⟩ := mem_of_findSerial hfind
    split
    · next hopen =>
      have hopen : r.isComplete = false := by simpa using hopen
      have hid := h.id_of_createdFor hcreated hr hserial
      have hnone : ¬ Finished request.correlationId c.history := by
        refine h.not_finished fun other hother hsame => ?_
        rw [List.inj_on_of_nodup_map h.ids hother hr (hsame.trans hid.symm)]
        exact hopen
      split
      · exact ⟨fun _ => hnone, hunanswered⟩
      · split
        · exact ⟨fun _ => hnone, hunanswered⟩
        · exact hunanswered
    · exact ⟨trivial, hunanswered⟩

theorem unanswered_acquire (h : Recorded o c) (hunanswered : Throughout Unanswered c.history)
    (now : Nat) (stopRequested deadlinePassed allocated : Bool) :
    Throughout Unanswered
      (c.acquire o delivery request now stopRequested deadlinePassed allocated).2.history := by
  obtain ⟨hpruned, hgrows⟩ := h.pruneRequestRecords now
  have hunanswered := hgrows.unanswered hunanswered
  rw [RequestCache.acquire]
  generalize c.pruneRequestRecords o now = c at hpruned hunanswered
  cases hfind : c.find request.correlationId with
  | some r =>
    obtain ⟨hr, hid⟩ := mem_of_find hfind
    dsimp only
    split
    · exact ⟨fun hcode => absurd hcode (by simp), hunanswered⟩
    · next hsame =>
      obtain ⟨executor, hexecuted⟩ := hpruned.record r hr
      exact unanswered_await hpruned
        ⟨executor, r.request, hexecuted, hid, by simpa using hsame⟩ hunanswered _ _
  | none =>
    obtain ⟨hroom, hgrows⟩ := hpruned.makeRoom (reservedBytes request)
    have hunanswered := hgrows.unanswered hunanswered
    have hnew : (c.makeRoom o (reservedBytes request)).2.find request.correlationId = none :=
      find_makeRoom (reservedBytes request) hfind
    dsimp only
    generalize (c.makeRoom o (reservedBytes request)) = room at hroom hunanswered hnew
    split
    · refine ⟨fun _ => hroom.not_finished fun r hr hid => ?_, hunanswered⟩
      exact absurd hid (by simpa using List.find?_eq_none.1 hnew r hr)
    · split
      · exact hunanswered
      · exact ⟨trivial, hunanswered⟩

end RequestCache

namespace CommandLineControlServer

open RequestCache (Recorded Unanswered)

variable {o : CacheOptions} {s : CommandLineControlServer} {b : HandlerCallback}
  {c : RequestCache} {now : Nat}

theorem unanswered_ask (h : Recorded o c) (hunanswered : Throughout Unanswered c.history)
    (stopRequested ready deadlinePassed allocated : Bool) :
    Throughout Unanswered
      (ask o stopRequested ready deadlinePassed allocated now b c).2.history := by
  unfold ask
  by_cases hready : b.point = .entered true ∧ ready = true
  · rw [if_pos hready]
    exact RequestCache.unanswered_acquire h hunanswered now stopRequested deadlinePassed allocated
  · rw [if_neg hready]
    exact ⟨fun hcode => absurd hcode (by simp), hunanswered⟩

theorem unanswered_handOver (h : Recorded o c) (hunanswered : Throughout Unanswered c.history)
    (copied started running armed : Bool) (i : PipeInstance) (response : Response)
    (record : Option Nat) :
    Throughout Unanswered
      (handOver o copied started running armed now b response record i c).2.1.history := by
  have hfinish (i : PipeInstance) :
      Throughout Unanswered (finishClientLocked o running armed now i c).2.history :=
    ((quietly_finishClientLocked o running armed now i c).grows h).unanswered hunanswered
  unfold handOver
  split
  · exact hunanswered
  · split
    · exact hfinish _
    · dsimp only
      split
      · exact hfinish _
      · split
        · exact ⟨trivial, hunanswered⟩
        · exact hfinish _

theorem unanswered_step (o : CacheOptions) (s : CommandLineControlServer) (e : Event)
    (he : enabled s e) (hs : Inv o s) (h : Tells o s)
    (hunanswered : Throughout Unanswered s.cache.history) :
    Throughout Unanswered (step o s e).cache.history := by
  have hquiet {c : RequestCache} (hquietly : Quietly o s.cache c) :
      Throughout Unanswered c.history := (hquietly.grows h.recorded).unanswered hunanswered
  cases e with
  | start | requestStop | signalStop | tick => exact hunanswered
  | stopped =>
    obtain ⟨-, hreleasing, hcallbacks⟩ := he
    obtain ⟨-, hgrows⟩ := h.recorded.stop hs.ledger (holders_stopped hreleasing hcallbacks)
    exact hgrows.unanswered hunanswered
  | prune now => exact (h.recorded.pruneRequestRecords now).2.unanswered hunanswered
  | rearm index armed =>
    obtain ⟨slot, hslot, -, -⟩ := he
    simp only [step, onSlot, hslot]
    exact hunanswered
  | connected index trusted started armed now =>
    obtain ⟨slot, hslot, -, -⟩ := he
    simp only [step, onSlot, hslot]
    exact hquiet (handleConnectedInstanceLocked_quietly ..)
  | transferred index completion started armed now =>
    obtain ⟨slot, hslot, -, -⟩ := he
    simp only [step, onSlot, hslot]
    exact hquiet (handleIoCompletion_idles ..).quietly
  | enter index copied =>
    obtain ⟨slot, hslot, -⟩ := he
    simp only [step, onSlot, hslot]
    exact hunanswered
  | ask index ready deadlinePassed allocated records now =>
    obtain ⟨slot, b, canRun, hslot, hb, -, -, hperm⟩ := he
    simp only [step, onCallback, onSlot, hslot, hb]
    exact unanswered_ask (h.recorded.perm hperm) hunanswered _ ready deadlinePassed allocated
  | wake index deadlinePassed =>
    obtain ⟨slot, b, record, hslot, hb, hpoint⟩ := he
    have hwaiting := (h.callbacks index b ((callbackAt_eq hslot).trans hb)).2
    rw [hpoint] at hwaiting
    simp only [step, onCallback, onSlot, hslot, hb, wake, hpoint]
    exact RequestCache.unanswered_await h.recorded hwaiting.2 hunanswered _ deadlinePassed
  | returns index result =>
    obtain ⟨slot, b, record, hslot, hb, hpoint⟩ := he
    simp only [step, onCallback, onSlot, hslot, hb, returns, hpoint]
    exact hunanswered
  | complete index =>
    obtain ⟨slot, b, record, response, completedAt, hslot, hb, hpoint⟩ := he
    obtain ⟨r, hr, rfl, hopen⟩ := hs.executing hslot hb
      (by rw [hpoint]; exact Multiset.mem_singleton_self _)
    simp only [step, onCallback, onSlot, hslot, hb, complete, hpoint, hs.ledger.complete_eq hr]
    have hcompleting : Recorded o (s.cache.completing b.delivery r response completedAt) :=
      h.recorded.completing hr hopen response completedAt
    exact (hcompleting.pruneRequestRecords completedAt).2.unanswered ⟨trivial, trivial, hunanswered⟩
  | settle index =>
    obtain ⟨slot, b, hslot, hb, -, -⟩ := he
    simp only [step, onCallback, onSlot, hslot, hb, settle]
    exact hquiet (quietly_completePendingDelivery ..)
  | handOver index copied started armed now =>
    obtain ⟨slot, b, hslot, hb, -, -, hpoint⟩ := he
    rcases hpoint with hpoint | ⟨response, record, hpoint⟩
    · simp only [step, hslot, hb, hpoint]
      exact hquiet (quietly_finishClientLocked ..)
    · simp only [step, hslot, hb, hpoint]
      exact unanswered_handOver h.recorded hunanswered copied started s.running armed slot.pipe
        response record
  | release record now => exact hquiet (quietly_completeDelivery ..)

/-- In every run a delivery that is told that the server is busy or stops could not be told a
response. -/
theorem refusals_unanswered (o : CacheOptions) {es : List Event}
    (hrun : (controlServer o).Run {} es) :
    Throughout Unanswered ((controlServer o).exec {} es).cache.history := by
  have hall : (Inv o ((controlServer o).exec {} es) ∧ Tells o ((controlServer o).exec {} es)) ∧
      Throughout Unanswered ((controlServer o).exec {} es).cache.history :=
    EventSystem.Always.invariant (S := controlServer o)
      (I := fun s => (Inv o s ∧ Tells o s) ∧ Throughout Unanswered s.cache.history)
      (fun s e he h => ⟨⟨step_inv o s e he h.1.1, tells_step o s e he h.1.1 h.1.2⟩,
        unanswered_step o s e he h.1.1 h.1.2 h.2⟩) hrun
      ⟨⟨Inv.initial, tells_initial o⟩, trivial⟩
  exact hall.2

end CommandLineControlServer

end PlaybackConnector.Control
