import PlaybackConnector.Control.Accounting
import PlaybackConnector.Control.Once

/-!
# Executions of the command-line control server

In every run of the server the history of the request cache is as `RequestCache.Once` says
(`requests_once`): the callbacks of the instances are deliveries with numbers of their own, each of
which goes on with what was told of it (`Tells`).
-/

namespace PlaybackConnector.Control

open RequestCache (Quiet CreatedFor Recorded Grows Once Holders)

/-- What is told of a delivery whose callback is at a point. -/
def HandlerPoint.Told (delivery : Nat) (request : Request) (history : List Occurrence) :
    HandlerPoint → Prop
  | .entered _ => Quiet delivery history
  | .waiting record => Quiet delivery history ∧ CreatedFor record request history
  | .executing _ | .returned _ _ _ | .failed => True
  | .answered response _ => (∃ serial request, .served delivery serial request response ∈ history) ∨
    ∃ request records, .refused delivery request response records ∈ history

namespace CommandLineControlServer

/-- The callback of an instance. -/
def callbackAt (s : CommandLineControlServer) (index : Nat) : Option HandlerCallback :=
  s.slots[index]?.bind Slot.callback

/-- How the server goes with what is told. -/
structure Tells (o : CacheOptions) (s : CommandLineControlServer) : Prop where
  recorded : Recorded o s.cache
  bounded : ∀ occurrence ∈ s.cache.history, ∀ delivery, occurrence.delivery? = some delivery →
    delivery < s.nextDelivery
  callbacks : ∀ index b, s.callbackAt index = some b →
    b.delivery < s.nextDelivery ∧ b.point.Told b.delivery b.request s.cache.history
  distinct : ∀ index index' b b', s.callbackAt index = some b → s.callbackAt index' = some b' →
    b.delivery = b'.delivery → index = index'

variable {o : CacheOptions} {s : CommandLineControlServer} {slot slot' : Slot} {i : PipeInstance}
  {b : HandlerCallback} {c c' : RequestCache} {index now : Nat} {running armed : Bool}

/-- What is told of a delivery stays so while other deliveries go on. -/
theorem Told.grows {delivery : Option Nat} {history history' : List Occurrence}
    {request : Request} {point : HandlerPoint} {other : Nat}
    (hgrows : Grows delivery history history') (hother : delivery ≠ some other)
    (h : point.Told other request history) : point.Told other request history' := by
  cases point with
  | entered canRun => exact hgrows.quiet hother h
  | waiting record =>
    obtain ⟨hquiet, executor, request', hmem, hrequest⟩ := h
    exact ⟨hgrows.quiet hother hquiet, executor, request', hgrows.mem hmem, hrequest⟩
  | executing record => trivial
  | returned record response completedAt => trivial
  | failed => trivial
  | answered response record =>
    obtain ⟨serial, request, hmem⟩ | ⟨request, records, hmem⟩ := h
    · exact .inl ⟨serial, request, hgrows.mem hmem⟩
    · exact .inr ⟨request, records, hgrows.mem hmem⟩

theorem callbackAt_set (hslot : s.slots[index]? = some slot) (slot' : Slot) (other : Nat) :
    (s.slots.set index slot')[other]?.bind Slot.callback =
      if other = index then slot'.callback else s.callbackAt other := by
  obtain ⟨hindex, -⟩ := List.getElem?_eq_some_iff.1 hslot
  by_cases heq : other = index
  · rw [heq, if_pos rfl, List.getElem?_set_self hindex]
    rfl
  · rw [if_neg heq, List.getElem?_set_ne (Ne.symm heq)]
    rfl

theorem callbackAt_eq (hslot : s.slots[index]? = some slot) :
    s.callbackAt index = slot.callback := by
  rw [callbackAt, hslot]
  rfl

/-- A section of an instance: its callback is the same delivery, if there still is one, and what is
added is about this delivery. -/
theorem Tells.update (h : Tells o s) (hslot : s.slots[index]? = some slot)
    {delivery : Option Nat} (hrecorded : Recorded o c')
    (hgrows : Grows delivery s.cache.history c'.history)
    (hdelivery : ∀ d ∈ delivery, ∃ b, slot.callback = some b ∧ b.delivery = d)
    (hcallback : ∀ b', slot'.callback = some b' →
      (∃ b, slot.callback = some b ∧ b.delivery = b'.delivery) ∧
        b'.point.Told b'.delivery b'.request c'.history) :
    Tells o { s with slots := s.slots.set index slot', cache := c' } := by
  have hat := callbackAt_eq hslot
  have hset := callbackAt_set hslot slot'
  -- the delivery of a callback after the section is that of the callback before
  have hbefore : ∀ other b, ({ s with slots := s.slots.set index slot', cache := c' } :
      CommandLineControlServer).callbackAt other = some b →
        ∃ before, s.callbackAt other = some before ∧ before.delivery = b.delivery := by
    intro other b hb
    rw [callbackAt, hset] at hb
    split at hb
    · next heq =>
      obtain ⟨⟨before, hbefore, hsame⟩, -⟩ := hcallback b hb
      exact ⟨before, heq ▸ hat.trans hbefore, hsame⟩
    · exact ⟨b, hb, rfl⟩
  have hold : ∀ d ∈ delivery, d < s.nextDelivery := by
    intro d hd
    obtain ⟨b, hb, rfl⟩ := hdelivery d hd
    exact (h.callbacks index b (hat.trans hb)).1
  refine ⟨hrecorded, fun occurrence hmem d hd => ?_, fun other b hb => ?_, ?_⟩
  · obtain ⟨added, hadded, hof⟩ := hgrows
    rw [show c'.history = added ++ s.cache.history from hadded] at hmem
    obtain hmem | hmem := List.mem_append.1 hmem
    · obtain hnone | heq := hof occurrence hmem
      · rw [hnone] at hd
        cases hd
      · exact hold d (heq ▸ hd)
    · exact h.bounded occurrence hmem d hd
  · obtain ⟨before, hbefore', hsame⟩ := hbefore other b hb
    refine ⟨hsame ▸ (h.callbacks other before hbefore').1, ?_⟩
    rw [callbackAt, hset] at hb
    split at hb
    · exact (hcallback b hb).2
    · next hne =>
      refine Told.grows hgrows (fun heq => hne ?_) (h.callbacks other b hb).2
      obtain ⟨acting, hacting, hsame⟩ := hdelivery b.delivery heq
      exact h.distinct other index b acting hb (hat.trans hacting) hsame.symm
  · intro left right b b' hb hb' heq
    obtain ⟨before, hleft, hsame⟩ := hbefore left b hb
    obtain ⟨before', hright, hsame'⟩ := hbefore right b' hb'
    exact h.distinct left right before before' hleft hright (hsame.trans (heq.trans hsame'.symm))

/-- A section of the cache that is about no delivery. -/
theorem Tells.cache (h : Tells o s) (hrecorded : Recorded o c')
    (hgrows : Grows none s.cache.history c'.history) : Tells o { s with cache := c' } where
  recorded := hrecorded
  bounded occurrence hmem delivery hdelivery := by
    obtain ⟨added, hadded, hof⟩ := hgrows
    rw [show c'.history = added ++ s.cache.history from hadded] at hmem
    obtain hmem | hmem := List.mem_append.1 hmem
    · rw [(hof occurrence hmem).elim id id] at hdelivery
      cases hdelivery
    · exact h.bounded occurrence hmem delivery hdelivery
  callbacks index b hb := by
    obtain ⟨hlt, htold⟩ := h.callbacks index b hb
    exact ⟨hlt, Told.grows hgrows nofun htold⟩
  distinct := h.distinct

/-! ## Sections of an instance -/

/-- A section of the cache that keeps what is told, and is about no delivery. -/
structure Quietly (o : CacheOptions) (c c' : RequestCache) : Prop where
  recorded : Recorded o c → Recorded o c'
  grows : Recorded o c → Grows none c.history c'.history

theorem Quietly.refl (o : CacheOptions) (c : RequestCache) : Quietly o c c :=
  ⟨id, fun _ => Grows.refl ..⟩

theorem Quietly.trans {c'' : RequestCache} (h : Quietly o c c') (h' : Quietly o c' c'') :
    Quietly o c c'' where
  recorded hrecorded := h'.recorded (h.recorded hrecorded)
  grows hrecorded := (h.grows hrecorded).trans (h'.grows (h.recorded hrecorded))

theorem quietly_completePendingDelivery (o : CacheOptions) (id : CorrelationId)
    (c : RequestCache) : Quietly o c (c.completePendingDelivery id) :=
  ⟨fun h => h.repend _, fun _ => Grows.refl ..⟩

theorem quietly_addPending (o : CacheOptions) (id : CorrelationId) (c : RequestCache) :
    Quietly o c (c.addPending id) :=
  ⟨fun h => h.repend _, fun _ => Grows.refl ..⟩

theorem quietly_completeDelivery (o : CacheOptions) (id : CorrelationId) (serial : Nat)
    (acknowledged : Bool) (now : Nat) (c : RequestCache) :
    Quietly o c (c.completeDelivery o id serial acknowledged now) :=
  ⟨fun h => (h.completeDelivery id serial acknowledged now).1,
    fun h => (h.completeDelivery id serial acknowledged now).2⟩

theorem quietly_finishClientLocked (o : CacheOptions) (running armed : Bool) (now : Nat)
    (i : PipeInstance) (c : RequestCache) :
    Quietly o c (finishClientLocked o running armed now i c).2 := by
  unfold finishClientLocked
  cases hpending : i.pendingDelivery with
  | false =>
    cases hrecord : i.acknowledgementRecord with
    | none => exact Quietly.refl ..
    | some record => exact quietly_completeDelivery ..
  | true =>
    have hsettled := quietly_completePendingDelivery o i.request.correlationId c
    cases hrecord : i.acknowledgementRecord with
    | none => exact hsettled
    | some record => exact hsettled.trans (quietly_completeDelivery ..)

/-- A section of an instance that leaves no callback. -/
structure Idles (o : CacheOptions) (c : RequestCache) (result : Slot × RequestCache) : Prop where
  quietly : Quietly o c result.2
  callback : result.1.callback = none

theorem finishSlot_idles (o : CacheOptions) (running armed : Bool) (now : Nat) (i : PipeInstance)
    (c : RequestCache) : Idles o c (finishSlot o running armed now i c) :=
  ⟨quietly_finishClientLocked o running armed now i c, rfl⟩

theorem dispatchRequestLocked_idles (o : CacheOptions) (running armed : Bool) (now : Nat)
    (i : PipeInstance) (c : RequestCache) :
    Idles o c (dispatchRequestLocked o running armed now i c) := by
  unfold dispatchRequestLocked
  split
  · exact finishSlot_idles ..
  · exact ⟨quietly_addPending .., rfl⟩

theorem handleConnectedInstanceLocked_quietly (o : CacheOptions)
    (admitting trusted started running armed : Bool) (now : Nat) (i : PipeInstance)
    (c : RequestCache) : Quietly o c
      (handleConnectedInstanceLocked o admitting trusted started running armed now i c).2 := by
  unfold handleConnectedInstanceLocked
  split
  · exact quietly_finishClientLocked ..
  · split
    · exact quietly_finishClientLocked ..
    · exact Quietly.refl ..

theorem handleIoCompletion_idles (o : CacheOptions) (completion : Completion)
    (started running armed : Bool) (now : Nat) (i : PipeInstance) (c : RequestCache) :
    Idles o c (handleIoCompletion o completion started running armed now i c) := by
  unfold handleIoCompletion
  split
  · exact ⟨Quietly.refl .., rfl⟩
  · cases completion with
    | failed => exact finishSlot_idles ..
    | transferred count bytes =>
      dsimp only
      generalize i.handleTransferred count bytes = result
      obtain ⟨next, j⟩ := result
      cases next with
      | transfer =>
        dsimp only
        split
        · exact ⟨Quietly.refl .., rfl⟩
        · exact finishSlot_idles ..
      | dispatch => exact dispatchRequestLocked_idles ..
      | acknowledged =>
        dsimp only
        split
        · exact finishSlot_idles ..
        · next record _ =>
          have hfinished := finishSlot_idles o running armed now
            { j with acknowledgementRecord := none }
            (c.completeDelivery o j.request.correlationId record true now)
          exact ⟨(quietly_completeDelivery ..).trans hfinished.quietly, hfinished.callback⟩
      | finish => exact finishSlot_idles ..

/-- A section of an instance that leaves no callback. -/
theorem Tells.idle (h : Tells o s) (hslot : s.slots[index]? = some slot)
    (hquietly : Quietly o s.cache c') (hcallback : slot'.callback = none) :
    Tells o { s with slots := s.slots.set index slot', cache := c' } := by
  refine h.update hslot (hquietly.recorded h.recorded) (hquietly.grows h.recorded) nofun ?_
  intro b' hb'
  rw [hcallback] at hb'
  cases hb'

/-- A section of an instance that leaves its callback. -/
theorem Tells.keep (h : Tells o s) (hslot : s.slots[index]? = some slot)
    (hquietly : Quietly o s.cache c') (hcallback : slot'.callback = slot.callback) :
    Tells o { s with slots := s.slots.set index slot', cache := c' } := by
  have hgrows := hquietly.grows h.recorded
  refine h.update hslot (hquietly.recorded h.recorded) hgrows nofun fun b hb => ?_
  have hb := hcallback ▸ hb
  refine ⟨⟨b, hb, rfl⟩, ?_⟩
  exact Told.grows hgrows nofun (h.callbacks index b ((callbackAt_eq hslot).trans hb)).2

/-! ## Sections of a callback -/

/-- A section of a callback, which stays the same delivery. -/
theorem Tells.proceed (h : Tells o s) (hslot : s.slots[index]? = some slot)
    (hb : slot.callback = some b) {b' : HandlerCallback} (hdelivery : b'.delivery = b.delivery)
    (hrecorded : Recorded o c') (hgrows : Grows (some b.delivery) s.cache.history c'.history)
    (htold : b'.point.Told b.delivery b'.request c'.history) :
    Tells o { s with
      slots := s.slots.set index { slot with callback := some b' }, cache := c' } := by
  refine h.update hslot hrecorded hgrows (fun d hd => ?_) fun other hother => ?_
  · cases hd
    exact ⟨b, hb, rfl⟩
  · cases hother
    refine ⟨⟨b, hb, hdelivery.symm⟩, ?_⟩
    rw [hdelivery]
    exact htold

/-- The last section of a callback. -/
theorem Tells.leave (h : Tells o s) (hslot : s.slots[index]? = some slot)
    (hb : slot.callback = some b) (hrecorded : Recorded o c')
    (hgrows : Grows (some b.delivery) s.cache.history c'.history) (i : PipeInstance) :
    Tells o { s with slots := s.slots.set index { pipe := i }, cache := c' } := by
  refine h.update hslot hrecorded hgrows (fun d hd => ?_) fun other hother => ?_
  · cases hd
    exact ⟨b, hb, rfl⟩
  · cases hother

/-- What is still to be released is of no account. -/
theorem Tells.release (h : Tells o s) (releasing : List (CorrelationId × Nat)) :
    Tells o { s with releasing := releasing } :=
  ⟨h.recorded, h.bounded, h.callbacks, h.distinct⟩

theorem answer_told {delivery : Nat} {request : Request} {history : List Occurrence}
    {found : RequestCache.Found} (h : found.Told delivery request history) :
    (answer found).Told delivery request history := by
  cases found with
  | created record => trivial
  | served record response =>
    obtain ⟨request, hmem⟩ := h
    exact .inl ⟨record, request, hmem⟩
  | waits record => exact h
  | refused response => exact .inr h
  | failed => trivial

/-- The answer of the cache is the answer to a callback. -/
theorem ask_answers (stopRequested ready deadlinePassed allocated : Bool) (now : Nat)
    (h : Recorded o c) (hquiet : Quiet b.delivery c.history) :
    ∃ found, RequestCache.Answers o b.delivery b.request c
        (found, (ask o stopRequested ready deadlinePassed allocated now b c).2) ∧
      (ask o stopRequested ready deadlinePassed allocated now b c).1 =
        { b with point := answer found } := by
  unfold ask
  by_cases hready : b.point = .entered true ∧ ready = true
  · rw [if_pos hready]
    exact ⟨_, h.acquire hquiet now stopRequested deadlinePassed allocated, rfl⟩
  · rw [if_neg hready]
    exact ⟨_, h.refuse hquiet (.inr (.inr (.inr rfl))), rfl⟩

/-- The answer of a callback that executed nothing is handed over. -/
theorem handOver_quietly (copied started running armed : Bool) (now : Nat) (i : PipeInstance)
    {response : Response} {record : Option Nat}
    (htold : (HandlerPoint.answered response record).Told b.delivery b.request c.history)
    (h : Recorded o c) :
    Recorded o (handOver o copied started running armed now b response record i c).2.1 ∧
      Grows (some b.delivery) c.history
        (handOver o copied started running armed now b response record i c).2.1.history := by
  have hfinish (i : PipeInstance) :
      Recorded o (finishClientLocked o running armed now i c).2 ∧
        Grows (some b.delivery) c.history
          (finishClientLocked o running armed now i c).2.history := by
    have hquietly := quietly_finishClientLocked o running armed now i c
    exact ⟨hquietly.recorded h, (hquietly.grows h).weaken _⟩
  unfold handOver
  split
  · exact ⟨h, Grows.refl ..⟩
  · split
    · exact hfinish _
    · dsimp only
      split
      · exact hfinish _
      · split
        · exact ⟨h.note htold nofun nofun, (Grows.refl ..).cons (.inr rfl)⟩
        · exact hfinish _

/-- The record of an execution is there, without a response. -/
theorem Inv.executing (hs : Inv o s) (hslot : s.slots[index]? = some slot)
    (hb : slot.callback = some b) {record : Nat}
    (hpoint : (b.request.correlationId, record) ∈
      (b.point.holders b.request.correlationId).executing) :
    ∃ r ∈ s.cache.requestRecords, r.serial = record ∧ r.isComplete = false := by
  have hexecuting : (b.request.correlationId, record) ∈ s.holders.executing := by
    obtain ⟨before, after, hsplit⟩ := List.append_of_mem (List.mem_of_getElem? hslot)
    simp [holders, hsplit, Slot.holders, hb, HandlerCallback.holders, hpoint]
  obtain ⟨r, hr, hkey, hopen⟩ := hs.ledger.executing _ hexecuting
  exact ⟨r, hr, (Prod.mk.inj hkey).2, hopen⟩

/-! ## In every run -/

theorem tells_enter (hs : Inv o s) (h : Tells o s) (hslot : s.slots[index]? = some slot)
    (hsubmitted : slot.submitted = true) (copied : Bool) :
    Tells o (step o s (.enter index copied)) := by
  have hnone := ((hs.slots slot (List.mem_of_getElem? hslot)).submitted hsubmitted).2
  have hentered : step o s (.enter index copied) = { s with
      slots := s.slots.set index (enter copied s.running s.nextDelivery slot.pipe)
      nextDelivery := s.nextDelivery + 1 } := by
    simp only [step, onSlot, hslot]
  rw [hentered]
  have hset := callbackAt_set hslot (enter copied s.running s.nextDelivery slot.pipe)
  have hcases : ∀ other b, ({ s with
      slots := s.slots.set index (enter copied s.running s.nextDelivery slot.pipe)
      nextDelivery := s.nextDelivery + 1 } : CommandLineControlServer).callbackAt other = some b →
        (other = index ∧ b.delivery = s.nextDelivery ∧ ∃ canRun, b.point = .entered canRun) ∨
          s.callbackAt other = some b := by
    intro other b hb
    rw [callbackAt, hset] at hb
    split at hb
    · next heq =>
      cases hb
      exact .inl ⟨heq, rfl, _, rfl⟩
    · exact .inr hb
  refine ⟨h.recorded, fun occurrence hmem d hd => ?_, fun other b hb => ?_, ?_⟩
  · exact Nat.lt_succ_of_lt (h.bounded occurrence hmem d hd)
  · obtain ⟨-, hdelivery, canRun, hpoint⟩ | hold := hcases other b hb
    · rw [hdelivery, hpoint]
      refine ⟨Nat.lt_succ_self _, fun occurrence hmem heq => ?_⟩
      exact Nat.lt_irrefl _ (h.bounded occurrence hmem _ heq)
    · obtain ⟨hlt, htold⟩ := h.callbacks other b hold
      exact ⟨Nat.lt_succ_of_lt hlt, htold⟩
  · intro left right b b' hb hb' heq
    obtain ⟨rfl, hdelivery, -⟩ | hleft := hcases left b hb
    · obtain ⟨rfl, -, -⟩ | hright := hcases right b' hb'
      · rfl
      · exact absurd (heq.symm.trans hdelivery) (Nat.ne_of_lt (h.callbacks right b' hright).1)
    · obtain ⟨rfl, hdelivery, -⟩ | hright := hcases right b' hb'
      · exact absurd (heq.trans hdelivery) (Nat.ne_of_lt (h.callbacks left b hleft).1)
      · exact h.distinct left right b b' hleft hright heq

theorem tells_step (o : CacheOptions) (s : CommandLineControlServer) (e : Event)
    (he : enabled s e) (hs : Inv o s) (h : Tells o s) : Tells o (step o s e) := by
  have htold {index : Nat} {slot : Slot} {b : HandlerCallback}
      (hslot : s.slots[index]? = some slot) (hb : slot.callback = some b) :
      b.point.Told b.delivery b.request s.cache.history :=
    (h.callbacks index b ((callbackAt_eq hslot).trans hb)).2
  cases e with
  | start armed =>
    have hnone (index : Nat) :
        (armed.map fun armed => ({ pipe := arm armed {} } : Slot))[index]?.bind Slot.callback =
          none := by
      rw [List.getElem?_map]
      cases armed[index]? <;> rfl
    exact {
      recorded := h.recorded
      bounded := h.bounded
      callbacks := fun index b hb => by cases (hnone index).symm.trans hb
      distinct := fun index _ b _ hb => by cases (hnone index).symm.trans hb }
  | requestStop => exact ⟨h.recorded, h.bounded, h.callbacks, h.distinct⟩
  | signalStop => exact ⟨h.recorded, h.bounded, h.callbacks, h.distinct⟩
  | stopped =>
    obtain ⟨-, hreleasing, hcallbacks⟩ := he
    obtain ⟨hrecorded, hgrows⟩ :=
      h.recorded.stop hs.ledger (holders_stopped hreleasing hcallbacks)
    exact {
      recorded := hrecorded
      bounded := (h.cache hrecorded hgrows).bounded
      callbacks := fun index b hb => by cases hb
      distinct := fun index _ b _ hb => by cases hb }
  | tick => exact ⟨h.recorded, h.bounded, h.callbacks, h.distinct⟩
  | prune now =>
    obtain ⟨hrecorded, hgrows⟩ := h.recorded.pruneRequestRecords now
    exact h.cache hrecorded hgrows
  | rearm index armed =>
    obtain ⟨slot, hslot, -, -⟩ := he
    simp only [step, onSlot, hslot]
    exact h.keep hslot (Quietly.refl ..) rfl
  | connected index trusted started armed now =>
    obtain ⟨slot, hslot, -, -⟩ := he
    simp only [step, onSlot, hslot]
    exact h.keep hslot (handleConnectedInstanceLocked_quietly ..) rfl
  | transferred index completion started armed now =>
    obtain ⟨slot, hslot, -, -⟩ := he
    have hidles := handleIoCompletion_idles o completion started s.running armed now slot.pipe
      s.cache
    simp only [step, onSlot, hslot]
    exact h.idle hslot hidles.quietly hidles.callback
  | enter index copied =>
    obtain ⟨slot, hslot, hsubmitted⟩ := he
    exact tells_enter hs h hslot hsubmitted copied
  | ask index ready deadlinePassed allocated records now =>
    obtain ⟨slot, b, canRun, hslot, hb, hpoint, -, hperm⟩ := he
    have hquiet : Quiet b.delivery s.cache.history := by
      have hentered := htold hslot hb
      rwa [hpoint] at hentered
    obtain ⟨found, hanswers, hasked⟩ := ask_answers s.stopRequested ready deadlinePassed allocated
      now (h.recorded.perm hperm) hquiet
    simp only [step, onCallback, onSlot, hslot, hb, hasked]
    exact h.proceed hslot hb rfl hanswers.recorded hanswers.grows (answer_told hanswers.told)
  | wake index deadlinePassed =>
    obtain ⟨slot, b, record, hslot, hb, hpoint⟩ := he
    have hwaiting := htold hslot hb
    rw [hpoint] at hwaiting
    have hanswers := h.recorded.await hwaiting.1 hwaiting.2 s.stopRequested deadlinePassed
    simp only [step, onCallback, onSlot, hslot, hb, wake, hpoint]
    exact h.proceed hslot hb rfl hanswers.recorded hanswers.grows (answer_told hanswers.told)
  | returns index result =>
    obtain ⟨slot, b, record, hslot, hb, hpoint⟩ := he
    simp only [step, onCallback, onSlot, hslot, hb, returns, hpoint]
    exact h.proceed hslot hb rfl h.recorded (Grows.refl ..) trivial
  | complete index =>
    obtain ⟨slot, b, record, response, completedAt, hslot, hb, hpoint⟩ := he
    obtain ⟨r, hr, rfl, hopen⟩ := hs.executing hslot hb
      (by rw [hpoint]; exact Multiset.mem_singleton_self _)
    obtain ⟨hrecorded, hgrows, hserved⟩ :=
      h.recorded.complete hs.ledger hr hopen b.delivery response completedAt
    simp only [step, onCallback, onSlot, hslot, hb, complete, hpoint]
    exact h.proceed hslot hb rfl hrecorded hgrows (.inl ⟨_, _, hserved⟩)
  | settle index =>
    obtain ⟨slot, b, hslot, hb, -, -⟩ := he
    have hquietly := quietly_completePendingDelivery o b.pendingCorrelation s.cache
    have hgrows := (hquietly.grows h.recorded).weaken (some b.delivery)
    simp only [step, onCallback, onSlot, hslot, hb, settle]
    refine h.proceed hslot hb rfl (hquietly.recorded h.recorded) hgrows ?_
    exact htold hslot hb
  | handOver index copied started armed now =>
    obtain ⟨slot, b, hslot, hb, -, -, hpoint⟩ := he
    rcases hpoint with hpoint | ⟨response, record, hpoint⟩
    · simp only [step, hslot, hb, hpoint]
      exact h.idle hslot (quietly_finishClientLocked ..) rfl
    · have hanswered := htold hslot hb
      rw [hpoint] at hanswered
      obtain ⟨hrecorded, hgrows⟩ := handOver_quietly copied started s.running armed now slot.pipe
        hanswered h.recorded
      simp only [step, hslot, hb, hpoint]
      exact (h.leave hslot hb hrecorded hgrows _).release _
  | release record now =>
    have hquietly := quietly_completeDelivery o record.1 record.2 false now s.cache
    exact (h.cache (hquietly.recorded h.recorded) (hquietly.grows h.recorded)).release _

theorem tells_initial (o : CacheOptions) : Tells o {} where
  recorded := Recorded.initial o
  bounded _ h := by cases h
  callbacks _ _ h := by cases h
  distinct _ _ _ _ h := by cases h

/-- The history of the cache, and the counters that the records leave by. -/
structure RequestsOnce (o : CacheOptions) (s : CommandLineControlServer) : Prop where
  once : Throughout (Once o) s.cache.history
  /-- The counter of a record is the number of the connections that deliver it. -/
  active : ∀ r ∈ s.cache.requestRecords, r.activeDeliveries = s.deliveries r.key
  /-- The counter of a correlation id is the number of the deliveries that are pending for it. -/
  pending : ∀ id, s.cache.pendingDeliveries id = s.holders.pending.count id

/-- In every run a request is executed once while its record is there. -/
theorem requests_once (o : CacheOptions) {es : List Event} (hrun : (controlServer o).Run {} es) :
    RequestsOnce o ((controlServer o).exec {} es) := by
  have hboth : Inv o ((controlServer o).exec {} es) ∧ Tells o ((controlServer o).exec {} es) :=
    EventSystem.Always.invariant (S := controlServer o) (I := fun s => Inv o s ∧ Tells o s)
      (fun s e he h => ⟨step_inv o s e he h.1, tells_step o s e he h.1 h.2⟩) hrun
      ⟨Inv.initial, tells_initial o⟩
  exact ⟨hboth.2.recorded.once, hboth.1.accounting.active, hboth.1.ledger.pending⟩

theorem servedRun_runs : (controlServer defaultCacheOptions).Run {} servedRun :=
  ⟨⟨rfl, rfl, rfl⟩, ⟨_, rfl, rfl, Nat.le_refl _⟩, ⟨_, rfl, rfl, Nat.le_refl _⟩, ⟨_, rfl, rfl⟩,
    ⟨_, _, _, rfl, rfl, rfl, Nat.le_refl _, .refl _⟩, ⟨_, _, _, rfl, rfl, rfl⟩,
    ⟨_, _, _, _, _, rfl, rfl, rfl⟩, ⟨_, _, rfl, rfl, rfl, .inr ⟨_, _, rfl⟩⟩,
    ⟨_, _, rfl, rfl, rfl, Nat.le_refl _, .inr ⟨_, _, rfl⟩⟩, trivial⟩

theorem requests_once_served : RequestsOnce defaultCacheOptions
    ((controlServer defaultCacheOptions).exec {} servedRun) :=
  requests_once defaultCacheOptions servedRun_runs

/-- What every occurrence would come with, if a request whose handler cannot be run had none of the
other answers. -/
def AlwaysRun (o : CacheOptions) : Occurrence → List Occurrence → Prop
  | .sent delivery response, earlier =>
    (∃ serial request, .served delivery serial request response ∈ earlier) ∨
      (∃ request records, .refused delivery request response records ∈ earlier) ∧
        (response.code = .invalidRequest ∨ response.code = .busy ∨ response.code = .unavailable)
  | occurrence, earlier => Once o occurrence earlier

/-- The apartment of a callback is not ready. -/
def unreadyRun : List Event :=
  [.start [true], .connected 0 true true true 0,
    .transferred 0 (.transferred 40 exampleRequest.bytes) true true 0, .enter 0 true,
    .ask 0 false false true [] 0, .settle 0, .handOver 0 true true true 0]

theorem not_alwaysRun : ¬ ∀ es : List Event, (controlServer defaultCacheOptions).Run {} es →
    Throughout (AlwaysRun defaultCacheOptions)
      ((controlServer defaultCacheOptions).exec {} es).cache.history := by
  intro h
  have hrun : (controlServer defaultCacheOptions).Run {} unreadyRun :=
    ⟨⟨rfl, rfl, rfl⟩, ⟨_, rfl, rfl, Nat.le_refl _⟩, ⟨_, rfl, rfl, Nat.le_refl _⟩, ⟨_, rfl, rfl⟩,
      ⟨_, _, _, rfl, rfl, rfl, Nat.le_refl _, .refl _⟩, ⟨_, _, rfl, rfl, rfl, .inr ⟨_, _, rfl⟩⟩,
      ⟨_, _, rfl, rfl, rfl, Nat.le_refl _, .inr ⟨_, _, rfl⟩⟩, trivial⟩
  have hhistory : ((controlServer defaultCacheOptions).exec {} unreadyRun).cache.history =
      [.sent 0 ⟨.operationFailed, [], ⟨0, 1⟩⟩,
        .refused 0 exampleRequest ⟨.operationFailed, [], ⟨0, 1⟩⟩ []] := rfl
  have hclaimed := h unreadyRun hrun
  rw [hhistory] at hclaimed
  obtain ⟨serial, request, hserved⟩ | ⟨-, hcode⟩ := hclaimed.1
  · simp at hserved
  · exact absurd hcode (by decide)

end CommandLineControlServer

end PlaybackConnector.Control
