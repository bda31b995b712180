import PlaybackConnector.Transition.System
import PlaybackConnector.Control.PipeInstance
import PlaybackConnector.Control.RequestCache

/-!
# The command-line control server

The server serves the clients of its pipe instances. Per instance there is at most one transfer or
connection under way, and at most one callback that handles a request; the callbacks of different
instances meet in the request cache only. An event is one section of the code under the lock of an
instance, under the lock of the cache, or both; a section under the lock of an instance has at most
one section of the cache in it.

What the system does is part of the event: which transfers can be started, which connections armed,
which allocations fail, and which time `CacheNow` gave before the section. The creation of the pipes
and the delays before another attempt to connect are left out: an instance that is not connected
can be armed at any time.
-/

namespace PlaybackConnector.Control

/-- Where the callback of a handler stands. Source: `OnHandlerReady`
(`CommandLineControlServer.cpp:713`). -/
inductive HandlerPoint where
  /-- It has looked at its instance. Source: `canRun`. -/
  | entered (canRun : Bool)
  /-- It waits in `ExecuteOnce` for a record. -/
  | waiting (record : Nat)
  /-- It executes the handler for a record. -/
  | executing (record : Nat)
  /-- The handler has returned. -/
  | returned (record : Nat) (response : Response) (completedAt : Nat)
  /-- It has a response, of a record if the request has one. -/
  | answered (response : Response) (record : Option Nat)
  /-- `ExecuteOnce` has thrown. -/
  | failed
  deriving DecidableEq

/-- A callback that handles the request of an instance. -/
structure HandlerCallback where
  point : HandlerPoint
  /-- Source: `request`. -/
  request : Request
  /-- Source: `pendingDelivery`. -/
  pendingDelivery : Bool
  /-- Source: `pendingCorrelation`. -/
  pendingCorrelation : CorrelationId
  /-- The number of the callback. No code reads it. -/
  delivery : Nat

/-- A record that a callback holds, if it does. -/
def HandlerCallback.held (b : HandlerCallback) (record : Option Nat) :
    List (CorrelationId × Nat) :=
  record.toList.map fun record => (b.request.correlationId, record)

/-- An instance and its handler. -/
structure Slot where
  pipe : PipeInstance
  /-- `HandlerWork` is submitted. -/
  submitted : Bool := false
  callback : Option HandlerCallback := none

/-- How a transfer completes. -/
inductive Completion where
  /-- With an error, or after its deadline. -/
  | failed
  /-- With a number of bytes, and what was read. -/
  | transferred (count : Nat) (bytes : List UInt8)

/-- The server. Source: `CommandLineControlServer` (`CommandLineControlServer.hpp:24`). -/
structure CommandLineControlServer where
  /-- Source: `m_running`. -/
  running : Bool := false
  /-- Source: `m_accepting`. -/
  accepting : Bool := false
  /-- Source: `m_stopSource`. -/
  stopRequested : Bool := false
  /-- Source: `m_instances`. -/
  slots : List Slot := []
  /-- The records that callbacks still hold after they are done with their instance. -/
  releasing : List (CorrelationId × Nat) := []
  /-- Source: the members under `m_requestMutex`. -/
  cache : RequestCache := {}
  /-- The time. -/
  clock : Nat := 0
  /-- The number of the next callback. No code reads it. -/
  nextDelivery : Nat := 0

namespace CommandLineControlServer

/-- What can happen. The index is that of an instance. -/
inductive Event where
  /-- `TryStart` succeeds; some of the instances are armed. -/
  | start (armed : List Bool)
  /-- The lifecycle section of `RequestStop`. -/
  | requestStop
  /-- `request_stop` is called. -/
  | signalStop
  /-- `Stop` has waited for all callbacks. -/
  | stopped
  /-- Time passes. -/
  | tick
  /-- `OnRequestPrune`. -/
  | prune (now : Nat)
  /-- An instance that is not connected is armed, or is to be armed later. -/
  | rearm (index : Nat) (armed : Bool)
  /-- A client has connected. -/
  | connected (index : Nat) (trusted started armed : Bool) (now : Nat)
  /-- A transfer has completed. -/
  | transferred (index : Nat) (completion : Completion) (started armed : Bool) (now : Nat)
  /-- The callback of a handler starts. -/
  | enter (index : Nat) (copied : Bool)
  /-- It asks for its request. -/
  | ask (index : Nat) (ready deadlinePassed allocated : Bool) (records : List RequestRecord)
    (now : Nat)
  /-- It looks again at the record it waits for. -/
  | wake (index : Nat) (deadlinePassed : Bool)
  /-- The handler returns or throws. -/
  | returns (index : Nat) (result : Option Response)
  /-- Its response goes into the record. -/
  | complete (index : Nat)
  /-- Its delivery is not pending any more. -/
  | settle (index : Nat)
  /-- It hands its response over to its instance. -/
  | handOver (index : Nat) (copied started armed : Bool) (now : Nat)
  /-- A record that was not handed over is released. -/
  | release (record : CorrelationId × Nat) (now : Nat)

variable (o : CacheOptions)

/-! ## Sections of an instance -/

/-- The instance waits for a client, or is to be armed later. Source: `ArmConnectionLocked`
(`CommandLineControlServer.cpp:530`). -/
def arm (armed : Bool) (i : PipeInstance) : PipeInstance :=
  { i with phase := if armed then .connecting else .disconnected }

/-- The client of an instance is done with. Source: `FinishClientLocked`
(`CommandLineControlServer.cpp:1070`). -/
def finishClientLocked (running armed : Bool) (now : Nat) (i : PipeInstance) (c : RequestCache) :
    PipeInstance × RequestCache :=
  let i := { i with phase := .disconnected }
  let (i, c) :=
    if i.pendingDelivery then
      ({ i with pendingDelivery := false }, c.completePendingDelivery i.request.correlationId)
    else (i, c)
  let (i, c) :=
    match i.acknowledgementRecord with
    | none => (i, c)
    | some record =>
      ({ i with acknowledgementRecord := none },
        c.completeDelivery o i.request.correlationId record false now)
  (if running then arm armed i else i, c)

/-- The client of an instance whose handler has nothing to do is done with. -/
def finishSlot (running armed : Bool) (now : Nat) (i : PipeInstance) (c : RequestCache) :
    Slot × RequestCache :=
  let (i, c) := finishClientLocked o running armed now i c
  ({ pipe := i }, c)

/-- The request of an instance goes to its handler. Source: `DispatchRequestLocked`
(`CommandLineControlServer.cpp:1035`). -/
def dispatchRequestLocked (running armed : Bool) (now : Nat) (i : PipeInstance)
    (c : RequestCache) : Slot × RequestCache :=
  if !isRequestValid i.request || c.pendingDeliveries i.request.correlationId == 2 ^ 64 - 1 then
    finishSlot o running armed now i c
  else
    ({ pipe := { i with pendingDelivery := true, phase := .runningHandler }
       submitted := true }, c.addPending i.request.correlationId)

/-- A client has connected to an instance. Source: `HandleConnectedInstanceLocked`
(`CommandLineControlServer.cpp:934`). -/
def handleConnectedInstanceLocked (admitting trusted started running armed : Bool) (now : Nat)
    (i : PipeInstance) (c : RequestCache) : PipeInstance × RequestCache :=
  if !admitting || !trusted then finishClientLocked o running armed now i c
  else if !started then finishClientLocked o running armed now i.connected c
  else (i.connected, c)

/-- A transfer of an instance has completed. Source: `HandleIoCompletion`
(`CommandLineControlServer.cpp:872`). -/
def handleIoCompletion (completion : Completion) (started running armed : Bool) (now : Nat)
    (i : PipeInstance) (c : RequestCache) : Slot × RequestCache :=
  if !running then ({ pipe := i }, c)
  else
    match completion with
    | .failed => finishSlot o running armed now i c
    | .transferred count bytes =>
      match i.handleTransferred count bytes with
      | (.transfer, i) =>
        if started then ({ pipe := i }, c) else finishSlot o running armed now i c
      | (.dispatch, i) => dispatchRequestLocked o running armed now i c
      | (.acknowledged, i) =>
        match i.acknowledgementRecord with
        | none => finishSlot o running armed now i c
        | some record =>
          finishSlot o running armed now { i with acknowledgementRecord := none }
            (c.completeDelivery o i.request.correlationId record true now)
      | (.finish, i) => finishSlot o running armed now i c

/-! ## Sections of a callback -/

/-- The callback looks at its instance. Source: `CommandLineControlServer.cpp:725`. -/
def enter (copied running : Bool) (delivery : Nat) (i : PipeInstance) : Slot :=
  let canRun := running && i.phase == .runningHandler && copied
  { pipe := { i with pendingDelivery := false }
    callback := some {
      point := .entered canRun
      request := if canRun then i.request else {}
      pendingDelivery := i.pendingDelivery
      pendingCorrelation := i.request.correlationId
      delivery := delivery } }

/-- Where a callback stands when the cache has answered it. -/
def answer : RequestCache.Found → HandlerPoint
  | .created record => .executing record
  | .served record response => .answered response (some record)
  | .waits record => .waiting record
  | .refused response => .answered response none
  | .failed => .failed

/-- The callback asks for its request, unless its instance or its apartment is not ready. Source:
`CommandLineControlServer.cpp:736`. -/
def ask (stopRequested ready deadlinePassed allocated : Bool) (now : Nat) (b : HandlerCallback)
    (c : RequestCache) : HandlerCallback × RequestCache :=
  let (found, c) :=
    if b.point = .entered true ∧ ready then
      c.acquire o b.delivery b.request now stopRequested deadlinePassed allocated
    else c.refuse b.delivery b.request .operationFailed
  ({ b with point := answer found }, c)

/-- The callback looks again at the record it waits for. Source: the loop at
`CommandLineControlServer.cpp:1107`. -/
def wake (stopRequested deadlinePassed : Bool) (b : HandlerCallback) (c : RequestCache) :
    HandlerCallback × RequestCache :=
  match b.point with
  | .waiting record =>
    let (found, c) := c.await b.delivery b.request record stopRequested deadlinePassed
    ({ b with point := answer found }, c)
  | _ => (b, c)

/-- The handler returns or throws. Source: `CommandLineControlServer.cpp:1163`. -/
def returns (result : Option Response) (now : Nat) (b : HandlerCallback) (c : RequestCache) :
    HandlerCallback × RequestCache :=
  match b.point with
  | .executing record =>
    ({ b with point := .returned record (RequestCache.sanitize b.request result) now }, c)
  | _ => (b, c)

/-- The response goes into the record. Source: `CommandLineControlServer.cpp:1179`. -/
def complete (b : HandlerCallback) (c : RequestCache) : HandlerCallback × RequestCache :=
  match b.point with
  | .returned record response completedAt =>
    ({ b with point := .answered response (some record) },
      c.complete o b.delivery record response completedAt)
  | _ => (b, c)

/-- The delivery is not pending any more. Source: `CommandLineControlServer.cpp:764`. -/
def settle (b : HandlerCallback) (c : RequestCache) : HandlerCallback × RequestCache :=
  ({ b with pendingDelivery := false }, c.completePendingDelivery b.pendingCorrelation)

/-- What a callback does with the answer it has for its instance: the instance, the cache, and the
record that it still holds. Source: `CommandLineControlServer.cpp:770`. -/
def handOver (copied started running armed : Bool) (now : Nat) (b : HandlerCallback)
    (response : Response) (record : Option Nat) (i : PipeInstance) (c : RequestCache) :
    PipeInstance × RequestCache × Option Nat :=
  if !running || i.phase != .runningHandler then (i, c, record)
  else if !copied then
    let (i, c) := finishClientLocked o running armed now i c
    (i, c, record)
  else
    let i := { i with response := response, acknowledgementRecord := record }
    match makeResponseHeader response with
    | none =>
      let (i, c) := finishClientLocked o running armed now i c
      (i, c, none)
    | some header =>
      let i := PipeInstance.startTransfer (ResponseHeader.layout.encode header)
        ResponseHeader.layout.width true
        { i with responseHeader := header, phase := .writingResponseHeader }
      if started then (i, c.note (.sent b.delivery response), none)
      else
        let (i, c) := finishClientLocked o running armed now i c
        (i, c, none)

/-! ## The server -/

variable {o}

/-- The phases in which a transfer is under way. -/
def isTransferring : PipePhase → Bool
  | .disconnected | .connecting | .runningHandler => false
  | .readingRequestHeader | .readingRequestPayload | .writingResponseHeader
  | .writingResponsePayload | .readingAcknowledgement => true

/-- What can happen in a state. -/
def enabled (s : CommandLineControlServer) : Event → Prop
  | .start _ => s.running = false ∧ s.slots = [] ∧ s.releasing = []
  | .requestStop => s.running
  | .signalStop => s.running = false
  | .stopped => s.running = false ∧ s.releasing = [] ∧ ∀ slot ∈ s.slots, slot.callback.isNone
  | .tick => True
  | .prune now => now ≤ s.clock
  | .rearm index _ => ∃ slot, s.slots[index]? = some slot ∧ s.running ∧
    slot.pipe.phase = .disconnected
  | .connected index _ _ _ now => ∃ slot, s.slots[index]? = some slot ∧
    slot.pipe.phase = .connecting ∧ now ≤ s.clock
  | .transferred index _ _ _ now => ∃ slot, s.slots[index]? = some slot ∧
    isTransferring slot.pipe.phase ∧ now ≤ s.clock
  | .enter index _ => ∃ slot, s.slots[index]? = some slot ∧ slot.submitted
  | .ask index _ _ _ records now => ∃ slot b canRun, s.slots[index]? = some slot ∧
    slot.callback = some b ∧ b.point = .entered canRun ∧ now ≤ s.clock ∧
    records.Perm s.cache.requestRecords
  | .wake index _ => ∃ slot b record, s.slots[index]? = some slot ∧ slot.callback = some b ∧
    b.point = .waiting record
  | .returns index _ => ∃ slot b record, s.slots[index]? = some slot ∧ slot.callback = some b ∧
    b.point = .executing record
  | .complete index => ∃ slot b record response completedAt, s.slots[index]? = some slot ∧
    slot.callback = some b ∧ b.point = .returned record response completedAt
  | .settle index => ∃ slot b, s.slots[index]? = some slot ∧ slot.callback = some b ∧
    b.pendingDelivery ∧ (b.point = .failed ∨ ∃ response record, b.point = .answered response record)
  | .handOver index _ _ _ now => ∃ slot b, s.slots[index]? = some slot ∧
    slot.callback = some b ∧ b.pendingDelivery = false ∧ now ≤ s.clock ∧
    (b.point = .failed ∨ ∃ response record, b.point = .answered response record)
  | .release record now => record ∈ s.releasing ∧ now ≤ s.clock

/-- A section of one instance and the cache. -/
def onSlot (index : Nat) (body : Slot → RequestCache → Slot × RequestCache)
    (s : CommandLineControlServer) : CommandLineControlServer :=
  match s.slots[index]? with
  | none => s
  | some slot =>
    let (slot, cache) := body slot s.cache
    { s with slots := s.slots.set index slot, cache := cache }

/-- A section of a callback and the cache. -/
def onCallback (index : Nat)
    (body : HandlerCallback → RequestCache → HandlerCallback × RequestCache) :
    CommandLineControlServer → CommandLineControlServer :=
  onSlot index fun slot c =>
    match slot.callback with
    | none => (slot, c)
    | some b =>
      let (b, c) := body b c
      ({ slot with callback := some b }, c)

variable (o)

/-- The state after an event. -/
def step (s : CommandLineControlServer) : Event → CommandLineControlServer
  | .start armed => { s with
    running := true
    accepting := true
    stopRequested := false
    slots := armed.map fun armed => { pipe := arm armed {} } }
  | .requestStop => { s with running := false, accepting := false }
  | .signalStop => { s with stopRequested := true }
  | .stopped => { s with slots := [], cache := s.cache.stop }
  | .tick => { s with clock := s.clock + 1 }
  | .prune now => { s with cache := s.cache.pruneRequestRecords o now }
  | .rearm index armed =>
    s.onSlot index fun slot c => ({ slot with pipe := arm armed slot.pipe }, c)
  | .connected index trusted started armed now =>
    s.onSlot index fun slot c =>
      let (i, c) := handleConnectedInstanceLocked o (s.running && s.accepting) trusted started
        s.running armed now slot.pipe c
      ({ slot with pipe := i }, c)
  | .transferred index completion started armed now =>
    s.onSlot index fun slot c =>
      handleIoCompletion o completion started s.running armed now slot.pipe c
  | .enter index copied =>
    { s.onSlot index fun slot c => (enter copied s.running s.nextDelivery slot.pipe, c) with
      nextDelivery := s.nextDelivery + 1 }
  | .ask index ready deadlinePassed allocated records now =>
    s.onCallback index fun b c =>
      ask o s.stopRequested ready deadlinePassed allocated now b { c with requestRecords := records }
  | .wake index deadlinePassed => s.onCallback index (wake s.stopRequested deadlinePassed)
  | .returns index result => s.onCallback index (returns result s.clock)
  | .complete index => s.onCallback index (complete o)
  | .settle index => s.onCallback index settle
  | .handOver index copied started armed now =>
    match s.slots[index]? with
    | none => s
    | some slot =>
      match slot.callback with
      | none => s
      | some b =>
        match b.point with
        | .answered response record =>
          let (i, c, held) := handOver o copied started s.running armed now b response record
            slot.pipe s.cache
          { s with
            slots := s.slots.set index { pipe := i }
            cache := c
            releasing := b.held held ++ s.releasing }
        | _ =>
          let (i, c) := finishClientLocked o s.running armed now slot.pipe s.cache
          { s with slots := s.slots.set index { pipe := i }, cache := c }
  | .release record now => { s with
    releasing := s.releasing.erase record
    cache := s.cache.completeDelivery o record.1 record.2 false now }

end CommandLineControlServer

open CommandLineControlServer in
/-- The server as an event system. -/
def controlServer (o : CacheOptions) :
    EventSystem CommandLineControlServer CommandLineControlServer.Event where
  enabled := enabled
  step := step o

end PlaybackConnector.Control
