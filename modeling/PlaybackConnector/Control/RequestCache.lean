import PlaybackConnector.Control.CommandProtocol
import Mathlib

/-!
# The request cache of the command-line control server

A record holds the response of the one execution of its request while it is retained. The records
that callbacks and pipe instances point to are told apart by a serial number, which stands for the
address of the record.

Each function is one section of the code under `m_requestMutex`.
-/

namespace PlaybackConnector.Control

/-- The limits of the cache. Source: `CommandLineControlServer::Options`
(`CommandLineControlServer.hpp:29`). -/
structure CacheOptions where
  /-- Source: `MaxRequestRecords`. -/
  maxRequestRecords : Nat
  /-- Source: `MaxRequestCacheBytes`. -/
  maxRequestCacheBytes : Nat
  /-- Source: `RequestRecordLifetime`. -/
  requestRecordLifetime : Nat
  /-- Source: `AcknowledgedRecordLifetime`. -/
  acknowledgedRecordLifetime : Nat
  /-- The limit is a `std::size_t`. -/
  fits : maxRequestCacheBytes < 2 ^ 64

/-- Source: `sizeof(apc::control::Request)`. -/
def sizeofRequest : Nat := 64

/-- Source: `sizeof(apc::control::Response)`. -/
def sizeofResponse : Nat := 56

/-- Source: `RequestBytes` (`CommandLineControlServer.cpp:72`). -/
def requestBytes (request : Request) : Nat := sizeofRequest + request.payload.length * sizeofChar

/-- Source: `ResponseBytes` (`CommandLineControlServer.cpp:76`). -/
def responseBytes (response : Response) : Nat :=
  sizeofResponse + response.payload.length * sizeofChar

/-- The bytes that a request takes before its response is known. Source: `reservedBytes`
(`CommandLineControlServer.cpp:1095`). -/
def reservedBytes (request : Request) : Nat := requestBytes request + sizeofResponse + maxPayloadBytes

/-- Source: `SameRequest` (`CommandLineControlServer.cpp:67`). -/
def sameRequest (lhs rhs : Request) : Bool :=
  lhs.command == rhs.command && lhs.target == rhs.target && lhs.flags == rhs.flags &&
    lhs.payload == rhs.payload

/-- The difference of two `std::size_t`. -/
def sizeSub (a b : Nat) : Nat := (a + 2 ^ 64 - b) % 2 ^ 64

/-- A request and its response. Source: `CommandLineControlServer::RequestRecord`
(`CommandLineControlServer.cpp:117`). -/
structure RequestRecord where
  /-- Source: the address of the record. -/
  serial : Nat
  /-- Source: `Request`. -/
  request : Request
  /-- Source: `Response`. -/
  response : Response := {}
  /-- Source: `CompletedAt`. -/
  completedAt : Nat := 0
  /-- Source: `LastDeliveryCompletedAt`. -/
  lastDeliveryCompletedAt : Nat := 0
  /-- Source: `Bytes`. -/
  bytes : Nat := 0
  /-- Source: `ActiveDeliveries`. -/
  activeDeliveries : Nat := 0
  /-- Source: `IsComplete`. -/
  isComplete : Bool := false
  /-- Source: `Acknowledged`. -/
  acknowledged : Bool := false
  deriving DecidableEq

/-- The key of a record. -/
abbrev RequestRecord.id (r : RequestRecord) : CorrelationId := r.request.correlationId

/-- What tells a record from every other, whatever they are for. -/
abbrev RequestRecord.key (r : RequestRecord) : CorrelationId × Nat := (r.id, r.serial)

/-- A delivery takes hold of a record. Source: `CommandLineControlServer.cpp:1121`. -/
def RequestRecord.taken (r : RequestRecord) : RequestRecord :=
  { r with activeDeliveries := r.activeDeliveries + 1 }

/-- The response of a record is known, and is delivered. Source:
`CommandLineControlServer.cpp:1181`. -/
def RequestRecord.completed (response : Response) (completedAt : Nat) (r : RequestRecord) :
    RequestRecord :=
  { r with
    response := response
    completedAt := completedAt
    isComplete := true
    activeDeliveries := r.activeDeliveries + 1
    bytes := requestBytes r.request + responseBytes response }

/-- A delivery of a record is over. Source: `CommandLineControlServer.cpp:1202`. -/
def RequestRecord.delivered (acknowledged : Bool) (now : Nat) (r : RequestRecord) :
    RequestRecord :=
  { r with
    activeDeliveries :=
      if r.activeDeliveries > 0 then r.activeDeliveries - 1 else r.activeDeliveries
    acknowledged := r.acknowledged || acknowledged
    lastDeliveryCompletedAt := now }

/-- No delivery of a record is left. Source: `CommandLineControlServer.cpp:486`. -/
def RequestRecord.abandoned (r : RequestRecord) : RequestRecord := { r with activeDeliveries := 0 }

/-- Why a record leaves the cache: the server has stopped, the lifetime of the record is over at
some time, or its space is needed. -/
inductive Removal where
  | stopped | expired (now : Nat) | evicted

/-- What happens in the cache, and to the deliveries that ask for it. -/
inductive Occurrence where
  /-- A delivery has the handler execute a request, for a new record. -/
  | executed (delivery serial : Nat) (request : Request)
  /-- A record has its response. -/
  | completed (serial : Nat) (response : Response)
  /-- A delivery is served from a record. -/
  | served (delivery serial : Nat) (request : Request) (response : Response)
  /-- A delivery is answered without a record, while the cache holds some records. -/
  | refused (delivery : Nat) (request : Request) (response : Response) (records : List RequestRecord)
  /-- The answer of a delivery is sent. -/
  | sent (delivery : Nat) (response : Response)
  /-- A record has left the cache, with the deliveries that were pending for it. -/
  | removed (record : RequestRecord) (pending : Nat) (cause : Removal)

/-- The cache. Source: the members at `CommandLineControlServer.hpp:140`. -/
structure RequestCache where
  /-- In the order in which the map is iterated. Source: `m_requestRecords`. -/
  requestRecords : List RequestRecord := []
  /-- Source: `m_pendingDeliveries`. -/
  pendingDeliveries : CorrelationId → Nat := fun _ => 0
  /-- Source: `m_requestCacheBytes`. -/
  requestCacheBytes : Nat := 0
  /-- The serial number of the next record. -/
  nextSerial : Nat := 0
  /-- What has happened, the latest first. No code reads it. -/
  history : List Occurrence := []

namespace RequestCache

/-! ## Sections -/

/-- A record leaves the cache. Source: `CommandLineControlServer.cpp:1148`, `1234`. -/
def remove (r : RequestRecord) (cause : Removal) (c : RequestCache) : RequestCache :=
  { c with
    requestCacheBytes := c.requestCacheBytes - min c.requestCacheBytes r.bytes
    requestRecords := c.requestRecords.erase r
    history := .removed r (c.pendingDeliveries r.id) cause :: c.history }

/-- The record stays. Source: the condition at `CommandLineControlServer.cpp:1229`. -/
def retains (o : CacheOptions) (now : Nat) (c : RequestCache) (r : RequestRecord) : Bool :=
  let retention :=
    if r.acknowledged then o.acknowledgedRecordLifetime else o.requestRecordLifetime
  let retainedSince := if r.acknowledged then r.lastDeliveryCompletedAt else r.completedAt
  !r.isComplete || r.activeDeliveries != 0 || c.pendingDeliveries r.id != 0 ||
    decide (now < retainedSince + retention)

/-- The records from one on whose time is over leave the cache. -/
def pruneFrom (o : CacheOptions) (now : Nat) : List RequestRecord → RequestCache → RequestCache
  | [], c => c
  | r :: rest, c =>
    if c.retains o now r then pruneFrom o now rest c
    else pruneFrom o now rest (c.remove r (.expired now))

/-- Source: `PruneRequestRecords` (`CommandLineControlServer.cpp:1221`). -/
def pruneRequestRecords (o : CacheOptions) (now : Nat) (c : RequestCache) : RequestCache :=
  pruneFrom o now c.requestRecords c

/-- Source: `lacksCapacity` (`CommandLineControlServer.cpp:1125`). -/
def lacksCapacity (o : CacheOptions) (reserved : Nat) (c : RequestCache) : Bool :=
  decide (reserved > o.maxRequestCacheBytes) ||
    decide (c.requestRecords.length ≥ o.maxRequestRecords) ||
    decide (c.requestCacheBytes > o.maxRequestCacheBytes - reserved)

/-- The record can make room for another. Source: the condition at
`CommandLineControlServer.cpp:1135`. -/
def isEvictable (c : RequestCache) (r : RequestRecord) : Bool :=
  r.isComplete && r.acknowledged && r.activeDeliveries == 0 && c.pendingDeliveries r.id == 0

/-- The better of the candidate so far and another record. -/
def betterCandidate (c : RequestCache) (candidate : Option RequestRecord) (r : RequestRecord) :
    Option RequestRecord :=
  if !c.isEvictable r then candidate
  else match candidate with
    | none => some r
    | some best =>
      if r.lastDeliveryCompletedAt < best.lastDeliveryCompletedAt then some r else candidate

/-- The record that makes room for another. Source: `candidate`
(`CommandLineControlServer.cpp:1131`). -/
def candidate (c : RequestCache) : Option RequestRecord :=
  c.requestRecords.foldl c.betterCandidate none

/-- The best candidate is one. -/
theorem candidate_spec {c : RequestCache} {r : RequestRecord} (h : c.candidate = some r) :
    r ∈ c.requestRecords ∧ c.isEvictable r := by
  have hfold : ∀ (records : List RequestRecord) (start : Option RequestRecord),
      records.foldl c.betterCandidate start = some r →
        start = some r ∨ r ∈ records ∧ c.isEvictable r := by
    intro records
    induction records with
    | nil => exact fun start h => .inl h
    | cons x rest ih =>
      intro start h
      rcases ih _ h with hstart | ⟨hmem, hevictable⟩
      · unfold betterCandidate at hstart
        split at hstart
        · exact .inl hstart
        · next hx =>
          have hx : c.isEvictable x := by simpa using hx
          split at hstart
          · cases hstart
            exact .inr ⟨List.mem_cons_self, hx⟩
          · split at hstart
            · cases hstart
              exact .inr ⟨List.mem_cons_self, hx⟩
            · exact .inl hstart
      · exact .inr ⟨List.mem_cons_of_mem _ hmem, hevictable⟩
  rcases hfold _ none h with hnone | hmem
  · cases hnone
  · exact hmem

/-- At most some number of acknowledged records leave the cache until there is room, or none is left
that may. -/
def makeRoomWithin (o : CacheOptions) (reserved : Nat) : Nat → RequestCache → Bool × RequestCache
  | 0, c => (!c.lacksCapacity o reserved, c)
  | n + 1, c =>
    if !c.lacksCapacity o reserved then (true, c)
    else
      match c.candidate with
      | none => (false, c)
      | some r => makeRoomWithin o reserved n (c.remove r .evicted)

/-- A record is removed in every turn of the loop. Source: `CommandLineControlServer.cpp:1130`. -/
def makeRoom (o : CacheOptions) (reserved : Nat) (c : RequestCache) : Bool × RequestCache :=
  makeRoomWithin o reserved c.requestRecords.length c

/-- Source: the search at `CommandLineControlServer.cpp:1101`. -/
def find (id : CorrelationId) (c : RequestCache) : Option RequestRecord :=
  c.requestRecords.find? fun r => r.id == id

/-- The record that a pointer points to, while the cache holds it. -/
def findSerial (serial : Nat) (c : RequestCache) : Option RequestRecord :=
  c.requestRecords.find? fun r => r.serial == serial

/-- The record that a pointer points to changes. -/
def modify (serial : Nat) (f : RequestRecord → RequestRecord) (c : RequestCache) : RequestCache :=
  { c with requestRecords := c.requestRecords.map fun r => if r.serial = serial then f r else r }

/-- Something happens. -/
def note (occurrence : Occurrence) (c : RequestCache) : RequestCache :=
  { c with history := occurrence :: c.history }

/-- What the cache has for a delivery. -/
inductive Found where
  /-- A new record, whose request the delivery is to have executed. -/
  | created (serial : Nat)
  /-- The response of a record, which the delivery now delivers. -/
  | served (serial : Nat) (response : Response)
  /-- The record has no response yet. -/
  | waits (serial : Nat)
  /-- Another response. -/
  | refused (response : Response)
  /-- An exception: there is no memory for a record. -/
  | failed

/-- An answer without a record. Source: `uncachedResponse`
(`CommandLineControlServer.cpp:1104`). -/
def refuse (delivery : Nat) (request : Request) (code : ExitCode) (c : RequestCache) :
    Found × RequestCache :=
  let response : Response := ⟨code, [], request.correlationId⟩
  (.refused response, c.note (.refused delivery request response c.requestRecords))

/-- A delivery asks for the response of a record: it gets it, gives up because the server stops or
its deadline has passed, or waits. Source: `CommandLineControlServer.cpp:1107`. -/
def await (delivery : Nat) (request : Request) (serial : Nat) (stopRequested deadlinePassed : Bool)
    (c : RequestCache) : Found × RequestCache :=
  match c.findSerial serial with
  | none => (.waits serial, c)
  | some r =>
    if !r.isComplete then
      if stopRequested then c.refuse delivery request .unavailable
      else if deadlinePassed then c.refuse delivery request .busy
      else (.waits serial, c)
    else
      (.served serial r.response,
        (c.modify serial .taken).note (.served delivery serial request r.response))

/-- A new record. Source: `CommandLineControlServer.cpp:1152`. -/
def create (delivery : Nat) (request : Request) (c : RequestCache) : RequestCache :=
  { c with
    requestRecords :=
      { serial := c.nextSerial, request := request, bytes := reservedBytes request } ::
        c.requestRecords
    requestCacheBytes := c.requestCacheBytes + reservedBytes request
    nextSerial := c.nextSerial + 1
    history := .executed delivery c.nextSerial request :: c.history }

/-- A delivery asks for its request. Source: the first section of `ExecuteOnce`
(`CommandLineControlServer.cpp:1098`). -/
def acquire (o : CacheOptions) (delivery : Nat) (request : Request) (now : Nat)
    (stopRequested deadlinePassed allocated : Bool) (c : RequestCache) : Found × RequestCache :=
  let c := c.pruneRequestRecords o now
  match c.find request.correlationId with
  | some r =>
    if !sameRequest r.request request then c.refuse delivery request .invalidRequest
    else c.await delivery request r.serial stopRequested deadlinePassed
  | none =>
    let room := c.makeRoom o (reservedBytes request)
    if !room.1 then room.2.refuse delivery request .busy
    else if !allocated then (.failed, room.2)
    else (.created room.2.nextSerial, room.2.create delivery request)

/-- What becomes of the result of the handler. Source: `CommandLineControlServer.cpp:1163`. -/
def sanitize (request : Request) (result : Option Response) : Response :=
  let response : Response := result.getD ⟨.indeterminate, [], {}⟩
  if (payloadByteCount response.payload).isNone || !isKnownExitCode response.code.toUInt32 then
    ⟨.indeterminate, [], request.correlationId⟩
  else { response with correlationId := request.correlationId }

/-- A record gets its response. Source: the last section of `ExecuteOnce`
(`CommandLineControlServer.cpp:1179`). -/
def complete (o : CacheOptions) (delivery serial : Nat) (response : Response) (completedAt : Nat)
    (c : RequestCache) : RequestCache :=
  match c.findSerial serial with
  | none => c
  | some r =>
    let actualBytes := requestBytes r.request + responseBytes response
    let c := { c.modify serial (.completed response completedAt) with
      requestCacheBytes :=
        if r.bytes > actualBytes then sizeSub c.requestCacheBytes (r.bytes - actualBytes)
        else c.requestCacheBytes }
    ((c.note (.completed serial response)).note
      (.served delivery serial r.request response)).pruneRequestRecords o completedAt

/-- A delivery is over. Source: `CompleteDelivery` (`CommandLineControlServer.cpp:1195`). -/
def completeDelivery (o : CacheOptions) (id : CorrelationId) (serial : Nat) (acknowledged : Bool)
    (now : Nat) (c : RequestCache) : RequestCache :=
  match c.find id with
  | none => c
  | some r =>
    if r.serial ≠ serial ∨ r.isComplete = false then c
    else
      (c.modify serial (.delivered acknowledged now)).pruneRequestRecords o now

/-- A delivery that is about to ask for its request. Source: `DispatchRequestLocked`
(`CommandLineControlServer.cpp:1044`). -/
def addPending (id : CorrelationId) (c : RequestCache) : RequestCache :=
  { c with
    pendingDeliveries := Function.update c.pendingDeliveries id (c.pendingDeliveries id + 1) }

/-- Source: `CompletePendingDelivery` (`CommandLineControlServer.cpp:1209`). -/
def completePendingDelivery (id : CorrelationId) (c : RequestCache) : RequestCache :=
  { c with
    pendingDeliveries := Function.update c.pendingDeliveries id
      (if c.pendingDeliveries id > 1 then c.pendingDeliveries id - 1 else 0) }

/-- The records from one on that have no response leave the cache. -/
def clearFrom : List RequestRecord → RequestCache → RequestCache
  | [], c => c
  | r :: rest, c => if !r.isComplete then clearFrom rest (c.remove r .stopped) else clearFrom rest c

/-- The server has stopped: the records without a response leave, and no delivery of the others is
left. Source: the section of `Stop` at `CommandLineControlServer.cpp:477`. -/
def stop (c : RequestCache) : RequestCache :=
  let c := { c with pendingDeliveries := fun _ => 0 }
  let c := clearFrom c.requestRecords c
  { c with requestRecords := c.requestRecords.map .abandoned }

end RequestCache

end PlaybackConnector.Control
