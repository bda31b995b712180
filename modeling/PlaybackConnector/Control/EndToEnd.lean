import PlaybackConnector.Control.CommandClient
import PlaybackConnector.Control.Refusals

/-!
# Calls of the client, and what the servers make of them

A call of the client is executed once at most (`sendRequest_once`), whatever the pipes and the
servers do: its connections lead to one server, which executes a request once while its record is
there. That the pipes carry what is written is assumed (`Carried`).
-/

namespace PlaybackConnector.Control

open Wire CommandLineControlServer RequestCache

/-! ## Histories -/

/-- A request with a correlation id is executed. -/
def Occurrence.executes (id : CorrelationId) : Occurrence → Bool
  | .executed _ _ request => request.correlationId == id
  | .completed _ _ | .served _ _ _ _ | .refused _ _ _ _ | .sent _ _ | .removed _ _ _ => false

/-- The executions of the requests with a correlation id. -/
def executions (id : CorrelationId) (history : List Occurrence) : List Occurrence :=
  history.filter (Occurrence.executes id)

/-- The records of the requests with a correlation id are retained. -/
def Retained (id : CorrelationId) (history : List Occurrence) : Prop :=
  ∀ executor serial request, .executed executor serial request ∈ history →
    request.correlationId = id →
      ∀ r pending cause, .removed r pending cause ∈ history → r.serial ≠ serial

section
variable {o : CacheOptions} {id : CorrelationId} {history earlier : List Occurrence}
  {occurrence : Occurrence} {delivery serial : Nat} {request request' : Request}
  {response : Response} {records : List RequestRecord}

theorem mem_executions :
    occurrence ∈ executions id history ↔ occurrence ∈ history ∧
      ∃ executor serial request, occurrence = .executed executor serial request ∧
        request.correlationId = id := by
  rw [executions, List.mem_filter]
  refine and_congr_right fun _ => ?_
  cases occurrence with
  | executed executor serial request => simp [Occurrence.executes]
  | completed | served | refused | sent | removed => simp [Occurrence.executes]

theorem Retained.mono (h : Retained id history) (hsub : earlier ⊆ history) : Retained id earlier :=
  fun executor serial request hexecuted hid r pending cause hgone =>
    h executor serial request (hsub hexecuted) hid r pending cause (hsub hgone)

/-- While its record is retained a request is executed once at most. -/
theorem executions_length_le (h : Throughout (Once o) history) (hretained : Retained id history) :
    (executions id history).length ≤ 1 := by
  induction history with
  | nil => exact Nat.zero_le 1
  | cons occurrence earlier ih =>
    have hearlier := ih h.2 (hretained.mono (List.subset_cons_self _ _))
    cases hexecutes : occurrence.executes id with
    | false => rwa [executions, List.filter_cons_of_neg (by simp [hexecutes])]
    | true =>
      rw [executions, List.filter_cons_of_pos hexecutes]
      cases occurrence with
      | executed executor serial request =>
        have hid : request.correlationId = id := by simpa [Occurrence.executes] using hexecutes
        -- an earlier execution would have a record that has left
        have hnone : executions id earlier = [] := by
          refine List.eq_nil_iff_forall_not_mem.2 fun other hother => ?_
          obtain ⟨hmem, executor', serial', request', rfl, hid'⟩ := mem_executions.1 hother
          obtain ⟨-, hgone⟩ := h.1.2 executor' serial' request' hmem
          obtain ⟨r, pending, cause, hremoved, hserial⟩ := hgone (hid'.trans hid.symm)
          exact hretained executor' serial' request' (List.mem_cons_of_mem _ hmem) hid' r pending
            cause (List.mem_cons_of_mem _ hremoved) hserial
        rw [← executions, hnone]
        rfl
      | completed | served | refused | sent | removed => cases hexecutes

/-- A delivery that is refused executes nothing. -/
theorem not_executed_of_refused (h : Throughout (Once o) history)
    (hrefused : .refused delivery request response records ∈ history) :
    .executed delivery serial request' ∉ history := by
  induction history with
  | nil => exact List.not_mem_nil
  | cons occurrence earlier ih =>
    intro hexecuted
    obtain heq | hrefused := List.mem_cons.1 hrefused
    · obtain heq' | hexecuted := List.mem_cons.1 hexecuted
      · cases heq.trans heq'.symm
      · rw [← heq] at h
        exact h.1.1 _ hexecuted rfl
    · obtain heq' | hexecuted := List.mem_cons.1 hexecuted
      · rw [← heq'] at h
        exact h.1.1 _ hrefused rfl
      · exact ih h.2 hrefused hexecuted

/-- An occurrence has a history of its own. -/
theorem exists_suffix_of_mem (h : occurrence ∈ history) :
    ∃ earlier, (occurrence :: earlier) <:+ history := by
  obtain ⟨later, earlier, rfl⟩ := List.append_of_mem h
  exact ⟨earlier, List.suffix_append _ _⟩

end

/-! ## What is carried -/

/-- What a server runs. -/
abbrev ServerRun := List CommandLineControlServer.Event

/-- What a server tells, if this is what it has run. -/
def told (o : CacheOptions) (servers : ServerIdentity → ServerRun) (server : ServerIdentity) :
    List Occurrence :=
  ((controlServer o).exec {} (servers server)).cache.history

/-- A request that a delivery executes or is served from its record. -/
def Occurrence.asks (delivery : Nat) (request : Request) : Occurrence → Prop
  | .executed delivery' _ request' | .served delivery' _ request' _ =>
    delivery' = delivery ∧ request' = request
  | .completed _ _ | .refused _ _ _ _ | .sent _ _ | .removed _ _ _ => False

/-- The connections of a call carry what is written, and its record is retained. Some of them have
become deliveries of their servers. -/
structure Carried (request : Request) (contacts : List Contact) (delivery : Nat → Option Nat)
    (history : ServerIdentity → List Occurrence) : Prop where
  /-- A server has read the request of a delivery off the connection, of the bytes that were
  written. -/
  arrives : ∀ (index : Nat) contact number, contacts[index]? = some contact →
    delivery index = some number → ∀ occurrence ∈ history contact.server, ∀ request',
      occurrence.asks number request' → ∃ (i : PipeInstance) (reader : Pipe),
        reader.incoming.flatten <+: contact.written ∧
          (i.connected.receive reader).1 = some request'
  /-- No other client has a request with the correlation id. -/
  own : ∀ server number serial request', .executed number serial request' ∈ history server →
    request'.correlationId = request.correlationId → ∃ (index : Nat) (contact : Contact),
      contacts[index]? = some contact ∧ contact.server = server ∧ delivery index = some number
  /-- What comes back over a connection is what its delivery has sent, as far as it comes. -/
  answered : ∀ (index : Nat) contact, contacts[index]? = some contact → contact.incoming = [] ∨
    ∃ number response, delivery index = some number ∧
      .sent number response ∈ history contact.server ∧ contact.incoming <+: response.bytes
  /-- The record of the request is retained. -/
  retained : ∀ server, Retained request.correlationId (history server)

/-! ## What a call comes to -/

/-- A response is that of an execution of the request. -/
def OfExecution (request : Request) (response : Response) (history : List Occurrence) : Prop :=
  ∃ executor serial, .executed executor serial request ∈ history ∧
    .completed serial response ∈ history

/-- A response is a refusal of the delivery that a call has ended with, the other connections of
the call being given. The delivery executes nothing, and if it is told that the server is busy or
stops, no execution of the request has had its response then. -/
structure Refused (request : Request) (response : Response) (others : List Contact)
    (history : ServerIdentity → List Occurrence) (server : ServerIdentity) : Prop where
  refusal : ∃ number request' records earlier,
    (.refused number request' response records :: earlier) <:+ history server ∧
      request'.correlationId = request.correlationId ∧ Refusal request' response records ∧
      (∀ serial other, .executed number serial other ∉ history server) ∧
      (response.code = .busy ∨ response.code = .unavailable →
        ∀ executor serial other answer, .executed executor serial other ∈ earlier →
          other.correlationId = request.correlationId → .completed serial answer ∉ earlier)
  /-- If no other connection has had a byte of the request, the request is never executed. -/
  alone : (∀ contact ∈ others, contact.written = []) →
    ∀ server, executions request.correlationId (history server) = []

/-- What a call of the client comes to. -/
structure AtMostOnce (request : Request) (call : Call)
    (history : ServerIdentity → List Occurrence) : Prop where
  /-- The request is executed once at most, by one server. -/
  once : ∀ server, (executions request.correlationId (history server)).length ≤ 1
  oneServer : ∀ server server', executions request.correlationId (history server) ≠ [] →
    executions request.correlationId (history server') ≠ [] → server = server'
  /-- A response is that of the execution, or a refusal of the delivery that got it. -/
  complete : call.result = .complete → ∃ others contact, call.contacts = others ++ [contact] ∧
    (OfExecution request call.response (history contact.server) ∨
      Refused request call.response others history contact.server)
  /-- If no server was available, none has had a byte of the request. -/
  unavailable : call.result = .unavailable → ∀ contact ∈ call.contacts, contact.written = []
  /-- All bytes of the request have gone to one server. -/
  written : ∀ contact ∈ call.contacts, ∀ contact' ∈ call.contacts, contact.written ≠ [] →
    contact'.written ≠ [] → contact.server = contact'.server

section
variable {o : CacheOptions} {request request' : Request} {contacts : List Contact}
  {delivery : Nat → Option Nat} {servers : ServerIdentity → ServerRun} {contact : Contact}
  {history : ServerIdentity → List Occurrence} {server : ServerIdentity}
  {number serial index : Nat}

theorem bytes_ne_nil (request : Request) : request.bytes ≠ [] := by
  refine List.ne_nil_of_length_pos ?_
  rw [Request.bytes, List.length_append, Layout.length_encode, RequestHeader.layout_width]
  exact Nat.add_pos_left (by decide) _

/-- Of two requests whose bytes start alike, neither is longer. -/
theorem eq_of_bytes_le (h : isRequestValid request) (h' : isRequestValid request')
    (hpart : request'.bytes <+: request.bytes) : request' = request := by
  obtain ⟨rest, hrest⟩ := hpart
  let pipe : Pipe := { incoming := [request.bytes], readFailure := .closed }
  have hproper : Proper pipe.incoming := by
    intro fragment hmem
    obtain rfl := List.mem_singleton.1 hmem
    exact bytes_ne_nil request
  have hflatten : pipe.incoming.flatten = request.bytes := List.append_nil _
  obtain ⟨pipe', hread, -⟩ :=
    readRequest_bytes h hproper (hflatten.trans (List.append_nil _).symm) {}
  obtain ⟨pipe'', hread', -⟩ := readRequest_bytes h' hproper (hflatten.trans hrest.symm) {}
  exact congrArg (fun result => result.2.2) (hread'.symm.trans hread)

/-- What a server reads off a connection of the call is the request of the call, all of whose bytes
were written. -/
theorem eq_of_receive (hvalid : isRequestValid request) {i : PipeInstance} {reader : Pipe}
    (hwritten : contact.written <+: request.bytes)
    (hpart : reader.incoming.flatten <+: contact.written)
    (hreceived : (i.connected.receive reader).1 = some request') :
    request' = request ∧ contact.written ≠ [] := by
  rw [PipeInstance.receive_connected i {}] at hreceived
  dsimp only at hreceived
  split at hreceived
  · next hsuccess =>
    obtain rfl := Option.some.inj hreceived
    rcases hread : readRequest {} reader with ⟨status, reader', request'⟩
    rw [hread] at hsuccess
    cases (show status = .success from hsuccess)
    obtain ⟨hvalid', hbytes⟩ := readRequest_accepts hread
    have hwhole : request'.bytes <+: contact.written :=
      List.IsPrefix.trans ⟨reader'.incoming.flatten, hbytes.symm⟩ hpart
    refine ⟨eq_of_bytes_le hvalid hvalid' (hwhole.trans hwritten), fun hnil => ?_⟩
    rw [hnil] at hwhole
    exact bytes_ne_nil request' (List.eq_nil_of_prefix_nil hwhole)
  · cases hreceived

/-- An execution of the request of a call is for a connection of the call that has written it. -/
theorem Carried.of_executed (h : Carried request contacts delivery history)
    (hvalid : isRequestValid request)
    (hwritten : ∀ contact ∈ contacts, contact.written <+: request.bytes)
    (hexecuted : .executed number serial request' ∈ history server)
    (hid : request'.correlationId = request.correlationId) :
    ∃ (index : Nat) (contact : Contact), contacts[index]? = some contact ∧
      contact.server = server ∧ delivery index = some number ∧ request' = request ∧
        contact.written ≠ [] := by
  obtain ⟨index, contact, hcontact, rfl, hnumber⟩ :=
    h.own server number serial request' hexecuted hid
  obtain ⟨i, reader, hpart, hreceived⟩ :=
    h.arrives index contact number hcontact hnumber _ hexecuted request' ⟨rfl, rfl⟩
  obtain ⟨rfl, hsome⟩ := eq_of_receive hvalid (hwritten contact (List.mem_of_getElem? hcontact))
    hpart hreceived
  exact ⟨index, contact, hcontact, rfl, hnumber, rfl, hsome⟩

/-- A response that a call has read was sent to its last connection. -/
theorem Carried.of_reads {others : List Contact} {response : Response}
    (h : Carried request (others ++ [contact]) delivery history)
    (hreads : contact.Reads request response) : ∃ number,
      delivery others.length = some number ∧ .sent number response ∈ history contact.server := by
  obtain ⟨-, old, pipe, pipe', hread, hincoming⟩ := hreads
  have hlast : (others ++ [contact])[others.length]? = some contact := by simp
  obtain hnil | ⟨number, sent, hnumber, hsent, hpart⟩ := h.answered others.length contact hlast
  · -- what is read off nothing would be any response
    have hany (answer : Response) : response = answer :=
      readResponse_accepts hread (by rw [hincoming, hnil]; exact List.nil_prefix)
    exact absurd ((hany {}).symm.trans (hany { code := .busy })) (by decide)
  · rw [← hincoming] at hpart
    obtain rfl := readResponse_accepts hread hpart
    exact ⟨number, hnumber, hsent⟩

/-- What a call is told that has read a response. -/
theorem complete_of_reads (hvalid : isRequestValid request)
    (hruns : ∀ server, (controlServer o).Run {} (servers server)) {others : List Contact}
    {response : Response}
    (hcarried : Carried request (others ++ [contact]) delivery (told o servers))
    (hwritten : ∀ contact' ∈ others ++ [contact], contact'.written <+: request.bytes)
    (hreads : contact.Reads request response) :
    OfExecution request response (told o servers contact.server) ∨
      Refused request response others (told o servers) contact.server := by
  have hlast : (others ++ [contact])[others.length]? = some contact := by simp
  have honce : Throughout (Once o) (told o servers contact.server) :=
    (requests_once o (hruns contact.server)).once
  obtain ⟨number, hnumber, hsent⟩ := hcarried.of_reads hreads
  obtain ⟨earlier, hearlier⟩ := exists_suffix_of_mem hsent
  have hbefore {occurrence : Occurrence} (hmem : occurrence ∈ earlier) :
      occurrence ∈ told o servers contact.server :=
    hearlier.subset (List.mem_cons_of_mem _ hmem)
  obtain ⟨serial, request', hserved⟩ | ⟨request', records, hrefused⟩ := honce.at hearlier
  · left
    obtain ⟨i, reader, hpart, hreceived⟩ := hcarried.arrives others.length contact number hlast
      hnumber _ (hbefore hserved) request' ⟨rfl, rfl⟩
    obtain ⟨rfl, -⟩ := eq_of_receive hvalid (hwritten contact (List.mem_of_getElem? hlast)) hpart
      hreceived
    obtain ⟨before, hsuffix⟩ := exists_suffix_of_mem (hbefore hserved)
    obtain ⟨hcompleted, executor, request'', hexecuted, hid, -⟩ := honce.at hsuffix
    have hsub := fun {occurrence : Occurrence} (hmem : occurrence ∈ before) =>
      hsuffix.subset (List.mem_cons_of_mem _ hmem)
    obtain ⟨-, -, -, -, -, rfl, -⟩ := hcarried.of_executed hvalid hwritten (hsub hexecuted) hid
    exact ⟨executor, serial, hsub hexecuted, hsub hcompleted⟩
  · right
    obtain ⟨before, hsuffix⟩ := exists_suffix_of_mem (hbefore hrefused)
    obtain ⟨-, hrefusal⟩ := honce.at hsuffix
    have hid : request'.correlationId = request.correlationId :=
      hrefusal.correlationId.symm.trans hreads.1
    have hnothing (serial : Nat) (other : Request) :
        .executed number serial other ∉ told o servers contact.server :=
      not_executed_of_refused honce (hbefore hrefused)
    refine ⟨⟨number, request', records, before, hsuffix, hid, hrefusal, hnothing, ?_⟩, ?_⟩
    · intro hcode executor serial other answer hexecuted hother hcompleted
      have hunanswered := (refusals_unanswered o (hruns contact.server)).at hsuffix hcode
      refine hunanswered ⟨executor, serial, other, answer, hexecuted, hother.trans hid.symm,
        hcompleted, ?_⟩
      exact (hcarried.retained contact.server).mono
        (fun _ hmem => hsuffix.subset (List.mem_cons_of_mem _ hmem)) executor serial other hexecuted
        hother
    · intro hsilent server
      refine List.eq_nil_iff_forall_not_mem.2 fun occurrence hmem => ?_
      obtain ⟨hexecuted, executor, serial, other, rfl, hother⟩ := mem_executions.1 hmem
      obtain ⟨index, contact', hcontact, rfl, hexecutor, -, hsome⟩ :=
        hcarried.of_executed hvalid hwritten hexecuted hother
      by_cases hindex : index < others.length
      · rw [List.getElem?_append_left hindex] at hcontact
        exact hsome (hsilent contact' (List.mem_of_getElem? hcontact))
      · obtain ⟨hbound, -⟩ := List.getElem?_eq_some_iff.1 hcontact
        rw [List.length_append, List.length_singleton] at hbound
        obtain rfl : index = others.length := by omega
        obtain rfl := Option.some.inj (hlast.symm.trans hcontact)
        obtain rfl := Option.some.inj (hnumber.symm.trans hexecutor)
        exact hnothing serial other hexecuted

/-- Over whatever pipes, and whatever the servers do, a call of the client comes to one execution at
most, and says so truly. -/
theorem sendRequest_once (o : CacheOptions) (s : Surroundings) (request : Request)
    (response : Response) (servers : ServerIdentity → ServerRun) (delivery : Nat → Option Nat)
    (hruns : ∀ server, (controlServer o).Run {} (servers server))
    (hcarried : Carried request (sendRequest s request response).contacts delivery
      (told o servers)) :
    AtMostOnce request (sendRequest s request response) (told o servers) := by
  have hsound := sendRequest_sound s request response
  have hunavailable := hsound.unavailable
  by_cases hvalid : isRequestValid request
  · have hexecutions {server : ServerIdentity} {occurrence : Occurrence}
        (hmem : occurrence ∈ executions request.correlationId (told o servers server)) :
        ∃ contact ∈ (sendRequest s request response).contacts, contact.server = server := by
      obtain ⟨hexecuted, executor, serial, other, rfl, hid⟩ := mem_executions.1 hmem
      obtain ⟨index, contact, hcontact, hserver, -⟩ :=
        hcarried.of_executed hvalid hsound.written hexecuted hid
      exact ⟨contact, List.mem_of_getElem? hcontact, hserver⟩
    exact {
      once := fun server => executions_length_le (requests_once o (hruns server)).once
        (hcarried.retained server)
      oneServer := fun server server' hsome hsome' => by
        obtain ⟨occurrence, hmem⟩ := List.exists_mem_of_ne_nil _ hsome
        obtain ⟨occurrence', hmem'⟩ := List.exists_mem_of_ne_nil _ hsome'
        obtain ⟨contact, hcontact, rfl⟩ := hexecutions hmem
        obtain ⟨contact', hcontact', rfl⟩ := hexecutions hmem'
        exact hsound.oneServer contact hcontact contact' hcontact'
      complete := fun hcomplete => by
        obtain ⟨others, contact, hcontacts, hreads⟩ := hsound.complete hcomplete
        have hwritten := hsound.written
        rw [hcontacts] at hcarried hwritten
        exact ⟨others, contact, hcontacts,
          complete_of_reads hvalid hruns hcarried hwritten hreads⟩
      unavailable := fun hresult contact hmem => by
        rw [hunavailable hresult] at hmem
        exact absurd hmem List.not_mem_nil
      written := fun contact hmem contact' hmem' _ _ =>
        hsound.oneServer contact hmem contact' hmem' }
  · have hcall : sendRequest s request response = ⟨.invalidRequest, response, []⟩ := by
      rw [sendRequest, if_pos (by simpa using hvalid)]
    rw [hcall] at hcarried ⊢
    have hnone (server : ServerIdentity) :
        executions request.correlationId (told o servers server) = [] := by
      refine List.eq_nil_iff_forall_not_mem.2 fun occurrence hmem => ?_
      obtain ⟨hexecuted, executor, serial, other, rfl, hid⟩ := mem_executions.1 hmem
      obtain ⟨index, contact, hcontact, -⟩ :=
        hcarried.own server executor serial other hexecuted hid
      cases hcontact
    exact {
      once := fun server => by
        rw [hnone server]
        exact Nat.zero_le 1
      oneServer := fun server _ hsome => absurd (hnone server) hsome
      complete := fun hresult => by cases hresult
      unavailable := fun hresult => by cases hresult
      written := fun _ hmem => absurd hmem List.not_mem_nil }

end

/-! ## Calls over one connection or two -/

/-- A server that reads all bytes of a valid request reads the request. -/
theorem exists_receive {request : Request} (hvalid : isRequestValid request) :
    ∃ (i : PipeInstance) (reader : Pipe), reader.incoming.flatten <+: request.bytes ∧
      (i.connected.receive reader).1 = some request := by
  let reader : Pipe := { incoming := [request.bytes], readFailure := .closed }
  have hproper : Proper reader.incoming := by
    intro fragment hmem
    obtain rfl := List.mem_singleton.1 hmem
    exact bytes_ne_nil request
  have hflatten : reader.incoming.flatten = request.bytes := List.append_nil _
  obtain ⟨reader', hread, -⟩ :=
    readRequest_bytes hvalid hproper (hflatten.trans (List.append_nil _).symm) {}
  refine ⟨{}, reader, hflatten ▸ List.prefix_rfl, ?_⟩
  rw [PipeInstance.receive_connected {} {}, hread]
  rfl

def exampleServer : ServerIdentity := ⟨1, 1⟩

/-- One server has run so, and no other. -/
def runBy (es : ServerRun) (server : ServerIdentity) : ServerRun :=
  if server = exampleServer then es else []

/-- A pipe with room for a request, over which some bytes come back. -/
def roomyPipe (incoming : List (List UInt8)) : Pipe where
  incoming := incoming
  readFailure := .closed
  capacities := List.replicate 40 1

/-- Every instance is that of the server. -/
def openedRounds (incoming : List (List UInt8)) : Rounds :=
  .last (fun _ => .opened exampleServer true true (roomyPipe incoming)) .deadlinePassed

/-- A call whose first attempt gets some bytes back, and whose replays get others. -/
def openedSurroundings (first replayed : List (List UInt8)) : Surroundings where
  pipeNamed := true
  first := openedRounds first
  launches := false
  launched := openedRounds first
  replay _ := ⟨true, openedRounds replayed⟩

theorem roomyPipe_roomy (incoming : List (List UInt8)) :
    (roomyPipe incoming).Roomy exampleRequest.bytes.length :=
  ⟨fun capacity hmem => by rw [List.eq_of_mem_replicate hmem]; exact Nat.one_pos, Nat.le_of_eq rfl⟩

theorem told_runBy {es : ServerRun} {server : ServerIdentity} (hserver : server ≠ exampleServer) :
    told defaultCacheOptions (runBy es) server = [] := by
  rw [told, runBy, if_neg hserver]
  rfl

/-- Its runs are those of one server. -/
theorem runBy_runs {es : ServerRun} (hrun : (controlServer defaultCacheOptions).Run {} es)
    (server : ServerIdentity) : (controlServer defaultCacheOptions).Run {} (runBy es server) := by
  rw [runBy]
  split
  · exact hrun
  · exact trivial

/-- The connections to one server that have written the request carry it, if the server tells of the
request only, and retains its record. -/
theorem carried_of_told {es : ServerRun} {contacts : List Contact}
    (hcontacts : ∀ contact ∈ contacts,
      contact.server = exampleServer ∧ contact.written = exampleRequest.bytes)
    (hasks : ∀ occurrence ∈ told defaultCacheOptions (runBy es) exampleServer,
      ∀ number request, occurrence.asks number request →
        request = exampleRequest ∧ number < contacts.length)
    (hanswered : ∀ (index : Nat) contact, contacts[index]? = some contact →
      contact.incoming = [] ∨ ∃ response,
        .sent index response ∈ told defaultCacheOptions (runBy es) exampleServer ∧
          contact.incoming = response.bytes)
    (hretained : ∀ r pending cause,
      .removed r pending cause ∉ told defaultCacheOptions (runBy es) exampleServer) :
    Carried exampleRequest contacts some (told defaultCacheOptions (runBy es)) where
  arrives index contact number hcontact _ occurrence hmem request hrequest := by
    obtain ⟨hserver, hwritten⟩ := hcontacts contact (List.mem_of_getElem? hcontact)
    rw [hserver] at hmem
    obtain ⟨rfl, -⟩ := hasks occurrence hmem number request hrequest
    rw [hwritten]
    exact exists_receive (by decide)
  own server number serial request hexecuted _ := by
    by_cases hserver : server = exampleServer
    · subst hserver
      obtain ⟨-, hnumber⟩ := hasks _ hexecuted number request ⟨rfl, rfl⟩
      have hcontact := List.getElem?_eq_getElem hnumber
      exact ⟨number, _, hcontact, (hcontacts _ (List.mem_of_getElem? hcontact)).1, rfl⟩
    · rw [told_runBy hserver] at hexecuted
      exact absurd hexecuted List.not_mem_nil
  answered index contact hcontact := by
    obtain ⟨hserver, -⟩ := hcontacts contact (List.mem_of_getElem? hcontact)
    obtain hnil | ⟨response, hsent, hincoming⟩ := hanswered index contact hcontact
    · exact .inl hnil
    · exact .inr ⟨index, response, rfl, hserver ▸ hsent, hincoming ▸ List.prefix_rfl⟩
  retained server _ _ _ hexecuted _ r pending cause hgone := by
    by_cases hserver : server = exampleServer
    · subst hserver
      exact absurd hgone (hretained r pending cause)
    · rw [told_runBy hserver] at hexecuted
      exact absurd hexecuted List.not_mem_nil

def exampleResponse : Response := ⟨.success, [], ⟨0, 1⟩⟩

theorem told_servedRun : told defaultCacheOptions (runBy servedRun) exampleServer =
    [.sent 0 exampleResponse, .served 0 0 exampleRequest exampleResponse,
      .completed 0 exampleResponse, .executed 0 0 exampleRequest] := rfl

/-- A call whose first attempt is answered. -/
theorem sendRequest_answered : ∃ left,
    sendRequest (openedSurroundings [exampleResponse.bytes] []) exampleRequest {} =
      ⟨.complete, exampleResponse,
        [⟨exampleServer, exampleRequest.bytes, exampleResponse.bytes, left⟩]⟩ := by
  have hproper : Proper (roomyPipe [exampleResponse.bytes]).incoming := by
    intro fragment hmem
    obtain rfl := List.mem_singleton.1 hmem
    exact List.ne_nil_of_length_pos (by decide)
  obtain ⟨left, hexchange⟩ : ∃ left, exchange exampleRequest {} exampleServer true
      (roomyPipe [exampleResponse.bytes]) = ⟨.complete, some exampleServer, exampleResponse,
        some ⟨exampleServer, exampleRequest.bytes, exampleResponse.bytes, left⟩⟩ :=
    exchange_answered (by decide) (roomyPipe_roomy _) rfl rfl hproper (List.append_nil _)
  refine ⟨left, ?_⟩
  have hattempt : trySendOnce true exampleRequest none {} (openedRounds [exampleResponse.bytes]) =
      _ := (trySendOnce_opened _ _ _ _ _ fun _ h => by cases h).trans hexchange
  have hvalid : isRequestValid exampleRequest = true := by decide
  simp only [sendRequest, hvalid, Bool.not_true, Bool.false_eq_true, if_false, openedSurroundings,
    hattempt, Option.toList_some]

/-- The server executes the request, and the client reads its response. -/
theorem sendRequest_once_served :
    AtMostOnce exampleRequest
      (sendRequest (openedSurroundings [exampleResponse.bytes] []) exampleRequest {})
      (told defaultCacheOptions (runBy servedRun)) := by
  refine sendRequest_once defaultCacheOptions _ _ _ _ some (runBy_runs servedRun_runs) ?_
  obtain ⟨left, hcall⟩ := sendRequest_answered
  rw [hcall]
  refine carried_of_told ?_ ?_ ?_ ?_
  · intro contact hmem
    obtain rfl := List.mem_singleton.1 hmem
    exact ⟨rfl, rfl⟩
  · rw [told_servedRun]
    simp [Occurrence.asks]
  · rw [told_servedRun]
    intro index contact hcontact
    obtain ⟨hindex, rfl⟩ := List.getElem?_eq_some_iff.1 hcontact
    obtain rfl : index = 0 := Nat.lt_one_iff.1 hindex
    exact .inr ⟨exampleResponse, .head _, rfl⟩
  · rw [told_servedRun]
    simp

/-! ## A refusal while the request is executed -/

/-- What a response would be, if a call were told a refusal only when its request is never
executed. -/
def OnlyUnexecuted (request : Request) (call : Call)
    (history : ServerIdentity → List Occurrence) : Prop :=
  call.result = .complete → ∃ others contact, call.contacts = others ++ [contact] ∧
    (OfExecution request call.response (history contact.server) ∨
      (call.response.code = .busy ∨ call.response.code = .unavailable ∨
        call.response.code = .invalidRequest) ∧
          ∀ server, executions request.correlationId (history server) = [])

/-- The record of a request that is executed. -/
def openRecord : RequestRecord where
  serial := 0
  request := exampleRequest
  bytes := reservedBytes exampleRequest

/-- The handler executes the request of a client, whose connection is cut off; the client sends the
request again, and waits for the record until its deadline. -/
def busyRun : ServerRun :=
  [.start [true, true], .connected 0 true true true 0,
    .transferred 0 (.transferred 40 exampleRequest.bytes) true true 0, .enter 0 true,
    .ask 0 true false true [] 0, .connected 1 true true true 0,
    .transferred 1 (.transferred 40 exampleRequest.bytes) true true 0, .enter 1 true,
    .ask 1 true false true [openRecord] 0, .wake 1 true, .settle 1, .handOver 1 true true true 0]

def busyResponse : Response := ⟨.busy, [], ⟨0, 1⟩⟩

theorem busyRun_runs : (controlServer defaultCacheOptions).Run {} busyRun :=
  ⟨⟨rfl, rfl, rfl⟩, ⟨_, rfl, rfl, Nat.le_refl _⟩, ⟨_, rfl, rfl, Nat.le_refl _⟩, ⟨_, rfl, rfl⟩,
    ⟨_, _, _, rfl, rfl, rfl, Nat.le_refl _, .refl _⟩, ⟨_, rfl, rfl, Nat.le_refl _⟩,
    ⟨_, rfl, rfl, Nat.le_refl _⟩, ⟨_, rfl, rfl⟩,
    ⟨_, _, _, rfl, rfl, rfl, Nat.le_refl _, .refl _⟩, ⟨_, _, _, rfl, rfl, rfl⟩,
    ⟨_, _, rfl, rfl, rfl, .inr ⟨_, _, rfl⟩⟩,
    ⟨_, _, rfl, rfl, rfl, Nat.le_refl _, .inr ⟨_, _, rfl⟩⟩, trivial⟩

theorem told_busyRun : told defaultCacheOptions (runBy busyRun) exampleServer =
    [.sent 1 busyResponse, .refused 1 exampleRequest busyResponse [openRecord],
      .executed 0 0 exampleRequest] := rfl

/-- A call whose first attempt is cut off, and whose replay is told that the server is busy. -/
theorem sendRequest_replayed : ∃ cut left,
    sendRequest (openedSurroundings [] [busyResponse.bytes]) exampleRequest {} =
      ⟨.complete, busyResponse, [⟨exampleServer, exampleRequest.bytes, [], cut⟩,
        ⟨exampleServer, exampleRequest.bytes, busyResponse.bytes, left⟩]⟩ := by
  have hproper : Proper (roomyPipe [busyResponse.bytes]).incoming := by
    intro fragment hmem
    obtain rfl := List.mem_singleton.1 hmem
    exact List.ne_nil_of_length_pos (by decide)
  obtain ⟨cut, hclosed⟩ : ∃ cut, exchange exampleRequest {} exampleServer true (roomyPipe []) =
      ⟨.indeterminate, some exampleServer, {},
        some ⟨exampleServer, exampleRequest.bytes, [], cut⟩⟩ :=
    exchange_closed (by decide) (roomyPipe_roomy _) rfl
  obtain ⟨left, hanswered⟩ : ∃ left, exchange exampleRequest {} exampleServer true
      (roomyPipe [busyResponse.bytes]) = ⟨.complete, some exampleServer, busyResponse,
        some ⟨exampleServer, exampleRequest.bytes, busyResponse.bytes, left⟩⟩ :=
    exchange_answered (by decide) (roomyPipe_roomy _) rfl rfl hproper (List.append_nil _)
  refine ⟨cut, left, ?_⟩
  have hfirst : trySendOnce true exampleRequest none {} (openedRounds []) = _ :=
    (trySendOnce_opened _ _ _ _ _ fun _ h => by cases h).trans hclosed
  have hreplay : trySendOnce true exampleRequest (some exampleServer) {}
      (openedRounds [busyResponse.bytes]) = _ :=
    (trySendOnce_opened _ _ _ _ _ fun _ h => (Option.some.inj h).symm).trans hanswered
  have hvalid : isRequestValid exampleRequest = true := by decide
  have hrange : List.range maxReplayAttempts = [0, 1] := rfl
  simp only [sendRequest, hvalid, Bool.not_true, Bool.false_eq_true, if_false, openedSurroundings,
    hfirst, replayIndeterminate, hrange, List.map_cons, replayWith, hreplay, Option.toList_some,
    List.singleton_append]

/-- A client is told that the server is busy, while the server executes its request. -/
theorem not_onlyUnexecuted : ¬ ∀ (o : CacheOptions) (s : Surroundings) (request : Request)
    (response : Response) (servers : ServerIdentity → ServerRun) (delivery : Nat → Option Nat),
    (∀ server, (controlServer o).Run {} (servers server)) →
      Carried request (sendRequest s request response).contacts delivery (told o servers) →
        OnlyUnexecuted request (sendRequest s request response) (told o servers) := by
  intro h
  obtain ⟨cut, left, hcall⟩ := sendRequest_replayed
  have hcarried : Carried exampleRequest
      [⟨exampleServer, exampleRequest.bytes, [], cut⟩,
        ⟨exampleServer, exampleRequest.bytes, busyResponse.bytes, left⟩] some
      (told defaultCacheOptions (runBy busyRun)) := by
    refine carried_of_told ?_ ?_ ?_ ?_
    · intro contact hmem
      obtain rfl | hmem := List.mem_cons.1 hmem
      · exact ⟨rfl, rfl⟩
      · obtain rfl := List.mem_singleton.1 hmem
        exact ⟨rfl, rfl⟩
    · rw [told_busyRun]
      simp [Occurrence.asks]
    · rw [told_busyRun]
      intro index contact hcontact
      obtain ⟨hindex, rfl⟩ := List.getElem?_eq_some_iff.1 hcontact
      match index, hindex with
      | 0, _ => exact .inl rfl
      | 1, _ => exact .inr ⟨busyResponse, .head _, rfl⟩
    · rw [told_busyRun]
      simp
  have hclaimed := h defaultCacheOptions (openedSurroundings [] [busyResponse.bytes]) exampleRequest
    {} (runBy busyRun) some (runBy_runs busyRun_runs) (by rw [hcall]; exact hcarried)
  rw [hcall] at hclaimed
  obtain ⟨others, contact, hcontacts, hresponse⟩ := hclaimed rfl
  have hlast : contact.server = exampleServer := by
    have hmem : contact ∈ others ++ [contact] :=
      List.mem_append_right _ (List.mem_singleton_self _)
    rw [← hcontacts] at hmem
    obtain rfl | hmem := List.mem_cons.1 hmem
    · rfl
    · rw [List.mem_singleton.1 hmem]
  obtain ⟨executor, serial, -, hcompleted⟩ | ⟨-, hnone⟩ := hresponse
  · rw [hlast, told_busyRun] at hcompleted
    simp at hcompleted
  · have hexecutions := hnone exampleServer
    rw [told_busyRun] at hexecutions
    exact absurd hexecutions (by decide)

end PlaybackConnector.Control
