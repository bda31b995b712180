import PlaybackConnector.Control.CommandPipeIo

/-!
# The command-line client

A call of the client sends one request (`sendRequest`). It makes a few attempts, each of which goes
over the instances of the pipe in rounds until one of them leads to a server (`trySendOnce`). When
an attempt ends without a response after the request may have been written, the call goes on with
the same server only.

What the system does during a call is a parameter of it (`Surroundings`): what the instances are
found to be in each round, what the pipes carry, and which deadlines have passed when they are
looked at. The connections over which the call has exchanged something are part of its result.
-/

namespace PlaybackConnector.Control

open Wire

/-! ## Attempts -/

/-- How an attempt ended. Source: `AttemptResult` (`CommandClient.hpp:12`). -/
inductive AttemptResult where
  | notConnected | rejected | serverChanged | indeterminate | complete
  deriving DecidableEq, Repr

/-- How a call ended. Source: `SendResult` (`CommandClient.hpp:13`). -/
inductive SendResult where
  | invalidRequest | unavailable | indeterminate | complete
  deriving DecidableEq, Repr

/-- The process of a server that is trusted. While its handle is held, its number is not given to
another process. Source: `Win32ServerIdentity` (`Win32CommandTransport.cpp:23`). -/
structure ServerIdentity where
  /-- Source: `ProcessId`. -/
  processId : UInt32
  /-- Source: `CreationTime`. -/
  creationTime : UInt64
  deriving DecidableEq, Repr

/-- Source: `IsSameLiveServer` (`Win32CommandTransport.cpp:77`). -/
def isSameLiveServer (expected observed : ServerIdentity) (alive : Bool) : Bool :=
  expected.processId == observed.processId && expected.creationTime == observed.creationTime &&
    alive

/-- What an instance of the pipe is found to be. Source: `Win32CommandTransport.cpp:126`. -/
inductive Endpoint where
  /-- It is busy, or there is none. -/
  | absent
  /-- It cannot be opened for another reason. -/
  | failed
  /-- It is not the end of a server that is trusted and runs. Source: `CaptureServerIdentity`. -/
  | untrusted
  /-- It is the end of a server. The process that is expected, if one is, may still run, and there
  may be time left for an exchange over the pipe. -/
  | opened (server : ServerIdentity) (alive timeLeft : Bool) (pipe : Pipe)

/-- How the last round of an attempt ended. Source: `Win32CommandTransport.cpp:167`. -/
inductive RoundsEnd where
  | deadlinePassed | waitFailed | serverExited
  deriving DecidableEq, Repr

/-- What the instances are found to be in each round of an attempt. -/
inductive Rounds where
  | last (endpoint : Nat → Endpoint) (ending : RoundsEnd)
  | more (endpoint : Nat → Endpoint) (rest : Rounds)

/-- A connection over which something was exchanged. No code reads it. -/
structure Contact where
  server : ServerIdentity
  /-- The bytes of the request that were written. -/
  written : List UInt8
  /-- The bytes that came back. -/
  incoming : List UInt8
  /-- What the exchange left of the pipe. -/
  pipe : Pipe

/-- What an attempt comes to. -/
structure Attempt where
  result : AttemptResult
  /-- Source: `observedServer`. -/
  observedServer : Option ServerIdentity
  /-- The caller's response. -/
  response : Response
  /-- No code reads it. -/
  contact : Option Contact

/-- The exchange with a server. Source: `Win32CommandTransport.cpp:147`. -/
def exchange (request : Request) (response : Response) (server : ServerIdentity) (timeLeft : Bool)
    (pipe : Pipe) : Attempt :=
  if !timeLeft then ⟨.notConnected, some server, response, none⟩
  else
    match writeRequest request { pipe with written := [] } with
    | (.success, sent) =>
      match readResponse response sent with
      | (.success, received, response) =>
        if response.correlationId ≠ request.correlationId then
          ⟨.indeterminate, some server, response,
            some ⟨server, sent.written, sent.incoming.flatten, received⟩⟩
        else
          let (_, acknowledged) := writeAcknowledgement request.correlationId received
          ⟨.complete, some server, response,
            some ⟨server, sent.written, sent.incoming.flatten, acknowledged⟩⟩
      | (_, received, response) =>
        ⟨.indeterminate, some server, response,
          some ⟨server, sent.written, sent.incoming.flatten, received⟩⟩
    | (_, sent) =>
      ⟨.indeterminate, some server, response,
        some ⟨server, sent.written, sent.incoming.flatten, sent⟩⟩

/-- What the rounds have come across so far. -/
structure Saw where
  /-- Source: `sawRejectedEndpoint`. -/
  rejectedEndpoint : Bool := false
  /-- Source: `sawDifferentServer`. -/
  differentServer : Bool := false

/-- Source: `c_pipeInstanceCount` (`CommandPipeIo.hpp:19`). -/
def pipeInstanceCount : Nat := 4

/-- The instances, in the order in which a round goes over them. Source:
`Win32CommandTransport.cpp:123`. -/
def instancesFor (request : Request) : List Nat :=
  let firstInstance := request.correlationId.low.toNat % pipeInstanceCount
  (List.range pipeInstanceCount).map fun offset => (firstInstance + offset) % pipeInstanceCount

/-- A round over some instances: the attempt ends at one that leads to a server, or the round has
come across others only. Source: `Win32CommandTransport.cpp:123`. -/
def tryInstances (request : Request) (expected : Option ServerIdentity) (response : Response)
    (endpoint : Nat → Endpoint) : List Nat → Saw → Attempt ⊕ Saw
  | [], saw => .inr saw
  | index :: rest, saw =>
    match endpoint index with
    | .absent => tryInstances request expected response endpoint rest saw
    | .failed | .untrusted =>
      tryInstances request expected response endpoint rest { saw with rejectedEndpoint := true }
    | .opened server alive timeLeft pipe =>
      if expected.any fun expected => !isSameLiveServer expected server alive then
        tryInstances request expected response endpoint rest { saw with differentServer := true }
      else .inl (exchange request response server timeLeft pipe)

/-- The result of an attempt whose rounds have led to no server. Source:
`Win32CommandTransport.cpp:167`. -/
def RoundsEnd.result (saw : Saw) : RoundsEnd → AttemptResult
  | deadlinePassed =>
    if saw.differentServer then .serverChanged
    else if saw.rejectedEndpoint then .rejected
    else .notConnected
  | waitFailed => .rejected
  | serverExited => .serverChanged

/-- The rounds of an attempt from one on. Source: `Win32CommandTransport.cpp:122`. -/
def tryRounds (request : Request) (expected : Option ServerIdentity) (response : Response) :
    Rounds → Saw → Attempt
  | .last endpoint ending, saw =>
    match tryInstances request expected response endpoint (instancesFor request) saw with
    | .inl attempt => attempt
    | .inr saw => ⟨ending.result saw, none, response, none⟩
  | .more endpoint rest, saw =>
    match tryInstances request expected response endpoint (instancesFor request) saw with
    | .inl attempt => attempt
    | .inr saw => tryRounds request expected response rest saw

/-- One attempt. Source: `Win32CommandTransport::TrySendOnce` (`Win32CommandTransport.cpp:106`). -/
def trySendOnce (pipeNamed : Bool) (request : Request) (expected : Option ServerIdentity)
    (response : Response) (rounds : Rounds) : Attempt :=
  if !pipeNamed then ⟨.notConnected, none, response, none⟩
  else tryRounds request expected response rounds {}

/-! ## Calls -/

/-- What a replay finds. -/
structure Replay where
  /-- There is time left for it. -/
  timeLeft : Bool
  rounds : Rounds

/-- What the system does during a call. -/
structure Surroundings where
  /-- Source: `m_pipeName`. -/
  pipeNamed : Bool
  /-- What the first attempt finds. -/
  first : Rounds
  /-- There is time left for the packaged application to be launched, and it is. Source:
  `CommandClient.cpp:45`. -/
  launches : Bool
  /-- What the attempt after the launch finds. -/
  launched : Rounds
  /-- What each replay finds. -/
  replay : Nat → Replay

/-- What a call comes to. -/
structure Call where
  result : SendResult
  /-- The caller's response. -/
  response : Response
  /-- The connections of the call, in their order. No code reads it. -/
  contacts : List Contact

/-- Source: `c_maxReplayAttempts` (`CommandClient.cpp:14`). -/
def maxReplayAttempts : Nat := 2

/-- Some replays. Source: the loop at `CommandClient.cpp:15`. -/
def replayWith (pipeNamed : Bool) (request : Request) (server : ServerIdentity) :
    List Replay → Response → Call
  | [], response => ⟨.indeterminate, response, []⟩
  | replay :: rest, response =>
    if !replay.timeLeft then ⟨.indeterminate, response, []⟩
    else
      let attempt := trySendOnce pipeNamed request (some server) response replay.rounds
      match attempt.result with
      | .complete => ⟨.complete, attempt.response, attempt.contact.toList⟩
      | .serverChanged | .rejected => ⟨.indeterminate, attempt.response, attempt.contact.toList⟩
      | .notConnected | .indeterminate =>
        let call := replayWith pipeNamed request server rest attempt.response
        { call with contacts := attempt.contact.toList ++ call.contacts }

/-- What follows an attempt that is indeterminate. Source: `ReplayIndeterminate`
(`CommandClient.cpp:8`). -/
def replayIndeterminate (s : Surroundings) (request : Request) (attempt : Attempt) : Call :=
  match attempt.observedServer with
  | none => ⟨.indeterminate, attempt.response, attempt.contact.toList⟩
  | some server =>
    let call := replayWith s.pipeNamed request server
      ((List.range maxReplayAttempts).map s.replay) attempt.response
    { call with contacts := attempt.contact.toList ++ call.contacts }

/-- The attempt after the application was launched. Source: `CommandClient.cpp:50`. -/
def sendLaunched (s : Surroundings) (request : Request) (response : Response) : Call :=
  let attempt := trySendOnce s.pipeNamed request none response s.launched
  match attempt.result with
  | .complete => ⟨.complete, attempt.response, attempt.contact.toList⟩
  | .indeterminate => replayIndeterminate s request attempt
  | .serverChanged | .notConnected | .rejected =>
    ⟨.unavailable, attempt.response, attempt.contact.toList⟩

/-- A call. Source: `SendRequest` (`CommandClient.cpp:26`). -/
def sendRequest (s : Surroundings) (request : Request) (response : Response) : Call :=
  if !isRequestValid request then ⟨.invalidRequest, response, []⟩
  else
    let attempt := trySendOnce s.pipeNamed request none response s.first
    match attempt.result with
    | .complete => ⟨.complete, attempt.response, attempt.contact.toList⟩
    | .indeterminate => replayIndeterminate s request attempt
    | .serverChanged => ⟨.unavailable, attempt.response, attempt.contact.toList⟩
    | .notConnected | .rejected =>
      if request.command == .status || !s.launches then
        ⟨.unavailable, attempt.response, attempt.contact.toList⟩
      else
        let call := sendLaunched s request attempt.response
        { call with contacts := attempt.contact.toList ++ call.contacts }

/-! ## What an attempt does -/

variable {request : Request} {expected : Option ServerIdentity} {response : Response}
  {server : ServerIdentity} {endpoint : Nat → Endpoint} {attempt : Attempt}

/-- A response for the request was read off a connection. -/
def Contact.Reads (request : Request) (response : Response) (contact : Contact) : Prop :=
  response.correlationId = request.correlationId ∧
    ∃ old pipe pipe', readResponse old pipe = (.success, pipe', response) ∧
      pipe.incoming.flatten = contact.incoming

/-- What an attempt has done: it has written to the expected server only, and nothing unless it
says so. -/
structure Attempt.Sound (request : Request) (expected : Option ServerIdentity)
    (attempt : Attempt) : Prop where
  written : ∀ contact, attempt.contact = some contact →
    contact.written <+: request.bytes ∧ ∀ server, expected = some server → contact.server = server
  indeterminate : attempt.result = .indeterminate →
    ∃ contact, attempt.contact = some contact ∧ attempt.observedServer = some contact.server
  complete : attempt.result = .complete →
    ∃ contact, attempt.contact = some contact ∧ contact.Reads request attempt.response
  silent : attempt.result ≠ .indeterminate → attempt.result ≠ .complete → attempt.contact = none

/-- An attempt that comes to no exchange. -/
theorem Attempt.Sound.silence {result : AttemptResult} {observed : Option ServerIdentity}
    (hindeterminate : result ≠ .indeterminate) (hcomplete : result ≠ .complete) :
    Attempt.Sound request expected ⟨result, observed, response, none⟩ where
  written _ h := by cases h
  indeterminate h := absurd h hindeterminate
  complete h := absurd h hcomplete
  silent _ _ := rfl

/-- An exchange that may have written the request, and has no response. -/
theorem Attempt.Sound.unanswered {written incoming : List UInt8} {pipe : Pipe}
    (hwritten : written <+: request.bytes)
    (hserver : ∀ expected', expected = some expected' → server = expected') :
    Attempt.Sound request expected
      ⟨.indeterminate, some server, response, some ⟨server, written, incoming, pipe⟩⟩ where
  written _ h := by
    cases h
    exact ⟨hwritten, hserver⟩
  indeterminate _ := ⟨_, rfl, rfl⟩
  complete h := by cases h
  silent h := absurd rfl h

theorem exchange_sound (hvalid : isRequestValid request)
    (hserver : ∀ expected', expected = some expected' → server = expected') (timeLeft : Bool)
    (pipe : Pipe) : (exchange request response server timeLeft pipe).Sound request expected := by
  unfold exchange
  by_cases htime : timeLeft
  · rw [if_neg (by simp [htime])]
    obtain ⟨sent, hpart, hwritten, -⟩ := writeRequest_spec hvalid { pipe with written := [] }
    rcases hwrite : writeRequest request { pipe with written := [] } with ⟨status, pipe'⟩
    rw [hwrite, List.nil_append] at hwritten
    have hpart : pipe'.written <+: request.bytes := hwritten ▸ hpart
    cases status with
    | success =>
      dsimp only
      rcases hread : readResponse response pipe' with ⟨status, received, read⟩
      cases status with
      | success =>
        dsimp only
        split
        · exact .unanswered hpart hserver
        · next hid =>
          exact {
            written := fun _ h => by
              cases h
              exact ⟨hpart, hserver⟩
            indeterminate := fun h => by cases h
            complete := fun _ => ⟨_, rfl, not_not.1 hid, response, pipe', received, hread, rfl⟩
            silent := fun _ h => absurd rfl h }
      | timeout | cancelled | closed | invalidData | failed => exact .unanswered hpart hserver
    | timeout | cancelled | closed | invalidData | failed => exact .unanswered hpart hserver
  · rw [if_pos (by simp [htime])]
    exact .silence nofun nofun

/-- A server that is the same as the expected one is it. -/
theorem eq_of_isSameLiveServer {observed : ServerIdentity} {alive : Bool}
    (h : isSameLiveServer server observed alive) : observed = server := by
  simp only [isSameLiveServer, Bool.and_eq_true, beq_iff_eq] at h
  obtain ⟨⟨hprocess, hcreation⟩, -⟩ := h
  obtain ⟨processId, creationTime⟩ := observed
  cases hprocess
  cases hcreation
  rfl

theorem tryInstances_sound (hvalid : isRequestValid request) (indices : List Nat) (saw : Saw)
    (h : tryInstances request expected response endpoint indices saw = .inl attempt) :
    attempt.Sound request expected := by
  induction indices generalizing saw with
  | nil => cases h
  | cons index rest ih =>
    rw [tryInstances] at h
    split at h
    · exact ih _ h
    · exact ih _ h
    · exact ih _ h
    · next server alive timeLeft pipe hopened =>
      split at h
      · exact ih _ h
      · next hsame =>
        cases h
        refine exchange_sound hvalid (fun expected' hexpected => ?_) timeLeft pipe
        rw [hexpected] at hsame
        exact eq_of_isSameLiveServer (by simpa using hsame)

theorem roundsEnd_sound (ending : RoundsEnd) (saw : Saw) :
    Attempt.Sound request expected ⟨ending.result saw, none, response, none⟩ := by
  cases ending with
  | deadlinePassed =>
    rw [RoundsEnd.result]
    split_ifs
    · exact .silence nofun nofun
    · exact .silence nofun nofun
    · exact .silence nofun nofun
  | waitFailed => exact .silence nofun nofun
  | serverExited => exact .silence nofun nofun

theorem tryRounds_sound (hvalid : isRequestValid request) (rounds : Rounds) (saw : Saw) :
    (tryRounds request expected response rounds saw).Sound request expected := by
  induction rounds generalizing saw with
  | last endpoint ending =>
    rw [tryRounds]
    split
    · next attempt htried => exact tryInstances_sound hvalid _ _ htried
    · exact roundsEnd_sound ending _
  | more endpoint rest ih =>
    rw [tryRounds]
    split
    · next attempt htried => exact tryInstances_sound hvalid _ _ htried
    · exact ih _

/-- What one attempt does. -/
theorem trySendOnce_sound (hvalid : isRequestValid request) (pipeNamed : Bool)
    (expected : Option ServerIdentity) (response : Response) (rounds : Rounds) :
    (trySendOnce pipeNamed request expected response rounds).Sound request expected := by
  unfold trySendOnce
  split
  · exact .silence nofun nofun
  · exact tryRounds_sound hvalid rounds {}

/-! ## What a call does -/

/-- What a call has done: it has written to one server only, it has a response only if it read it
off its last connection, and it is unavailable only if it has written nothing. -/
structure Call.Sound (request : Request) (call : Call) : Prop where
  written : ∀ contact ∈ call.contacts, contact.written <+: request.bytes
  oneServer : ∀ contact ∈ call.contacts, ∀ contact' ∈ call.contacts,
    contact.server = contact'.server
  complete : call.result = .complete →
    ∃ earlier contact, call.contacts = earlier ++ [contact] ∧ contact.Reads request call.response
  unavailable : call.result = .unavailable → call.contacts = []

/-- A call that goes on with one server. -/
structure Call.SoundWith (request : Request) (server : ServerIdentity) (call : Call) : Prop where
  written : ∀ contact ∈ call.contacts, contact.written <+: request.bytes ∧ contact.server = server
  complete : call.result = .complete →
    ∃ earlier contact, call.contacts = earlier ++ [contact] ∧ contact.Reads request call.response
  available : call.result ≠ .unavailable

theorem Call.SoundWith.sound {call : Call} (h : call.SoundWith request server) :
    call.Sound request where
  written contact hmem := (h.written contact hmem).1
  oneServer contact hmem contact' hmem' :=
    (h.written contact hmem).2.trans (h.written contact' hmem').2.symm
  complete := h.complete
  unavailable hresult := absurd hresult h.available

/-- A connection to the server, and what a call does after it. -/
theorem Call.SoundWith.cons {call : Call} {contact : Contact} (h : call.SoundWith request server)
    (hwritten : contact.written <+: request.bytes) (hserver : contact.server = server) :
    Call.SoundWith request server { call with contacts := [contact] ++ call.contacts } where
  written other hmem := by
    obtain rfl | hmem := List.mem_cons.1 hmem
    · exact ⟨hwritten, hserver⟩
    · exact h.written other hmem
  complete hresult := by
    obtain ⟨earlier, last, hcontacts, hreads⟩ := h.complete hresult
    exact ⟨contact :: earlier, last, congrArg (contact :: ·) hcontacts, hreads⟩
  available := h.available

/-- A call that ends with an attempt that has read a response. -/
theorem Attempt.Sound.completes (h : attempt.Sound request (some server))
    (hresult : attempt.result = .complete) :
    Call.SoundWith request server ⟨.complete, attempt.response, attempt.contact.toList⟩ := by
  obtain ⟨contact, hcontact, hreads⟩ := h.complete hresult
  obtain ⟨hwritten, hserver⟩ := h.written contact hcontact
  rw [hcontact]
  exact {
    written := fun other hmem => by
      obtain rfl := List.mem_singleton.1 hmem
      exact ⟨hwritten, hserver server rfl⟩
    complete := fun _ => ⟨[], contact, rfl, hreads⟩
    available := nofun }

theorem Call.SoundWith.silence : Call.SoundWith request server ⟨.indeterminate, response, []⟩ where
  written _ h := absurd h List.not_mem_nil
  complete h := by cases h
  available := nofun

theorem replayWith_sound (hvalid : isRequestValid request) (pipeNamed : Bool)
    (server : ServerIdentity) (replays : List Replay) (response : Response) :
    (replayWith pipeNamed request server replays response).SoundWith request server := by
  induction replays generalizing response with
  | nil => exact .silence
  | cons replay rest ih =>
    rw [replayWith]
    split
    · exact .silence
    · have hsound := trySendOnce_sound hvalid pipeNamed (some server) response replay.rounds
      generalize trySendOnce pipeNamed request (some server) response replay.rounds = attempt
        at hsound
      dsimp only
      split
      · next hresult => exact hsound.completes hresult
      · next hresult =>
        rw [hsound.silent (by rw [hresult]; nofun) (by rw [hresult]; nofun)]
        exact .silence
      · next hresult =>
        rw [hsound.silent (by rw [hresult]; nofun) (by rw [hresult]; nofun)]
        exact .silence
      · next hresult =>
        rw [hsound.silent (by rw [hresult]; nofun) (by rw [hresult]; nofun)]
        exact ih _
      · next hresult =>
        obtain ⟨contact, hcontact, -⟩ := hsound.indeterminate hresult
        obtain ⟨hwritten, hserver⟩ := hsound.written contact hcontact
        rw [hcontact]
        exact (ih _).cons hwritten (hserver server rfl)

theorem replayIndeterminate_sound (hvalid : isRequestValid request) (s : Surroundings)
    (h : attempt.Sound request expected) (hresult : attempt.result = .indeterminate) :
    (replayIndeterminate s request attempt).Sound request := by
  obtain ⟨contact, hcontact, hobserved⟩ := h.indeterminate hresult
  obtain ⟨hwritten, -⟩ := h.written contact hcontact
  rw [replayIndeterminate, hobserved, hcontact]
  exact ((replayWith_sound hvalid s.pipeNamed contact.server _ _).cons hwritten rfl).sound

theorem Attempt.Sound.ends (h : attempt.Sound request expected)
    (hresult : attempt.result = .complete) :
    Call.Sound request ⟨.complete, attempt.response, attempt.contact.toList⟩ := by
  obtain ⟨contact, hcontact, -⟩ := h.complete hresult
  have hserver : attempt.Sound request (some contact.server) := {
    written := fun other hother => by
      obtain ⟨hwritten, -⟩ := h.written other hother
      cases hcontact.symm.trans hother
      exact ⟨hwritten, fun server hexpected => Option.some.inj hexpected⟩
    indeterminate := h.indeterminate
    complete := h.complete
    silent := h.silent }
  exact (hserver.completes hresult).sound

theorem Attempt.Sound.fails (h : attempt.Sound request expected)
    (hindeterminate : attempt.result ≠ .indeterminate) (hcomplete : attempt.result ≠ .complete) :
    Call.Sound request ⟨.unavailable, attempt.response, attempt.contact.toList⟩ := by
  rw [h.silent hindeterminate hcomplete]
  exact {
    written := fun _ hmem => absurd hmem List.not_mem_nil
    oneServer := fun _ hmem => absurd hmem List.not_mem_nil
    complete := fun hresult => by cases hresult
    unavailable := fun _ => rfl }

theorem sendLaunched_sound (hvalid : isRequestValid request) (s : Surroundings)
    (response : Response) : (sendLaunched s request response).Sound request := by
  have hsound := trySendOnce_sound hvalid s.pipeNamed none response s.launched
  rw [sendLaunched]
  generalize trySendOnce s.pipeNamed request none response s.launched = attempt at hsound
  split
  · next hresult => exact hsound.ends hresult
  · next hresult => exact replayIndeterminate_sound hvalid s hsound hresult
  · next hresult => exact hsound.fails (by rw [hresult]; nofun) (by rw [hresult]; nofun)
  · next hresult => exact hsound.fails (by rw [hresult]; nofun) (by rw [hresult]; nofun)
  · next hresult => exact hsound.fails (by rw [hresult]; nofun) (by rw [hresult]; nofun)

/-- What a call does. -/
theorem sendRequest_sound (s : Surroundings) (request : Request) (response : Response) :
    (sendRequest s request response).Sound request := by
  rw [sendRequest]
  split
  · exact {
      written := fun _ hmem => absurd hmem List.not_mem_nil
      oneServer := fun _ hmem => absurd hmem List.not_mem_nil
      complete := fun hresult => by cases hresult
      unavailable := fun hresult => by cases hresult }
  · next hvalid =>
    have hvalid : isRequestValid request := by simpa using hvalid
    have hsound := trySendOnce_sound hvalid s.pipeNamed none response s.first
    generalize trySendOnce s.pipeNamed request none response s.first = attempt at hsound
    dsimp only
    split
    · next hresult => exact hsound.ends hresult
    · next hresult => exact replayIndeterminate_sound hvalid s hsound hresult
    · next hresult => exact hsound.fails (by rw [hresult]; nofun) (by rw [hresult]; nofun)
    · next hresult =>
      split
      · exact hsound.fails (by rw [hresult]; nofun) (by rw [hresult]; nofun)
      · rw [hsound.silent (by rw [hresult]; nofun) (by rw [hresult]; nofun)]
        exact sendLaunched_sound hvalid s _
    · next hresult =>
      split
      · exact hsound.fails (by rw [hresult]; nofun) (by rw [hresult]; nofun)
      · rw [hsound.silent (by rw [hresult]; nofun) (by rw [hresult]; nofun)]
        exact sendLaunched_sound hvalid s _

/-! ## Connections that carry everything -/

/-- A request that is written to a pipe with room. -/
theorem writeRequest_eq (hvalid : isRequestValid request) {pipe : Pipe}
    (hroomy : pipe.Roomy request.bytes.length) :
    ∃ sent, writeRequest request { pipe with written := [] } = (.success, sent) ∧
      sent.written = request.bytes ∧ sent.incoming = pipe.incoming := by
  have hsuccess : (writeRequest request { pipe with written := [] }).1 = .success :=
    writeRequest_roomy hvalid hroomy
  obtain ⟨sent, -, hwritten, hall⟩ := writeRequest_spec hvalid { pipe with written := [] }
  rw [List.nil_append] at hwritten
  exact ⟨_, Prod.ext hsuccess rfl, hwritten.trans (hall hsuccess), writeRequest_incoming ..⟩

/-- An exchange whose response comes back. -/
theorem exchange_answered (hvalid : isRequestValid request) {pipe : Pipe}
    (hroomy : pipe.Roomy request.bytes.length) {answer : Response} {header : ResponseHeader}
    (hanswer : makeResponseHeader answer = some header)
    (hid : answer.correlationId = request.correlationId) (hproper : Proper pipe.incoming)
    (hincoming : pipe.incoming.flatten = answer.bytes) :
    ∃ left, exchange request response server true pipe = ⟨.complete, some server, answer,
      some ⟨server, request.bytes, answer.bytes, left⟩⟩ := by
  obtain ⟨sent, hwrite, hwritten, hsame⟩ := writeRequest_eq hvalid hroomy
  have hproper : Proper sent.incoming := hsame ▸ hproper
  obtain ⟨received, hread⟩ := readResponse_bytes hanswer hproper
    (by rw [hsame, hincoming, List.append_nil]) response
  refine ⟨(writeAcknowledgement request.correlationId received).2, ?_⟩
  simp only [exchange, Bool.not_true, Bool.false_eq_true, if_false, hwrite, hread, hid, ne_eq,
    not_true_eq_false, hwritten, hsame, hincoming]

/-- An exchange that is cut off before a response comes back. -/
theorem exchange_closed (hvalid : isRequestValid request) {pipe : Pipe}
    (hroomy : pipe.Roomy request.bytes.length) (hincoming : pipe.incoming = []) :
    ∃ left, exchange request response server true pipe = ⟨.indeterminate, some server, response,
      some ⟨server, request.bytes, [], left⟩⟩ := by
  obtain ⟨sent, hwrite, hwritten, hsame⟩ := writeRequest_eq hvalid hroomy
  have hempty : sent.incoming = [] := hsame.trans hincoming
  have hread : readResponse response sent = (sent.readFailure.status, sent, response) := by
    have hexact : readExact ResponseHeader.layout.width sent =
        (sent.readFailure.status, sent, []) := by
      rw [readExact, transferExact, if_neg (by decide)]
      simp only [readFile, hempty, readFragment]
    simp only [readResponse, hexact]
    cases sent.readFailure <;> rfl
  refine ⟨sent, ?_⟩
  simp only [exchange, Bool.not_true, Bool.false_eq_true, if_false, hwrite, hread, hwritten,
    hempty, List.flatten_nil]
  cases sent.readFailure <;> rfl

/-- An attempt whose first instance is that of the server. -/
theorem trySendOnce_opened (request : Request) (response : Response) (server : ServerIdentity)
    (pipe : Pipe) (ending : RoundsEnd) (hexpected : ∀ other ∈ expected, other = server) :
    trySendOnce true request expected response
        (.last (fun _ => .opened server true true pipe) ending) =
      exchange request response server true pipe := by
  have hsame : (expected.any fun expected => !isSameLiveServer expected server true) = false := by
    cases expected with
    | none => rfl
    | some other =>
      obtain rfl := hexpected other rfl
      simp [isSameLiveServer]
  have hrange : List.range pipeInstanceCount = [0, 1, 2, 3] := rfl
  simp only [trySendOnce, Bool.not_true, Bool.false_eq_true, if_false, tryRounds, instancesFor,
    hrange, List.map_cons, tryInstances, hsame]

end PlaybackConnector.Control
