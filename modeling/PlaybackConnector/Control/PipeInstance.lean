import PlaybackConnector.Control.CommandPipeIo

/-!
# The pipe instances of the command-line control server

An instance serves one client after another. Its transfers complete one at a time, each with part
of the bytes it still waits for, and what a completed transfer leads to depends on the phase of the
instance: the header of a request, its payload, the handler, the response and the client's
acknowledgement.

The requests that an instance dispatches are those that `readRequest` reads: `receive_connected`.
-/

namespace PlaybackConnector.Control

open Wire

/-- Source: `PipePhase` (`CommandLineControlServer.cpp:24`). -/
inductive PipePhase where
  | disconnected | connecting | readingRequestHeader | readingRequestPayload | runningHandler
  | writingResponseHeader | writingResponsePayload | readingAcknowledgement
  deriving DecidableEq, Repr

/-- One pipe instance. Source: `CommandLineControlServer::PipeInstance`
(`CommandLineControlServer.cpp:133`). -/
structure PipeInstance where
  /-- Source: `Phase`. -/
  phase : PipePhase := .disconnected
  /-- The bytes read so far, or the bytes to be written. Source: `Buffer`. -/
  buffer : List UInt8 := []
  /-- Source: `TotalBytes`. -/
  totalBytes : Nat := 0
  /-- Source: `TransferredBytes`. -/
  transferredBytes : Nat := 0
  /-- Source: `Write`. -/
  write : Bool := false
  /-- Source: `PendingDelivery`. -/
  pendingDelivery : Bool := false
  /-- Source: `RequestHeader`. -/
  requestHeader : RequestHeader := {}
  /-- Source: `ResponseHeader`. -/
  responseHeader : ResponseHeader := {}
  /-- Source: `Acknowledgement`. -/
  acknowledgement : Acknowledgement := {}
  /-- Source: `Request`. -/
  request : Request := {}
  /-- Source: `Response`. -/
  response : Response := {}
  /-- The record that the pointer points to. Source: `AcknowledgementRecord`. -/
  acknowledgementRecord : Option Nat := none

namespace PipeInstance

/-- A transfer of some bytes. Source: `StartTransferLocked` (`CommandLineControlServer.cpp:663`). -/
def startTransfer (buffer : List UInt8) (byteCount : Nat) (write : Bool) (i : PipeInstance) :
    PipeInstance :=
  { i with buffer := buffer, totalBytes := byteCount, transferredBytes := 0, write := write }

/-- A client that is trusted has connected. Source: `HandleConnectedInstanceLocked`
(`CommandLineControlServer.cpp:934`). -/
def connected (i : PipeInstance) : PipeInstance :=
  startTransfer [] RequestHeader.layout.width false { i with
    request := {}
    response := {}
    acknowledgementRecord := none
    requestHeader := {}
    phase := .readingRequestHeader }

/-- What the server does with an instance after a transfer: it goes on with a transfer, it hands
the request to the handler, it takes the acknowledgement, or it is done with the client. -/
inductive Next where
  | transfer | dispatch | acknowledged | finish
  deriving DecidableEq, Repr

/-- The acknowledgement is read. Source: `CommandLineControlServer.cpp:999`, `1011`. -/
def awaitAcknowledgement (i : PipeInstance) : Next × PipeInstance :=
  (.transfer, startTransfer [] Acknowledgement.layout.width false
    { i with acknowledgement := {}, phase := .readingAcknowledgement })

/-- All bytes of a transfer have come through. Source: `HandleCompletedTransferLocked`
(`CommandLineControlServer.cpp:959`). -/
def handleCompletedTransfer (i : PipeInstance) : Next × PipeInstance :=
  match i.phase with
  | .readingRequestHeader =>
    let header := RequestHeader.layout.decode i.buffer
    let i := { i with requestHeader := header }
    if !isRequestHeaderValid header then (.finish, i)
    else
      let i := { i with
        request := header.request (List.replicate (header.payloadBytes.toNat / sizeofChar) 0) }
      if header.payloadBytes = 0 then (.dispatch, i)
      else (.transfer, startTransfer [] header.payloadBytes.toNat false
        { i with phase := .readingRequestPayload })
  | .readingRequestPayload =>
    -- The transfer has filled the characters of the payload.
    (.dispatch, { i with request := { i.request with
      payload := Layout.uint16.decodeAll i.request.payload.length i.buffer } })
  | .writingResponseHeader =>
    if i.responseHeader.payloadBytes ≠ 0 then
      (.transfer, startTransfer (Layout.uint16.encodeAll i.response.payload)
        i.responseHeader.payloadBytes.toNat true { i with phase := .writingResponsePayload })
    else i.awaitAcknowledgement
  | .writingResponsePayload => i.awaitAcknowledgement
  | .readingAcknowledgement =>
    let acknowledgement := Acknowledgement.layout.decode i.buffer
    let i := { i with acknowledgement := acknowledgement }
    if isAcknowledgementValid acknowledgement i.request.correlationId &&
        i.acknowledgementRecord.isSome then (.acknowledged, i)
    else (.finish, i)
  | .disconnected | .connecting | .runningHandler => (.finish, i)

/-- The bytes that a transfer has moved. Source: `CommandLineControlServer.cpp:904`. -/
def advance (count : Nat) (bytes : List UInt8) (i : PipeInstance) : PipeInstance :=
  { i with
    transferredBytes := i.transferredBytes + count
    buffer := if i.write then i.buffer else i.buffer ++ bytes }

/-- A transfer has moved some bytes before its deadline. Source: `HandleIoCompletion`
(`CommandLineControlServer.cpp:899`). -/
def handleTransferred (count : Nat) (bytes : List UInt8) (i : PipeInstance) :
    Next × PipeInstance :=
  if count = 0 ∨ i.totalBytes - i.transferredBytes < count then (.finish, i)
  else
    let i := i.advance count bytes
    if i.transferredBytes < i.totalBytes then (.transfer, i) else i.handleCompletedTransfer

/-- A transfer goes on after some bytes only. -/
theorem pos_of_transfer {i j : PipeInstance} {next : Next} {count : Nat} {bytes : List UInt8}
    (h : i.handleTransferred count bytes = (next, j)) (hnext : next ≠ .finish) : 0 < count := by
  unfold handleTransferred at h
  split at h
  · cases h
    exact absurd rfl hnext
  · next hcount => omega

/-- What an instance dispatches of what its reads find, if anything, and what it leaves on the
pipe. A read that fails, or that cannot be started any more, ends the connection. Source:
`HandleIoCompletion` (`CommandLineControlServer.cpp:872`), `DispatchRequestLocked`
(`CommandLineControlServer.cpp:1035`). -/
def receive (i : PipeInstance) (pipe : Pipe) : Option Request × Pipe :=
  match _hread : readFragment (i.totalBytes - i.transferredBytes) pipe.incoming with
  | none => (none, pipe)
  | some (bytes, rest) =>
    match _hnext : i.handleTransferred bytes.length bytes with
    | (.transfer, i) => receive i { pipe with incoming := rest }
    | (.dispatch, i) =>
      (if isRequestValid i.request then some i.request else none, { pipe with incoming := rest })
    | (.acknowledged, _) | (.finish, _) => (none, { pipe with incoming := rest })
termination_by pipe.incoming.flatten.length
decreasing_by
  have hlength := congrArg List.length (readFragment_flatten _hread).1
  have hpos := pos_of_transfer _hnext (by decide)
  rw [List.length_append] at hlength
  omega

/-! ## One decoder and the other -/

/-- What follows what the server does next. -/
def resume (next : Next × PipeInstance) (pipe : Pipe) : Option Request × Pipe :=
  match next with
  | (.transfer, i) => receive i pipe
  | (.dispatch, i) => (if isRequestValid i.request then some i.request else none, pipe)
  | (.acknowledged, _) | (.finish, _) => (none, pipe)

variable {i : PipeInstance} {pipe : Pipe}

theorem receive_none (h : readFragment (i.totalBytes - i.transferredBytes) pipe.incoming = none) :
    i.receive pipe = (none, pipe) := by
  rw [receive]
  split
  · rfl
  · next hread => rw [h] at hread; cases hread

theorem receive_some {bytes : List UInt8} {rest : List (List UInt8)}
    (h : readFragment (i.totalBytes - i.transferredBytes) pipe.incoming = some (bytes, rest)) :
    i.receive pipe =
      resume (i.handleTransferred bytes.length bytes) { pipe with incoming := rest } := by
  rw [receive]
  split
  · next hread => rw [h] at hread; cases hread
  · next hread =>
    rw [h] at hread
    cases hread
    split <;> next hnext => rw [hnext, resume]

/-- The reads of an instance are those of a blocking read of what it still waits for. -/
theorem receive_eq (remaining : Nat) (hread : i.write = false) (hpos : 0 < remaining)
    (htotal : i.transferredBytes + remaining = i.totalBytes) :
    i.receive pipe =
      match transferExact readFile remaining (pipe, i.buffer) with
      | (.success, pipe, buffer) =>
        resume (handleCompletedTransfer
          { i with transferredBytes := i.totalBytes, buffer := buffer }) pipe
      | (_, pipe, _) => (none, pipe) := by
  induction remaining using Nat.strong_induction_on generalizing i pipe with
  | _ remaining ih =>
    have hwaits : i.totalBytes - i.transferredBytes = remaining := by omega
    rw [transferExact, if_neg (by omega)]
    simp only [readFile]
    cases hfragment : readFragment remaining pipe.incoming with
    | none =>
      rw [receive_none (by rw [hwaits, hfragment])]
      cases hfailure : pipe.readFailure <;> rfl
    | some result =>
      obtain ⟨bytes, rest⟩ := result
      obtain ⟨-, hle⟩ := readFragment_flatten hfragment
      rw [receive_some (by rw [hwaits, hfragment]), handleTransferred, hwaits]
      by_cases hzero : bytes.length = 0
      · simp only [hzero, true_or, if_true, resume]
      · rw [if_neg (by omega)]
        have hbuffer : (i.advance bytes.length bytes).buffer = i.buffer ++ bytes := by
          rw [advance, hread]
          rfl
        have hmoved : (i.advance bytes.length bytes).transferredBytes =
            i.transferredBytes + bytes.length := rfl
        have hsame : (i.advance bytes.length bytes).totalBytes = i.totalBytes := rfl
        simp only [if_neg hzero, hmoved, hsame]
        split
        · next hmore =>
          rw [← hbuffer]
          exact ih (remaining - bytes.length) (by omega) (i := i.advance bytes.length bytes) hread
            (by omega) (by rw [hmoved, hsame]; omega)
        · next hdone =>
          have hlast : remaining - bytes.length = 0 := by omega
          have hall : i.transferredBytes + bytes.length = i.totalBytes := by omega
          have hfull : { i with transferredBytes := i.totalBytes, buffer := i.buffer ++ bytes } =
              i.advance bytes.length bytes := by simp [advance, hread, hall]
          rw [hlast, transferExact, if_pos rfl]
          simp only [hfull]

/-- The server dispatches what `readRequest` reads, and leaves the same on the pipe. -/
theorem receive_connected (i : PipeInstance) (old : Request) (pipe : Pipe) :
    i.connected.receive pipe =
      (if (readRequest old pipe).1 = .success then some (readRequest old pipe).2.2 else none,
        (readRequest old pipe).2.1) := by
  rw [receive_eq (i := i.connected) RequestHeader.layout.width rfl (by decide) rfl]
  have hheader : transferExact readFile RequestHeader.layout.width (pipe, i.connected.buffer) =
      readExact RequestHeader.layout.width pipe := rfl
  rw [hheader]
  simp only [readRequest]
  rcases readExact RequestHeader.layout.width pipe with ⟨status, pipe', bytes⟩
  cases status with
  | success =>
    simp only [handleCompletedTransfer, connected, startTransfer]
    obtain ⟨header, hdecoded⟩ : ∃ header, RequestHeader.layout.decode bytes = header := ⟨_, rfl⟩
    simp only [hdecoded]
    cases hvalid : isRequestHeaderValid header with
    | false => simp [resume]
    | true =>
      simp only [Bool.not_true, Bool.false_eq_true, if_false]
      by_cases hzero : header.payloadBytes = 0
      · simp only [hzero, if_true, resume]
        by_cases hread : isRequestValid (header.request []) <;>
          simp [Layout.decodeAll, hread]
      · have hpos : 0 < header.payloadBytes.toNat :=
          Nat.pos_of_ne_zero fun h => hzero (UInt32.toNat_inj.1 h)
        simp only [hzero, if_false, resume]
        rw [receive_eq header.payloadBytes.toNat rfl hpos (Nat.zero_add _)]
        have hpayload : transferExact readFile header.payloadBytes.toNat (pipe', []) =
          readExact header.payloadBytes.toNat pipe' := rfl
        simp only [hpayload]
        rcases readExact header.payloadBytes.toNat pipe' with ⟨status, pipe'', payload⟩
        cases status with
        | success =>
          have hrequest : { header.request (List.replicate
              (header.payloadBytes.toNat / sizeofChar) 0) with
                payload := Layout.uint16.decodeAll (header.request (List.replicate
                  (header.payloadBytes.toNat / sizeofChar) 0)).payload.length payload } =
              header.request (Layout.uint16.decodeAll
                (header.payloadBytes.toNat / sizeofChar) payload) := by
            simp [RequestHeader.request]
          simp only [handleCompletedTransfer, resume, hrequest]
          split <;> rfl
        | timeout | cancelled | closed | invalidData | failed => rfl
  | timeout | cancelled | closed | invalidData | failed => rfl

/-- What is read does not depend on the fragments. -/
theorem readRequest_fragments {reader other : Pipe} {old request : Request}
    (hproper : Proper other.incoming) (hsame : other.incoming.flatten = reader.incoming.flatten)
    {reader' : Pipe} (h : readRequest old reader = (.success, reader', request)) :
    ∃ other', readRequest old other = (.success, other', request) ∧
      other'.incoming.flatten = reader'.incoming.flatten := by
  obtain ⟨hvalid, hbytes⟩ := readRequest_accepts h
  exact readRequest_bytes hvalid hproper (hsame.trans hbytes) old

/-! ## The wire format -/

/-- The wire format of requests is exact, and its two decoders agree. -/
structure ExactCodec : Prop where
  /-- A valid request is written to a pipe with room. -/
  writes : ∀ request writer, isRequestValid request → writer.Roomy request.bytes.length →
    (writeRequest request writer).1 = .success
  /-- A valid request that was written is read, in whatever fragments its bytes arrive, and what
  follows it on the pipe stays there. -/
  reads : ∀ request writer sent, isRequestValid request →
    (writeRequest request writer).1 = .success →
    (writeRequest request writer).2.written = writer.written ++ sent →
    ∀ old reader rest, Proper reader.incoming → reader.incoming.flatten = sent ++ rest →
      ∃ reader', readRequest old reader = (.success, reader', request) ∧
        reader'.incoming.flatten = rest
  /-- The bytes that a request is read off are those that a write of the request sends. -/
  accepts : ∀ old reader reader' request, readRequest old reader = (.success, reader', request) →
    isRequestValid request ∧ ∀ writer sent, (writeRequest request writer).1 = .success →
      (writeRequest request writer).2.written = writer.written ++ sent →
        reader.incoming.flatten = sent ++ reader'.incoming.flatten
  /-- The server dispatches the request that `ReadRequest` reads off the same reads, and nothing
  when that fails. -/
  agrees : ∀ (i : PipeInstance) old reader, i.connected.receive reader =
    (if (readRequest old reader).1 = .success then some (readRequest old reader).2.2 else none,
      (readRequest old reader).2.1)
  /-- The server dispatches a request off some bytes if and only if `ReadRequest` reads it off the
  same bytes in other fragments. -/
  fragments : ∀ (i : PipeInstance) old reader other request, Proper reader.incoming →
    Proper other.incoming → reader.incoming.flatten = other.incoming.flatten →
    ((i.connected.receive reader).1 = some request ↔
      ∃ other', readRequest old other = (.success, other', request) ∧
        other'.incoming.flatten = (i.connected.receive reader).2.incoming.flatten)

/-- A request that is written is read as itself, only what a request is written as is read, and
the server reads what the blocking code reads. -/
theorem request_codec : ExactCodec where
  writes request writer hvalid hroomy := writeRequest_roomy hvalid hroomy
  reads request writer sent hvalid hsuccess hwritten old reader rest hproper hreader := by
    obtain ⟨bytes, -, hbytes, hall⟩ := writeRequest_spec hvalid writer
    have hsent : sent = request.bytes :=
      (List.append_cancel_left (hwritten.symm.trans hbytes)).trans (hall hsuccess)
    exact readRequest_bytes hvalid hproper (hsent ▸ hreader) old
  accepts old reader reader' request h := by
    obtain ⟨hvalid, hreader⟩ := readRequest_accepts h
    refine ⟨hvalid, fun writer sent hsuccess hwritten => ?_⟩
    obtain ⟨bytes, -, hbytes, hall⟩ := writeRequest_spec hvalid writer
    have hsent : sent = request.bytes :=
      (List.append_cancel_left (hwritten.symm.trans hbytes)).trans (hall hsuccess)
    exact hsent ▸ hreader
  agrees := receive_connected
  fragments i old reader other request hreader hother hsame := by
    rw [receive_connected i old]
    constructor
    · intro h
      split at h
      · next hsuccess =>
        cases h
        exact readRequest_fragments hother hsame.symm (Prod.ext hsuccess rfl)
      · cases h
    · rintro ⟨other', hread, hrest⟩
      obtain ⟨reader', hread', -⟩ := readRequest_fragments hreader hsame hread
      rw [hread', if_pos rfl]

/-- A request to connect the device of an id. -/
example : isRequestValid {
    command := .connect
    target := .id
    payload := [100]
    correlationId := ⟨0, 1⟩ } := by decide

end PipeInstance

end PlaybackConnector.Control
