import PlaybackConnector.Control.CommandProtocol
import PlaybackConnector.Wire.Fragments

/-!
# Blocking pipe transfers

One end of a byte pipe, as the blocking code sees it: the bytes each read finds, which may be any
piece of what the other end wrote, the bytes each write gets rid of, and what a transfer reports
when it gets none through. A stop event, a deadline and a lost connection all end the reads, and
the pipe holds what arrived before.

The requests that are written are those that are read: `readRequest_writeRequest`, and nothing
else is: `readRequest_accepts`.
-/

namespace PlaybackConnector.Control

open Wire

/-- How a transfer ended. Source: `IoStatus` (`CommandPipeIo.hpp:21`). -/
inductive IoStatus where
  | success | timeout | cancelled | closed | invalidData | failed
  deriving DecidableEq, Repr

/-- What a transfer that moves nothing reports: its deadline, the stop event, the other end that is
gone, or another error. Source: `TransferExact` (`CommandPipeIo.cpp:59`). -/
inductive IoFailure where
  | timeout | cancelled | closed | failed
  deriving DecidableEq, Repr

/-- The status of a failure. -/
def IoFailure.status : IoFailure → IoStatus
  | timeout => .timeout
  | cancelled => .cancelled
  | closed => .closed
  | failed => .failed

/-- One end of a byte pipe. -/
structure Pipe where
  /-- What the reads find, each of them at most one fragment. -/
  incoming : List (List UInt8)
  /-- What a read reports after these. -/
  readFailure : IoFailure
  /-- How many bytes the writes get rid of. -/
  capacities : List Nat := []
  /-- What a write reports after these. -/
  writeFailure : IoFailure := .closed
  /-- The bytes that were written. -/
  written : List UInt8 := []

/-- One `ReadFile` that completes: the number of bytes, and the buffer with them. Source:
`CommandPipeIo.cpp:81`. -/
def readFile (count : Nat) : Pipe × List UInt8 → Except IoFailure (Nat × Pipe × List UInt8)
  | (pipe, buffer) =>
    match readFragment count pipe.incoming with
    | none => .error pipe.readFailure
    | some (bytes, rest) => .ok (bytes.length, { pipe with incoming := rest }, buffer ++ bytes)

/-- One `WriteFile` that completes: the number of bytes, and the bytes after the cursor. Source:
`CommandPipeIo.cpp:80`. -/
def writeFile (count : Nat) : Pipe × List UInt8 → Except IoFailure (Nat × Pipe × List UInt8)
  | (pipe, bytes) =>
    match pipe.capacities with
    | [] => .error pipe.writeFailure
    | capacity :: rest =>
      let transferred := min capacity count
      .ok (transferred,
        { pipe with capacities := rest, written := pipe.written ++ bytes.take transferred },
        bytes.drop transferred)

/-- Transfers in one direction until nothing remains. Source: `TransferExact`
(`CommandPipeIo.cpp:59`). -/
def transferExact {σ : Type} (transfer : Nat → σ → Except IoFailure (Nat × σ)) (remaining : Nat)
    (s : σ) : IoStatus × σ :=
  if remaining = 0 then (.success, s)
  else
    match transfer remaining s with
    | .error failure => (failure.status, s)
    | .ok (transferred, s) =>
      if transferred = 0 then (.closed, s)
      else transferExact transfer (remaining - transferred) s
termination_by remaining

/-- The bytes that are read are the buffer of the result. Source: `ReadExact`
(`CommandPipeIo.cpp:127`). -/
def readExact (byteCount : Nat) (pipe : Pipe) : IoStatus × Pipe × List UInt8 :=
  transferExact readFile byteCount (pipe, [])

/-- Source: `WriteExact` (`CommandPipeIo.cpp:132`). -/
def writeExact (buffer : List UInt8) (pipe : Pipe) : IoStatus × Pipe :=
  let result := transferExact writeFile buffer.length (pipe, buffer)
  (result.1, result.2.1)

/-! ## Requests -/

/-- The header of a request. Source: `WriteRequest` (`CommandPipeIo.cpp:162`). -/
def Request.header (request : Request) (payloadBytes : UInt32) : RequestHeader where
  correlationHigh := request.correlationId.high
  correlationLow := request.correlationId.low
  command := request.command.toUInt32
  target := request.target.toUInt32
  flags := request.flags
  payloadBytes := payloadBytes

/-- Writes a request. Source: `WriteRequest` (`CommandPipeIo.cpp:158`). -/
def writeRequest (request : Request) (pipe : Pipe) : IoStatus × Pipe :=
  match payloadByteCount request.payload with
  | none => (.invalidData, pipe)
  | some payloadBytes =>
    if !isRequestValid request then (.invalidData, pipe)
    else
      let sent := writeExact (RequestHeader.layout.encode (request.header payloadBytes)) pipe
      if sent.1 ≠ .success ∨ payloadBytes = 0 then sent
      else writeExact (Layout.uint16.encodeAll request.payload) sent.2

/-- The request of a header and a payload. Source: `ReadRequest` (`CommandPipeIo.cpp:150`). -/
def RequestHeader.request (header : RequestHeader) (payload : WString) : Request where
  command := .ofUInt32 header.command
  target := .ofUInt32 header.target
  flags := header.flags
  payload := payload
  correlationId := ⟨header.correlationHigh, header.correlationLow⟩

/-- Reads a request into the caller's. Source: `ReadRequest` (`CommandPipeIo.cpp:137`). -/
def readRequest (request : Request) (pipe : Pipe) : IoStatus × Pipe × Request :=
  match readExact RequestHeader.layout.width pipe with
  | (.success, pipe, bytes) =>
    let header := RequestHeader.layout.decode bytes
    if !isRequestHeaderValid header then (.invalidData, pipe, request)
    else
      match if header.payloadBytes = 0 then (.success, pipe, [])
        else readExact header.payloadBytes.toNat pipe with
      | (.success, pipe, bytes) =>
        let read := header.request
          (Layout.uint16.decodeAll (header.payloadBytes.toNat / sizeofChar) bytes)
        (if isRequestValid read then .success else .invalidData, pipe, read)
      | (status, pipe, _) => (status, pipe, request)
  | (status, pipe, _) => (status, pipe, request)

/-- The bytes of a request. -/
def Request.bytes (request : Request) : List UInt8 :=
  RequestHeader.layout.encode
      (request.header (UInt32.ofNat (request.payload.length * sizeofChar))) ++
    Layout.uint16.encodeAll request.payload

/-! ## Responses -/

/-- The exit code of a number that is known. -/
def ExitCode.ofUInt32 (value : UInt32) : ExitCode :=
  match value.toNat with
  | 3 => invalidRequest
  | 4 => notFound
  | 5 => ambiguous
  | 6 => operationFailed
  | 7 => unavailable
  | 8 => busy
  | 9 => indeterminate
  | _ => success

/-- Source: the condition at `CommandPipeIo.cpp:180`. -/
def isResponseHeaderValid (header : ResponseHeader) : Bool :=
  header.magic == responseMagic && header.version == protocolVersion &&
    !CorrelationId.empty ⟨header.correlationHigh, header.correlationLow⟩ &&
    isKnownExitCode header.exitCode && isPayloadByteCountValid header.payloadBytes

/-- The response of a header and a payload. Source: `ReadResponse` (`CommandPipeIo.cpp:190`). -/
def ResponseHeader.response (header : ResponseHeader) (payload : WString) : Response where
  code := .ofUInt32 header.exitCode
  payload := payload
  correlationId := ⟨header.correlationHigh, header.correlationLow⟩

/-- Reads a response into the caller's. Source: `ReadResponse` (`CommandPipeIo.cpp:175`). -/
def readResponse (response : Response) (pipe : Pipe) : IoStatus × Pipe × Response :=
  match readExact ResponseHeader.layout.width pipe with
  | (.success, pipe, bytes) =>
    let header := ResponseHeader.layout.decode bytes
    if !isResponseHeaderValid header then (.invalidData, pipe, response)
    else
      match if header.payloadBytes = 0 then (.success, pipe, [])
        else readExact header.payloadBytes.toNat pipe with
      | (.success, pipe, bytes) =>
        (.success, pipe, header.response
          (Layout.uint16.decodeAll (header.payloadBytes.toNat / sizeofChar) bytes))
      | (status, pipe, _) => (status, pipe, response)
  | (status, pipe, _) => (status, pipe, response)

/-- The bytes of a response, if it can be sent. -/
def Response.bytes (response : Response) : List UInt8 :=
  match makeResponseHeader response with
  | none => []
  | some header => ResponseHeader.layout.encode header ++ Layout.uint16.encodeAll response.payload

/-- Source: `WriteAcknowledgement` (`CommandPipeIo.cpp:206`). -/
def writeAcknowledgement (correlationId : CorrelationId) (pipe : Pipe) : IoStatus × Pipe :=
  if correlationId.empty then (.invalidData, pipe)
  else
    let acknowledgement : Acknowledgement :=
      { correlationHigh := correlationId.high, correlationLow := correlationId.low }
    writeExact (Acknowledgement.layout.encode acknowledgement) pipe

/-! ## What transfers do -/

variable {pipe pipe' : Pipe} {buffer bytes : List UInt8} {count : Nat} {request read : Request}

/-- A read that succeeds took the bytes that it was to read off the pipe. -/
theorem transferExact_readFile {s : Pipe × List UInt8}
    (h : transferExact readFile count s = (.success, pipe', buffer)) :
    ∃ bytes, buffer = s.2 ++ bytes ∧ bytes.length = count ∧
      bytes ++ pipe'.incoming.flatten = s.1.incoming.flatten := by
  induction count using Nat.strong_induction_on generalizing s with
  | _ count ih =>
    obtain ⟨pipe, start⟩ := s
    rw [transferExact] at h
    split at h
    · next hzero =>
      cases h
      exact ⟨[], by simp, hzero.symm, rfl⟩
    · next hpositive =>
      simp only [readFile] at h
      cases hread : readFragment count pipe.incoming with
      | none =>
        rw [hread] at h
        cases hfailure : pipe.readFailure <;> simp [hfailure, IoFailure.status] at h
      | some result =>
        obtain ⟨part, rest⟩ := result
        simp only [hread] at h
        obtain ⟨hflatten, hle⟩ := readFragment_flatten hread
        split at h
        · cases h
        · next hpart =>
          obtain ⟨bytes, hbuffer, hlength, hbytes⟩ := ih _ (by omega) h
          refine ⟨part ++ bytes, ?_, ?_, ?_⟩
          · simpa using hbuffer
          · rw [List.length_append]
            omega
          · rw [List.append_assoc, hbytes, hflatten]

/-- A read succeeds when enough arrives, in fragments that are not empty. -/
theorem transferExact_readFile_proper {s : Pipe × List UInt8} (count : Nat)
    (hproper : Proper s.1.incoming) (henough : count ≤ s.1.incoming.flatten.length) :
    ∃ pipe' buffer, transferExact readFile count s = (.success, pipe', buffer) ∧
      Proper pipe'.incoming := by
  induction count using Nat.strong_induction_on generalizing s with
  | _ count ih =>
    obtain ⟨pipe, start⟩ := s
    rw [transferExact]
    split
    · exact ⟨pipe, start, rfl, hproper⟩
    · next hpositive =>
      simp only [readFile]
      cases hread : readFragment count pipe.incoming with
      | none =>
        have hempty := readFragment_eq_none hread
        simp only [hempty, List.length_nil] at henough
        omega
      | some result =>
        obtain ⟨part, rest⟩ := result
        obtain ⟨hflatten, hle⟩ := readFragment_flatten hread
        obtain ⟨hpart, hrest⟩ := hproper.read (Nat.pos_of_ne_zero hpositive) hread
        have hlength := congrArg List.length hflatten
        rw [List.length_append] at hlength
        have hpos := List.length_pos_iff.2 hpart
        simp only [if_neg (Nat.pos_iff_ne_zero.1 hpos)]
        exact ih _ (by omega) hrest (by simp only at henough ⊢; omega)

theorem readExact_success (h : readExact count pipe = (.success, pipe', buffer)) :
    buffer.length = count ∧ buffer ++ pipe'.incoming.flatten = pipe.incoming.flatten := by
  obtain ⟨bytes, hbuffer, hlength, hbytes⟩ := transferExact_readFile h
  rw [List.nil_append] at hbuffer
  exact hbuffer ▸ ⟨hlength, hbytes⟩

/-- Bytes that arrive in fragments that are not empty are read, and what follows them stays. -/
theorem readExact_proper {rest : List UInt8} (hproper : Proper pipe.incoming)
    (hincoming : pipe.incoming.flatten = bytes ++ rest) :
    ∃ pipe', readExact bytes.length pipe = (.success, pipe', bytes) ∧ Proper pipe'.incoming ∧
      pipe'.incoming.flatten = rest := by
  obtain ⟨pipe', buffer, hread, hproper'⟩ :=
    transferExact_readFile_proper (s := (pipe, [])) bytes.length hproper
      (by simp [hincoming])
  obtain ⟨hlength, hbytes⟩ := readExact_success hread
  rw [hincoming] at hbytes
  obtain ⟨rfl, hrest⟩ := List.append_inj hbytes hlength
  exact ⟨pipe', hread, hproper', hrest⟩

/-- A write puts a prefix of the buffer on the pipe, and all of it if it succeeds. -/
theorem transferExact_writeFile {s : Pipe × List UInt8} (hcount : s.2.length = count) :
    ∃ sent, sent <+: s.2 ∧
      (transferExact writeFile count s).2.1.written = s.1.written ++ sent ∧
      ((transferExact writeFile count s).1 = .success → sent = s.2) := by
  induction count using Nat.strong_induction_on generalizing s with
  | _ count ih =>
    obtain ⟨pipe, bytes⟩ := s
    rw [transferExact]
    split
    · next hzero =>
      have hnil : bytes = [] := List.length_eq_zero_iff.1 (hcount.trans hzero)
      exact ⟨[], List.nil_prefix, by simp, fun _ => hnil.symm⟩
    · next hpositive =>
      simp only [writeFile]
      cases hcapacities : pipe.capacities with
      | nil =>
        refine ⟨[], List.nil_prefix, by simp, fun hsuccess => ?_⟩
        cases hfailure : pipe.writeFailure <;> simp [hfailure, IoFailure.status] at hsuccess
      | cons capacity rest =>
        simp only
        split
        · next hzero => exact ⟨[], List.nil_prefix, by simp [hzero], fun h => by cases h⟩
        · next hsome =>
          obtain ⟨sent, hprefix, hwritten, hall⟩ := ih (count - min capacity count) (by omega)
            (s := ({ pipe with
              capacities := rest
              written := pipe.written ++ bytes.take (min capacity count) },
              bytes.drop (min capacity count))) (by rw [List.length_drop, ← hcount])
          refine ⟨bytes.take (min capacity count) ++ sent, ?_, ?_, fun hsuccess => ?_⟩
          · obtain ⟨others, hothers⟩ := hprefix
            exact ⟨others, by rw [List.append_assoc, hothers, List.take_append_drop]⟩
          · rw [hwritten, List.append_assoc]
          · rw [hall hsuccess, List.take_append_drop]

/-- A write takes nothing off the pipe. -/
theorem transferExact_writeFile_incoming (count : Nat) (s : Pipe × List UInt8) :
    (transferExact writeFile count s).2.1.incoming = s.1.incoming := by
  induction count using Nat.strong_induction_on generalizing s with
  | _ count ih =>
    obtain ⟨pipe, bytes⟩ := s
    rw [transferExact]
    split
    · rfl
    · next hpositive =>
      simp only [writeFile]
      cases pipe.capacities with
      | nil => rfl
      | cons capacity rest =>
        dsimp only
        split
        · rfl
        · next hsome => exact ih (count - min capacity count) (by omega) _

/-- A pipe whose next writes each get rid of something, for as many bytes. -/
def Pipe.Roomy (pipe : Pipe) (bytes : Nat) : Prop :=
  (∀ capacity ∈ pipe.capacities, 0 < capacity) ∧ bytes ≤ pipe.capacities.length

/-- A write to a pipe with room succeeds and takes one write a byte at most. -/
theorem transferExact_writeFile_roomy {s : Pipe × List UInt8} {more : Nat}
    (hroomy : s.1.Roomy (count + more)) :
    (transferExact writeFile count s).1 = .success ∧
      (transferExact writeFile count s).2.1.Roomy more := by
  induction count using Nat.strong_induction_on generalizing s with
  | _ count ih =>
    obtain ⟨pipe, bytes⟩ := s
    obtain ⟨hpositive, hlength⟩ := hroomy
    rw [transferExact]
    split
    · exact ⟨rfl, hpositive, by simp only at hlength ⊢; omega⟩
    · next hcount =>
      simp only [writeFile]
      cases hcapacities : pipe.capacities with
      | nil =>
        simp only [hcapacities, List.length_nil] at hlength
        omega
      | cons capacity rest =>
        simp only [hcapacities] at hpositive hlength ⊢
        have hcapacity := hpositive capacity List.mem_cons_self
        rw [if_neg (by omega)]
        refine ih _ (by omega) ⟨fun other hmem => hpositive other (List.mem_cons_of_mem _ hmem), ?_⟩
        rw [List.length_cons] at hlength
        simp only
        omega

/-- What a write leaves on the pipe. -/
theorem writeExact_spec (buffer : List UInt8) (pipe : Pipe) :
    ∃ sent, sent <+: buffer ∧ (writeExact buffer pipe).2.written = pipe.written ++ sent ∧
      ((writeExact buffer pipe).1 = .success → sent = buffer) :=
  transferExact_writeFile (s := (pipe, buffer)) rfl

theorem writeExact_roomy (more : Nat) (hroomy : pipe.Roomy (buffer.length + more)) :
    (writeExact buffer pipe).1 = .success ∧ (writeExact buffer pipe).2.Roomy more :=
  transferExact_writeFile_roomy (s := (pipe, buffer)) hroomy

/-! ## Requests on the wire -/

/-- A valid request's number of payload bytes. -/
theorem payloadByteCount_of_valid (h : isRequestValid request) :
    payloadByteCount request.payload =
        some (UInt32.ofNat (request.payload.length * sizeofChar)) ∧
      (UInt32.ofNat (request.payload.length * sizeofChar)).toNat =
        request.payload.length * sizeofChar ∧
      isPayloadByteCountValid (UInt32.ofNat (request.payload.length * sizeofChar)) := by
  simp only [isRequestValid, Bool.and_eq_true, decide_eq_true_eq] at h
  obtain ⟨byteCount, hcount, hbytes, hvalid⟩ := payloadByteCount_eq h.1.1.2
  have heq : byteCount = UInt32.ofNat (request.payload.length * sizeofChar) := by
    rw [← hbytes, UInt32.ofNat_toNat]
  exact heq ▸ ⟨hcount, hbytes, hvalid⟩

/-- The header of a valid request is valid. -/
theorem isRequestHeaderValid_header {payloadBytes : UInt32} (h : isRequestValid request)
    (hbytes : isPayloadByteCountValid payloadBytes) :
    isRequestHeaderValid (request.header payloadBytes) := by
  simp only [isRequestValid, Bool.and_eq_true, decide_eq_true_eq] at h
  obtain ⟨⟨⟨⟨⟨⟨hid, hcommand⟩, htarget⟩, hflags⟩, -⟩, -⟩, -⟩ := h
  simp only [isRequestHeaderValid, Request.header, hid, hcommand, htarget, hflags, hbytes,
    beq_self_eq_true, Bool.and_self]

/-- The header of a request stands for the request. -/
theorem Request.request_header (request : Request) (payloadBytes : UInt32) :
    (request.header payloadBytes).request request.payload = request := by
  simp [RequestHeader.request, Request.header]

/-- A valid header is that of the request that it stands for. -/
theorem RequestHeader.header_request {header : RequestHeader} (h : isRequestHeaderValid header)
    (payload : WString) : (header.request payload).header header.payloadBytes = header := by
  simp only [isRequestHeaderValid, Bool.and_eq_true, beq_iff_eq] at h
  obtain ⟨⟨⟨⟨⟨⟨hmagic, hversion⟩, -⟩, hcommand⟩, htarget⟩, -⟩, -⟩ := h
  obtain ⟨magic, version, high, low, command, target, flags, bytes⟩ := header
  simp only [Request.header, RequestHeader.request, CommandType.toUInt32_ofUInt32 hcommand,
    TargetKind.toUInt32_ofUInt32 htarget, RequestHeader.mk.injEq, and_self, and_true]
  exact ⟨hmagic.symm, hversion.symm⟩

/-- The bytes of a valid header and its payload are those of the request that they stand for. -/
theorem bytes_request {header : RequestHeader} {payload : List UInt8}
    (h : isRequestHeaderValid header) (hlength : payload.length = header.payloadBytes.toNat) :
    (header.request (Layout.uint16.decodeAll (header.payloadBytes.toNat / sizeofChar) payload)).bytes
      = RequestHeader.layout.encode header ++ payload := by
  have hvalid : isPayloadByteCountValid header.payloadBytes := by
    rw [isRequestHeaderValid, Bool.and_eq_true] at h
    exact h.2
  obtain ⟨-, hwhole⟩ := isPayloadByteCountValid_iff.1 hvalid
  have hpayload := Layout.uint16.encodeAll_decodeAll (hlength.trans hwhole.symm)
  have hcount : UInt32.ofNat ((Layout.uint16.decodeAll (header.payloadBytes.toNat / sizeofChar)
      payload).length * sizeofChar) = header.payloadBytes := by
    rw [Layout.length_decodeAll, hwhole, UInt32.ofNat_toNat]
  generalize Layout.uint16.decodeAll (header.payloadBytes.toNat / sizeofChar) payload = chars
    at hpayload hcount ⊢
  have hsame : (header.request chars).payload = chars := rfl
  rw [Request.bytes, hsame, hcount, RequestHeader.header_request h, hpayload]

/-- A request that is written is a prefix of its bytes, and all of them if the write succeeds. -/
theorem writeRequest_spec (h : isRequestValid request) (pipe : Pipe) :
    ∃ sent, sent <+: request.bytes ∧
      (writeRequest request pipe).2.written = pipe.written ++ sent ∧
      ((writeRequest request pipe).1 = .success → sent = request.bytes) := by
  obtain ⟨hcount, hbytes, -⟩ := payloadByteCount_of_valid h
  simp only [writeRequest, hcount, h, Bool.not_true, Bool.false_eq_true, if_false]
  obtain ⟨sent, hprefix, hwritten, hall⟩ := writeExact_spec (RequestHeader.layout.encode
    (request.header (UInt32.ofNat (request.payload.length * sizeofChar)))) pipe
  split
  · next hend =>
    refine ⟨sent, hprefix.trans (List.prefix_append _ _), hwritten, fun hsuccess => ?_⟩
    have hzero := hend.resolve_left (fun hne => hne hsuccess)
    have hnil : request.payload = [] := by
      rw [hzero, sizeofChar] at hbytes
      exact List.length_eq_zero_iff.1 (by simpa using hbytes.symm)
    rw [hall hsuccess, Request.bytes, hnil]
    simp [Layout.encodeAll]
  · next hmore =>
    obtain ⟨hsuccess, -⟩ := not_or.1 hmore
    obtain ⟨payload, hpayload, hwritten', hall'⟩ :=
      writeExact_spec (Layout.uint16.encodeAll request.payload) (writeExact
        (RequestHeader.layout.encode
          (request.header (UInt32.ofNat (request.payload.length * sizeofChar)))) pipe).2
    refine ⟨sent ++ payload, ?_, by rw [hwritten', hwritten, List.append_assoc], fun hdone => ?_⟩
    · rw [hall (not_not.1 hsuccess), Request.bytes]
      exact List.prefix_append_right_inj _ |>.2 hpayload
    · rw [hall (not_not.1 hsuccess), hall' hdone, Request.bytes]

/-- A valid request is written to a pipe with room. -/
theorem writeRequest_roomy (h : isRequestValid request)
    (hroomy : pipe.Roomy request.bytes.length) : (writeRequest request pipe).1 = .success := by
  obtain ⟨hcount, -, -⟩ := payloadByteCount_of_valid h
  simp only [writeRequest, hcount, h, Bool.not_true, Bool.false_eq_true, if_false]
  rw [Request.bytes, List.length_append] at hroomy
  obtain ⟨hheader, hrest⟩ := writeExact_roomy _ hroomy
  split
  · exact hheader
  · exact (writeExact_roomy 0 hrest).1

/-- A request that is written takes nothing off the pipe. -/
theorem writeRequest_incoming (request : Request) (pipe : Pipe) :
    (writeRequest request pipe).2.incoming = pipe.incoming := by
  have hexact (buffer : List UInt8) (pipe : Pipe) :
      (writeExact buffer pipe).2.incoming = pipe.incoming :=
    transferExact_writeFile_incoming buffer.length (pipe, buffer)
  unfold writeRequest
  split
  · rfl
  · split
    · rfl
    · dsimp only
      split
      · exact hexact ..
      · exact (hexact ..).trans (hexact ..)

/-- A valid request is read off its bytes, whatever the fragments, and what follows stays. -/
theorem readRequest_bytes {rest : List UInt8} (h : isRequestValid request)
    (hproper : Proper pipe.incoming) (hincoming : pipe.incoming.flatten = request.bytes ++ rest)
    (old : Request) :
    ∃ pipe', readRequest old pipe = (.success, pipe', request) ∧
      pipe'.incoming.flatten = rest := by
  obtain ⟨hcount, hbytes, hvalid⟩ := payloadByteCount_of_valid h
  rw [Request.bytes, List.append_assoc] at hincoming
  obtain ⟨pipe', hheader, hproper', hincoming'⟩ := readExact_proper hproper hincoming
  rw [Layout.length_encode] at hheader
  have hpayload : ∃ pipe'', (if (request.header
        (UInt32.ofNat (request.payload.length * sizeofChar))).payloadBytes = 0
        then (.success, pipe', [])
        else readExact (request.header
          (UInt32.ofNat (request.payload.length * sizeofChar))).payloadBytes.toNat pipe') =
      (.success, pipe'', Layout.uint16.encodeAll request.payload) ∧
      pipe''.incoming.flatten = rest := by
    split
    · next hzero =>
      have hnil : request.payload = [] := by
        have hzero' := congrArg UInt32.toNat hzero
        simp only [Request.header] at hzero'
        rw [hbytes, sizeofChar] at hzero'
        exact List.length_eq_zero_iff.1 (by simpa using hzero')
      rw [hnil] at hincoming' ⊢
      exact ⟨pipe', rfl, hincoming'⟩
    · obtain ⟨pipe'', hread, -, hrest⟩ := readExact_proper hproper' hincoming'
      rw [Layout.length_encodeAll] at hread
      exact ⟨pipe'', by rw [Request.header, hbytes]; exact hread, hrest⟩
  obtain ⟨pipe'', hread, hrest⟩ := hpayload
  refine ⟨pipe'', ?_, hrest⟩
  simp only [readRequest, hheader, Layout.decode_encode, isRequestHeaderValid_header h hvalid,
    Bool.not_true, Bool.false_eq_true, if_false, hread]
  have hchars : (request.header
      (UInt32.ofNat (request.payload.length * sizeofChar))).payloadBytes.toNat / sizeofChar =
      request.payload.length := by
    rw [Request.header, hbytes]
    exact Nat.mul_div_cancel _ (by decide)
  rw [hchars, Layout.decodeAll_encodeAll, Request.request_header, if_pos h]

/-- A request that is read is valid and takes its bytes off the pipe. -/
theorem readRequest_accepts {old : Request} (h : readRequest old pipe = (.success, pipe', read)) :
    isRequestValid read ∧ pipe.incoming.flatten = read.bytes ++ pipe'.incoming.flatten := by
  simp only [readRequest] at h
  rcases hheader : readExact RequestHeader.layout.width pipe with ⟨status, headerPipe, bytes⟩
  rw [hheader] at h
  cases status with
  | success =>
    obtain ⟨hlength, hflatten⟩ := readExact_success hheader
    obtain ⟨header, hdecoded⟩ : ∃ header, RequestHeader.layout.decode bytes = header := ⟨_, rfl⟩
    simp only [hdecoded] at h
    have hencoded : RequestHeader.layout.encode header = bytes := by
      rw [← hdecoded, RequestHeader.layout.encode_decode bytes hlength]
    cases hvalid : isRequestHeaderValid header with
    | false => simp [hvalid] at h
    | true =>
      simp only [hvalid, Bool.not_true, Bool.false_eq_true, if_false] at h
      rcases hpayload : (if header.payloadBytes = 0 then (.success, headerPipe, [])
        else readExact header.payloadBytes.toNat headerPipe) with ⟨status, payloadPipe, payload⟩
      rw [hpayload] at h
      cases status with
      | success =>
        simp only [Prod.mk.injEq] at h
        obtain ⟨hstatus, rfl, rfl⟩ := h
        obtain ⟨hcount, hrest⟩ : payload.length = header.payloadBytes.toNat ∧
            payload ++ payloadPipe.incoming.flatten = headerPipe.incoming.flatten := by
          split at hpayload
          · next hzero =>
            cases hpayload
            exact ⟨by rw [hzero]; rfl, rfl⟩
          · exact readExact_success hpayload
        split at hstatus
        · next hread =>
          exact ⟨hread, by rw [← hflatten, ← hrest, ← List.append_assoc, ← hencoded,
            bytes_request hvalid hcount]⟩
        · cases hstatus
      | timeout | cancelled | closed | invalidData | failed => cases h
  | timeout | cancelled | closed | invalidData | failed => cases h

/-! ## Responses on the wire -/

variable {response old : Response} {header : ResponseHeader}

@[simp] theorem ExitCode.ofUInt32_toUInt32 (code : ExitCode) : ofUInt32 code.toUInt32 = code := by
  cases code <;> rfl

/-- The number of bytes of a payload that has one. -/
theorem toNat_payloadByteCount {payload : WString} {payloadBytes : UInt32}
    (h : payloadByteCount payload = some payloadBytes) :
    payloadBytes.toNat = payload.length * sizeofChar ∧ isPayloadByteCountValid payloadBytes := by
  unfold payloadByteCount at h
  split at h
  · cases h
  · next hlength =>
    dsimp only at h
    split at h
    · next hvalid =>
      cases h
      refine ⟨UInt32.toNat_ofNat_of_lt' ?_, hvalid⟩
      simp only [sizeofChar, UInt32.size] at hlength ⊢
      omega
    · cases h

/-- The header of a response is valid, has the number of bytes of its payload and stands for it. -/
theorem makeResponseHeader_spec (h : makeResponseHeader response = some header) :
    isResponseHeaderValid header ∧
      header.payloadBytes.toNat = response.payload.length * sizeofChar ∧
      header.response response.payload = response := by
  unfold makeResponseHeader at h
  split at h
  · cases h
  · next payloadBytes hcount =>
    split at h
    · cases h
    · next hsendable =>
      cases h
      obtain ⟨hbytes, hvalid⟩ := toNat_payloadByteCount hcount
      simp only [Bool.or_eq_true, Bool.not_eq_true', not_or, Bool.not_eq_true,
        Bool.not_eq_false] at hsendable
      refine ⟨?_, hbytes, ?_⟩
      · simp only [isResponseHeaderValid, hvalid, hsendable.1, hsendable.2, beq_self_eq_true,
          Bool.not_false, Bool.and_self]
      · simp only [ResponseHeader.response, ExitCode.ofUInt32_toUInt32]

/-- What is read off a part of the bytes of a response is the response. -/
theorem readResponse_accepts {read : Response}
    (h : readResponse old pipe = (.success, pipe', read))
    (hpart : pipe.incoming.flatten <+: response.bytes) : read = response := by
  simp only [readResponse] at h
  rcases hread : readExact ResponseHeader.layout.width pipe with ⟨status, headerPipe, bytes⟩
  rw [hread] at h
  cases status with
  | success =>
    obtain ⟨hlength, hflatten⟩ := readExact_success hread
    have hwidth : ResponseHeader.layout.width = 32 := rfl
    rw [← hflatten] at hpart
    cases hmade : makeResponseHeader response with
    | none =>
      rw [Response.bytes, hmade] at hpart
      have hnil := List.eq_nil_of_prefix_nil hpart
      rw [(List.append_eq_nil_iff.1 hnil).1, hwidth] at hlength
      cases hlength
    | some header =>
      obtain ⟨hvalid, hcount, hresponse⟩ := makeResponseHeader_spec hmade
      rw [Response.bytes, hmade] at hpart
      obtain ⟨tail, htail⟩ := hpart
      dsimp only at htail
      rw [List.append_assoc] at htail
      obtain ⟨hheader, hpayload⟩ := List.append_inj htail
        (by rw [hlength, Layout.length_encode])
      simp only [hheader, Layout.decode_encode, hvalid, Bool.not_true, Bool.false_eq_true,
        if_false] at h
      rcases hrest : (if header.payloadBytes = 0 then (.success, headerPipe, [])
        else readExact header.payloadBytes.toNat headerPipe) with ⟨status, payloadPipe, payload⟩
      rw [hrest] at h
      cases status with
      | success =>
        simp only [Prod.mk.injEq] at h
        obtain ⟨-, -, rfl⟩ := h
        have hsame : payload = Layout.uint16.encodeAll response.payload := by
          split at hrest
          · next hzero =>
            cases hrest
            have hnil : response.payload = [] := by
              rw [hzero, sizeofChar] at hcount
              exact List.length_eq_zero_iff.1 (by simpa using hcount.symm)
            rw [hnil]
            rfl
          · obtain ⟨hsize, hbytes⟩ := readExact_success hrest
            rw [← hbytes, List.append_assoc] at hpayload
            refine (List.append_inj (hpayload.trans (List.append_nil _).symm) ?_).1
            rw [hsize, hcount, Layout.length_encodeAll]
            rfl
        have hchars : header.payloadBytes.toNat / sizeofChar = response.payload.length := by
          rw [hcount]
          exact Nat.mul_div_cancel _ (by decide)
        rw [hsame, hchars, Layout.decodeAll_encodeAll, hresponse]
      | timeout | cancelled | closed | invalidData | failed => cases h
  | timeout | cancelled | closed | invalidData | failed => cases h

/-- A response that can be sent is read off its bytes, whatever the fragments. -/
theorem readResponse_bytes {rest : List UInt8} (h : makeResponseHeader response = some header)
    (hproper : Proper pipe.incoming) (hincoming : pipe.incoming.flatten = response.bytes ++ rest)
    (old : Response) : ∃ pipe', readResponse old pipe = (.success, pipe', response) := by
  obtain ⟨hvalid, hcount, hresponse⟩ := makeResponseHeader_spec h
  have hbytes : response.bytes =
      ResponseHeader.layout.encode header ++ Layout.uint16.encodeAll response.payload := by
    rw [Response.bytes, h]
  rw [hbytes, List.append_assoc] at hincoming
  obtain ⟨pipe', hheader, hproper', hincoming'⟩ := readExact_proper hproper hincoming
  rw [Layout.length_encode] at hheader
  have hpayload : ∃ pipe'', (if header.payloadBytes = 0 then (.success, pipe', [])
      else readExact header.payloadBytes.toNat pipe') =
        (IoStatus.success, pipe'', Layout.uint16.encodeAll response.payload) := by
    split
    · next hzero =>
      have hnil : response.payload = [] := by
        rw [hzero, sizeofChar] at hcount
        exact List.length_eq_zero_iff.1 (by simpa using hcount.symm)
      rw [hnil]
      exact ⟨pipe', rfl⟩
    · obtain ⟨pipe'', hread, -, -⟩ := readExact_proper hproper' hincoming'
      rw [Layout.length_encodeAll] at hread
      exact ⟨pipe'', by rw [hcount]; exact hread⟩
  obtain ⟨pipe'', hread⟩ := hpayload
  have hchars : header.payloadBytes.toNat / sizeofChar = response.payload.length := by
    rw [hcount]
    exact Nat.mul_div_cancel _ (by decide)
  refine ⟨pipe'', ?_⟩
  simp only [readResponse, hheader, Layout.decode_encode, hvalid, Bool.not_true,
    Bool.false_eq_true, if_false, hread, hchars, Layout.decodeAll_encodeAll, hresponse]

end PlaybackConnector.Control
