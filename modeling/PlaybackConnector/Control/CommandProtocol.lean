import PlaybackConnector.Session.State
import PlaybackConnector.Wire.Layout
import Mathlib

/-!
# The command protocol

The requests and responses of the command-line control, what makes one valid, and how their
headers lie in memory.
-/

namespace PlaybackConnector.Control

open Wire

/-! ## Protocol values -/

/-- Source: `c_protocolVersion` (`CommandProtocol.hpp:16`). -/
def protocolVersion : UInt32 := 2

/-- Source: `c_requestMagic` (`CommandProtocol.hpp:17`). -/
def requestMagic : UInt32 := 0x32514341

/-- Source: `c_responseMagic` (`CommandProtocol.hpp:18`). -/
def responseMagic : UInt32 := 0x32524341

/-- Source: `c_acknowledgementMagic` (`CommandProtocol.hpp:19`). -/
def acknowledgementMagic : UInt32 := 0x32414341

/-- Source: `c_maxPayloadBytes` (`CommandProtocol.hpp:20`). -/
def maxPayloadBytes : Nat := 64 * 1024

/-- Source: `sizeof(wchar_t)`. -/
def sizeofChar : Nat := 2

/-- What a request asks for. Source: `CommandType` (`CommandProtocol.hpp:22`). -/
inductive CommandType where
  | unknown | list | status | connect | disconnect | reconnect | toggleLast | disconnectAll
  | reconnectAll | «show» | settings | defaultShow | defaultSet | defaultClear | aliasSet
  | aliasClear | aliasList
  deriving DecidableEq, Repr

/-- The number of a command. -/
def CommandType.toUInt32 : CommandType → UInt32
  | unknown => 0
  | list => 1
  | status => 2
  | connect => 3
  | disconnect => 4
  | reconnect => 5
  | toggleLast => 6
  | disconnectAll => 7
  | reconnectAll => 8
  | «show» => 9
  | settings => 10
  | defaultShow => 11
  | defaultSet => 12
  | defaultClear => 13
  | aliasSet => 14
  | aliasClear => 15
  | aliasList => 16

/-- The command of a number. -/
def CommandType.ofUInt32 (value : UInt32) : CommandType :=
  match value.toNat with
  | 1 => list
  | 2 => status
  | 3 => connect
  | 4 => disconnect
  | 5 => reconnect
  | 6 => toggleLast
  | 7 => disconnectAll
  | 8 => reconnectAll
  | 9 => «show»
  | 10 => settings
  | 11 => defaultShow
  | 12 => defaultSet
  | 13 => defaultClear
  | 14 => aliasSet
  | 15 => aliasClear
  | 16 => aliasList
  | _ => unknown

/-- How a request names its device. Source: `TargetKind` (`CommandProtocol.hpp:42`). -/
inductive TargetKind where
  | none | id | name | mac | last | auto | «alias» | default
  deriving DecidableEq, Repr

/-- The number of a kind of target. -/
def TargetKind.toUInt32 : TargetKind → UInt32
  | none => 0
  | id => 1
  | name => 2
  | mac => 3
  | last => 4
  | auto => 5
  | «alias» => 6
  | default => 7

/-- The kind of target of a number. -/
def TargetKind.ofUInt32 (value : UInt32) : TargetKind :=
  match value.toNat with
  | 1 => id
  | 2 => name
  | 3 => mac
  | 4 => last
  | 5 => auto
  | 6 => «alias»
  | 7 => default
  | _ => none

/-- Source: `CommandFlagJson` (`CommandProtocol.hpp:53`). -/
def commandFlagJson : UInt32 := 1

/-- Source: `CommandFlagRaw` (`CommandProtocol.hpp:53`). -/
def commandFlagRaw : UInt32 := 2

/-- How a request ended. Source: `ExitCode` (`CommandProtocol.hpp:55`). -/
inductive ExitCode where
  | success | invalidRequest | notFound | ambiguous | operationFailed | unavailable | busy
  | indeterminate
  deriving DecidableEq, Repr

/-- The number of an exit code. -/
def ExitCode.toUInt32 : ExitCode → UInt32
  | success => 0
  | invalidRequest => 3
  | notFound => 4
  | ambiguous => 5
  | operationFailed => 6
  | unavailable => 7
  | busy => 8
  | indeterminate => 9

/-- What tells one request from another. Source: `CorrelationId` (`CommandProtocol.hpp:66`). -/
structure CorrelationId where
  /-- Source: `High`. -/
  high : UInt64 := 0
  /-- Source: `Low`. -/
  low : UInt64 := 0
  deriving DecidableEq, Repr

/-- Source: `CorrelationId::Empty` (`CommandProtocol.hpp:70`). -/
def CorrelationId.empty (id : CorrelationId) : Bool := id.high == 0 && id.low == 0

/-! ## Messages -/

/-- What a request starts with on the wire. Source: `RequestHeader` (`CommandProtocol.hpp:85`). -/
structure RequestHeader where
  /-- Source: `Magic`. -/
  magic : UInt32 := requestMagic
  /-- Source: `Version`. -/
  version : UInt32 := protocolVersion
  /-- Source: `CorrelationHigh`. -/
  correlationHigh : UInt64 := 0
  /-- Source: `CorrelationLow`. -/
  correlationLow : UInt64 := 0
  /-- Source: `Command`. -/
  command : UInt32 := 0
  /-- Source: `Target`. -/
  target : UInt32 := 0
  /-- Source: `Flags`. -/
  flags : UInt32 := 0
  /-- Source: `PayloadBytes`. -/
  payloadBytes : UInt32 := 0
  deriving DecidableEq

/-- How a request's header lies in memory. -/
def RequestHeader.layout : Layout RequestHeader :=
  (Layout.uint32.prod <| Layout.uint32.prod <| Layout.uint64.prod <| Layout.uint64.prod <|
    Layout.uint32.prod <| Layout.uint32.prod <| Layout.uint32.prod Layout.uint32).map
  { toFun := fun ⟨magic, version, high, low, command, target, flags, bytes⟩ =>
      ⟨magic, version, high, low, command, target, flags, bytes⟩
    invFun := fun ⟨magic, version, high, low, command, target, flags, bytes⟩ =>
      ⟨magic, version, high, low, command, target, flags, bytes⟩
    left_inv := fun _ => rfl
    right_inv := fun _ => rfl }

/-- What a response starts with on the wire. Source: `ResponseHeader`
(`CommandProtocol.hpp:96`). -/
structure ResponseHeader where
  /-- Source: `Magic`. -/
  magic : UInt32 := responseMagic
  /-- Source: `Version`. -/
  version : UInt32 := protocolVersion
  /-- Source: `CorrelationHigh`. -/
  correlationHigh : UInt64 := 0
  /-- Source: `CorrelationLow`. -/
  correlationLow : UInt64 := 0
  /-- Source: `ExitCode`. -/
  exitCode : UInt32 := 0
  /-- Source: `PayloadBytes`. -/
  payloadBytes : UInt32 := 0
  deriving DecidableEq

/-- How a response's header lies in memory. -/
def ResponseHeader.layout : Layout ResponseHeader :=
  (Layout.uint32.prod <| Layout.uint32.prod <| Layout.uint64.prod <| Layout.uint64.prod <|
    Layout.uint32.prod Layout.uint32).map
  { toFun := fun ⟨magic, version, high, low, code, bytes⟩ =>
      ⟨magic, version, high, low, code, bytes⟩
    invFun := fun ⟨magic, version, high, low, code, bytes⟩ =>
      ⟨magic, version, high, low, code, bytes⟩
    left_inv := fun _ => rfl
    right_inv := fun _ => rfl }

/-- What a client answers a response with. Source: `Acknowledgement`
(`CommandProtocol.hpp:105`). -/
structure Acknowledgement where
  /-- Source: `Magic`. -/
  magic : UInt32 := acknowledgementMagic
  /-- Source: `Version`. -/
  version : UInt32 := protocolVersion
  /-- Source: `CorrelationHigh`. -/
  correlationHigh : UInt64 := 0
  /-- Source: `CorrelationLow`. -/
  correlationLow : UInt64 := 0
  deriving DecidableEq

/-- How an acknowledgement lies in memory. -/
def Acknowledgement.layout : Layout Acknowledgement :=
  (Layout.uint32.prod <| Layout.uint32.prod <| Layout.uint64.prod Layout.uint64).map
  { toFun := fun ⟨magic, version, high, low⟩ => ⟨magic, version, high, low⟩
    invFun := fun ⟨magic, version, high, low⟩ => ⟨magic, version, high, low⟩
    left_inv := fun _ => rfl
    right_inv := fun _ => rfl }

/-- Source: the assertion at `CommandProtocol.hpp:112`. -/
@[simp] theorem RequestHeader.layout_width : RequestHeader.layout.width = 40 := rfl

/-- Source: the assertion at `CommandProtocol.hpp:113`. -/
@[simp] theorem ResponseHeader.layout_width : ResponseHeader.layout.width = 32 := rfl

/-- Source: the assertion at `CommandProtocol.hpp:114`. -/
@[simp] theorem Acknowledgement.layout_width : Acknowledgement.layout.width = 24 := rfl

/-- A request. Source: `Request` (`CommandProtocol.hpp:116`). -/
structure Request where
  /-- Source: `Command`. -/
  command : CommandType := .unknown
  /-- Source: `Target`. -/
  target : TargetKind := .none
  /-- Source: `Flags`. -/
  flags : UInt32 := 0
  /-- Source: `Payload`. -/
  payload : WString := []
  /-- Source: `CorrelationId`. -/
  correlationId : CorrelationId := {}
  deriving DecidableEq, Repr

/-- A response. Source: `Response` (`CommandProtocol.hpp:124`). -/
structure Response where
  /-- Source: `Code`. -/
  code : ExitCode := .success
  /-- Source: `Payload`. -/
  payload : WString := []
  /-- Source: `CorrelationId`. -/
  correlationId : CorrelationId := {}
  deriving DecidableEq, Repr

/-! ## Validation -/

/-- Source: `IsPayloadByteCountValid` (`CommandProtocol.hpp:134`). -/
def isPayloadByteCountValid (byteCount : UInt32) : Bool :=
  decide (byteCount.toNat ≤ maxPayloadBytes) && byteCount.toNat % sizeofChar == 0

/-- Source: `IsKnownCommand` (`CommandProtocol.hpp:138`). -/
def isKnownCommand (value : UInt32) : Bool :=
  decide (CommandType.list.toUInt32.toNat ≤ value.toNat) &&
    decide (value.toNat ≤ CommandType.aliasList.toUInt32.toNat)

/-- Source: `IsKnownTarget` (`CommandProtocol.hpp:143`). -/
def isKnownTarget (value : UInt32) : Bool :=
  decide (value.toNat ≤ TargetKind.default.toUInt32.toNat)

/-- Source: `IsKnownExitCode` (`CommandProtocol.hpp:147`). -/
def isKnownExitCode (value : UInt32) : Bool :=
  value == ExitCode.success.toUInt32 ||
    (decide (ExitCode.invalidRequest.toUInt32.toNat ≤ value.toNat) &&
      decide (value.toNat ≤ ExitCode.indeterminate.toUInt32.toNat))

/-- Only the flags that there are. Source: `CommandProtocol.hpp:156`, `CommandProtocol.hpp:208`. -/
def areFlagsKnown (flags : UInt32) : Bool :=
  flags &&& ~~~(commandFlagJson ||| commandFlagRaw) == 0

/-- Source: `isExplicitTarget` (`CommandProtocol.hpp:161`). -/
def Request.isExplicitTarget (request : Request) : Bool :=
  request.target == .id || request.target == .name || request.target == .mac ||
    request.target == .auto || request.target == .alias

/-- Source: `hasExplicitTarget` (`CommandProtocol.hpp:166`). -/
def Request.hasExplicitTarget (request : Request) : Bool :=
  request.isExplicitTarget && !request.payload.isEmpty

/-- What the command of a request asks of its target and its payload. Source: the cases of
`IsRequestValid` (`CommandProtocol.hpp:168`). -/
def Request.suitsCommand (request : Request) : Bool :=
  match request.command with
  | .list | .status | .disconnectAll | .reconnectAll | .show | .settings | .defaultShow
  | .defaultClear | .aliasList => request.target == .none && request.payload.isEmpty
  | .connect | .disconnect | .reconnect | .toggleLast =>
    request.hasExplicitTarget ||
      ((request.target == .last || request.target == .default) && request.payload.isEmpty)
  | .defaultSet | .aliasClear => request.hasExplicitTarget
  | .aliasSet =>
    request.isExplicitTarget &&
      -- `\n` ends the device's name, and the alias after it is one line.
      match request.payload.findIdx? (· == 10) with
      | none => false
      | some separator =>
        decide (0 < separator) && decide (separator + 1 < request.payload.length) &&
          (request.payload.drop (separator + 1)).all fun c => c != 13 && c != 10
  | .unknown => false

/-- Source: `IsRequestValid` (`CommandProtocol.hpp:153`). -/
def isRequestValid (request : Request) : Bool :=
  !request.correlationId.empty && isKnownCommand request.command.toUInt32 &&
    isKnownTarget request.target.toUInt32 && areFlagsKnown request.flags &&
    decide (request.payload.length ≤ maxPayloadBytes / sizeofChar) && !request.payload.contains 0 &&
    request.suitsCommand

/-- Source: `PayloadByteCount` (`CommandProtocol.hpp:197`). -/
def payloadByteCount (payload : WString) : Option UInt32 :=
  if payload.length > (2 ^ 32 - 1) / sizeofChar then none
  else
    let byteCount := UInt32.ofNat (payload.length * sizeofChar)
    if isPayloadByteCountValid byteCount then some byteCount else none

/-- Source: `IsRequestHeaderValid` (`CommandProtocol.hpp:204`). -/
def isRequestHeaderValid (header : RequestHeader) : Bool :=
  header.magic == requestMagic && header.version == protocolVersion &&
    !CorrelationId.empty ⟨header.correlationHigh, header.correlationLow⟩ &&
    isKnownCommand header.command && isKnownTarget header.target && areFlagsKnown header.flags &&
    isPayloadByteCountValid header.payloadBytes

/-- Source: `MakeResponseHeader` (`CommandProtocol.hpp:211`). -/
def makeResponseHeader (response : Response) : Option ResponseHeader :=
  match payloadByteCount response.payload with
  | none => none
  | some payloadBytes =>
    if response.correlationId.empty || !isKnownExitCode response.code.toUInt32 then none
    else some {
      correlationHigh := response.correlationId.high
      correlationLow := response.correlationId.low
      exitCode := response.code.toUInt32
      payloadBytes := payloadBytes }

/-- Source: `IsAcknowledgementValid` (`CommandProtocol.hpp:225`). -/
def isAcknowledgementValid (acknowledgement : Acknowledgement) (expected : CorrelationId) : Bool :=
  acknowledgement.magic == acknowledgementMagic && acknowledgement.version == protocolVersion &&
    acknowledgement.correlationHigh == expected.high &&
    acknowledgement.correlationLow == expected.low

/-! ## Facts -/

@[simp] theorem CommandType.ofUInt32_toUInt32 (command : CommandType) :
    ofUInt32 command.toUInt32 = command := by
  cases command <;> rfl

@[simp] theorem TargetKind.ofUInt32_toUInt32 (target : TargetKind) :
    ofUInt32 target.toUInt32 = target := by
  cases target <;> rfl

/-- The number of the command that a known number stands for is this number. -/
theorem CommandType.toUInt32_ofUInt32 {value : UInt32} (h : isKnownCommand value) :
    (ofUInt32 value).toUInt32 = value := by
  simp only [isKnownCommand, Bool.and_eq_true, decide_eq_true_eq] at h
  obtain ⟨hlow, hhigh⟩ : 1 ≤ value.toNat ∧ value.toNat ≤ 16 := h
  apply UInt32.toNat_inj.1
  unfold ofUInt32
  generalize value.toNat = number at hlow hhigh
  interval_cases number <;> rfl

/-- The number of the kind of target that a known number stands for is this number. -/
theorem TargetKind.toUInt32_ofUInt32 {value : UInt32} (h : isKnownTarget value) :
    (ofUInt32 value).toUInt32 = value := by
  have hhigh : value.toNat ≤ 7 := of_decide_eq_true h
  apply UInt32.toNat_inj.1
  unfold ofUInt32
  generalize value.toNat = number at hhigh
  interval_cases number <;> rfl

/-- A number of payload bytes that is valid is that of whole characters. -/
theorem isPayloadByteCountValid_iff {byteCount : UInt32} :
    isPayloadByteCountValid byteCount ↔
      byteCount.toNat ≤ maxPayloadBytes ∧ byteCount.toNat / sizeofChar * sizeofChar =
        byteCount.toNat := by
  simp only [isPayloadByteCountValid, Bool.and_eq_true, decide_eq_true_eq, beq_iff_eq, sizeofChar]
  omega

/-- A payload that is short enough has its number of bytes. -/
theorem payloadByteCount_eq {payload : WString}
    (h : payload.length ≤ maxPayloadBytes / sizeofChar) :
    ∃ byteCount, payloadByteCount payload = some byteCount ∧
      byteCount.toNat = payload.length * sizeofChar ∧ isPayloadByteCountValid byteCount := by
  simp only [maxPayloadBytes, sizeofChar] at h
  have hbytes : (UInt32.ofNat (payload.length * sizeofChar)).toNat =
      payload.length * sizeofChar := by
    apply UInt32.toNat_ofNat_of_lt'
    simp only [sizeofChar, UInt32.size]
    omega
  have hvalid : isPayloadByteCountValid (UInt32.ofNat (payload.length * sizeofChar)) := by
    rw [isPayloadByteCountValid_iff, hbytes]
    simp only [maxPayloadBytes, sizeofChar]
    omega
  refine ⟨_, ?_, hbytes, hvalid⟩
  rw [payloadByteCount, if_neg (by simp only [sizeofChar]; omega), if_pos hvalid]

end PlaybackConnector.Control
