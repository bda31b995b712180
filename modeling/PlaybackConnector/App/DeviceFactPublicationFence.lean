import PlaybackConnector.Session.State
import PlaybackConnector.Transition.Changes
import Mathlib

/-!
# The fence of device facts

`DeviceFactPublicationFence` (`DeviceFactPublicationFence.hpp:20`) is told the status of a device
with every fact and gives out a token for each of two channels, the connected flag and the status.
An event carries a token, and whoever consumes the event later asks whether it still is current.

What the fence holds of a device is determined by the statuses it was told of it (`DeviceState.of`):
a generation counts the changes of its channel (`changes`). So a token is current exactly as long as
the device was told with the same value of the channel, and no generation of it is exhausted
(`isCurrent_iff`).
-/

namespace PlaybackConnector

namespace DeviceFactPublicationFence

/-- Source: `Status` (`DeviceFactPublicationFence.hpp:22`). -/
inductive Status
  | none | ready | connecting | reconnecting | connected | error | waitingForReconnect
deriving Repr, DecidableEq

/-- Source: `Token::Channel` (`DeviceFactPublicationFence.hpp:25`). -/
inductive Channel
  | connection | status
deriving Repr, DecidableEq

/-- Source: `Token` (`DeviceFactPublicationFence.hpp:24`). -/
structure Token where
  deviceId : WString
  generation : Nat
  factChannel : Channel
deriving Repr, DecidableEq

/-- Source: `Observation` (`DeviceFactPublicationFence.hpp:32`). -/
structure Observation where
  wasConnected : Bool
  wasWaitingForReconnect : Bool
  connection : Token
  state : Token
deriving Repr, DecidableEq

/-- Source: `DeviceState` (`DeviceFactPublicationFence.hpp:61`). -/
structure DeviceState where
  isConnected : Bool := false
  currentStatus : Status := .none
  connectionGeneration : Nat := 0
  statusGeneration : Nat := 0
  isGenerationExhausted : Bool := false
deriving Repr, DecidableEq

/-- The devices of a fence. Source: `m_devices` (`DeviceFactPublicationFence.hpp:90`). -/
abbrev Devices := WString → Option DeviceState

/-- The last value of a `std::uint64_t`. -/
def maxGeneration : Nat := 2 ^ 64 - 1

/-- A generation, and whether one is exhausted. Source: `AdvanceGeneration`
(`DeviceFactPublicationFence.hpp:81`). -/
def advanceGeneration (generation : Nat) (isExhausted : Bool) : Nat × Bool :=
  if generation = maxGeneration then (generation, true) else (generation + 1, isExhausted)

namespace DeviceState

/-- Source: `UpdateConnection` (`DeviceFactPublicationFence.hpp:69`). -/
def updateConnection (isConnected : Bool) (state : DeviceState) : DeviceState :=
  if state.isConnected = isConnected then state
  else
    let advanced := advanceGeneration state.connectionGeneration state.isGenerationExhausted
    { state with
      isConnected
      connectionGeneration := advanced.1
      isGenerationExhausted := advanced.2 }

/-- Source: `UpdateStatus` (`DeviceFactPublicationFence.hpp:75`). -/
def updateStatus (status : Status) (state : DeviceState) : DeviceState :=
  if state.currentStatus = status then state
  else
    let advanced := advanceGeneration state.statusGeneration state.isGenerationExhausted
    { state with
      currentStatus := status
      statusGeneration := advanced.1
      isGenerationExhausted := advanced.2 }

/-- A device after it was told. -/
def observe (status : Status) (state : DeviceState) : DeviceState :=
  (state.updateConnection (status == .connected)).updateStatus status

end DeviceState

/-- The devices after one was told. -/
def observed (deviceId : WString) (status : Status) (devices : Devices) : Devices :=
  Function.update devices deviceId (some (((devices deviceId).getD {}).observe status))

/-- Source: `Observe` (`DeviceFactPublicationFence.hpp:39`), what it returns. -/
def observe (deviceId : WString) (status : Status) (devices : Devices) : Observation :=
  let state := (devices deviceId).getD {}
  let told := state.observe status
  { wasConnected := state.isConnected
    wasWaitingForReconnect := state.currentStatus == .waitingForReconnect
    connection := ⟨deviceId, told.connectionGeneration, .connection⟩
    state := ⟨deviceId, told.statusGeneration, .status⟩ }

/-- Source: `IsCurrent` (`DeviceFactPublicationFence.hpp:52`). -/
def isCurrent (devices : Devices) (token : Token) : Bool :=
  match devices token.deviceId with
  | none => false
  | some state =>
    if state.isGenerationExhausted then false
    else
      match token.factChannel with
      | .connection => state.connectionGeneration == token.generation
      | .status => state.statusGeneration == token.generation

/-- A generation of the device is exhausted. -/
def isExhausted (devices : Devices) (deviceId : WString) : Bool :=
  ((devices deviceId).getD {}).isGenerationExhausted

/-! ## What the fence holds -/

/-- The value of a channel: the connected flag, or the status. -/
def Channel.value : Channel → Status → Bool ⊕ Status
  | .connection, told => .inl (told == .connected)
  | .status, told => .inr told

/-- How often the value of a channel changed while a device was told of. -/
def Channel.changes (channel : Channel) (told : List Status) : Nat :=
  PlaybackConnector.changes (channel.value .none) (told.map channel.value)

/-- The generation of a channel of a device that was told of. -/
def Channel.generation (channel : Channel) (told : List Status) : Nat :=
  min (channel.changes told) maxGeneration

/-- What the fence holds of a device that was told of. -/
def DeviceState.of (told : List Status) : DeviceState where
  isConnected := latest .none told == .connected
  currentStatus := latest .none told
  connectionGeneration := Channel.connection.generation told
  statusGeneration := Channel.status.generation told
  isGenerationExhausted := decide (maxGeneration < Channel.status.changes told)

/-- The statuses that a device was told with, among those of all devices. -/
def statuses (deviceId : WString) (told : List (WString × Status)) : List Status :=
  told.filterMap fun entry => if entry.1 = deviceId then some entry.2 else none

/-- The devices of a fence that was told of them. -/
def Devices.of (told : List (WString × Status)) : Devices := fun deviceId =>
  match statuses deviceId told with
  | [] => none
  | status :: rest => some (DeviceState.of (status :: rest))

variable {channel : Channel} {told later : List Status} {status : Status} {deviceId : WString}
  {observations : List (WString × Status)}

theorem Channel.changes_concat (channel : Channel) :
    channel.changes (told ++ [status]) = channel.changes told +
      if channel.value status = channel.value (latest .none told) then 0 else 1 := by
  simp only [Channel.changes, List.map_append, List.map_cons, List.map_nil]
  rw [PlaybackConnector.changes_concat, latest_map]

/-- A generation after one more status. -/
theorem Channel.generation_concat (channel : Channel) :
    channel.generation (told ++ [status]) =
      if channel.value status = channel.value (latest .none told) then channel.generation told
      else min (channel.generation told + 1) maxGeneration := by
  unfold Channel.generation
  rw [Channel.changes_concat]
  split <;> omega

/-- The connected flag changes only when the status does. -/
theorem Channel.changes_connection_le :
    Channel.connection.changes told ≤ Channel.status.changes told := by
  let flag : Bool ⊕ Status → Bool ⊕ Status := fun value => value.elim .inl Channel.connection.value
  have hflag : told.map Channel.connection.value = (told.map Channel.status.value).map flag := by
    rw [List.map_map]
    rfl
  have hle : PlaybackConnector.changes (flag (.inr .none))
      ((told.map Channel.status.value).map flag) ≤ _ := changes_map_le flag
  unfold Channel.changes
  rw [hflag]
  exact hle

theorem Channel.changes_le (hrange : Channel.status.changes told ≤ maxGeneration) :
    channel.changes told ≤ maxGeneration := by
  cases channel with
  | connection => exact Nat.le_trans changes_connection_le hrange
  | status => exact hrange

theorem advanceGeneration_of (channel : Channel) (isExhausted : Bool) :
    advanceGeneration (channel.generation told) isExhausted =
      (min (channel.generation told + 1) maxGeneration,
        isExhausted || decide (maxGeneration ≤ channel.changes told)) := by
  unfold advanceGeneration Channel.generation
  by_cases hfull : maxGeneration ≤ channel.changes told
  · rw [if_pos (Nat.min_eq_right hfull)]
    simp [hfull]
  · have hsame : min (channel.changes told) maxGeneration = channel.changes told :=
      Nat.min_eq_left (Nat.le_of_not_le hfull)
    rw [hsame, if_neg fun heq => hfull (Nat.le_of_eq heq.symm), decide_eq_false hfull,
      Bool.or_false, Nat.min_eq_left (Nat.lt_of_not_le hfull)]

/-- One more status takes the fence to what it holds after all of them. -/
theorem DeviceState.observe_of :
    (DeviceState.of told).observe status = DeviceState.of (told ++ [status]) := by
  have hle : Channel.connection.changes told ≤ Channel.status.changes told :=
    Channel.changes_connection_le
  have hconnection : Channel.connection.generation (told ++ [status]) = _ :=
    Channel.connection.generation_concat
  have hstatus : Channel.status.generation (told ++ [status]) = _ :=
    Channel.status.generation_concat
  have hchanges : Channel.status.changes (told ++ [status]) = _ := Channel.status.changes_concat
  simp only [DeviceState.of, latest_concat, hconnection, hstatus, hchanges, Channel.value,
    Sum.inl.injEq, Sum.inr.injEq]
  simp only [DeviceState.observe, DeviceState.updateConnection, DeviceState.updateStatus,
    advanceGeneration_of]
  by_cases hsame : latest .none told = status
  · simp [hsame]
  · have hsame' : ¬ status = latest .none told := Ne.symm hsame
    by_cases hflag : (latest .none told == .connected) = (status == .connected)
    · simp only [hflag, hsame, hsame', if_true, if_false, advanceGeneration_of]
      congr 1
      rw [← Bool.decide_or, decide_eq_decide]
      omega
    · have hflag' : ¬ (status == .connected) = (latest .none told == .connected) := Ne.symm hflag
      simp only [hflag, hflag', hsame, hsame', if_false, advanceGeneration_of]
      congr 1
      rw [← Bool.decide_or, ← Bool.decide_or, decide_eq_decide]
      omega

@[simp] theorem statuses_nil : statuses deviceId [] = [] := rfl

theorem statuses_append (before after : List (WString × Status)) :
    statuses deviceId (before ++ after) = statuses deviceId before ++ statuses deviceId after :=
  List.filterMap_append

theorem statuses_concat (id : WString) :
    statuses deviceId (observations ++ [(id, status)]) =
      statuses deviceId observations ++ if id = deviceId then [status] else [] := by
  rw [statuses_append]
  by_cases hid : id = deviceId <;> simp [statuses, hid]

/-- What the fence holds of a device, with the values of one that it was not told of. -/
theorem Devices.of_getD : ((Devices.of observations) deviceId).getD {} =
    DeviceState.of (statuses deviceId observations) := by
  unfold Devices.of
  split
  next hnone =>
    rw [hnone]
    rfl
  next status rest hsome =>
    rw [hsome]
    rfl

theorem Devices.of_eq (h : statuses deviceId observations ≠ []) :
    Devices.of observations deviceId = some (DeviceState.of (statuses deviceId observations)) := by
  unfold Devices.of
  split
  next hnone => exact absurd hnone h
  next status rest hsome => rw [hsome]

/-- The fence holds what it was told. -/
theorem observed_of : observed deviceId status (Devices.of observations) =
    Devices.of (observations ++ [(deviceId, status)]) := by
  funext id
  unfold observed
  rw [Devices.of_getD, DeviceState.observe_of]
  by_cases hid : id = deviceId
  · subst hid
    rw [Function.update_self]
    have htold : statuses id (observations ++ [(id, status)]) =
        statuses id observations ++ [status] := by
      rw [statuses_concat, if_pos rfl]
    rw [Devices.of_eq (by rw [htold]; simp), htold]
  · rw [Function.update_of_ne hid]
    unfold Devices.of
    rw [statuses_concat, if_neg (Ne.symm hid), List.append_nil]

theorem isExhausted_of : isExhausted (Devices.of observations) deviceId = true ↔
    2 ^ 64 ≤ Channel.status.changes (statuses deviceId observations) := by
  unfold isExhausted
  rw [Devices.of_getD]
  unfold DeviceState.of maxGeneration
  rw [decide_eq_true_eq]
  omega

/-- The token of a channel of a device that was told of. -/
def Token.of (channel : Channel) (deviceId : WString) (observations : List (WString × Status)) :
    Token :=
  ⟨deviceId, channel.generation (statuses deviceId observations), channel⟩

/-- What an observation returns. -/
theorem observe_of : observe deviceId status (Devices.of observations) =
    { wasConnected := latest .none (statuses deviceId observations) == .connected
      wasWaitingForReconnect :=
        latest .none (statuses deviceId observations) == .waitingForReconnect
      connection := Token.of .connection deviceId (observations ++ [(deviceId, status)])
      state := Token.of .status deviceId (observations ++ [(deviceId, status)]) } := by
  unfold observe Token.of
  simp only [Devices.of_getD, DeviceState.observe_of, statuses_concat, if_true]
  rfl

theorem isCurrent_eq {token : Token} (htold : statuses token.deviceId observations ≠ []) :
    isCurrent (Devices.of observations) token = true ↔
      ¬ isExhausted (Devices.of observations) token.deviceId = true ∧
        token.factChannel.generation (statuses token.deviceId observations) =
          token.generation := by
  unfold isCurrent isExhausted
  rw [Devices.of_eq htold]
  simp only [Option.getD_some]
  cases hexhausted : (DeviceState.of (statuses token.deviceId observations)).isGenerationExhausted
  · cases hchannel : token.factChannel <;> simp [DeviceState.of]
  · simp

/-- A token is current exactly if no generation of its device is exhausted and the device has been
told with the same value of the token's channel ever since. What was told of other devices does not
matter. -/
theorem isCurrent_iff {before after : List (WString × Status)}
    (htold : statuses deviceId before ≠ []) :
    isCurrent (Devices.of (before ++ after)) (Token.of channel deviceId before) = true ↔
      ¬ isExhausted (Devices.of (before ++ after)) deviceId = true ∧
        ∀ later ∈ statuses deviceId after,
          channel.value later = channel.value (latest .none (statuses deviceId before)) := by
  have hsome : statuses deviceId (before ++ after) ≠ [] := by
    rw [statuses_append]
    exact fun hnil => htold (List.append_eq_nil_iff.1 hnil).1
  rw [isCurrent_eq hsome]
  refine and_congr_right fun hfresh => ?_
  have hrange : channel.changes (statuses deviceId (before ++ after)) ≤ maxGeneration := by
    have hlt := mt isExhausted_of.2 hfresh
    exact Channel.changes_le (Nat.le_of_lt_succ (Nat.lt_of_not_le hlt))
  unfold Token.of Channel.generation Channel.changes at *
  rw [statuses_append, List.map_append] at *
  rw [min_changes_append_eq_iff hrange, latest_map]
  simp only [List.mem_map, forall_exists_index, and_imp, forall_apply_eq_imp_iff₂]

end DeviceFactPublicationFence

end PlaybackConnector
