import PlaybackConnector.Settings.Mutations
import PlaybackConnector.Transition.System
import Mathlib

/-!
# The settings store and its persistence

`SettingsStore::Impl` (`SettingsStore.cpp:158`). Every event is one critical section of `mutex`, or
one call of the storage between two of them, by any thread: a setter, `Load`, `FlushNow`, the worker
and `Shutdown`. `calls` says where each thread stands in `FlushSynchronously`, which the worker runs
too when the store closes; a write is under way from the critical section that captures the revision
to the one that records what became of it.

A setter that is called during a load waits for its end, so its event is not enabled before. The
publication to subscribers does not touch these fields and is left out. What no code reads comes
last: `base` and `applied` are where the data comes from, `lastFile` is what was last read or
written successfully, `returned` what the calls of `FlushNow` and `Shutdown` returned, and
`existed`, `takenOver` and `preserved` tell what became of the file that `Load` found.
-/

namespace PlaybackConnector.Settings

namespace Store

/-! ## Threads and their calls -/

/-- The threads: the persistence worker, and the callers. -/
inductive ThreadId
  | worker | caller (number : Nat)
deriving Repr, DecidableEq

/-- A write under way: what was captured, and what became of `Write` once it has returned. -/
structure Write where
  revision : Nat
  snapshot : SettingsData
  succeeded : Option Bool := none
deriving DecidableEq

/-- Where a thread stands in `FlushSynchronously`, and how many attempts it has left. -/
inductive Flush
  | away
  | entering (remaining : Nat)
  | waiting (remaining : Nat)
  | writing (remaining : Nat) (write : Write)
deriving DecidableEq

/-- Where the worker stands. -/
inductive Worker
  | looping
  | writing (write : Write)
  | flushing
  | flushed (result : Bool)
  | leaving
  | finished
deriving DecidableEq

/-- Where a `Load` stands that found the store unchanged. -/
inductive Load
  | reading
  | failed
  | decoded (bytes : ByteArray) (decoded : DecodedSettings)
  | ended (originalPreserved : Bool)

/-- Where the `Shutdown` stands that closed the store. -/
inductive Shutdown
  | draining | fenced (result : Bool) | completed
deriving Repr, DecidableEq

/-- Source: `SettingsShutdownMode` (`SettingsStore.hpp:42`). -/
inductive ShutdownMode
  | flush | discardStartupFailure
deriving Repr, DecidableEq

/-- A call whose result the owner of the store sees. -/
inductive Call
  | flushNow (number : Nat) | shutdown
deriving Repr, DecidableEq

/-- Source: the fields of `SettingsStore::Impl` that `mutex` guards (`SettingsStore.cpp:179`). -/
structure State where
  data : SettingsData := {}
  revision : Nat := 0
  persistedRevision : Nat := 0
  timerArmed : Bool := false
  due : Nat := 0
  writerActive : Bool := false
  closing : Bool := false
  shutdownRequested : Bool := false
  shutdownCoreComplete : Bool := false
  shutdownResult : Bool := false
  discardRequested : Bool := false
  workerFinished : Bool := false
  workerFlushResult : Bool := false
  shutdownAttempts : Nat := 3
  loadClaimed : Bool := false
  loadActive : Bool := false
  preservationFailed : Bool := false
  failures : Nat := 0
  worker : Worker := .looping
  calls : ThreadId → Flush := fun _ => .away
  loader : Option Load := none
  shutdown : Option Shutdown := none
  base : SettingsData := {}
  applied : List Mutation := []
  lastFile : Option ByteArray := none
  returned : List (Call × Bool) := []
  existed : Bool := false
  takenOver : Bool := false
  preserved : Bool := false

/-! ## Constants -/

/-- Source: `c_debounceDelay` (`SettingsStore.cpp:29`), in milliseconds. -/
def debounceDelay : Nat := 300

/-- Source: `c_maxRetryDelay` (`SettingsStore.cpp:30`), in milliseconds. -/
def maxRetryDelay : Nat := 5 * 60 * 1000

/-- Source: `RetryDelay` (`SettingsStore.cpp:32`). -/
def retryDelay (failures : Nat) : Nat :=
  let exponent := min (if failures = 0 then 0 else failures - 1) 10
  min (1000 * 2 ^ exponent) maxRetryDelay

/-- The greatest value of a revision. -/
def maxRevision : Nat := 2 ^ 64 - 1

/-! ## Critical sections -/

variable (lib : TextLibraries)

/-- The thread of a call goes on at another place. -/
def State.move (s : State) (thread : ThreadId) (flush : Flush) : State :=
  { s with calls := Function.update s.calls thread flush }

/-- `FlushSynchronously` returns: to the worker, or to the caller of `FlushNow`. -/
def State.finishFlush (s : State) (thread : ThreadId) (result : Bool) : State :=
  match thread with
  | .worker => { s.move .worker .away with worker := .flushed result }
  | .caller number =>
    { s.move (.caller number) .away with returned := (.flushNow number, result) :: s.returned }

/-- The critical section of an attempt, after its wait.
Source: `FlushSynchronously` (`SettingsStore.cpp:347`). -/
def attempt (thread : ThreadId) (remaining : Nat) (s : State) : State :=
  if s.shutdownRequested ∨ s.preservationFailed then s.finishFlush thread false
  else if s.discardRequested ∨ s.revision = s.persistedRevision then s.finishFlush thread true
  else { s.move thread (.writing remaining { revision := s.revision, snapshot := s.data }) with
    writerActive := true }

/-- What an attempt waits for. Source: `FlushSynchronously` (`SettingsStore.cpp:346`). -/
def State.MayAttempt (s : State) : Prop :=
  s.shutdownRequested = true ∨ (s.writerActive = false ∧ s.loadActive = false)

instance (s : State) : Decidable s.MayAttempt := inferInstanceAs (Decidable (_ ∨ _))

/-- The head of the loop of `FlushSynchronously` (`SettingsStore.cpp:339`): the next attempt, or
the result when there is none left. -/
def enter (thread : ThreadId) (remaining : Nat) (s : State) : State :=
  match remaining with
  | 0 => s.finishFlush thread (s.revision == s.persistedRevision)
  | remaining + 1 =>
    let s := { s with timerArmed := false }
    if s.MayAttempt then attempt thread remaining s else s.move thread (.waiting remaining)

/-- Source: `CompleteWriteLocked` (`SettingsStore.cpp:307`). -/
def completeWriteLocked (capturedRevision : Nat) (succeeded : Bool) (now : Nat) (s : State) :
    State :=
  let s := { s with writerActive := false }
  if s.shutdownRequested then s
  else if succeeded then
    let s := { s with
      persistedRevision := max s.persistedRevision capturedRevision
      failures := 0 }
    if s.revision ≠ s.persistedRevision ∧ !s.shutdownRequested ∧ !s.closing then
      { s with timerArmed := true, due := now + debounceDelay }
    else s
  else if !s.shutdownRequested ∧ !s.closing then
    let failures := min (s.failures + 1) 10
    { s with failures, timerArmed := true, due := now + retryDelay failures }
  else s

/-- `Write` of a captured snapshot, which the storage lets succeed or fail: what it returns and the
file that it leaves. Source: `Write` (`SettingsStore.cpp:295`). -/
def write (write : Write) (succeeds : Bool) (s : State) : Write × State :=
  match encode lib write.snapshot with
  | none => ({ write with succeeded := some false }, s)
  | some bytes =>
    if succeeds then
      ({ write with succeeded := some true }, { s with lastFile := some bytes })
    else ({ write with succeeded := some false }, s)

/-- One round of the worker's loop. `now` was read before the critical section; `ready` is whether
the apartment of a closing flush can be entered. Source: `Worker` (`SettingsStore.cpp:378`). -/
def workerLook (now : Nat) (ready : Bool) (s : State) : State :=
  if s.shutdownRequested then { s with worker := .leaving }
  else if s.closing then
    if s.discardRequested then { s with worker := .flushed true }
    else if ready then
      { s.move .worker (.entering (max s.shutdownAttempts 1)) with worker := .flushing }
    else { s with worker := .flushed false }
  else if s.timerArmed ∧ !s.loadActive ∧ !s.writerActive ∧ !s.discardRequested ∧
      s.revision ≠ s.persistedRevision ∧ s.due ≤ now then
    { s with
      writerActive := true
      timerArmed := false
      worker := .writing { revision := s.revision, snapshot := s.data } }
  else s

/-- The critical section of a setter. Source: `Commit` (`SettingsStore.cpp:472`). -/
def commit (mutation : Mutation) (now : Nat) (s : State) : State :=
  if s.closing ∨ s.shutdownRequested ∨ s.preservationFailed then s
  else if s.revision = maxRevision then s
  else
    let (changed, candidate) := mutation.change s.data
    if !changed then s
    else { s with
      data := candidate
      revision := s.revision + 1
      timerArmed := true
      due := now + debounceDelay
      applied := s.applied ++ [mutation] }

/-- Source: `Load` (`SettingsStore.cpp:613`). -/
def load (s : State) : State :=
  if s.loadClaimed ∨ s.closing ∨ s.shutdownRequested then s
  else if s.revision ≠ 0 then { s with loadClaimed := true }
  else { s with loadClaimed := true, loadActive := true, loader := some .reading }

/-- `Load` has read the bytes of a file. Source: `Load` (`SettingsStore.cpp:629`). -/
def readContent (bytes : ByteArray) (s : State) : State :=
  match decodePersisted lib bytes with
  | none => { s with existed := true, loader := some .failed }
  | some decoded =>
    { s with existed := true, loader := some (.decoded bytes decoded), lastFile := some bytes }

/-- Source: `CompleteLoadWithoutCommit` (`SettingsStore.cpp:265`). -/
def completeLoadWithoutCommit (originalPreserved : Bool) (s : State) : State :=
  { s with loadActive := false, preservationFailed := !originalPreserved, loader := none }

/-- The critical section in which `Load` takes the decoded settings over. `now` was read before it.
Source: `Load` (`SettingsStore.cpp:648`). -/
def commitLoad (decoded : DecodedSettings) (now : Nat) (s : State) : State :=
  if s.shutdownRequested ∨ s.revision ≠ 0 then { s with loadActive := false, loader := none }
  else
    let s := { s with
      data := decoded.data
      revision := 1
      persistedRevision := if decoded.needsRewrite then 0 else 1
      base := decoded.data
      takenOver := true }
    let s := if decoded.needsRewrite then
        { s with timerArmed := true, due := now + debounceDelay }
      else s
    { s with loadActive := false, loader := none }

/-- The first critical section of the `Shutdown` that closes the store.
Source: `Shutdown` (`SettingsStore.cpp:898`). -/
def close (mode : ShutdownMode) (maximumAttempts : Nat) (s : State) : State :=
  { s with
    closing := true
    timerArmed := false
    shutdownAttempts := max maximumAttempts 1
    discardRequested := mode = .discardStartupFailure
    shutdown := some .draining }

/-- `Shutdown` stops waiting for the worker, at its deadline at the latest, and fences what has not
completed. Source: `Shutdown` (`SettingsStore.cpp:908`). -/
def fence (s : State) : State :=
  let drained := s.workerFinished && !s.writerActive && !s.loadActive
  { s with
    shutdownRequested := true
    timerArmed := false
    shutdown := some (.fenced (drained && s.workerFlushResult)) }

/-! ## Events -/

/-- What happens in the store. -/
inductive Event
  /-- A setter that admits its arguments enters its critical section. -/
  | commit (mutation : Mutation) (now : Nat)
  /-- A call of `Load`. -/
  | load
  /-- `Load` finds no file. -/
  | readNothing
  /-- `Load` has read a file. -/
  | readContent (bytes : ByteArray)
  /-- Reading or decoding the file threw. -/
  | readThrew
  /-- Reporting that threw too, and the exception leaves `Load`. -/
  | reportThrew
  /-- `PreserveCorrupt` returns. -/
  | preserveCorrupt (preserved : Bool)
  /-- `CompleteLoadWithoutCommit`. -/
  | completeLoad
  /-- Staging the decoded settings threw. -/
  | stagingThrew
  /-- `Load` commits the decoded settings. -/
  | commitLoad (now : Nat)
  /-- A call of `FlushNow`, whose apartment can be entered or not. -/
  | flushNow (number maximumAttempts : Nat) (ready : Bool)
  /-- A flush begins an attempt. -/
  | enter (thread : ThreadId)
  /-- A flush wakes from its wait. -/
  | wake (thread : ThreadId)
  /-- `Write` of a flush returns. -/
  | write (thread : ThreadId) (succeeds : Bool)
  /-- `CompleteWrite` of a flush. -/
  | completeWrite (thread : ThreadId) (now : Nat)
  /-- A round of the worker's loop. -/
  | workerLook (now : Nat) (ready : Bool)
  /-- `Write` of the worker returns. -/
  | workerWrite (succeeds : Bool)
  /-- `CompleteWrite` of the worker. -/
  | workerComplete (now : Nat)
  /-- The worker stores the result of its last flush. -/
  | workerStore
  /-- The worker has finished. -/
  | workerFinish
  /-- A first call of `Shutdown`. -/
  | close (mode : ShutdownMode) (maximumAttempts : Nat)
  /-- It has waited. -/
  | fence
  /-- It stores its result and returns, its publications drained or not. -/
  | completeShutdown (drained : Bool)
  /-- A later call of `Shutdown` returns the stored result. -/
  | joinShutdown (drained : Bool)

/-- The event can happen. -/
def Enabled (s : State) : Event → Prop
  | .commit mutation _ => mutation.admitted ∧
      (s.loadActive = false ∨ s.closing = true ∨ s.shutdownRequested = true)
  | .load => True
  | .readNothing | .readContent _ | .readThrew => s.loader = some .reading
  | .reportThrew | .preserveCorrupt _ => s.loader = some .failed
  | .completeLoad => ∃ originalPreserved, s.loader = some (.ended originalPreserved)
  | .stagingThrew | .commitLoad _ => ∃ bytes decoded, s.loader = some (.decoded bytes decoded)
  | .flushNow number _ _ => s.calls (.caller number) = .away
  | .enter thread => ∃ remaining, s.calls thread = .entering remaining
  | .wake thread => (∃ remaining, s.calls thread = .waiting remaining) ∧ s.MayAttempt
  | .write thread _ => ∃ remaining captured, s.calls thread = .writing remaining captured ∧
      captured.succeeded = none
  | .completeWrite thread _ => ∃ remaining captured, s.calls thread = .writing remaining captured ∧
      captured.succeeded ≠ none
  | .workerLook _ _ => s.worker = .looping
  | .workerWrite _ => ∃ captured, s.worker = .writing captured ∧ captured.succeeded = none
  | .workerComplete _ => ∃ captured, s.worker = .writing captured ∧ captured.succeeded ≠ none
  | .workerStore => ∃ result, s.worker = .flushed result
  | .workerFinish => s.worker = .leaving
  | .close _ _ => s.closing = false
  | .fence => s.shutdown = some .draining
  | .completeShutdown _ => ∃ result, s.shutdown = some (.fenced result)
  | .joinShutdown _ => s.closing = true ∧ s.shutdownCoreComplete = true

/-- The state after an event. -/
def step (s : State) : Event → State
  | .commit mutation now => commit mutation now s
  | .load => load s
  | .readNothing => { s with loader := some (.ended true) }
  | .readContent bytes => readContent lib bytes s
  | .readThrew => { s with existed := true, loader := some .failed }
  | .reportThrew => { s with loader := none }
  | .preserveCorrupt preserved =>
    { s with preserved := s.preserved || preserved, loader := some (.ended preserved) }
  | .completeLoad =>
    match s.loader with
    | some (.ended originalPreserved) => completeLoadWithoutCommit originalPreserved s
    | _ => s
  | .stagingThrew => { s with loader := some (.ended true) }
  | .commitLoad now =>
    match s.loader with
    | some (.decoded _ decoded) => commitLoad decoded now s
    | _ => s
  | .flushNow number maximumAttempts ready =>
    if ready then s.move (.caller number) (.entering (max maximumAttempts 1))
    else { s with returned := (.flushNow number, false) :: s.returned }
  | .enter thread =>
    match s.calls thread with
    | .entering remaining => enter thread remaining s
    | _ => s
  | .wake thread =>
    match s.calls thread with
    | .waiting remaining => attempt thread remaining s
    | _ => s
  | .write thread succeeds =>
    match s.calls thread with
    | .writing remaining captured =>
      let (captured, s) := write lib captured succeeds s
      s.move thread (.writing remaining captured)
    | _ => s
  | .completeWrite thread now =>
    match s.calls thread with
    | .writing remaining ⟨revision, _, some succeeded⟩ =>
      (completeWriteLocked revision succeeded now s).move thread (.entering remaining)
    | _ => s
  | .workerLook now ready => workerLook now ready s
  | .workerWrite succeeds =>
    match s.worker with
    | .writing captured =>
      let (captured, s) := write lib captured succeeds s
      { s with worker := .writing captured }
    | _ => s
  | .workerComplete now =>
    match s.worker with
    | .writing ⟨revision, _, some succeeded⟩ =>
      { completeWriteLocked revision succeeded now s with worker := .looping }
    | _ => s
  | .workerStore =>
    match s.worker with
    | .flushed result => { s with workerFlushResult := result, worker := .leaving }
    | _ => s
  | .workerFinish => { s with workerFinished := true, worker := .finished }
  | .close mode maximumAttempts => close mode maximumAttempts s
  | .fence => fence s
  | .completeShutdown drained =>
    match s.shutdown with
    | some (.fenced result) =>
      { s with
        shutdownResult := result
        shutdownCoreComplete := true
        shutdown := some .completed
        returned := (.shutdown, result && drained) :: s.returned }
    | _ => s
  | .joinShutdown drained =>
    { s with returned := (.shutdown, s.shutdownResult && drained) :: s.returned }

end Store

/-- The settings store, from its construction on. -/
def settingsStore (lib : TextLibraries) : EventSystem Store.State Store.Event where
  enabled := Store.Enabled
  step := Store.step lib

end PlaybackConnector.Settings
