import PlaybackConnector.App.DeviceFactPublicationFence
import PlaybackConnector.App.EventState
import PlaybackConnector.App.Models
import PlaybackConnector.Settings.Mutations

/-!
# What the application makes of device facts

`ObserveDevice` (`AppController.cpp:137`) is called with every fact of the device service, one at a
time. It tells the fence the status of the device, and then makes its calls one after another: the
settings record a device that has come to be connected, and events are published with the tokens
that the fence gave out. Meanwhile other threads publish events of their own, and consumers ask
whether a token still is current.

The log is what has been done in its order: what the fence was told, the calls of
`RecordConnectedDevice`, and the notifications that were accepted. No code reads it.
-/

namespace PlaybackConnector

namespace DeviceFacts

open DeviceFactPublicationFence (Status Channel Token Observation Devices statuses)

/-! ## Events -/

/-- An event with the fields that its publisher sets. Source: `AppEvent` (`AppModels.hpp:420`). -/
inductive PublishedEvent
  | deviceConnected (id : ExternalDeviceId)
  | deviceDisconnected (id : ExternalDeviceId) (notifyUser : Bool)
  | deviceConnectionError (id : ExternalDeviceId) (code : AppResultCode)
    (failureReason : ConnectionErrorReason)
  | deviceStatusChanged (id : ExternalDeviceId) (state : AppConnectionState)
  | deviceActivityChanged
  | deviceInventoryChanged
  | settingsChanged (settingsRevision : Nat) (language : WString) (useSystemBackdropEffects : Bool)
  | startupTaskChanged (snapshot : StartupTaskSnapshot)
  | autoReconnectTriggered (id : ExternalDeviceId)
  | autoReconnectFailed (id : ExternalDeviceId)
deriving DecidableEq

namespace PublishedEvent

/-- The event as its delivery sees it. -/
def toAppEvent : PublishedEvent → AppEvent
  | deviceConnected id => .deviceConnected id.value
  | deviceDisconnected id _ => .deviceDisconnected id.value
  | deviceConnectionError id _ _ => .deviceConnectionError id.value
  | deviceStatusChanged id _ => .deviceStatusChanged id.value
  | deviceActivityChanged => .deviceActivityChanged
  | deviceInventoryChanged => .deviceInventoryChanged
  | settingsChanged settingsRevision _ _ => .settingsChanged settingsRevision
  | startupTaskChanged snapshot => .startupTaskChanged snapshot
  | autoReconnectTriggered id => .autoReconnectTriggered id.value
  | autoReconnectFailed id => .autoReconnectFailed id.value

/-- The event is published by others than `ObserveDevice`: by the subscriptions to the settings and
to the startup task. Source: `AppController` (`AppController.cpp:248`, `256`). -/
def isOther : PublishedEvent → Bool
  | settingsChanged _ _ _ | startupTaskChanged _ => true
  | _ => false

/-- The device of an event that carries a token, and the channel of the token. -/
def stamp : PublishedEvent → Option (ExternalDeviceId × Channel)
  | deviceConnected id | deviceDisconnected id _ => some (id, .connection)
  | deviceConnectionError id _ _ | deviceStatusChanged id _ | autoReconnectTriggered id
  | autoReconnectFailed id => some (id, .status)
  | _ => none

end PublishedEvent

/-- Source: `EventNotification` (`AppController.hpp:32`). -/
structure Notification where
  revision : Nat
  event : PublishedEvent
  deviceToken : Option Token
deriving DecidableEq

/-! ## State -/

/-- A call that `ObserveDevice` makes. -/
inductive Call
  | recordConnectedDevice (deviceId deviceName : WString)
  | publish (event : PublishedEvent) (token : Option Token)
deriving DecidableEq

/-- What was done. -/
inductive Entry
  /-- The fence was told. -/
  | observed (deviceId : WString) (status : Status)
  /-- The settings were called. -/
  | recorded (mutation : Settings.Mutation)
  /-- A notification was accepted. -/
  | published (notification : Notification)
deriving DecidableEq

/-- The event state, as far as facts and publications use it.
Source: `EventState` (`AppController.cpp:211`). -/
structure State where
  deviceFence : Devices := fun _ => none
  lastStartupPublication : Option Nat := none
  nextRevision : Nat := 1
  closed : Bool := false
  /-- What the observation in progress still has to do. -/
  pending : List Call := []
  /-- What was done. No code reads it. -/
  log : List Entry := []

/-! ## Publication -/

/-- A startup task event is not newer than the last one. Source: `Publish`
(`AppController.cpp:94`). -/
def isRepeated (event : PublishedEvent) (last : Option Nat) : Bool :=
  match event, last with
  | .startupTaskChanged snapshot, some last => snapshot.publication ≤ last
  | _, _ => false

/-- The last startup task event after one more event. Source: `Publish` (`AppController.cpp:96`). -/
def lastStartup (event : PublishedEvent) (last : Option Nat) : Option Nat :=
  match event with
  | .startupTaskChanged snapshot => some snapshot.publication
  | _ => last

/-- Source: `Publish` (`AppController.cpp:90`), its first critical section. -/
def publish (event : PublishedEvent) (token : Option Token) (s : State) : State :=
  if s.closed ∨ s.nextRevision = 0 then s
  else if isRepeated event s.lastStartupPublication then s
  else
    { s with
      lastStartupPublication := lastStartup event s.lastStartupPublication
      nextRevision := EventState.next s.nextRevision
      log := s.log ++ [.published ⟨s.nextRevision, event, token⟩] }

/-! ## Observation -/

/-- The status and the state that a session is presented with. Source: `ObserveDevice`
(`AppController.cpp:161`). -/
def presented : DeviceLifecycleState → Status × AppConnectionState
  | .idle => (.ready, .idle)
  | .connecting => (.connecting, .connecting)
  | .disconnecting => (.connecting, .disconnecting)
  | .connected => (.connected, .connected)
  | .waitingForReconnect => (.waitingForReconnect, .waitingForReconnect)
  | .failed => (.error, .failed)

/-- The automatic reconnects have come to their end. Source: `ObserveDevice`
(`AppController.cpp:193`). -/
def isAutomaticFailure (fact : DeviceFact) : Bool :=
  fact.isTerminalFailure && fact.operation == .automaticReconnect

/-- Source: `ObserveDevice` (`AppController.cpp:197`). -/
def failureReason (fact : DeviceFact) : ConnectionErrorReason :=
  match fact.connectionResult with
  | .denied => .denied
  | .timedOut => .timedOut
  | _ => if isAutomaticFailure fact then .reconnectExhausted else .unknown

/-- The calls for a change of the connection. Source: `ObserveDevice` (`AppController.cpp:177`). -/
def connectionCalls (fact : DeviceFact) (session : DeviceSessionSnapshot) (id : ExternalDeviceId)
    (status : Status) (observed : Observation) : List Call :=
  if observed.wasConnected = false ∧ status = .connected then
    [.recordConnectedDevice fact.deviceId
        (Settings.truncateUtf16 session.deviceName Settings.maxDeviceNameCharacters),
      .publish (.deviceConnected id) (some observed.connection)]
  else if observed.wasConnected = true ∧ status ≠ .connected ∧ fact.disconnectReason ≠ .none then
    let notify := fact.disconnectReason == .unexpectedLoss ||
      fact.disconnectReason == .deviceRemoved
    [.publish (.deviceDisconnected id notify) (some observed.connection)]
  else []

/-- The calls for a failed operation. Source: `ObserveDevice` (`AppController.cpp:192`). -/
def failureCalls (fact : DeviceFact) (session : DeviceSessionSnapshot) (id : ExternalDeviceId)
    (observed : Observation) : List Call :=
  if fact.kind = .operationFailed then
    (if session.state = .failed then
      [.publish (.deviceConnectionError id .operationFailed (failureReason fact))
        (some observed.state)]
    else []) ++
    (if isAutomaticFailure fact then
      [.publish (.autoReconnectFailed id) (some observed.state)]
    else [])
  else []

/-- The calls for a fact about a session. Source: `ObserveDevice` (`AppController.cpp:177`). -/
def sessionCalls (fact : DeviceFact) (session : DeviceSessionSnapshot) (id : ExternalDeviceId)
    (observed : Observation) : List Call :=
  let (status, appState) := presented session.state
  connectionCalls fact session id status observed ++
  [.publish (.deviceStatusChanged id appState) (some observed.state)] ++
  (if status = .waitingForReconnect ∧ observed.wasWaitingForReconnect = false then
    [.publish (.autoReconnectTriggered id) (some observed.state)]
  else []) ++
  failureCalls fact session id observed ++
  [.publish .deviceActivityChanged none]

/-- The fence is told of a session. Source: `ObserveDevice` (`AppController.cpp:176`). -/
def observeSession (fact : DeviceFact) (session : DeviceSessionSnapshot) (id : ExternalDeviceId)
    (s : State) : State :=
  let status := (presented session.state).1
  let observed := DeviceFactPublicationFence.observe fact.deviceId status s.deviceFence
  { s with
    deviceFence := DeviceFactPublicationFence.observed fact.deviceId status s.deviceFence
    pending := sessionCalls fact session id observed
    log := s.log ++ [.observed fact.deviceId status] }

/-- Source: `ObserveDevice` (`AppController.cpp:137`), to its first call. -/
def observeDevice (fact : DeviceFact) (s : State) : State :=
  if s.closed then s
  else
    match fact.kind with
    | .shutdown => s
    | .inventoryChanged => { s with pending := [.publish .deviceInventoryChanged none] }
    | .sessionChanged | .operationFailed =>
      match fact.snapshot.sessions.find? (·.deviceId = fact.deviceId),
        ExternalDeviceId.tryCreate fact.deviceId with
      | some session, some id => observeSession fact session id s
      | _, _ => { s with pending := [.publish .deviceActivityChanged none] }

/-- A call is made on a day. -/
def perform (call : Call) (today : WString) (s : State) : State :=
  match call with
  | .recordConnectedDevice deviceId deviceName =>
    { s with log := s.log ++ [.recorded (.recordConnectedDevice deviceId deviceName today)] }
  | .publish event token => publish event token s

/-- The observation in progress makes its next call. -/
def proceed (today : WString) (s : State) : State :=
  match s.pending with
  | [] => s
  | call :: rest => perform call today { s with pending := rest }

/-- What happens. -/
inductive Event
  /-- A fact is delivered. -/
  | observe (fact : DeviceFact)
  /-- The observation in progress goes on. -/
  | proceed (today : WString)
  /-- Another thread publishes. -/
  | publish (event : PublishedEvent)
  /-- Source: `RequestStop` (`AppController.cpp:69`). -/
  | requestStop
deriving DecidableEq

/-- The event can happen: the owner of the devices delivers one fact at a time. -/
def Enabled (s : State) : Event → Prop
  | .observe _ => s.pending = []
  | .proceed _ => s.pending ≠ []
  | .publish event => event.isOther = true
  | .requestStop => True

instance (s : State) (e : Event) : Decidable (Enabled s e) := by
  cases e <;> unfold Enabled <;> infer_instance

/-- The state after an event. -/
def step (s : State) : Event → State
  | .observe fact => observeDevice fact s
  | .proceed today => proceed today s
  | .publish event => publish event none s
  | .requestStop => { s with closed := true }

end DeviceFacts

/-- The facts of the devices and what is made of them. -/
def deviceFacts : EventSystem DeviceFacts.State DeviceFacts.Event where
  enabled := DeviceFacts.Enabled
  step := DeviceFacts.step

instance (s : DeviceFacts.State) (e : DeviceFacts.Event) : Decidable (deviceFacts.enabled s e) :=
  inferInstanceAs (Decidable (DeviceFacts.Enabled s e))

namespace DeviceFacts

open DeviceFactPublicationFence (Status Channel Token Observation Devices statuses)

variable {s t : State} {event : PublishedEvent} {token : Option Token} {fact : DeviceFact}
  {session : DeviceSessionSnapshot} {id : ExternalDeviceId} {deviceId today : WString}
  {status : Status} {call : Call} {entry : Entry} {log before after : List Entry}
  {told : List (WString × Status)}

/-! ## What the log shows -/

/-- What the fence was told. -/
def Entry.observation : Entry → Option (WString × Status)
  | .observed deviceId status => some (deviceId, status)
  | _ => none

/-- What the fence was told, in its order. -/
def observations (log : List Entry) : List (WString × Status) := log.filterMap Entry.observation

/-- The notification that was accepted. -/
def Entry.notification : Entry → Option Notification
  | .published notification => some notification
  | _ => none

/-- The notifications that were accepted, in their order. -/
def published (log : List Entry) : List Notification := log.filterMap Entry.notification

/-- What is seen of the connections of one device. -/
inductive Mark
  | observed (status : Status)
  | recorded
  | announced
deriving DecidableEq

/-- The mark that an event leaves. -/
def PublishedEvent.mark (deviceId : WString) : PublishedEvent → Option Mark
  | .deviceConnected id => if id.value = deviceId then some .announced else none
  | _ => none

/-- The mark that an entry leaves. -/
def Entry.mark (deviceId : WString) : Entry → Option Mark
  | .observed id status => if id = deviceId then some (.observed status) else none
  | .recorded (.recordConnectedDevice id _ _) => if id = deviceId then some .recorded else none
  | .recorded _ => none
  | .published notification => notification.event.mark deviceId

/-- The mark that a call is about to leave. -/
def Call.mark (deviceId : WString) : Call → Option Mark
  | .recordConnectedDevice id _ => if id = deviceId then some .recorded else none
  | .publish event _ => event.mark deviceId

/-- The marks of a device, in their order. -/
def marks (deviceId : WString) (log : List Entry) : List Mark := log.filterMap (Entry.mark deviceId)

/-- The marks that the observation in progress is about to leave. -/
def pendingMarks (deviceId : WString) (calls : List Call) : List Mark :=
  calls.filterMap (Call.mark deviceId)

/-- The marks of one observation: a device that was not connected and is so now is recorded and then
announced. -/
def observationMarks (before status : Status) : List Mark :=
  .observed status ::
    if before ≠ .connected ∧ status = .connected then [.recorded, .announced] else []

/-- The marks of a device that had one status and is then observed with others: it is recorded once
and then announced once for each of the observations at which it has come to be connected, before
the next observation. -/
def announcements : Status → List Status → List Mark
  | _, [] => []
  | before, status :: rest => observationMarks before status ++ announcements status rest

/-- Without the announcements. -/
def unannounced (marks : List Mark) : List Mark := marks.filter fun mark => mark ≠ .announced

@[simp] theorem unannounced_append (seen later : List Mark) :
    unannounced (seen ++ later) = unannounced seen ++ unannounced later :=
  List.filter_append _ _

@[simp] theorem unannounced_mark (deviceId : WString) (event : PublishedEvent) :
    unannounced (event.mark deviceId).toList = [] := by
  cases event with
  | deviceConnected id =>
    simp only [PublishedEvent.mark]
    split <;> rfl
  | _ => rfl

theorem announcements_concat : ∀ (before : Status) (seen : List Status),
    announcements before (seen ++ [status]) =
      announcements before seen ++ observationMarks (latest before seen) status
  | _, [] => by simp [announcements, latest]
  | before, first :: seen => by
    simp only [List.cons_append, announcements, latest, announcements_concat first seen,
      List.append_assoc]

@[simp] theorem observations_concat : observations (log ++ [entry]) =
    observations log ++ entry.observation.toList := by
  unfold observations
  rw [List.filterMap_append]
  cases hentry : entry.observation <;> simp [hentry]

@[simp] theorem published_concat : published (log ++ [entry]) =
    published log ++ entry.notification.toList := by
  unfold published
  rw [List.filterMap_append]
  cases hentry : entry.notification <;> simp [hentry]

@[simp] theorem marks_concat : marks deviceId (log ++ [entry]) =
    marks deviceId log ++ (entry.mark deviceId).toList := by
  unfold marks
  rw [List.filterMap_append]
  cases hentry : entry.mark deviceId <;> simp [hentry]

/-- What holds of every entry and what was before it, when one more is added. -/
theorem forall_splits_concat {P : List Entry → Entry → Prop} (hnew : P log entry)
    (hold : ∀ before e after, log = before ++ e :: after → P before e) :
    ∀ before e after, log ++ [entry] = before ++ e :: after → P before e := by
  intro before e after hsplit
  rcases List.eq_nil_or_concat after with rfl | ⟨after, last, rfl⟩
  · obtain ⟨rfl, hlast⟩ := List.append_inj' hsplit rfl
    obtain ⟨rfl, -⟩ := List.cons.inj hlast
    exact hnew
  · rw [List.concat_eq_append, ← List.cons_append, ← List.append_assoc] at hsplit
    exact hold before e after (List.append_inj' hsplit rfl).1

/-! ## Tokens -/

/-- An event about a device has the token of its channel, as of what the fence was told. -/
def Stamped (event : PublishedEvent) (token : Option Token) (told : List (WString × Status)) :
    Prop :=
  match event.stamp with
  | none => token = none
  | some (id, channel) =>
    token = some (Token.of channel id.value told) ∧ statuses id.value told ≠ []

/-- A call publishes an event with its token, or records a name that can be stored. -/
def Call.Sound (told : List (WString × Status)) : Call → Prop
  | .publish event token => Stamped event token told
  | .recordConnectedDevice _ deviceName =>
    Settings.IsBoundedUtf16 deviceName Settings.maxDeviceNameCharacters

/-- A notification has the token of its event, and a name that was recorded can be stored. -/
def Entry.Sound (told : List (WString × Status)) : Entry → Prop
  | .observed _ _ => True
  | .published notification => Stamped notification.event notification.deviceToken told
  | .recorded (.recordConnectedDevice _ deviceName _) =>
    Settings.IsBoundedUtf16 deviceName Settings.maxDeviceNameCharacters
  | .recorded _ => False

/-! ## The invariant -/

/-- What holds between any two events. -/
structure Inv (s : State) : Prop where
  fence : s.deviceFence = Devices.of (observations s.log)
  numbered : s.nextRevision = EventState.next (published s.log).length
  bounded : (published s.log).length < 2 ^ 64
  recorded : ∀ deviceId,
    unannounced (marks deviceId s.log) ++ unannounced (pendingMarks deviceId s.pending) =
      unannounced (announcements .none (statuses deviceId (observations s.log)))
  announced : s.closed = false → s.nextRevision ≠ 0 → ∀ deviceId,
    marks deviceId s.log ++ pendingMarks deviceId s.pending =
      announcements .none (statuses deviceId (observations s.log))
  pending : ∀ call ∈ s.pending, call.Sound (observations s.log)
  sound : ∀ before entry after, s.log = before ++ entry :: after →
    entry.Sound (observations before)

theorem inv_initial : Inv {} where
  fence := rfl
  numbered := rfl
  bounded := by simp [published]
  recorded := fun _ => rfl
  announced := fun _ _ _ => rfl
  pending := fun _ h => absurd h List.not_mem_nil
  sound := by simp

/-! ## What the steps keep -/

@[simp] theorem pendingMarks_cons (calls : List Call) : pendingMarks deviceId (call :: calls) =
    (call.mark deviceId).toList ++ pendingMarks deviceId calls := by
  unfold pendingMarks
  rw [List.filterMap_cons]
  cases call.mark deviceId <;> rfl

@[simp] theorem pendingMarks_append (calls calls' : List Call) :
    pendingMarks deviceId (calls ++ calls') =
      pendingMarks deviceId calls ++ pendingMarks deviceId calls' :=
  List.filterMap_append

theorem isRepeated_of_mark {last : Option Nat} (h : isRepeated event last = true) :
    event.mark deviceId = none := by
  cases event <;> first | rfl | simp [isRepeated] at h

/-- A publication that is not dropped. -/
theorem publish_eq (hopen : ¬ (s.closed = true ∨ s.nextRevision = 0))
    (hnew : ¬ isRepeated event s.lastStartupPublication = true) :
    publish event token s =
      { s with
        lastStartupPublication := lastStartup event s.lastStartupPublication
        nextRevision := EventState.next s.nextRevision
        log := s.log ++ [.published ⟨s.nextRevision, event, token⟩] } := by
  unfold publish
  rw [if_neg hopen, if_neg hnew]

/-- A call that was still to be made is made. -/
theorem inv_perform (h : Inv { s with pending := call :: s.pending }) :
    Inv (perform call today s) := by
  obtain ⟨hfence, hnumbered, hbounded, hrecorded, hannounced, hpending, hsound⟩ := h
  have hrest : ∀ call ∈ s.pending, call.Sound (observations s.log) :=
    fun call hcall => hpending call (List.mem_cons_of_mem _ hcall)
  cases call with
  | recordConnectedDevice deviceId deviceName =>
    refine ⟨by simpa [perform, Entry.observation] using hfence,
      by simpa [perform, Entry.notification] using hnumbered,
      by simpa [perform, Entry.notification] using hbounded, fun id => ?_, fun hopen hleft id => ?_,
      by simpa [perform, Entry.observation] using hrest,
      forall_splits_concat (hpending _ List.mem_cons_self) hsound⟩
    · simpa [perform, Entry.observation, Entry.mark, Call.mark] using hrecorded id
    · simpa [perform, Entry.observation, Entry.mark, Call.mark] using hannounced hopen hleft id
  | publish event token =>
    have htoken : Stamped event token (observations s.log) := hpending _ List.mem_cons_self
    have hcalled (id : WString) :
        unannounced (marks id s.log) ++ unannounced (pendingMarks id s.pending) =
          unannounced (announcements .none (statuses id (observations s.log))) := by
      simpa [Call.mark] using hrecorded id
    by_cases hopen : s.closed = true ∨ s.nextRevision = 0
    · have hsame : perform (.publish event token) today s = s := if_pos hopen
      rw [hsame]
      refine ⟨hfence, hnumbered, hbounded, hcalled, fun hclosed hleft => ?_, hrest, hsound⟩
      rw [hclosed] at hopen
      exact absurd hopen (by simp [hleft])
    by_cases hnew : isRepeated event s.lastStartupPublication = true
    · have hsame : perform (.publish event token) today s = s := by
        show DeviceFacts.publish event token s = s
        unfold DeviceFacts.publish
        rw [if_neg hopen, if_pos hnew]
      rw [hsame]
      refine ⟨hfence, hnumbered, hbounded, hcalled, fun hclosed hleft id => ?_, hrest, hsound⟩
      have hmarks := hannounced hclosed hleft id
      simpa [Call.mark, isRepeated_of_mark hnew] using hmarks
    · have hnext : perform (.publish event token) today s = _ := publish_eq hopen hnew
      rw [hnext]
      obtain ⟨hclosed, hleft⟩ := not_or.1 hopen
      have hroom : (published s.log).length + 1 < 2 ^ 64 := by
        rw [hnumbered] at hleft
        unfold EventState.next at hleft
        dsimp only at hbounded hleft
        omega
      refine ⟨by simpa [Entry.observation] using hfence, ?_,
        by simpa [Entry.notification] using hroom, fun id => ?_, fun _ _ id => ?_,
        by simpa [Entry.observation] using hrest, forall_splits_concat htoken hsound⟩
      · show EventState.next s.nextRevision = EventState.next _
        rw [hnumbered]
        simp [Entry.notification, EventState.next]
      · simpa [Entry.observation, Entry.mark] using hcalled id
      · have hmarks := hannounced (Bool.not_eq_true _ ▸ hclosed) hleft id
        simpa [Entry.observation, Entry.mark, Call.mark] using hmarks

/-- The calls of an observation are about its device, which is recorded and announced once if it has
come to be connected. -/
theorem pendingMarks_sessionCalls {observed : Observation} (hid : id.value = fact.deviceId) :
    pendingMarks deviceId (sessionCalls fact session id observed) =
      if fact.deviceId = deviceId ∧ observed.wasConnected = false ∧
          (presented session.state).1 = .connected then [.recorded, .announced]
      else [] := by
  have hfailure : pendingMarks deviceId (failureCalls fact session id observed) = [] := by
    unfold failureCalls
    split_ifs <;> rfl
  have htriggered (P : Prop) [Decidable P] :
      pendingMarks deviceId (if P then
        [Call.publish (.autoReconnectTriggered id) (some observed.state)]
      else []) = [] := by
    split_ifs <;> rfl
  have hconnection : pendingMarks deviceId
      (connectionCalls fact session id (presented session.state).1 observed) =
        if fact.deviceId = deviceId ∧ observed.wasConnected = false ∧
          (presented session.state).1 = .connected then [.recorded, .announced]
        else [] := by
    unfold connectionCalls
    by_cases hrisen : observed.wasConnected = false ∧ (presented session.state).1 = .connected
    · by_cases hdevice : fact.deviceId = deviceId <;>
        simp [hrisen, hdevice, hid, Call.mark, PublishedEvent.mark, pendingMarks]
    · have hstill : ¬ (fact.deviceId = deviceId ∧ observed.wasConnected = false ∧
          (presented session.state).1 = .connected) := fun h => hrisen h.2
      rw [if_neg hrisen, if_neg hstill]
      split_ifs <;> rfl
  simp only [sessionCalls, pendingMarks_append, hfailure, htriggered, hconnection,
    List.append_nil]
  simp [pendingMarks, Call.mark, PublishedEvent.mark]

/-- The events of an observation have its tokens, and the name it records is cut to what can be
stored. -/
theorem sound_sessionCalls {observed : Observation}
    (hconnection : observed.connection = Token.of .connection id.value told)
    (hstate : observed.state = Token.of .status id.value told)
    (htold : statuses id.value told ≠ []) :
    ∀ call ∈ sessionCalls fact session id observed, call.Sound told := by
  have hflag (event : PublishedEvent) (hstamp : event.stamp = some (id, .connection)) :
      Call.Sound told (.publish event (some observed.connection)) := by
    simp only [Call.Sound, Stamped, hstamp]
    exact ⟨congrArg some hconnection, htold⟩
  have hstatus (event : PublishedEvent) (hstamp : event.stamp = some (id, .status)) :
      Call.Sound told (.publish event (some observed.state)) := by
    simp only [Call.Sound, Stamped, hstamp]
    exact ⟨congrArg some hstate, htold⟩
  have hif {P : Prop} [Decidable P] {calls calls' : List Call}
      (h : ∀ call ∈ calls, Call.Sound told call) (h' : ∀ call ∈ calls', Call.Sound told call) :
      ∀ call ∈ (if P then calls else calls'), Call.Sound told call := by
    split_ifs <;> assumption
  have hnil : ∀ call ∈ ([] : List Call), Call.Sound told call := by simp
  have hone (call : Call) (h : Call.Sound told call) :
      ∀ other ∈ [call], Call.Sound told other := by
    simpa using h
  have hcalls : ∀ call ∈ connectionCalls fact session id (presented session.state).1 observed,
      Call.Sound told call := by
    refine hif ?_ (hif (hone _ (hflag _ rfl)) hnil)
    intro call hcall
    rcases List.mem_cons.1 hcall with rfl | hcall
    · exact Settings.truncateUtf16_bounded _ _
    · exact hone _ (hflag _ rfl) call hcall
  have hfailure : ∀ call ∈ failureCalls fact session id observed, Call.Sound told call := by
    refine hif ?_ hnil
    exact List.forall_mem_append.2
      ⟨hif (hone _ (hstatus _ rfl)) hnil, hif (hone _ (hstatus _ rfl)) hnil⟩
  simp only [sessionCalls, List.forall_mem_append]
  exact ⟨⟨⟨⟨hcalls, hone _ (hstatus _ rfl)⟩, hif (hone _ (hstatus _ rfl)) hnil⟩, hfailure⟩,
    hone _ rfl⟩

theorem inv_observeSession (hid : id.value = fact.deviceId) (hidle : s.pending = []) (h : Inv s) :
    Inv (observeSession fact session id s) := by
  obtain ⟨hfence, hnumbered, hbounded, hrecorded, hannounced, -, hsound⟩ := h
  let told := observations s.log
  let status := (presented session.state).1
  let observed := DeviceFactPublicationFence.observe fact.deviceId status s.deviceFence
  have hobserved : observed = { .. } :=
    (congrArg (DeviceFactPublicationFence.observe fact.deviceId status) hfence).trans
      DeviceFactPublicationFence.observe_of
  have hlog : observations (s.log ++ [.observed fact.deviceId status]) =
      told ++ [(fact.deviceId, status)] := by
    simp [Entry.observation, told]
  have htold : statuses fact.deviceId (told ++ [(fact.deviceId, status)]) ≠ [] := by
    simp [DeviceFactPublicationFence.statuses_concat]
  -- What the observation adds to the marks is what it adds to the announcements.
  let added (deviceId : WString) : List Mark :=
    if fact.deviceId = deviceId then
      observationMarks (latest .none (statuses deviceId told)) status
    else []
  have hcalls (deviceId : WString) : ((Entry.observed fact.deviceId status).mark deviceId).toList ++
      pendingMarks deviceId (sessionCalls fact session id observed) = added deviceId := by
    rw [pendingMarks_sessionCalls hid, hobserved]
    by_cases hdevice : fact.deviceId = deviceId
    · subst hdevice
      simp [Entry.mark, observationMarks, status, told, added]
    · simp [hdevice, Entry.mark, added]
  have hannouncements (deviceId : WString) :
      announcements .none
          (statuses deviceId (observations (observeSession fact session id s).log)) =
        announcements .none (statuses deviceId told) ++ added deviceId := by
    show announcements .none (statuses deviceId (observations
      (s.log ++ [.observed fact.deviceId status]))) = _
    rw [hlog, DeviceFactPublicationFence.statuses_concat]
    by_cases hdevice : fact.deviceId = deviceId
    · simp only [hdevice, added, if_true, announcements_concat]
    · simp only [hdevice, added, if_false, List.append_nil]
  have hmarks (deviceId : WString) : marks deviceId (observeSession fact session id s).log =
      marks deviceId s.log ++ ((Entry.observed fact.deviceId status).mark deviceId).toList :=
    marks_concat
  refine ⟨?_, by simpa [observeSession, Entry.notification] using hnumbered,
    by simpa [observeSession, Entry.notification] using hbounded, fun deviceId => ?_,
    fun hopen hleft deviceId => ?_, ?_, forall_splits_concat trivial hsound⟩
  · show DeviceFactPublicationFence.observed fact.deviceId status s.deviceFence = _
    rw [hfence, DeviceFactPublicationFence.observed_of]
    exact congrArg Devices.of hlog.symm
  · have hbefore := hrecorded deviceId
    rw [hidle] at hbefore
    rw [hannouncements, hmarks, unannounced_append, unannounced_append, List.append_assoc,
      ← unannounced_append (Option.toList _)]
    exact congrArg₂ (· ++ ·) ((List.append_nil _).symm.trans hbefore)
      (congrArg unannounced (hcalls deviceId))
  · have hbefore := hannounced hopen hleft deviceId
    rw [hidle] at hbefore
    rw [hannouncements, hmarks, List.append_assoc]
    exact congrArg₂ (· ++ ·) ((List.append_nil _).symm.trans hbefore) (hcalls deviceId)
  · show ∀ call ∈ sessionCalls fact session id observed, call.Sound
      (observations (s.log ++ [.observed fact.deviceId status]))
    rw [hlog]
    refine sound_sessionCalls ?_ ?_ (hid ▸ htold) <;> rw [hobserved, hid]

theorem inv_observeDevice (hidle : s.pending = []) (h : Inv s) : Inv (observeDevice fact s) := by
  have hcalls (calls : List Call) (hmarks : ∀ deviceId, pendingMarks deviceId calls = [])
      (hcalls : ∀ call ∈ calls, call.Sound (observations s.log)) :
      Inv { s with pending := calls } := by
    have hsame (deviceId : WString) :
        pendingMarks deviceId calls = pendingMarks deviceId s.pending := by
      rw [hmarks, hidle]
      rfl
    refine ⟨h.fence, h.numbered, h.bounded, fun deviceId => ?_, fun hopen hleft deviceId => ?_,
      hcalls, h.sound⟩
    · rw [hsame]
      exact h.recorded deviceId
    · rw [hsame]
      exact h.announced hopen hleft deviceId
  unfold observeDevice
  split
  · exact h
  · split
    · exact h
    · exact hcalls _ (fun _ => rfl) (by simp [Call.Sound, Stamped, PublishedEvent.stamp])
    all_goals
      split
      next session id _ hid =>
        exact inv_observeSession (ExternalDeviceId.value_of_tryCreate hid) hidle h
      · exact hcalls _ (fun _ => rfl) (by simp [Call.Sound, Stamped, PublishedEvent.stamp])

/-- The events of others leave no mark and carry no token. -/
theorem other_unseen (deviceId : WString) (h : event.isOther = true) :
    event.mark deviceId = none ∧ event.stamp = none := by
  cases event <;> first | exact ⟨rfl, rfl⟩ | exact absurd h Bool.false_ne_true

theorem step_inv (s : State) (e : Event) (henabled : Enabled s e) (h : Inv s) :
    Inv (step s e) := by
  cases e with
  | observe fact => exact inv_observeDevice henabled h
  | proceed today =>
    show Inv (proceed today s)
    unfold proceed
    split
    · exact h
    next call rest hpending =>
      have hcalled : Inv { s with pending := call :: rest } →
          Inv (perform call today { s with pending := rest }) :=
        inv_perform (s := { s with pending := rest })
      rw [← hpending] at hcalled
      exact hcalled h
  | publish event =>
    have hmark : ∀ deviceId, event.mark deviceId = none := fun id => (other_unseen id henabled).1
    have hstamp : event.stamp = none := (other_unseen [] henabled).2
    have hcalled : Inv { s with pending := .publish event none :: s.pending } →
        Inv (perform (.publish event none) [] s) := inv_perform
    refine hcalled ⟨h.fence, h.numbered, h.bounded, fun deviceId => ?_,
      fun hopen hleft deviceId => ?_, ?_, h.sound⟩
    · simpa [Call.mark, hmark] using h.recorded deviceId
    · simpa [Call.mark, hmark] using h.announced hopen hleft deviceId
    · refine List.forall_mem_cons.2 ⟨?_, h.pending⟩
      simp [Call.Sound, Stamped, hstamp]
  | requestStop =>
    exact ⟨h.fence, h.numbered, h.bounded, h.recorded, fun hopen => absurd hopen (by simp [step]),
      h.pending, h.sound⟩

/-! ## The delivery of what is published -/

/-- The publications of the event state, without the tokens. -/
structure Delivers (s : State) (events : EventState.State) : Prop where
  closed : events.delivery.closed = s.closed
  nextRevision : events.nextRevision = s.nextRevision
  lastStartupPublication : events.lastStartupPublication = s.lastStartupPublication
  published : (EventState.published events.delivery).map (fun item => (item.revision, item.event)) =
    ((published s.log).map fun notification =>
      (notification.revision, notification.event.toAppEvent)).reverse

/-- An event that is published here is accepted for delivery there, and dropped there if it is
dropped here. -/
theorem Delivers.publish {events : EventState.State} {thread : EventState.ThreadId}
    {generation : Nat} (h : Delivers s events) :
    Delivers (publish event token s)
      (EventState.publish thread event.toAppEvent generation events) := by
  obtain ⟨hclosed, hrevision, hstartup, hpublished⟩ := h
  have hrepeated : EventState.isRepeated event.toAppEvent events =
      isRepeated event s.lastStartupPublication := by
    unfold EventState.isRepeated isRepeated
    rw [hstartup]
    cases event <;> cases s.lastStartupPublication <;> rfl
  unfold DeviceFacts.publish EventState.publish
  rw [hclosed, hrevision, hrepeated]
  split
  · exact ⟨hclosed, hrevision, hstartup, hpublished⟩
  split
  · exact ⟨hclosed, hrevision, hstartup, hpublished⟩
  · refine ⟨?_, rfl, ?_, ?_⟩
    · rw [Delivery.enter_closed]
      exact hclosed
    · cases event <;> first | rfl | exact hstartup
    · rw [published_concat, List.map_append, List.reverse_append, ← hpublished,
        EventState.published, Delivery.enter_history]
      rfl

/-! ## In every run -/

/-- What the facts can be relied on for. -/
structure Fenced (s : State) : Prop where
  /-- A device is recorded once for each observation at which it has come to be connected, before it
  is observed again, and not otherwise. -/
  recorded : ∀ deviceId,
    unannounced (marks deviceId s.log) ++ unannounced (pendingMarks deviceId s.pending) =
      unannounced (announcements .none (statuses deviceId (observations s.log)))
  /-- Before the stop and while revisions are left, it is announced once after each of these calls,
  and not otherwise. -/
  announced : s.closed = false → (published s.log).length < 2 ^ 64 - 1 → ∀ deviceId,
    marks deviceId s.log ++ pendingMarks deviceId s.pending =
      announcements .none (statuses deviceId (observations s.log))
  /-- An event about a device has a token, which is current exactly if no generation of the device
  is exhausted and all later observations of the device have kept the value of the token's channel. -/
  fenced : ∀ before notification after, s.log = before ++ .published notification :: after →
    ∀ id channel, notification.event.stamp = some (id, channel) →
      ∃ token, notification.deviceToken = some token ∧
        (DeviceFactPublicationFence.isCurrent s.deviceFence token = true ↔
          ¬ DeviceFactPublicationFence.isExhausted s.deviceFence id.value = true ∧
            ∀ status ∈ statuses id.value (observations after),
              channel.value status =
                channel.value (latest .none (statuses id.value (observations before))))
  /-- The settings take the calls for all devices whose identity can be stored. -/
  taken : ∀ mutation, .recorded mutation ∈ s.log → ∃ deviceId deviceName today,
    mutation = .recordConnectedDevice deviceId deviceName today ∧
      (mutation.admitted ↔ Settings.IsDeviceId deviceId)
  /-- A generation is exhausted when the status has changed more often than it can count. -/
  exhausted : ∀ deviceId, DeviceFactPublicationFence.isExhausted s.deviceFence deviceId = true ↔
    2 ^ 64 ≤ Channel.status.changes (statuses deviceId (observations s.log))

theorem Inv.fenced (h : Inv s) : Fenced s where
  recorded := h.recorded
  announced := fun hopen hroom => by
    refine h.announced hopen ?_
    rw [h.numbered]
    unfold EventState.next
    omega
  fenced := fun before notification after hlog id channel hstamp => by
    have hstamped : Stamped notification.event notification.deviceToken (observations before) :=
      h.sound before _ after hlog
    simp only [Stamped, hstamp] at hstamped
    obtain ⟨htoken, htold⟩ := hstamped
    have hobservations : observations s.log = observations before ++ observations after := by
      rw [hlog]
      exact List.filterMap_append
    refine ⟨_, htoken, ?_⟩
    rw [h.fence, hobservations]
    exact DeviceFactPublicationFence.isCurrent_iff htold
  taken := fun mutation hmem => by
    obtain ⟨before, after, hlog⟩ := List.append_of_mem hmem
    have hsound := h.sound before _ after hlog
    cases mutation with
    | recordConnectedDevice deviceId deviceName today =>
      exact ⟨deviceId, deviceName, today, rfl, and_iff_left hsound⟩
    | _ => exact hsound.elim
  exhausted := fun deviceId => by
    rw [h.fence]
    exact DeviceFactPublicationFence.isExhausted_of

/-- In every run, at every moment: devices are recorded and announced exactly once for each time
that they come to be connected, and the tokens of the events tell whether what they announce has
lasted. -/
theorem facts_fenced (events : List Event) (hrun : deviceFacts.Run {} events) :
    Fenced (deviceFacts.exec {} events) :=
  (hrun.invariant step_inv inv_initial).fenced

/-- A fact about a device. -/
def plainFact (state : DeviceLifecycleState) : DeviceFact where
  kind := .sessionChanged
  snapshot := ⟨1, true, false, false, ⟨0, true, []⟩,
    [⟨[97], [], state, 1, 0, true, false, true, false⟩]⟩
  deviceId := [97]
  connectionResult := .success
  operation := .manualConnect
  isTerminalFailure := false
  disconnectReason := .unexpectedLoss

/-- A device that is connected, observed once more, lost and connected again. -/
def comingsAndGoings : List Event :=
  let observed (state : DeviceLifecycleState) (calls : Nat) : List Event :=
    .observe (plainFact state) :: List.replicate calls (.proceed [])
  observed .connected 4 ++ observed .connected 2 ++ observed .waitingForReconnect 4 ++
    observed .connected 4

/-- The device is recorded and announced twice, and only the second announcement is current. -/
theorem facts_fenced_coming :
    let s := deviceFacts.exec {} comingsAndGoings
    Fenced s ∧ marks [97] s.log =
      [.observed .connected, .recorded, .announced, .observed .connected,
        .observed .waitingForReconnect, .observed .connected, .recorded, .announced] ∧
      ((published s.log).filter fun notification => (notification.event.mark [97]).isSome).map
        (fun notification => notification.deviceToken.map
          (DeviceFactPublicationFence.isCurrent s.deviceFence)) = [some false, some true] := by
  have hrun : deviceFacts.Run {} comingsAndGoings := by decide
  exact ⟨facts_fenced comingsAndGoings hrun, by decide, by decide⟩

/-- Publications of others until no revision is left. -/
theorem exec_publications : ∀ (n : Nat) (s : State), s.closed = false → s.nextRevision ≠ 0 →
    s.nextRevision + n + 1 = 2 ^ 64 →
      ∃ log, deviceFacts.exec s
          (List.replicate (n + 1) (.publish (.settingsChanged 1 [] true))) =
            { s with nextRevision := 0, log } ∧
        observations log = observations s.log ∧
        ∀ deviceId, marks deviceId log = marks deviceId s.log
  | n, s, hopen, hleft, hroom => by
    let other : PublishedEvent := .settingsChanged 1 [] true
    let log := s.log ++ [.published ⟨s.nextRevision, other, none⟩]
    have hstep : deviceFacts.step s (.publish other) =
        { s with nextRevision := EventState.next s.nextRevision, log } :=
      publish_eq (by simp [hopen, hleft]) (by simp [isRepeated, other])
    have hlog : observations log = observations s.log ∧
        ∀ deviceId, marks deviceId log = marks deviceId s.log := by
      simp [log, Entry.observation, Entry.mark, PublishedEvent.mark, other]
    rw [List.replicate_succ, EventSystem.exec_cons, hstep]
    cases n with
    | zero =>
      refine ⟨log, ?_, hlog⟩
      have hnext : EventState.next s.nextRevision = 0 := by
        unfold EventState.next
        omega
      rw [hnext]
      rfl
    | succ n =>
      have hnext : EventState.next s.nextRevision = s.nextRevision + 1 :=
        Nat.mod_eq_of_lt (by omega)
      rw [hnext]
      obtain ⟨log', hexec, hobservations, hmarks⟩ := exec_publications n
        { s with nextRevision := s.nextRevision + 1, log } hopen (Nat.succ_ne_zero _)
        (by dsimp only; omega)
      exact ⟨log', hexec, hobservations.trans hlog.1,
        fun deviceId => (hmarks deviceId).trans (hlog.2 deviceId)⟩

/-- The last revision has been given to an event when a device comes to be connected. It is recorded
and not announced. -/
theorem recorded_unannounced :
    ¬ ∀ (events : List Event), deviceFacts.Run {} events →
      ∀ s, s = deviceFacts.exec {} events → s.closed = false → s.pending = [] →
        ∀ deviceId, marks deviceId s.log =
          announcements .none (statuses deviceId (observations s.log)) := by
  intro h
  let other : Event := .publish (.settingsChanged 1 [] true)
  let connected : List Event := .observe (plainFact .connected) :: List.replicate 4 (.proceed [])
  obtain ⟨log, hexec, hobservations, hmarks⟩ := exec_publications (2 ^ 64 - 2) {} rfl
    Nat.one_ne_zero rfl
  have hothers : deviceFacts.Run {} (List.replicate (2 ^ 64 - 2 + 1) other) := by
    have hall : deviceFacts.Always (fun _ e => e = other) {}
        (List.replicate (2 ^ 64 - 2 + 1) other) :=
      EventSystem.always_of_forall fun e he => List.eq_of_mem_replicate he
    exact hall.imp fun s e he => by
      subst he
      rfl
  let last : State := { nextRevision := 0, log }
  let ended : State := {
    last with
    deviceFence := DeviceFactPublicationFence.observed [97] .connected last.deviceFence
    log := log ++ [.observed [97] .connected] ++ [.recorded (.recordConnectedDevice [97] [] [])] }
  have hlast : deviceFacts.exec last connected = ended := rfl
  have hrun : deviceFacts.Run {} (List.replicate (2 ^ 64 - 2 + 1) other ++ connected) := by
    refine (EventSystem.run_append deviceFacts).2 ⟨hothers, ?_⟩
    rw [hexec]
    exact ⟨rfl, nofun, nofun, nofun, nofun, trivial⟩
  have hend : deviceFacts.exec {} (List.replicate (2 ^ 64 - 2 + 1) other ++ connected) = ended := by
    rw [EventSystem.exec_append, hexec]
    exact hlast
  have hmarked : marks [97] ended.log = _ := h _ hrun ended hend.symm rfl rfl [97]
  have hseen : statuses [97] (observations ended.log) = [.connected] := by
    simp only [ended, observations_concat, hobservations]
    rfl
  have hleft : marks [97] ended.log = [.observed .connected, .recorded] := by
    simp only [ended, marks_concat, hmarks]
    rfl
  rw [hseen, hleft] at hmarked
  exact absurd hmarked (by decide)

end DeviceFacts

end PlaybackConnector
