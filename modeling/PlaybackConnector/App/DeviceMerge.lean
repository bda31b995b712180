import PlaybackConnector.App.TargetResolution
import PlaybackConnector.Selection.Keyed
import PlaybackConnector.Service.State

/-!
# The devices of the application

`MergeDevices` (`AppControllerUseCases.cpp:919`) gathers the devices of the inventory, of the
sessions and of the settings in one list with one record for each identity, and then looks the
session of each record up to give it its connection state. The lookup is `FindById`, which ignores
case, where identities are exact (`DeviceId.hpp:14`).
-/

namespace PlaybackConnector

namespace TargetResolution

open Text (lowerInvariant equalsIgnoreCase)

variable (toLower : ToLower)

/-! ## Records -/

/-- The state of a session's device. Source: `SessionRecords` (`AppControllerUseCases.cpp:899`). -/
def sessionState : DeviceLifecycleState → AppConnectionState
  | .idle => .idle
  | .connecting => .connecting
  | .disconnecting => .disconnecting
  | .connected => .connected
  | .waitingForReconnect => .waitingForReconnect
  | .failed => .failed

/-- Source: `SessionRecords` (`AppControllerUseCases.cpp:899`). -/
def sessionRecords (snapshot : DeviceServiceSnapshot) : List DeviceRecord :=
  snapshot.sessions.map fun session =>
    let state := sessionState session.state
    { id := session.deviceId
      name := session.deviceName
      state
      isConnected := state == .connected
      isKnown := true }

/-- A device that the settings store. Source: `MergeDevices` (`AppControllerUseCases.cpp:946`). -/
def settingsRecord (device : Settings.DeviceSettings) : DeviceRecord where
  id := device.id
  name := device.name
  deviceAlias := device.deviceAlias
  isKnown := true

/-- A record is combined with one that has its identity. Source: `MergeDevices`
(`AppControllerUseCases.cpp:931`). -/
def DeviceRecord.combine (current device : DeviceRecord) : DeviceRecord where
  id := current.id
  name := if device.name ≠ [] then device.name else current.name
  deviceAlias := if device.deviceAlias ≠ [] then device.deviceAlias else current.deviceAlias
  state := if current.state = .idle ∧ device.state ≠ .idle then device.state else current.state
  isConnected := current.isConnected || device.isConnected
  isKnown := current.isKnown || device.isKnown

/-- All records in the order in which they are merged, without those that have no identity.
Source: `MergeDevices` (`AppControllerUseCases.cpp:940`). -/
def sources (refreshed connected : List DeviceRecord) (settings : Settings.SettingsData) :
    List DeviceRecord :=
  (refreshed ++ connected ++ settings.devices.map settingsRecord).filter fun device =>
    device.id ≠ []

/-- Source: `ApplySessionStates` (`AppControllerUseCases.cpp:1127`). -/
def applySessionState (connectedDevices : List DeviceRecord) (current : DeviceRecord) :
    DeviceRecord :=
  match findById toLower connectedDevices current.id with
  | some source =>
    { current with
      state := source.state
      isConnected := source.isConnected
      isKnown := current.isKnown || source.isKnown }
  | none => { current with isConnected := false, state := .idle }

/-- The order in which devices are presented. Source: `MergeDevices`
(`AppControllerUseCases.cpp:951`). -/
def isBefore (left right : DeviceRecord) : Bool :=
  let leftLabel := lowerInvariant toLower (deviceName left)
  let rightLabel := lowerInvariant toLower (deviceName right)
  if leftLabel ≠ rightLabel then decide (leftLabel < rightLabel)
  else decide (lowerInvariant toLower left.id < lowerInvariant toLower right.id)

/-- The positions that `indexes` holds are those of the records with these identities.
Source: `MergeDevices` (`AppControllerUseCases.cpp:919`). -/
def mergeDevices (refreshed connected : List DeviceRecord) (settings : Settings.SettingsData) :
    List DeviceRecord :=
  let merged := gather DeviceRecord.id DeviceRecord.combine (sources refreshed connected settings)
  (merged.map (applySessionState toLower connected)).insertionSort fun left right =>
    isBefore toLower right left = false

/-- Source: `BuildDevicesWithoutRefresh` (`AppControllerUseCases.cpp:856`). -/
def buildDevicesWithoutRefresh (snapshot : DeviceServiceSnapshot)
    (settings : Settings.SettingsData) : List DeviceRecord :=
  let inventory := snapshot.inventory.devices.map fun device =>
    { id := device.id, name := device.name, isKnown := true }
  mergeDevices toLower inventory (sessionRecords snapshot) settings

/-! ## Exact identities -/

/-- The connection state of the session with exactly this identity. -/
def connection (sessions : List DeviceRecord) (id : WString) : AppConnectionState × Bool :=
  match findKey DeviceRecord.id id sessions with
  | some session => (session.state, session.isConnected)
  | none => (.idle, false)

/-- The last text that is not empty. -/
def storedText (texts : List WString) : WString := ((texts.filter (· ≠ [])).getLast?).getD []

/-- A text that the records with exactly this identity store. -/
def stored (text : DeviceRecord → WString) (id : WString) (records : List DeviceRecord) : WString :=
  storedText ((records.filter fun record => record.id = id).map text)

/-- A listed device is what a selector of its identity means. -/
def ResolvesExactly (devices : List DeviceRecord) (settings : Settings.SettingsData) : Prop :=
  ∀ device ∈ devices, ∀ selector, selector.kind = .id → selector.value = device.id →
    (resolve toLower selector devices settings).device = some device

/-- The merged devices are those of the sources, by their exact identities. -/
structure MergesExactly (refreshed connected : List DeviceRecord)
    (settings : Settings.SettingsData) : Prop where
  /-- There is one record for each identity. -/
  distinct : ((mergeDevices toLower refreshed connected settings).map DeviceRecord.id).Nodup
  /-- The identities are those of the sources that are not empty. -/
  listed : ∀ id, id ∈ (mergeDevices toLower refreshed connected settings).map DeviceRecord.id ↔
    id ≠ [] ∧ (id ∈ refreshed.map DeviceRecord.id ∨ id ∈ connected.map DeviceRecord.id ∨
      id ∈ settings.devices.map Settings.DeviceSettings.id)
  /-- A record has the connection state of the session with its identity. -/
  connection : ∀ record ∈ mergeDevices toLower refreshed connected settings,
    (record.state, record.isConnected) = connection connected record.id
  /-- It has the name and the alias that are stored under its identity, in the settings if there is
  one there. -/
  name : ∀ record ∈ mergeDevices toLower refreshed connected settings,
    record.name = stored DeviceRecord.name record.id (sources refreshed connected settings)
  deviceAlias : ∀ record ∈ mergeDevices toLower refreshed connected settings,
    record.deviceAlias =
      stored DeviceRecord.deviceAlias record.id (sources refreshed connected settings)

/-- No device that a selector can name is listed after one whose identity differs from its own in
letter case only. -/
def Unshadowed (devices : List DeviceRecord) : Prop :=
  ∀ before device after, devices = before ++ device :: after → IsValidCommandText device.id →
    ∀ other ∈ before, equalsIgnoreCase toLower other.id device.id = false

/-- The first session whose identity is one of the sources', up to letter case, is in the connection
state of the session with exactly this identity. -/
def Represented (refreshed connected : List DeviceRecord) (settings : Settings.SettingsData) :
    Prop :=
  ∀ record ∈ sources refreshed connected settings, ∀ before session after,
    connected = before ++ session :: after →
    (∀ other ∈ before, equalsIgnoreCase toLower other.id record.id = false) →
    equalsIgnoreCase toLower session.id record.id = true →
      (session.state, session.isConnected) = connection connected record.id

variable {toLower} {devices refreshed connected : List DeviceRecord}
  {settings : Settings.SettingsData} {record device current : DeviceRecord} {id : WString}
  {selector : DeviceSelector}

/-! ## Resolution by identity -/

theorem findById_eq_some_iff : findById toLower devices id = some device ↔
    equalsIgnoreCase toLower device.id id = true ∧ ∃ before after,
      devices = before ++ device :: after ∧
        ∀ other ∈ before, equalsIgnoreCase toLower other.id id = false := by
  unfold findById
  rw [List.find?_eq_some_iff_append]
  simp only [Bool.not_eq_eq_eq_not, Bool.not_true]

theorem device_resolve_id (hkind : selector.kind = .id) :
    (resolve toLower selector devices settings).device =
      findById toLower devices selector.value := by
  have htext : selector.idText = selector.value := by
    unfold DeviceSelector.idText
    rw [if_neg (not_not_intro hkind)]
  unfold resolve
  rw [hkind]
  show (resolveId toLower devices selector.idText).device = _
  rw [htext]
  unfold resolveId
  cases findById toLower devices selector.value <;> rfl

/-- Devices are resolved by their identities exactly if none of them shadows another one. -/
theorem resolvesExactly_iff (hnodup : (devices.map DeviceRecord.id).Nodup) :
    ResolvesExactly toLower devices settings ↔ Unshadowed toLower devices := by
  have hfind (device : DeviceRecord) (before after : List DeviceRecord)
      (hsplit : devices = before ++ device :: after) :
      findById toLower devices device.id = some device ↔
        ∀ other ∈ before, equalsIgnoreCase toLower other.id device.id = false := by
    rw [findById_eq_some_iff, and_iff_right Text.equalsIgnoreCase_refl]
    refine ⟨?_, fun hbefore => ⟨before, after, hsplit, hbefore⟩⟩
    rintro ⟨before', after', hsplit', hbefore⟩
    have hdistinct : device ∉ before ∧ device ∉ after := by
      have hall := (List.Nodup.of_map _ hnodup)
      rw [hsplit, List.nodup_append] at hall
      refine ⟨fun hmem => hall.2.2 device hmem device List.mem_cons_self rfl, ?_⟩
      exact (List.nodup_cons.1 hall.2.1).1
    have hsame : before = before' :=
      ((List.append_cons_inj_of_notMem hdistinct.1 hdistinct.2).1 (hsplit.symm.trans hsplit')).1
    rw [hsame]
    exact hbefore
  constructor
  · intro h before device after hsplit hvalid
    have hmem : device ∈ devices := by simp [hsplit]
    have hresolved := h device hmem ⟨.id, device.id, fun _ _ => hvalid⟩ rfl rfl
    rw [device_resolve_id rfl] at hresolved
    exact (hfind device before after hsplit).1 hresolved
  · intro h device hmem selector hkind hvalue
    obtain ⟨before, after, hsplit⟩ := List.append_of_mem hmem
    have hvalid : IsValidCommandText device.id :=
      hvalue ▸ selector.valid (by simp [hkind]) (by simp [hkind])
    rw [device_resolve_id hkind, hvalue]
    exact (hfind device before after hsplit).2 (h before device after hsplit hvalid)

/-! ## Merging -/

theorem id_combine (current device : DeviceRecord) : (current.combine device).id = current.id := rfl

theorem id_applySessionState : (applySessionState toLower connected current).id = current.id := by
  unfold applySessionState
  split <;> rfl

variable (toLower refreshed connected settings) in
theorem perm_mergeDevices : (mergeDevices toLower refreshed connected settings).Perm
    ((gather DeviceRecord.id DeviceRecord.combine (sources refreshed connected settings)).map
      (applySessionState toLower connected)) :=
  List.perm_insertionSort _ _

theorem keys_mergeDevices :
    ((mergeDevices toLower refreshed connected settings).map DeviceRecord.id).Perm
      ((gather DeviceRecord.id DeviceRecord.combine
        (sources refreshed connected settings)).map DeviceRecord.id) := by
  have hperm := (perm_mergeDevices toLower refreshed connected settings).map DeviceRecord.id
  rw [List.map_map] at hperm
  exact hperm.trans (List.Perm.of_eq (List.map_congr_left fun _ _ => id_applySessionState))

/-- A merged record comes from what was gathered for its identity. -/
theorem mem_mergeDevices : record ∈ mergeDevices toLower refreshed connected settings ↔
    ∃ current, combined DeviceRecord.combine ((sources refreshed connected settings).filter
        fun device => device.id = current.id) = some current ∧
      applySessionState toLower connected current = record := by
  rw [(perm_mergeDevices toLower refreshed connected settings).mem_iff, List.mem_map]
  refine exists_congr fun current => and_congr_left fun _ => ?_
  rw [← findKey_gather id_combine]
  refine ⟨fun hmem => findKey_eq_some (nodup_gather id_combine _) hmem, fun hfound => ?_⟩
  exact List.mem_of_find?_eq_some hfound

theorem mem_sources_ids : id ∈ (sources refreshed connected settings).map DeviceRecord.id ↔
    id ≠ [] ∧ (id ∈ refreshed.map DeviceRecord.id ∨ id ∈ connected.map DeviceRecord.id ∨
      id ∈ settings.devices.map Settings.DeviceSettings.id) := by
  have hsettings : (settings.devices.map settingsRecord).map DeviceRecord.id =
      settings.devices.map Settings.DeviceSettings.id := by
    rw [List.map_map]
    rfl
  rw [← hsettings]
  simp only [sources, List.mem_map, List.mem_filter, List.mem_append, decide_eq_true_eq]
  constructor
  · rintro ⟨device, ⟨(hmem | hmem) | hmem, hne⟩, rfl⟩
    · exact ⟨hne, .inl ⟨device, hmem, rfl⟩⟩
    · exact ⟨hne, .inr (.inl ⟨device, hmem, rfl⟩)⟩
    · exact ⟨hne, .inr (.inr ⟨device, hmem, rfl⟩)⟩
  · rintro ⟨hne, ⟨device, hmem, rfl⟩ | ⟨device, hmem, rfl⟩ | ⟨device, hmem, rfl⟩⟩
    · exact ⟨device, ⟨.inl (.inl hmem), hne⟩, rfl⟩
    · exact ⟨device, ⟨.inl (.inr hmem), hne⟩, rfl⟩
    · exact ⟨device, ⟨.inr hmem, hne⟩, rfl⟩

theorem mem_mergeDevices_ids :
    id ∈ (mergeDevices toLower refreshed connected settings).map DeviceRecord.id ↔
      id ∈ (sources refreshed connected settings).map DeviceRecord.id := by
  rw [keys_mergeDevices.mem_iff, mem_keys_gather id_combine]

/-- The connection state that a record is given: that of the first session with its identity, up to
letter case. -/
def foldedConnection (toLower : ToLower) (sessions : List DeviceRecord) (id : WString) :
    AppConnectionState × Bool :=
  match findById toLower sessions id with
  | some session => (session.state, session.isConnected)
  | none => (.idle, false)

theorem connection_applySessionState :
    ((applySessionState toLower connected current).state,
      (applySessionState toLower connected current).isConnected) =
        foldedConnection toLower connected current.id := by
  unfold applySessionState foldedConnection
  split <;> rfl

/-- When the lookup that ignores case gives the connection state of the exact identity. -/
theorem foldedConnection_eq_iff : foldedConnection toLower connected id = connection connected id ↔
    ∀ before session after, connected = before ++ session :: after →
      (∀ other ∈ before, equalsIgnoreCase toLower other.id id = false) →
      equalsIgnoreCase toLower session.id id = true →
        (session.state, session.isConnected) = connection connected id := by
  constructor
  · intro h before session after hsplit hbefore hsession
    have hfound : findById toLower connected id = some session :=
      findById_eq_some_iff.2 ⟨hsession, before, after, hsplit, hbefore⟩
    unfold foldedConnection at h
    rw [hfound] at h
    exact h
  · intro h
    unfold foldedConnection
    cases hfound : findById toLower connected id with
    | some session =>
      obtain ⟨hsession, before, after, hsplit, hbefore⟩ := findById_eq_some_iff.1 hfound
      exact h before session after hsplit hbefore hsession
    | none =>
      have hnone : findKey DeviceRecord.id id connected = none := by
        refine List.find?_eq_none.2 fun session hmem hid => ?_
        have hfolded := List.find?_eq_none.1 hfound session hmem
        rw [of_decide_eq_true hid] at hfolded
        exact hfolded Text.equalsIgnoreCase_refl
      unfold connection
      rw [hnone]

/-- The devices that are built from a snapshot of the service are connected exactly if their state
says so. -/
theorem isConnected_buildDevices {snapshot : DeviceServiceSnapshot}
    (hrecord : record ∈ buildDevicesWithoutRefresh toLower snapshot settings) :
    record.isConnected = (record.state == .connected) := by
  obtain ⟨current, -, rfl⟩ := mem_mergeDevices.1 hrecord
  have hboth : _ = foldedConnection toLower (sessionRecords snapshot) current.id :=
    connection_applySessionState
  obtain ⟨hstate, hconnected⟩ := Prod.mk.inj hboth
  rw [hstate, hconnected]
  cases hfound : findById toLower (sessionRecords snapshot) current.id with
  | none => rfl
  | some session =>
    obtain ⟨source, -, rfl⟩ := List.mem_map.1 (List.mem_of_find?_eq_some hfound)
    rfl

/-! ## Names -/

theorem storedText_concat (texts : List WString) (text : WString) :
    storedText (texts ++ [text]) = if text ≠ [] then text else storedText texts := by
  unfold storedText
  rw [List.filter_append]
  by_cases htext : text = [] <;> simp [htext]

/-- Combined records have the last text that one of them has. -/
theorem text_combined {text : DeviceRecord → WString}
    (htext : ∀ current device, text (current.combine device) =
      if text device ≠ [] then text device else text current) :
    ∀ {records : List DeviceRecord} {record : DeviceRecord},
      combined DeviceRecord.combine records = some record →
        text record = storedText (records.map text) := by
  intro records
  induction records using List.reverseRecOn with
  | nil => exact fun h => absurd h (by simp [combined])
  | append_singleton records last ih =>
    intro record h
    rw [combined_concat] at h
    rw [List.map_append, List.map_singleton, storedText_concat]
    cases hbefore : combined DeviceRecord.combine records with
    | none =>
      rw [hbefore] at h
      obtain rfl := Option.some.inj h
      have hnone : records = [] := by
        cases records with
        | nil => rfl
        | cons => exact absurd hbefore (by simp [combined])
      subst hnone
      by_cases hlast : text last = [] <;> simp [hlast, storedText]
    | some current =>
      rw [hbefore] at h
      obtain rfl := Option.some.inj h
      rw [htext, ih hbefore]

/-! ## Exact merging -/

theorem text_applySessionState : (applySessionState toLower connected current).name = current.name ∧
    (applySessionState toLower connected current).deviceAlias = current.deviceAlias := by
  unfold applySessionState
  split <;> exact ⟨rfl, rfl⟩

/-- Devices are merged by their exact identities exactly if the sessions that the lookup finds are
in the state of those with the exact identities. -/
theorem mergesExactly_iff : MergesExactly toLower refreshed connected settings ↔
    Represented toLower refreshed connected settings := by
  have hconnection : (∀ record ∈ mergeDevices toLower refreshed connected settings,
      (record.state, record.isConnected) = connection connected record.id) ↔
        Represented toLower refreshed connected settings := by
    constructor
    · intro h source hsource
      have hid : source.id ∈ (mergeDevices toLower refreshed connected settings).map
          DeviceRecord.id := mem_mergeDevices_ids.2 (List.mem_map_of_mem hsource)
      obtain ⟨record, hrecord, hsame⟩ := List.mem_map.1 hid
      obtain ⟨current, -, rfl⟩ := mem_mergeDevices.1 hrecord
      have hstate := h _ hrecord
      rw [connection_applySessionState, id_applySessionState] at hstate
      rw [id_applySessionState] at hsame
      rw [hsame] at hstate
      exact foldedConnection_eq_iff.1 hstate
    · intro h record hrecord
      have hid := mem_mergeDevices_ids.1 (List.mem_map_of_mem hrecord)
      obtain ⟨source, hsource, hsame⟩ := List.mem_map.1 hid
      obtain ⟨current, -, rfl⟩ := mem_mergeDevices.1 hrecord
      rw [connection_applySessionState, id_applySessionState]
      rw [id_applySessionState] at hsame
      rw [← hsame]
      exact foldedConnection_eq_iff.2 (h source hsource)
  refine ⟨fun h => hconnection.1 h.connection, fun h => ?_⟩
  refine ⟨?_, fun id => ?_, hconnection.2 h, fun record hrecord => ?_, fun record hrecord => ?_⟩
  · exact keys_mergeDevices.nodup_iff.2 (nodup_gather id_combine _)
  · rw [mem_mergeDevices_ids]
    exact mem_sources_ids
  · obtain ⟨current, hcombined, rfl⟩ := mem_mergeDevices.1 hrecord
    rw [text_applySessionState.1, id_applySessionState]
    exact text_combined (fun _ _ => rfl) hcombined
  · obtain ⟨current, hcombined, rfl⟩ := mem_mergeDevices.1 hrecord
    rw [text_applySessionState.2, id_applySessionState]
    exact text_combined (fun _ _ => rfl) hcombined

/-- The identities of devices are exact if and only if no listed device shadows another one, and the
sessions that are found for the merged records are in the states of those with the exact
identities. -/
theorem identities_exact_iff (toLower : ToLower) (devices refreshed connected : List DeviceRecord)
    (settings : Settings.SettingsData) (hnodup : (devices.map DeviceRecord.id).Nodup) :
    ResolvesExactly toLower devices settings ∧
        MergesExactly toLower refreshed connected settings ↔
      Unshadowed toLower devices ∧ Represented toLower refreshed connected settings :=
  and_congr (resolvesExactly_iff hnodup) mergesExactly_iff

/-- A session of the device `1`. -/
def boxSession : DeviceRecord := { id := [49], state := .connected, isConnected := true }

/-- Two devices whose identities do not differ in letter case only. -/
theorem identities_exact_boxes :
    ResolvesExactly asciiToLower boxes {} ∧ MergesExactly asciiToLower boxes [boxSession] {} := by
  refine (identities_exact_iff asciiToLower boxes boxes [boxSession] {} (by decide)).2
    ⟨fun before device after hsplit _ other hother => ?_,
      fun record hrecord before session after hsplit _ hsession => ?_⟩
  · rcases before with _ | ⟨first, _ | ⟨second, rest⟩⟩
    · exact absurd hother List.not_mem_nil
    · obtain ⟨rfl, hrest⟩ := List.cons.inj hsplit
      obtain ⟨rfl, -⟩ := List.cons.inj hrest
      rw [List.mem_singleton.1 hother]
      decide
    · simp [boxes] at hsplit
  · rcases before with _ | ⟨first, rest⟩
    · obtain ⟨rfl, -⟩ := List.cons.inj hsplit
      have hstates : ∀ record ∈ sources boxes [boxSession] {},
          equalsIgnoreCase asciiToLower boxSession.id record.id = true →
            (boxSession.state, boxSession.isConnected) = connection [boxSession] record.id := by
        decide
      exact hstates record hrecord hsession
    · simp at hsplit

/-- Two devices whose identities differ in letter case only. -/
def twins : List DeviceRecord := [{ id := [65] }, { id := [97] }]

/-- The first of them is connected, the second one is not. -/
def twinSessions : List DeviceRecord :=
  [{ id := [65], state := .connected, isConnected := true }, { id := [97] }]

/-- The identity of the second device means the first one, and the second one is said to be
connected. -/
theorem identities_exact_twins :
    ¬ ∀ (toLower : ToLower) (devices refreshed connected : List DeviceRecord)
      (settings : Settings.SettingsData), (devices.map DeviceRecord.id).Nodup →
        (refreshed.map DeviceRecord.id).Nodup → (connected.map DeviceRecord.id).Nodup →
          ResolvesExactly toLower devices settings ∧
            MergesExactly toLower refreshed connected settings := by
  intro h
  have hresolves := (h asciiToLower twins twins twinSessions {} (by decide) (by decide)
    (by decide)).1
  have hsecond := hresolves { id := [97] } (by decide) ⟨.id, [97], fun _ _ => by decide⟩ rfl rfl
  exact absurd hsecond (by decide)

end TargetResolution

end PlaybackConnector
