import PlaybackConnector.App.Models
import PlaybackConnector.Selection.Ranked
import PlaybackConnector.Text.Case

/-!
# The device that a selector means

`AppController::Resolve` (`AppControllerUseCases.cpp:694`) looks a selector up in a list of devices.
A query is matched at ranks: a selector by name or by alias prefers the devices whose name it is,
ignoring case, to those whose name contains it, and an automatic one prefers identities, then
names and aliases, then fragments of addresses, then parts of names and aliases
(`ControlTargetMatcher.hpp:24`). Among the devices at the best rank there must be one identity only.
-/

namespace PlaybackConnector

namespace TargetResolution

open Text (lowerInvariant equalsIgnoreCase containsIgnoreCase normalizeHex)

variable (toLower : ToLower)

/-! ## Devices and resolutions -/

/-- Source: `DeviceRecord` (`AppController.hpp:188`). -/
structure DeviceRecord where
  id : WString
  name : WString := []
  deviceAlias : WString := []
  state : AppConnectionState := .idle
  isConnected : Bool := false
  isKnown : Bool := false
deriving Repr, DecidableEq

/-- Source: `DeviceName` (`AppControllerUseCases.cpp:33`). -/
def deviceName (device : DeviceRecord) : WString :=
  if device.deviceAlias ≠ [] then device.deviceAlias
  else if device.name = [] then device.id
  else device.name

/-- Source: `Resolution` (`AppController.hpp:217`). -/
structure Resolution where
  code : AppResultCode := .success
  reason : AppOutcomeReason := .none
  requestedTarget : WString := []
  device : Option DeviceRecord := none
  target : AppTargetSnapshot := {}
  hasTarget : Bool := false
deriving Repr, DecidableEq

/-- Source: `FindById` (`AppControllerUseCases.cpp:1092`). -/
def findById (devices : List DeviceRecord) (id : WString) : Option DeviceRecord :=
  devices.find? fun device => equalsIgnoreCase toLower device.id id

/-- Source: `Resolve` (`AppControllerUseCases.cpp:698`). -/
def makeResolved (device : DeviceRecord) : Resolution where
  hasTarget := true
  device := some device
  target := ⟨device.id, device.name, device.deviceAlias, deviceName device, true,
    device.isConnected, device.isKnown⟩

/-- Source: `Resolve` (`AppControllerUseCases.cpp:704`). -/
def makeUnknown (id : WString) : Resolution where
  hasTarget := true
  target := { id, displayName := id }

/-- The sort leaves the order of devices with one identity open; it is the one of the list here.
Source: `Resolve` (`AppControllerUseCases.cpp:709`). -/
def matchOne (found : List DeviceRecord) (query : WString) : Resolution :=
  match dropRepeated DeviceRecord.id (sortByKey (· ≤ ·) DeviceRecord.id found) with
  | [] => { code := .notFound, reason := .targetNotFound, requestedTarget := query }
  | [device] => makeResolved device
  | _ => { code := .ambiguous, reason := .targetAmbiguous, requestedTarget := query }

/-! ## Automatic matching -/

/-- Source: `TargetCandidateView` (`ControlTargetMatcher.hpp:11`). -/
structure TargetCandidateView where
  id : WString
  name : WString
  deviceAlias : WString
deriving Repr, DecidableEq

/-- Source: `AutoTargetMatchRank` (`ControlTargetMatcher.hpp:17`). -/
inductive AutoTargetMatchRank
  | none | exactId | exactAliasOrName | macFragment | aliasOrNameSubstring
deriving Repr, DecidableEq

/-- Source: `AutoTargetMatches` (`ControlTargetMatcher.hpp:19`). -/
structure AutoTargetMatches where
  rank : AutoTargetMatchRank := .none
  indices : List Nat := []
deriving Repr, DecidableEq

/-- The places of the candidates that match. Source: `FindAutoTargetMatches`
(`ControlTargetMatcher.hpp:29`). -/
def collect (predicate : TargetCandidateView → Bool) (candidates : List TargetCandidateView) :
    List Nat :=
  (List.range candidates.length).filter fun index => candidates[index]?.any predicate

/-- Source: `FindAutoTargetMatches` (`ControlTargetMatcher.hpp:38`). -/
def isExactId (query : WString) (candidate : TargetCandidateView) : Bool :=
  equalsIgnoreCase toLower candidate.id query

/-- Source: `FindAutoTargetMatches` (`ControlTargetMatcher.hpp:42`). -/
def isExactAliasOrName (query : WString) (candidate : TargetCandidateView) : Bool :=
  equalsIgnoreCase toLower candidate.deviceAlias query ||
    equalsIgnoreCase toLower candidate.name query

/-- Source: `FindAutoTargetMatches` (`ControlTargetMatcher.hpp:49`). -/
def hasMacFragment (query : WString) (candidate : TargetCandidateView) : Bool :=
  decide (normalizeHex toLower query <:+: normalizeHex toLower candidate.id)

/-- Source: `FindAutoTargetMatches` (`ControlTargetMatcher.hpp:54`). -/
def isAliasOrNameSubstring (query : WString) (candidate : TargetCandidateView) : Bool :=
  containsIgnoreCase toLower candidate.deviceAlias query ||
    containsIgnoreCase toLower candidate.name query

/-- Source: `FindAutoTargetMatches` (`ControlTargetMatcher.hpp:24`). -/
def findAutoTargetMatches (candidates : List TargetCandidateView) (query : WString) :
    AutoTargetMatches :=
  if query = [] then {}
  else
    let exactIds := collect (isExactId toLower query) candidates
    if exactIds ≠ [] then ⟨.exactId, exactIds⟩
    else
      let exactNames := collect (isExactAliasOrName toLower query) candidates
      if exactNames ≠ [] then ⟨.exactAliasOrName, exactNames⟩
      else
        let fragments := collect (hasMacFragment toLower query) candidates
        if 6 ≤ (normalizeHex toLower query).length ∧ fragments ≠ [] then ⟨.macFragment, fragments⟩
        else
          let substrings := collect (isAliasOrNameSubstring toLower query) candidates
          if substrings ≠ [] then ⟨.aliasOrNameSubstring, substrings⟩ else {}

/-! ## Resolution -/

/-- Source: `Resolve` (`AppControllerUseCases.cpp:731`, `752`). -/
def resolveId (devices : List DeviceRecord) (id : WString) : Resolution :=
  match findById toLower devices id with
  | some device => makeResolved device
  | none => makeUnknown id

/-- The devices whose text is the query, or contains it if there are none.
Source: `Resolve` (`AppControllerUseCases.cpp:761`, `785`). -/
def findByText (text : DeviceRecord → WString) (devices : List DeviceRecord) (query : WString) :
    List DeviceRecord :=
  let found := devices.filter fun device => equalsIgnoreCase toLower (text device) query
  if found.isEmpty then devices.filter fun device => containsIgnoreCase toLower (text device) query
  else found

/-- Source: `Resolve` (`AppControllerUseCases.cpp:774`). -/
def findByMac (devices : List DeviceRecord) (query : WString) : List DeviceRecord :=
  let normalized := normalizeHex toLower query
  if 6 ≤ normalized.length then
    devices.filter fun device => decide (normalized <:+: normalizeHex toLower device.id)
  else []

/-- Source: `Resolve` (`AppControllerUseCases.cpp:798`). -/
def findAuto (devices : List DeviceRecord) (query : WString) : List DeviceRecord :=
  let candidates := devices.map fun device => ⟨device.id, device.name, device.deviceAlias⟩
  (findAutoTargetMatches toLower candidates query).indices.filterMap (devices[·]?)

/-- The identity of the default device or of the last one. Source: `Resolve`
(`AppControllerUseCases.cpp:739`). -/
def statefulId (kind : DeviceSelectorKind) (settings : Settings.SettingsData) : Option WString :=
  if kind = .default ∧ settings.defaultDevice = .specificDevice ∧ settings.defaultDeviceId ≠ [] then
    some settings.defaultDeviceId
  else settings.lastConnectedIds.head?

/-- Source: `Resolve` (`AppControllerUseCases.cpp:694`). -/
def resolve (selector : DeviceSelector) (devices : List DeviceRecord)
    (settings : Settings.SettingsData) : Resolution :=
  match selector.kind with
  | .id => resolveId toLower devices selector.idText
  | .default =>
    match statefulId .default settings with
    | some id => resolveId toLower devices id
    | none => { code := .notFound, reason := .defaultTargetMissing }
  | .last =>
    match statefulId .last settings with
    | some id => resolveId toLower devices id
    | none => { code := .notFound, reason := .lastTargetMissing }
  | .name =>
    matchOne (findByText toLower DeviceRecord.name devices selector.query) selector.query
  | .mac => matchOne (findByMac toLower devices selector.query) selector.query
  | .deviceAlias =>
    matchOne (findByText toLower DeviceRecord.deviceAlias devices selector.query) selector.query
  | .auto => matchOne (findAuto toLower devices selector.query) selector.query

/-! ## What is resolved -/

/-- What a resolution says: that nothing was found, that too much was, or which identity is
meant. -/
def Resolution.choice (resolution : Resolution) : Choice WString :=
  match resolution.code with
  | .notFound => .notFound
  | .ambiguous => .ambiguous
  | _ => .resolved resolution.target.id

/-- What the automatic matching sees of a device. -/
def DeviceRecord.view (device : DeviceRecord) : TargetCandidateView :=
  ⟨device.id, device.name, device.deviceAlias⟩

/-- The ranks at which a query matches a device by a text. -/
def textRanks (text : DeviceRecord → WString) (query : WString) : List (DeviceRecord → Bool) :=
  [fun device => equalsIgnoreCase toLower (text device) query,
    fun device => containsIgnoreCase toLower (text device) query]

/-- The rank at which a query matches the address of a device: it needs six digits. -/
def macRank (query : WString) (device : DeviceRecord) : Bool :=
  decide (6 ≤ (normalizeHex toLower query).length) && hasMacFragment toLower query device.view

/-- The ranks at which a query matches a device, the best one first. -/
def ranks (selector : DeviceSelector) : List (DeviceRecord → Bool) :=
  match selector.kind with
  | .name => textRanks toLower DeviceRecord.name selector.query
  | .deviceAlias => textRanks toLower DeviceRecord.deviceAlias selector.query
  | .mac => [macRank toLower selector.query]
  | .auto =>
    [fun device => isExactId toLower selector.query device.view,
      fun device => isExactAliasOrName toLower selector.query device.view,
      macRank toLower selector.query,
      fun device => isAliasOrNameSubstring toLower selector.query device.view]
  | _ => []

variable {toLower} {devices : List DeviceRecord} {query : WString} {device : DeviceRecord}
  {found : List DeviceRecord} {selector : DeviceSelector} {settings : Settings.SettingsData}

theorem choice_matchOne : (matchOne found query).choice =
    choiceOf DeviceRecord.id
      (dropRepeated DeviceRecord.id (sortByKey (· ≤ ·) DeviceRecord.id found)) := by
  unfold matchOne
  split
  next hnone =>
    rw [hnone]
    rfl
  next hone =>
    rw [hone]
    rfl
  next hnone hone =>
    rcases hdistinct : dropRepeated DeviceRecord.id (sortByKey (· ≤ ·) DeviceRecord.id found) with
      _ | ⟨device, _ | ⟨other, rest⟩⟩
    · exact absurd hdistinct hnone
    · exact absurd hdistinct (hone device)
    · rfl

/-- The device of a resolution is one of those that were found. -/
theorem device_matchOne (h : (matchOne found query).device = some device) :
    device ∈ found ∧ (matchOne found query).choice = .resolved device.id := by
  unfold matchOne at h ⊢
  split at h
  · exact absurd h (by simp)
  next only hone =>
    obtain rfl := Option.some.inj h
    have hmem : only ∈ sortByKey (· ≤ ·) DeviceRecord.id found :=
      dropRepeated_sublist.subset (hone ▸ List.mem_singleton_self only)
    refine ⟨(perm_sortByKey _ found).subset hmem, ?_⟩
    rfl
  · exact absurd h (by simp)

theorem findByText_eq (text : DeviceRecord → WString) :
    findByText toLower text devices query = bestMatches (textRanks toLower text query) devices := by
  unfold findByText textRanks
  rw [bestMatches_cons, bestMatches_singleton]
  simp only [List.isEmpty_iff]

theorem findByMac_eq :
    findByMac toLower devices query = bestMatches [macRank toLower query] devices := by
  rw [bestMatches_singleton]
  unfold findByMac macRank
  by_cases hdigits : 6 ≤ (normalizeHex toLower query).length
  · rw [if_pos hdigits]
    refine List.filter_congr fun device _ => ?_
    rw [decide_eq_true hdigits, Bool.true_and]
    rfl
  · simp [hdigits]

theorem collect_cons (predicate : TargetCandidateView → Bool) (candidate : TargetCandidateView)
    (candidates : List TargetCandidateView) :
    collect predicate (candidate :: candidates) =
      (if predicate candidate then [0] else []) ++
        (collect predicate candidates).map Nat.succ := by
  unfold collect
  rw [List.length_cons, List.range_succ_eq_map, List.filter_cons, List.filter_map]
  by_cases hmatch : predicate candidate = true <;> simp [hmatch, Function.comp_def]

/-- The devices at the places of the candidates that match. -/
theorem filterMap_collect (predicate : TargetCandidateView → Bool) : ∀ devices : List DeviceRecord,
    (collect predicate (devices.map DeviceRecord.view)).filterMap (devices[·]?) =
      devices.filter fun device => predicate device.view
  | [] => rfl
  | device :: devices => by
    rw [List.map_cons, collect_cons, List.filterMap_append, List.filterMap_map]
    have hrest := filterMap_collect predicate devices
    by_cases hmatch : predicate device.view = true
    · simpa [hmatch, Function.comp_def] using hrest
    · simpa [hmatch, Function.comp_def] using hrest

theorem collect_eq_nil_iff (predicate : TargetCandidateView → Bool) : ∀ devices : List DeviceRecord,
    collect predicate (devices.map DeviceRecord.view) = [] ↔
      (devices.filter fun device => predicate device.view) = []
  | [] => by simp [collect]
  | device :: devices => by
    rw [List.map_cons, collect_cons, List.append_eq_nil_iff, List.map_eq_nil_iff,
      collect_eq_nil_iff predicate devices]
    by_cases hmatch : predicate device.view = true <;> simp [hmatch]

theorem findAuto_eq (hquery : query ≠ []) :
    findAuto toLower devices query = bestMatches
      [fun device => isExactId toLower query device.view,
        fun device => isExactAliasOrName toLower query device.view, macRank toLower query,
        fun device => isAliasOrNameSubstring toLower query device.view] devices := by
  show (findAutoTargetMatches toLower (devices.map DeviceRecord.view) query).indices.filterMap _ = _
  unfold findAutoTargetMatches
  have hmac : devices.filter (macRank toLower query) =
      if 6 ≤ (normalizeHex toLower query).length then
        devices.filter fun device => hasMacFragment toLower query device.view
      else [] := by
    rw [← bestMatches_singleton, ← findByMac_eq]
    rfl
  simp only [if_neg hquery, bestMatches_cons, hmac, ne_eq, collect_eq_nil_iff, ite_not]
  by_cases hid : devices.filter (fun device => isExactId toLower query device.view) = []
  case neg => rw [if_neg hid, if_neg hid, filterMap_collect]
  rw [if_pos hid, if_pos hid]
  by_cases hname : devices.filter (fun device => isExactAliasOrName toLower query device.view) = []
  case neg => rw [if_neg hname, if_neg hname, filterMap_collect]
  rw [if_pos hname, if_pos hname]
  -- the fragment needs six digits
  by_cases hdigits : 6 ≤ (normalizeHex toLower query).length
  · rw [if_pos hdigits]
    by_cases hfragment :
        devices.filter (fun device => hasMacFragment toLower query device.view) = []
    case neg => rw [if_pos ⟨hdigits, hfragment⟩, if_neg hfragment, filterMap_collect]
    rw [if_neg fun h => h.2 hfragment, if_pos hfragment]
    split
    · rfl
    · exact filterMap_collect _ devices
  · rw [if_neg fun h => hdigits h.1, if_neg hdigits, if_pos rfl]
    split
    · rfl
    · exact filterMap_collect _ devices

/-- A query of a selector is not empty. -/
theorem query_ne_nil (hquery : selector.kind.isQuery = true) : selector.query ≠ [] := by
  have hvalid : IsValidCommandText selector.value := by
    refine selector.valid (fun hlast => ?_) (fun hdefault => ?_)
    · rw [hlast] at hquery
      exact absurd hquery (by decide)
    · rw [hdefault] at hquery
      exact absurd hquery (by decide)
  unfold DeviceSelector.query
  rw [if_pos hquery]
  exact hvalid.1

/-- A query is resolved by the choice among the best matches. -/
theorem resolve_query (hquery : selector.kind.isQuery = true) :
    resolve toLower selector devices settings =
      matchOne (bestMatches (ranks toLower selector) devices) selector.query := by
  unfold resolve ranks
  cases hkind : selector.kind with
  | id | last | default =>
    rw [hkind] at hquery
    exact absurd hquery (by decide)
  | name | deviceAlias => exact congrArg (matchOne · selector.query) (findByText_eq _)
  | mac => exact congrArg (matchOne · selector.query) findByMac_eq
  | auto => exact congrArg (matchOne · selector.query) (findAuto_eq (query_ne_nil hquery))

/-- What the resolution of a query can be relied on for. -/
structure Exact (toLower : ToLower) (selector : DeviceSelector) (devices : List DeviceRecord)
    (settings : Settings.SettingsData) : Prop where
  /-- It depends on nothing but which devices are listed: not on their order, and not on how often
  one is listed. -/
  listed : ∀ devices', (∀ device, device ∈ devices ↔ device ∈ devices') →
    (resolve toLower selector devices' settings).choice =
      (resolve toLower selector devices settings).choice
  /-- Nothing is found exactly if no device matches. -/
  notFound : (resolve toLower selector devices settings).choice = .notFound ↔
    ∀ rank ∈ ranks toLower selector, ∀ device ∈ devices, ¬ rank device = true
  /-- It is ambiguous exactly if two devices with different identities are at the best rank that is
  present. -/
  ambiguous : (resolve toLower selector devices settings).choice = .ambiguous ↔
    ∃ rank, IsBest (ranks toLower selector) devices rank ∧ ∃ device ∈ devices, ∃ device' ∈ devices,
      rank device = true ∧ rank device' = true ∧ device.id ≠ device'.id
  /-- An identity is meant exactly if it is the only one at the best rank that is present. -/
  resolved : ∀ id, (resolve toLower selector devices settings).choice = .resolved id ↔
    ∃ rank, IsBest (ranks toLower selector) devices rank ∧
      ∀ device ∈ devices, rank device = true → device.id = id
  /-- A device that is returned is one of those that are listed, and has the identity that is
  meant. -/
  device : ∀ device, (resolve toLower selector devices settings).device = some device →
    device ∈ devices ∧
      (resolve toLower selector devices settings).choice = .resolved device.id

theorem chooses_resolve (hquery : selector.kind.isQuery = true) :
    Chooses DeviceRecord.id (ranks toLower selector) devices
      (resolve toLower selector devices settings).choice := by
  rw [resolve_query hquery, choice_matchOne]
  exact chooses_sorted (· ≤ ·)

/-- A query by name, by address, by alias or automatic is resolved to the only device at the best
rank, whatever the order of the devices. -/
theorem resolve_exact (toLower : ToLower) (selector : DeviceSelector)
    (hquery : selector.kind.isQuery = true) (devices : List DeviceRecord)
    (settings : Settings.SettingsData) : Exact toLower selector devices settings := by
  have hchooses : Chooses DeviceRecord.id (ranks toLower selector) devices
      (resolve toLower selector devices settings).choice := chooses_resolve hquery
  refine ⟨fun devices' hsame => ?_, hchooses.notFound_iff, hchooses.ambiguous_iff,
    hchooses.resolved_iff, fun device hdevice => ?_⟩
  · exact (chooses_resolve hquery).unique (hchooses.congr hsame)
  · rw [resolve_query hquery] at hdevice ⊢
    obtain ⟨hfound, hchoice⟩ := device_matchOne hdevice
    exact ⟨mem_of_mem_bestMatches hfound, hchoice⟩

/-- Two devices with the names `box` and `box 2`. -/
def boxes : List DeviceRecord :=
  [{ id := [50], name := [98, 111, 120, 32, 50] }, { id := [49], name := [98, 111, 120] }]

/-- The query `BOX` for a name. -/
def boxByName : DeviceSelector := ⟨.name, [66, 79, 88], fun _ _ => by decide⟩

/-- The name that is the query is preferred to the one that contains it. -/
theorem resolve_exact_preferred : Exact asciiToLower boxByName boxes {} ∧
    (resolve asciiToLower boxByName boxes {}).choice = .resolved [49] :=
  ⟨resolve_exact asciiToLower boxByName rfl boxes {}, by decide⟩

end TargetResolution

end PlaybackConnector
