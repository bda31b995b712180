import PlaybackConnector.Settings.Data

/-!
# The values of the application

The vocabulary that the application controller shares with the parts around it
(`AppModels.hpp`): identities of devices, the state of a connection and the codes and reasons of
results.
-/

namespace PlaybackConnector

/-! ## Identities -/

/-- A `wchar_t` has two bytes. Source: `c_maxAppCommandTextCharacters` (`AppModels.hpp:26`). -/
def maxAppCommandTextCharacters : Nat := 64 * 1024 / 2

/-- An identity that is given from outside, and can be longer than a stored one.
Source: `ExternalDeviceId` (`AppModels.hpp:34`). -/
structure ExternalDeviceId where
  value : WString
  nonempty : value ≠ []
  bounded : value.length ≤ maxAppCommandTextCharacters
  nulFree : 0 ∉ value
deriving DecidableEq

/-- Source: `ExternalDeviceId::TryCreate` (`AppModels.hpp:36`). -/
def ExternalDeviceId.tryCreate (value : WString) : Option ExternalDeviceId :=
  if h : value = [] ∨ value.length > maxAppCommandTextCharacters ∨ 0 ∈ value then none
  else
    some ⟨value, fun hnil => h (.inl hnil), Nat.le_of_not_lt fun hlong => h (.inr (.inl hlong)),
      fun hnul => h (.inr (.inr hnul))⟩

theorem ExternalDeviceId.value_of_tryCreate {value : WString} {id : ExternalDeviceId}
    (h : ExternalDeviceId.tryCreate value = some id) : id.value = value := by
  unfold ExternalDeviceId.tryCreate at h
  split at h
  · exact absurd h (by simp)
  · exact (Option.some.inj h).symm ▸ rfl

/-! ## Selectors -/

/-- Source: `DeviceSelectorKind` (`AppModels.hpp:61`). -/
inductive DeviceSelectorKind
  | id | name | mac | last | auto | deviceAlias | default
deriving Repr, DecidableEq

/-- Source: `IsQueryKind` (`AppModels.hpp:111`). -/
def DeviceSelectorKind.isQuery (kind : DeviceSelectorKind) : Bool :=
  kind == .name || kind == .mac || kind == .auto || kind == .deviceAlias

/-- Source: `IsValidCommandText` (`AppModels.hpp:104`). -/
def IsValidCommandText (value : WString) : Prop :=
  value ≠ [] ∧ value.length ≤ maxAppCommandTextCharacters ∧ 0 ∉ value

instance (value : WString) : Decidable (IsValidCommandText value) :=
  inferInstanceAs (Decidable (_ ∧ _ ∧ _))

/-- An exact identity, a query, or one of the two selectors without a text.
Source: `DeviceSelector` (`AppModels.hpp:63`). -/
structure DeviceSelector where
  kind : DeviceSelectorKind
  value : WString
  valid : kind ≠ .last → kind ≠ .default → IsValidCommandText value

namespace DeviceSelector

/-- Source: `ById` (`AppModels.hpp:65`). -/
def byId (value : WString) : Option DeviceSelector :=
  if h : IsValidCommandText value then some ⟨.id, value, fun _ _ => h⟩ else none

/-- Source: `ByQuery` (`AppModels.hpp:74`). -/
def byQuery (kind : DeviceSelectorKind) (value : WString) : Option DeviceSelector :=
  if h : kind.isQuery = true ∧ IsValidCommandText value then some ⟨kind, value, fun _ _ => h.2⟩
  else none

/-- Source: `Last` (`AppModels.hpp:81`). -/
def last : DeviceSelector := ⟨.last, [], fun h => absurd rfl h⟩

/-- Source: `Default` (`AppModels.hpp:82`). -/
def default : DeviceSelector := ⟨.default, [], fun _ h => absurd rfl h⟩

/-- Source: `IdText` (`AppModels.hpp:88`). -/
def idText (selector : DeviceSelector) : WString :=
  if selector.kind ≠ .id then [] else selector.value

/-- Source: `Query` (`AppModels.hpp:94`). -/
def query (selector : DeviceSelector) : WString :=
  if selector.kind.isQuery then selector.value else []

end DeviceSelector

/-! ## States and results -/

/-- Source: `apc::app::DeviceConnectionState` (`AppModels.hpp:28`). -/
inductive AppConnectionState
  | idle | connecting | connected | disconnecting | waitingForReconnect | failed
deriving Repr, DecidableEq

/-- Source: `AppResultCode` (`AppModels.hpp:148`). -/
inductive AppResultCode
  | success | invalidInput | notFound | ambiguous | operationFailed | unavailable | busy | cancelled
  | timedOut | indeterminate | internalError
deriving Repr, DecidableEq

/-- Source: `AppOutcomeReason` (`AppModels.hpp:172`). -/
inductive AppOutcomeReason
  | none | alreadyConnected | alreadyDisconnected | connectSucceeded | connectFailed
  | disconnectSucceeded | disconnectFailed | reconnectSucceeded | reconnectFailed | showOpened
  | settingsOpened | defaultSet | defaultCleared | aliasSet | aliasSetFailed | aliasCleared
  | aliasClearFailed | disconnectAllSucceeded | reconnectAllSucceeded | notReady | targetRequired
  | targetNotFound | targetAmbiguous | defaultTargetMissing | lastTargetMissing
  | invalidAliasPayload | unsupported | internalError
deriving Repr, DecidableEq

/-- Source: `AppTargetSnapshot` (`AppModels.hpp:230`). -/
structure AppTargetSnapshot where
  id : WString := []
  name : WString := []
  deviceAlias : WString := []
  displayName : WString := []
  existing : Bool := false
  isConnected : Bool := false
  isKnown : Bool := false
deriving Repr, DecidableEq

/-- Source: `DeviceConnectionErrorEvent::Reason` (`AppModels.hpp:377`). -/
inductive ConnectionErrorReason
  | unknown | timedOut | denied | reconnectExhausted
deriving Repr, DecidableEq

end PlaybackConnector
