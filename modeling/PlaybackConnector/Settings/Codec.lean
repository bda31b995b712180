import PlaybackConnector.Json.Value
import PlaybackConnector.Settings.Data
import Mathlib

/-!
# The settings document

`SettingsCodec.cpp`: the settings as a JSON document, written by `encode` and read by `decode`;
`decodePersisted` also reads the documents of version 0.9.1. A function that throws returns `none`.

The JSON library and the text conversions are not part of the repository. They are a
`TextLibraries`, and `TextLibraries.Lawful` is what the code relies on: text of valid UTF-16 is
converted to UTF-8 and back, a canonical value is written and read back, and a character takes at
most six bytes. `parse` returns what the parser reports to the callback of `ParseJson`: every member
of an object, also one whose key was there before.
-/

namespace PlaybackConnector.Settings

/-! ## Libraries -/

/-- The conversions and the JSON library that the codec calls. -/
structure TextLibraries where
  /-- `winrt::to_string`. -/
  toString : WString → Option String
  /-- `winrt::to_hstring`. -/
  toHstring : String → WString
  /-- `nlohmann::json::dump`. -/
  dump : Json → Option ByteArray
  /-- `nlohmann::json::parse`. -/
  parse : ByteArray → Option Json

/-- What the codec relies on. -/
structure TextLibraries.Lawful (lib : TextLibraries) : Prop where
  toString_isSome : ∀ value, isValidUtf16 value = true → (lib.toString value).isSome
  toHstring_toString : ∀ value text, isValidUtf16 value = true → lib.toString value = some text →
    lib.toHstring text = value
  toString_length : ∀ value text, isValidUtf16 value = true → lib.toString value = some text →
    text.length ≤ value.length
  toHstring_ascii : ∀ text : String, (∀ c ∈ text.toList, c.toNat < 128) →
    lib.toHstring text = wide text
  dump_isSome : ∀ json : Json, json.Canonical → (lib.dump json).isSome
  dump_size : ∀ (json : Json) bytes, json.Canonical → lib.dump json = some bytes →
    bytes.size ≤ json.textBound
  parse_dump : ∀ (json : Json) bytes, json.Canonical → lib.dump json = some bytes →
    lib.parse bytes = some json
  parse_empty : ∀ bytes, bytes.size = 0 → lib.parse bytes = none

variable (lib : TextLibraries)

/-! ## Keys -/

/-- Source: `c_schemaVersion` (`SettingsCodec.cpp:17`). -/
def schemaVersion : Int32 := 2

/-- Source: `c_topLevelKeys` (`SettingsCodec.cpp:19`). -/
def topLevelKeys : List String :=
  ["schemaVersion", "globalConnectOnStartup", "globalReconnectOnConnectionLoss",
    "allowIncomingConnections", "startWithWindows", "showNotifications",
    "useSystemBackdropEffects", "privacyModeEnabled", "language", "defaultDeviceMode",
    "defaultDeviceId", "settingsWindowBounds", "devices", "lastConnectedIds", "ratingPrompt"]

/-- Source: `c_windowBoundsKeys` (`SettingsCodec.cpp:34`). -/
def windowBoundsKeys : List String := ["x", "y", "width", "height", "dpi"]

/-- Source: `c_deviceKeys` (`SettingsCodec.cpp:35`). -/
def deviceKeys : List String :=
  ["id", "name", "alias", "connectOnStartup", "reconnectOnConnectionLoss"]

/-- Source: `c_ratingPromptKeys` (`SettingsCodec.cpp:36`). -/
def ratingPromptKeys : List String := ["firstLaunchDate", "usageDays", "lastUsageDate", "asked"]

/-- Source: `c_legacyTopLevelKeys` (`SettingsCodec.cpp:37`). -/
def legacyTopLevelKeys : List String :=
  ["globalAutoReconnect", "globalConnectOnStartup", "globalReconnectOnConnectionLoss",
    "allowIncomingConnections", "startWithWindows", "showNotifications",
    "useSystemBackdropEffects", "privacyModeEnabled", "language", "lastUpdateCheckUnixSeconds",
    "lastNotifiedUpdateVersion", "defaultDeviceMode", "defaultDeviceId", "settingsWindowBounds",
    "devices", "lastConnectedIds"]

/-! ## Reading a value -/

/-- Source: `Require` (`SettingsCodec.cpp:58`). -/
def require (valid : Prop) [Decidable valid] : Option Unit := if valid then some () else none

/-- Source: `Object` (`SettingsCodec.cpp:62`). -/
def object (keys : List String) : Json → Option Unit
  | .object members => require (∀ member ∈ members, member.1 ∈ keys)
  | _ => none

/-- Source: `Text` (`SettingsCodec.cpp:70`). -/
def text (json : Json) (key : String) (fallback : WString) : Option WString :=
  match json.find key with
  | none => some fallback
  | some (.string text) => some (lib.toHstring text)
  | some _ => none

/-- A parsed number that is not negative is unsigned. Source: `Integer` (`SettingsCodec.cpp:78`). -/
def integer (json : Json) (key : String) (fallback : Int32) : Option Int32 :=
  match json.find key with
  | none => some fallback
  | some (.integer number) => do
    if 0 ≤ number then require (number ≤ Int32.maxValue.toInt)
    else require (Int32.minValue.toInt ≤ number ∧ number ≤ Int32.maxValue.toInt)
    return Int32.ofInt number
  | some _ => none

/-- `json.value(key, fallback)` of a flag: throws when the value is not a boolean. -/
def flag (json : Json) (key : String) (fallback : Bool) : Option Bool :=
  match json.find key with
  | none => some fallback
  | some (.bool value) => some value
  | some _ => none

/-- Source: `Array` (`SettingsCodec.cpp:92`). -/
def array (json : Json) (key : String) : Option (List Json) :=
  match json.find key with
  | none => some []
  | some (.array elements) => do
    require (elements.length ≤ maxPersistedDeviceCount)
    return elements
  | some _ => none

/-- Source: `ParseJson` (`SettingsCodec.cpp:100`). -/
def parseJson (bytes : ByteArray) : Option Json := do
  require (bytes.size ≠ 0 ∧ bytes.size ≤ maxSettingsFileBytes)
  let json ← lib.parse bytes
  require (json.depth ≤ 16)
  require (json.keysDistinct = true)
  return json

/-! ## Decoding -/

/-- Source: `Decode` (`SettingsCodec.cpp:171`). -/
def decodeBounds (json : Json) : Option (Option PersistedWindowBounds) :=
  match json.find "settingsWindowBounds" with
  | none => some none
  | some bounds => do
    object windowBoundsKeys bounds
    let dpi ← integer bounds "dpi" 96
    require (0 < dpi)
    return some {
      x := ← integer bounds "x" 0
      y := ← integer bounds "y" 0
      width := ← integer bounds "width" 0
      height := ← integer bounds "height" 0
      dpi := UInt32.ofNat dpi.toInt.toNat }

/-- Source: `Decode` (`SettingsCodec.cpp:181`). -/
def decodeDevice (row : Json) : Option DeviceSettings := do
  object deviceKeys row
  return {
    id := ← text lib row "id" []
    name := ← text lib row "name" []
    deviceAlias := ← text lib row "alias" []
    connectOnStartup := ← flag row "connectOnStartup" false
    reconnectOnConnectionLoss := ← flag row "reconnectOnConnectionLoss" false }

/-- Source: `Decode` (`SettingsCodec.cpp:189`). -/
def decodeConnectedId : Json → Option WString
  | .string id => some (lib.toHstring id)
  | _ => none

/-- Source: `Decode` (`SettingsCodec.cpp:193`). -/
def decodeRatingPrompt (json : Json) : Option RatingPromptData :=
  match json.find "ratingPrompt" with
  | none => some {}
  | some rating => do
    object ratingPromptKeys rating
    let firstLaunchDate ← text lib rating "firstLaunchDate" []
    let lastUsageDate ← text lib rating "lastUsageDate" []
    let usageDays ← integer rating "usageDays" 0
    require (0 ≤ usageDays)
    let asked ← flag rating "asked" false
    require (IsDate firstLaunchDate)
    require (IsDate lastUsageDate)
    return { firstLaunchDate, usageDays, lastUsageDate, asked }

/-- Source: `Decode` (`SettingsCodec.cpp:155`), the value after `ParseJson`. -/
def decodeDocument (json : Json) : Option SettingsData := do
  object topLevelKeys json
  require ((← integer json "schemaVersion" (-1)) = schemaVersion)
  let globalConnectOnStartup ← flag json "globalConnectOnStartup" false
  let globalReconnectOnConnectionLoss ← flag json "globalReconnectOnConnectionLoss" false
  let allowIncomingConnections ← flag json "allowIncomingConnections" false
  let startWithWindows ← flag json "startWithWindows" false
  let showNotifications ← flag json "showNotifications" true
  let useSystemBackdropEffects ← flag json "useSystemBackdropEffects" true
  let privacyModeEnabled ← flag json "privacyModeEnabled" false
  let language ← text lib json "language" (wide "system")
  let mode ← text lib json "defaultDeviceMode" (wide "lastConnected")
  require (mode = wide "lastConnected" ∨ mode = wide "specificDevice")
  let defaultDevice := if mode = wide "specificDevice" then .specificDevice else .lastConnected
  let defaultDeviceId ← text lib json "defaultDeviceId" []
  let settingsWindowBounds ← decodeBounds json
  let devices ← (← array json "devices").mapM (decodeDevice lib)
  let lastConnectedIds ← (← array json "lastConnectedIds").mapM (decodeConnectedId lib)
  let ratingPrompt ← decodeRatingPrompt lib json
  let data : SettingsData := {
    globalConnectOnStartup, globalReconnectOnConnectionLoss, allowIncomingConnections,
    startWithWindows, showNotifications, useSystemBackdropEffects, privacyModeEnabled, language,
    defaultDevice, defaultDeviceId, settingsWindowBounds, devices, lastConnectedIds, ratingPrompt }
  require (IsPersistable data)
  return data

/-- Source: `Decode` (`SettingsCodec.cpp:152`). -/
def decode (bytes : ByteArray) : Option SettingsData := do
  decodeDocument lib (← parseJson lib bytes)

/-- Source: `DecodedSettings` (`SettingsCodec.hpp:8`). -/
structure DecodedSettings where
  data : SettingsData
  needsRewrite : Bool
deriving DecidableEq

/-- Give `key` the value of the old flag, unless the document has the key. -/
def adopt (key : String) (old : Json) (members : List (String × Json)) : List (String × Json) :=
  if (members.lookup key).isSome then members else Json.set key old members

/-- The members without those of a key. Source: `erase` of `nlohmann::json`. -/
def erase (key : String) (members : List (String × Json)) : List (String × Json) :=
  members.filter fun member => member.1 ≠ key

/-- Replace an old flag by the two flags that it stood for.
Source: `DecodePersisted` (`SettingsCodec.cpp:232`, `242`). -/
def replaceOldFlag (oldKey connectKey reconnectKey : String) (members : List (String × Json)) :
    Option (List (String × Json)) :=
  match members.lookup oldKey with
  | none => some members
  | some (.bool old) =>
    some (erase oldKey (adopt reconnectKey (.bool old) (adopt connectKey (.bool old) members)))
  | some _ => none

/-- Source: `DecodePersisted` (`SettingsCodec.cpp:241`). -/
def upgradeDevice : Json → Option Json
  | .object members => do
    return .object
      (← replaceOldFlag "autoReconnect" "connectOnStartup" "reconnectOnConnectionLoss" members)
  | _ => none

/-- Source: `DecodePersisted` (`SettingsCodec.cpp:239`). -/
def upgradeDevices (members : List (String × Json)) : Option (List (String × Json)) :=
  match members.lookup "devices" with
  | none => some members
  | some (.array devices) => do
    return Json.set "devices" (.array (← devices.mapM upgradeDevice)) members
  | some _ => none

/-- Source: `DecodePersisted` (`SettingsCodec.cpp:224`). -/
def decodePersisted (bytes : ByteArray) : Option DecodedSettings := do
  match ← parseJson lib bytes with
  | .object members =>
    if (members.lookup "schemaVersion").isSome then
      return { data := ← decode lib bytes, needsRewrite := false }
    -- 0.9.1 wrote no schema marker.
    object legacyTopLevelKeys (.object members)
    let members ← replaceOldFlag "globalAutoReconnect" "globalConnectOnStartup"
      "globalReconnectOnConnectionLoss" members
    let members ← upgradeDevices members
    let members := erase "lastNotifiedUpdateVersion" (erase "lastUpdateCheckUnixSeconds" members)
    let members := Json.set "schemaVersion" (.integer schemaVersion.toInt) members
    return { data := ← decode lib (← lib.dump (.object members)), needsRewrite := true }
  | _ => none

/-! ## Encoding -/

/-- Source: `Encode` (`SettingsCodec.cpp:275`). -/
def encodeBounds (bounds : PersistedWindowBounds) : Json :=
  .object (Json.ofMembers
    [("x", .integer bounds.x.toInt), ("y", .integer bounds.y.toInt),
      ("width", .integer bounds.width.toInt), ("height", .integer bounds.height.toInt),
      ("dpi", .integer bounds.dpi.toNat)])

/-- Source: `Encode` (`SettingsCodec.cpp:283`). -/
def encodeRatingPrompt (prompt : RatingPromptData) : Option Json := do
  return .object (Json.ofMembers
    [("firstLaunchDate", .string (← lib.toString prompt.firstLaunchDate)),
      ("usageDays", .integer prompt.usageDays.toInt),
      ("lastUsageDate", .string (← lib.toString prompt.lastUsageDate)),
      ("asked", .bool prompt.asked)])

/-- Source: `Encode` (`SettingsCodec.cpp:289`). -/
def encodeDevice (device : DeviceSettings) : Option Json := do
  return .object (Json.ofMembers
    [("id", .string (← lib.toString device.id)), ("name", .string (← lib.toString device.name)),
      ("alias", .string (← lib.toString device.deviceAlias)),
      ("connectOnStartup", .bool device.connectOnStartup),
      ("reconnectOnConnectionLoss", .bool device.reconnectOnConnectionLoss)])

/-- Source: `Encode` (`SettingsCodec.cpp:296`). -/
def encodeConnectedId (id : WString) : Option Json := do
  return .string (← lib.toString id)

/-- The rating prompt of a document, which has none while nothing of it is set.
Source: `Encode` (`SettingsCodec.cpp:281`). -/
def encodeRating (prompt : RatingPromptData) : Option (Option Json) :=
  if prompt = {} then some none else (encodeRatingPrompt lib prompt).map some

/-- The members that every document has, its texts converted and its lists empty.
Source: `Encode` (`SettingsCodec.cpp:260`). -/
def fixedMembers (language defaultDeviceId : String) (data : SettingsData) :
    List (String × Json) :=
  [("schemaVersion", .integer schemaVersion.toInt),
    ("globalConnectOnStartup", .bool data.globalConnectOnStartup),
    ("globalReconnectOnConnectionLoss", .bool data.globalReconnectOnConnectionLoss),
    ("allowIncomingConnections", .bool data.allowIncomingConnections),
    ("startWithWindows", .bool data.startWithWindows),
    ("showNotifications", .bool data.showNotifications),
    ("useSystemBackdropEffects", .bool data.useSystemBackdropEffects),
    ("privacyModeEnabled", .bool data.privacyModeEnabled),
    ("language", .string language),
    ("defaultDeviceMode",
      .string (if data.defaultDevice = .specificDevice then "specificDevice"
        else "lastConnected")),
    ("defaultDeviceId", .string defaultDeviceId),
    ("devices", .array []), ("lastConnectedIds", .array [])]

/-- The members of the document. Source: `Encode` (`SettingsCodec.cpp:274`). -/
def documentMembers (language defaultDeviceId : String) (rating : Option Json)
    (devices lastConnectedIds : List Json) (data : SettingsData) : List (String × Json) :=
  let json := Json.ofMembers (fixedMembers language defaultDeviceId data)
  let json := Json.setOption "settingsWindowBounds" (data.settingsWindowBounds.map encodeBounds) json
  let json := Json.setOption "ratingPrompt" rating json
  let json := Json.set "devices" (.array devices) json
  Json.set "lastConnectedIds" (.array lastConnectedIds) json

/-- The document of the settings. Source: `Encode` (`SettingsCodec.cpp:260`). -/
def document (data : SettingsData) : Option Json := do
  let language ← lib.toString data.language
  let defaultDeviceId ← lib.toString data.defaultDeviceId
  let rating ← encodeRating lib data.ratingPrompt
  let devices ← data.devices.mapM (encodeDevice lib)
  let lastConnectedIds ← data.lastConnectedIds.mapM (encodeConnectedId lib)
  return .object (documentMembers language defaultDeviceId rating devices lastConnectedIds data)

/-- Source: `Encode` (`SettingsCodec.cpp:258`). -/
def encode (data : SettingsData) : Option ByteArray := do
  require (IsPersistable data)
  let json ← document lib data
  let bytes ← lib.dump json
  require (bytes.size ≤ maxSettingsFileBytes)
  return bytes

end PlaybackConnector.Settings
