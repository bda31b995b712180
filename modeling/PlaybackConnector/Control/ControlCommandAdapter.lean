import PlaybackConnector.App.Results
import PlaybackConnector.Control.CommandProtocol
import PlaybackConnector.Control.LocalError
import PlaybackConnector.Selection.Keyed
import PlaybackConnector.Text.Case
import Mathlib

/-!
# The answers of the control commands

`FormatResponse` (`ControlCommandAdapter.cpp`): the answer to a request for the result that the
application controller gave, as a text or as JSON. A device is named by `deviceDisplayName`,
`targetDisplayName`, `responseId` and `responseName`, which say nothing of it under redaction.

How a resource is localized and how a JSON object becomes a text are parameters.
-/

namespace PlaybackConnector.Control.ControlCommandAdapter

open JsonGrammar (decimal)
open Settings (wide)

/-! ## Resources -/

/-- Source: `Localize` (`ControlCommandAdapter.hpp:20`). -/
abbrev Localize := Option (String → WString)

/-- A value of `Windows.Data.Json`. A number is given by the integer that it is converted from. -/
inductive JsonValue
  | null
  | boolean (value : Bool)
  | number (value : Nat)
  | string (value : WString)
  | array (elements : List JsonValue)
  | object (members : List (String × JsonValue))

mutual

/-- The text of a value, without spaces. -/
def JsonValue.compact : JsonValue → WString
  | .null => wide "null"
  | .boolean value => wide (if value then "true" else "false")
  | .number value => decimal value
  | .string value => Cli.appendJsonString [] value
  | .array elements => wide "[" ++ compactElements elements ++ wide "]"
  | .object members => wide "\x7b" ++ compactMembers members ++ wide "\x7d"

/-- The texts of the elements of an array. -/
def compactElements : List JsonValue → WString
  | [] => []
  | [value] => value.compact
  | value :: rest => value.compact ++ wide "," ++ compactElements rest

/-- The texts of the members of an object. -/
def compactMembers : List (String × JsonValue) → WString
  | [] => []
  | [(key, value)] => Cli.appendJsonString [] (wide key) ++ wide ":" ++ value.compact
  | (key, value) :: rest =>
    Cli.appendJsonString [] (wide key) ++ wide ":" ++ value.compact ++ wide "," ++
      compactMembers rest

end

/-- Source: `Resource` (`ControlCommandAdapter.cpp:48`). -/
def resource (localize : Localize) (key : String) : WString :=
  match localize with
  | some localize => localize key
  | none => wide key

/-- The text, after units of it that are replaced already. -/
def replaceAfter (placeholder replacement : WString) : Nat → WString → WString
  | _, [] => []
  | skipped + 1, _ :: rest => replaceAfter placeholder replacement skipped rest
  | 0, character :: rest =>
    if placeholder <+: character :: rest then
      replacement ++ replaceAfter placeholder replacement (placeholder.length - 1) rest
    else character :: replaceAfter placeholder replacement 0 rest

/-- Source: `Replace` (`ControlCommandAdapter.cpp:53`). -/
def replace (value placeholder replacement : WString) : WString :=
  replaceAfter placeholder replacement 0 value

/-- Source: `FormatResource` (`ControlCommandAdapter.cpp:63`). -/
def formatResource (localize : Localize) (key : String) (first : WString) : WString :=
  replace (resource localize key) (wide "\x7b0\x7d") first

/-- Source: `FormatResource` (`ControlCommandAdapter.cpp:67`). -/
def formatResources (localize : Localize) (key : String) (first second : WString) : WString :=
  replace (formatResource localize key first) (wide "\x7b1\x7d") second

/-! ## Requests and results -/

/-- Source: `RequestTargetText` (`ControlCommandAdapter.cpp:101`). -/
def requestTargetText (request : Request) : WString :=
  if request.command = .aliasSet then request.payload.takeWhile (· != 10) else request.payload

/-- Without a line feed it is the whole payload. Source: `RequestAlias`
(`ControlCommandAdapter.cpp:108`). -/
def requestAlias (request : Request) : WString :=
  if request.command ≠ .aliasSet then []
  else
    match request.payload.findIdx? (· == 10) with
    | some separator => request.payload.drop (separator + 1)
    | none => request.payload

/-- Source: `IsQuery` (`ControlCommandAdapter.cpp:169`). -/
def isQuery : CommandType → Bool
  | .list | .status | .defaultShow | .aliasList => true
  | _ => false

/-- Source: `ToExitCode` (`ControlCommandAdapter.cpp:179`). -/
def toExitCode (result : AppResult) : ExitCode :=
  match result.code with
  | .success => .success
  | .invalidInput => .invalidRequest
  | .notFound => .notFound
  | .ambiguous => .ambiguous
  | .operationFailed => .operationFailed
  | .unavailable => .unavailable
  | .busy => .busy
  | .cancelled | .timedOut =>
    if result.dispatchPhase = .notStarted then .unavailable else .indeterminate
  | .indeterminate | .internalError => .indeterminate

/-- Source: `IsPreDispatchTermination` (`ControlCommandAdapter.cpp:198`). -/
def isPreDispatchTermination (result : AppResult) : Bool :=
  result.dispatchPhase == .notStarted && (result.code == .cancelled || result.code == .timedOut)

/-! ## What is said of a device -/

/-- Source: `DeviceIdText` (`ControlCommandAdapter.cpp:203`). -/
def deviceIdText (device : DeviceSnapshot) : WString := device.id.value

/-- The first text that is not empty, else the last one. -/
def firstText (displayName deviceAlias name id : WString) : WString :=
  if displayName ≠ [] then displayName
  else if deviceAlias ≠ [] then deviceAlias
  else if name ≠ [] then name
  else id

/-- Source: `DeviceDisplayName` (`ControlCommandAdapter.cpp:207`). -/
def deviceDisplayName (localize : Localize) (device : DeviceSnapshot) (redact : Bool) : WString :=
  if redact then resource localize "Privacy_RedactedDevice"
  else firstText device.displayName device.deviceAlias device.name (deviceIdText device)

/-- Source: `TargetDisplayName` (`ControlCommandAdapter.cpp:217`). -/
def targetDisplayName (localize : Localize) (target : AppTargetSnapshot) (redact : Bool) :
    WString :=
  if redact then resource localize "Privacy_RedactedDevice"
  else firstText target.displayName target.deviceAlias target.name target.id

/-- Source: `ResponseId` (`ControlCommandAdapter.cpp:227`). -/
def responseId (localize : Localize) (id : WString) (redact : Bool) : WString :=
  if redact ∧ id ≠ [] then resource localize "Privacy_RedactedValue" else id

/-- Source: `ResponseName` (`ControlCommandAdapter.cpp:232`). -/
def responseName (device : DeviceSnapshot) (redact : Bool) : WString :=
  if redact then [] else device.name

/-! ## Devices in their order -/

/-- A snapshot takes over what another one of its identity has in addition. Source: `SortedDevices`
(`ControlCommandAdapter.cpp:249`). -/
def absorb (existing device : DeviceSnapshot) : DeviceSnapshot :=
  { existing with
    name := if existing.name = [] then device.name else existing.name
    deviceAlias := if existing.deviceAlias = [] then device.deviceAlias else existing.deviceAlias
    displayName := if existing.displayName = [] then device.displayName else existing.displayName
    isConnected := existing.isConnected || device.isConnected
    isKnown := existing.isKnown || device.isKnown
    isBusy := existing.isBusy || device.isBusy
    state := if existing.state = .idle ∧ device.state ≠ .idle then device.state
      else existing.state }

/-- What a device is sorted by. Source: `SortedDevices` (`ControlCommandAdapter.cpp:262`). -/
def sortLabel (device : DeviceSnapshot) : WString :=
  if device.deviceAlias = [] then if device.name = [] then device.id.value else device.name
  else device.deviceAlias

/-- Source: `SortedDevices` (`ControlCommandAdapter.cpp:261`). -/
def isBefore (toLower : ToLower) (left right : DeviceSnapshot) : Bool :=
  let leftLabel := Text.lowerInvariant toLower (sortLabel left)
  let rightLabel := Text.lowerInvariant toLower (sortLabel right)
  if leftLabel ≠ rightLabel then decide (leftLabel < rightLabel)
  else decide (Text.lowerInvariant toLower left.id.value <
    Text.lowerInvariant toLower right.id.value)

/-- Source: `SortedDevices` (`ControlCommandAdapter.cpp:236`). -/
def sortedDevices (toLower : ToLower) (devices : List DeviceSnapshot) : List DeviceSnapshot :=
  (gather DeviceSnapshot.id absorb devices).insertionSort fun left right =>
    isBefore toLower right left = false

/-- Source: `DevicesFor` (`ControlCommandAdapter.cpp:435`). -/
def devicesFor (result : AppResult) (snapshot : AppSnapshot) : List DeviceSnapshot :=
  if result.devices ≠ [] then result.devices else snapshot.devices

/-! ## Messages -/

/-- Source: `ActionName` (`ControlCommandAdapter.cpp:287`). -/
def actionName : AppCommandKind → WString
  | .showDevicePicker => wide "show"
  | .showSettings => wide "settings"
  | .setDefault => wide "default-set"
  | .clearDefault => wide "default-clear"
  | .setAlias => wide "alias-set"
  | .clearAlias => wide "alias-clear"
  | .connect => wide "connect"
  | .disconnect => wide "disconnect"
  | .reconnect => wide "reconnect"
  | .toggleLast => wide "toggle"
  | .disconnectAll => wide "disconnect-all"
  | .reconnectAll => wide "reconnect-all"
  | _ => []

/-- The target as it was asked for. Source: `FailureMessage` (`ControlCommandAdapter.cpp:309`). -/
def rawTarget (result : AppResult) (request : Request) : WString :=
  if result.requestedTarget = [] then requestTargetText request else result.requestedTarget

/-- The name of what a result is about. -/
def resultName (localize : Localize) (result : AppResult) (redact : Bool) (other : WString) :
    WString :=
  match result.target, result.device with
  | some target, _ => targetDisplayName localize target redact
  | none, some device => deviceDisplayName localize device redact
  | none, none => other

/-- What a failed command says by its name. Source: `FailureMessage`
(`ControlCommandAdapter.cpp:334`). -/
def commandFailureMessage (localize : Localize) (result : AppResult) (target : WString) : WString :=
  match result.command with
  | .connect => formatResource localize "Command_ConnectFailed" target
  | .toggleLast =>
    if result.reason = .disconnectFailed then
      formatResource localize "Command_DisconnectFailed" target
    else formatResource localize "Command_ConnectFailed" target
  | .disconnect => formatResource localize "Command_DisconnectFailed" target
  | .reconnect => formatResource localize "Command_ReconnectFailed" target
  | .reconnectAll => formatResource localize "Command_ReconnectFailed" target
  | .setAlias => formatResource localize "Command_AliasSetFailed" target
  | .clearAlias => formatResource localize "Command_AliasClearFailed" target
  | _ => resource localize "Command_NotReady"

/-- Source: `FailureMessage` (`ControlCommandAdapter.cpp:305`). -/
def failureMessage (localize : Localize) (result : AppResult) (request : Request) (redact : Bool) :
    WString :=
  let rawTarget := rawTarget result request
  let target := resultName localize result redact rawTarget
  match result.reason with
  | .notReady => resource localize "Command_NotReady"
  | .targetRequired => resource localize "Command_TargetRequired"
  | .targetNotFound => formatResource localize "Command_TargetNotFound" rawTarget
  | .targetAmbiguous => formatResource localize "Command_TargetAmbiguous" rawTarget
  | .defaultTargetMissing => resource localize "Command_DefaultTargetMissing"
  | .lastTargetMissing => resource localize "Command_LastTargetMissing"
  | .invalidAliasPayload => resource localize "Command_InvalidAliasPayload"
  | .unsupported => resource localize "Command_Unsupported"
  | _ =>
    if result.code = .notFound then formatResource localize "Command_TargetNotFound" rawTarget
    else if result.code = .ambiguous then
      formatResource localize "Command_TargetAmbiguous" rawTarget
    else if result.code = .unavailable ∨ result.code = .busy ∨ result.code = .cancelled then
      if result.code = .busy then resource localize "Command_Busy"
      else resource localize "Command_NotReady"
    else commandFailureMessage localize result target

/-- What a command that succeeded says by its name. Source: `SuccessMessage`
(`ControlCommandAdapter.cpp:375`). -/
def commandSuccessMessage (localize : Localize) (result : AppResult) (request : Request)
    (displayName : WString) : WString :=
  match result.command with
  | .showDevicePicker => resource localize "Command_ShowOpened"
  | .showSettings => resource localize "Command_SettingsOpened"
  | .setDefault => formatResource localize "Command_DefaultSet" displayName
  | .clearDefault => resource localize "Command_DefaultCleared"
  | .setAlias => formatResources localize "Command_AliasSet" displayName
    (if result.deviceAlias = [] then requestAlias request else result.deviceAlias)
  | .clearAlias => formatResource localize "Command_AliasCleared" displayName
  | .disconnectAll => resource localize "Command_DisconnectAllSucceeded"
  | .reconnectAll => resource localize "Command_ReconnectAllSucceeded"
  | _ => []

/-- Source: `SuccessMessage` (`ControlCommandAdapter.cpp:349`). -/
def successMessage (localize : Localize) (result : AppResult) (request : Request)
    (displayName : WString) : WString :=
  match result.reason with
  | .alreadyConnected => formatResource localize "Command_DeviceAlreadyConnected" displayName
  | .alreadyDisconnected => formatResource localize "Command_DeviceAlreadyDisconnected" displayName
  | .connectSucceeded => formatResource localize "Command_ConnectSucceeded" displayName
  | .disconnectSucceeded => formatResource localize "Command_DisconnectSucceeded" displayName
  | .reconnectSucceeded => formatResource localize "Command_ReconnectSucceeded" displayName
  | .showOpened => resource localize "Command_ShowOpened"
  | .settingsOpened => resource localize "Command_SettingsOpened"
  | .defaultSet => formatResource localize "Command_DefaultSet" displayName
  | .defaultCleared => resource localize "Command_DefaultCleared"
  | .aliasSet => formatResources localize "Command_AliasSet" displayName result.deviceAlias
  | .aliasCleared => formatResource localize "Command_AliasCleared" displayName
  | .disconnectAllSucceeded => resource localize "Command_DisconnectAllSucceeded"
  | .reconnectAllSucceeded => resource localize "Command_ReconnectAllSucceeded"
  | _ => commandSuccessMessage localize result request displayName

/-! ## Answers -/

/-- An answer to a request. -/
def answer (request : Request) (code : ExitCode) (payload : WString) : Response where
  code := code
  payload := payload
  correlationId := request.correlationId

section
variable (stringify : JsonValue → WString)

/-- An answer with an object. -/
def jsonAnswer (request : Request) (code : ExitCode) (members : List (String × JsonValue)) :
    Response :=
  answer request code (stringify (.object members))

/-- What every answer begins with that tells how a command ended. -/
def outcomeJson (code : ExitCode) : List (String × JsonValue) :=
  [("ok", .boolean (code == .success)), ("exitCode", .number code.toUInt32.toNat)]

/-- Source: `MessageResponse` (`ControlCommandAdapter.cpp:392`). -/
def messageResponse (request : Request) (code : ExitCode) (message : WString) (wantsJson : Bool) :
    Response :=
  if !wantsJson then answer request code message
  else jsonAnswer stringify request code (outcomeJson code ++ [("message", .string message)])

/-- Source: `OperationResponse` (`ControlCommandAdapter.cpp:407`). -/
def operationResponse (request : Request) (code : ExitCode) (action id name : WString)
    (redact : Bool) (message : WString) (localize : Localize) (wantsJson : Bool) : Response :=
  if !wantsJson then answer request code message
  else jsonAnswer stringify request code (outcomeJson code ++
    [("action", .string action), ("id", .string (responseId localize id redact)),
      ("name", .string name), ("displayName", .string name), ("privacyRedacted", .boolean redact),
      ("message", .string message)])

/-- The members of a device. Source: `InsertDeviceJson` (`ControlCommandAdapter.cpp:272`). -/
def deviceJson (localize : Localize) (device : DeviceSnapshot) (redact : Bool) :
    List (String × JsonValue) :=
  [("id", .string (responseId localize (deviceIdText device) redact)),
    ("name", .string (responseName device redact)), ("alias", .string device.deviceAlias),
    ("displayName", .string (deviceDisplayName localize device redact)),
    ("connected", .boolean device.isConnected), ("known", .boolean device.isKnown),
    ("privacyRedacted", .boolean redact)]

/-! ## Queries -/

/-- Source: `residencyName` (`ControlCommandAdapter.cpp:441`). -/
def residencyName : ResourceResidency → WString
  | .cold => wide "Cold"
  | .warm => wide "Warm"
  | .hot => wide "Hot"

/-- Source: `memoryName` (`ControlCommandAdapter.cpp:449`). -/
def memoryName : MemoryPressureState → WString
  | .unknown => wide "Unknown"
  | .low => wide "Low"
  | .neutral => wide "Neutral"
  | .high => wide "High"

/-- Source: `activityName` (`ControlCommandAdapter.cpp:458`). -/
def activityName : UserActivityState → WString
  | .unknown => wide "Unknown"
  | .available => wide "Available"
  | .notPresent => wide "NotPresent"
  | .busy => wide "Busy"
  | .fullscreen => wide "Fullscreen"
  | .presentation => wide "Presentation"
  | .quietTime => wide "QuietTime"
  | .immersiveApp => wide "ImmersiveApp"

/-- Source: `InsertResourceStatusJson` (`ControlCommandAdapter.cpp:440`). -/
def resourceStatusJson (status : ResourceStatusSnapshot) : JsonValue :=
  .object [("evaluated", .boolean status.evaluated),
    ("residency", .string (residencyName status.foregroundResidency)),
    ("backgroundResidency", .string (residencyName status.backgroundResidency)),
    ("snapshotFresh", .boolean status.snapshotFresh),
    ("positiveAuthorizationCurrent", .boolean status.positiveAuthorizationCurrent),
    ("preloadAllowed", .boolean status.preloadAllowed),
    ("uiResourcesLoaded", .boolean status.uiResourcesLoaded),
    ("uiResourcesInitialized", .boolean status.uiResourcesInitialized),
    ("memoryPressure", .string (memoryName status.memory)),
    ("userActivity", .string (activityName status.activity)),
    ("energySaver", (status.energySaver.map JsonValue.boolean).getD .null)]

/-- The line with the identity of a device. -/
def idLine (localize : Localize) (device : DeviceSnapshot) (redact : Bool) : WString :=
  wide "  ID: " ++ responseId localize (deviceIdText device) redact ++ wide "\n"

/-- The devices, or that there are none. Source: `FormatQuery` (`ControlCommandAdapter.cpp:508`). -/
def formatDevices (request : Request) (devices : List DeviceSnapshot) (localize : Localize)
    (redact wantsJson : Bool) : Response :=
  if wantsJson then
    jsonAnswer stringify request .success
      [("devices", .array (devices.map fun device => .object (deviceJson localize device redact)))]
  else if devices = [] then
    answer request .success (resource localize "Command_List_NoDevices" ++ wide "\n")
  else
    answer request .success (resource localize "Command_List_Header" ++ wide "\n" ++
      devices.flatMap fun device =>
        wide "- " ++ deviceDisplayName localize device redact ++
          (if device.isConnected then
            wide " (" ++ resource localize "Command_ConnectedSuffix" ++ wide ")"
          else []) ++ wide "\n" ++ idLine localize device redact)

/-- The connected devices. Source: `FormatQuery` (`ControlCommandAdapter.cpp:532`). -/
def formatStatus (request : Request) (devices : List DeviceSnapshot) (snapshot : AppSnapshot)
    (localize : Localize) (redact wantsJson : Bool) : Response :=
  let connected := devices.filter fun device => device.isConnected
  if wantsJson then
    jsonAnswer stringify request .success
      [("running", .boolean true), ("connectedCount", .number connected.length),
        ("connectedDevices",
          .array (connected.map fun device => .object (deviceJson localize device redact))),
        ("devicePickerOpenedGeneration",
          .number snapshot.tray.devicePickerOpenedGeneration.toNat),
        ("adaptiveResources", resourceStatusJson snapshot.adaptiveResources)]
  else
    answer request .success (resource localize "Command_Status_Running" ++ wide "\n" ++
      formatResource localize "Command_Status_Connections" (decimal connected.length) ++
      wide "\n" ++ connected.flatMap fun device =>
        wide "- " ++ deviceDisplayName localize device redact ++ wide "\n" ++
          idLine localize device redact)

/-- The listed device with an identity. Source: `FormatQuery` (`ControlCommandAdapter.cpp:570`). -/
def findDevice (devices : List DeviceSnapshot) (id : DeviceId) : Option DeviceSnapshot :=
  devices.find? fun device => device.id.value = id.value

/-- The device that is the default one, or was connected last. Source: `FormatQuery`
(`ControlCommandAdapter.cpp:567`). -/
def defaultTarget (devices : List DeviceSnapshot) (defaultDevice : Option DefaultDeviceSnapshot)
    (lastConnectedDeviceIds : List DeviceId) : Option DeviceSnapshot :=
  match defaultDevice with
  | some ⟨_, some id, displayName, isResolved, isConnected⟩ =>
    some ((findDevice devices id).getD
      { id := id.toExternal
        displayName := displayName
        isKnown := isResolved
        isConnected := isConnected })
  | _ => lastConnectedDeviceIds.head?.map fun id =>
    (findDevice devices id).getD { id := id.toExternal }

/-- The default device. Source: `FormatQuery` (`ControlCommandAdapter.cpp:562`). -/
def formatDefault (request : Request) (result : AppResult) (devices : List DeviceSnapshot)
    (snapshot : AppSnapshot) (localize : Localize) (redact wantsJson : Bool) : Response :=
  let defaultDevice := result.defaultDevice.or snapshot.defaultDevice
  let mode := if defaultDevice.map DefaultDeviceSnapshot.mode = some .specificDevice then
      wide "specificDevice"
    else wide "lastConnected"
  let target := defaultTarget devices defaultDevice snapshot.lastConnectedDeviceIds
  let displayName := (target.map fun target => deviceDisplayName localize target redact).getD []
  if wantsJson then
    jsonAnswer stringify request .success
      [("ok", .boolean true), ("mode", .string mode), ("privacyRedacted", .boolean redact),
        ("id", .string ((target.map fun target =>
          responseId localize (deviceIdText target) redact).getD [])),
        ("displayName", .string displayName),
        ("resolved", .boolean (target.any DeviceSnapshot.isKnown)),
        ("connected", .boolean (target.any DeviceSnapshot.isConnected))]
  else if target = none then
    answer request .success (resource localize "Command_DefaultMode_LastConnected" ++ wide "\n")
  else
    answer request .success
      (formatResource localize "Command_DefaultMode_Specific" displayName ++ wide "\n")

/-- The aliases. Source: `FormatQuery` (`ControlCommandAdapter.cpp:618`). -/
def formatAliases (request : Request) (devices : List DeviceSnapshot) (localize : Localize)
    (redact wantsJson : Bool) : Response :=
  if wantsJson then
    jsonAnswer stringify request .success
      [("devices", .array (devices.map fun device =>
          .object (deviceJson localize device redact ++
            [("hasAlias", .boolean (device.deviceAlias != []))]))),
        ("privacyRedacted", .boolean redact)]
  else if devices = [] then
    answer request .success (resource localize "Command_AliasList_NoDevices" ++ wide "\n")
  else
    answer request .success (resource localize "Command_AliasList_Header" ++ wide "\n" ++
      devices.flatMap fun device =>
        wide "- " ++ deviceDisplayName localize device redact ++ wide ": " ++
          (if device.deviceAlias = [] then resource localize "Command_AliasNone"
          else device.deviceAlias) ++ wide "\n" ++ idLine localize device redact)

/-- Source: `FormatQuery` (`ControlCommandAdapter.cpp:494`). -/
def formatQuery (toLower : ToLower) (request : Request) (result : AppResult)
    (snapshot : AppSnapshot) (localize : Localize) (redact wantsJson : Bool) : Response :=
  let code := toExitCode result
  if result.code ≠ .success then
    if result.code = .internalError then answer request code []
    else messageResponse stringify request code (failureMessage localize result request redact)
      wantsJson
  else
    let devices := sortedDevices toLower (devicesFor result snapshot)
    match result.command with
    | .listDevices => formatDevices stringify request devices localize redact wantsJson
    | .status => formatStatus stringify request devices snapshot localize redact wantsJson
    | .showDefault =>
      formatDefault stringify request result devices snapshot localize redact wantsJson
    | .listAliases => formatAliases stringify request devices localize redact wantsJson
    | _ => messageResponse stringify request .invalidRequest
      (resource localize "Command_Unsupported") wantsJson

/-! ## Operations -/

/-- Source: `hasResolvedTarget` (`ControlCommandAdapter.cpp:659`). -/
def hasResolvedTarget (result : AppResult) : Bool :=
  result.device.isSome || result.target.any AppTargetSnapshot.existing

/-- Source: `isResolutionFailure` (`ControlCommandAdapter.cpp:660`). -/
def isResolutionFailure (result : AppResult) : Bool :=
  match result.reason with
  | .targetRequired | .targetNotFound | .targetAmbiguous | .defaultTargetMissing
  | .lastTargetMissing | .invalidAliasPayload | .unsupported => !hasResolvedTarget result
  | _ => !hasResolvedTarget result &&
    (result.code == .invalidInput || result.code == .notFound || result.code == .ambiguous)

/-- No device is there, and the request has an identity. Source: `FormatOperation`
(`ControlCommandAdapter.cpp:684`). -/
def isRequestedById (request : Request) (result : AppResult) : Bool :=
  result.target.isNone && result.device.isNone && request.target == .id

/-- The identity that an operation is about. Source: `FormatOperation`
(`ControlCommandAdapter.cpp:680`). -/
def operationId (request : Request) (result : AppResult) : WString :=
  if isRequestedById request result then requestTargetText request
  else
    match result.target, result.device with
    | some target, _ => target.id
    | none, some device => deviceIdText device
    | none, none => []

/-- The name of what an operation is about. Source: `FormatOperation`
(`ControlCommandAdapter.cpp:681`). -/
def operationName (localize : Localize) (request : Request) (result : AppResult) (redact : Bool) :
    WString :=
  if isRequestedById request result then
    if redact then resource localize "Privacy_RedactedDevice" else operationId request result
  else resultName localize result redact []

/-- The name without the alias. Source: `FormatOperation` (`ControlCommandAdapter.cpp:698`). -/
def nameWithoutAlias (request : Request) (result : AppResult) : WString :=
  match result.target, result.device with
  | some target, _ => if target.name = [] then operationId request result else target.name
  | none, some device => if device.name = [] then operationId request result else device.name
  | none, none => []

/-- The name in the object of an operation. Source: `FormatOperation`
(`ControlCommandAdapter.cpp:689`). -/
def jsonName (localize : Localize) (request : Request) (result : AppResult) (redact : Bool) :
    WString :=
  if result.command = .setAlias ∧ toExitCode result = .success then
    match result.device with
    | some device => deviceDisplayName localize device redact
    | none =>
      if result.deviceAlias ≠ [] then
        if redact then resource localize "Privacy_RedactedDevice" else result.deviceAlias
      else operationName localize request result redact
  else if result.command = .clearAlias ∧ toExitCode result = .success ∧
      (result.device.isSome = true ∨ result.target.isSome = true) then
    if redact then resource localize "Privacy_RedactedDevice" else nameWithoutAlias request result
  else operationName localize request result redact

/-- What an operation says. Source: `FormatOperation` (`ControlCommandAdapter.cpp:703`). -/
def operationMessage (localize : Localize) (request : Request) (result : AppResult)
    (redact : Bool) : WString :=
  let displayName := operationName localize request result redact
  if result.code = .success then
    let message := successMessage localize result request displayName
    if message = [] ∧ result.command = .toggleLast then resource localize "Command_NotReady"
    else message
  else if result.code = .timedOut ∧ result.reason = .none then
    if result.command = .reconnect then
      formatResource localize "Command_ReconnectFailed" displayName
    else formatResource localize "Command_ConnectFailed" displayName
  else failureMessage localize result request redact

/-- Source: `FormatOperation` (`ControlCommandAdapter.cpp:652`). -/
def formatOperation (request : Request) (result : AppResult) (localize : Localize)
    (redact wantsJson : Bool) : Response :=
  let code := toExitCode result
  if result.code = .internalError then answer request code []
  else if result.code ≠ .success ∧ isResolutionFailure result = true then
    messageResponse stringify request code (failureMessage localize result request redact) wantsJson
  else
    operationResponse stringify request code (actionName result.command)
      (operationId request result) (jsonName localize request result redact) redact
      (operationMessage localize request result redact) localize wantsJson

/-! ## Responses -/

/-- A flag of a request. -/
def hasFlag (request : Request) (flag : UInt32) : Bool := request.flags &&& flag != 0

/-- The privacy mode that a result comes with. Source: `FormatResponse`
(`ControlCommandAdapter.cpp:816`). -/
def privacyMode (result : AppResult) : Bool :=
  result.privacyModeEnabled.getD (result.snapshot.any AppSnapshot.privacyModeEnabled)

/-- Source: `FormatResponse` (`ControlCommandAdapter.cpp:791`). -/
def formatResponse (toLower : ToLower) (localize : Localize) (request : Request)
    (result : AppResult) : Response :=
  let wantsJson := hasFlag request commandFlagJson
  let notReady := messageResponse stringify request .unavailable
    (resource localize "Command_NotReady") wantsJson
  let redact := privacyMode result && !hasFlag request commandFlagRaw
  if isPreDispatchTermination result then notReady
  else if isQuery request.command then
    match result.snapshot with
    | none => notReady
    | some snapshot =>
      if !snapshot.isRunning then notReady
      else
        let currentSnapshot := { snapshot with tray := result.tray.getD snapshot.tray }
        formatQuery stringify toLower request result currentSnapshot localize redact wantsJson
  else formatOperation stringify request result localize redact wantsJson

end

end PlaybackConnector.Control.ControlCommandAdapter
