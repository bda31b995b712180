import PlaybackConnector.Control.ControlCommandAdapter
import PlaybackConnector.Selection.Pattern

/-!
# Redacted answers

Two results that differ in the identities and names of their devices only have the same answer
under redaction (`formatResponse_redacted`). Identities are compared with each other, so they must
have the same pattern, and the identity of a resolved target, which is a plain text, is presented
as empty if it is.
-/

namespace PlaybackConnector

/-! ## Results that are alike -/

/-- Two devices that differ in their identity and names only. -/
structure DeviceSnapshot.Alike (left right : DeviceSnapshot) : Prop where
  deviceAlias : left.deviceAlias = right.deviceAlias
  state : left.state = right.state
  isKnown : left.isKnown = right.isKnown
  isConnected : left.isConnected = right.isConnected
  isBusy : left.isBusy = right.isBusy
  isAvailable : left.isAvailable = right.isAvailable

/-- Two targets that differ in their identity and names only. -/
structure AppTargetSnapshot.Alike (left right : AppTargetSnapshot) : Prop where
  deviceAlias : left.deviceAlias = right.deviceAlias
  existing : left.existing = right.existing
  isConnected : left.isConnected = right.isConnected
  isKnown : left.isKnown = right.isKnown

/-- Two default devices that differ in their identity and name only. -/
structure DefaultDeviceSnapshot.Alike (left right : DefaultDeviceSnapshot) : Prop where
  mode : left.mode = right.mode
  id : left.id.isSome = right.id.isSome
  isResolved : left.isResolved = right.isResolved
  isConnected : left.isConnected = right.isConnected

/-- Two snapshots that differ in their devices only. -/
structure AppSnapshot.Alike (left right : AppSnapshot) : Prop where
  isRunning : left.isRunning = right.isRunning
  privacyModeEnabled : left.privacyModeEnabled = right.privacyModeEnabled
  lastConnectedDeviceIds :
    left.lastConnectedDeviceIds.length = right.lastConnectedDeviceIds.length
  defaultDevice : Option.Rel DefaultDeviceSnapshot.Alike left.defaultDevice right.defaultDevice
  tray : left.tray = right.tray
  adaptiveResources : left.adaptiveResources = right.adaptiveResources

namespace Control.ControlCommandAdapter

open Settings (wide)

variable {toLower : ToLower}

/-- The devices that an answer lists, in their order. -/
def listedDevices (toLower : ToLower) (result : AppResult) : List DeviceSnapshot :=
  sortedDevices toLower (devicesFor result (result.snapshot.getD {}))

/-- The identity of a default device. -/
def defaultIdentity (device : Option DefaultDeviceSnapshot) : List WString :=
  ((device.bind DefaultDeviceSnapshot.id).map DeviceId.value).toList

/-- The identities in a result. -/
def identities (toLower : ToLower) (result : AppResult) : List WString :=
  (listedDevices toLower result).map deviceIdText ++
    (defaultIdentity result.defaultDevice ++
      (defaultIdentity (result.snapshot.bind AppSnapshot.defaultDevice) ++
        (((result.snapshot.getD {}).lastConnectedDeviceIds.map DeviceId.value) ++
          ((result.device.map deviceIdText).toList ++
            (result.target.map AppTargetSnapshot.id).toList))))

/-- Two results that differ in the identities and names of their devices only. -/
structure Alike (toLower : ToLower) (left right : AppResult) : Prop where
  code : left.code = right.code
  command : left.command = right.command
  device : Option.Rel DeviceSnapshot.Alike left.device right.device
  devices : List.Forall₂ DeviceSnapshot.Alike (listedDevices toLower left)
    (listedDevices toLower right)
  defaultDevice : Option.Rel DefaultDeviceSnapshot.Alike left.defaultDevice right.defaultDevice
  tray : left.tray = right.tray
  reason : left.reason = right.reason
  deviceAlias : left.deviceAlias = right.deviceAlias
  snapshot : Option.Rel AppSnapshot.Alike left.snapshot right.snapshot
  target : Option.Rel AppTargetSnapshot.Alike left.target right.target
  requestedTarget : left.requestedTarget = right.requestedTarget
  privacyModeEnabled : left.privacyModeEnabled = right.privacyModeEnabled
  dispatchPhase : left.dispatchPhase = right.dispatchPhase
  identities : SamePattern (identities toLower left) (identities toLower right)

/-! ## Devices -/

section
variable {localize : Localize} {left right : DeviceSnapshot}

theorem responseId_redacted (localize : Localize) (device : DeviceSnapshot) :
    responseId localize (deviceIdText device) true = resource localize "Privacy_RedactedValue" :=
  if_pos ⟨rfl, device.id.nonempty⟩

theorem idLine_redacted (localize : Localize) (left right : DeviceSnapshot) :
    idLine localize left true = idLine localize right true := by
  rw [idLine, idLine, responseId_redacted, responseId_redacted]

theorem deviceJson_redacted (h : left.Alike right) :
    deviceJson localize left true = deviceJson localize right true := by
  rw [deviceJson, deviceJson, responseId_redacted, responseId_redacted, h.deviceAlias,
    h.isConnected, h.isKnown]
  rfl

end

/-! ## Queries -/

section
variable {stringify : JsonValue → WString} {localize : Localize} {request : Request}
  {left right : List DeviceSnapshot}

/-- The objects of the devices in two lists. -/
theorem deviceObjects_redacted (h : List.Forall₂ DeviceSnapshot.Alike left right) :
    left.map (fun device => JsonValue.object (deviceJson localize device true)) =
      right.map fun device => JsonValue.object (deviceJson localize device true) :=
  map_eq_of_forall₂ h fun _ _ halike => congrArg JsonValue.object (deviceJson_redacted halike)

theorem formatDevices_redacted (h : List.Forall₂ DeviceSnapshot.Alike left right)
    (wantsJson : Bool) : formatDevices stringify request left localize true wantsJson =
      formatDevices stringify request right localize true wantsJson := by
  rw [formatDevices, formatDevices, deviceObjects_redacted h]
  simp only [eq_nil_of_forall₂ h]
  congr 4
  refine flatMap_eq_of_forall₂ h fun x y halike => ?_
  rw [idLine_redacted localize x y, halike.isConnected]
  rfl

theorem formatStatus_redacted (h : List.Forall₂ DeviceSnapshot.Alike left right)
    {snapshot other : AppSnapshot} (htray : snapshot.tray = other.tray)
    (hresources : snapshot.adaptiveResources = other.adaptiveResources) (wantsJson : Bool) :
    formatStatus stringify request left snapshot localize true wantsJson =
      formatStatus stringify request right other localize true wantsJson := by
  have hconnected := filter_forall₂ h fun _ _ halike => halike.isConnected
  rw [formatStatus, formatStatus, htray, hresources]
  rw [hconnected.length_eq, deviceObjects_redacted hconnected]
  congr 3
  refine flatMap_eq_of_forall₂ hconnected fun x y _ => ?_
  rw [idLine_redacted localize x y]
  rfl

theorem formatAliases_redacted (h : List.Forall₂ DeviceSnapshot.Alike left right)
    (wantsJson : Bool) : formatAliases stringify request left localize true wantsJson =
      formatAliases stringify request right localize true wantsJson := by
  have hjson : left.map (fun device => JsonValue.object (deviceJson localize device true ++
        [("hasAlias", .boolean (device.deviceAlias != []))])) =
      right.map fun device => JsonValue.object (deviceJson localize device true ++
        [("hasAlias", .boolean (device.deviceAlias != []))]) :=
    map_eq_of_forall₂ h fun _ _ halike => by
      rw [deviceJson_redacted halike, halike.deviceAlias]
  rw [formatAliases, formatAliases, hjson]
  simp only [eq_nil_of_forall₂ h]
  congr 4
  refine flatMap_eq_of_forall₂ h fun x y halike => ?_
  rw [idLine_redacted localize x y, halike.deviceAlias]
  rfl

end

/-! ## The default device -/

section
variable {stringify : JsonValue → WString} {localize : Localize} {request : Request}
  {left right : List DeviceSnapshot} {keys keys' : List WString}

/-- An identity is found in both lists or in neither. -/
theorem findDevice_alike (h : List.Forall₂ DeviceSnapshot.Alike left right)
    (hpattern : SamePattern keys keys')
    (hlisted : ∀ pair ∈ (left.map deviceIdText).zip (right.map deviceIdText),
      pair ∈ keys.zip keys')
    {id id' : DeviceId} (hid : (id.value, id'.value) ∈ keys.zip keys') :
    Option.Rel DeviceSnapshot.Alike (findDevice left id) (findDevice right id') := by
  refine find?_forall₂ h fun x y hmem => ?_
  have hiff := hpattern _ (hlisted _ (mem_zip_map hmem)) _ hid
  exact decide_eq_decide.2 hiff

theorem defaultTarget_alike (h : List.Forall₂ DeviceSnapshot.Alike left right)
    (hpattern : SamePattern keys keys')
    (hlisted : ∀ pair ∈ (left.map deviceIdText).zip (right.map deviceIdText),
      pair ∈ keys.zip keys')
    {device device' : Option DefaultDeviceSnapshot} {ids ids' : List DeviceId}
    (hdevice : Option.Rel DefaultDeviceSnapshot.Alike device device')
    (hdefault : ∀ pair ∈ (defaultIdentity device).zip (defaultIdentity device'),
      pair ∈ keys.zip keys')
    (hlength : ids.length = ids'.length)
    (hlast : ∀ pair ∈ (ids.map DeviceId.value).zip (ids'.map DeviceId.value),
      pair ∈ keys.zip keys') :
    Option.Rel DeviceSnapshot.Alike (defaultTarget left device ids)
      (defaultTarget right device' ids') := by
  have hlastTarget : Option.Rel DeviceSnapshot.Alike
      (ids.head?.map fun id => (findDevice left id).getD { id := id.toExternal })
      (ids'.head?.map fun id => (findDevice right id).getD { id := id.toExternal }) := by
    cases ids with
    | nil =>
      rw [List.length_nil, eq_comm, List.length_eq_zero_iff] at hlength
      rw [hlength]
      exact .none
    | cons id ids =>
      cases ids' with
      | nil => cases hlength
      | cons id' ids' =>
        have hfound := findDevice_alike h hpattern hlisted (hlast _ List.mem_cons_self)
        exact .some (rel_getD hfound ⟨rfl, rfl, rfl, rfl, rfl, rfl⟩)
  cases hdevice with
  | none => exact hlastTarget
  | @some device device' halike =>
    obtain ⟨mode, id, displayName, isResolved, isConnected⟩ := device
    obtain ⟨mode', id', displayName', isResolved', isConnected'⟩ := device'
    have hsome := halike.id
    cases id with
    | none =>
      cases id' with
      | none => exact hlastTarget
      | some id' => cases hsome
    | some id =>
      cases id' with
      | none => cases hsome
      | some id' =>
        have hfound := findDevice_alike h hpattern hlisted (hdefault _ List.mem_cons_self)
        exact .some (rel_getD hfound
          ⟨rfl, rfl, halike.isResolved, halike.isConnected, rfl, rfl⟩)

theorem formatDefault_redacted {result other : AppResult} {snapshot snapshot' : AppSnapshot}
    (hdevice : Option.Rel DefaultDeviceSnapshot.Alike
      (result.defaultDevice.or snapshot.defaultDevice)
      (other.defaultDevice.or snapshot'.defaultDevice))
    (htarget : Option.Rel DeviceSnapshot.Alike
      (defaultTarget left (result.defaultDevice.or snapshot.defaultDevice)
        snapshot.lastConnectedDeviceIds)
      (defaultTarget right (other.defaultDevice.or snapshot'.defaultDevice)
        snapshot'.lastConnectedDeviceIds)) (wantsJson : Bool) :
    formatDefault stringify request result left snapshot localize true wantsJson =
      formatDefault stringify request other right snapshot' localize true wantsJson := by
  rw [formatDefault, formatDefault]
  generalize result.defaultDevice.or snapshot.defaultDevice = device at hdevice htarget ⊢
  generalize other.defaultDevice.or snapshot'.defaultDevice = device' at hdevice htarget ⊢
  rw [rel_map_eq hdevice fun _ _ halike => halike.mode]
  generalize defaultTarget left device snapshot.lastConnectedDeviceIds = target at htarget ⊢
  generalize defaultTarget right device' snapshot'.lastConnectedDeviceIds = target' at htarget ⊢
  cases htarget with
  | none => rfl
  | some halike =>
    simp only [Option.map_some, responseId_redacted, Option.any_some, halike.isKnown,
      halike.isConnected, reduceCtorEq, if_false]
    rfl

end

/-! ## Operations -/

section
variable {stringify : JsonValue → WString} {localize : Localize} {request : Request}
  {left right : AppResult}

theorem resultName_redacted (h : Alike toLower left right) (unresolved : WString) :
    resultName localize left true unresolved = resultName localize right true unresolved := by
  obtain hdevice := h.device
  obtain htarget := h.target
  rw [resultName, resultName]
  generalize left.device = device at hdevice ⊢
  generalize right.device = device' at hdevice ⊢
  generalize left.target = target at htarget ⊢
  generalize right.target = target' at htarget ⊢
  cases htarget with
  | some _ => rfl
  | none => cases hdevice <;> rfl

theorem failureMessage_redacted (h : Alike toLower left right) :
    failureMessage localize left request true = failureMessage localize right request true := by
  rw [failureMessage, failureMessage, resultName_redacted h]
  simp only [commandFailureMessage, rawTarget, h.code, h.command, h.reason, h.requestedTarget]

theorem toExitCode_alike (h : Alike toLower left right) : toExitCode left = toExitCode right := by
  rw [toExitCode, toExitCode, h.code, h.dispatchPhase]

theorem isResolutionFailure_alike (h : Alike toLower left right) :
    isResolutionFailure left = isResolutionFailure right := by
  have hexisting := rel_any_eq h.target fun _ _ halike => halike.existing
  rw [isResolutionFailure, isResolutionFailure, hasResolvedTarget, hasResolvedTarget,
    rel_isSome h.device, hexisting, h.reason, h.code]

theorem isRequestedById_alike (h : Alike toLower left right) :
    isRequestedById request left = isRequestedById request right := by
  rw [isRequestedById, isRequestedById, ← Option.not_isSome, ← Option.not_isSome,
    ← Option.not_isSome, ← Option.not_isSome, rel_isSome h.device, rel_isSome h.target]

theorem operationName_redacted (h : Alike toLower left right) :
    operationName localize request left true = operationName localize request right true := by
  rw [operationName, operationName, isRequestedById_alike h, resultName_redacted h]
  rfl

theorem jsonName_redacted (h : Alike toLower left right) :
    jsonName localize request left true = jsonName localize request right true := by
  have hdevice := h.device
  rw [jsonName, jsonName, operationName_redacted h, h.command, toExitCode_alike h, h.deviceAlias,
    rel_isSome h.device, rel_isSome h.target]
  generalize left.device = device at hdevice ⊢
  generalize right.device = device' at hdevice ⊢
  cases hdevice <;> rfl

theorem successMessage_alike (h : Alike toLower left right) (displayName : WString) :
    successMessage localize left request displayName =
      successMessage localize right request displayName := by
  rw [successMessage, successMessage, commandSuccessMessage, commandSuccessMessage, h.command,
    h.reason, h.deviceAlias]

theorem operationMessage_redacted (h : Alike toLower left right) :
    operationMessage localize request left true =
      operationMessage localize request right true := by
  rw [operationMessage, operationMessage, operationName_redacted h, failureMessage_redacted h,
    successMessage_alike h, h.code, h.command, h.reason]

/-- Both targets have an empty identity, or neither. -/
def SameEmptiness (left right : AppResult) : Prop :=
  Option.Rel (fun target target' => target.id = [] ↔ target'.id = []) left.target right.target

theorem responseId_eq {id id' : WString} (h : id = [] ↔ id' = []) :
    responseId localize id true = responseId localize id' true := by
  by_cases hempty : id = []
  · rw [hempty, h.1 hempty]
  · rw [responseId, responseId, if_pos ⟨rfl, hempty⟩, if_pos ⟨rfl, fun hnil => hempty (h.2 hnil)⟩]

theorem operationId_eq_nil (h : Alike toLower left right) (hempty : SameEmptiness left right) :
    operationId request left = [] ↔ operationId request right = [] := by
  have hdevice := h.device
  rw [operationId, operationId, isRequestedById_alike h]
  split
  · exact Iff.rfl
  · unfold SameEmptiness at hempty
    generalize left.device = device at hdevice ⊢
    generalize right.device = device' at hdevice ⊢
    generalize left.target = target at hempty ⊢
    generalize right.target = target' at hempty ⊢
    cases hempty with
    | some hiff => exact hiff
    | none =>
      cases hdevice with
      | none => exact Iff.rfl
      | @some device device' _ => exact iff_of_false device.id.nonempty device'.id.nonempty

theorem formatOperation_redacted (h : Alike toLower left right)
    (hempty : SameEmptiness left right) (wantsJson : Bool) :
    formatOperation stringify request left localize true wantsJson =
      formatOperation stringify request right localize true wantsJson := by
  have hid : responseId localize (operationId request left) true =
      responseId localize (operationId request right) true :=
    responseId_eq (operationId_eq_nil h hempty)
  rw [formatOperation, formatOperation, toExitCode_alike h, failureMessage_redacted h,
    isResolutionFailure_alike h, jsonName_redacted h, operationMessage_redacted h, h.code,
    h.command, operationResponse, operationResponse, hid]

/-! ## Responses -/

theorem privacyMode_alike (h : Alike toLower left right) :
    privacyMode left = privacyMode right := by
  rw [privacyMode, privacyMode, h.privacyModeEnabled,
    rel_any_eq h.snapshot fun _ _ halike => halike.privacyModeEnabled]

theorem defaultIdentity_length {device device' : Option DefaultDeviceSnapshot}
    (h : Option.Rel DefaultDeviceSnapshot.Alike device device') :
    (defaultIdentity device).length = (defaultIdentity device').length := by
  cases h with
  | none => rfl
  | some halike =>
    rw [defaultIdentity, defaultIdentity, Option.length_toList, Option.length_toList]
    simp only [Option.isSome_map, Option.bind_some, halike.id]

/-- The default devices of the snapshots. -/
theorem snapshotDefault_alike (h : Alike toLower left right) :
    Option.Rel DefaultDeviceSnapshot.Alike (left.snapshot.bind AppSnapshot.defaultDevice)
      (right.snapshot.bind AppSnapshot.defaultDevice) := by
  have hsnapshot := h.snapshot
  generalize left.snapshot = snapshot at hsnapshot ⊢
  generalize right.snapshot = snapshot' at hsnapshot ⊢
  cases hsnapshot with
  | none => exact .none
  | some halike => exact halike.defaultDevice

/-- The identities of the one and of the other stand beside each other, part by part. -/
theorem zip_identities (h : Alike toLower left right) :
    ∃ rest, (identities toLower left).zip (identities toLower right) =
      ((listedDevices toLower left).map deviceIdText).zip
          ((listedDevices toLower right).map deviceIdText) ++
        ((defaultIdentity left.defaultDevice).zip (defaultIdentity right.defaultDevice) ++
          ((defaultIdentity (left.snapshot.bind AppSnapshot.defaultDevice)).zip
              (defaultIdentity (right.snapshot.bind AppSnapshot.defaultDevice)) ++
            (((left.snapshot.getD {}).lastConnectedDeviceIds.map DeviceId.value).zip
              ((right.snapshot.getD {}).lastConnectedDeviceIds.map DeviceId.value) ++ rest))) := by
  have hlisted : ((listedDevices toLower left).map deviceIdText).length =
      ((listedDevices toLower right).map deviceIdText).length := by
    rw [List.length_map, List.length_map, h.devices.length_eq]
  have hlast : ((left.snapshot.getD {}).lastConnectedDeviceIds.map DeviceId.value).length =
      ((right.snapshot.getD {}).lastConnectedDeviceIds.map DeviceId.value).length := by
    have hsnapshot := h.snapshot
    generalize left.snapshot = snapshot at hsnapshot ⊢
    generalize right.snapshot = snapshot' at hsnapshot ⊢
    rw [List.length_map, List.length_map]
    cases hsnapshot with
    | none => rfl
    | some halike => exact halike.lastConnectedDeviceIds
  rw [identities, identities, List.zip_append hlisted,
    List.zip_append (defaultIdentity_length h.defaultDevice),
    List.zip_append (defaultIdentity_length (snapshotDefault_alike h)), List.zip_append hlast]
  exact ⟨_, rfl⟩

/-- The default device of the result, or else of its snapshot. -/
theorem mem_default (h : Alike toLower left right) :
    ∀ pair ∈ (defaultIdentity (left.defaultDevice.or
        (left.snapshot.bind AppSnapshot.defaultDevice))).zip
      (defaultIdentity (right.defaultDevice.or (right.snapshot.bind AppSnapshot.defaultDevice))),
    pair ∈ (identities toLower left).zip (identities toLower right) := by
  obtain ⟨rest, hzip⟩ := zip_identities h
  intro pair hmem
  have hdevice := h.defaultDevice
  rw [hzip]
  generalize left.defaultDevice = device at hdevice hmem ⊢
  generalize right.defaultDevice = device' at hdevice hmem ⊢
  refine List.mem_append_right _ ?_
  cases hdevice with
  | none => exact List.mem_append_right _ (List.mem_append_left _ hmem)
  | some _ => exact List.mem_append_left _ hmem

theorem mem_listed (h : Alike toLower left right) :
    ∀ pair ∈ ((listedDevices toLower left).map deviceIdText).zip
      ((listedDevices toLower right).map deviceIdText),
    pair ∈ (identities toLower left).zip (identities toLower right) := by
  obtain ⟨rest, hzip⟩ := zip_identities h
  intro pair hmem
  rw [hzip]
  exact List.mem_append_left _ hmem

theorem mem_last (h : Alike toLower left right) :
    ∀ pair ∈ ((left.snapshot.getD {}).lastConnectedDeviceIds.map DeviceId.value).zip
      ((right.snapshot.getD {}).lastConnectedDeviceIds.map DeviceId.value),
    pair ∈ (identities toLower left).zip (identities toLower right) := by
  obtain ⟨rest, hzip⟩ := zip_identities h
  intro pair hmem
  rw [hzip]
  exact List.mem_append_right _ (List.mem_append_right _ (List.mem_append_right _
    (List.mem_append_left _ hmem)))

theorem formatQuery_redacted (h : Alike toLower left right) {snapshot snapshot' : AppSnapshot}
    (hleft : left.snapshot = some snapshot) (hright : right.snapshot = some snapshot')
    (tray : TraySnapshot) (wantsJson : Bool) :
    formatQuery stringify toLower request left { snapshot with tray := tray } localize true
        wantsJson =
      formatQuery stringify toLower request right { snapshot' with tray := tray } localize true
        wantsJson := by
  have hsnapshot : snapshot.Alike snapshot' := by
    have hrel := h.snapshot
    rw [hleft, hright] at hrel
    cases hrel with
    | some halike => exact halike
  have hdevices := h.devices
  have hdefault := mem_default h
  have hlisted := mem_listed h
  have hlast := mem_last h
  rw [hleft, hright] at hdefault hlast
  rw [listedDevices, listedDevices, hleft, hright] at hdevices hlisted
  have hdevice : Option.Rel DefaultDeviceSnapshot.Alike
      (left.defaultDevice.or snapshot.defaultDevice)
      (right.defaultDevice.or snapshot'.defaultDevice) := by
    have hrel := h.defaultDevice
    generalize left.defaultDevice = device at hrel ⊢
    generalize right.defaultDevice = device' at hrel ⊢
    cases hrel with
    | none => exact hsnapshot.defaultDevice
    | some halike => exact .some halike
  have htarget := defaultTarget_alike hdevices h.identities hlisted hdevice hdefault
    hsnapshot.lastConnectedDeviceIds hlast
  rw [formatQuery, formatQuery, h.code, toExitCode_alike h, failureMessage_redacted h, h.command]
  split
  · rfl
  · dsimp only
    split
    · exact formatDevices_redacted hdevices wantsJson
    · have htray : ({ snapshot with tray := tray } : AppSnapshot).tray =
          ({ snapshot' with tray := tray } : AppSnapshot).tray := rfl
      exact formatStatus_redacted hdevices htray hsnapshot.adaptiveResources wantsJson
    · exact formatDefault_redacted hdevice htarget wantsJson
    · exact formatAliases_redacted hdevices wantsJson
    · rfl

end

/-- Under redaction an answer depends on no identity and no name of a device, but on whether the
identity of a resolved target is empty. -/
theorem formatResponse_redacted (stringify : JsonValue → WString) (toLower : ToLower)
    (localize : Localize) (request : Request) {left right : AppResult}
    (h : Alike toLower left right) (hempty : SameEmptiness left right)
    (hprivacy : privacyMode left = true) (hraw : hasFlag request commandFlagRaw = false) :
    formatResponse stringify toLower localize request left =
      formatResponse stringify toLower localize request right := by
  have hredact : (privacyMode left && !hasFlag request commandFlagRaw) = true := by
    rw [hprivacy, hraw]
    rfl
  have hredact' : (privacyMode right && !hasFlag request commandFlagRaw) = true := by
    rw [← privacyMode_alike h, hredact]
  have hterminated : isPreDispatchTermination left = isPreDispatchTermination right := by
    rw [isPreDispatchTermination, isPreDispatchTermination, h.dispatchPhase, h.code]
  have hsnapshot := h.snapshot
  rw [formatResponse, formatResponse, hredact, hredact', hterminated, h.tray]
  split
  · rfl
  split
  · cases hleft : left.snapshot with
    | none =>
      rw [hleft] at hsnapshot
      generalize right.snapshot = none' at hsnapshot ⊢
      cases hsnapshot
      rfl
    | some snapshot =>
      cases hright : right.snapshot with
      | none =>
        rw [hleft, hright] at hsnapshot
        cases hsnapshot
      | some snapshot' =>
        rw [hleft, hright] at hsnapshot
        cases hsnapshot with
        | some halike =>
          dsimp only
          rw [halike.isRunning, halike.tray]
          split
          · rfl
          · exact formatQuery_redacted h hleft hright _ _
  · exact formatOperation_redacted h hempty _

/-- A snapshot with one device. -/
def oneDevice (id : ExternalDeviceId) (name : WString) : AppSnapshot where
  privacyModeEnabled := true
  devices := [{ id := id, name := name, deviceAlias := wide "Desk", isConnected := true }]

/-- The devices are listed. -/
def listResult (id : ExternalDeviceId) (name : WString) : AppResult where
  command := .listDevices
  snapshot := some (oneDevice id name)

theorem formatResponse_redacted_list :
    formatResponse JsonValue.compact asciiToLower none { command := .list, flags := 1 }
        (listResult ⟨[65], by decide, by decide, by decide⟩ (wide "Speaker")) =
      formatResponse JsonValue.compact asciiToLower none { command := .list, flags := 1 }
        (listResult ⟨[66], by decide, by decide, by decide⟩ (wide "Headset")) := by
  refine formatResponse_redacted JsonValue.compact asciiToLower none _ ?_ .none rfl (by decide)
  exact {
    code := rfl
    command := rfl
    device := .none
    devices := .cons ⟨rfl, rfl, rfl, rfl, rfl, rfl⟩ .nil
    defaultDevice := .none
    tray := rfl
    reason := rfl
    deviceAlias := rfl
    snapshot := .some ⟨rfl, rfl, rfl, .none, rfl, rfl⟩
    target := .none
    requestedTarget := rfl
    privacyModeEnabled := rfl
    dispatchPhase := rfl
    identities := by unfold SamePattern; decide }

/-- A target was connected. -/
def connectResult (id : WString) : AppResult where
  command := .connect
  reason := .connectSucceeded
  target := some { id := id, existing := true }
  privacyModeEnabled := some true

theorem connectResult_alike (id id' : WString) :
    Alike asciiToLower (connectResult id) (connectResult id') where
  code := rfl
  command := rfl
  device := .none
  devices := .nil
  defaultDevice := .none
  tray := rfl
  reason := rfl
  deviceAlias := rfl
  snapshot := .none
  target := .some ⟨rfl, rfl, rfl, rfl⟩
  requestedTarget := rfl
  privacyModeEnabled := rfl
  dispatchPhase := rfl
  identities := by
    intro pair hpair other hother
    obtain rfl := List.mem_singleton.1 hpair
    obtain rfl := List.mem_singleton.1 hother
    exact iff_of_true rfl rfl

/-- An empty identity of a target is not redacted. -/
theorem not_redacted_of_empty : ¬ ∀ (request : Request) (left right : AppResult),
    Alike asciiToLower left right → privacyMode left = true →
      hasFlag request commandFlagRaw = false →
        formatResponse JsonValue.compact asciiToLower none request left =
          formatResponse JsonValue.compact asciiToLower none request right := by
  intro h
  have heq := h { command := .connect, target := .last, flags := 1 } (connectResult [])
    (connectResult [65]) (connectResult_alike [] [65]) rfl (by decide)
  exact absurd heq (by decide)

end Control.ControlCommandAdapter

end PlaybackConnector
