import PlaybackConnector.Settings.Codec
import Mathlib

/-!
# Settings are read back as they were written

What `encode` writes, `decode` reads back (`decode_document`), if the rating prompt is one that
`decode` accepts. The proof follows the document: what is looked up in it (`lookup_…`), what each
reader makes of what its writer wrote (`decodeBounds_encodeBounds`, `decodeDevice_encodeDevice`,
`decodeRatingPrompt_encodeRating`), and that the document is a canonical value, which the JSON
library writes and reads back.
-/

namespace PlaybackConnector.Settings

variable {lib : TextLibraries} {data : SettingsData} {json value : Json} {bytes : ByteArray}
  {key text : String} {members : List (String × Json)}

/-! ## Readers of one value -/

@[simp] theorem require_eq_some {valid : Prop} [Decidable valid] {u : Unit} :
    require valid = some u ↔ valid := by
  unfold require
  split <;> simp [*]

theorem require_pos {valid : Prop} [Decidable valid] (h : valid) : require valid = some () :=
  if_pos h

theorem object_ofMembers {keys : List String} (h : ∀ member ∈ members, member.1 ∈ keys) :
    object keys (.object (Json.ofMembers members)) = some () :=
  require_pos fun member hmember => h member (Json.mem_ofMembers hmember)

theorem integer_of_range {number : Int} {fallback : Int32}
    (h : json.find key = some (.integer number)) (hmin : Int32.minValue.toInt ≤ number)
    (hmax : number ≤ Int32.maxValue.toInt) :
    integer json key fallback = some (Int32.ofInt number) := by
  unfold integer
  simp only [h]
  split
  · rw [require_pos hmax]
    rfl
  · rw [require_pos ⟨hmin, hmax⟩]
    rfl

theorem integer_toInt {number fallback : Int32}
    (h : json.find key = some (.integer number.toInt)) :
    integer json key fallback = some number := by
  rw [integer_of_range h number.minValue_le_toInt number.toInt_le, Int32.ofInt_toInt]

theorem flag_eq {enabled fallback : Bool} (h : json.find key = some (.bool enabled)) :
    flag json key fallback = some enabled := by
  simp [flag, h]

theorem text_eq (hlib : lib.Lawful) {written fallback : WString}
    (hvalid : isValidUtf16 written = true) (hwritten : lib.toString written = some text)
    (h : json.find key = some (.string text)) :
    Settings.text lib json key fallback = some written := by
  simp [Settings.text, h, hlib.toHstring_toString written text hvalid hwritten]

theorem array_eq {elements : List Json} (h : json.find key = some (.array elements))
    (hlength : elements.length ≤ maxPersistedDeviceCount) : array json key = some elements := by
  simp [array, h, require_pos hlength]

/-! ## Lists -/

theorem mapM_cons_eq_some {α β : Type} {f : α → Option β} {a : α} {l : List α} {r : List β} :
    (a :: l).mapM f = some r ↔ ∃ b r', f a = some b ∧ l.mapM f = some r' ∧ r = b :: r' := by
  simp only [List.mapM_cons, Option.bind_eq_bind, Option.bind_eq_some_iff, Option.pure_def,
    Option.some.injEq]
  constructor
  · rintro ⟨b, hb, r', hr', rfl⟩
    exact ⟨b, r', hb, hr', rfl⟩
  · rintro ⟨b, r', hb, hr', rfl⟩
    exact ⟨b, hb, r', hr', rfl⟩

/-- If what one function makes of each element, another one takes back, then so for the list. -/
theorem mapM_inverse {α β : Type} {f : α → Option β} {g : β → Option α} {l : List α} {r : List β}
    (hinverse : ∀ a ∈ l, ∀ b, f a = some b → g b = some a) (h : l.mapM f = some r) :
    r.mapM g = some l := by
  induction l generalizing r with
  | nil => simp_all
  | cons a l ih =>
    obtain ⟨b, r, hb, hr, rfl⟩ := mapM_cons_eq_some.1 h
    have hhead := hinverse a List.mem_cons_self b hb
    have htail := ih (fun a ha => hinverse a (List.mem_cons_of_mem _ ha)) hr
    exact mapM_cons_eq_some.2 ⟨a, l, hhead, htail, rfl⟩

theorem length_mapM {α β : Type} {f : α → Option β} {l : List α} {r : List β}
    (h : l.mapM f = some r) : r.length = l.length := by
  induction l generalizing r with
  | nil => simp_all
  | cons a l ih =>
    obtain ⟨b, r, -, hr, rfl⟩ := mapM_cons_eq_some.1 h
    simp [ih hr]

theorem mem_mapM {α β : Type} {f : α → Option β} {l : List α} {r : List β}
    (h : l.mapM f = some r) {b : β} (hb : b ∈ r) : ∃ a ∈ l, f a = some b := by
  induction l generalizing r with
  | nil => simp_all
  | cons a l ih =>
    obtain ⟨b', r, hb', hr, rfl⟩ := mapM_cons_eq_some.1 h
    rcases List.mem_cons.1 hb with rfl | hb
    · exact ⟨a, List.mem_cons_self, hb'⟩
    · obtain ⟨a', ha', hf⟩ := ih hr hb
      exact ⟨a', List.mem_cons_of_mem _ ha', hf⟩

/-! ## The parts of a document -/

theorem decodeBounds_encodeBounds {bounds : PersistedWindowBounds} (hbounds : bounds.IsPersistable)
    (h : json.find "settingsWindowBounds" = some (encodeBounds bounds)) :
    decodeBounds json = some (some bounds) := by
  have hmin := UInt32.le_iff_toNat_le.1 hbounds.minDpi
  have hmax := UInt32.le_iff_toNat_le.1 hbounds.maxDpi
  simp only [minWindowDpi, maxWindowDpi, UInt32.reduceToNat] at hmin hmax
  have hrange : (Int32.ofInt bounds.dpi.toNat).toInt = bounds.dpi.toNat :=
    Int32.toInt_ofInt_of_le (by omega) (by omega)
  have hkeys : object windowBoundsKeys (encodeBounds bounds) = some () :=
    object_ofMembers (by simp [windowBoundsKeys])
  have hx : integer (encodeBounds bounds) "x" 0 = some bounds.x :=
    integer_toInt (by simp [encodeBounds, Json.ofMembers, Json.lookup_set])
  have hy : integer (encodeBounds bounds) "y" 0 = some bounds.y :=
    integer_toInt (by simp [encodeBounds, Json.ofMembers, Json.lookup_set])
  have hwidth : integer (encodeBounds bounds) "width" 0 = some bounds.width :=
    integer_toInt (by simp [encodeBounds, Json.ofMembers, Json.lookup_set])
  have hheight : integer (encodeBounds bounds) "height" 0 = some bounds.height :=
    integer_toInt (by simp [encodeBounds, Json.ofMembers, Json.lookup_set])
  have hdpi : integer (encodeBounds bounds) "dpi" 96 = some (Int32.ofInt bounds.dpi.toNat) := by
    refine integer_of_range (by simp [encodeBounds, Json.ofMembers, Json.lookup_set]) ?_ ?_
    · simp only [Int32.toInt_minValue]
      omega
    · simp only [Int32.toInt_maxValue]
      omega
  have hpositive : 0 < Int32.ofInt bounds.dpi.toNat := by
    rw [Int32.lt_iff_toInt_lt, hrange, Int32.toInt_zero]
    omega
  unfold decodeBounds
  simp only [h, hkeys, hx, hy, hwidth, hheight, hdpi, Option.bind_eq_bind, Option.bind_some]
  rw [require_pos hpositive, hrange]
  simp

theorem decodeDevice_encodeDevice (hlib : lib.Lawful) {device : DeviceSettings}
    (hdevice : device.IsPersistable) (h : encodeDevice lib device = some value) :
    decodeDevice lib value = some device := by
  simp only [encodeDevice, Option.bind_eq_bind, Option.bind_eq_some_iff, Option.pure_def,
    Option.some.injEq] at h
  obtain ⟨id, hid, name, hname, deviceAlias, halias, hvalue⟩ := h
  have hkeys : object deviceKeys value = some () := by
    rw [← hvalue]
    exact object_ofMembers (by simp [deviceKeys])
  have hfind (key : String) := congrArg (Json.find key) hvalue.symm
  simp only [Json.find_object, Json.ofMembers, List.foldl_cons, List.foldl_nil,
    Json.lookup_set] at hfind
  unfold decodeDevice
  rw [hkeys, text_eq hlib hdevice.id.2.2.2 hid (by simp [hfind]),
    text_eq hlib hdevice.name.2.2 hname (by simp [hfind]),
    text_eq hlib hdevice.deviceAlias.2.2 halias (by simp [hfind]),
    flag_eq (by simp [hfind]; rfl), flag_eq (by simp [hfind]; rfl)]
  rfl

theorem decodeConnectedId_encodeConnectedId (hlib : lib.Lawful) {id : WString}
    (hid : IsDeviceId id) (h : encodeConnectedId lib id = some value) :
    decodeConnectedId lib value = some id := by
  simp only [encodeConnectedId, Option.bind_eq_bind, Option.bind_eq_some_iff, Option.pure_def,
    Option.some.injEq] at h
  obtain ⟨text, htext, rfl⟩ := h
  simp [decodeConnectedId, hlib.toHstring_toString id text hid.2.2.2 htext]

theorem decodeRatingPrompt_encodeRating (hlib : lib.Lawful) {prompt : RatingPromptData}
    (hprompt : prompt.Valid) {rating : Option Json} (h : encodeRating lib prompt = some rating)
    (hfind : json.find "ratingPrompt" = rating) : decodeRatingPrompt lib json = some prompt := by
  unfold encodeRating at h
  split at h
  · rename_i hempty
    cases h
    simp [decodeRatingPrompt, hfind, hempty]
  · obtain ⟨value, hvalue, rfl⟩ := Option.map_eq_some_iff.1 h
    simp only [encodeRatingPrompt, Option.bind_eq_bind, Option.bind_eq_some_iff, Option.pure_def,
      Option.some.injEq] at hvalue
    obtain ⟨firstLaunchDate, hfirst, lastUsageDate, hlast, hvalue⟩ := hvalue
    have hkeys : object ratingPromptKeys value = some () := by
      rw [← hvalue]
      exact object_ofMembers (by simp [ratingPromptKeys])
    have hmember (key : String) := congrArg (Json.find key) hvalue.symm
    simp only [Json.find_object, Json.ofMembers, List.foldl_cons, List.foldl_nil,
      Json.lookup_set] at hmember
    unfold decodeRatingPrompt
    simp only [hfind, Option.bind_eq_bind]
    rw [hkeys, text_eq hlib hprompt.firstLaunchDate.isValidUtf16 hfirst (by simp [hmember]),
      text_eq hlib hprompt.lastUsageDate.isValidUtf16 hlast (by simp [hmember]),
      integer_toInt (by simp [hmember]; rfl), flag_eq (by simp [hmember]; rfl)]
    simp only [Option.bind_some]
    rw [require_pos hprompt.usageDays, require_pos hprompt.firstLaunchDate,
      require_pos hprompt.lastUsageDate]
    rfl

/-! ## The document -/

theorem lookup_documentMembers (key language defaultDeviceId : String) (rating : Option Json)
    (devices ids : List Json) (data : SettingsData) :
    (documentMembers language defaultDeviceId rating devices ids data).lookup key =
      if key = "lastConnectedIds" then some (.array ids)
      else if key = "devices" then some (.array devices)
      else if key = "ratingPrompt" then rating
      else if key = "settingsWindowBounds" then data.settingsWindowBounds.map encodeBounds
      else if key = "defaultDeviceId" then some (.string defaultDeviceId)
      else if key = "defaultDeviceMode" then some (.string
        (if data.defaultDevice = .specificDevice then "specificDevice" else "lastConnected"))
      else if key = "language" then some (.string language)
      else if key = "privacyModeEnabled" then some (.bool data.privacyModeEnabled)
      else if key = "useSystemBackdropEffects" then some (.bool data.useSystemBackdropEffects)
      else if key = "showNotifications" then some (.bool data.showNotifications)
      else if key = "startWithWindows" then some (.bool data.startWithWindows)
      else if key = "allowIncomingConnections" then some (.bool data.allowIncomingConnections)
      else if key = "globalReconnectOnConnectionLoss" then
        some (.bool data.globalReconnectOnConnectionLoss)
      else if key = "globalConnectOnStartup" then some (.bool data.globalConnectOnStartup)
      else if key = "schemaVersion" then some (.integer schemaVersion.toInt)
      else none := by
  simp only [documentMembers, fixedMembers, Json.lookup_set, Json.ofMembers, List.foldl_cons,
    List.foldl_nil]
  rw [Json.lookup_setOption, Json.lookup_setOption]
  · simp only [Json.lookup_set, List.lookup_nil]
    by_cases hids : key = "lastConnectedIds"
    · simp [hids]
    by_cases hdevices : key = "devices"
    · simp [hdevices]
    · simp only [hids, hdevices, if_false]
  · simp [Json.lookup_set]
  · rw [Json.lookup_setOption] <;> simp [Json.lookup_set]

theorem mem_documentMembers {language defaultDeviceId : String} {rating : Option Json}
    {devices ids : List Json} {member : String × Json}
    (h : member ∈ documentMembers language defaultDeviceId rating devices ids data) :
    member = ("lastConnectedIds", .array ids) ∨ member = ("devices", .array devices) ∨
      (∃ value ∈ rating, member = ("ratingPrompt", value)) ∨
      (∃ bounds ∈ data.settingsWindowBounds,
        member = ("settingsWindowBounds", encodeBounds bounds)) ∨
      member ∈ fixedMembers language defaultDeviceId data := by
  rcases Json.mem_set h with h | h
  · exact .inl h
  rcases Json.mem_set h with h | h
  · exact .inr (.inl h)
  rcases Json.mem_setOption h with h | h
  · exact .inr (.inr (.inl h))
  rcases Json.mem_setOption h with ⟨value, hvalue, h⟩ | h
  · obtain ⟨bounds, hbounds, rfl⟩ := Option.map_eq_some_iff.1 hvalue
    exact .inr (.inr (.inr (.inl ⟨bounds, hbounds, h⟩)))
  · exact .inr (.inr (.inr (.inr (Json.mem_ofMembers h))))

theorem keys_documentMembers (language defaultDeviceId : String) (rating : Option Json)
    (devices ids : List Json) (data : SettingsData) :
    ∀ member ∈ documentMembers language defaultDeviceId rating devices ids data,
      member.1 ∈ topLevelKeys := by
  have hfixed : ∀ member ∈ fixedMembers language defaultDeviceId data,
      member.1 ∈ topLevelKeys := by
    simp [fixedMembers, topLevelKeys]
  intro member hmember
  obtain rfl | rfl | ⟨value, -, rfl⟩ | ⟨bounds, -, rfl⟩ | h := mem_documentMembers hmember
  · simp [topLevelKeys]
  · simp [topLevelKeys]
  · simp [topLevelKeys]
  · simp [topLevelKeys]
  · exact hfixed member h

theorem isValidUtf16_language {language : WString} (h : language ∈ supportedLanguages) :
    isValidUtf16 language = true := by
  simp only [supportedLanguages, wide, List.map_cons, List.map_nil, List.mem_cons,
    List.not_mem_nil, or_false] at h
  refine isValidUtf16_of_lt ?_
  rcases h with rfl | rfl | rfl | rfl | rfl | rfl | rfl | rfl | rfl
  all_goals simp

theorem text_defaultDevice (hlib : lib.Lawful) {mode : DefaultDeviceMode} {fallback : WString}
    (h : json.find key = some (.string
      (if mode = .specificDevice then "specificDevice" else "lastConnected"))) :
    Settings.text lib json key fallback =
      some (wide (if mode = .specificDevice then "specificDevice" else "lastConnected")) := by
  unfold Settings.text
  rw [h]
  refine congrArg some (hlib.toHstring_ascii _ ?_)
  cases mode <;> simp

theorem decodeDocument_document (hlib : lib.Lawful) (hdata : data.Valid)
    (h : document lib data = some json) : decodeDocument lib json = some data := by
  obtain ⟨hpersistable, hprompt⟩ := hdata
  simp only [document, Option.bind_eq_bind, Option.bind_eq_some_iff, Option.pure_def,
    Option.some.injEq] at h
  obtain ⟨language, hlanguage, defaultDeviceId, hdefault, rating, hrating, devices, hdevices, ids,
    hids, rfl⟩ := h
  have hfind (key : String) := lookup_documentMembers key language defaultDeviceId rating devices
    ids data
  have hkeys : object topLevelKeys (.object (documentMembers language defaultDeviceId rating
      devices ids data)) = some () :=
    require_pos (keys_documentMembers language defaultDeviceId rating devices ids data)
  have hbounds : decodeBounds (.object (documentMembers language defaultDeviceId rating devices ids
      data)) = some data.settingsWindowBounds := by
    cases hwindow : data.settingsWindowBounds with
    | none => simp [decodeBounds, hfind, hwindow]
    | some bounds =>
      refine decodeBounds_encodeBounds (hpersistable.bounds bounds (by simp [hwindow])) ?_
      simp [hfind, hwindow]
  have hdeviceRows := mapM_inverse (fun device hdevice row hrow =>
    decodeDevice_encodeDevice hlib (hpersistable.devices device hdevice) hrow) hdevices
  have hconnected := mapM_inverse (fun id hid value hvalue =>
    decodeConnectedId_encodeConnectedId hlib (hpersistable.connected id hid) hvalue) hids
  have hmode : (if wide (if data.defaultDevice = .specificDevice then "specificDevice"
      else "lastConnected") = wide "specificDevice" then DefaultDeviceMode.specificDevice
      else .lastConnected) = data.defaultDevice := by
    cases data.defaultDevice <;> simp [wide]
  have hknown : wide (if data.defaultDevice = .specificDevice then "specificDevice"
      else "lastConnected") = wide "lastConnected" ∨
      wide (if data.defaultDevice = .specificDevice then "specificDevice"
        else "lastConnected") = wide "specificDevice" := by
    cases data.defaultDevice <;> simp
  have hversion : integer (.object (documentMembers language defaultDeviceId rating devices ids
      data)) "schemaVersion" (-1) = some schemaVersion := integer_toInt (by simp [hfind])
  unfold decodeDocument
  dsimp only [Option.bind_eq_bind]
  rw [hkeys, hversion, flag_eq (by simp [hfind]; rfl), flag_eq (by simp [hfind]; rfl),
    flag_eq (by simp [hfind]; rfl), flag_eq (by simp [hfind]; rfl), flag_eq (by simp [hfind]; rfl),
    flag_eq (by simp [hfind]; rfl), flag_eq (by simp [hfind]; rfl),
    text_eq hlib (isValidUtf16_language hpersistable.language) hlanguage (by simp [hfind]),
    text_defaultDevice hlib (by simp [hfind]; rfl),
    text_eq hlib hpersistable.defaultDeviceId.2.2 hdefault (by simp [hfind]), hbounds,
    array_eq (by simp [hfind]) (length_mapM hdevices ▸ hpersistable.deviceCount),
    array_eq (by simp [hfind]) (length_mapM hids ▸ hpersistable.connectedCount),
    decodeRatingPrompt_encodeRating hlib hprompt hrating (by simp [hfind])]
  simp only [Option.bind_some, hdeviceRows, hconnected]
  rw [require_pos trivial, require_pos hknown, hmode]
  simp only [Option.bind_some]
  rw [require_pos hpersistable]
  rfl

/-! ## The document is canonical -/

/-- A canonical value of bounded depth, which the JSON library writes and `parseJson` accepts. -/
def Writable (depth : Nat) (json : Json) : Prop := json.Canonical ∧ json.depth ≤ depth

theorem writable_object {n : Nat} (hsorted : Json.Sorted members)
    (h : ∀ member ∈ members, Writable n member.2) : Writable (n + 1) (.object members) :=
  ⟨Json.canonical_object.2 ⟨hsorted, fun member hmember => (h member hmember).1⟩,
    Json.depth_object.2 fun member hmember => (h member hmember).2⟩

theorem writable_array {n : Nat} {elements : List Json} (h : ∀ e ∈ elements, Writable n e) :
    Writable (n + 1) (.array elements) :=
  ⟨Json.canonical_array.2 fun e he => (h e he).1, Json.depth_array.2 fun e he => (h e he).2⟩

theorem writable_ofMembers {n : Nat} (h : ∀ member ∈ members, Writable n member.2) :
    Writable (n + 1) (.object (Json.ofMembers members)) :=
  writable_object (Json.sorted_ofMembers members) fun member hmember =>
    h member (Json.mem_ofMembers hmember)

theorem writable_bool (n : Nat) (enabled : Bool) : Writable n (.bool enabled) :=
  ⟨trivial, Nat.zero_le n⟩

theorem writable_string (n : Nat) (text : String) : Writable n (.string text) :=
  ⟨trivial, Nat.zero_le n⟩

theorem writable_int32 (n : Nat) (number : Int32) : Writable n (.integer number.toInt) := by
  have hmin := number.le_toInt
  have hmax := number.toInt_lt
  exact ⟨⟨by omega, by omega⟩, Nat.zero_le n⟩

theorem writable_uint32 (n : Nat) (number : UInt32) : Writable n (.integer number.toNat) := by
  have hmax := number.toNat_lt
  exact ⟨⟨by omega, by omega⟩, Nat.zero_le n⟩

theorem writable_encodeBounds (bounds : PersistedWindowBounds) :
    Writable 1 (encodeBounds bounds) := by
  refine writable_ofMembers ?_
  simp only [List.forall_mem_cons, writable_int32, writable_uint32, List.not_mem_nil,
    false_implies, implies_true, and_self]

theorem writable_encodeDevice {device : DeviceSettings} (h : encodeDevice lib device = some value) :
    Writable 1 value := by
  simp only [encodeDevice, Option.bind_eq_bind, Option.bind_eq_some_iff, Option.pure_def,
    Option.some.injEq] at h
  obtain ⟨id, -, name, -, deviceAlias, -, rfl⟩ := h
  refine writable_ofMembers ?_
  simp only [List.forall_mem_cons, writable_string, writable_bool, List.not_mem_nil,
    false_implies, implies_true, and_self]

theorem writable_encodeConnectedId {id : WString} (h : encodeConnectedId lib id = some value) :
    Writable 1 value := by
  simp only [encodeConnectedId, Option.bind_eq_bind, Option.bind_eq_some_iff, Option.pure_def,
    Option.some.injEq] at h
  obtain ⟨text, -, rfl⟩ := h
  exact writable_string 1 text

theorem writable_encodeRating {prompt : RatingPromptData} {rating : Option Json}
    (h : encodeRating lib prompt = some rating) : ∀ value ∈ rating, Writable 1 value := by
  unfold encodeRating at h
  split at h
  · cases h
    simp
  · obtain ⟨value, hvalue, rfl⟩ := Option.map_eq_some_iff.1 h
    simp only [encodeRatingPrompt, Option.bind_eq_bind, Option.bind_eq_some_iff, Option.pure_def,
      Option.some.injEq] at hvalue
    obtain ⟨firstLaunchDate, -, lastUsageDate, -, rfl⟩ := hvalue
    rintro _ ⟨⟩
    refine writable_ofMembers ?_
    simp only [List.forall_mem_cons, writable_string, writable_bool, writable_int32,
      List.not_mem_nil, false_implies, implies_true, and_self]

theorem writable_document (h : document lib data = some json) : Writable 3 json := by
  simp only [document, Option.bind_eq_bind, Option.bind_eq_some_iff, Option.pure_def,
    Option.some.injEq] at h
  obtain ⟨language, -, defaultDeviceId, -, rating, hrating, devices, hdevices, ids, hids, rfl⟩ := h
  have hlift {json : Json} (h : Writable 1 json) : Writable 2 json := ⟨h.1, Nat.le_succ_of_le h.2⟩
  have hdeviceRows : Writable 2 (.array devices) := writable_array fun row hrow =>
    (mem_mapM hdevices hrow).elim fun _ hdevice => writable_encodeDevice hdevice.2
  have hconnected : Writable 2 (.array ids) := writable_array fun value hvalue =>
    (mem_mapM hids hvalue).elim fun _ hid => writable_encodeConnectedId hid.2
  have hempty : Writable 2 (.array []) := writable_array (by simp)
  have hmembers : ∀ member ∈ documentMembers language defaultDeviceId rating devices ids data,
      Writable 2 member.2 := by
    have hfixed : ∀ member ∈ fixedMembers language defaultDeviceId data, Writable 2 member.2 := by
      simp only [fixedMembers, List.forall_mem_cons, writable_string, writable_bool,
        writable_int32, hempty, List.not_mem_nil, false_implies, implies_true, and_self]
    intro member hmember
    obtain rfl | rfl | ⟨value, hvalue, rfl⟩ | ⟨bounds, -, rfl⟩ | h := mem_documentMembers hmember
    · exact hconnected
    · exact hdeviceRows
    · exact hlift (writable_encodeRating hrating value hvalue)
    · exact hlift (writable_encodeBounds bounds)
    · exact hfixed member h
  refine writable_object ?_ hmembers
  exact Json.sorted_set (Json.sorted_set (Json.sorted_setOption (Json.sorted_setOption
    (Json.sorted_ofMembers _))))

/-! ## Encode and decode -/

theorem encode_eq_some : encode lib data = some bytes ↔ IsPersistable data ∧
    ∃ json, document lib data = some json ∧ lib.dump json = some bytes ∧
      bytes.size ≤ maxSettingsFileBytes := by
  simp only [encode, Option.bind_eq_bind, Option.bind_eq_some_iff, require_eq_some,
    Option.pure_def, Option.some.injEq]
  constructor
  · rintro ⟨-, hdata, json, hjson, bytes', hbytes, -, hsize, rfl⟩
    exact ⟨hdata, json, hjson, hbytes, hsize⟩
  · rintro ⟨hdata, json, hjson, hbytes, hsize⟩
    exact ⟨(), hdata, json, hjson, bytes, hbytes, (), hsize, rfl⟩

theorem parseJson_dump (hlib : lib.Lawful) {n : Nat} (hjson : Writable n json) (hn : n ≤ 16)
    (h : lib.dump json = some bytes) (hsize : bytes.size ≤ maxSettingsFileBytes) :
    parseJson lib bytes = some json := by
  have hparse := hlib.parse_dump json bytes hjson.1 h
  have hnonempty : bytes.size ≠ 0 := fun hempty => by
    simp [hlib.parse_empty bytes hempty] at hparse
  have hdepth : json.depth ≤ 16 := Nat.le_trans hjson.2 hn
  unfold parseJson
  rw [require_pos ⟨hnonempty, hsize⟩]
  simp only [Option.bind_eq_bind, Option.bind_some, hparse]
  rw [require_pos hdepth, require_pos hjson.1.keysDistinct]
  rfl

/-- Valid settings are read back as they were written. -/
theorem decode_of_encode (hlib : lib.Lawful) (hdata : data.Valid)
    (h : encode lib data = some bytes) : decode lib bytes = some data := by
  obtain ⟨-, json, hjson, hdump, hsize⟩ := encode_eq_some.1 h
  have hparse := parseJson_dump hlib (writable_document hjson) (by omega) hdump hsize
  simp [decode, hparse, decodeDocument_document hlib hdata hjson]

theorem valid_of_decodeRatingPrompt {prompt : RatingPromptData}
    (h : decodeRatingPrompt lib json = some prompt) : prompt.Valid := by
  unfold decodeRatingPrompt at h
  split at h
  · cases h
    decide
  · simp only [Option.bind_eq_bind, Option.bind_eq_some_iff, require_eq_some, Option.pure_def,
      Option.some.injEq] at h
    obtain ⟨-, -, firstLaunchDate, -, lastUsageDate, -, usageDays, -, -, hdays, asked, -, -, hfirst,
      -, hlast, rfl⟩ := h
    exact ⟨hdays, hfirst, hlast⟩

/-- The decoder returns valid settings only. -/
theorem valid_of_decodeDocument (h : decodeDocument lib json = some data) : data.Valid := by
  unfold decodeDocument at h
  dsimp only [Option.bind_eq_bind] at h
  -- Every step has succeeded; two of them matter.
  iterate 21 obtain ⟨_, hstep, h⟩ := Option.bind_eq_some_iff.1 h
  rw [Option.pure_def] at h
  cases h
  exact ⟨require_eq_some.1 hstep, valid_of_decodeRatingPrompt ‹decodeRatingPrompt lib json = some _›⟩

theorem valid_of_decode (h : decode lib bytes = some data) : data.Valid := by
  simp only [decode, Option.bind_eq_bind, Option.bind_eq_some_iff] at h
  obtain ⟨json, -, h⟩ := h
  exact valid_of_decodeDocument h

theorem valid_of_decodePersisted {decoded : DecodedSettings}
    (h : decodePersisted lib bytes = some decoded) : decoded.data.Valid := by
  simp only [decodePersisted, Option.bind_eq_bind, Option.bind_eq_some_iff] at h
  obtain ⟨json, -, h⟩ := h
  split at h
  · split at h
    · simp only [Option.bind_eq_some_iff, Option.pure_def, Option.some.injEq] at h
      obtain ⟨data, hdata, rfl⟩ := h
      exact valid_of_decode hdata
    · simp only [Option.bind_eq_some_iff, Option.pure_def, Option.some.injEq] at h
      obtain ⟨-, -, m₁, -, m₂, -, text, -, data, hdata, rfl⟩ := h
      exact valid_of_decode hdata
  · cases h

/-- What `encode` writes, `decodePersisted` takes for a document of the present version. -/
theorem decodePersisted_of_encode (hlib : lib.Lawful) (hdata : data.Valid)
    (h : encode lib data = some bytes) :
    decodePersisted lib bytes = some { data, needsRewrite := false } := by
  have hdecode := decode_of_encode hlib hdata h
  obtain ⟨-, json, hjson, hdump, hsize⟩ := encode_eq_some.1 h
  have hparse := parseJson_dump hlib (writable_document hjson) (by omega) hdump hsize
  simp only [document, Option.bind_eq_bind, Option.bind_eq_some_iff, Option.pure_def,
    Option.some.injEq] at hjson
  obtain ⟨language, -, defaultDeviceId, -, rating, -, devices, -, ids, -, rfl⟩ := hjson
  simp [decodePersisted, hparse, lookup_documentMembers, hdecode]

end PlaybackConnector.Settings
