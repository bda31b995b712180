import PlaybackConnector.Settings.Libraries
import PlaybackConnector.Wire.Percent
import Mathlib

/-!
# The arguments of a toast

`ToastArguments` (`ToastContentBuilder.cpp`): key and value pairs as one text, which a toast carries
to the activation that its button causes. Escaping and unescaping are those of
`Windows.Foundation.Uri` (`UriComponents`), and what the code relies on is `UriComponents.Lawful`:
the text of a component has none of the separators in it, and it is unescaped to the component.
-/

namespace PlaybackConnector

/-- `Uri::EscapeComponent` and `Uri::UnescapeComponent`, of which the latter may throw. -/
structure UriComponents where
  escapeComponent : WString → WString
  unescapeComponent : WString → Option WString

/-- Well-formed text is escaped with unreserved ASCII characters and escapes of two digits, and
unescaped to what it was. -/
structure UriComponents.Lawful (uri : UriComponents) : Prop where
  isEscaped : ∀ text, Settings.isValidUtf16 text = true → IsEscaped (uri.escapeComponent text)
  unescape_escape : ∀ text, Settings.isValidUtf16 text = true →
    uri.unescapeComponent (uri.escapeComponent text) = some text

namespace ToastArguments

/-- `L'&'`. -/
def ampersand : UInt16 := 38

/-- `L'='`. -/
def equalsSign : UInt16 := 61

/-- The text of the arguments. Source: `m_value` (`ToastContentBuilder.hpp:25`). -/
abbrev Text := WString

/-- Source: the result of `Parse` (`ToastContentBuilder.cpp:52`). -/
abbrev Arguments := WString → Option WString

variable (uri : UriComponents)

/-- Source: `UrlDecodeComponent` (`ToastContentBuilder.cpp:14`). -/
def urlDecodeComponent (value : WString) : WString :=
  let normalized := value.map fun unit => if unit = 43 then 32 else unit
  (uri.unescapeComponent normalized).getD normalized

/-- Source: `Add` (`ToastContentBuilder.cpp:26`). -/
def add (key value : WString) (text : Text) : Text :=
  let text := if text = [] then text else text ++ [ampersand]
  text ++ uri.escapeComponent key ++ [equalsSign] ++ uri.escapeComponent value

/-- Source: `Action` (`ToastContentBuilder.cpp:36`). -/
def action (value : WString) (text : Text) : Text := add uri (Settings.wide "action") value text

/-- Source: `DeviceId` (`ToastContentBuilder.cpp:40`). -/
def deviceId (value : WString) (text : Text) : Text :=
  if value = [] then text else add uri (Settings.wide "deviceId") value text

/-- `result[key] = value`. -/
def assign (result : Arguments) (entry : WString × WString) : Arguments :=
  Function.update result entry.1 (some entry.2)

/-- What `Parse` does with a pair. Source: `ToastContentBuilder.cpp:61`. -/
def parsePair (pair : WString) (result : Arguments) : Arguments :=
  if pair = [] then result
  else
    let key := pair.takeWhile (· ≠ equalsSign)
    let value := (pair.dropWhile (· ≠ equalsSign)).drop 1
    let decodedKey := urlDecodeComponent uri key
    if decodedKey = [] then result
    else assign result (decodedKey, urlDecodeComponent uri value)

/-- The loop of `Parse`, with what is left of the text. Source: `ToastContentBuilder.cpp:56`. -/
def parseLoop (raw : Text) (result : Arguments) : Arguments :=
  let result := parsePair uri (raw.takeWhile (· ≠ ampersand)) result
  match _h : raw.dropWhile (· ≠ ampersand) with
  | [] => result
  | _ :: rest => parseLoop rest result
termination_by raw.length
decreasing_by
  have hle := (List.dropWhile_suffix (l := raw) fun unit => decide (unit ≠ ampersand)).length_le
  rw [_h, List.length_cons] at hle
  omega

/-- Source: `Parse` (`ToastContentBuilder.cpp:51`). -/
def parse (rawArguments : Text) : Arguments := parseLoop uri rawArguments fun _ => none

/-- Source: `Find` (`ToastContentBuilder.cpp:78`). -/
def find (arguments : Arguments) (key : WString) : Option WString :=
  (arguments key).filter (· ≠ [])

/-- The text of some entries, added one after the other. -/
def build (entries : List (WString × WString)) : Text :=
  entries.foldl (fun text entry => add uri entry.1 entry.2 text) []

/-- The text of one entry. -/
def pairText (entry : WString × WString) : Text :=
  uri.escapeComponent entry.1 ++ [equalsSign] ++ uri.escapeComponent entry.2

/-! ## The text of the entries -/

section
variable {uri} {entries : List (WString × WString)} {text rest : Text}

theorem pairText_ne_nil (entry : WString × WString) : pairText uri entry ≠ [] := by
  simp [pairText]

theorem add_eq (key value : WString) (htext : text ≠ []) :
    add uri key value text = text ++ ampersand :: pairText uri (key, value) := by
  simp [add, htext, pairText]

/-- After the first entry every entry is preceded by a separator. -/
theorem foldl_add : ∀ (entries : List (WString × WString)) {text : Text}, text ≠ [] →
    entries.foldl (fun text entry => add uri entry.1 entry.2 text) text =
      text ++ entries.flatMap fun entry => ampersand :: pairText uri entry
  | [], text, _ => by simp
  | entry :: entries, text, htext => by
    rw [List.foldl_cons, add_eq _ _ htext, foldl_add entries (by simp), List.flatMap_cons,
      List.append_assoc, List.cons_append]

theorem build_cons (entry : WString × WString) (entries : List (WString × WString)) :
    build uri (entry :: entries) = pairText uri entry ++
      entries.flatMap fun entry => ampersand :: pairText uri entry :=
  foldl_add entries (pairText_ne_nil entry)

/-! ## Parsing it -/

/-- A text is cut before the first separator. -/
theorem cut_append {separator : UInt16} {before : Text} (h : ∀ unit ∈ before, unit ≠ separator)
    (rest : Text) :
    (before ++ separator :: rest).takeWhile (· ≠ separator) = before ∧
      (before ++ separator :: rest).dropWhile (· ≠ separator) = separator :: rest := by
  have hall : ∀ unit ∈ before, decide (unit ≠ separator) = true := by simpa using h
  rw [List.takeWhile_append_of_pos hall, List.dropWhile_append_of_pos hall]
  simp

theorem cut_self {separator : UInt16} {before : Text} (h : ∀ unit ∈ before, unit ≠ separator) :
    before.takeWhile (· ≠ separator) = before ∧ before.dropWhile (· ≠ separator) = [] := by
  have hall : ∀ unit ∈ before, decide (unit ≠ separator) = true := by simpa using h
  exact ⟨List.takeWhile_eq_self_iff.2 hall, List.dropWhile_eq_nil_iff.2 hall⟩

theorem parseLoop_last {raw : Text} (result : Arguments)
    (h : raw.dropWhile (· ≠ ampersand) = []) :
    parseLoop uri raw result = parsePair uri (raw.takeWhile (· ≠ ampersand)) result := by
  rw [parseLoop]
  split
  next => rfl
  next hnext =>
    rw [h] at hnext
    cases hnext

theorem parseLoop_next {raw : Text} {separator : UInt16} (result : Arguments)
    (h : raw.dropWhile (· ≠ ampersand) = separator :: rest) :
    parseLoop uri raw result =
      parseLoop uri rest (parsePair uri (raw.takeWhile (· ≠ ampersand)) result) := by
  rw [parseLoop]
  split
  next hlast =>
    rw [h] at hlast
    cases hlast
  next hnext =>
    rw [h] at hnext
    cases hnext
    rfl

/-- A component is decoded. -/
theorem urlDecodeComponent_escape (hlawful : uri.Lawful) {component : WString}
    (hvalid : Settings.isValidUtf16 component = true) :
    urlDecodeComponent uri (uri.escapeComponent component) = component := by
  have hplain : (uri.escapeComponent component).map (fun unit => if unit = 43 then 32 else unit) =
      uri.escapeComponent component := by
    refine (List.map_congr_left fun unit hunit => ?_).trans (List.map_id _)
    exact if_neg ((hlawful.isEscaped component hvalid).plain unit hunit).2.1
  rw [urlDecodeComponent, hplain, hlawful.unescape_escape component hvalid, Option.getD_some]

/-- An entry of well-formed texts, with a key. -/
structure IsEntry (entry : WString × WString) : Prop where
  key : Settings.isValidUtf16 entry.1 = true
  value : Settings.isValidUtf16 entry.2 = true
  ne_nil : entry.1 ≠ []

theorem pairText_no_ampersand (hlawful : uri.Lawful) {entry : WString × WString}
    (hentry : IsEntry entry) : ∀ unit ∈ pairText uri entry, unit ≠ ampersand := by
  intro unit hunit
  simp only [pairText, List.mem_append, List.mem_singleton] at hunit
  rcases hunit with (hkey | rfl) | hvalue
  · exact ((hlawful.isEscaped _ hentry.key).plain unit hkey).1
  · decide
  · exact ((hlawful.isEscaped _ hentry.value).plain unit hvalue).1

/-- The text of an entry is parsed to the entry. -/
theorem parsePair_pairText (hlawful : uri.Lawful) {entry : WString × WString}
    (hentry : IsEntry entry) (result : Arguments) :
    parsePair uri (pairText uri entry) result = assign result entry := by
  have hequals : ∀ unit ∈ uri.escapeComponent entry.1, unit ≠ equalsSign := fun unit hunit =>
    ((hlawful.isEscaped _ hentry.key).plain unit hunit).2.2
  have htext : pairText uri entry =
      uri.escapeComponent entry.1 ++ equalsSign :: uri.escapeComponent entry.2 := by
    simp [pairText]
  obtain ⟨hkey, hvalue⟩ := cut_append hequals (uri.escapeComponent entry.2)
  rw [parsePair, if_neg (pairText_ne_nil entry), htext, hkey, hvalue, List.drop_one, List.tail_cons]
  dsimp only
  rw [urlDecodeComponent_escape hlawful hentry.key, urlDecodeComponent_escape hlawful hentry.value,
    if_neg hentry.ne_nil]

/-- The loop parses one entry after the other. -/
theorem parseLoop_build (hlawful : uri.Lawful) : ∀ (entries : List (WString × WString))
    {entry : WString × WString} (result : Arguments), IsEntry entry →
    (∀ entry ∈ entries, IsEntry entry) →
    parseLoop uri (pairText uri entry ++
        entries.flatMap fun entry => ampersand :: pairText uri entry) result =
      (entry :: entries).foldl assign result := by
  intro entries
  induction entries with
  | nil =>
    intro entry result hentry _
    obtain ⟨hpair, hnone⟩ := cut_self (pairText_no_ampersand hlawful hentry)
    rw [List.flatMap_nil, List.append_nil, parseLoop_last result hnone, hpair,
      parsePair_pairText hlawful hentry]
    rfl
  | cons next entries ih =>
    intro entry result hentry hentries
    rw [List.forall_mem_cons] at hentries
    rw [List.flatMap_cons, List.cons_append]
    obtain ⟨hpair, hnext⟩ := cut_append (pairText_no_ampersand hlawful hentry)
      (pairText uri next ++ entries.flatMap fun entry => ampersand :: pairText uri entry)
    rw [parseLoop_next result hnext, hpair, parsePair_pairText hlawful hentry,
      ih _ hentries.1 hentries.2]
    rfl

/-- The map of entries with distinct keys. -/
theorem foldl_assign_iff {key value : WString} : ∀ (entries : List (WString × WString))
    (result : Arguments), (entries.map Prod.fst).Nodup →
    (∀ entry ∈ entries, result entry.1 = none) →
    (entries.foldl assign result key = some value ↔
      (key, value) ∈ entries ∨ result key = some value) := by
  intro entries
  induction entries with
  | nil => simp
  | cons entry entries ih =>
    intro result hnodup hnone
    rw [List.map_cons, List.nodup_cons] at hnodup
    obtain ⟨hfresh, hnodup⟩ := hnodup
    have hother : ∀ other ∈ entries, other.1 ≠ entry.1 := fun other hother heq =>
      hfresh (heq ▸ List.mem_map_of_mem hother)
    have hassign : assign result entry key = some value ↔
        (key, value) = entry ∨ result key = some value := by
      by_cases hkey : key = entry.1
      · subst hkey
        rw [assign, Function.update_self, hnone entry (List.mem_cons_self ..)]
        constructor
        · intro hvalue
          exact .inl (Prod.ext rfl (Option.some.inj hvalue).symm)
        · rintro (hentry | hvalue)
          · exact congrArg some (congrArg Prod.snd hentry).symm
          · cases hvalue
      · rw [assign, Function.update_of_ne hkey]
        exact (or_iff_right fun hentry => hkey (congrArg Prod.fst hentry)).symm
    rw [List.foldl_cons, ih _ hnodup, hassign, List.mem_cons, or_left_comm, or_assoc]
    intro other hmem
    rw [assign, Function.update_of_ne (hother other hmem)]
    exact hnone other (List.mem_cons_of_mem _ hmem)

/-- The map that is parsed from the text of some entries. -/
theorem parse_build_iff (hlawful : uri.Lawful) (key value : WString)
    (hentries : ∀ entry ∈ entries, IsEntry entry) (hkeys : (entries.map Prod.fst).Nodup) :
    parse uri (build uri entries) key = some value ↔ (key, value) ∈ entries := by
  have hparse : parse uri (build uri entries) = entries.foldl assign fun _ => none := by
    cases entries with
    | nil => exact parseLoop_last _ rfl
    | cons entry entries =>
      rw [List.forall_mem_cons] at hentries
      rw [parse, build_cons, parseLoop_build hlawful entries _ hentries.1 hentries.2]
  rw [hparse, foldl_assign_iff entries _ hkeys fun _ _ => rfl]
  simp

theorem isEntry_ascii {key value : WString} (hkey : ∀ unit ∈ key, unit < 0xD800)
    (hne : key ≠ []) (hvalue : Settings.isValidUtf16 value = true) : IsEntry (key, value) :=
  ⟨Settings.isValidUtf16_of_lt hkey, hvalue, hne⟩

theorem isEntry_action {name : WString} (hname : Settings.isValidUtf16 name = true) :
    IsEntry (Settings.wide "action", name) :=
  isEntry_ascii (by simp [Settings.wide]) (by simp [Settings.wide]) hname

theorem isEntry_deviceId {id : WString} (hid : Settings.isValidUtf16 id = true) :
    IsEntry (Settings.wide "deviceId", id) :=
  isEntry_ascii (by simp [Settings.wide]) (by simp [Settings.wide]) hid

/-- The action and the device id of a button. -/
theorem find_deviceId (hlawful : uri.Lawful) {name id : WString}
    (hname : Settings.isValidUtf16 name = true) (hid : Settings.isValidUtf16 id = true)
    (hne : id ≠ []) :
    find (parse uri (deviceId uri id (action uri name []))) (Settings.wide "deviceId") =
      some id := by
  have hdistinct : Settings.wide "action" ≠ Settings.wide "deviceId" := by
    simp [Settings.wide]
  have hbuild : deviceId uri id (action uri name []) =
      build uri [(Settings.wide "action", name), (Settings.wide "deviceId", id)] :=
    if_neg hne
  have hentries : ∀ entry ∈ [(Settings.wide "action", name), (Settings.wide "deviceId", id)],
      IsEntry entry :=
    List.forall_mem_cons.2 ⟨isEntry_action hname,
      List.forall_mem_cons.2 ⟨isEntry_deviceId hid, by simp⟩⟩
  have hparse := (parse_build_iff hlawful (Settings.wide "deviceId") id hentries
    (by simp [hdistinct])).2 (by simp)
  rw [hbuild, find, hparse]
  simp [Option.filter, hne]

end

end ToastArguments

/-! ## The escapes of the system -/

/-- The escapes of UTF-8, as they are documented. -/
def uriComponents : UriComponents where
  escapeComponent text :=
    percentEncode (String.ofList (Settings.decodeUtf16 text)).toByteArray.data.toList
  unescapeComponent text :=
    (percentDecode text).bind fun bytes =>
      (String.fromUTF8? ⟨bytes.toArray⟩).map fun text => text.toList.flatMap Settings.encodeChar

theorem lawful_uriComponents : uriComponents.Lawful where
  isEscaped _ _ := isEscaped_percentEncode _
  unescape_escape text hvalid := by
    have htext : String.fromUTF8? (String.ofList (Settings.decodeUtf16 text)).toByteArray =
        some (String.ofList (Settings.decodeUtf16 text)) := by
      rw [String.fromUTF8?, dif_pos (String.ofList (Settings.decodeUtf16 text)).isValidUTF8]
      rfl
    show (percentDecode (percentEncode _)).bind _ = some text
    rw [percentDecode_percentEncode, Option.bind_some, Array.toArray_toList]
    show (String.fromUTF8? (String.ofList (Settings.decodeUtf16 text)).toByteArray).map _ = _
    rw [htext, Option.map_some, String.toList_ofList, Settings.encode_decodeUtf16 hvalid]

namespace ToastArguments

/-- Whatever the entries and in whatever order they are added, the text is parsed to exactly their
map, and the device id of a button is the one that it was built for. -/
theorem parse_build (uri : UriComponents) (hlawful : uri.Lawful)
    (entries added : List (WString × WString)) (hadded : added.Perm entries)
    (hentries : ∀ entry ∈ entries, IsEntry entry) (hkeys : (entries.map Prod.fst).Nodup) :
    (∀ key value, parse uri (build uri added) key = some value ↔ (key, value) ∈ entries) ∧
    ∀ name id, Settings.isValidUtf16 name = true → Settings.isValidUtf16 id = true → id ≠ [] →
      find (parse uri (deviceId uri id (action uri name []))) (Settings.wide "deviceId") =
        some id := by
  refine ⟨fun key value => ?_, fun name id hname hid hne => find_deviceId hlawful hname hid hne⟩
  rw [parse_build_iff hlawful key value
    (fun entry hentry => hentries entry (hadded.mem_iff.1 hentry))
    ((hadded.map Prod.fst).nodup_iff.2 hkeys), hadded.mem_iff]

/-- Two entries: a key with separators in it and an empty value, and one of a plus sign. -/
def separatorEntries : List (WString × WString) :=
  [(Settings.wide "a&b=c+d%20", []), (Settings.wide "e", Settings.wide "+")]

theorem isEntry_separatorEntries :
    (∀ entry ∈ separatorEntries, IsEntry entry) ∧ (separatorEntries.map Prod.fst).Nodup := by
  refine ⟨?_, by simp [separatorEntries, Settings.wide]⟩
  intro entry hentry
  rcases List.mem_cons.1 hentry with rfl | hentry
  · exact isEntry_ascii (by simp [Settings.wide]) (by simp [Settings.wide]) rfl
  · rw [List.mem_singleton.1 hentry]
    exact isEntry_ascii (by simp [Settings.wide]) (by simp [Settings.wide])
      (Settings.isValidUtf16_of_lt (by simp [Settings.wide]))

/-- They are added in the other order. -/
theorem parse_build_separators :
    parse uriComponents (build uriComponents separatorEntries.reverse)
      (Settings.wide "a&b=c+d%20") = some [] := by
  obtain ⟨hentries, hkeys⟩ := isEntry_separatorEntries
  have hparse := (parse_build uriComponents lawful_uriComponents separatorEntries
    separatorEntries.reverse (List.reverse_perm _) hentries hkeys).1
    (Settings.wide "a&b=c+d%20") []
  exact hparse.2 (List.mem_cons_self ..)

end ToastArguments

end PlaybackConnector
