import PlaybackConnector.Settings.Data
import PlaybackConnector.Text.Replace

/-!
# The redaction of log lines

`RedactLine` (`DiagnosticsLogCollector.cpp:145`): a line of the log is shown without the device ids,
names and aliases of the settings. Control characters of the line become blanks first; then every
saved value is replaced, the longest ones first, and then what looks like an id.

The characters of a line know whether they are those of the raw line (`Cell.raw`). What the regular
expressions match is a parameter: they replace parts of the line by a redaction text.
-/

namespace PlaybackConnector

namespace DiagnosticsLog

open Settings

/-- A character of a line. `raw`: it stems from the raw line. No code reads it. -/
structure Cell where
  unit : UInt16
  raw : Bool
deriving Repr, DecidableEq

/-- A line of the log. -/
abbrev Line := List Cell

/-- The line as it was read. -/
def rawLine (line : WString) : Line := line.map fun unit => ⟨unit, true⟩

/-- Text that the code inserts. -/
def inserted (text : WString) : Line := text.map fun unit => ⟨unit, false⟩

/-- A text that is shown for what is redacted. In the format of a regular expression it stands for
itself, also behind `$1`. -/
structure RedactionText where
  text : WString
  ne_nil : text ≠ []
  noDollar : 36 ∉ text
  noDigit : ∀ first ∈ text.head?, ¬(48 ≤ first ∧ first ≤ 57)

/-- Source: `Replacement` (`DiagnosticsLogCollector.cpp:92`). Neither text is empty. -/
structure Replacement where
  value : WString
  replacementText : WString
  value_ne_nil : value ≠ []
  replacementText_ne_nil : replacementText ≠ []

/-- What `EnvironmentValue` returns for the variables. Source:
`DiagnosticsLogCollector.cpp:22`. -/
structure Environment where
  localAppData : WString
  userProfile : WString
  temp : WString
  tmp : WString
deriving DecidableEq

/-! ## Control characters -/

/-- Source: `disallowedControl` and `bidiControl` (`DiagnosticsLogCollector.cpp:61`). -/
def isControl (code : UInt16) : Bool :=
  (code < 0x20 && code != 9) || (0x7f ≤ code && code ≤ 0x9f) ||
    ((0x202a ≤ code && code ≤ 0x202e) || (0x2066 ≤ code && code ≤ 0x2069) || code == 0x200e ||
      code == 0x200f || code == 0x061c)

/-- What becomes of a character. Source: `DiagnosticsLogCollector.cpp:64`. -/
def sanitizeUnit (code : UInt16) : UInt16 := if isControl code then 32 else code

/-- Source: `SanitizeControls` (`DiagnosticsLogCollector.cpp:58`). -/
def sanitizeControls (line : Line) : Line :=
  line.map fun cell => { cell with unit := sanitizeUnit cell.unit }

/-! ## Replacements -/

/-- Source: `add` in `BuildReplacements` (`DiagnosticsLogCollector.cpp:101`). -/
def add (value replacement : WString) (hreplacement : replacement ≠ []) : List Replacement :=
  if hvalue : value = [] then [] else [⟨value, replacement, hvalue, hreplacement⟩]

/-- The replacements before they are sorted. Source: `BuildReplacements`
(`DiagnosticsLogCollector.cpp:97`). -/
def collectReplacements (environment : Environment) (settings : SettingsData)
    (redactedDevice redactedValue : RedactionText) : List Replacement :=
  add environment.localAppData (wide "%LOCALAPPDATA%") (by simp [wide]) ++
    add environment.userProfile (wide "%USERPROFILE%") (by simp [wide]) ++
    add environment.temp (wide "%TEMP%") (by simp [wide]) ++
    add environment.tmp (wide "%TEMP%") (by simp [wide]) ++
    settings.devices.flatMap fun device =>
      add device.id redactedValue.text redactedValue.ne_nil ++
        add device.name redactedDevice.text redactedDevice.ne_nil ++
        add device.deviceAlias redactedDevice.text redactedDevice.ne_nil

/-- The replacements, the longest values first, in some order where they are equally long. Source:
`BuildReplacements` (`DiagnosticsLogCollector.cpp:112`). -/
structure BuildReplacements (environment : Environment) (settings : SettingsData)
    (redactedDevice redactedValue : RedactionText) (replacements : List Replacement) : Prop where
  perm : replacements.Perm
    (collectReplacements environment settings redactedDevice redactedValue)
  sorted : replacements.Pairwise fun left right => right.value.length ≤ left.value.length

/-! ## Redaction -/

/-- The regular expressions. Source: `DiagnosticsLogCollector.cpp:157`. -/
inductive Pattern
  | structuredId | structuredName | mac | bluetoothDevice | guid
deriving Repr, DecidableEq

/-- The replacement begins with `$1`. Source: `DiagnosticsLogCollector.cpp:163`. -/
def Pattern.keepsGroup : Pattern → Bool
  | structuredId | structuredName => true
  | mac | bluetoothDevice | guid => false

variable (fold : UInt16 → UInt16) (matchesOf : Pattern → WString → List Match)

/-- Source: `ReplaceAllInsensitiveBounded` (`DiagnosticsLogCollector.cpp:69`). -/
def replaceAllInsensitiveBounded (value : Line) (needle replacement : WString)
    (maxCharacters : Nat) : Option Line :=
  replaceAll (fun cell => fold cell.unit) (needle.map fold) (inserted replacement) maxCharacters
    value

/-- `std::regex_replace`. -/
def regexReplace (pattern : Pattern) (text : RedactionText) (line : Line) : Line :=
  replaceMatches (inserted text.text)
    ((matchesOf pattern (line.map Cell.unit)).map fun part =>
      if pattern.keepsGroup then part
      else { part with group := 0, rest := part.group + part.rest }) line

/-- Source: `RedactLine` (`DiagnosticsLogCollector.cpp:145`). -/
def redactLine (line : Line) (replacements : List Replacement)
    (redactedValue redactedDevice : RedactionText) (maxCharacters : Nat) : Option Line := do
  let line := sanitizeControls line
  let line ← replacements.foldlM (fun line replacement =>
    replaceAllInsensitiveBounded fold line replacement.value replacement.replacementText
      maxCharacters) line
  let line := regexReplace matchesOf .structuredId redactedValue line
  let line := regexReplace matchesOf .structuredName redactedDevice line
  let line := regexReplace matchesOf .mac redactedValue line
  let line := regexReplace matchesOf .bluetoothDevice redactedValue line
  let line := regexReplace matchesOf .guid redactedValue line
  if maxCharacters < line.length then none else some line

/-! ## What is shown -/

/-- The ids, names and aliases of the saved devices, those that are not empty. -/
def savedValues (settings : SettingsData) : List WString :=
  (settings.devices.flatMap fun device => [device.id, device.name, device.deviceAlias]).filter
    (· ≠ [])

/-- The line shows none of its raw characters in a part that reads, in either case, as the value
does without its control characters. -/
def Hides (value : WString) (line : Line) : Prop :=
  Free (fun cell => fold cell.unit) (fun cell => cell.raw = true)
    ((value.map sanitizeUnit).map fold) line

/-- What the redaction of a line is for: whatever the regular expressions match, a line that is
shown hides every saved value and is not longer than the bound; with a smaller bound it is dropped.
-/
structure Redacts (environment : Environment) (settings : SettingsData)
    (redactedDevice redactedValue : RedactionText) : Prop where
  hides : ∀ {replacements : List Replacement} {matchesOf : Pattern → WString → List Match}
    {line : WString} {maxCharacters : Nat} {result : Line},
    BuildReplacements environment settings redactedDevice redactedValue replacements →
    redactLine fold matchesOf (rawLine line) replacements redactedValue redactedDevice
      maxCharacters = some result → ∀ saved ∈ savedValues settings, Hides fold saved result
  bound : ∀ {replacements : List Replacement} {matchesOf : Pattern → WString → List Match}
    {line : WString} {maxCharacters : Nat} {result : Line},
    redactLine fold matchesOf (rawLine line) replacements redactedValue redactedDevice
      maxCharacters = some result → result.length ≤ maxCharacters ∧
      ∀ smaller < result.length, redactLine fold matchesOf (rawLine line) replacements
        redactedValue redactedDevice smaller = none

/-- What the saved value reads without its control characters contains something that is
replaced. -/
def Covered (environment : Environment) (settings : SettingsData)
    (redactedDevice redactedValue : RedactionText) (saved : WString) : Prop :=
  ∃ replacement ∈ collectReplacements environment settings redactedDevice redactedValue,
    replacement.value.map fold <:+: (saved.map sanitizeUnit).map fold

section
variable {fold} {matchesOf} {environment : Environment} {settings : SettingsData}
  {redactedDevice redactedValue : RedactionText} {replacements : List Replacement}
  {line result : Line} {maxCharacters : Nat}

theorem inserted_not_raw (text : WString) : ∀ cell ∈ inserted text, ¬cell.raw = true := by
  intro cell hcell
  obtain ⟨unit, -, rfl⟩ := List.mem_map.1 hcell
  simp

theorem inserted_ne_nil {text : WString} (h : text ≠ []) : inserted text ≠ [] := by
  simpa [inserted] using h

/-- The replacements of the code, one after the other. -/
def replaceValues (fold : UInt16 → UInt16) (replacements : List Replacement)
    (maxCharacters : Nat) (line : Line) : Option Line :=
  replacements.foldlM (fun line replacement =>
    replaceAllInsensitiveBounded fold line replacement.value replacement.replacementText
      maxCharacters) line

/-- Nothing that was replaced is left among the raw characters, of which none are new. -/
theorem replaceValues_free : ∀ (replacements : List Replacement) {line : Line},
    replaceValues fold replacements maxCharacters line = some result →
    Runs (fun cell => cell.raw = true) result line ∧
      ∀ replacement ∈ replacements, Free (fun cell => fold cell.unit)
        (fun cell => cell.raw = true) (replacement.value.map fold) result := by
  intro replacements
  induction replacements with
  | nil =>
    intro line h
    obtain rfl := Option.some.inj h
    exact ⟨.refl, by simp⟩
  | cons replacement replacements ih =>
    intro line h
    rw [replaceValues, List.foldlM_cons] at h
    obtain ⟨replaced, hreplaced, hrest⟩ := Option.bind_eq_some_iff.1 h
    obtain ⟨hruns, hfree⟩ := ih hrest
    have hinserted := inserted_ne_nil replacement.replacementText_ne_nil
    have hnotRaw := inserted_not_raw replacement.replacementText
    refine ⟨hruns.trans (replaceAll_runs hreplaced hinserted hnotRaw),
      List.forall_mem_cons.2 ⟨?_, hfree⟩⟩
    refine (replaceAll_free hreplaced ?_ hinserted hnotRaw).of_runs hruns
    simpa using replacement.value_ne_nil

theorem regexReplace_runs (matchesOf : Pattern → WString → List Match) (pattern : Pattern)
    (text : RedactionText) (line : Line) :
    Runs (fun cell => cell.raw = true) (regexReplace matchesOf pattern text line) line :=
  replaceMatches_runs (inserted_ne_nil text.ne_nil) (inserted_not_raw text.text) _ line

/-- The structured ids and what looks like an id. Source: `DiagnosticsLogCollector.cpp:163`. -/
def regexReplaceAll (matchesOf : Pattern → WString → List Match)
    (redactedValue redactedDevice : RedactionText) (line : Line) : Line :=
  regexReplace matchesOf .guid redactedValue (regexReplace matchesOf .bluetoothDevice redactedValue
    (regexReplace matchesOf .mac redactedValue (regexReplace matchesOf .structuredName
      redactedDevice (regexReplace matchesOf .structuredId redactedValue line))))

theorem regexReplaceAll_runs (matchesOf : Pattern → WString → List Match)
    (redactedValue redactedDevice : RedactionText) (line : Line) :
    Runs (fun cell => cell.raw = true)
      (regexReplaceAll matchesOf redactedValue redactedDevice line) line :=
  (regexReplace_runs matchesOf .guid redactedValue _).trans
    ((regexReplace_runs matchesOf .bluetoothDevice redactedValue _).trans
      ((regexReplace_runs matchesOf .mac redactedValue _).trans
        ((regexReplace_runs matchesOf .structuredName redactedDevice _).trans
          (regexReplace_runs matchesOf .structuredId redactedValue line))))

/-- A line is shown as it is redacted within the bound. -/
theorem redactLine_eq_some : redactLine fold matchesOf line replacements redactedValue
      redactedDevice maxCharacters = some result ↔
    ∃ replaced, replaceValues fold replacements maxCharacters (sanitizeControls line) =
        some replaced ∧
      regexReplaceAll matchesOf redactedValue redactedDevice replaced = result ∧
      result.length ≤ maxCharacters := by
  rw [redactLine]
  constructor
  · intro h
    obtain ⟨replaced, hreplaced, hresult⟩ := Option.bind_eq_some_iff.1 h
    dsimp only at hresult
    split_ifs at hresult with hbound
    obtain rfl := Option.some.inj hresult
    exact ⟨replaced, hreplaced, rfl, not_lt.1 hbound⟩
  · rintro ⟨replaced, hreplaced, rfl, hbound⟩
    refine Option.bind_eq_some_iff.2 ⟨replaced, hreplaced, ?_⟩
    exact if_neg (not_lt.2 hbound)

theorem sanitizeControls_rawLine (line : WString) :
    sanitizeControls (rawLine line) = rawLine (line.map sanitizeUnit) := by
  simp [sanitizeControls, rawLine, Function.comp_def]

theorem redactLine_length (h : redactLine fold matchesOf line replacements redactedValue
    redactedDevice maxCharacters = some result) : result.length ≤ maxCharacters := by
  obtain ⟨-, -, -, hbound⟩ := redactLine_eq_some.1 h
  exact hbound

theorem replaceValues_unique : ∀ (replacements : List Replacement) {line result other : Line}
    {smaller : Nat}, replaceValues fold replacements maxCharacters line = some result →
    replaceValues fold replacements smaller line = some other → result = other := by
  intro replacements
  induction replacements with
  | nil =>
    intro line result other smaller h h'
    exact Option.some.inj (h.symm.trans h')
  | cons replacement replacements ih =>
    intro line result other smaller h h'
    rw [replaceValues, List.foldlM_cons] at h h'
    obtain ⟨replaced, hreplaced, hrest⟩ := Option.bind_eq_some_iff.1 h
    obtain ⟨replaced', hreplaced', hrest'⟩ := Option.bind_eq_some_iff.1 h'
    obtain rfl := replaceAll_unique hreplaced hreplaced'
    exact ih hrest hrest'

/-- A line that is longer when it is redacted is dropped. -/
theorem redactLine_dropped (h : redactLine fold matchesOf line replacements redactedValue
    redactedDevice maxCharacters = some result) {smaller : Nat}
    (hsmaller : smaller < result.length) :
    redactLine fold matchesOf line replacements redactedValue redactedDevice smaller = none := by
  cases hother : redactLine fold matchesOf line replacements redactedValue redactedDevice
    smaller with
  | none => rfl
  | some other =>
    obtain ⟨replaced, hreplaced, rfl, -⟩ := redactLine_eq_some.1 h
    obtain ⟨replaced', hreplaced', rfl, hbound⟩ := redactLine_eq_some.1 hother
    obtain rfl := replaceValues_unique replacements hreplaced hreplaced'
    exact absurd hsmaller (not_lt.2 hbound)

/-- What contains something that is replaced is hidden. -/
theorem redactLine_hides
    (hbuild : BuildReplacements environment settings redactedDevice redactedValue replacements)
    (h : redactLine fold matchesOf line replacements redactedValue redactedDevice maxCharacters =
      some result) {saved : WString}
    (hcovered : Covered fold environment settings redactedDevice redactedValue saved) :
    Hides fold saved result := by
  obtain ⟨replacement, hmem, hinfix⟩ := hcovered
  obtain ⟨replaced, hreplaced, rfl, -⟩ := redactLine_eq_some.1 h
  have hfree := (replaceValues_free replacements hreplaced).2 replacement
    (hbuild.perm.mem_iff.2 hmem)
  exact (hfree.of_infix hinfix).of_runs (regexReplaceAll_runs _ _ _ replaced)

/-- A line that contains nothing to be replaced is shown without its control characters. -/
theorem redactLine_plain (replacements : List Replacement)
    (redactedValue redactedDevice : RedactionText) (text : WString)
    (h : ∀ replacement ∈ replacements,
      ¬replacement.value.map fold <:+: (text.map sanitizeUnit).map fold)
    (hbound : text.length ≤ maxCharacters) :
    redactLine fold (fun _ _ => []) (rawLine text) replacements redactedValue redactedDevice
      maxCharacters = some (rawLine (text.map sanitizeUnit)) := by
  have hkeys : (rawLine (text.map sanitizeUnit)).map (fun cell => fold cell.unit) =
      (text.map sanitizeUnit).map fold := by
    simp [rawLine, Function.comp_def]
  refine redactLine_eq_some.2 ⟨_, ?_, rfl, by simpa [rawLine] using hbound⟩
  rw [sanitizeControls_rawLine]
  induction replacements with
  | nil => rfl
  | cons replacement replacements ih =>
    rw [List.forall_mem_cons] at h
    have hnone : replaceAllInsensitiveBounded fold (rawLine (text.map sanitizeUnit))
        replacement.value replacement.replacementText maxCharacters =
          some (rawLine (text.map sanitizeUnit)) := by
      refine replaceAll_none fun part hpart hmap => h.1 ?_
      rw [← hmap, ← hkeys]
      exact hpart.map _
    rw [replaceValues, List.foldlM_cons, hnone]
    exact ih h.2

/-- Whatever its lengths, a list can be sorted. -/
theorem exists_buildReplacements (environment : Environment) (settings : SettingsData)
    (redactedDevice redactedValue : RedactionText) :
    ∃ replacements, BuildReplacements environment settings redactedDevice redactedValue
      replacements := by
  refine ⟨(collectReplacements environment settings redactedDevice redactedValue).mergeSort
    fun left right => right.value.length ≤ left.value.length, List.mergeSort_perm .., ?_⟩
  have hsorted : ((collectReplacements environment settings redactedDevice redactedValue).mergeSort
      fun left right => decide (right.value.length ≤ left.value.length)).Pairwise
        fun left right => decide (right.value.length ≤ left.value.length) = true := by
    refine List.pairwise_mergeSort (fun a b c hab hbc => ?_) (fun a b => ?_) _
    · simp only [decide_eq_true_eq] at hab hbc ⊢
      omega
    · simp only [Bool.or_eq_true, decide_eq_true_eq]
      omega
  exact hsorted.imp fun hle => of_decide_eq_true hle

theorem mem_add {value replacement : WString} (hreplacement : replacement ≠ [])
    (hvalue : value ≠ []) : ∃ added ∈ add value replacement hreplacement, added.value = value := by
  rw [add, dif_neg hvalue]
  exact ⟨_, List.mem_singleton_self _, rfl⟩

/-- A saved value without control characters is replaced itself. -/
theorem covered_self {saved : WString} (hsaved : saved ∈ savedValues settings)
    (hclean : saved.map sanitizeUnit = saved) :
    Covered fold environment settings redactedDevice redactedValue saved := by
  obtain ⟨hmem, hne⟩ := List.mem_filter.1 hsaved
  obtain ⟨device, hdevice, hfield⟩ := List.mem_flatMap.1 hmem
  have hne : saved ≠ [] := by simpa using hne
  have hadded : ∃ replacement ∈ collectReplacements environment settings redactedDevice
      redactedValue, replacement.value = saved := by
    simp only [List.mem_cons, List.not_mem_nil, or_false] at hfield
    rcases hfield with rfl | rfl | rfl
    · obtain ⟨added, hadded, heq⟩ := mem_add redactedValue.ne_nil hne
      exact ⟨added, List.mem_append_right _ (List.mem_flatMap.2
        ⟨device, hdevice, List.mem_append_left _ (List.mem_append_left _ hadded)⟩), heq⟩
    · obtain ⟨added, hadded, heq⟩ := mem_add redactedDevice.ne_nil hne
      exact ⟨added, List.mem_append_right _ (List.mem_flatMap.2
        ⟨device, hdevice, List.mem_append_left _ (List.mem_append_right _ hadded)⟩), heq⟩
    · obtain ⟨added, hadded, heq⟩ := mem_add redactedDevice.ne_nil hne
      exact ⟨added, List.mem_append_right _ (List.mem_flatMap.2
        ⟨device, hdevice, List.mem_append_right _ hadded⟩), heq⟩
  obtain ⟨replacement, hreplacement, hvalue⟩ := hadded
  refine ⟨replacement, hreplacement, ?_⟩
  rw [hvalue, hclean]

end

/-- The lines that are shown hide the saved values if and only if each of these, without its control
characters, contains something that is replaced. -/
theorem redacts_iff (fold : UInt16 → UInt16) (environment : Environment) (settings : SettingsData)
    (redactedDevice redactedValue : RedactionText) :
    Redacts fold environment settings redactedDevice redactedValue ↔
      ∀ saved ∈ savedValues settings,
        Covered fold environment settings redactedDevice redactedValue saved := by
  constructor
  · intro h saved hsaved
    by_contra hnot
    obtain ⟨replacements, hbuild⟩ := exists_buildReplacements environment settings redactedDevice
      redactedValue
    have hplain := redactLine_plain replacements redactedValue redactedDevice saved
      (fun replacement hmem hinfix => hnot ⟨replacement, hbuild.perm.mem_iff.1 hmem, hinfix⟩)
      (le_refl saved.length)
    refine h.hides hbuild hplain saved hsaved _ (List.infix_refl _) ?_ ?_
    · simp [rawLine]
    · simp [rawLine, Function.comp_def]
  · intro h
    exact ⟨fun hbuild hresult saved hsaved => redactLine_hides hbuild hresult (h saved hsaved),
      fun hresult => ⟨redactLine_length hresult, fun _ hsmaller =>
        redactLine_dropped hresult hsmaller⟩⟩

/-- `std::towlower` of ASCII. -/
def asciiLower (unit : UInt16) : UInt16 := if 65 ≤ unit ∧ unit ≤ 90 then unit + 32 else unit

/-- A name with a left-to-right mark in it. -/
def markedName : WString := [65, 0x200e, 66]

def markedSettings : SettingsData where
  devices := [{
    id := [105, 55]
    name := markedName
    deviceAlias := []
    connectOnStartup := false
    reconnectOnConnectionLoss := false }]

def redactionText : RedactionText where
  text := [42]
  ne_nil := by decide
  noDollar := by simp
  noDigit := by simp

def noEnvironment : Environment := ⟨[], [], [], []⟩

/-- The mark becomes a blank in the line before the name is looked for, so the name is shown. -/
theorem redacts_iff_marked :
    (∃ replacements, BuildReplacements noEnvironment markedSettings redactionText redactionText
        replacements ∧
      redactLine asciiLower (fun _ _ => []) (rawLine markedName) replacements redactionText
        redactionText 8192 = some (rawLine [65, 32, 66])) ∧
    markedName ∈ savedValues markedSettings ∧
    ¬Hides asciiLower markedName (rawLine [65, 32, 66]) ∧
    ¬Redacts asciiLower noEnvironment markedSettings redactionText redactionText := by
  have hshown : ¬Hides asciiLower markedName (rawLine [65, 32, 66]) := by
    intro hhides
    exact hhides _ (List.infix_refl _) (by decide) (by decide)
  obtain ⟨replacements, hbuild⟩ := exists_buildReplacements noEnvironment markedSettings
    redactionText redactionText
  have hline : redactLine asciiLower (fun _ _ => []) (rawLine markedName) replacements redactionText
      redactionText 8192 = some (rawLine [65, 32, 66]) := by
    refine redactLine_plain replacements redactionText redactionText markedName ?_ (by decide)
    intro replacement hmem
    have hvalues : ∀ replacement ∈ collectReplacements noEnvironment markedSettings redactionText
        redactionText, ¬replacement.value.map asciiLower <:+:
          (markedName.map sanitizeUnit).map asciiLower := by
      decide
    exact hvalues replacement (hbuild.perm.mem_iff.1 hmem)
  have hsaved : markedName ∈ savedValues markedSettings := by decide
  exact ⟨⟨replacements, hbuild, hline⟩, hsaved, hshown,
    fun hredacts => hshown (hredacts.hides hbuild hline markedName hsaved)⟩

end DiagnosticsLog

end PlaybackConnector
