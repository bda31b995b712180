import Mathlib
import PlaybackConnector.Transition.System
import PlaybackConnector.Transition.Versioned
import PlaybackConnector.Service.State
import PlaybackConnector.Settings.Data
import PlaybackConnector.App.StartupTaskCoordinator

/-!
# Snapshots of the application

`AppController::CaptureSnapshot` (`AppControllerUseCases.cpp:123`) asks the settings store, the
device service and the startup task coordinator one after the other for what they have, without a
common lock, asks each of them again for its version, and gives the snapshot a generation in a
critical section of `m_stateMutex`. Any number of captures go on at the same time. The steps are the
calls of the owners and the critical sections, so that the owners can change, and other code of the
controller can advance the generation, between any two of them.

Of the owners it is known that what they hold changes only together with its version
(`Parts.Upto`). What no code reads is noted for the statements: what the owners held so far, what
they held when a capture began and when it asked for the startup task, and what was returned.
-/

namespace PlaybackConnector

open Settings

namespace AppController

/-- The settings with their revision. Source: `SettingsSnapshot` (`SettingsStore.hpp:20`), whose
`IsDirty` no capture reads. -/
structure CommittedSettings where
  data : SettingsData
  revision : Nat
deriving DecidableEq

/-- What the settings store, the device service and, if there is one, the startup task coordinator
hold. -/
@[ext] structure Parts where
  settings : CommittedSettings
  devices : DeviceServiceSnapshot
  startup : Option StartupTaskSnapshot
deriving DecidableEq

/-- What the owners held has become what they hold later. -/
structure Parts.Upto (a b : Parts) : Prop where
  settings : PlaybackConnector.Upto CommittedSettings.revision a.settings b.settings
  devices : PlaybackConnector.Upto DeviceServiceSnapshot.generation a.devices b.devices
  startup : UptoOption StartupTaskSnapshot.publication a.startup b.startup

/-- The versions of the parts. -/
structure Versions where
  settingsRevision : Nat
  deviceGeneration : Nat
  startupPublication : Option Nat
deriving Repr, DecidableEq

/-- The versions of the parts. Source: `CaptureSnapshot` (`AppControllerUseCases.cpp:174`). -/
def Parts.versions (parts : Parts) : Versions where
  settingsRevision := parts.settings.revision
  deviceGeneration := parts.devices.generation
  startupPublication := parts.startup.map StartupTaskSnapshot.publication

/-- A snapshot with `IsRunning`, by what its fields are computed from: its parts, the generation of
the picker and its own generation. Source: `AppSnapshot` (`AppModels.hpp:262`). -/
structure AppSnapshot where
  parts : Parts
  pickerGeneration : Nat
  generation : Nat
deriving DecidableEq

/-- What a capture has read: its parts, and the generations in the first critical section. -/
structure Sample where
  parts : Parts
  generation : Nat
  pickerGeneration : Nat
deriving DecidableEq

/-- What a capture does next. -/
inductive Point
  /-- The call of the store in `ReadSettings`. -/
  | settings
  /-- The critical section of `ReadSettings`. -/
  | note (settings : CommittedSettings)
  | devices (settings : CommittedSettings)
  | startup (settings : CommittedSettings) (devices : DeviceServiceSnapshot)
  /-- The first critical section. -/
  | generation (parts : Parts)
  /-- The call of `PickerOpenedGeneration`. -/
  | picker (sample : Sample)
  | recheckSettings (sample : Sample)
  | recheckDevices (sample : Sample)
  | recheckStartup (sample : Sample)
  /-- The second critical section. -/
  | assign (sample : Sample)
deriving DecidableEq

/-- A call of `CaptureSnapshot`. -/
structure Capture where
  id : Nat
  attempt : Nat := 0
  point : Point := .settings
  /-- What the owners held when it began. -/
  began : Parts
  /-- What the owners held when it last asked for the startup task. -/
  instant : Parts
deriving DecidableEq

/-- A call that has returned a snapshot, or none that is available. -/
structure Returned where
  id : Nat
  snapshot : Option AppSnapshot
  began : Parts
  instant : Parts
  ended : Parts
deriving DecidableEq

/-- The owners, and the controller. Source: `AppController` (`AppController.hpp:296`). -/
structure State where
  owners : Parts
  running : Bool := true
  generation : Nat := 0
  pickerGeneration : Nat := 0
  lastSettingsRevision : Option Nat := none
  lastDeviceGeneration : Option Nat := none
  lastStartupPublication : Option Nat := none
  /-- The revisions that other calls of `ReadSettings` have read and not yet noted. -/
  readers : List Nat := []
  captures : List Capture := []
  nextCapture : Nat := 0
  /-- What the owners held so far, the latest first. -/
  history : List Parts := [owners]
  returned : List Returned := []
deriving DecidableEq

/-! ## Captures -/

/-- Source: `std::numeric_limits<std::uint64_t>::max()`. -/
def maxGeneration : Nat := 2 ^ 64 - 1

/-- Source: `AdvanceGeneration` (`AppControllerUseCases.cpp:1161`). -/
def advanceGeneration (generation : Nat) : Nat :=
  if generation ≠ maxGeneration then generation + 1 else generation

/-- Source: the critical section of `ReadSettings` (`AppControllerUseCases.cpp:870`). -/
def noteSettings (revision : Nat) (s : State) : State :=
  match s.lastSettingsRevision with
  | none => { s with lastSettingsRevision := some revision }
  | some last =>
    if last < revision then
      { s with
        lastSettingsRevision := some revision
        generation := advanceGeneration s.generation }
    else s

/-- Source: `CaptureSnapshot` (`AppControllerUseCases.cpp:153`). -/
def isOvertaken (sample : Sample) (s : State) : Prop :=
  s.generation ≠ sample.generation ∨
    s.lastSettingsRevision ≠ some sample.parts.settings.revision ∨
    (∃ last ∈ s.lastDeviceGeneration, sample.parts.devices.generation < last) ∨
    ∃ startup ∈ sample.parts.startup, ∃ last ∈ s.lastStartupPublication, startup.publication < last

instance (sample : Sample) (s : State) : Decidable (isOvertaken sample s) := by
  unfold isOvertaken
  infer_instance

/-- The generation when the version of a part is noted. Source: `CaptureSnapshot`
(`AppControllerUseCases.cpp:158`). -/
def noted (last : Option Nat) (version generation : Nat) : Nat :=
  if ∃ noted ∈ last, noted ≠ version then advanceGeneration generation else generation

/-- The snapshot's generation. Source: `CaptureSnapshot` (`AppControllerUseCases.cpp:158`). -/
def assignedGeneration (sample : Sample) (s : State) : Nat :=
  let generation := noted s.lastDeviceGeneration sample.parts.devices.generation s.generation
  let generation :=
    match sample.parts.startup with
    | none => generation
    | some startup => noted s.lastStartupPublication startup.publication generation
  if s.pickerGeneration < sample.pickerGeneration then advanceGeneration generation
  else generation

/-- What the second critical section notes. Source: `CaptureSnapshot`
(`AppControllerUseCases.cpp:158`). -/
def assign (sample : Sample) (s : State) : State :=
  { s with
    generation := assignedGeneration sample s
    pickerGeneration := max s.pickerGeneration sample.pickerGeneration
    lastDeviceGeneration := some sample.parts.devices.generation
    lastStartupPublication :=
      match sample.parts.startup with
      | none => s.lastStartupPublication
      | some startup => some startup.publication }

/-- A capture goes on. -/
def State.move (capture next : Capture) (s : State) : State :=
  { s with captures := next :: s.captures.erase capture }

/-- A capture returns. -/
def State.finish (capture : Capture) (snapshot : Option AppSnapshot) (s : State) : State :=
  { s with
    captures := s.captures.erase capture
    returned := {
      id := capture.id
      snapshot := snapshot
      began := capture.began
      instant := capture.instant
      ended := s.owners } :: s.returned }

/-- The next of three attempts. Source: `CaptureSnapshot` (`AppControllerUseCases.cpp:124`). -/
def retry (capture : Capture) (s : State) : State :=
  if capture.attempt + 1 < 3 then
    s.move capture { capture with attempt := capture.attempt + 1, point := .settings }
  else s.finish capture none

/-- The next step of a capture. Source: `CaptureSnapshot` (`AppControllerUseCases.cpp:123`). -/
def proceed (capture : Capture) (opened : Option Nat) (s : State) : State :=
  let goto (point : Point) := s.move capture { capture with point := point }
  match capture.point with
  | .settings => goto (.note s.owners.settings)
  | .note settings =>
    (noteSettings settings.revision s).move capture { capture with point := .devices settings }
  | .devices settings => goto (.startup settings s.owners.devices)
  | .startup settings devices =>
    s.move capture {
      capture with
      point := .generation ⟨settings, devices, s.owners.startup⟩
      instant := s.owners }
  | .generation parts =>
    if s.running then goto (.picker ⟨parts, s.generation, s.pickerGeneration⟩)
    else s.finish capture none
  | .picker sample =>
    goto (.recheckSettings
      { sample with pickerGeneration := max sample.pickerGeneration (opened.getD 0) })
  | .recheckSettings sample =>
    if s.owners.settings.revision ≠ sample.parts.settings.revision then retry capture s
    else goto (.recheckDevices sample)
  | .recheckDevices sample =>
    if s.owners.devices.generation ≠ sample.parts.devices.generation then retry capture s
    else goto (.recheckStartup sample)
  | .recheckStartup sample =>
    if sample.parts.startup.isSome ∧ s.owners.startup.map StartupTaskSnapshot.publication ≠
        sample.parts.startup.map StartupTaskSnapshot.publication then retry capture s
    else goto (.assign sample)
  | .assign sample =>
    if !s.running then s.finish capture none
    else if isOvertaken sample s then retry capture s
    else
      (assign sample s).finish capture (some {
        parts := sample.parts
        pickerGeneration := sample.pickerGeneration
        generation := assignedGeneration sample s })

/-! ## Events -/

/-- What happens to the owners and in the controller. -/
inductive Event
  /-- The owners have something newer. -/
  | owners (next : Parts)
  /-- A call of `CaptureSnapshot`, or of `Snapshot` (`AppControllerUseCases.cpp:105`), which returns
  nothing available if the controller is not running. -/
  | begin
  /-- A capture goes on; the presentation, if it is asked, has opened the picker in a generation. -/
  | proceed (capture : Capture) (opened : Option Nat)
  /-- A capture throws. -/
  | throw (capture : Capture)
  /-- Another call of `ReadSettings` (`AppControllerUseCases.cpp:864`): of the store, and then the
  critical section. -/
  | read
  | note (revision : Nat)
  /-- A presentation action, or another one that succeeds. Source: `PresentationResult`
  (`AppControllerUseCases.cpp:224`). -/
  | advance (opened : Option Nat)
  | requestStop
deriving DecidableEq

/-- The event can happen. -/
def Enabled (s : State) : Event → Prop
  | .owners next => s.owners.Upto next
  | .proceed capture _ | .throw capture => capture ∈ s.captures
  | .note revision => revision ∈ s.readers
  | _ => True

/-- A call of `Snapshot`. Source: `Snapshot` (`AppControllerUseCases.cpp:105`). -/
def begin (s : State) : State :=
  let capture : Capture := { id := s.nextCapture, began := s.owners, instant := s.owners }
  if s.running then
    { s with
      captures := capture :: s.captures
      nextCapture := s.nextCapture + 1 }
  else { s.finish capture none with nextCapture := s.nextCapture + 1 }

/-- Source: `PresentationResult` (`AppControllerUseCases.cpp:224`). -/
def advance (opened : Option Nat) (s : State) : State :=
  { s with
    pickerGeneration := max s.pickerGeneration (opened.getD 0)
    generation := advanceGeneration s.generation }

/-- The first part of `RequestStop` (`AppController.cpp:290`). -/
def requestStop (s : State) : State :=
  if s.running then
    { s with
      running := false
      generation := advanceGeneration s.generation }
  else s

/-- The state after an event. -/
def step (s : State) : Event → State
  | .owners next => { s with owners := next, history := next :: s.history }
  | .begin => begin s
  | .proceed capture opened => proceed capture opened s
  | .throw capture => s.finish capture none
  | .read => { s with readers := s.owners.settings.revision :: s.readers }
  | .note revision => { noteSettings revision s with readers := s.readers.erase revision }
  | .advance opened => advance opened s
  | .requestStop => requestStop s

end AppController

/-- The captures of a controller, from its construction on. -/
def snapshotCaptures : EventSystem AppController.State AppController.Event where
  enabled := AppController.Enabled
  step := AppController.step

namespace AppController

variable {s : State} {capture : Capture} {sample : Sample} {x y : AppSnapshot} {a b c : Parts}

/-! ## What the owners held -/

theorem Parts.Upto.refl (a : Parts) : a.Upto a := ⟨.refl _, .refl _, .refl _⟩

theorem Parts.Upto.trans (h : a.Upto b) (h' : b.Upto c) : a.Upto c :=
  ⟨h.settings.trans h'.settings, h.devices.trans h'.devices, h.startup.trans h'.startup⟩

/-- What a capture has read, in terms of what the owners held when it asked for the startup task. -/
structure Read (parts instant : Parts) : Prop where
  settings : Upto CommittedSettings.revision parts.settings instant.settings
  devices : Upto DeviceServiceSnapshot.generation parts.devices instant.devices
  startup : parts.startup = instant.startup

/-- What a capture knows at a point. -/
def Found (owners instant : Parts) : Point → Prop
  | .settings => True
  | .note settings | .devices settings => Upto CommittedSettings.revision settings owners.settings
  | .startup settings devices => Upto CommittedSettings.revision settings owners.settings ∧
      Upto DeviceServiceSnapshot.generation devices owners.devices
  | .generation parts => Read parts instant
  | .picker sample | .recheckSettings sample => Read sample.parts instant
  | .recheckDevices sample => Read sample.parts instant ∧ sample.parts.settings = instant.settings
  | .recheckStartup sample | .assign sample => sample.parts = instant

/-- What holds of a capture. -/
structure Capture.Inv (capture : Capture) (s : State) : Prop where
  began : capture.began.Upto capture.instant
  instant : capture.instant ∈ s.history
  found : Found s.owners capture.instant capture.point

/-- The snapshot is what the owners held at one moment of its capture. -/
structure Returned.Coherent (call : Returned) (history : List Parts) : Prop where
  began : call.began.Upto call.instant
  ended : call.instant.Upto call.ended
  instant : call.instant ∈ history
  parts : ∀ snapshot ∈ call.snapshot, snapshot.parts = call.instant

/-- The snapshots that were returned, the latest first. -/
def State.snapshots (s : State) : List AppSnapshot := s.returned.filterMap Returned.snapshot

/-- The versions of a snapshot are those that were noted last. -/
structure Labelled (snapshot : AppSnapshot) (s : State) : Prop where
  settings : s.lastSettingsRevision = some snapshot.parts.settings.revision
  devices : s.lastDeviceGeneration = some snapshot.parts.devices.generation
  startup : ∀ startup ∈ snapshot.parts.startup, s.lastStartupPublication = some startup.publication

/-- A snapshot and a later one. -/
structure Earlier (x y : AppSnapshot) : Prop where
  le : x.generation ≤ y.generation
  versions : x.generation = y.generation → x.generation < maxGeneration →
    x.parts.versions = y.parts.versions

/-- What holds between any two events. -/
structure Inv (s : State) : Prop where
  current : s.owners ∈ s.history
  history : ∀ parts ∈ s.history, parts.Upto s.owners
  captures : ∀ capture ∈ s.captures, capture.Inv s
  coherent : ∀ call ∈ s.returned, call.Coherent s.history
  labelled : ∀ x ∈ s.snapshots, x.generation ≤ s.generation ∧
    (x.generation = s.generation → x.generation < maxGeneration → Labelled x s)
  ordered : s.snapshots.Pairwise fun y x => Earlier x y

theorem inv_initial (owners : Parts) : Inv { owners := owners } where
  current := List.mem_singleton.2 rfl
  history := fun parts h => by
    obtain rfl := List.mem_singleton.1 h
    exact Parts.Upto.refl parts
  captures := fun _ h => absurd h List.not_mem_nil
  coherent := fun _ h => absurd h List.not_mem_nil
  labelled := fun _ h => absurd h List.not_mem_nil
  ordered := .nil

/-! ## What is noted -/

theorem le_advanceGeneration (generation : Nat) : generation ≤ advanceGeneration generation := by
  unfold advanceGeneration
  split
  · exact Nat.le_succ _
  · exact Nat.le_refl _

/-- Below its maximum the generation is advanced. -/
theorem lt_advanceGeneration {generation : Nat} (h : generation < maxGeneration) :
    generation < advanceGeneration generation := by
  rw [advanceGeneration, if_pos (Nat.ne_of_lt h)]
  exact Nat.lt_succ_self _

theorem le_noted (last : Option Nat) (version generation : Nat) :
    generation ≤ noted last version generation := by
  unfold noted
  split
  · exact le_advanceGeneration _
  · exact Nat.le_refl _

/-- If the generation is the same, so is the version. -/
theorem eq_of_noted {version v : Nat} (generation : Nat) (hlt : generation < maxGeneration)
    (hsame : noted (some v) version generation = generation) : v = version := by
  by_contra hne
  rw [noted, if_pos ⟨v, rfl, hne⟩] at hsame
  exact absurd (lt_advanceGeneration hlt) (by rw [hsame]; exact Nat.lt_irrefl _)

/-- Below its maximum the generation is advanced when another version is noted. -/
structure Noted (s t : State) : Prop where
  le : s.generation ≤ t.generation
  settings : s.generation = t.generation → s.generation < maxGeneration →
    ∀ v, s.lastSettingsRevision = some v → t.lastSettingsRevision = some v
  devices : s.generation = t.generation → s.generation < maxGeneration →
    ∀ v, s.lastDeviceGeneration = some v → t.lastDeviceGeneration = some v
  startup : s.generation = t.generation → s.generation < maxGeneration →
    ∀ v, s.lastStartupPublication = some v → t.lastStartupPublication = some v

theorem Noted.of_same {t : State} (hgeneration : t.generation = s.generation)
    (hsettings : t.lastSettingsRevision = s.lastSettingsRevision)
    (hdevices : t.lastDeviceGeneration = s.lastDeviceGeneration)
    (hstartup : t.lastStartupPublication = s.lastStartupPublication) : Noted s t :=
  ⟨Nat.le_of_eq hgeneration.symm, fun _ _ _ h => hsettings.trans h, fun _ _ _ h => hdevices.trans h,
    fun _ _ _ h => hstartup.trans h⟩

/-- Nothing is noted, or the generation is advanced. -/
theorem Noted.of_advance {t : State} (hle : s.generation ≤ t.generation)
    (hlt : s.generation < maxGeneration → s.generation < t.generation) : Noted s t :=
  ⟨hle, fun heq h => absurd heq (Nat.ne_of_lt (hlt h)),
    fun heq h => absurd heq (Nat.ne_of_lt (hlt h)), fun heq h => absurd heq (Nat.ne_of_lt (hlt h))⟩

theorem noted_noteSettings (revision : Nat) : Noted s (noteSettings revision s) := by
  unfold noteSettings
  split
  next hnone =>
    exact ⟨Nat.le_refl _, fun _ _ v h => by simp [hnone] at h, fun _ _ _ h => h, fun _ _ _ h => h⟩
  next last _ =>
    split
    · exact .of_advance (le_advanceGeneration _) lt_advanceGeneration
    · exact .of_same rfl rfl rfl rfl

theorem noted_requestStop : Noted s (requestStop s) := by
  unfold requestStop
  split
  · exact .of_advance (le_advanceGeneration _) lt_advanceGeneration
  · exact .of_same rfl rfl rfl rfl

/-- What has a label, keeps it. -/
theorem Labelled.noted {t : State} (hx : x.generation ≤ s.generation ∧
      (x.generation = s.generation → x.generation < maxGeneration → Labelled x s))
    (h : Noted s t) : x.generation ≤ t.generation ∧
      (x.generation = t.generation → x.generation < maxGeneration → Labelled x t) := by
  refine ⟨hx.1.trans h.le, fun hsame hlt => ?_⟩
  have hle := h.le
  have hlabelled := hx.2 (by omega) hlt
  have hst : s.generation = t.generation := by omega
  have hbelow : s.generation < maxGeneration := by omega
  exact ⟨h.settings hst hbelow _ hlabelled.settings, h.devices hst hbelow _ hlabelled.devices,
    fun startup hstartup => h.startup hst hbelow _ (hlabelled.startup startup hstartup)⟩

/-- Two snapshots with the noted versions have the same. -/
theorem Labelled.versions_eq (hx : Labelled x s) (hy : Labelled y s)
    (hstartup : x.parts.startup.isSome = y.parts.startup.isSome) :
    x.parts.versions = y.parts.versions := by
  have hsettings : x.parts.settings.revision = y.parts.settings.revision :=
    Option.some.inj (hx.settings.symm.trans hy.settings)
  have hdevices : x.parts.devices.generation = y.parts.devices.generation :=
    Option.some.inj (hx.devices.symm.trans hy.devices)
  have hpublication : x.parts.startup.map StartupTaskSnapshot.publication =
      y.parts.startup.map StartupTaskSnapshot.publication := by
    cases hxs : x.parts.startup with
    | none =>
      rw [hxs] at hstartup
      rw [Option.isNone_iff_eq_none.1 (Option.isSome_eq_false_iff.1 hstartup.symm)]
    | some startup =>
      obtain ⟨startup', hys⟩ := Option.isSome_iff_exists.1 (hstartup.symm.trans (by rw [hxs]; rfl))
      rw [hys]
      exact (hx.startup startup hxs).symm.trans (hy.startup startup' hys)
  simp only [Parts.versions, hsettings, hdevices, hpublication]

/-- The second critical section notes the versions of the snapshot. -/
theorem noted_assign : Noted s (assign sample s) := by
  obtain ⟨generation, hgeneration, hdevices⟩ : ∃ generation, generation =
      noted s.lastDeviceGeneration sample.parts.devices.generation s.generation ∧
      s.generation ≤ generation := ⟨_, rfl, le_noted _ _ _⟩
  obtain ⟨generation', hgeneration', hle⟩ : ∃ generation', generation' =
      (match sample.parts.startup with
      | none => generation
      | some startup => noted s.lastStartupPublication startup.publication generation) ∧
      generation ≤ generation' := by
    refine ⟨_, rfl, ?_⟩
    cases sample.parts.startup with
    | none => exact Nat.le_refl _
    | some startup => exact le_noted _ _ _
  have hassigned : (assign sample s).generation = if s.pickerGeneration < sample.pickerGeneration
      then advanceGeneration generation' else generation' := by
    rw [hgeneration', hgeneration]
    rfl
  have hle' : generation' ≤ (assign sample s).generation := by
    rw [hassigned]
    split
    · exact le_advanceGeneration _
    · exact Nat.le_refl _
  refine ⟨by omega, fun _ _ _ h => h, fun hsame hlt v hlast => ?_, fun hsame hlt v hlast => ?_⟩
  · rw [hlast] at hgeneration
    exact congrArg some (eq_of_noted _ hlt (by omega)).symm
  · cases hstartup : sample.parts.startup with
    | none => simpa [assign, hstartup] using hlast
    | some startup =>
      simp only [hstartup, hlast] at hgeneration'
      have hsame' : v = startup.publication :=
        eq_of_noted generation (by omega) (by omega)
      simp [assign, hstartup, hsame']

/-- A snapshot that passed the second critical section has the noted versions. -/
theorem labelled_assign (h : ¬ isOvertaken sample s) (hx : x.parts = sample.parts) :
    Labelled x (assign sample s) := by
  simp only [isOvertaken, not_or, not_not] at h
  refine ⟨?_, ?_, fun startup hstartup => ?_⟩
  · rw [hx]
    exact h.2.1
  · rw [hx]
    rfl
  · rw [hx] at hstartup
    simp [assign, Option.mem_def.1 hstartup]

/-! ## The invariant -/

theorem Capture.Inv.of_upto {t : State} (h : capture.Inv s) (howners : s.owners.Upto t.owners)
    (hhistory : ∀ parts ∈ s.history, parts ∈ t.history) : capture.Inv t where
  began := h.began
  instant := hhistory _ h.instant
  found := by
    have hfound := h.found
    revert hfound
    cases capture.point with
    | note settings | devices settings => exact fun hfound => hfound.trans howners.settings
    | startup settings devices =>
      exact fun hfound => ⟨hfound.1.trans howners.settings, hfound.2.trans howners.devices⟩
    | _ => exact fun hfound => hfound

/-- The owners and the captures are the same. -/
structure SameCalls (s t : State) : Prop where
  owners : t.owners = s.owners
  history : t.history = s.history
  captures : t.captures = s.captures
  returned : t.returned = s.returned
  nextCapture : t.nextCapture = s.nextCapture

theorem SameCalls.refl (s : State) : SameCalls s s := ⟨rfl, rfl, rfl, rfl, rfl⟩

theorem noteSettings_sameCalls (revision : Nat) : SameCalls s (noteSettings revision s) := by
  unfold noteSettings
  split
  · exact ⟨rfl, rfl, rfl, rfl, rfl⟩
  · split <;> exact ⟨rfl, rfl, rfl, rfl, rfl⟩

theorem requestStop_sameCalls : SameCalls s (requestStop s) := by
  unfold requestStop
  split <;> exact ⟨rfl, rfl, rfl, rfl, rfl⟩

/-- What changes no owner and no capture, and notes versions. -/
theorem Inv.noted {t : State} (hs : Inv s) (h : Noted s t) (hsame : SameCalls s t) : Inv t where
  current := hsame.owners ▸ hsame.history ▸ hs.current
  history := by
    rw [hsame.owners, hsame.history]
    exact hs.history
  captures := by
    rw [hsame.captures]
    exact fun capture hmem => (hs.captures capture hmem).of_upto (hsame.owners ▸ .refl _)
      (hsame.history ▸ fun _ h => h)
  coherent := by
    rw [hsame.returned, hsame.history]
    exact hs.coherent
  labelled := by
    rw [State.snapshots, hsame.returned]
    exact fun x hx => Labelled.noted (hs.labelled x hx) h
  ordered := by
    rw [State.snapshots, hsame.returned]
    exact hs.ordered

/-- A capture begins or goes on. -/
theorem Inv.capturing (hs : Inv s) {captures : List Capture} {nextCapture : Nat}
    (h : ∀ capture ∈ captures, capture ∈ s.captures ∨ capture.Inv s) :
    Inv { s with captures := captures, nextCapture := nextCapture } where
  current := hs.current
  history := hs.history
  captures := fun capture hmem => by
    have hcapture : capture.Inv s := (h capture hmem).elim (hs.captures capture) id
    exact ⟨hcapture.began, hcapture.instant, hcapture.found⟩
  coherent := hs.coherent
  labelled := fun x hx => ⟨(hs.labelled x hx).1, fun hsame hlt =>
    ⟨((hs.labelled x hx).2 hsame hlt).settings, ((hs.labelled x hx).2 hsame hlt).devices,
      ((hs.labelled x hx).2 hsame hlt).startup⟩⟩
  ordered := hs.ordered

theorem Inv.move (hs : Inv s) {next : Capture} (h : next.Inv s) : Inv (s.move capture next) :=
  hs.capturing fun other hmem => by
    rcases List.mem_cons.1 hmem with rfl | hmem
    · exact .inr h
    · exact .inl (List.mem_of_mem_erase hmem)

/-- A capture returns nothing, or a snapshot with the noted versions. -/
theorem Inv.finish (hs : Inv s) (hcapture : capture.Inv s) {snapshot : Option AppSnapshot}
    (h : ∀ x ∈ snapshot, x.parts = capture.instant ∧ x.generation = s.generation ∧ Labelled x s) :
    Inv (s.finish capture snapshot) := by
  have hinstant := hs.history _ hcapture.instant
  have hcoherent : ∀ call ∈ (s.finish capture snapshot).returned, call.Coherent s.history := by
    intro call hmem
    rcases List.mem_cons.1 hmem with rfl | hmem
    · exact ⟨hcapture.began, hinstant, hcapture.instant, fun x hx => (h x hx).1⟩
    · exact hs.coherent call hmem
  have hlabelled : ∀ x ∈ (s.finish capture snapshot).snapshots, x.generation ≤ s.generation ∧
      (x.generation = s.generation → x.generation < maxGeneration → Labelled x s) := by
    intro x hx
    obtain ⟨call, hcall, hx⟩ := List.mem_filterMap.1 hx
    rcases List.mem_cons.1 hcall with rfl | hcall
    · obtain ⟨-, hgeneration, hlabelled⟩ := h x hx
      exact ⟨Nat.le_of_eq hgeneration, fun _ _ => hlabelled⟩
    · exact hs.labelled x (List.mem_filterMap.2 ⟨call, hcall, hx⟩)
  refine ⟨hs.current, hs.history, fun other hmem => ?_, hcoherent, fun x hx => ?_, ?_⟩
  · have hother := hs.captures other (List.mem_of_mem_erase hmem)
    exact ⟨hother.began, hother.instant, hother.found⟩
  · exact ⟨(hlabelled x hx).1, fun hsame hlt => ⟨((hlabelled x hx).2 hsame hlt).settings,
      ((hlabelled x hx).2 hsame hlt).devices, ((hlabelled x hx).2 hsame hlt).startup⟩⟩
  · cases snapshot with
    | none => exact hs.ordered
    | some x =>
      obtain ⟨hparts, hgeneration, hx⟩ := h x rfl
      refine List.pairwise_cons.2 ⟨fun y hy => ?_, hs.ordered⟩
      obtain ⟨hle, hy'⟩ := hs.labelled y hy
      refine ⟨by omega, fun hsame hlt => ?_⟩
      obtain ⟨call, hcall, hcalled⟩ := List.mem_filterMap.1 hy
      have hpast := hs.history _ (hs.coherent call hcall).instant
      rw [← (hs.coherent call hcall).parts y hcalled] at hpast
      exact (hy' (by omega) hlt).versions_eq hx
        (hpast.startup.isSome_eq.trans (hparts ▸ hinstant.startup.isSome_eq.symm))

theorem Inv.unavailable (hs : Inv s) (h : capture.Inv s) : Inv (s.finish capture none) :=
  hs.finish h fun _ hx => absurd hx (Option.not_mem_none _)

theorem Inv.retry (hs : Inv s) (h : capture.Inv s) : Inv (retry capture s) := by
  unfold AppController.retry
  split
  · exact hs.move ⟨h.began, h.instant, trivial⟩
  · exact hs.unavailable h

theorem Inv.noteSettings (hs : Inv s) (revision : Nat) : Inv (noteSettings revision s) :=
  hs.noted (noted_noteSettings revision) (noteSettings_sameCalls revision)

/-- A capture goes on. -/
theorem Inv.proceed (hs : Inv s) (hmem : capture ∈ s.captures) (opened : Option Nat) :
    Inv (proceed capture opened s) := by
  have h := hs.captures capture hmem
  have hfound := h.found
  have hinstant := hs.history _ h.instant
  unfold AppController.proceed
  cases hpoint : capture.point with
  | settings => exact hs.move ⟨h.began, h.instant, .refl _⟩
  | note settings =>
    rw [hpoint] at hfound
    have hsame := noteSettings_sameCalls (s := s) settings.revision
    refine (hs.noteSettings settings.revision).move ⟨h.began, hsame.history ▸ h.instant, ?_⟩
    rw [hsame.owners]
    exact hfound
  | devices settings =>
    rw [hpoint] at hfound
    exact hs.move ⟨h.began, h.instant, hfound, .refl _⟩
  | startup settings devices =>
    rw [hpoint] at hfound
    exact hs.move ⟨h.began.trans hinstant, hs.current, hfound.1, hfound.2, rfl⟩
  | generation parts =>
    rw [hpoint] at hfound
    dsimp only
    split
    · exact hs.move ⟨h.began, h.instant, hfound⟩
    · exact hs.unavailable h
  | picker sample =>
    rw [hpoint] at hfound
    exact hs.move ⟨h.began, h.instant, hfound⟩
  | recheckSettings sample =>
    rw [hpoint] at hfound
    dsimp only
    split
    · exact hs.retry h
    next hsame =>
      have heq := hfound.settings.between hinstant.settings (not_not.1 hsame)
      exact hs.move ⟨h.began, h.instant, hfound, heq.symm⟩
  | recheckDevices sample =>
    rw [hpoint] at hfound
    dsimp only
    split
    · exact hs.retry h
    next hsame =>
      have hdevices := hfound.1.devices.between hinstant.devices (not_not.1 hsame)
      have hparts : sample.parts = capture.instant :=
        Parts.ext hfound.2 hdevices.symm hfound.1.startup
      exact hs.move ⟨h.began, h.instant, hparts⟩
  | recheckStartup sample =>
    rw [hpoint] at hfound
    dsimp only
    split
    · exact hs.retry h
    · exact hs.move ⟨h.began, h.instant, hfound⟩
  | assign sample =>
    rw [hpoint] at hfound
    dsimp only
    split
    · exact hs.unavailable h
    · split
      · exact hs.retry h
      next hnot =>
        have hassigned : Inv (assign sample s) := hs.noted noted_assign ⟨rfl, rfl, rfl, rfl, rfl⟩
        refine hassigned.finish ⟨h.began, h.instant, h.found⟩ fun x hx => ?_
        obtain rfl := Option.some.inj hx
        exact ⟨hfound, rfl, labelled_assign hnot rfl⟩

theorem step_inv (s : State) (e : Event) (h : Enabled s e) (hs : Inv s) : Inv (step s e) := by
  cases e with
  | owners next =>
    have hpast : ∀ parts ∈ next :: s.history, parts.Upto next := by
      intro parts hmem
      rcases List.mem_cons.1 hmem with rfl | hmem
      · exact .refl _
      · exact (hs.history parts hmem).trans h
    refine ⟨List.mem_cons_self, hpast, fun capture hmem => ?_, fun call hmem => ?_,
      fun x hx => ?_, hs.ordered⟩
    · exact (hs.captures capture hmem).of_upto h fun _ => List.mem_cons_of_mem _
    · have hcall := hs.coherent call hmem
      exact ⟨hcall.began, hcall.ended, List.mem_cons_of_mem _ hcall.instant, hcall.parts⟩
    · exact ⟨(hs.labelled x hx).1, fun hsame hlt => ⟨((hs.labelled x hx).2 hsame hlt).settings,
        ((hs.labelled x hx).2 hsame hlt).devices, ((hs.labelled x hx).2 hsame hlt).startup⟩⟩
  | «begin» =>
    have hnew : Capture.Inv { id := s.nextCapture, began := s.owners, instant := s.owners } s :=
      ⟨.refl _, hs.current, trivial⟩
    dsimp only [step, AppController.begin]
    split
    · refine hs.capturing fun other hmem => ?_
      rcases List.mem_cons.1 hmem with rfl | hmem
      · exact .inr hnew
      · exact .inl hmem
    · exact (hs.unavailable hnew).capturing fun other hmem => .inl hmem
  | proceed capture opened => exact hs.proceed h opened
  | throw capture => exact hs.unavailable (hs.captures capture h)
  | read => exact hs.noted (.of_same rfl rfl rfl rfl) ⟨rfl, rfl, rfl, rfl, rfl⟩
  | note revision =>
    exact (hs.noteSettings revision).noted (.of_same rfl rfl rfl rfl) ⟨rfl, rfl, rfl, rfl, rfl⟩
  | advance opened =>
    exact hs.noted (.of_advance (le_advanceGeneration _) lt_advanceGeneration)
      ⟨rfl, rfl, rfl, rfl, rfl⟩
  | requestStop => exact hs.noted noted_requestStop requestStop_sameCalls

/-- Snapshots with the same generation have the same versions. -/
theorem Inv.versions_eq (hs : Inv s) : ∀ x ∈ s.snapshots, ∀ y ∈ s.snapshots,
    x.generation = y.generation → x.generation < maxGeneration →
      x.parts.versions = y.parts.versions := by
  let SameVersions (x y : AppSnapshot) : Prop := x.generation = y.generation →
    x.generation < maxGeneration → x.parts.versions = y.parts.versions
  have hsymm : Std.Symm SameVersions :=
    ⟨fun x y h hsame hlt => (h hsame.symm (hsame ▸ hlt)).symm⟩
  have hordered : s.snapshots.Pairwise SameVersions := by
    refine hs.ordered.imp ?_
    intro y x hearlier hsame hlt
    exact (hearlier.versions hsame.symm (hsame ▸ hlt)).symm
  exact fun x hx y hy => hordered.forall_of_forall (fun _ _ _ _ => rfl) hx hy

/-! ## What a step does to the captures -/

/-- A capture goes on, or it returns; besides, versions are noted. -/
def Goes (capture : Capture) (s t : State) : Prop :=
  ∃ noted, SameCalls s noted ∧
    ((∃ next : Capture, next.id = capture.id ∧ next.began = capture.began ∧
      t = noted.move capture next) ∨ ∃ snapshot, t = noted.finish capture snapshot)

theorem Goes.move {next : Capture} (hid : next.id = capture.id)
    (hbegan : next.began = capture.began) : Goes capture s (s.move capture next) :=
  ⟨s, .refl s, .inl ⟨next, hid, hbegan, rfl⟩⟩

theorem Goes.finish (snapshot : Option AppSnapshot) : Goes capture s (s.finish capture snapshot) :=
  ⟨s, .refl s, .inr ⟨snapshot, rfl⟩⟩

theorem Goes.retry : Goes capture s (retry capture s) := by
  unfold AppController.retry
  split
  · exact .move rfl rfl
  · exact .finish none

theorem Goes.proceed (opened : Option Nat) : Goes capture s (proceed capture opened s) := by
  unfold AppController.proceed
  cases capture.point with
  | settings | devices | startup | picker => exact .move rfl rfl
  | note settings =>
    exact ⟨_, noteSettings_sameCalls settings.revision, 
      .inl ⟨{ capture with point := .devices settings }, rfl, rfl, rfl⟩⟩
  | generation =>
    dsimp only
    split
    · exact .move rfl rfl
    · exact .finish none
  | recheckSettings | recheckDevices | recheckStartup =>
    dsimp only
    split
    · exact .retry
    · exact .move rfl rfl
  | assign sample =>
    dsimp only
    split
    · exact .finish none
    · split
      · exact .retry
      · exact ⟨assign sample s, ⟨rfl, rfl, rfl, rfl, rfl⟩, .inr ⟨_, rfl⟩⟩

/-- A call with this number began when the owners held these parts. -/
def Began (s : State) (id : Nat) (began : Parts) : Prop :=
  (∃ capture ∈ s.captures, capture.id = id ∧ capture.began = began) ∨
    ∃ call ∈ s.returned, call.id = id ∧ call.began = began

theorem SameCalls.began {t : State} (h : SameCalls s t) {id : Nat} {began : Parts} :
    Began t id began ↔ Began s id began := by
  rw [Began, Began, h.captures, h.returned]

theorem Goes.began {t : State} (h : Goes capture s t) (hmem : capture ∈ s.captures) {id : Nat}
    {began : Parts} (hbegan : Began t id began) : Began s id began := by
  obtain ⟨noted, hsame, ⟨next, hid, hparts, rfl⟩ | ⟨snapshot, rfl⟩⟩ := h
  · refine hsame.began.1 ?_
    rcases hbegan with ⟨other, hother, hcall⟩ | hreturned
    · rcases List.mem_cons.1 hother with rfl | hother
      · exact .inl ⟨capture, hsame.captures ▸ hmem, hid ▸ hparts ▸ hcall⟩
      · exact .inl ⟨other, List.mem_of_mem_erase hother, hcall⟩
    · exact .inr hreturned
  · refine hsame.began.1 ?_
    rcases hbegan with ⟨other, hother, hcall⟩ | ⟨call, hmem', hcall⟩
    · exact .inl ⟨other, List.mem_of_mem_erase hother, hcall⟩
    · rcases List.mem_cons.1 hmem' with rfl | hmem'
      · exact .inl ⟨capture, hsame.captures ▸ hmem, hcall⟩
      · exact .inr ⟨call, hmem', hcall⟩

theorem SameCalls.idle {t : State} (h : SameCalls s t) :
    t.owners = s.owners ∧ t.nextCapture = s.nextCapture := ⟨h.owners, h.nextCapture⟩

theorem Goes.idle {t : State} (h : Goes capture s t) :
    t.owners = s.owners ∧ t.nextCapture = s.nextCapture := by
  obtain ⟨noted, hsame, ⟨next, -, -, rfl⟩ | ⟨snapshot, rfl⟩⟩ := h
  · exact ⟨hsame.owners, hsame.nextCapture⟩
  · exact ⟨hsame.owners, hsame.nextCapture⟩

theorem began_begin {id : Nat} {began : Parts} (h : Began (begin s) id began) :
    Began s id began ∨ (id = s.nextCapture ∧ began = s.owners) := by
  unfold AppController.begin at h
  split at h
  · rcases h with ⟨other, hother, hsame⟩ | h
    · rcases List.mem_cons.1 hother with rfl | hother
      · exact .inr ⟨hsame.1.symm, hsame.2.symm⟩
      · exact .inl (.inl ⟨other, hother, hsame⟩)
    · exact .inl (.inr h)
  · rcases h with ⟨other, hother, hsame⟩ | ⟨call, hcall, hsame⟩
    · exact .inl (.inl ⟨other, List.mem_of_mem_erase hother, hsame⟩)
    · rcases List.mem_cons.1 hcall with rfl | hcall
      · exact .inr ⟨hsame.1.symm, hsame.2.symm⟩
      · exact .inl (.inr ⟨call, hcall, hsame⟩)

theorem begin_nextCapture : (begin s).nextCapture = s.nextCapture + 1 := by
  unfold AppController.begin
  split <;> rfl

theorem begin_owners : (begin s).owners = s.owners := by
  unfold AppController.begin
  split <;> rfl

/-- A step begins no capture, or one with the next number. -/
theorem began_step {e : Event} (henabled : Enabled s e) {id : Nat} {began : Parts}
    (h : Began (step s e) id began) :
    Began s id began ∨
      (id = s.nextCapture ∧ began = s.owners ∧ (step s e).nextCapture = s.nextCapture + 1) := by
  cases e with
  | «begin» =>
    exact (began_begin h).imp_right fun hnew => ⟨hnew.1, hnew.2, begin_nextCapture⟩
  | proceed capture opened => exact .inl ((Goes.proceed opened).began henabled h)
  | throw capture => exact .inl ((Goes.finish none).began henabled h)
  | note revision => exact .inl ((noteSettings_sameCalls revision).began.1 h)
  | requestStop => exact .inl (requestStop_sameCalls.began.1 h)
  | owners | read | advance => exact .inl h

/-- The owners come to something newer, and the numbers of the captures grow. -/
theorem step_upto {e : Event} (henabled : Enabled s e) :
    s.owners.Upto (step s e).owners ∧ s.nextCapture ≤ (step s e).nextCapture := by
  have hsame {t : State} (h : t.owners = s.owners ∧ t.nextCapture = s.nextCapture) :
      s.owners.Upto t.owners ∧ s.nextCapture ≤ t.nextCapture :=
    ⟨h.1 ▸ .refl _, Nat.le_of_eq h.2.symm⟩
  cases e with
  | owners next => exact ⟨henabled, Nat.le_refl _⟩
  | «begin» => exact ⟨begin_owners ▸ .refl _, begin_nextCapture ▸ Nat.le_succ _⟩
  | proceed capture opened => exact hsame (Goes.proceed opened).idle
  | throw capture => exact hsame ⟨rfl, rfl⟩
  | note revision => exact hsame (noteSettings_sameCalls revision).idle
  | requestStop => exact hsame requestStop_sameCalls.idle
  | read | advance => exact hsame ⟨rfl, rfl⟩

/-! ## In every run -/

theorem run_inv {owners : Parts} {events : List Event}
    (hrun : snapshotCaptures.Run { owners := owners } events) :
    Inv (snapshotCaptures.exec { owners := owners } events) :=
  EventSystem.Always.invariant step_inv hrun (inv_initial owners)

/-- The parts of a snapshot are what the owners held at one moment between the beginning and the end
of its capture. Two snapshots with the same generation have the same versions. Of two snapshots the
one that was returned later, as one is whose capture began after the other one's had returned, has
the same generation or a newer one, and a newer one if a version is different. -/
theorem snapshots_coherent {owners : Parts} (events : List Event)
    (hrun : snapshotCaptures.Run { owners := owners } events) :
    ∀ s, s = snapshotCaptures.exec { owners := owners } events →
      (∀ call ∈ s.returned, ∀ snapshot ∈ call.snapshot, ∃ instant ∈ s.history,
        call.began.Upto instant ∧ instant.Upto call.ended ∧ snapshot.parts = instant) ∧
      (∀ x ∈ s.snapshots, ∀ y ∈ s.snapshots, x.generation = y.generation →
        x.generation < maxGeneration → x.parts.versions = y.parts.versions) ∧
      s.snapshots.Pairwise fun later earlier => earlier.generation ≤ later.generation ∧
        (earlier.parts.versions ≠ later.parts.versions → later.generation < maxGeneration →
          earlier.generation < later.generation) := by
  rintro s rfl
  have hs := run_inv hrun
  refine ⟨fun call hcall snapshot hsnapshot => ?_, hs.versions_eq,
    hs.ordered.imp fun hearlier => ⟨hearlier.le, fun hne hlt => ?_⟩⟩
  · have hcoherent := hs.coherent call hcall
    exact ⟨call.instant, hcoherent.instant, hcoherent.began, hcoherent.ended,
      hcoherent.parts snapshot hsnapshot⟩
  · exact Nat.lt_of_le_of_ne hearlier.le fun heq => hne (hearlier.versions heq (heq ▸ hlt))

/-- What the owners hold at first. -/
def quietParts : Parts where
  settings := ⟨{}, 4⟩
  devices := ⟨7, true, false, false, ⟨1, true, []⟩, []⟩
  startup := some { publication := 2 }

/-- What they hold after a commit. -/
def committedParts : Parts := { quietParts with settings := ⟨{ startWithWindows := true }, 5⟩ }

/-- The steps of a capture that is not disturbed. -/
def undisturbed (id : Nat) (parts instant : Parts) (generation : Nat) : List Event :=
  let capture (point : Point) (instant : Parts) : Event := .proceed ⟨id, 0, point, parts, instant⟩ none
  let sample : Sample := ⟨parts, generation, 0⟩
  [capture .settings instant, capture (.note parts.settings) instant,
    capture (.devices parts.settings) instant, capture (.startup parts.settings parts.devices) instant,
    capture (.generation parts) parts, capture (.picker sample) parts,
    capture (.recheckSettings sample) parts, capture (.recheckDevices sample) parts,
    capture (.recheckStartup sample) parts, capture (.assign sample) parts]

/-- A commit between two captures gives the second snapshot a newer generation. -/
theorem snapshots_coherent_commit :
    let events := .begin :: undisturbed 0 quietParts quietParts 0 ++ .owners committedParts ::
      .begin :: undisturbed 1 committedParts committedParts 1
    let s := snapshotCaptures.exec { owners := quietParts } events
    s.snapshots = [⟨committedParts, 0, 1⟩, ⟨quietParts, 0, 0⟩] ∧
      s.snapshots.Pairwise fun later earlier => earlier.generation ≤ later.generation ∧
        (earlier.parts.versions ≠ later.parts.versions → later.generation < maxGeneration →
          earlier.generation < later.generation) := by
  intro events s
  have hrun : snapshotCaptures.Run { owners := quietParts } events := by
    refine ⟨trivial, .head _, .head _, .head _, .head _, .head _, .head _, .head _, .head _,
      .head _, .head _, ⟨.inl (by decide), .refl _, .refl _⟩, trivial, .head _, .head _, .head _,
      .head _, .head _, .head _, .head _, .head _, .head _, .head _, trivial⟩
  exact ⟨rfl, (snapshots_coherent events hrun s rfl).2.2⟩

end AppController

end PlaybackConnector
