import PlaybackConnector.App.AdaptiveResourcePolicy

/-!
# Resource pressure

The measurements of a probe and the values that are kept of them (`ResourcePressureState.cpp`).
Values that allow preloading do not constrain the background
(`isBackgroundConstrained_of_canPreload`).
-/

namespace PlaybackConnector

/-- Source: `MemoryPressureState` (`ResourcePressureState.hpp:11`). -/
inductive MemoryPressureState
  | unknown | low | neutral | high
deriving Repr, DecidableEq

/-- Source: `UserActivityState` (`ResourcePressureState.hpp:13`). -/
inductive UserActivityState
  | unknown | available | notPresent | busy | fullscreen | presentation | quietTime | immersiveApp
deriving Repr, DecidableEq

/-- Source: `ResourcePressureValues` (`ResourcePressureState.hpp:24`). -/
structure ResourcePressureValues where
  /-- Source: `Memory`. -/
  memory : MemoryPressureState := .unknown
  /-- Source: `UserActivity`. -/
  userActivity : UserActivityState := .unknown
  /-- Source: `EnergySaver`. -/
  energySaver : Option Bool := none
deriving Repr, DecidableEq

/-- Source: `ResourcePressureProbe` (`ResourcePressureState.hpp:36`). -/
structure ResourcePressureProbe where
  /-- Source: `LowMemorySignaled`. -/
  lowMemorySignaled : Option Bool := none
  /-- Source: `HighMemorySignaled`. -/
  highMemorySignaled : Option Bool := none
  /-- Source: `UserActivity`. -/
  userActivity : Option UserActivityState := none
  /-- Source: `EnergySaver`. -/
  energySaver : Option Bool := none
  /-- Source: `MemoryProbeAttempted`. -/
  memoryProbeAttempted : Bool := false
  /-- Source: `UserActivityProbeAttempted`. -/
  userActivityProbeAttempted : Bool := false
  /-- Source: `EnergySaverProbeAttempted`. -/
  energySaverProbeAttempted : Bool := false
deriving Repr, DecidableEq

namespace ResourcePressureValues

variable (values : ResourcePressureValues)

/-- Source: `IsMemoryPressure` (`ResourcePressureState.cpp:7`). -/
def isMemoryPressure : Bool := values.memory == .low

/-- Source: `HasReliableMemoryState` (`ResourcePressureState.cpp:11`). -/
def hasReliableMemoryState : Bool := values.memory != .unknown

/-- Source: `IsBackgroundConstrained` (`ResourcePressureState.cpp:15`). -/
def isBackgroundConstrained : Bool :=
  values.isMemoryPressure || !values.hasReliableMemoryState || values.energySaver.getD true ||
    values.userActivity == .unknown || values.userActivity == .notPresent ||
    values.userActivity == .busy || values.userActivity == .fullscreen ||
    values.userActivity == .presentation || values.userActivity == .immersiveApp

/-- Source: `CanPreload` (`ResourcePressureState.cpp:22`). -/
def canPreload : Bool :=
  values.memory == .high && values.energySaver == some false && values.userActivity == .available

/-- The memory after a probe. Source: `Apply` (`ResourcePressureState.cpp:31`). -/
def memoryAfter (probe : ResourcePressureProbe) : MemoryPressureState :=
  if probe.lowMemorySignaled = some true then .low
  else if probe.lowMemorySignaled.isSome ∧ probe.highMemorySignaled.isSome then
    if probe.highMemorySignaled = some true then .high else .neutral
  else if probe.lowMemorySignaled = some false ∨
      (probe.highMemorySignaled = some false ∧ values.memory ≠ .low) then .neutral
  else if (probe.memoryProbeAttempted ∨ probe.lowMemorySignaled.isSome ∨
      probe.highMemorySignaled.isSome) ∧ values.memory ≠ .low then .unknown
  else values.memory

/-- What was measured, else unknown if it was attempted, else what it was. -/
def measuredOr {α : Type} (measured : Option α) (attempted : Bool) (unknown current : α) : α :=
  measured.getD (if attempted then unknown else current)

/-- The values after a probe. Source: `Apply` (`ResourcePressureState.cpp:30`). -/
def apply (probe : ResourcePressureProbe) : ResourcePressureValues where
  memory := values.memoryAfter probe
  userActivity := measuredOr probe.userActivity probe.userActivityProbeAttempted .unknown
    values.userActivity
  energySaver := measuredOr (probe.energySaver.map some) probe.energySaverProbeAttempted none
    values.energySaver

variable {values}

/-- Where preloading is allowed the background is not constrained. -/
theorem isBackgroundConstrained_of_canPreload (h : values.canPreload = true) :
    values.isBackgroundConstrained = false := by
  obtain ⟨memory, userActivity, energySaver⟩ := values
  simp only [canPreload, Bool.and_eq_true, beq_iff_eq] at h
  obtain ⟨⟨rfl, rfl⟩, rfl⟩ := h
  rfl

end ResourcePressureValues

/-- Source: `IsResourcePressureSnapshotFresh` (`ResourcePressureState.cpp:60`). -/
def isResourcePressureSnapshotFresh (observedAt : Option TimePoint) (now : TimePoint)
    (maximumAge : Int) : Bool :=
  match observedAt with
  | none => false
  | some observedAt => decide (0 < maximumAge) && decide (observedAt ≤ now) &&
      decide (now - observedAt < AdaptiveResourcePolicy.ticks maximumAge)

/-- Source: `IsPositiveResourceAuthorizationCurrent` (`ResourcePressureState.cpp:67`). -/
def isPositiveResourceAuthorizationCurrent (appliedSequence latestConstrainedSequence : Nat) :
    Bool :=
  latestConstrainedSequence ≤ appliedSequence

end PlaybackConnector
