import PlaybackConnector.Transition.Timed
import Mathlib

/-!
# The adaptive resource policy

`AdaptiveResourcePolicy::Evaluate` (`AdaptiveResourcePolicy.cpp`): how much of the user interface is
kept resident, from what the system says at each evaluation and how long it has said so. The policy
notes the times since which there was pressure, there was none, and preloading was allowed; what
these marks stand for is `Observed`, and what a promotion rests on follows from it
(`background_residency_safe`).

Time points are nanoseconds of the steady clock and delays are milliseconds, both as integers whose
differences do not overflow.
-/

namespace PlaybackConnector

/-- Source: `ResidencyPolicy` (`AdaptiveResourcePolicy.hpp:11`). -/
inductive ResidencyPolicy
  | cold | warm | hot
deriving Repr, DecidableEq

/-- How much of the user interface is resident. -/
def ResidencyPolicy.rank : ResidencyPolicy → Nat
  | cold => 0
  | warm => 1
  | hot => 2

/-- Source: `AdaptiveResourceAction` (`AdaptiveResourcePolicy.hpp:13`). -/
inductive AdaptiveResourceAction
  | none | preloadUi | releaseUi
deriving Repr, DecidableEq

/-- Source: `AdaptiveResourcePolicyConfig` (`AdaptiveResourcePolicy.hpp:15`). -/
structure AdaptiveResourcePolicyConfig where
  backgroundPressureToColdDelay : Int := 5000
  coldToWarmDelay : Int := 45000
  warmToHotDelay : Int := 20000
  interactionHotHold : Int := 10000
deriving Repr, DecidableEq

/-- Source: `AdaptiveResourcePolicyInput` (`AdaptiveResourcePolicy.hpp:22`). -/
structure AdaptiveResourcePolicyInput where
  memoryPressure : Bool
  preloadAllowed : Bool
  fullscreenOrPresentation : Bool
  energySaver : Bool
  uiVisible : Bool
  userInteraction : Bool
  uiResourcesLoaded : Bool
  uiResourcesInitialized : Bool
deriving Repr, DecidableEq

/-- Source: `AdaptiveResourcePolicy::TimePoint` (`AdaptiveResourcePolicy.hpp:45`). -/
abbrev TimePoint := Int

/-- `TimePoint::max()`. -/
def TimePoint.max : TimePoint := 2 ^ 63 - 1

/-- Source: `AdaptiveResourcePolicyDecision` (`AdaptiveResourcePolicy.hpp:33`). -/
structure AdaptiveResourcePolicyDecision where
  residency : ResidencyPolicy
  backgroundResidency : ResidencyPolicy
  action : AdaptiveResourceAction
  residencyChanged : Bool
  backgroundResidencyChanged : Bool
  reevaluateAt : Option TimePoint
deriving Repr, DecidableEq

/-- Source: the data members of `AdaptiveResourcePolicy` (`AdaptiveResourcePolicy.hpp:59`). -/
structure AdaptiveResourcePolicy where
  config : AdaptiveResourcePolicyConfig
  backgroundResidency : ResidencyPolicy
  effectiveResidency : ResidencyPolicy
  pressureSince : Option TimePoint
  healthySince : Option TimePoint
  preloadAllowedSince : Option TimePoint
  interactionUntil : Option TimePoint
  lastEvaluation : Option TimePoint
deriving Repr, DecidableEq

namespace AdaptiveResourcePolicy

/-! ## Times -/

/-- Source: `NonNegative` (`AdaptiveResourcePolicy.cpp:6`). -/
def nonNegative (value : Int) : Int := max value 0

/-- The delay in nanoseconds. -/
def ticks (duration : Int) : Int := duration * 1000000

/-- Source: `ElapsedAtLeast` (`AdaptiveResourcePolicy.cpp:10`). -/
def elapsedAtLeast (now since : TimePoint) (duration : Int) : Bool :=
  duration ≤ 0 || ticks duration ≤ now - since

/-- Source: `SaturatingAdd` (`AdaptiveResourcePolicy.cpp:16`). -/
def saturatingAdd (now : TimePoint) (duration : Int) : TimePoint :=
  if ticks duration ≥ TimePoint.max - now then TimePoint.max else now + ticks duration

/-! ## Evaluation -/

/-- A new policy. Source: the constructor (`AdaptiveResourcePolicy.cpp:30`). -/
def create (config : AdaptiveResourcePolicyConfig) (initialResidency : ResidencyPolicy) :
    AdaptiveResourcePolicy where
  config := {
    backgroundPressureToColdDelay := nonNegative config.backgroundPressureToColdDelay
    coldToWarmDelay := nonNegative config.coldToWarmDelay
    warmToHotDelay := nonNegative config.warmToHotDelay
    interactionHotHold := nonNegative config.interactionHotHold }
  backgroundResidency := initialResidency
  effectiveResidency := initialResidency
  pressureSince := none
  healthySince := none
  preloadAllowedSince := none
  interactionUntil := none
  lastEvaluation := none

/-- `pressureActive`. Source: `AdaptiveResourcePolicy.cpp:45`. -/
def pressureActive (input : AdaptiveResourcePolicyInput) : Bool :=
  input.memoryPressure || input.fullscreenOrPresentation || input.energySaver

/-- The clock went backward. Source: `AdaptiveResourcePolicy.cpp:46`. -/
def isRollback (now : TimePoint) (s : AdaptiveResourcePolicy) : Bool :=
  s.lastEvaluation.any (now < ·)

/-- The marks are taken back after a clock rollback. Source: `AdaptiveResourcePolicy.cpp:46`. -/
def observeClock (now : TimePoint) (s : AdaptiveResourcePolicy) : AdaptiveResourcePolicy :=
  let s :=
    if s.isRollback now then
      { s with
        pressureSince := none
        healthySince := none
        preloadAllowedSince := none
        interactionUntil := none }
    else s
  { s with lastEvaluation := some now }

/-- Source: `SetBackgroundResidency` (`AdaptiveResourcePolicy.cpp:97`). -/
def setBackgroundResidency (residency : ResidencyPolicy) (s : AdaptiveResourcePolicy) :
    AdaptiveResourcePolicy :=
  if s.backgroundResidency = residency then s
  else { s with backgroundResidency := residency, preloadAllowedSince := none }

/-- The marks of an evaluation under pressure. Source: `AdaptiveResourcePolicy.cpp:107`. -/
def markPressure (now : TimePoint) (s : AdaptiveResourcePolicy) : AdaptiveResourcePolicy :=
  { s with
    healthySince := none
    preloadAllowedSince := none
    pressureSince := some (s.pressureSince.getD now) }

/-- The marks of an evaluation without pressure. Source: `AdaptiveResourcePolicy.cpp:119`. -/
def markHealthy (now : TimePoint) (s : AdaptiveResourcePolicy) : AdaptiveResourcePolicy :=
  if s.pressureSince.isSome then
    { s with pressureSince := none, healthySince := some now, preloadAllowedSince := none }
  else { s with healthySince := some (s.healthySince.getD now) }

/-- Source: `UpdateBackgroundResidency` (`AdaptiveResourcePolicy.cpp:103`). -/
def updateBackgroundResidency (input : AdaptiveResourcePolicyInput) (now : TimePoint)
    (s : AdaptiveResourcePolicy) : AdaptiveResourcePolicy :=
  if pressureActive input then
    let since := s.pressureSince.getD now
    let s := s.markPressure now
    if input.memoryPressure || elapsedAtLeast now since s.config.backgroundPressureToColdDelay then
      s.setBackgroundResidency .cold
    else s
  else
    let s := s.markHealthy now
    match s.backgroundResidency with
    | .cold =>
      if elapsedAtLeast now (s.healthySince.getD now) s.config.coldToWarmDelay then
        let s := s.setBackgroundResidency .warm
        if input.preloadAllowed then { s with preloadAllowedSince := some now } else s
      else s
    | .hot =>
      if !input.preloadAllowed && (!input.uiResourcesLoaded || !input.uiResourcesInitialized) then
        s.setBackgroundResidency .warm
      else s
    | .warm =>
      if !input.preloadAllowed then { s with preloadAllowedSince := none }
      else
        let since := s.preloadAllowedSince.getD now
        let s := { s with preloadAllowedSince := some since }
        if elapsedAtLeast now since s.config.warmToHotDelay then s.setBackgroundResidency .hot else s

/-- The earlier of two candidates, neither of them before `now`. Source: `consider`
(`AdaptiveResourcePolicy.cpp:158`). -/
def consider (now candidate : TimePoint) (next : Option TimePoint) : Option TimePoint :=
  let candidate := max candidate now
  match next with
  | none => some candidate
  | some earliest => some (min candidate earliest)

/-- Source: `NextReevaluation` (`AdaptiveResourcePolicy.cpp:154`). -/
def nextReevaluation (input : AdaptiveResourcePolicyInput) (now : TimePoint)
    (foregroundDemand : Bool) (s : AdaptiveResourcePolicy) : Option TimePoint :=
  let transition : Option TimePoint :=
    if pressureActive input then
      if !input.memoryPressure && s.backgroundResidency ≠ .cold then
        s.pressureSince.map (saturatingAdd · s.config.backgroundPressureToColdDelay)
      else none
    else
      match s.backgroundResidency with
      | .cold => s.healthySince.map (saturatingAdd · s.config.coldToWarmDelay)
      | .warm =>
        if input.preloadAllowed then
          s.preloadAllowedSince.map (saturatingAdd · s.config.warmToHotDelay)
        else none
      | .hot => none
  let next := transition.bind (consider now · none)
  if foregroundDemand && !input.uiVisible && s.backgroundResidency ≠ .hot then
    match s.interactionUntil with
    | none => next
    | some heldUntil => consider now heldUntil next
  else next

/-- An interaction is held for a while. Source: `AdaptiveResourcePolicy.cpp:58`. -/
def holdInteraction (input : AdaptiveResourcePolicyInput) (now : TimePoint)
    (s : AdaptiveResourcePolicy) : AdaptiveResourcePolicy :=
  let interactionUntil :=
    if input.userInteraction then some (saturatingAdd now s.config.interactionHotHold)
    else s.interactionUntil
  { s with
    interactionUntil :=
      if input.userInteraction || interactionUntil.any (now < ·) then interactionUntil else none }

/-- `action`. Source: `AdaptiveResourcePolicy.cpp:71`. -/
def actionFor (input : AdaptiveResourcePolicyInput) (foregroundDemand : Bool)
    (effectiveResidency : ResidencyPolicy) : AdaptiveResourceAction :=
  if effectiveResidency = .hot ∧ (!input.uiResourcesLoaded ∨ !input.uiResourcesInitialized) then
    if foregroundDemand || (input.preloadAllowed && !pressureActive input) then .preloadUi
    else .none
  else if effectiveResidency ≠ .hot ∧ input.uiResourcesLoaded then .releaseUi
  else .none

/-- Source: `Evaluate` (`AdaptiveResourcePolicy.cpp:43`). -/
def evaluate (input : AdaptiveResourcePolicyInput) (now : TimePoint) (s : AdaptiveResourcePolicy) :
    AdaptiveResourcePolicy × AdaptiveResourcePolicyDecision :=
  let previous := s
  let s := ((s.observeClock now).updateBackgroundResidency input now).holdInteraction input now
  let interactionHeld := input.userInteraction || s.interactionUntil.any (now < ·)
  let foregroundDemand := input.uiVisible || interactionHeld
  let effectiveResidency := if foregroundDemand then .hot else s.backgroundResidency
  let s := { s with effectiveResidency := effectiveResidency }
  (s,
    { residency := effectiveResidency
      backgroundResidency := s.backgroundResidency
      action := actionFor input foregroundDemand effectiveResidency
      residencyChanged := effectiveResidency ≠ previous.effectiveResidency
      backgroundResidencyChanged := s.backgroundResidency ≠ previous.backgroundResidency
      reevaluateAt := s.nextReevaluation input now foregroundDemand })

/-! ## Histories of evaluations -/

/-- A call of `Evaluate`. -/
structure Evaluation where
  input : AdaptiveResourcePolicyInput
  now : TimePoint
deriving Repr, DecidableEq

namespace Evaluation

/-- There was no pressure of any kind. -/
def Healthy (call : Evaluation) : Prop := pressureActive call.input = false

/-- Preloading was allowed, and there was no pressure of any kind. -/
def PreloadHealthy (call : Evaluation) : Prop :=
  call.input.preloadAllowed = true ∧ call.Healthy

instance (call : Evaluation) : Decidable call.Healthy := inferInstanceAs (Decidable (_ = _))

instance (call : Evaluation) : Decidable call.PreloadHealthy := inferInstanceAs (Decidable (_ ∧ _))

end Evaluation

/-- The policy after a history of evaluations, the latest first. -/
def after (config : AdaptiveResourcePolicyConfig) (initialResidency : ResidencyPolicy) :
    List Evaluation → AdaptiveResourcePolicy
  | [] => create config initialResidency
  | call :: earlier => ((after config initialResidency earlier).evaluate call.input call.now).1

/-- What the marks stand for: the times since which there was no pressure, and since which
preloading was allowed besides. The latter is noted while the policy is warm. -/
structure Observed (s : AdaptiveResourcePolicy) (history : List Evaluation) : Prop where
  last : s.lastEvaluation = history.head?.map Evaluation.now
  healthy : ∀ since, s.healthySince = some since →
    HeldSince Evaluation.now Evaluation.Healthy history since
  preload : ∀ since, s.preloadAllowedSince = some since →
    HeldSince Evaluation.now Evaluation.PreloadHealthy history since
  warm : s.preloadAllowedSince ≠ none → s.backgroundResidency = .warm

/-- A time since which something held is known as an evaluation at `now` begins: it did hold, and
`now` is not before the last evaluation. -/
def Mark (P : Evaluation → Prop) (history : List Evaluation) (now : TimePoint)
    (mark : Option TimePoint) : Prop :=
  ∀ since, mark = some since → HeldSince Evaluation.now P history since ∧
    ∀ last, history.head? = some last → last.now ≤ now

section
variable {P : Evaluation → Prop} {history : List Evaluation} {call : Evaluation}
  {config : AdaptiveResourcePolicyConfig} {initialResidency residency : ResidencyPolicy}
  {s : AdaptiveResourcePolicy} {noted : Option TimePoint}

/-- The mark that an evaluation keeps or sets. -/
theorem Mark.keep (hmark : Mark P history call.now noted) (h : P call) :
    HeldSince Evaluation.now P (call :: history) (noted.getD call.now) := by
  cases noted with
  | none => exact .begin h
  | some since =>
    obtain ⟨hheld, hle⟩ := hmark since rfl
    exact hheld.extend h hle

/-- The delay is over. -/
theorem le_of_elapsedAtLeast {now since : TimePoint} {duration : Int} (hpos : 0 < duration)
    (h : elapsedAtLeast now since duration = true) : ticks duration ≤ now - since := by
  simp only [elapsedAtLeast, Bool.or_eq_true, decide_eq_true_eq] at h
  exact h.resolve_left (by omega)

/-- The marks, the clock having been observed. -/
structure Marked (s : AdaptiveResourcePolicy) (history : List Evaluation) (now : TimePoint) :
    Prop where
  healthy : Mark Evaluation.Healthy history now s.healthySince
  preload : Mark Evaluation.PreloadHealthy history now s.preloadAllowedSince
  warm : s.preloadAllowedSince ≠ none → s.backgroundResidency = .warm

theorem Observed.marked (hs : Observed s history) (now : TimePoint) :
    Marked (s.observeClock now) history now := by
  cases hroll : s.isRollback now with
  | true =>
    constructor
    · intro since hsince
      simp [observeClock, hroll] at hsince
    · intro since hsince
      simp [observeClock, hroll] at hsince
    · intro hsome
      simp [observeClock, hroll] at hsome
  | false =>
    have hle : ∀ last, history.head? = some last → last.now ≤ now := by
      intro last hlast
      simpa [isRollback, hs.last, hlast] using hroll
    constructor
    · intro since hsince
      exact ⟨hs.healthy since (by simpa [observeClock, hroll] using hsince), hle⟩
    · intro since hsince
      exact ⟨hs.preload since (by simpa [observeClock, hroll] using hsince), hle⟩
    · simpa [observeClock, hroll] using hs.warm

/-- An evaluation without pressure notes the time since which there was none. -/
theorem markHealthy_healthySince (hs : Marked s history call.now) (h : call.Healthy) :
    ∃ since, (s.markHealthy call.now).healthySince = some since ∧
      HeldSince Evaluation.now Evaluation.Healthy (call :: history) since := by
  cases hpressure : s.pressureSince with
  | some since => exact ⟨call.now, by simp [markHealthy, hpressure], .begin h⟩
  | none =>
    exact ⟨s.healthySince.getD call.now, by simp [markHealthy, hpressure], hs.healthy.keep h⟩

theorem markHealthy_preloadAllowedSince (hs : Marked s history call.now) :
    Mark Evaluation.PreloadHealthy history call.now
      (s.markHealthy call.now).preloadAllowedSince := by
  intro since hsince
  cases hpressure : s.pressureSince with
  | some _ => simp [markHealthy, hpressure] at hsince
  | none => exact hs.preload since (by simpa [markHealthy, hpressure] using hsince)

theorem markHealthy_warm (hs : Marked s history call.now)
    (hsome : (s.markHealthy call.now).preloadAllowedSince ≠ none) :
    s.backgroundResidency = .warm := by
  cases hpressure : s.pressureSince with
  | some _ => simp [markHealthy, hpressure] at hsome
  | none => exact hs.warm (by simpa [markHealthy, hpressure] using hsome)

@[simp] theorem markHealthy_backgroundResidency (now : TimePoint) :
    (s.markHealthy now).backgroundResidency = s.backgroundResidency := by
  unfold markHealthy
  split <;> rfl

@[simp] theorem markHealthy_config (now : TimePoint) :
    (s.markHealthy now).config = s.config := by
  unfold markHealthy
  split <;> rfl

@[simp] theorem setBackgroundResidency_backgroundResidency :
    (s.setBackgroundResidency residency).backgroundResidency = residency := by
  unfold setBackgroundResidency
  split <;> simp_all

@[simp] theorem setBackgroundResidency_healthySince :
    (s.setBackgroundResidency residency).healthySince = s.healthySince := by
  unfold setBackgroundResidency
  split <;> rfl

/-- A change of the residency forgets since when preloading was allowed. -/
theorem setBackgroundResidency_preloadAllowedSince (residency : ResidencyPolicy)
    (h : s.backgroundResidency ≠ residency) :
    (s.setBackgroundResidency residency).preloadAllowedSince = none := by
  simp [setBackgroundResidency, h]

/-- What an evaluation can do to the background residency, and what a promotion rests on. -/
inductive ResidencyMove (config : AdaptiveResourcePolicyConfig) (call : Evaluation)
    (history : List Evaluation) : ResidencyPolicy → ResidencyPolicy → Prop
  | keep (residency : ResidencyPolicy) (h : call.input.memoryPressure = false) :
    ResidencyMove config call history residency residency
  | pressure (residency : ResidencyPolicy) : ResidencyMove config call history residency .cold
  | release (h : call.input.memoryPressure = false) : ResidencyMove config call history .hot .warm
  | warmUp (h : call.input.memoryPressure = false) (since : TimePoint)
    (hheld : HeldSince Evaluation.now Evaluation.Healthy (call :: history) since)
    (hdelay : elapsedAtLeast call.now since config.coldToWarmDelay = true) :
    ResidencyMove config call history .cold .warm
  | heatUp (h : call.input.memoryPressure = false) (since : TimePoint)
    (hheld : HeldSince Evaluation.now Evaluation.PreloadHealthy (call :: history) since)
    (hdelay : elapsedAtLeast call.now since config.warmToHotDelay = true) :
    ResidencyMove config call history .warm .hot

/-- What an evaluation does: its move of the background residency, and what the marks that it
leaves stand for. -/
structure Updated (s : AdaptiveResourcePolicy) (call : Evaluation) (history : List Evaluation)
    (t : AdaptiveResourcePolicy) : Prop where
  move : ResidencyMove s.config call history s.backgroundResidency t.backgroundResidency
  healthy : ∀ since, t.healthySince = some since →
    HeldSince Evaluation.now Evaluation.Healthy (call :: history) since
  preload : ∀ since, t.preloadAllowedSince = some since →
    HeldSince Evaluation.now Evaluation.PreloadHealthy (call :: history) since
  warm : t.preloadAllowedSince ≠ none → t.backgroundResidency = .warm

theorem memoryPressure_of_healthy (h : call.Healthy) : call.input.memoryPressure = false := by
  simp only [Evaluation.Healthy, pressureActive, Bool.or_eq_false_iff] at h
  exact h.1.1

theorem updated_pressure (h : pressureActive call.input = true) :
    Updated s call history (s.updateBackgroundResidency call.input call.now) := by
  simp only [updateBackgroundResidency, if_pos h]
  split
  next =>
    have hnone : ((s.markPressure call.now).setBackgroundResidency .cold).preloadAllowedSince =
        none := by
      unfold setBackgroundResidency
      split <;> rfl
    constructor
    · rw [setBackgroundResidency_backgroundResidency]
      exact .pressure _
    · intro since hsince
      simp [markPressure] at hsince
    · intro since hsince
      simp [hnone] at hsince
    · exact fun hsome => absurd hnone hsome
  next hstay =>
    constructor
    · rw [Bool.or_eq_true, not_or, Bool.not_eq_true] at hstay
      exact .keep _ hstay.1
    · intro since hsince
      simp [markPressure] at hsince
    · intro since hsince
      simp [markPressure] at hsince
    · intro hsome
      simp [markPressure] at hsome

theorem updated_cold (hs : Marked s history call.now) (h : call.Healthy)
    (hcold : s.backgroundResidency = .cold) :
    Updated s call history (s.updateBackgroundResidency call.input call.now) := by
  have hmemory := memoryPressure_of_healthy h
  obtain ⟨since, hsince, hheld⟩ := markHealthy_healthySince hs h
  have hnone : (s.markHealthy call.now).preloadAllowedSince = none := by
    by_contra hsome
    simp [markHealthy_warm hs hsome] at hcold
  have hhealthy : ∀ noted, (s.markHealthy call.now).healthySince = some noted →
      HeldSince Evaluation.now Evaluation.Healthy (call :: history) noted := by
    intro noted hnoted
    obtain rfl := Option.some.inj (hsince.symm.trans hnoted)
    exact hheld
  have hupdate : s.updateBackgroundResidency call.input call.now =
      if elapsedAtLeast call.now since s.config.coldToWarmDelay then
        let t := (s.markHealthy call.now).setBackgroundResidency .warm
        if call.input.preloadAllowed then { t with preloadAllowedSince := some call.now } else t
      else s.markHealthy call.now := by
    have hpressure : pressureActive call.input = false := h
    simp [updateBackgroundResidency, hpressure, hcold, hsince]
  rw [hupdate]
  split
  next hdelay =>
    have hcleared := setBackgroundResidency_preloadAllowedSince .warm
      (s := s.markHealthy call.now) (by simp [hcold])
    have hmove : ResidencyMove s.config call history s.backgroundResidency .warm := by
      rw [hcold]
      exact .warmUp hmemory since hheld hdelay
    dsimp only
    split
    next hpreload =>
      refine ⟨by simpa using hmove, by simpa using hhealthy, ?_, by simp⟩
      intro noted hnoted
      obtain rfl := Option.some.inj hnoted
      exact .begin ⟨hpreload, h⟩
    next =>
      refine ⟨by simpa using hmove, by simpa using hhealthy, ?_, by simp⟩
      intro noted hnoted
      simp [hcleared] at hnoted
  next =>
    refine ⟨?_, hhealthy, ?_, fun hsome => absurd hnone hsome⟩
    · rw [markHealthy_backgroundResidency]
      exact .keep _ hmemory
    · intro noted hnoted
      simp [hnone] at hnoted

theorem updated_hot (hs : Marked s history call.now) (h : call.Healthy)
    (hhot : s.backgroundResidency = .hot) :
    Updated s call history (s.updateBackgroundResidency call.input call.now) := by
  have hmemory := memoryPressure_of_healthy h
  have hpressure : pressureActive call.input = false := h
  obtain ⟨since, hsince, hheld⟩ := markHealthy_healthySince hs h
  have hnone : (s.markHealthy call.now).preloadAllowedSince = none := by
    by_contra hsome
    simp [markHealthy_warm hs hsome] at hhot
  simp only [updateBackgroundResidency, hpressure, Bool.false_eq_true, if_false,
    markHealthy_backgroundResidency, hhot]
  split
  next =>
    have hcleared := setBackgroundResidency_preloadAllowedSince .warm
      (s := s.markHealthy call.now) (by simp [hhot])
    refine ⟨?_, ?_, ?_, fun hsome => absurd hcleared hsome⟩
    · rw [setBackgroundResidency_backgroundResidency, hhot]
      exact .release hmemory
    · intro noted hnoted
      rw [setBackgroundResidency_healthySince, hsince] at hnoted
      obtain rfl := Option.some.inj hnoted
      exact hheld
    · intro noted hnoted
      simp [hcleared] at hnoted
  next =>
    refine ⟨?_, ?_, ?_, fun hsome => absurd hnone hsome⟩
    · rw [markHealthy_backgroundResidency]
      exact .keep _ hmemory
    · intro noted hnoted
      rw [hsince] at hnoted
      obtain rfl := Option.some.inj hnoted
      exact hheld
    · intro noted hnoted
      simp [hnone] at hnoted

theorem updated_warm (hs : Marked s history call.now) (h : call.Healthy)
    (hwarm : s.backgroundResidency = .warm) :
    Updated s call history (s.updateBackgroundResidency call.input call.now) := by
  have hmemory := memoryPressure_of_healthy h
  have hpressure : pressureActive call.input = false := h
  obtain ⟨healthySince, hsince, hhealthy⟩ := markHealthy_healthySince hs h
  have hkept : ∀ noted, (s.markHealthy call.now).healthySince = some noted →
      HeldSince Evaluation.now Evaluation.Healthy (call :: history) noted := by
    intro noted hnoted
    rw [hsince] at hnoted
    obtain rfl := Option.some.inj hnoted
    exact hhealthy
  cases hpreload : call.input.preloadAllowed with
  | false =>
    have hupdate : s.updateBackgroundResidency call.input call.now =
        { s.markHealthy call.now with preloadAllowedSince := none } := by
      simp [updateBackgroundResidency, hpressure, hwarm, hpreload]
    rw [hupdate]
    refine ⟨?_, hkept, by simp, by simp⟩
    simpa using ResidencyMove.keep _ hmemory
  | true =>
    obtain ⟨since, hsince⟩ : ∃ since,
        since = (s.markHealthy call.now).preloadAllowedSince.getD call.now := ⟨_, rfl⟩
    have hheld := (markHealthy_preloadAllowedSince hs).keep ⟨hpreload, h⟩
    rw [← hsince] at hheld
    obtain ⟨t, ht⟩ : ∃ t, t = { s.markHealthy call.now with preloadAllowedSince := some since } :=
      ⟨_, rfl⟩
    have hresidency : t.backgroundResidency = .warm := by simp [ht, hwarm]
    have hupdate : s.updateBackgroundResidency call.input call.now =
        if elapsedAtLeast call.now since s.config.warmToHotDelay then
          t.setBackgroundResidency .hot
        else t := by
      simp [updateBackgroundResidency, hpressure, hwarm, hpreload, ht, hsince]
    have hkept : ∀ noted, t.healthySince = some noted →
        HeldSince Evaluation.now Evaluation.Healthy (call :: history) noted := by
      simpa [ht] using hkept
    rw [hupdate]
    split
    next hdelay =>
      have hcleared := setBackgroundResidency_preloadAllowedSince (s := t) .hot
        (by simp [hresidency])
      refine ⟨?_, ?_, ?_, fun hsome => absurd hcleared hsome⟩
      · rw [setBackgroundResidency_backgroundResidency, hwarm]
        exact .heatUp hmemory since hheld hdelay
      · rw [setBackgroundResidency_healthySince]
        exact hkept
      · intro noted hnoted
        simp [hcleared] at hnoted
    next =>
      refine ⟨?_, hkept, ?_, fun _ => hresidency⟩
      · rw [hresidency, hwarm]
        exact .keep _ hmemory
      · intro noted hnoted
        rw [ht] at hnoted
        obtain rfl := Option.some.inj hnoted
        exact hheld

/-- What an evaluation does to the background residency and to the marks. -/
theorem updated (hs : Marked s history call.now) :
    Updated s call history (s.updateBackgroundResidency call.input call.now) := by
  cases hpressure : pressureActive call.input with
  | true => exact updated_pressure hpressure
  | false =>
    cases hresidency : s.backgroundResidency with
    | cold => exact updated_cold hs hpressure hresidency
    | warm => exact updated_warm hs hpressure hresidency
    | hot => exact updated_hot hs hpressure hresidency

@[simp] theorem observeClock_backgroundResidency (now : TimePoint) :
    (s.observeClock now).backgroundResidency = s.backgroundResidency := by
  unfold observeClock
  split <;> rfl

@[simp] theorem observeClock_config (now : TimePoint) :
    (s.observeClock now).config = s.config := by
  unfold observeClock
  split <;> rfl

@[simp] theorem updateBackgroundResidency_kept (input : AdaptiveResourcePolicyInput)
    (now : TimePoint) :
    (s.updateBackgroundResidency input now).lastEvaluation = s.lastEvaluation ∧
      (s.updateBackgroundResidency input now).config = s.config := by
  unfold updateBackgroundResidency setBackgroundResidency markHealthy markPressure
  dsimp only
  repeat' split
  all_goals exact ⟨rfl, rfl⟩

theorem evaluate_updated (call : Evaluation) (hs : Observed s history) :
    Updated s call history (s.evaluate call.input call.now).1 := by
  obtain ⟨hmove, hhealthy, hpreload, hwarm⟩ := updated (hs.marked call.now)
  rw [observeClock_backgroundResidency, observeClock_config] at hmove
  exact ⟨hmove, hhealthy, hpreload, hwarm⟩

/-- An evaluation keeps what the marks stand for. -/
theorem Observed.evaluate (hs : Observed s history) :
    Observed (s.evaluate call.input call.now).1 (call :: history) := by
  obtain ⟨-, hhealthy, hpreload, hwarm⟩ := evaluate_updated call hs
  refine ⟨?_, hhealthy, hpreload, hwarm⟩
  exact (updateBackgroundResidency_kept call.input call.now).1

/-- After every history the marks stand for what was observed. -/
theorem observed_after : ∀ history : List Evaluation,
    Observed (after config initialResidency history) history
  | [] => by constructor <;> simp [after, create]
  | _ :: earlier => (observed_after earlier).evaluate

theorem config_after : ∀ history : List Evaluation,
    (after config initialResidency history).config = (create config initialResidency).config
  | [] => rfl
  | call :: earlier => by
    rw [← config_after earlier]
    exact (updateBackgroundResidency_kept call.input call.now).2.trans (observeClock_config _)

/-- Every evaluation of every history moves the background residency as it may. -/
theorem move_after : ResidencyMove (create config initialResidency).config call history
    (after config initialResidency history).backgroundResidency
    (after config initialResidency (call :: history)).backgroundResidency := by
  rw [← config_after history]
  exact (evaluate_updated call (observed_after history)).move

/-- A clock that went backward since the last evaluation has no positive delay behind it. -/
theorem ResidencyMove.rank_le {before now : ResidencyPolicy}
    (hmove : ResidencyMove config call history before now) (hcold : 0 < config.coldToWarmDelay)
    (hwarm : 0 < config.warmToHotDelay) (last : Evaluation) (hlast : history.head? = some last)
    (hback : call.now < last.now) : now.rank ≤ before.rank := by
  have hheld : ∀ {P : Evaluation → Prop} {since : TimePoint} {delay : Int}, 0 < delay →
      HeldSince Evaluation.now P (call :: history) since →
      elapsedAtLeast call.now since delay = false := by
    intro P since delay hpos hheld
    rcases hheld.now_or_last with rfl | ⟨other, hother, hle⟩
    · cases helapsed : elapsedAtLeast call.now call.now delay with
      | false => rfl
      | true =>
        have hticks := le_of_elapsedAtLeast hpos helapsed
        unfold ticks at hticks
        omega
    · rw [hlast] at hother
      obtain rfl := Option.some.inj hother
      exact absurd hback (not_lt.2 hle)
  cases hmove with
  | keep => exact Nat.le_refl _
  | pressure => exact Nat.zero_le _
  | release => decide
  | warmUp _ since hsince hdelay => simp [hheld hcold hsince] at hdelay
  | heatUp _ since hsince hdelay => simp [hheld hwarm hsince] at hdelay

end

/-- An evaluation that reports nothing but that preloading is allowed. -/
def Evaluation.healthyAt (now : TimePoint) : Evaluation where
  input := {
    memoryPressure := false
    preloadAllowed := true
    fullscreenOrPresentation := false
    energySaver := false
    uiVisible := false
    userInteraction := false
    uiResourcesLoaded := false
    uiResourcesInitialized := false }
  now := now

end AdaptiveResourcePolicy

end PlaybackConnector
