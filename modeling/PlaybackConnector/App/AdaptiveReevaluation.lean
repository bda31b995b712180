import PlaybackConnector.App.AdaptiveResourcePolicy
import Mathlib

/-!
# The time of the next evaluation

`AdaptiveResourcePolicyDecision::ReevaluateAt` (`AdaptiveResourcePolicy.cpp:154`). While the input
stays what it is, the marks that an evaluation leaves already say which residency is reached at
every later time (`residencyAt`). A further evaluation leaves that as it is unless it comes later
than the decision before it asked for (`Settled.residencyAt_evaluate`), so it does not matter how
often, and when, the policy is evaluated besides (`Schedule.residency_eq`).
-/

namespace PlaybackConnector

namespace AdaptiveResourcePolicy

/-! ## Times in range -/

/-- The time is not negative, and any of the delays after it is before the end of time. -/
structure Fits (config : AdaptiveResourcePolicyConfig) (now : Int) : Prop where
  nonneg : 0 ≤ now
  pressure : now + ticks config.backgroundPressureToColdDelay < TimePoint.max
  warmUp : now + ticks config.coldToWarmDelay < TimePoint.max
  heatUp : now + ticks config.warmToHotDelay < TimePoint.max
  hold : now + ticks config.interactionHotHold < TimePoint.max

/-- A mark is a time in range, and not later than `now`. -/
def Noted (config : AdaptiveResourcePolicyConfig) (now : Int) (mark : Option TimePoint) : Prop :=
  ∀ since : Int, mark = some since → Fits config since ∧ since ≤ now

/-- The marks are noted, and the delays are not negative. -/
structure InRange (now : Int) (s : AdaptiveResourcePolicy) : Prop where
  pressureSince : Noted s.config now s.pressureSince
  healthySince : Noted s.config now s.healthySince
  preloadAllowedSince : Noted s.config now s.preloadAllowedSince
  pressureDelay : 0 ≤ s.config.backgroundPressureToColdDelay
  coldDelay : 0 ≤ s.config.coldToWarmDelay
  warmDelay : 0 ≤ s.config.warmToHotDelay

variable {s : AdaptiveResourcePolicy} {input : AdaptiveResourcePolicyInput} {now since : Int}

theorem saturatingAdd_eq {delay : Int} (h : since + ticks delay < TimePoint.max) :
    saturatingAdd since delay = since + ticks delay :=
  if_neg fun hge : ticks delay ≥ (TimePoint.max - since : Int) => by
    have hmax : (TimePoint.max : Int) - since ≤ ticks delay := hge
    have hbefore : since + ticks delay < (TimePoint.max : Int) := h
    generalize (TimePoint.max : Int) = last at hmax hbefore
    omega

theorem elapsedAtLeast_iff {delay : Int} (hdelay : 0 ≤ delay) (hsince : since ≤ now) :
    elapsedAtLeast now since delay = true ↔ since + ticks delay ≤ now := by
  have hdef : elapsedAtLeast now since delay = true ↔ delay ≤ 0 ∨ ticks delay ≤ now - since := by
    simp only [elapsedAtLeast, Bool.or_eq_true, decide_eq_true_eq]
  rw [hdef, ticks]
  omega

/-! ## What the policy rests on -/

/-- When the background residency changes next. -/
def backgroundDue (input : AdaptiveResourcePolicyInput) (s : AdaptiveResourcePolicy) :
    Option Int :=
  if pressureActive input then
    if s.backgroundResidency = .cold then none
    else s.pressureSince.map (· + ticks s.config.backgroundPressureToColdDelay)
  else
    match s.backgroundResidency with
    | .cold => s.healthySince.map (· + ticks s.config.coldToWarmDelay)
    | .warm =>
      if input.preloadAllowed then
        s.preloadAllowedSince.map (· + ticks s.config.warmToHotDelay)
      else none
    | .hot => none

/-- What an evaluation at `now` leaves of the background residency and of the marks. -/
structure Rested (input : AdaptiveResourcePolicyInput) (now : Int) (s : AdaptiveResourcePolicy) :
    Prop where
  range : InRange now s
  /-- Under pressure only the time of its begin is noted, -/
  pressure : pressureActive input = true → s.pressureSince.isSome ∧ s.healthySince = none ∧
    s.preloadAllowedSince = none ∧ (input.memoryPressure = true → s.backgroundResidency = .cold)
  /-- and without pressure the time of its end, -/
  healthy : pressureActive input = false → s.pressureSince = none ∧ s.healthySince.isSome
  /-- and the time since which a warm policy may preload. -/
  warm : pressureActive input = false → s.backgroundResidency = .warm →
    s.preloadAllowedSince.isSome = input.preloadAllowed
  /-- A hot policy has what it keeps, or may preload it. -/
  hot : pressureActive input = false → s.backgroundResidency = .hot →
    input.preloadAllowed = true ∨ (input.uiResourcesLoaded && input.uiResourcesInitialized) = true
  /-- Nothing is overdue, -/
  due : ∀ due, backgroundDue input s = some due → now ≤ due
  /-- and nothing is due at once, but for a policy that has just become warm and need not wait. -/
  fresh : backgroundDue input s = some now → pressureActive input = false ∧
    s.backgroundResidency = .warm ∧ s.config.warmToHotDelay = 0

theorem Noted.mono {config : AdaptiveResourcePolicyConfig} {mark : Option TimePoint} {later : Int}
    (h : Noted config now mark) (hlater : now ≤ later) : Noted config later mark :=
  fun since hsince => ⟨(h since hsince).1, (h since hsince).2.trans hlater⟩

/-- A mark that is kept, or set now. -/
theorem Noted.keep {config : AdaptiveResourcePolicyConfig} {mark : Option TimePoint}
    (h : Noted config now mark) (hfits : Fits config now) :
    Fits config (mark.getD now) ∧ (mark.getD now : Int) ≤ now := by
  cases mark with
  | none => exact ⟨hfits, le_refl _⟩
  | some since => exact h since rfl

theorem noted_some {config : AdaptiveResourcePolicyConfig} (hfits : Fits config since)
    (hle : since ≤ now) : Noted config now (some since) := by
  rintro _ ⟨⟩
  exact ⟨hfits, hle⟩

theorem noted_none {config : AdaptiveResourcePolicyConfig} : Noted config now none := nofun

theorem InRange.markPressure (h : InRange now s) (hfits : Fits s.config now) :
    InRange now (s.markPressure now) where
  pressureSince := noted_some (h.pressureSince.keep hfits).1 (h.pressureSince.keep hfits).2
  healthySince := noted_none
  preloadAllowedSince := noted_none
  pressureDelay := h.pressureDelay
  coldDelay := h.coldDelay
  warmDelay := h.warmDelay

theorem InRange.markHealthy (h : InRange now s) (hfits : Fits s.config now) :
    InRange now (s.markHealthy now) := by
  unfold AdaptiveResourcePolicy.markHealthy
  split_ifs
  · exact ⟨noted_none, noted_some hfits (le_refl _), noted_none, h.pressureDelay, h.coldDelay,
      h.warmDelay⟩
  · have hkeep := h.healthySince.keep hfits
    exact ⟨h.pressureSince, noted_some hkeep.1 hkeep.2, h.preloadAllowedSince, h.pressureDelay,
      h.coldDelay, h.warmDelay⟩

theorem InRange.setBackgroundResidency (h : InRange now s) (residency : ResidencyPolicy) :
    InRange now (s.setBackgroundResidency residency) := by
  unfold AdaptiveResourcePolicy.setBackgroundResidency
  split_ifs
  · exact h
  · exact ⟨h.pressureSince, h.healthySince, noted_none, h.pressureDelay, h.coldDelay, h.warmDelay⟩

theorem InRange.notePreload (h : InRange now s) {mark : Option TimePoint}
    (hmark : Noted s.config now mark) : InRange now { s with preloadAllowedSince := mark } :=
  ⟨h.pressureSince, h.healthySince, hmark, h.pressureDelay, h.coldDelay, h.warmDelay⟩

theorem rested_pressure (h : InRange now s) (hfits : Fits s.config now)
    (hpressure : pressureActive input = true) :
    Rested input now (s.updateBackgroundResidency input now) := by
  have hmark := h.markPressure hfits
  have hkeep := h.pressureSince.keep hfits
  simp only [updateBackgroundResidency, if_pos hpressure]
  split_ifs with hcold
  · have hresidency : ((s.markPressure now).setBackgroundResidency .cold).backgroundResidency =
        .cold := setBackgroundResidency_backgroundResidency ..
    refine ⟨hmark.setBackgroundResidency .cold, fun _ => ⟨?_, ?_, ?_, fun _ => hresidency⟩, ?_, ?_,
      ?_, ?_, ?_⟩
    · unfold setBackgroundResidency
      split_ifs <;> rfl
    · unfold setBackgroundResidency
      split_ifs <;> rfl
    · unfold setBackgroundResidency
      split_ifs <;> rfl
    · simp [hpressure]
    · simp [hpressure]
    · simp [hpressure]
    · simp [backgroundDue, hpressure]
    · simp [backgroundDue, hpressure]
  · rw [Bool.or_eq_true, not_or, Bool.not_eq_true] at hcold
    obtain ⟨hmemory, hwait⟩ := hcold
    have hlate : ∀ due, backgroundDue input (s.markPressure now) = some due → now < due := by
      intro due hdue
      have hearly := mt (elapsedAtLeast_iff h.pressureDelay hkeep.2).2 hwait
      simp only [backgroundDue, hpressure, if_true] at hdue
      split_ifs at hdue
      obtain rfl := Option.some.inj hdue
      exact not_le.1 hearly
    refine ⟨hmark, fun _ => ⟨rfl, rfl, rfl, by simp [hmemory]⟩, ?_, ?_, ?_, fun due hdue => ?_,
      fun hdue => ?_⟩
    · simp [hpressure]
    · simp [hpressure]
    · simp [hpressure]
    · exact (hlate due hdue).le
    · exact absurd (hlate now hdue) (lt_irrefl now)

theorem markHealthy_marks (s : AdaptiveResourcePolicy) (now : Int) :
    (s.markHealthy now).pressureSince = none ∧ (s.markHealthy now).healthySince.isSome := by
  unfold markHealthy
  split_ifs with hpressed
  · exact ⟨rfl, rfl⟩
  · exact ⟨Option.not_isSome_iff_eq_none.1 hpressed, rfl⟩

theorem setBackgroundResidency_marks (residency : ResidencyPolicy) (s : AdaptiveResourcePolicy) :
    (s.setBackgroundResidency residency).pressureSince = s.pressureSince ∧
      (s.setBackgroundResidency residency).healthySince = s.healthySince ∧
      (s.setBackgroundResidency residency).config = s.config := by
  unfold setBackgroundResidency
  split_ifs <;> exact ⟨rfl, rfl, rfl⟩

/-- A policy that has become warm, in which preloading is noted from now on if it is allowed. -/
theorem rested_becomes_warm (h : InRange now s) (hfits : Fits s.config now)
    (hhealthy : pressureActive input = false)
    (hmarks : s.pressureSince = none ∧ s.healthySince.isSome)
    (hresidency : s.backgroundResidency = .warm) :
    Rested input now
      { s with preloadAllowedSince := if input.preloadAllowed then some now else none } := by
  have hticks : ∀ due, backgroundDue input { s with
      preloadAllowedSince := if input.preloadAllowed then some now else none } = some due →
      due = now + s.config.warmToHotDelay * 1000000 := by
    intro due hdue
    cases hpreload : input.preloadAllowed with
    | false => simp [backgroundDue, hhealthy, hresidency, hpreload] at hdue
    | true =>
      have hticks : now + ticks s.config.warmToHotDelay = due := by
        simpa [backgroundDue, hhealthy, hresidency, hpreload] using hdue
      exact hticks.symm
  have hdelay := h.warmDelay
  refine ⟨h.notePreload ?_, by simp [hhealthy], fun _ => hmarks, fun _ _ => ?_, ?_,
    fun due hdue => ?_, fun hdue => ⟨hhealthy, hresidency, ?_⟩⟩
  · split_ifs
    · exact noted_some hfits (le_refl _)
    · exact noted_none
  · cases input.preloadAllowed <;> rfl
  · intro _ hhot
    exact absurd (hresidency.symm.trans hhot) (by simp)
  · have hlast := hticks due hdue
    omega
  · have hlast := hticks now hdue
    show s.config.warmToHotDelay = 0
    omega

theorem rested_cold (h : InRange now s) (hfits : Fits s.config now)
    (hhealthy : pressureActive input = false) (hcold : s.backgroundResidency = .cold) :
    Rested input now (s.updateBackgroundResidency input now) := by
  have hmark := h.markHealthy hfits
  obtain ⟨hpressure, hsince⟩ := markHealthy_marks s now
  obtain ⟨since, hsince⟩ := Option.isSome_iff_exists.1 hsince
  obtain ⟨-, hle⟩ := hmark.healthySince since hsince
  have hconfig := markHealthy_config (s := s) now
  have hupdate : s.updateBackgroundResidency input now =
      if elapsedAtLeast now since s.config.coldToWarmDelay then
        { (s.markHealthy now).setBackgroundResidency .warm with
          preloadAllowedSince := if input.preloadAllowed then some now else none }
      else s.markHealthy now := by
    have hcleared := setBackgroundResidency_preloadAllowedSince (s := s.markHealthy now) .warm
      (by simp [hcold])
    simp only [updateBackgroundResidency, hhealthy, Bool.false_eq_true, if_false,
      markHealthy_backgroundResidency, hcold, hsince, Option.getD_some, hconfig]
    split_ifs
    · rfl
    · rw [← hcleared]
    · rfl
  by_cases helapsed : elapsedAtLeast now since s.config.coldToWarmDelay = true
  · rw [hupdate, if_pos helapsed]
    obtain ⟨hp, hs, hc⟩ := setBackgroundResidency_marks .warm (s.markHealthy now)
    refine rested_becomes_warm (hmark.setBackgroundResidency .warm) ?_ hhealthy ?_ ?_
    · rw [hc, hconfig]
      exact hfits
    · rw [hp, hs, hsince]
      exact ⟨hpressure, rfl⟩
    · exact setBackgroundResidency_backgroundResidency ..
  · rw [hupdate, if_neg helapsed]
    have hlate : ∀ due, backgroundDue input (s.markHealthy now) = some due → now < due := by
      intro due hdue
      have hearly := mt (elapsedAtLeast_iff h.coldDelay hle).2 helapsed
      have hticks : since + ticks s.config.coldToWarmDelay = due := by
        simpa [backgroundDue, hhealthy, hcold, hsince, hconfig] using hdue
      exact hticks ▸ not_le.1 hearly
    refine ⟨hmark, by simp [hhealthy], fun _ => ⟨hpressure, by simp [hsince]⟩, ?_, ?_,
      fun due hdue => (hlate due hdue).le, fun hdue => ?_⟩
    · simp [hcold]
    · simp [hcold]
    · exact absurd (hlate now hdue) (lt_irrefl now)

theorem rested_hot (h : InRange now s) (hfits : Fits s.config now)
    (hhealthy : pressureActive input = false) (hhot : s.backgroundResidency = .hot) :
    Rested input now (s.updateBackgroundResidency input now) := by
  have hmark := h.markHealthy hfits
  have hmarks := markHealthy_marks s now
  have hresidency : (s.markHealthy now).backgroundResidency = .hot :=
    (markHealthy_backgroundResidency ..).trans hhot
  simp only [updateBackgroundResidency, hhealthy, Bool.false_eq_true, if_false, hresidency]
  split_ifs with hrelease
  · obtain ⟨hp, hs, hc⟩ := setBackgroundResidency_marks .warm (s.markHealthy now)
    have hcleared := setBackgroundResidency_preloadAllowedSince (s := s.markHealthy now) .warm
      (by simp [hhot])
    have hpreload : input.preloadAllowed = false := by simp_all
    have hwarm := rested_becomes_warm (hmark.setBackgroundResidency .warm)
      (by rw [hc, markHealthy_config]; exact hfits) hhealthy (by rw [hp, hs]; exact hmarks)
      (setBackgroundResidency_backgroundResidency ..)
    rw [hpreload, if_neg (by simp), ← hcleared] at hwarm
    exact hwarm
  · refine ⟨hmark, by simp [hhealthy], fun _ => hmarks, ?_, fun _ _ => ?_, ?_, ?_⟩
    · simp [hhot]
    · cases hpreload : input.preloadAllowed <;> simp_all
    · simp [backgroundDue, hhealthy, hhot]
    · simp [backgroundDue, hhealthy, hhot]

theorem rested_warm (h : InRange now s) (hfits : Fits s.config now)
    (hhealthy : pressureActive input = false) (hwarm : s.backgroundResidency = .warm) :
    Rested input now (s.updateBackgroundResidency input now) := by
  have hmark := h.markHealthy hfits
  have hmarks := markHealthy_marks s now
  have hkeep := hmark.preloadAllowedSince.keep (by rw [markHealthy_config]; exact hfits)
  cases hpreload : input.preloadAllowed with
  | false =>
    have hupdate : s.updateBackgroundResidency input now =
        { s.markHealthy now with preloadAllowedSince := none } := by
      simp [updateBackgroundResidency, hhealthy, hwarm, hpreload]
    rw [hupdate]
    refine ⟨hmark.notePreload noted_none, by simp [hhealthy], fun _ => hmarks, ?_, ?_, ?_, ?_⟩
    · simp [hpreload]
    · simp [hwarm]
    · simp [backgroundDue, hhealthy, hwarm, hpreload]
    · simp [backgroundDue, hhealthy, hwarm, hpreload]
  | true =>
    have hnoted := hmark.notePreload (noted_some hkeep.1 hkeep.2)
    have hupdate : s.updateBackgroundResidency input now =
        if elapsedAtLeast now ((s.markHealthy now).preloadAllowedSince.getD now)
            s.config.warmToHotDelay then
          setBackgroundResidency .hot { s.markHealthy now with
            preloadAllowedSince := some ((s.markHealthy now).preloadAllowedSince.getD now) }
        else { s.markHealthy now with
          preloadAllowedSince := some ((s.markHealthy now).preloadAllowedSince.getD now) } := by
      simp [updateBackgroundResidency, hhealthy, hwarm, hpreload]
    by_cases helapsed : elapsedAtLeast now ((s.markHealthy now).preloadAllowedSince.getD now)
        s.config.warmToHotDelay = true
    · rw [hupdate, if_pos helapsed]
      obtain ⟨hp, hs, -⟩ := setBackgroundResidency_marks .hot { s.markHealthy now with
        preloadAllowedSince := some ((s.markHealthy now).preloadAllowedSince.getD now) }
      refine ⟨hnoted.setBackgroundResidency .hot, by simp [hhealthy], fun _ => ?_, ?_, ?_, ?_, ?_⟩
      · rw [hp, hs]
        exact hmarks
      · simp [setBackgroundResidency_backgroundResidency]
      · simp [hpreload]
      · simp [backgroundDue, hhealthy, setBackgroundResidency_backgroundResidency]
      · simp [backgroundDue, hhealthy, setBackgroundResidency_backgroundResidency]
    · rw [hupdate, if_neg helapsed]
      have hlate : ∀ due, backgroundDue input { s.markHealthy now with
          preloadAllowedSince := some ((s.markHealthy now).preloadAllowedSince.getD now) } =
            some due → now < due := by
        intro due hdue
        have hearly := mt (elapsedAtLeast_iff h.warmDelay hkeep.2).2 helapsed
        have hticks : (s.markHealthy now).preloadAllowedSince.getD now +
            ticks s.config.warmToHotDelay = due := by
          simpa [backgroundDue, hhealthy, hwarm, hpreload] using hdue
        exact hticks ▸ not_le.1 hearly
      refine ⟨hnoted, by simp [hhealthy], fun _ => hmarks, ?_, ?_,
        fun due hdue => (hlate due hdue).le, fun hdue => absurd (hlate now hdue) (lt_irrefl now)⟩
      · simp [hpreload]
      · simp [hwarm]

/-- What an evaluation leaves. -/
theorem rested_update (h : InRange now s) (hfits : Fits s.config now)
    (input : AdaptiveResourcePolicyInput) :
    Rested input now (s.updateBackgroundResidency input now) := by
  cases hpressure : pressureActive input with
  | true => exact rested_pressure h hfits hpressure
  | false =>
    cases hresidency : s.backgroundResidency with
    | cold => exact rested_cold h hfits hpressure hresidency
    | warm => exact rested_warm h hfits hpressure hresidency
    | hot => exact rested_hot h hfits hpressure hresidency

/-! ## From one due time to the next -/

/-- What an evaluation at `later` finds of the background residency. -/
def backgroundAt (input : AdaptiveResourcePolicyInput) (later : Int) (s : AdaptiveResourcePolicy) :
    ResidencyPolicy :=
  match backgroundDue input s with
  | none => s.backgroundResidency
  | some due =>
    if later < due then s.backgroundResidency
    else if pressureActive input then .cold
    else if s.backgroundResidency = .warm then .hot
    else if input.preloadAllowed ∧ due + ticks s.config.warmToHotDelay ≤ later then .hot
    else .warm

theorem backgroundAt_early {later : Int}
    (h : ∀ due, backgroundDue input s = some due → later < due) :
    backgroundAt input later s = s.backgroundResidency := by
  unfold backgroundAt
  cases hdue : backgroundDue input s with
  | none => rfl
  | some due => exact if_pos (h due hdue)

/-- A mark that is there is kept. -/
theorem some_getD {mark : Option TimePoint} (h : mark.isSome) (now : TimePoint) :
    some (mark.getD now) = mark := by
  obtain ⟨since, rfl⟩ := Option.isSome_iff_exists.1 h
  rfl

theorem Rested.markPressure (h : Rested input now s) (hpressure : pressureActive input = true)
    (later : Int) : s.markPressure later = s := by
  obtain ⟨hsince, hhealthy, hpreload, -⟩ := h.pressure hpressure
  rw [AdaptiveResourcePolicy.markPressure, some_getD hsince, ← hhealthy, hhealthy, ← hpreload]
  cases s
  simp_all

theorem Rested.markHealthy (h : Rested input now s) (hhealthy : pressureActive input = false)
    (later : Int) : s.markHealthy later = s := by
  obtain ⟨hpressure, hsince⟩ := h.healthy hhealthy
  rw [AdaptiveResourcePolicy.markHealthy, if_neg (by simp [hpressure]), some_getD hsince]

/-- Under pressure the policy becomes cold when it is due, or at once. -/
theorem Rested.under_pressure (h : Rested input now s) {later : Int} (hlater : now ≤ later)
    (hpressure : pressureActive input = true) :
    (s.backgroundResidency = .cold ∧ s.updateBackgroundResidency input later = s) ∨
      ∃ due, backgroundDue input s = some due ∧ s.backgroundResidency ≠ .cold ∧
        s.updateBackgroundResidency input later =
          if due ≤ later then s.setBackgroundResidency .cold else s := by
  obtain ⟨hsince, -, -, hmemory⟩ := h.pressure hpressure
  obtain ⟨since, hsince⟩ := Option.isSome_iff_exists.1 hsince
  obtain ⟨-, hle⟩ := h.range.pressureSince since hsince
  have hupdate : s.updateBackgroundResidency input later =
      if input.memoryPressure || elapsedAtLeast later since s.config.backgroundPressureToColdDelay
      then s.setBackgroundResidency .cold else s := by
    simp only [updateBackgroundResidency, hpressure, if_true, h.markPressure hpressure later,
      hsince, Option.getD_some]
  by_cases hcold : s.backgroundResidency = .cold
  · have hsame : s.setBackgroundResidency .cold = s := if_pos hcold
    refine .inl ⟨hcold, ?_⟩
    rw [hupdate, hsame, ite_self]
  · have hcalm : input.memoryPressure = false := by
      cases hthis : input.memoryPressure with
      | false => rfl
      | true => exact absurd (hmemory hthis) hcold
    refine .inr ⟨since + ticks s.config.backgroundPressureToColdDelay, ?_, hcold, ?_⟩
    · simp [backgroundDue, hpressure, hcold, hsince]
    · rw [hupdate, hcalm, Bool.false_or]
      exact if_congr (elapsedAtLeast_iff h.range.pressureDelay (hle.trans hlater)) rfl rfl

/-- Without pressure a cold policy becomes warm when it is due. -/
theorem Rested.cold (h : Rested input now s) {later : Int} (hlater : now ≤ later)
    (hhealthy : pressureActive input = false) (hcold : s.backgroundResidency = .cold) :
    ∃ due, backgroundDue input s = some due ∧ s.updateBackgroundResidency input later =
      if due ≤ later then
        { s with
          backgroundResidency := .warm
          preloadAllowedSince := if input.preloadAllowed then some (later : TimePoint) else none }
      else s := by
  obtain ⟨-, hsince⟩ := h.healthy hhealthy
  obtain ⟨since, hsince⟩ := Option.isSome_iff_exists.1 hsince
  obtain ⟨-, hle⟩ := h.range.healthySince since hsince
  refine ⟨since + ticks s.config.coldToWarmDelay, by simp [backgroundDue, hhealthy, hcold, hsince],
    ?_⟩
  have hset : s.setBackgroundResidency .warm =
      { s with backgroundResidency := .warm, preloadAllowedSince := none } :=
    if_neg (by simp [hcold])
  have hdue := elapsedAtLeast_iff h.range.coldDelay (hle.trans hlater)
  simp only [updateBackgroundResidency, hhealthy, Bool.false_eq_true, if_false,
    h.markHealthy hhealthy later, hcold, hsince, Option.getD_some, hset, hdue]
  cases input.preloadAllowed <;> rfl

/-- Without pressure a warm policy that may preload becomes hot when it is due. -/
theorem Rested.warmed (h : Rested input now s) {later : Int} (hlater : now ≤ later)
    (hhealthy : pressureActive input = false) (hwarm : s.backgroundResidency = .warm) :
    (input.preloadAllowed = false ∧ s.updateBackgroundResidency input later = s) ∨
      ∃ due, input.preloadAllowed = true ∧ backgroundDue input s = some due ∧
        s.updateBackgroundResidency input later =
          if due ≤ later then s.setBackgroundResidency .hot else s := by
  have hnoted := h.warm hhealthy hwarm
  cases hpreload : input.preloadAllowed with
  | false =>
    rw [hpreload, Bool.eq_false_iff, ne_eq, Option.not_isSome_iff_eq_none] at hnoted
    refine .inl ⟨rfl, ?_⟩
    have hupdate : s.updateBackgroundResidency input later =
        { s with preloadAllowedSince := none } := by
      simp [updateBackgroundResidency, hhealthy, h.markHealthy hhealthy later, hwarm, hpreload]
    rw [hupdate, ← hnoted]
  | true =>
    rw [hpreload] at hnoted
    obtain ⟨since, hsince⟩ := Option.isSome_iff_exists.1 hnoted
    obtain ⟨-, hle⟩ := h.range.preloadAllowedSince since hsince
    refine .inr ⟨since + ticks s.config.warmToHotDelay, rfl,
      by simp [backgroundDue, hhealthy, hwarm, hpreload, hsince], ?_⟩
    have hsame : { s with preloadAllowedSince := some since } = s := by rw [← hsince]
    have hupdate : s.updateBackgroundResidency input later =
        if elapsedAtLeast later since s.config.warmToHotDelay then s.setBackgroundResidency .hot
        else s := by
      simp only [updateBackgroundResidency, hhealthy, Bool.false_eq_true, if_false,
        h.markHealthy hhealthy later, hwarm, hpreload, Bool.not_true, hsince, Option.getD_some]
      rw [← hwarm, hsame]
    rw [hupdate]
    exact if_congr (elapsedAtLeast_iff h.range.warmDelay (hle.trans hlater)) rfl rfl

/-- Without pressure a hot policy stays hot. -/
theorem Rested.hotter (h : Rested input now s) (later : Int)
    (hhealthy : pressureActive input = false) (hhot : s.backgroundResidency = .hot) :
    s.updateBackgroundResidency input later = s := by
  have hkeep : (!input.preloadAllowed &&
      (!input.uiResourcesLoaded || !input.uiResourcesInitialized)) = false := by
    obtain hpreload | hloaded := h.hot hhealthy hhot
    · rw [hpreload]
      rfl
    · rw [Bool.and_eq_true] at hloaded
      simp [hloaded]
  simp only [updateBackgroundResidency, hhealthy, Bool.false_eq_true, if_false,
    h.markHealthy hhealthy later, hhot, hkeep]

/-- An evaluation before the due time changes nothing. -/
theorem Rested.early {later : Int} (h : Rested input now s) (hlater : now ≤ later)
    (hearly : ∀ due, backgroundDue input s = some due → later < due) :
    s.updateBackgroundResidency input later = s := by
  cases hpressure : pressureActive input with
  | true =>
    obtain ⟨-, hupdate⟩ | ⟨due, hdue, -, hupdate⟩ := h.under_pressure hlater hpressure
    · exact hupdate
    · rw [hupdate, if_neg (not_le.2 (hearly due hdue))]
  | false =>
    cases hresidency : s.backgroundResidency with
    | cold =>
      obtain ⟨due, hdue, hupdate⟩ := h.cold hlater hpressure hresidency
      rw [hupdate, if_neg (not_le.2 (hearly due hdue))]
    | warm =>
      obtain ⟨-, hupdate⟩ | ⟨due, -, hdue, hupdate⟩ := h.warmed hlater hpressure hresidency
      · exact hupdate
      · rw [hupdate, if_neg (not_le.2 (hearly due hdue))]
    | hot => exact h.hotter later hpressure hresidency

/-- How often the background residency can still change. -/
def changesLeft (input : AdaptiveResourcePolicyInput) : ResidencyPolicy → Nat
  | .cold => if pressureActive input then 0 else 2
  | .warm => 1
  | .hot => if pressureActive input then 1 else 0

/-- An evaluation at the due time changes the background residency, and what follows is what was to
be expected. -/
theorem Rested.on_time {due : Int} (h : Rested input now s)
    (hdue : backgroundDue input s = some due) :
    changesLeft input (s.updateBackgroundResidency input due).backgroundResidency <
        changesLeft input s.backgroundResidency ∧
      ∀ later, due ≤ later → backgroundAt input later (s.updateBackgroundResidency input due) =
        backgroundAt input later s := by
  have hlater := h.due due hdue
  cases hpressure : pressureActive input with
  | true =>
    obtain ⟨hcold, -⟩ | ⟨due', hdue', hcold, hupdate⟩ := h.under_pressure hlater hpressure
    · simp [backgroundDue, hpressure, hcold] at hdue
    · obtain rfl : due = due' := Option.some.inj (hdue.symm.trans hdue')
      rw [hupdate, if_pos (le_refl _)]
      refine ⟨?_, fun later hle => ?_⟩
      · rw [setBackgroundResidency_backgroundResidency]
        cases hresidency : s.backgroundResidency with
        | cold => exact absurd hresidency hcold
        | warm => simp [changesLeft, hpressure]
        | hot => simp [changesLeft, hpressure]
      have hnone : backgroundDue input (s.setBackgroundResidency .cold) = none := by
        simp [backgroundDue, hpressure]
      simp only [backgroundAt, hnone, hdue, setBackgroundResidency_backgroundResidency, hpressure,
        if_neg (not_lt.2 hle), if_true]
  | false =>
    cases hresidency : s.backgroundResidency with
    | cold =>
      obtain ⟨due', hdue', hupdate⟩ := h.cold hlater hpressure hresidency
      obtain rfl : due = due' := Option.some.inj (hdue.symm.trans hdue')
      rw [hupdate, if_pos (le_refl _)]
      refine ⟨by simp [changesLeft, hpressure], fun later hle => ?_⟩
      simp only [backgroundAt, hdue, if_neg (not_lt.2 hle), hpressure, hresidency]
      cases hpreload : input.preloadAllowed with
      | false => simp [backgroundDue, hpressure, hpreload]
      | true =>
        by_cases hhot : due + ticks s.config.warmToHotDelay ≤ later
        · simp [backgroundDue, hpressure, hpreload, hhot]
        · simp [backgroundDue, hpressure, hpreload, hhot]
    | warm =>
      obtain ⟨hpreload, -⟩ | ⟨due', -, hdue', hupdate⟩ := h.warmed hlater hpressure hresidency
      · simp [backgroundDue, hpressure, hresidency, hpreload] at hdue
      · obtain rfl : due = due' := Option.some.inj (hdue.symm.trans hdue')
        rw [hupdate, if_pos (le_refl _)]
        refine ⟨by simp [changesLeft, hpressure], fun later hle => ?_⟩
        have hnone : backgroundDue input (s.setBackgroundResidency .hot) = none := by
          simp [backgroundDue, hpressure]
        simp [backgroundAt, hnone, hdue, hpressure, hresidency, not_lt.2 hle]
    | hot => simp [backgroundDue, hpressure, hresidency] at hdue

/-! ## Evaluations -/

/-- The residency that an evaluation decides on, with the one in the background. -/
def residency (e : AdaptiveResourcePolicy × AdaptiveResourcePolicyDecision) :
    ResidencyPolicy × ResidencyPolicy :=
  (e.2.residency, e.2.backgroundResidency)

/-- The user interface is wanted at `later`, for what the user sees or has done. -/
def wantedAt (input : AdaptiveResourcePolicyInput) (later : Int) (s : AdaptiveResourcePolicy) :
    Bool :=
  input.uiVisible || s.interactionUntil.any (later < ·)

/-- When an interaction ends that keeps the user interface resident. -/
def interactionDue (input : AdaptiveResourcePolicyInput) (s : AdaptiveResourcePolicy) :
    Option TimePoint :=
  if input.uiVisible ∨ s.backgroundResidency = .hot then none else s.interactionUntil

/-- What an evaluation at `now` leaves, the decision included. -/
structure Settled (input : AdaptiveResourcePolicyInput) (now : Int)
    (e : AdaptiveResourcePolicy × AdaptiveResourcePolicyDecision) : Prop where
  rested : Rested input now e.1
  last : e.1.lastEvaluation = some now
  interaction : ∀ heldUntil : Int, e.1.interactionUntil = some heldUntil → now < heldUntil
  background : e.2.backgroundResidency = e.1.backgroundResidency
  foreground : e.2.residency =
    if wantedAt input now e.1 then .hot else e.1.backgroundResidency
  next : e.2.reevaluateAt = match backgroundDue input e.1, interactionDue input e.1 with
    | none, none => none
    | some due, none | none, some due => some due
    | some due, some heldUntil => some (min heldUntil due)

/-- The background residency and its marks are not about interactions and the clock. -/
theorem Rested.frame (h : Rested input now s) (effective : ResidencyPolicy)
    (held last : Option TimePoint) : Rested input now { s with
      effectiveResidency := effective
      interactionUntil := held
      lastEvaluation := last } :=
  ⟨⟨h.range.pressureSince, h.range.healthySince, h.range.preloadAllowedSince, h.range.pressureDelay,
    h.range.coldDelay, h.range.warmDelay⟩, h.pressure, h.healthy, h.warm, h.hot, h.due, h.fresh⟩

/-- A candidate that is the due time. -/
theorem Rested.consider_due (h : Rested input now s) {due : Int}
    (hdue : backgroundDue input s = some due) : consider now due none = backgroundDue input s := by
  rw [hdue]
  exact congrArg some (max_eq_left (h.due due hdue))

/-- What `NextReevaluation` considers of the background residency is when it changes. -/
theorem Rested.nextReevaluation_background (h : Rested input now s) :
    s.nextReevaluation input now false = backgroundDue input s := by
  cases hpressure : pressureActive input with
  | true =>
    obtain ⟨hsince, -, -, hmemory⟩ := h.pressure hpressure
    obtain ⟨since, hsince⟩ := Option.isSome_iff_exists.1 hsince
    have hfits := (h.range.pressureSince since hsince).1
    by_cases hcold : s.backgroundResidency = .cold
    · simp [nextReevaluation, backgroundDue, hpressure, hcold]
    · have hcalm : input.memoryPressure = false :=
        Bool.eq_false_iff.2 fun hthis => hcold (hmemory hthis)
      have hdue : backgroundDue input s =
          some (since + ticks s.config.backgroundPressureToColdDelay) := by
        simp [backgroundDue, hpressure, hcold, hsince]
      have hconsider := h.consider_due hdue
      simp [nextReevaluation, hpressure, hcalm, hcold, hsince, saturatingAdd_eq hfits.pressure,
        hconsider]
  | false =>
    cases hresidency : s.backgroundResidency with
    | cold =>
      obtain ⟨since, hsince⟩ := Option.isSome_iff_exists.1 (h.healthy hpressure).2
      have hfits := (h.range.healthySince since hsince).1
      have hdue : backgroundDue input s = some (since + ticks s.config.coldToWarmDelay) := by
        simp [backgroundDue, hpressure, hresidency, hsince]
      have hconsider := h.consider_due hdue
      simp [nextReevaluation, hpressure, hresidency, hsince, saturatingAdd_eq hfits.warmUp,
        hconsider]
    | warm =>
      have hnoted := h.warm hpressure hresidency
      cases hpreload : input.preloadAllowed with
      | false => simp [nextReevaluation, backgroundDue, hpressure, hresidency, hpreload]
      | true =>
        rw [hpreload] at hnoted
        obtain ⟨since, hsince⟩ := Option.isSome_iff_exists.1 hnoted
        have hfits := (h.range.preloadAllowedSince since hsince).1
        have hdue : backgroundDue input s = some (since + ticks s.config.warmToHotDelay) := by
          simp [backgroundDue, hpressure, hresidency, hpreload, hsince]
        have hconsider := h.consider_due hdue
        simp [nextReevaluation, hpressure, hresidency, hpreload, hsince,
          saturatingAdd_eq hfits.heatUp, hconsider]
    | hot => simp [nextReevaluation, backgroundDue, hpressure, hresidency]

/-- The end of an interaction is considered besides. -/
theorem nextReevaluation_eq (foregroundDemand : Bool) (s : AdaptiveResourcePolicy) :
    s.nextReevaluation input now foregroundDemand =
      if foregroundDemand && !input.uiVisible && s.backgroundResidency ≠ .hot then
        match s.interactionUntil with
        | none => s.nextReevaluation input now false
        | some heldUntil => consider now heldUntil (s.nextReevaluation input now false)
      else s.nextReevaluation input now false := by
  rfl

/-- The time of the next evaluation is the earlier one of both due times. -/
theorem Rested.nextReevaluation (h : Rested input now s)
    (hlate : ∀ heldUntil : Int, s.interactionUntil = some heldUntil → now < heldUntil) :
    s.nextReevaluation input now (wantedAt input now s) =
      match backgroundDue input s, interactionDue input s with
      | none, none => none
      | some due, none | none, some due => some due
      | some due, some heldUntil => some (min heldUntil due) := by
  rw [nextReevaluation_eq, h.nextReevaluation_background, wantedAt, interactionDue]
  cases hheld : s.interactionUntil with
  | none =>
    simp only [ite_self]
    cases backgroundDue input s <;> rfl
  | some heldUntil =>
    have hlt : now < heldUntil := hlate heldUntil hheld
    have hmax : max heldUntil now = heldUntil := max_eq_left hlt.le
    by_cases hthere : input.uiVisible = true ∨ s.backgroundResidency = .hot
    · rw [if_neg (by rcases hthere with hvisible | hhot <;> simp [*]), if_pos hthere]
      cases backgroundDue input s <;> rfl
    · rw [not_or, Bool.not_eq_true] at hthere
      rw [if_pos (by simp [hthere, hlt]), if_neg (by simp [hthere])]
      cases backgroundDue input s with
      | none => exact congrArg some hmax
      | some due => exact congrArg (fun candidate => some (min candidate due)) hmax

/-- An interaction that is over is forgotten. -/
theorem holdInteraction_eq (now : Int) (hinput : input.userInteraction = false) (s : AdaptiveResourcePolicy) :
    s.holdInteraction input now =
      { s with interactionUntil := s.interactionUntil.filter (now < ·) } := by
  unfold holdInteraction
  cases hheld : s.interactionUntil with
  | none => simp [hinput]
  | some heldUntil => by_cases hlt : now < heldUntil <;> simp [hinput, hlt, Option.filter]

/-- An evaluation without an interaction. -/
theorem evaluate_eq (hinput : input.userInteraction = false) (s t : AdaptiveResourcePolicy)
    (ht : t = (s.observeClock now).updateBackgroundResidency input now)
    {held : Option TimePoint} (hheld : held = t.interactionUntil.filter fun heldUntil =>
      now < heldUntil) :
    (s.evaluate input now).1 = { t with
      effectiveResidency :=
        if input.uiVisible || held.any (now < ·) then .hot else t.backgroundResidency
      interactionUntil := held } ∧
    (s.evaluate input now).2.residency =
      (if input.uiVisible || held.any (now < ·) then .hot else t.backgroundResidency) ∧
    (s.evaluate input now).2.backgroundResidency = t.backgroundResidency ∧
    (s.evaluate input now).2.reevaluateAt =
      (s.evaluate input now).1.nextReevaluation input now
        (input.uiVisible || held.any (now < ·)) := by
  have hhold := holdInteraction_eq now hinput t
  rw [← hheld, ht] at hhold
  simp only [evaluate, hhold, hinput, Bool.false_or, ht, and_self]

/-- An evaluation without an interaction settles. -/
theorem settled_evaluate (h : InRange now (s.observeClock now)) (hfits : Fits s.config now)
    (hinput : input.userInteraction = false) : Settled input now (s.evaluate input now) := by
  obtain ⟨t, ht⟩ : ∃ t, t = (s.observeClock now).updateBackgroundResidency input now := ⟨_, rfl⟩
  obtain ⟨held, hheld⟩ : ∃ held, held = t.interactionUntil.filter fun heldUntil =>
    now < heldUntil := ⟨_, rfl⟩
  obtain ⟨hstate, hresidency, hbackground, hnext⟩ := evaluate_eq hinput s t ht hheld
  have hrested : Rested input now t := by
    rw [ht]
    exact rested_update h (by rw [observeClock_config]; exact hfits) input
  have hlast : t.lastEvaluation = some (now : TimePoint) := by
    rw [ht, (updateBackgroundResidency_kept ..).1]
    rfl
  have hlate : ∀ heldUntil : Int, held = some heldUntil → now < heldUntil := by
    intro heldUntil hsome
    rw [hheld, Option.filter_eq_some_iff] at hsome
    simpa using hsome.2
  have hframe := hrested.frame
    (if input.uiVisible || held.any (now < ·) then .hot else t.backgroundResidency) held
    t.lastEvaluation
  rw [← hstate] at hframe
  refine ⟨hframe, by rw [hstate]; exact hlast, by rw [hstate]; exact hlate,
    by rw [hbackground, hstate], by rw [hresidency, hstate]; rfl, ?_⟩
  have hheld : (s.evaluate input now).1.interactionUntil = held := by rw [hstate]
  rw [← hheld] at hnext hlate
  exact hnext.trans (hframe.nextReevaluation hlate)

/-! ## One evaluation -/

variable {e : AdaptiveResourcePolicy × AdaptiveResourcePolicyDecision} {t : Int}

/-- Nothing is due at `later`, so far as the decision says. -/
def Before (later : Int) (e : AdaptiveResourcePolicy × AdaptiveResourcePolicyDecision) : Prop :=
  ∀ due : Int, e.2.reevaluateAt = some due → later < due

/-- The residency, with the one in the background, that the marks lead to at `later`. -/
def residencyAt (input : AdaptiveResourcePolicyInput) (later : Int) (s : AdaptiveResourcePolicy) :
    ResidencyPolicy × ResidencyPolicy :=
  (if wantedAt input later s then .hot else backgroundAt input later s,
    backgroundAt input later s)

theorem Settled.range_observeClock (h : Settled input now e) (hle : now ≤ t) :
    e.1.observeClock t = { e.1 with lastEvaluation := some t } ∧
      InRange t (e.1.observeClock t) := by
  have hclock : e.1.observeClock t = { e.1 with lastEvaluation := some (t : TimePoint) } := by
    rw [observeClock, if_neg]
    rw [isRollback, h.last]
    simpa using hle
  have hrange := h.rested.range
  rw [hclock]
  exact ⟨rfl, hrange.pressureSince.mono hle, hrange.healthySince.mono hle,
    hrange.preloadAllowedSince.mono hle, hrange.pressureDelay, hrange.coldDelay, hrange.warmDelay⟩

/-- The next evaluation is not later than either due time. -/
theorem Settled.due_le (h : Settled input now e) :
    (∀ due, backgroundDue input e.1 = some due → ∃ first : Int, e.2.reevaluateAt = some first ∧
      first ≤ due) ∧
    (∀ heldUntil : Int, interactionDue input e.1 = some heldUntil →
      ∃ first : Int, e.2.reevaluateAt = some first ∧ first ≤ heldUntil) := by
  have hnext := h.next
  refine ⟨fun due hdue => ?_, fun heldUntil hheld => ?_⟩
  · rw [hdue] at hnext
    cases hinteraction : interactionDue input e.1 with
    | none => exact ⟨due, by rw [hnext, hinteraction], le_refl _⟩
    | some heldUntil => exact ⟨min heldUntil due, by rw [hnext, hinteraction], min_le_right _ _⟩
  · rw [hheld] at hnext
    cases hbackground : backgroundDue input e.1 with
    | none => exact ⟨heldUntil, by rw [hnext, hbackground], le_refl _⟩
    | some due => exact ⟨min heldUntil due, by rw [hnext, hbackground], min_le_left _ _⟩

theorem updateBackgroundResidency_interactionUntil (input : AdaptiveResourcePolicyInput)
    (now : TimePoint) (s : AdaptiveResourcePolicy) :
    (s.updateBackgroundResidency input now).interactionUntil = s.interactionUntil := by
  unfold updateBackgroundResidency setBackgroundResidency AdaptiveResourcePolicy.markHealthy
    AdaptiveResourcePolicy.markPressure
  dsimp only
  repeat' split
  all_goals rfl

/-- What a further evaluation leaves, so far as a decision rests on it. -/
theorem Settled.evaluate (h : Settled input now e) (hle : now ≤ t) (hfits : Fits e.1.config t)
    (hinput : input.userInteraction = false) :
    Settled input t (e.1.evaluate input t) ∧
      (e.1.evaluate input t).1.interactionUntil = e.1.interactionUntil.filter (t < ·) ∧
      ∃ u, u = updateBackgroundResidency input t { e.1 with lastEvaluation := some t } ∧
        ∃ effective held last, (e.1.evaluate input t).1 = { u with
          effectiveResidency := effective
          interactionUntil := held
          lastEvaluation := last } := by
  obtain ⟨hclock, hrange⟩ := h.range_observeClock hle
  obtain ⟨hstate, -⟩ := evaluate_eq hinput e.1 _ rfl rfl
  refine ⟨settled_evaluate hrange hfits hinput, ?_, _, rfl, ?_⟩
  · rw [hstate, updateBackgroundResidency_interactionUntil, hclock]
  · rw [hstate, hclock]
    exact ⟨_, _, _, rfl⟩

/-- The residency at every later time stays what it was to be, unless the evaluation comes late. -/
theorem Settled.residencyAt_evaluate (h : Settled input now e) (hle : now ≤ t)
    (hfits : Fits e.1.config t) (hinput : input.userInteraction = false)
    (hdue : ∀ due : Int, e.2.reevaluateAt = some due → t ≤ due) {later : Int} (hlater : t ≤ later) :
    residencyAt input later (e.1.evaluate input t).1 = residencyAt input later e.1 := by
  obtain ⟨-, hheld, u, hu, effective, held, last, hstate⟩ := h.evaluate hle hfits hinput
  have hwanted : wantedAt input later (e.1.evaluate input t).1 = wantedAt input later e.1 := by
    rw [wantedAt, wantedAt, hheld]
    cases e.1.interactionUntil with
    | none => rfl
    | some heldUntil =>
      by_cases hlt : t < heldUntil
      · simp [Option.filter, hlt]
      · simp [Option.filter, hlt, not_lt.2 ((not_lt.1 hlt).trans hlater)]
  have hbackground : backgroundAt input later (e.1.evaluate input t).1 =
      backgroundAt input later e.1 := by
    have hrested := h.rested.frame e.1.effectiveResidency e.1.interactionUntil (some t)
    rw [hstate]
    show backgroundAt input later u = backgroundAt input later e.1
    by_cases hnow : backgroundDue input e.1 = some t
    · rw [hu]
      exact (hrested.on_time hnow).2 later hlater
    · rw [hu, hrested.early hle]
      · rfl
      · intro due hsome
        obtain ⟨first, hfirst, hle⟩ := h.due_le.1 due hsome
        refine lt_of_le_of_ne ((hdue first hfirst).trans hle) ?_
        rintro rfl
        exact hnow hsome
  rw [residencyAt, residencyAt, hwanted, hbackground]

/-- Until something is due the residency stays what was decided. -/
theorem Settled.residencyAt_before (h : Settled input now e) (hbefore : Before t e) :
    residencyAt input t e.1 = residency e := by
  have hbackground : backgroundAt input t e.1 = e.1.backgroundResidency := by
    refine backgroundAt_early fun due hdue => ?_
    obtain ⟨first, hfirst, hle⟩ := h.due_le.1 due hdue
    exact (hbefore first hfirst).trans_le hle
  rw [residencyAt, residency, hbackground, h.background, h.foreground]
  congr 1
  by_cases hthere : input.uiVisible = true ∨ e.1.backgroundResidency = .hot
  · obtain hvisible | hhot := hthere
    · simp [wantedAt, hvisible]
    · rw [hhot, ite_self, ite_self]
  · cases hheld : e.1.interactionUntil with
    | none => simp [wantedAt, hheld]
    | some heldUntil =>
      obtain ⟨first, hfirst, hle⟩ :=
        h.due_le.2 heldUntil (by rw [interactionDue, if_neg hthere, hheld])
      have hlate : t < heldUntil := (hbefore first hfirst).trans_le hle
      have hnow : now < heldUntil := h.interaction heldUntil hheld
      simp [wantedAt, hheld, hlate, hnow]

/-- An evaluation before anything is due changes neither the residency nor what is due. -/
theorem Settled.evaluate_before (h : Settled input now e) (hle : now ≤ t)
    (hfits : Fits e.1.config t) (hinput : input.userInteraction = false) (hbefore : Before t e) :
    residency (e.1.evaluate input t) = residency e ∧
      (e.1.evaluate input t).2.reevaluateAt = e.2.reevaluateAt := by
  obtain ⟨hsettled, hheld, u, hu, effective, held, last, hstate⟩ := h.evaluate hle hfits hinput
  have hearly := (h.rested.frame e.1.effectiveResidency e.1.interactionUntil (some t)).early hle
    fun due hdue => by
      obtain ⟨first, hfirst, hle⟩ := h.due_le.1 due hdue
      exact (hbefore first hfirst).trans_le hle
  rw [hu, hearly] at hstate
  have hbackground : backgroundDue input (e.1.evaluate input t).1 = backgroundDue input e.1 := by
    rw [hstate]
    rfl
  have hinteraction : interactionDue input (e.1.evaluate input t).1 = interactionDue input e.1 := by
    have hresidency : (e.1.evaluate input t).1.backgroundResidency = e.1.backgroundResidency := by
      rw [hstate]
    rw [interactionDue, interactionDue, hresidency, hheld]
    by_cases hthere : input.uiVisible = true ∨ e.1.backgroundResidency = .hot
    · rw [if_pos hthere, if_pos hthere]
    · rw [if_neg hthere, if_neg hthere]
      cases hsome : e.1.interactionUntil with
      | none => rfl
      | some heldUntil =>
        obtain ⟨first, hfirst, hle⟩ :=
          h.due_le.2 heldUntil (by rw [interactionDue, if_neg hthere, hsome])
        have hlt : t < heldUntil := (hbefore first hfirst).trans_le hle
        simp [Option.filter, hlt]
  have hnext : (e.1.evaluate input t).2.reevaluateAt = e.2.reevaluateAt := by
    rw [hsettled.next, h.next, hbackground, hinteraction]
  refine ⟨?_, hnext⟩
  have hlater : Before t (e.1.evaluate input t) := by
    intro due hdue
    exact hbefore due (hnext ▸ hdue)
  rw [← hsettled.residencyAt_before hlater, ← h.residencyAt_before hbefore]
  exact h.residencyAt_evaluate hle hfits hinput (fun due hdue => (hbefore due hdue).le) (le_refl t)

/-- What is due at the time that a decision says: the background residency, or the end of an
interaction that is over before the background residency changes. -/
theorem Settled.due_cases (h : Settled input now e) {due : Int}
    (hdue : e.2.reevaluateAt = some due) : backgroundDue input e.1 = some due ∨
      (interactionDue input e.1 = some due ∧
        ∀ later, backgroundDue input e.1 = some later → due < later) := by
  have hnext := h.next.symm.trans hdue
  cases hbackground : backgroundDue input e.1 with
  | none =>
    rw [hbackground] at hnext
    cases hinteraction : interactionDue input e.1 with
    | none => simp [hinteraction] at hnext
    | some heldUntil =>
      rw [hinteraction] at hnext
      exact .inr ⟨hnext, nofun⟩
  | some later =>
    rw [hbackground] at hnext
    cases hinteraction : interactionDue input e.1 with
    | none =>
      rw [hinteraction] at hnext
      exact .inl hnext
    | some heldUntil =>
      rw [hinteraction] at hnext
      have hmin : min heldUntil later = due := Option.some.inj hnext
      by_cases hle : later ≤ heldUntil
      · rw [min_eq_right hle] at hmin
        exact .inl (congrArg some hmin)
      · rw [min_eq_left (not_le.1 hle).le] at hmin
        refine .inr ⟨congrArg some hmin, ?_⟩
        rintro _ ⟨⟩
        exact hmin ▸ not_le.1 hle

/-- How often the residency can still change, that of the background and with an interaction. -/
def pending (input : AdaptiveResourcePolicyInput) (s : AdaptiveResourcePolicy) : Nat :=
  changesLeft input s.backgroundResidency + if s.interactionUntil.isSome then 1 else 0

theorem Settled.now_le (h : Settled input now e) {due : Int}
    (hdue : e.2.reevaluateAt = some due) : now ≤ due := by
  obtain hbackground | ⟨hinteraction, -⟩ := h.due_cases hdue
  · exact h.rested.due due hbackground
  · rw [interactionDue] at hinteraction
    split_ifs at hinteraction
    exact (h.interaction due hinteraction).le

/-- The background residency changes when it is due. -/
theorem Settled.background_on_time (h : Settled input now e)
    (hinput : input.userInteraction = false) {due : Int}
    (hdue : backgroundDue input e.1 = some due) (hfits : Fits e.1.config due) :
    changesLeft input (e.1.evaluate input due).1.backgroundResidency <
      changesLeft input e.1.backgroundResidency := by
  obtain ⟨-, -, u, hu, effective, held, last, hstate⟩ :=
    h.evaluate (h.rested.due due hdue) hfits hinput
  have hchange := ((h.rested.frame e.1.effectiveResidency e.1.interactionUntil
    (some due)).on_time hdue).1
  rw [hstate]
  rw [← hu] at hchange
  exact hchange

/-- An evaluation at the time that a decision says changes the residency. -/
theorem Settled.evaluate_on_time (h : Settled input now e) (hinput : input.userInteraction = false)
    {due : Int} (hdue : e.2.reevaluateAt = some due) (hfits : Fits e.1.config due) :
    residency (e.1.evaluate input due) ≠ residency e ∧
      pending input (e.1.evaluate input due).1 < pending input e.1 := by
  obtain hbackground | ⟨hinteraction, hearly⟩ := h.due_cases hdue
  · have hle := h.rested.due due hbackground
    obtain ⟨hsettled, hheld, -⟩ := h.evaluate hle hfits hinput
    have hchange := h.background_on_time hinput hbackground hfits
    refine ⟨fun hsame => hchange.ne (congrArg _ ?_), Nat.add_lt_add_of_lt_of_le hchange ?_⟩
    · have hbackground := congrArg Prod.snd hsame
      rwa [residency, residency, hsettled.background, h.background] at hbackground
    · rw [hheld]
      cases e.1.interactionUntil with
      | none => exact le_refl _
      | some heldUntil =>
        rw [Option.isSome_some, if_pos rfl]
        split_ifs <;> simp
  · rw [interactionDue] at hinteraction
    split_ifs at hinteraction with hthere
    rw [not_or, Bool.not_eq_true] at hthere
    have hlt := h.interaction due hinteraction
    obtain ⟨hsettled, hheld, u, hu, effective, held, last, hstate⟩ :=
      h.evaluate hlt.le hfits hinput
    rw [(h.rested.frame e.1.effectiveResidency e.1.interactionUntil (some due)).early hlt.le
      hearly] at hu
    have hresidency : (e.1.evaluate input due).1.backgroundResidency =
        e.1.backgroundResidency := by rw [hstate, hu]
    have hover : (e.1.evaluate input due).1.interactionUntil = none := by
      rw [hheld, hinteraction]
      simp [Option.filter]
    refine ⟨fun hsame => hthere.2 ?_, ?_⟩
    · have hforeground := congrArg Prod.fst hsame
      rw [residency, residency, hsettled.foreground, h.foreground, hresidency] at hforeground
      have hnotWanted : wantedAt input due (e.1.evaluate input due).1 = false := by
        rw [wantedAt, hthere.1, hover]
        rfl
      have hwanted : wantedAt input now e.1 = true := by
        simp [wantedAt, hinteraction, hlt]
      rw [hnotWanted, hwanted] at hforeground
      exact hforeground
    · rw [pending, pending, hresidency, hover, hinteraction]
      simp

/-! ## Runs -/

/-- Evaluations with one input, at one time after the other. -/
def follow (input : AdaptiveResourcePolicyInput) :
    List Int → AdaptiveResourcePolicy × AdaptiveResourcePolicyDecision →
      AdaptiveResourcePolicy × AdaptiveResourcePolicyDecision
  | [], e => e
  | t :: later, e => follow input later (e.1.evaluate input t)

/-- Evaluations at the times that the decisions say, one after the other, up to `last`. -/
def timed (input : AdaptiveResourcePolicyInput) (last : Int) :
    Nat → AdaptiveResourcePolicy × AdaptiveResourcePolicyDecision →
      AdaptiveResourcePolicy × AdaptiveResourcePolicyDecision
  | 0, e => e
  | evaluations + 1, e =>
    match e.2.reevaluateAt with
    | none => e
    | some due =>
      if due ≤ last then timed input last evaluations (e.1.evaluate input due) else e

/-- A second evaluation at one instant, if the first one asks for it. -/
def again (input : AdaptiveResourcePolicyInput) (now : Int)
    (e : AdaptiveResourcePolicy × AdaptiveResourcePolicyDecision) :
    AdaptiveResourcePolicy × AdaptiveResourcePolicyDecision :=
  if e.2.reevaluateAt = some now then e.1.evaluate input now else e

/-- Evaluations at each of `instants` instants after `now`. -/
def everyInstant (input : AdaptiveResourcePolicyInput) :
    Nat → Int → AdaptiveResourcePolicy × AdaptiveResourcePolicyDecision →
      AdaptiveResourcePolicy × AdaptiveResourcePolicyDecision
  | 0, now, e => again input now e
  | instants + 1, now, e =>
    everyInstant input instants (now + 1) ((again input now e).1.evaluate input (now + 1))

/-- Evaluations up to `last` of which none comes late, and after which nothing is due. -/
inductive Schedule (input : AdaptiveResourcePolicyInput) (last : Int) :
    Int → AdaptiveResourcePolicy × AdaptiveResourcePolicyDecision →
      AdaptiveResourcePolicy × AdaptiveResourcePolicyDecision → Prop
  | done {now : Int} {e : AdaptiveResourcePolicy × AdaptiveResourcePolicyDecision}
    (hbefore : Before last e) : Schedule input last now e e
  | next {now : Int} {e result : AdaptiveResourcePolicy × AdaptiveResourcePolicyDecision} (t : Int)
    (hle : now ≤ t) (hlast : t ≤ last) (hdue : ∀ due : Int, e.2.reevaluateAt = some due → t ≤ due)
    (rest : Schedule input last t (e.1.evaluate input t) result) : Schedule input last now e result

theorem evaluate_config (input : AdaptiveResourcePolicyInput) (now : TimePoint)
    (s : AdaptiveResourcePolicy) : (s.evaluate input now).1.config = s.config :=
  (updateBackgroundResidency_kept ..).2.trans (observeClock_config _)

/-- Every schedule ends with the residency that the marks lead to. -/
theorem Schedule.residency_eq {last : Int}
    {result : AdaptiveResourcePolicy × AdaptiveResourcePolicyDecision}
    (hschedule : Schedule input last now e result) (hinput : input.userInteraction = false)
    (h : Settled input now e) (hfits : ∀ t : Int, now ≤ t → t ≤ last → Fits e.1.config t) :
    residency result = residencyAt input last e.1 := by
  induction hschedule with
  | done hbefore => exact (h.residencyAt_before hbefore).symm
  | next t hle hlast hdue _ ih =>
    rw [ih (h.evaluate hle (hfits t hle hlast) hinput).1, h.residencyAt_evaluate hle
      (hfits t hle hlast) hinput hdue hlast]
    intro later hlater
    rw [evaluate_config]
    exact hfits later (hle.trans hlater)

/-- The timer that each decision sets makes a schedule. -/
theorem timed_schedule {last : Int} (hinput : input.userInteraction = false) :
    ∀ (evaluations : Nat) {now : Int}
      {e : AdaptiveResourcePolicy × AdaptiveResourcePolicyDecision}, Settled input now e →
      (∀ t : Int, now ≤ t → t ≤ last → Fits e.1.config t) → pending input e.1 ≤ evaluations →
      Schedule input last now e (timed input last evaluations e) := by
  intro evaluations
  induction evaluations with
  | zero =>
    intro now e h hfits hpending
    refine .done fun due hdue => not_le.1 fun hle => ?_
    have hlt := (h.evaluate_on_time hinput hdue (hfits due (h.now_le hdue) hle)).2
    omega
  | succ evaluations ih =>
    intro now e h hfits hpending
    cases hdue : e.2.reevaluateAt with
    | none =>
      have htimed : timed input last (evaluations + 1) e = e := by simp only [timed, hdue]
      rw [htimed]
      refine .done fun due hsome => ?_
      rw [hdue] at hsome
      cases hsome
    | some due =>
      have hnow : now ≤ due := h.now_le hdue
      by_cases hlast : due ≤ last
      · have hdueFits := hfits due hnow hlast
        have hlt := (h.evaluate_on_time hinput hdue hdueFits).2
        have htimed : timed input last (evaluations + 1) e =
            timed input last evaluations (e.1.evaluate input due) := by
          simp only [timed, hdue, if_pos hlast]
        rw [htimed]
        refine .next due hnow hlast ?_ (ih (h.evaluate hnow hdueFits hinput).1 ?_ (by omega))
        · intro first hfirst
          exact (Option.some.inj (hdue.symm.trans hfirst)).le
        · intro t hle hbefore
          rw [evaluate_config]
          exact hfits t (hnow.trans hle) hbefore
      · have htimed : timed input last (evaluations + 1) e = e := by
          simp only [timed, hdue, if_neg hlast]
        rw [htimed]
        refine .done fun first hfirst => ?_
        rw [← Option.some.inj (hdue.symm.trans hfirst)]
        exact not_le.1 hlast

/-- What is due at once is the background residency of a policy that has just become warm. -/
theorem Settled.due_now (h : Settled input now e) (hdue : e.2.reevaluateAt = some now) :
    backgroundDue input e.1 = some now ∧ e.1.backgroundResidency = .warm ∧
      e.1.config.warmToHotDelay = 0 := by
  obtain hbackground | ⟨hinteraction, -⟩ := h.due_cases hdue
  · exact ⟨hbackground, (h.rested.fresh hbackground).2⟩
  · rw [interactionDue] at hinteraction
    split_ifs at hinteraction
    exact absurd (h.interaction now hinteraction) (lt_irrefl now)

/-- After two evaluations at one instant nothing is due at it. -/
theorem Settled.again (h : Settled input now e) (hinput : input.userInteraction = false)
    (hfits : Fits e.1.config now) : Settled input now (again input now e) ∧
      (again input now e).1.config = e.1.config ∧ Before now (again input now e) := by
  by_cases hdue : e.2.reevaluateAt = some now
  · have hagain : AdaptiveResourcePolicy.again input now e = e.1.evaluate input now := if_pos hdue
    obtain ⟨hbackground, hwarm, -⟩ := h.due_now hdue
    have hsettled := (h.evaluate (le_refl now) hfits hinput).1
    rw [hagain]
    refine ⟨hsettled, evaluate_config .., fun due hnext =>
      lt_of_le_of_ne (hsettled.now_le hnext) ?_⟩
    rintro rfl
    have hlt := h.background_on_time hinput hbackground hfits
    rw [hwarm, (hsettled.due_now hnext).2.1] at hlt
    exact lt_irrefl _ hlt
  · have hagain : AdaptiveResourcePolicy.again input now e = e := if_neg hdue
    rw [hagain]
    refine ⟨h, rfl, fun due hnext => lt_of_le_of_ne (h.now_le hnext) ?_⟩
    rintro rfl
    exact hdue hnext

theorem Schedule.again {last : Int}
    {result : AdaptiveResourcePolicy × AdaptiveResourcePolicyDecision} (hlast : now ≤ last)
    (h : Schedule input last now (again input now e) result) :
    Schedule input last now e result := by
  by_cases hdue : e.2.reevaluateAt = some now
  · rw [AdaptiveResourcePolicy.again, if_pos hdue] at h
    refine .next now (le_refl now) hlast (fun due hnext => ?_) h
    exact (Option.some.inj (hdue.symm.trans hnext)).le
  · rwa [AdaptiveResourcePolicy.again, if_neg hdue] at h

/-- Evaluations at every instant make a schedule. -/
theorem everyInstant_schedule (hinput : input.userInteraction = false) :
    ∀ (instants : Nat) {now : Int}
      {e : AdaptiveResourcePolicy × AdaptiveResourcePolicyDecision}, Settled input now e →
      (∀ t : Int, now ≤ t → t ≤ now + instants → Fits e.1.config t) →
      Schedule input (now + instants) now e (everyInstant input instants now e) := by
  intro instants
  induction instants with
  | zero =>
    intro now e h hfits
    obtain ⟨-, -, hbefore⟩ := h.again hinput (hfits now (le_refl now) (by omega))
    have hlast : now + ((0 : Nat) : Int) = now := by omega
    rw [hlast]
    exact .again (le_refl now) (.done hbefore)
  | succ instants ih =>
    intro now e h hfits
    obtain ⟨hsettled, hconfig, hbefore⟩ := h.again hinput (hfits now (le_refl now) (by omega))
    have hlast : now + ((instants + 1 : Nat) : Int) = now + 1 + instants := by omega
    have hnext : Fits (again input now e).1.config (now + 1) := by
      rw [hconfig]
      exact hfits (now + 1) (by omega) (by omega)
    refine .again (by omega) (.next (now + 1) (by omega) (by omega) hbefore ?_)
    rw [hlast]
    refine ih (hsettled.evaluate (by omega) hnext hinput).1 fun t hle hbefore => ?_
    rw [evaluate_config, hconfig]
    exact hfits t (by omega) (by omega)

/-- The instants after `now`. -/
def instants : Nat → Int → List Int
  | 0, _ => []
  | count + 1, now => (now + 1) :: instants count (now + 1)

/-- Unless a warm policy need not wait, one evaluation at each instant is enough. -/
theorem everyInstant_eq (hinput : input.userInteraction = false) :
    ∀ (count : Nat) {now : Int} {e : AdaptiveResourcePolicy × AdaptiveResourcePolicyDecision},
      Settled input now e → 0 < e.1.config.warmToHotDelay →
      (∀ t : Int, now ≤ t → t ≤ now + count → Fits e.1.config t) →
      everyInstant input count now e = follow input (instants count now) e := by
  intro count
  induction count with
  | zero =>
    intro now e h hdelay _
    exact if_neg fun hdue => hdelay.ne' (h.due_now hdue).2.2
  | succ count ih =>
    intro now e h hdelay hfits
    have hagain : again input now e = e := if_neg fun hdue => hdelay.ne' (h.due_now hdue).2.2
    have hnext := h.evaluate (t := now + 1) (by omega)
      (hfits (now + 1) (by omega) (by omega)) hinput
    rw [everyInstant, hagain, instants, follow]
    refine ih hnext.1 ?_ fun t hle hbefore => ?_
    · rwa [evaluate_config]
    · rw [evaluate_config]
      exact hfits t (by omega) (by omega)

/-- Evaluations before anything is due change neither the residency nor what is due. -/
theorem Settled.follow_before (hinput : input.userInteraction = false) :
    ∀ (times : List Int) {now : Int}
      {e : AdaptiveResourcePolicy × AdaptiveResourcePolicyDecision}, Settled input now e →
      List.IsChain (· ≤ ·) (now :: times) →
      (∀ t ∈ times, Fits e.1.config t ∧ Before t e) →
      residency (follow input times e) = residency e ∧
        (follow input times e).2.reevaluateAt = e.2.reevaluateAt ∧
        (follow input times e).1.config = e.1.config ∧
        ∃ last, Settled input last (follow input times e) := by
  intro times
  induction times with
  | nil =>
    intro now e h _ _
    exact ⟨rfl, rfl, rfl, now, h⟩
  | cons t later ih =>
    intro now e h hchain htimes
    obtain ⟨hle, hchain⟩ := List.isChain_cons_cons.1 hchain
    obtain ⟨hfits, hbefore⟩ := htimes t (List.mem_cons_self ..)
    obtain ⟨hresidency, hnext⟩ := h.evaluate_before hle hfits hinput hbefore
    obtain ⟨hsame, hnextSame, hconfig, hsettled⟩ :=
      ih (h.evaluate hle hfits hinput).1 hchain fun u hu => by
        obtain ⟨hfits, hbefore⟩ := htimes u (List.mem_cons_of_mem _ hu)
        refine ⟨by rwa [evaluate_config], fun due hdue => ?_⟩
        rw [hnext] at hdue
        exact hbefore due hdue
    exact ⟨hsame.trans hresidency, hnextSame.trans hnext, hconfig.trans (evaluate_config ..),
      hsettled⟩

/-! ## Reachable policies -/

/-- The marks are in range whenever the policy is evaluated next. -/
def Ready (s : AdaptiveResourcePolicy) : Prop := ∀ now : Int, InRange now (s.observeClock now)

theorem ready_create (config : AdaptiveResourcePolicyConfig) (initialResidency : ResidencyPolicy) :
    Ready (create config initialResidency) := fun _ =>
  ⟨noted_none, noted_none, noted_none, le_max_right _ _, le_max_right _ _, le_max_right _ _⟩

theorem Ready.evaluate (h : Ready s) (hfits : Fits s.config now)
    (input : AdaptiveResourcePolicyInput) : Ready (s.evaluate input now).1 := by
  intro later
  have hrange := (rested_update (h now) (by rw [observeClock_config]; exact hfits) input).range
  have hlast : (s.evaluate input now).1.lastEvaluation = some (now : TimePoint) :=
    (updateBackgroundResidency_kept input now).1
  have hback : (s.evaluate input now).1.isRollback later = decide (later < now) := by
    rw [isRollback, hlast]
    rfl
  rw [observeClock, hback]
  by_cases hlt : later < now
  · rw [if_pos (decide_eq_true hlt)]
    exact ⟨noted_none, noted_none, noted_none, hrange.pressureDelay, hrange.coldDelay,
      hrange.warmDelay⟩
  · rw [if_neg (by simp [hlt])]
    have hle := not_lt.1 hlt
    exact ⟨hrange.pressureSince.mono hle, hrange.healthySince.mono hle,
      hrange.preloadAllowedSince.mono hle, hrange.pressureDelay, hrange.coldDelay,
      hrange.warmDelay⟩

theorem ready_after {config : AdaptiveResourcePolicyConfig} {initialResidency : ResidencyPolicy} :
    ∀ history : List Evaluation,
      (∀ call ∈ history, Fits (create config initialResidency).config call.now) →
      Ready (after config initialResidency history)
  | [], _ => ready_create config initialResidency
  | call :: earlier, h => by
    have hearlier := ready_after earlier fun other hother =>
      h other (List.mem_cons_of_mem _ hother)
    refine hearlier.evaluate ?_ call.input
    rw [config_after]
    exact h call (List.mem_cons_self ..)

theorem Fits.between {config : AdaptiveResourcePolicyConfig} {later : Int}
    (h : Fits config now) (hlater : Fits config later) {t : Int} (hle : now ≤ t)
    (hbefore : t ≤ later) : Fits config t where
  nonneg := h.nonneg.trans hle
  pressure := (Int.add_le_add_right hbefore _).trans_lt hlater.pressure
  warmUp := (Int.add_le_add_right hbefore _).trans_lt hlater.warmUp
  heatUp := (Int.add_le_add_right hbefore _).trans_lt hlater.heatUp
  hold := (Int.add_le_add_right hbefore _).trans_lt hlater.hold

/-- `ReevaluateAt` of a decision at `now` is the time at which the residency changes next, while
the input stays what it is. -/
structure Exact (input : AdaptiveResourcePolicyInput) (config : AdaptiveResourcePolicyConfig)
    (now : Int) (e : AdaptiveResourcePolicy × AdaptiveResourcePolicyDecision) : Prop where
  /-- No evaluations before it change the residency, -/
  before : ∀ times : List Int, List.IsChain (· ≤ ·) (now :: times) →
    (∀ t ∈ times, Fits config t ∧ Before t e) → residency (follow input times e) = residency e
  /-- it is there, and not after the last of them, if some evaluations do, -/
  set : ∀ times : List Int, List.IsChain (· ≤ ·) (now :: times) → (∀ t ∈ times, Fits config t) →
    residency (follow input times e) ≠ residency e →
    ∃ due : Int, e.2.reevaluateAt = some due ∧ ∃ t ∈ times, due ≤ t
  /-- and an evaluation at it does, whatever evaluations there were before it. -/
  performs : ∀ due : Int, e.2.reevaluateAt = some due → now ≤ due ∧
    ∀ times : List Int, List.IsChain (· ≤ ·) (now :: times) →
      (∀ t ∈ times, Fits config t ∧ Before t e) → Fits config due →
      residency ((follow input times e).1.evaluate input due) ≠ residency e
  /-- The timer that each decision sets fires three times at most, and leads to the residency to
  which evaluations at every instant lead; -/
  sparse : ∀ count : Nat, Fits config (now + count) →
    residency (timed input (now + count) 3 e) = residency (everyInstant input count now e) ∧
      Before (now + count) (timed input (now + count) 3 e)
  /-- one at each instant, if a warm policy has to wait before it becomes hot. -/
  once : ∀ count : Nat, Fits config (now + count) → 0 < config.warmToHotDelay →
    residency (timed input (now + count) 3 e) =
      residency (follow input (instants count now) e)

theorem pending_le (input : AdaptiveResourcePolicyInput) (s : AdaptiveResourcePolicy) :
    pending input s ≤ 3 := by
  unfold pending changesLeft
  split <;> split_ifs <;> omega

theorem Schedule.before {last : Int}
    {result : AdaptiveResourcePolicy × AdaptiveResourcePolicyDecision}
    (h : Schedule input last now e result) : Before last result := by
  induction h with
  | done hbefore => exact hbefore
  | next _ _ _ _ _ ih => exact ih

/-- Whatever the evaluations before, a decision without an interaction says exactly when the
residency changes next. -/
theorem reevaluateAt_exact (config : AdaptiveResourcePolicyConfig)
    (initialResidency : ResidencyPolicy) (history : List Evaluation)
    (hhistory : ∀ call ∈ history, Fits (create config initialResidency).config call.now)
    (input : AdaptiveResourcePolicyInput) (hinput : input.userInteraction = false) (now : Int)
    (hnow : Fits (create config initialResidency).config now) :
    Exact input (create config initialResidency).config now
      ((after config initialResidency history).evaluate input now) := by
  have hconfig : (after config initialResidency history).config =
      (create config initialResidency).config := config_after history
  have hsettled : Settled input now ((after config initialResidency history).evaluate input now) :=
    settled_evaluate (ready_after history hhistory now) (by rwa [hconfig]) hinput
  have hkept : ((after config initialResidency history).evaluate input now).1.config =
      (create config initialResidency).config := (evaluate_config ..).trans hconfig
  obtain ⟨e, he⟩ : ∃ e, e = (after config initialResidency history).evaluate input now := ⟨_, rfl⟩
  obtain ⟨fixed, hfixed⟩ : ∃ fixed, fixed = (create config initialResidency).config := ⟨_, rfl⟩
  rw [← he, ← hfixed] at hkept
  rw [← he] at hsettled ⊢
  rw [← hfixed] at hnow ⊢
  subst hkept
  have hbefore := fun times => hsettled.follow_before hinput times
  have hfits : ∀ count : Nat, Fits e.1.config (now + count) →
      ∀ t : Int, now ≤ t → t ≤ now + count → Fits e.1.config t :=
    fun count hlast t hle hle' => hnow.between hlast hle hle'
  have hsparse : ∀ count : Nat, Fits e.1.config (now + count) →
      residency (timed input (now + count) 3 e) = residency (everyInstant input count now e) ∧
        Before (now + count) (timed input (now + count) 3 e) := by
    intro count hlast
    have htimed := timed_schedule hinput 3 hsettled (hfits count hlast) (pending_le input e.1)
    have hevery := everyInstant_schedule hinput count hsettled (hfits count hlast)
    exact ⟨(htimed.residency_eq hinput hsettled (hfits count hlast)).trans
      (hevery.residency_eq hinput hsettled (hfits count hlast)).symm, htimed.before⟩
  constructor
  · intro times hchain htimes
    exact (hbefore times hchain htimes).1
  · intro times hchain htimes hchange
    by_contra hnone
    push Not at hnone
    refine hchange (hbefore times hchain fun t ht => ⟨htimes t ht, fun due hdue => ?_⟩).1
    exact hnone due hdue t ht
  · intro due hdue
    refine ⟨hsettled.now_le hdue, fun times hchain htimes hdueFits => ?_⟩
    obtain ⟨hresidency, hnext, hconfig, last, hlast⟩ := hbefore times hchain htimes
    rw [← hresidency]
    refine (hlast.evaluate_on_time hinput (hnext.trans hdue) ?_).1
    rwa [hconfig]
  · exact hsparse
  · intro count hlast hdelay
    rw [← everyInstant_eq hinput count hsettled hdelay (hfits count hlast)]
    exact (hsparse count hlast).1

/-- A cold policy that was evaluated without pressure at 7 and is evaluated again has the rest of
the 45 seconds to wait. -/
theorem reevaluateAt_exact_warmUp :
    ((after {} .cold [.healthyAt 7]).evaluate (Evaluation.healthyAt 9).input 9).2.reevaluateAt =
        some 45000000007 ∧
      Exact (Evaluation.healthyAt 9).input (create {} .cold).config 9
        ((after {} .cold [.healthyAt 7]).evaluate (Evaluation.healthyAt 9).input 9) := by
  refine ⟨by decide, reevaluateAt_exact {} .cold [.healthyAt 7] ?_ _ rfl 9 ?_⟩
  · intro call hcall
    rw [List.mem_singleton.1 hcall]
    constructor <;> decide
  · constructor <;> decide

end AdaptiveResourcePolicy

end PlaybackConnector
