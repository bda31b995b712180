import PlaybackConnector.Power.Coordinator

/-!
# The delivery of resume targets

A captured device is retained until it is reported connected, until its attempts of one cycle are
used up, or until the coordinator is cancelled; and it is handed to the host by at most one
delivery of a generation at a time. `Inv` has three parts: the generation fence (`Fenced`), the
deliveries in flight (`Flying`) and the attempts of a cycle (`Counted`). Every event obeys `Law`,
and what a suspend interrupts is redelivered (`run_redelivers`).
-/

namespace PlaybackConnector

namespace PowerTransitionCoordinator

variable {s t : State} {e : Event}

/-! ## The invariant -/

/-- Nothing was scheduled or handed out in the present generation. -/
structure Fresh (s : State) : Prop where
  scheduled : ∀ generation ∈ s.scheduled, generation ≠ s.resumeState.generation
  deliveries : ∀ delivery ∈ s.deliveries, delivery.generation ≠ s.resumeState.generation
  notInFlight : s.resumeState.deliveryInFlight = false

/-- The generation fence: a timer that could still deliver was scheduled after a matched resume,
and a suspend or a resume that has not scheduled one finds a fresh generation. -/
structure Fenced (s : State) : Prop where
  scheduled : ∀ generation ∈ s.scheduled, generation ≤ s.resumeState.generation
  suspending : ∀ generation, s.call = .suspending generation → s.powerSuspended = true
  scheduling : ∀ generation, s.call = .scheduling generation →
    generation ≤ s.resumeState.generation ∧ s.powerSuspended = false
  resuming : s.call = .resuming true → s.matched = true ∧ s.powerSuspended = false
  fresh : s.powerSuspended = true ∨ s.call = .resuming true → Fresh s
  matched : s.resumeState.generation ∈ s.scheduled ∨
    s.call = .scheduling s.resumeState.generation → s.matched = true

/-- The deliveries that are in flight: one a generation, and in the present generation the last
one, exactly when the flag is set. -/
structure Flying (s : State) : Prop where
  past : ∀ delivery ∈ s.deliveries, delivery.generation ≤ s.resumeState.generation ∧
    delivery.sequence ≤ s.resumeState.deliverySequence
  handed : ∀ delivery ∈ s.inFlight, delivery ∈ s.deliveries
  once : (s.inFlight.map (·.generation)).Nodup
  current : ∀ delivery ∈ s.inFlight, delivery.generation = s.resumeState.generation →
    s.resumeState.deliveryInFlight = true ∧
      delivery.sequence = s.resumeState.deliverySequence
  flag : s.resumeState.deliveryInFlight = true → s.resumeState.cancelled = false ∧
    s.matched = true ∧ ∃ delivery ∈ s.inFlight,
      delivery.generation = s.resumeState.generation ∧
        delivery.sequence = s.resumeState.deliverySequence

/-- The attempts of a cycle. -/
structure Counted (s : State) : Prop where
  bounded : ∀ target ∈ s.resumeState.targets,
    target.attempts ≤ maxResumeReconnectAttempts
  below : s.resumeState.deliveryInFlight = true → ∀ target ∈ s.resumeState.targets,
    target.attempts < maxResumeReconnectAttempts
  untouched : s.resumeState.cancelled = false →
    (∀ delivery ∈ s.deliveries, delivery.generation ≠ s.resumeState.generation) →
    ∀ target ∈ s.resumeState.targets, target.attempts = 0

/-- What holds between any two events. -/
structure Inv (s : State) : Prop where
  fenced : Fenced s
  flying : Flying s
  counted : Counted s

theorem inv_initial : Inv initial := by
  refine ⟨?_, ?_, ?_⟩ <;> constructor <;> simp [initial]

/-- A new generation is fresh. -/
theorem Inv.newGeneration (hs : Inv s) {generation : Nat}
    (hgeneration : s.resumeState.generation < generation) :
    (∀ g ∈ s.scheduled, g < generation) ∧ ∀ delivery ∈ s.deliveries,
      delivery.generation < generation := by
  refine ⟨fun g hg => ?_, fun delivery hd => ?_⟩
  · have := hs.fenced.scheduled g hg
    omega
  · have := (hs.flying.past delivery hd).1
    omega

theorem cancel_inv (hs : Inv s) : Inv (cancel s) := by
  obtain ⟨hscheduled, hdeliveries⟩ := hs.newGeneration (Nat.lt_succ_self _)
  obtain ⟨hfenced, hflying, hcounted⟩ := hs
  refine ⟨⟨?_, hfenced.suspending, ?_, hfenced.resuming, ?_, ?_⟩,
    ⟨?_, hflying.handed, hflying.once, ?_, ?_⟩, ?_, ?_, ?_⟩
  all_goals simp only [cancel]
  · intro g hg
    exact Nat.le_of_lt (hscheduled g hg)
  · intro g hg
    obtain ⟨hle, hpower⟩ := hfenced.scheduling g hg
    exact ⟨by omega, hpower⟩
  · exact fun _ => ⟨fun g hg => Nat.ne_of_lt (hscheduled g hg),
      fun d hd => Nat.ne_of_lt (hdeliveries d hd), rfl⟩
  · rintro (h | h)
    · exact absurd (hscheduled _ h) (Nat.lt_irrefl _)
    · have := (hfenced.scheduling _ h).1
      omega
  · intro d hd
    exact ⟨Nat.le_of_lt (hdeliveries d hd), (hflying.past d hd).2⟩
  · intro d hd h
    exact absurd h (Nat.ne_of_lt (hdeliveries d (hflying.handed d hd)))
  · simp
  · simp
  · simp
  · simp

theorem beginSuspend_inv (hs : Inv s) : Inv (beginSuspend s) := by
  unfold beginSuspend
  split
  · exact hs
  obtain ⟨hscheduled, hdeliveries⟩ := hs.newGeneration (Nat.lt_succ_self _)
  obtain ⟨hfenced, hflying, hcounted⟩ := hs
  refine ⟨⟨?_, fun _ _ => rfl, ?_, ?_, ?_, ?_⟩, ⟨?_, hflying.handed, hflying.once, ?_, ?_⟩,
    hcounted.bounded, ?_, ?_⟩
  all_goals dsimp only
  · intro g hg
    exact Nat.le_of_lt (hscheduled g hg)
  · simp
  · simp
  · exact fun _ => ⟨fun g hg => Nat.ne_of_lt (hscheduled g hg),
      fun d hd => Nat.ne_of_lt (hdeliveries d hd), rfl⟩
  · rintro (h | h)
    · exact absurd (hscheduled _ h) (Nat.lt_irrefl _)
    · cases h
  · intro d hd
    exact ⟨Nat.le_of_lt (hdeliveries d hd), (hflying.past d hd).2⟩
  · intro d hd h
    exact absurd h (Nat.ne_of_lt (hdeliveries d (hflying.handed d hd)))
  · simp
  · simp
  · simp

/-- A call that ends changes no more than that it is under way. -/
theorem endCall_inv (hs : Inv s) : Inv { s with call := .none } := by
  obtain ⟨hfenced, hflying, hcounted⟩ := hs
  refine ⟨⟨hfenced.scheduled, by simp, by simp, by simp, fun h => ?_, fun h => ?_⟩,
    ⟨hflying.1, hflying.2, hflying.3, hflying.4, hflying.5⟩,
    ⟨hcounted.1, hcounted.2, hcounted.3⟩⟩
  · have hfresh := hfenced.fresh (h.imp_right (by simp))
    exact ⟨hfresh.1, hfresh.2, hfresh.3⟩
  · exact hfenced.matched (h.imp_right (by simp))

theorem foldl_capture_attempts (ids : List WString) (targets : List Target)
    (hzero : ∀ target ∈ targets, target.attempts = 0) :
    ∀ target ∈ ids.foldl ResumeState.capture targets, target.attempts = 0 := by
  induction ids generalizing targets with
  | nil => exact hzero
  | cons id ids ih =>
    refine ih (ResumeState.capture targets id) ?_
    unfold ResumeState.capture
    split
    · intro target h
      rcases List.mem_append.1 h with h | h
      · exact hzero target h
      · rw [List.mem_singleton.1 h]
    · exact hzero

/-- The targets of a new cycle have no attempts. -/
theorem beginCycle_attempts {r : ResumeState} {activeDeviceIds : List WString} {target : Target}
    (h : target ∈ (r.beginCycle activeDeviceIds).targets) : target.attempts = 0 := by
  refine foldl_capture_attempts activeDeviceIds _ ?_ target h
  intro target h
  obtain ⟨_, -, rfl⟩ := List.mem_map.1 h
  rfl

theorem endSuspend_inv (hs : Inv s) {generation : Nat} (hcall : s.call = .suspending generation)
    (activeDeviceIds : List WString) : Inv (endSuspend generation activeDeviceIds s) := by
  have hfresh := hs.fenced.fresh (.inl (hs.fenced.suspending _ hcall))
  unfold endSuspend
  split
  · exact endCall_inv hs
  obtain ⟨hfenced, hflying, hcounted⟩ := endCall_inv hs
  have hzero {target : Target} (h : target ∈ (s.resumeState.beginCycle activeDeviceIds).targets) :
      target.attempts = 0 := beginCycle_attempts h
  refine ⟨⟨hfenced.1, hfenced.2, hfenced.3, hfenced.4, fun _ => ⟨hfresh.1, hfresh.2, hfresh.3⟩,
    hfenced.6⟩, ⟨hflying.1, hflying.2, hflying.3, hflying.4, fun h => ⟨rfl, (hflying.5 h).2⟩⟩,
    ?_, ?_, ?_⟩
  · intro target h
    simp [hzero h]
  · intro h
    exact absurd hfresh.notInFlight (by simpa [ResumeState.beginCycle] using h)
  · exact fun _ _ target h => hzero h

theorem beginResume_inv (hs : Inv s) (now : Nat) : Inv (beginResume now s) := by
  unfold beginResume
  split
  · exact hs
  split
  · exact hs
  obtain ⟨hfenced, hflying, hcounted⟩ := hs
  refine ⟨⟨hfenced.scheduled, by simp, by simp, ?_, ?_, ?_⟩,
    ⟨hflying.1, hflying.2, hflying.3, hflying.4, ?_⟩, ⟨hcounted.1, hcounted.2, hcounted.3⟩⟩
  all_goals dsimp only
  · intro h
    simp only [UiCall.resuming.injEq] at h
    simp [h]
  · rintro (h | h)
    · cases h
    · simp only [UiCall.resuming.injEq] at h
      have hfresh := hfenced.fresh (.inl h)
      exact ⟨hfresh.1, hfresh.2, hfresh.3⟩
  · rintro (h | h)
    · simp [hfenced.matched (.inl h)]
    · cases h
  · intro h
    obtain ⟨hcancelled, hmatched, hdelivery⟩ := hflying.flag h
    exact ⟨hcancelled, by simp [hmatched], hdelivery⟩

theorem armResume_inv (hs : Inv s) {matchedSuspend : Bool}
    (hcall : s.call = .resuming matchedSuspend) (callable : Bool) :
    Inv (armResume matchedSuspend callable s) := by
  unfold armResume
  split
  · exact endCall_inv hs
  rename_i hmatched
  have hcall' : s.call = .resuming true := by simpa [hcall] using hmatched
  have hfresh := hs.fenced.fresh (.inr hcall')
  obtain ⟨hmatch, hpower⟩ := hs.fenced.resuming hcall'
  obtain ⟨hfenced, hflying, hcounted⟩ := endCall_inv hs
  dsimp only
  split
  · exact ⟨⟨hfenced.1, hfenced.2, hfenced.3, hfenced.4, fun _ => ⟨hfresh.1, hfresh.2, hfresh.3⟩,
        hfenced.6⟩,
      ⟨hflying.1, hflying.2, hflying.3, hflying.4, hflying.5⟩,
      ⟨hcounted.1, hcounted.2, hcounted.3⟩⟩
  refine ⟨⟨hfenced.1, by simp, ?_, by simp, ?_, fun _ => hmatch⟩,
    ⟨hflying.1, hflying.2, hflying.3, ?_, by simp⟩, hcounted.bounded, by simp, hcounted.untouched⟩
  all_goals dsimp only
  · intro generation h
    simp only [UiCall.scheduling.injEq] at h
    exact ⟨Nat.le_of_eq h.symm, hpower⟩
  · rintro (h | h)
    · simp [hpower] at h
    · cases h
  · intro delivery hd h
    exact absurd h (hfresh.deliveries delivery (hflying.handed delivery hd))

theorem schedule_inv (hs : Inv s) {generation : Nat} (hcall : s.call = .scheduling generation) :
    Inv (schedule generation s) := by
  obtain ⟨hle, hpower⟩ := hs.fenced.scheduling generation hcall
  obtain ⟨hfenced, hflying, hcounted⟩ := hs
  refine ⟨⟨?_, by simp [schedule], by simp [schedule], by simp [schedule], ?_, ?_⟩,
    ⟨hflying.1, hflying.2, hflying.3, hflying.4, hflying.5⟩,
    ⟨hcounted.1, hcounted.2, hcounted.3⟩⟩
  all_goals simp only [schedule]
  · intro g hg
    rcases List.mem_cons.1 hg with rfl | hg
    · exact hle
    · exact hfenced.scheduled g hg
  · simp [hpower]
  · rintro (h | h)
    · rcases List.mem_cons.1 h with h | h
      · exact hfenced.matched (.inr (by rw [hcall, h]))
      · exact hfenced.matched (.inl h)
    · cases h

theorem notifyDeviceConnected_inv (hs : Inv s) (deviceId : WString) :
    Inv (notifyDeviceConnected deviceId s) := by
  obtain ⟨hfenced, hflying, hcounted⟩ := hs
  have hkeep {target : Target}
      (h : target ∈ s.resumeState.targets.filter (·.id ≠ deviceId)) :
      target ∈ s.resumeState.targets := (List.mem_filter.1 h).1
  have hcounted' : (∀ target ∈ s.resumeState.targets.filter (·.id ≠ deviceId),
      target.attempts ≤ maxResumeReconnectAttempts) ∧
      (s.resumeState.deliveryInFlight = true →
        ∀ target ∈ s.resumeState.targets.filter (·.id ≠ deviceId),
          target.attempts < maxResumeReconnectAttempts) ∧
      (s.resumeState.cancelled = false →
        (∀ delivery ∈ s.deliveries, delivery.generation ≠ s.resumeState.generation) →
        ∀ target ∈ s.resumeState.targets.filter (·.id ≠ deviceId), target.attempts = 0) :=
    ⟨fun target h => hcounted.1 target (hkeep h),
      fun hf target h => hcounted.2 hf target (hkeep h),
      fun hc hd target h => hcounted.3 hc hd target (hkeep h)⟩
  have hfresh (h : s.powerSuspended = true ∨ s.call = .resuming true) := hfenced.fresh h
  unfold notifyDeviceConnected
  split
  · exact ⟨hfenced, hflying, hcounted⟩
  dsimp only
  split
  · exact ⟨⟨hfenced.1, hfenced.2, hfenced.3, hfenced.4,
        fun h => ⟨(hfresh h).1, (hfresh h).2, (hfresh h).3⟩, hfenced.6⟩,
      ⟨hflying.1, hflying.2, hflying.3, hflying.4, hflying.5⟩,
      ⟨hcounted'.1, hcounted'.2.1, hcounted'.2.2⟩⟩
  · exact ⟨⟨hfenced.1, hfenced.2, hfenced.3, hfenced.4,
        fun h => ⟨(hfresh h).1, (hfresh h).2, (hfresh h).3⟩, hfenced.6⟩,
      ⟨hflying.1, hflying.2, hflying.3, hflying.4, hflying.5⟩,
      ⟨hcounted'.1, hcounted'.2.1, hcounted'.2.2⟩⟩

/-- What is handed out, when something is. -/
def State.delivery (s : State) : Delivery :=
  ⟨s.resumeState.generation, s.resumeState.deliverySequence + 1, s.resumeState.selection.eligible⟩

/-- Something is handed out. -/
def State.Hands (s : State) : Prop :=
  s.resumeState.selection.eligible ≠ [] ∧ s.resumeState.reconnect = some true

/-- The eligible targets are handed to the callback. -/
theorem hand_of_hands (h : s.Hands) : hand s =
    { s with
      resumeState := { s.resumeState.dropExhausted with
        deliverySequence := s.resumeState.deliverySequence + 1
        deliveryInFlight := true }
      deliveries := s.delivery :: s.deliveries
      inFlight := s.delivery :: s.inFlight } := by
  obtain ⟨heligible, hreconnect⟩ := h
  unfold hand
  simp only [ResumeState.dropExhausted, heligible, hreconnect, State.delivery, ne_eq,
    not_false_eq_true, true_and, decide_true, if_true]

/-- There is nothing to hand out, or nobody to hand it to. -/
theorem hand_of_not_hands (h : ¬ s.Hands) : hand s =
    { s with
      resumeState := { s.resumeState.dropExhausted with
        deliverySequence := s.resumeState.deliverySequence + 1
        deliveryInFlight := false } } := by
  unfold State.Hands at h
  unfold hand
  simp only [ResumeState.dropExhausted, h, decide_false, if_false, Bool.false_eq_true]

/-- What `SelectEligible` leaves can be attempted. -/
theorem mem_dropExhausted {r : ResumeState} {target : Target}
    (h : target ∈ r.dropExhausted.targets) :
    target ∈ r.targets ∧ target.attempts < maxResumeReconnectAttempts := by
  simpa [ResumeState.dropExhausted, ResumeState.Target.isExhausted] using h

theorem hand_inv (hs : Inv s) (hpending : ¬ (s.powerSuspended = true ∨ s.call = .resuming true))
    (hmatched : s.matched = true) (hcancelled : s.resumeState.cancelled = false)
    (hflag : s.resumeState.deliveryInFlight = false) : Inv (hand s) := by
  obtain ⟨hfenced, hflying, hcounted⟩ := hs
  have hbounded {target : Target} (h : target ∈ s.resumeState.dropExhausted.targets) :=
    (mem_dropExhausted h).2
  have hold {delivery : Delivery} (h : delivery ∈ s.inFlight) :
      delivery.generation ≠ s.resumeState.generation := fun hgeneration => by
    simpa [hflag] using (hflying.current delivery h hgeneration).1
  by_cases hhands : s.Hands
  · rw [hand_of_hands hhands]
    refine ⟨⟨hfenced.1, hfenced.2, hfenced.3, hfenced.4, fun h => absurd h hpending,
      fun _ => hmatched⟩, ⟨?_, ?_, ?_, ?_, ?_⟩, fun target h => Nat.le_of_lt (hbounded h),
      fun _ target h => hbounded h, ?_⟩
    · intro delivery h
      rcases List.mem_cons.1 h with rfl | h
      · exact ⟨Nat.le_refl _, Nat.le_refl _⟩
      · exact ⟨(hflying.past delivery h).1, Nat.le_succ_of_le (hflying.past delivery h).2⟩
    · intro delivery h
      rcases List.mem_cons.1 h with rfl | h
      · exact List.mem_cons_self
      · exact List.mem_cons_of_mem _ (hflying.handed delivery h)
    · refine List.nodup_cons.2 ⟨fun h => ?_, hflying.once⟩
      obtain ⟨delivery, hd, hgeneration⟩ := List.mem_map.1 h
      exact hold hd hgeneration
    · intro delivery h hgeneration
      rcases List.mem_cons.1 h with rfl | h
      · exact ⟨rfl, rfl⟩
      · exact absurd hgeneration (hold h)
    · exact fun _ => ⟨hcancelled, hmatched, s.delivery, List.mem_cons_self, rfl, rfl⟩
    · intro _ hnone
      exact absurd rfl (hnone s.delivery List.mem_cons_self)
  · rw [hand_of_not_hands hhands]
    refine ⟨⟨hfenced.1, hfenced.2, hfenced.3, hfenced.4, fun h => absurd h hpending,
      fun _ => hmatched⟩, ⟨?_, hflying.handed, hflying.once, ?_, by simp⟩,
      fun target h => Nat.le_of_lt (hbounded h), by simp, ?_⟩
    · intro delivery h
      exact ⟨(hflying.past delivery h).1, Nat.le_succ_of_le (hflying.past delivery h).2⟩
    · intro delivery h hgeneration
      exact absurd hgeneration (hold h)
    · intro hc hd target h
      exact hcounted.untouched hc hd target (mem_dropExhausted h).1

theorem deliverResumeReconnect_inv (hs : Inv s) (generation : Nat)
    (hpending : generation = s.resumeState.generation →
      ¬ (s.powerSuspended = true ∨ s.call = .resuming true))
    (hmatched : generation = s.resumeState.generation → s.matched = true) :
    Inv (deliverResumeReconnect generation s) := by
  unfold deliverResumeReconnect
  split
  · exact hs
  rename_i hguard
  simp only [not_or, not_not] at hguard
  split
  · exact hs
  · rename_i hflag
    have hgeneration := hguard.2.1.symm
    exact hand_inv hs (hpending hgeneration) (hmatched hgeneration) (by simpa using hguard.1)
      (by simpa using hflag)

theorem complete_inv (hs : Inv s) (generation sequence : Nat) (attemptedIds : List WString) :
    Inv (complete generation sequence attemptedIds s) := by
  obtain ⟨hfenced, hflying, hcounted⟩ := hs
  have hfresh (h : s.powerSuspended = true ∨ s.call = .resuming true) := hfenced.fresh h
  have hkeep {delivery : Delivery} (h : delivery ∈ s.inFlight.filter fun delivery =>
      ¬ (delivery.generation = generation ∧ delivery.sequence = sequence)) :
      delivery ∈ s.inFlight := (List.mem_filter.1 h).1
  have honce : ((s.inFlight.filter fun delivery =>
      ¬ (delivery.generation = generation ∧ delivery.sequence = sequence)).map
        (·.generation)).Nodup :=
    hflying.once.sublist (List.filter_sublist.map _)
  unfold complete
  dsimp only
  split
  · rename_i hguard
    refine ⟨⟨hfenced.1, hfenced.2, hfenced.3, hfenced.4,
        fun h => ⟨(hfresh h).1, (hfresh h).2, (hfresh h).3⟩, hfenced.6⟩,
      ⟨hflying.1, fun d hd => hflying.handed d (hkeep hd), honce,
        fun d hd => hflying.current d (hkeep hd), fun hflag => ?_⟩,
      ⟨hcounted.1, hcounted.2, hcounted.3⟩⟩
    obtain ⟨hcancelled, hmatched, delivery, hd, hgeneration, hsequence⟩ := hflying.flag hflag
    refine ⟨hcancelled, hmatched, delivery, List.mem_filter.2 ⟨hd, ?_⟩, hgeneration, hsequence⟩
    simp only [decide_not, Bool.not_eq_true', decide_eq_false_iff_not]
    rintro ⟨rfl, rfl⟩
    simp only [hcancelled, hgeneration, hsequence, ne_eq, not_true_eq_false, Bool.false_eq_true,
      false_or, Bool.not_eq_true'] at hguard
    exact absurd hflag (by simp [hguard])
  · rename_i hguard
    simp only [not_or, not_not] at hguard
    obtain ⟨-, rfl, rfl, hflag⟩ := hguard
    obtain ⟨-, -, delivery, hd, hgeneration, -⟩ := hflying.flag (by simpa using hflag)
    refine ⟨⟨hfenced.1, hfenced.2, hfenced.3, hfenced.4,
        fun h => ⟨(hfresh h).1, (hfresh h).2, rfl⟩, hfenced.6⟩,
      ⟨hflying.1, fun d hd => hflying.handed d (hkeep hd), honce, ?_, by simp⟩, ?_, by simp, ?_⟩
    · intro d hd hcurrent
      have hsequence := (hflying.current d (hkeep hd) hcurrent).2
      have hother := (List.mem_filter.1 hd).2
      simp only [decide_not, Bool.not_eq_true', decide_eq_false_iff_not] at hother
      exact absurd ⟨hcurrent, hsequence⟩ hother
    · intro target h
      obtain ⟨target', h', rfl⟩ := List.mem_map.1 h
      have hbelow := hcounted.below (by simpa using hflag) target' h'
      split
      · exact hbelow
      · exact Nat.le_of_lt hbelow
    · intro _ hnone
      exact absurd hgeneration (hnone delivery (hflying.handed delivery hd))

theorem step_inv (he : powerTransitionCoordinator.enabled s e) (hs : Inv s) :
    Inv (powerTransitionCoordinator.step s e) := by
  have hopen {generation : Nat} (h : generation ∈ s.scheduled)
      (hcurrent : generation = s.resumeState.generation) :
      ¬ (s.powerSuspended = true ∨ s.call = .resuming true) := fun hpending =>
    (hs.fenced.fresh hpending).scheduled generation h hcurrent
  cases e with
  | exit =>
    obtain ⟨hfenced, hflying, hcounted⟩ := hs
    exact ⟨⟨hfenced.1, hfenced.2, hfenced.3, hfenced.4, fun h => ⟨(hfenced.5 h).1, (hfenced.5 h).2,
      (hfenced.5 h).3⟩, hfenced.6⟩, ⟨hflying.1, hflying.2, hflying.3, hflying.4, hflying.5⟩,
      ⟨hcounted.1, hcounted.2, hcounted.3⟩⟩
  | suspend => exact beginSuspend_inv hs
  | suspended activeDeviceIds =>
    obtain ⟨generation, hcall⟩ := he
    simpa [powerTransitionCoordinator, handle, hcall] using endSuspend_inv hs hcall activeDeviceIds
  | suspendThrew => exact endCall_inv hs
  | resume now => exact beginResume_inv hs now
  | resumed callable =>
    obtain ⟨matchedSuspend, hcall⟩ := he
    simpa [powerTransitionCoordinator, handle, hcall] using armResume_inv hs hcall callable
  | resumeThrew => exact endCall_inv hs
  | timerScheduled =>
    obtain ⟨generation, hcall⟩ := he
    simpa [powerTransitionCoordinator, handle, hcall] using schedule_inv hs hcall
  | timerUnavailable =>
    obtain ⟨generation, hcall⟩ := he
    have hpower := (hs.fenced.scheduling generation hcall).2
    have hdeliver := deliverResumeReconnect_inv (endCall_inv hs) generation
      (fun _ => by simp [hpower]) (fun h => hs.fenced.matched (.inr (by rw [hcall, h])))
    simpa [powerTransitionCoordinator, handle, hcall] using hdeliver
  | tick generation =>
    refine deliverResumeReconnect_inv hs generation (hopen he) fun h => hs.fenced.matched (.inl ?_)
    exact h ▸ he
  | completed generation sequence attemptedIds => exact complete_inv hs _ _ _
  | connected deviceId => exact notifyDeviceConnected_inv hs deviceId
  | cancel => exact cancel_inv hs

theorem run_inv {es : List Event} (hs : Inv s) (hrun : powerTransitionCoordinator.Run s es) :
    Inv (powerTransitionCoordinator.exec s es) :=
  EventSystem.Always.invariant (fun _ _ he hs => step_inv he hs) hrun hs

/-! ## The protocol -/

/-- What holds of a state: one delivery a generation is in flight, the present one only after a
matched resume, and no target has more attempts than a cycle allows. -/
structure Protocol (s : State) : Prop where
  once : (s.inFlight.map (·.generation)).Nodup
  matched : s.resumeState.deliveryInFlight = true → s.matched = true ∧ s.powerSuspended = false
  attempts : ∀ target ∈ s.resumeState.targets, target.attempts ≤ maxResumeReconnectAttempts

theorem Inv.protocol (hs : Inv s) : Protocol s := by
  refine ⟨hs.flying.once, fun hflag => ⟨(hs.flying.flag hflag).2.1, ?_⟩, hs.counted.bounded⟩
  cases hpower : s.powerSuspended with
  | false => rfl
  | true =>
    have hfresh := (hs.fenced.fresh (.inl hpower)).notInFlight
    simp [hflag] at hfresh

/-- What an event does: something is handed out after a matched resume only, and with nothing in
flight; stale ticks and completions change nothing; a connected notice removes its target; and
targets leave for no other reason than the three. -/
structure Law (s : State) (e : Event) (t : State) : Prop where
  hands : t.deliveries = s.deliveries ∨ t.deliveries = s.delivery :: s.deliveries ∧
    s.matched = true ∧ s.resumeState.cancelled = false ∧
    ∀ delivery ∈ s.inFlight, delivery.generation ≠ s.resumeState.generation
  staleTick : ∀ generation, e = .tick generation → generation ≠ s.resumeState.generation → t = s
  staleCompletion : ∀ generation sequence attemptedIds,
    e = .completed generation sequence attemptedIds →
    (generation ≠ s.resumeState.generation ∨ ∀ delivery ∈ s.inFlight,
      ¬ (delivery.generation = generation ∧ delivery.sequence = sequence)) →
    { t with inFlight := s.inFlight } = s
  connected : ∀ deviceId, e = .connected deviceId → deviceId ≠ [] →
    t.resumeState = { s.resumeState with
      targets := s.resumeState.targets.filter (·.id ≠ deviceId) }
  leaves : ∀ target ∈ s.resumeState.targets, (∀ left ∈ t.resumeState.targets, left.id ≠ target.id) →
    e = .connected target.id ∨ e = .cancel ∨
      target.attempts = maxResumeReconnectAttempts ∧ s.resumeState.cancelled = false

/-- What `DeliverResumeReconnect` does. -/
theorem deliverResumeReconnect_cases (generation : Nat) (s : State) :
    deliverResumeReconnect generation s = s ∨
      generation = s.resumeState.generation ∧ s.resumeState.cancelled = false ∧
        s.resumeState.deliveryInFlight = false ∧
        deliverResumeReconnect generation s = hand s := by
  unfold deliverResumeReconnect
  split
  · exact .inl rfl
  rename_i hguard
  simp only [not_or, not_not] at hguard
  split
  · exact .inl rfl
  · rename_i hflag
    exact .inr ⟨hguard.2.1.symm, by simpa using hguard.1, by simpa using hflag, rfl⟩

/-- What was handed out, and that the targets that were left are those that can be attempted. -/
theorem hand_spec (s : State) : (hand s).resumeState.targets = s.resumeState.dropExhausted.targets ∧
    ((hand s).deliveries = s.deliveries ∨ (hand s).deliveries = s.delivery :: s.deliveries) := by
  by_cases hhands : s.Hands
  · rw [hand_of_hands hhands]
    exact ⟨rfl, .inr rfl⟩
  · rw [hand_of_not_hands hhands]
    exact ⟨rfl, .inl rfl⟩

/-- A target that `SelectEligible` drops has used up its attempts. -/
theorem Inv.exhausted (hs : Inv s) {target : Target} (h : target ∈ s.resumeState.targets)
    (hleft : ∀ left ∈ s.resumeState.dropExhausted.targets, left.id ≠ target.id) :
    target.attempts = maxResumeReconnectAttempts := by
  have hbound := hs.counted.bounded target h
  by_contra hne
  refine hleft target ?_ rfl
  simp only [ResumeState.dropExhausted, ResumeState.Target.isExhausted, List.mem_filter, h,
    true_and, Bool.not_eq_true', decide_eq_false_iff_not]
  omega

/-- The targets of a new cycle include those of the last one. -/
theorem mem_beginCycle {r : ResumeState} {target : Target} (h : target ∈ r.targets)
    (activeDeviceIds : List WString) :
    ∃ left ∈ (r.beginCycle activeDeviceIds).targets, left.id = target.id := by
  have hcapture (ids : List WString) (targets : List Target) {x : Target} (hx : x ∈ targets) :
      x ∈ ids.foldl ResumeState.capture targets := by
    induction ids generalizing targets with
    | nil => exact hx
    | cons id ids ih =>
      refine ih (ResumeState.capture targets id) ?_
      unfold ResumeState.capture
      split
      · exact List.mem_append_left _ hx
      · exact hx
  exact ⟨{ target with attempts := 0 }, hcapture _ _ (List.mem_map.2 ⟨target, h, rfl⟩), rfl⟩

/-- An event that hands out nothing and keeps every target. -/
theorem law_of_keeps (hdeliveries : t.deliveries = s.deliveries)
    (hkeeps : ∀ target ∈ s.resumeState.targets, ∃ left ∈ t.resumeState.targets,
      left.id = target.id)
    (hplain : ∀ c : Nat × Nat × List WString × WString, e ≠ .tick c.1 ∧
      e ≠ .completed c.1 c.2.1 c.2.2.1 ∧ e ≠ .connected c.2.2.2) : Law s e t := by
  refine ⟨.inl hdeliveries, ?_, ?_, ?_, ?_⟩
  · intro generation he
    exact absurd he (hplain (generation, 0, [], [])).1
  · intro generation sequence attemptedIds he
    exact absurd he (hplain (generation, sequence, attemptedIds, [])).2.1
  · intro deviceId he
    exact absurd he (hplain (0, 0, [], deviceId)).2.2
  · intro target htarget hgone
    obtain ⟨left, hleft, hid⟩ := hkeeps target htarget
    exact absurd hid (hgone left hleft)

/-- What a delivery does in the state in which it is made. -/
theorem hand_law (hs : Inv s) (hmatched : s.matched = true)
    (hcancelled : s.resumeState.cancelled = false) (hflag : s.resumeState.deliveryInFlight = false)
    (hplain : ∀ generation, e = .tick generation → generation = s.resumeState.generation)
    (hother : ∀ c : Nat × Nat × List WString × WString,
      e ≠ .completed c.1 c.2.1 c.2.2.1 ∧ e ≠ .connected c.2.2.2) : Law s e (hand s) := by
  obtain ⟨htargets, hhanded⟩ := hand_spec s
  refine ⟨hhanded.imp_right fun h => ⟨h, hmatched, hcancelled, fun delivery hd hgeneration => ?_⟩,
    ?_, ?_, ?_, ?_⟩
  · simpa [hflag] using (hs.flying.current delivery hd hgeneration).1
  · intro generation he hstale
    exact absurd (hplain generation he) hstale
  · intro generation sequence attemptedIds he
    exact absurd he (hother (generation, sequence, attemptedIds, [])).1
  · intro deviceId he
    exact absurd he (hother (0, 0, [], deviceId)).2
  · intro target htarget hgone
    rw [htargets] at hgone
    exact .inr (.inr ⟨hs.exhausted htarget hgone, hcancelled⟩)

theorem complete_law (hs : Inv s) (generation sequence : Nat) (attemptedIds : List WString) :
    Law s (.completed generation sequence attemptedIds)
      (complete generation sequence attemptedIds s) := by
  have hstale : (generation ≠ s.resumeState.generation ∨ ∀ delivery ∈ s.inFlight,
      ¬ (delivery.generation = generation ∧ delivery.sequence = sequence)) →
      { complete generation sequence attemptedIds s with inFlight := s.inFlight } = s := by
    intro hstale
    unfold complete
    dsimp only
    split
    · rfl
    · rename_i hguard
      simp only [not_or, not_not] at hguard
      obtain ⟨-, rfl, rfl, hflag⟩ := hguard
      obtain ⟨-, -, delivery, hd, hgeneration, hsequence⟩ := hs.flying.flag (by simpa using hflag)
      rcases hstale with h | h
      · exact absurd rfl h
      · exact absurd ⟨hgeneration, hsequence⟩ (h delivery hd)
  refine ⟨.inl ?_, by simp, fun g n ids he hold => ?_, by simp, fun target htarget hgone => ?_⟩
  · unfold complete
    dsimp only
    split <;> rfl
  · cases he
    exact hstale hold
  · unfold complete at hgone
    dsimp only at hgone
    split at hgone
    · exact absurd rfl (hgone target htarget)
    · refine absurd ?_ (hgone _ (List.mem_map_of_mem htarget))
      split <;> rfl

theorem notifyDeviceConnected_law (s : State) (deviceId : WString) :
    Law s (.connected deviceId) (notifyDeviceConnected deviceId s) := by
  have htargets : deviceId ≠ [] → (notifyDeviceConnected deviceId s).resumeState =
      { s.resumeState with targets := s.resumeState.targets.filter (·.id ≠ deviceId) } := by
    intro hid
    unfold notifyDeviceConnected
    rw [if_neg hid]
    dsimp only
    split <;> rfl
  refine ⟨.inl ?_, by simp, by simp, fun id he hid => ?_, fun target htarget hgone => ?_⟩
  · unfold notifyDeviceConnected
    split
    · rfl
    · dsimp only
      split <;> rfl
  · cases he
    exact htargets hid
  · by_cases hid : deviceId = []
    · simp only [notifyDeviceConnected, hid, if_true] at hgone
      exact absurd rfl (hgone target htarget)
    · rw [htargets hid] at hgone
      by_cases heq : target.id = deviceId
      · exact .inl (by rw [heq])
      · exact absurd rfl (hgone target (List.mem_filter.2 ⟨htarget, by simpa using heq⟩))

theorem step_law (he : powerTransitionCoordinator.enabled s e) (hs : Inv s) :
    Law s e (powerTransitionCoordinator.step s e) := by
  have hself (target : Target) (h : target ∈ s.resumeState.targets) :
      ∃ left ∈ s.resumeState.targets, left.id = target.id := ⟨target, h, rfl⟩
  cases e with
  | exit => exact law_of_keeps rfl hself (by simp)
  | suspend =>
    show Law s _ (beginSuspend s)
    unfold beginSuspend
    split <;> exact law_of_keeps rfl hself (by simp)
  | suspended activeDeviceIds =>
    obtain ⟨generation, hcall⟩ := he
    simp only [powerTransitionCoordinator, handle, hcall]
    unfold endSuspend
    split
    · exact law_of_keeps rfl hself (by simp)
    · exact law_of_keeps rfl (fun target h => mem_beginCycle h activeDeviceIds) (by simp)
  | suspendThrew | resumeThrew => exact law_of_keeps rfl hself (by simp)
  | resume now =>
    show Law s _ (beginResume now s)
    unfold beginResume
    split
    · exact law_of_keeps rfl hself (by simp)
    split <;> exact law_of_keeps rfl hself (by simp)
  | resumed callable =>
    obtain ⟨matchedSuspend, hcall⟩ := he
    simp only [powerTransitionCoordinator, handle, hcall]
    unfold armResume
    split
    · exact law_of_keeps rfl hself (by simp)
    dsimp only
    split <;> exact law_of_keeps rfl hself (by simp)
  | timerScheduled =>
    obtain ⟨generation, hcall⟩ := he
    simp only [powerTransitionCoordinator, handle, hcall]
    exact law_of_keeps rfl hself (by simp)
  | timerUnavailable =>
    obtain ⟨generation, hcall⟩ := he
    simp only [powerTransitionCoordinator, handle, hcall]
    rcases deliverResumeReconnect_cases generation { s with call := .none } with h |
      ⟨hgeneration, hcancelled, hflag, h⟩
    · rw [h]
      exact law_of_keeps rfl hself (by simp)
    · rw [h]
      have hlaw := hand_law (e := .timerUnavailable) (endCall_inv hs)
        (hs.fenced.matched (.inr (by rw [hcall, hgeneration]))) hcancelled hflag (by simp) (by simp)
      exact ⟨hlaw.1, by simp, by simp, by simp, hlaw.5⟩
  | tick generation =>
    show Law s _ (deliverResumeReconnect generation s)
    rcases deliverResumeReconnect_cases generation s with h | ⟨rfl, hcancelled, hflag, h⟩
    · rw [h]
      exact ⟨.inl rfl, fun _ _ _ => rfl, by simp, by simp,
        fun target htarget hgone => absurd rfl (hgone target htarget)⟩
    · rw [h]
      exact hand_law hs (hs.fenced.matched (.inl he)) hcancelled hflag (by simp [eq_comm])
        (by simp)
  | completed generation sequence attemptedIds => exact complete_law hs _ _ _
  | connected deviceId => exact notifyDeviceConnected_law s deviceId
  | cancel =>
    exact ⟨.inl rfl, by simp, by simp, by simp, fun _ _ _ => .inr (.inl rfl)⟩

/-! ## Redelivery -/

theorem deliverResumeReconnect_generation (generation : Nat) (s : State) :
    (deliverResumeReconnect generation s).resumeState.generation = s.resumeState.generation := by
  rcases deliverResumeReconnect_cases generation s with h | ⟨-, -, -, h⟩
  · rw [h]
  · rw [h]
    by_cases hhands : s.Hands
    · rw [hand_of_hands hhands]
      rfl
    · rw [hand_of_not_hands hhands]
      rfl

/-- Generations only grow. -/
theorem step_generation_le (s : State) (e : Event) :
    s.resumeState.generation ≤ (powerTransitionCoordinator.step s e).resumeState.generation := by
  cases e <;> simp only [powerTransitionCoordinator, handle]
  case suspend =>
    unfold beginSuspend
    split <;> simp
  case suspended activeDeviceIds =>
    cases s.call <;> simp only [Nat.le_refl]
    unfold endSuspend
    split <;> exact Nat.le_refl _
  case resume now =>
    unfold beginResume
    split
    · simp
    split <;> simp
  case resumed callable =>
    cases s.call <;> simp only [Nat.le_refl]
    unfold armResume
    split
    · simp
    dsimp only
    split <;> simp
  case timerScheduled => cases s.call <;> exact Nat.le_refl _
  case timerUnavailable =>
    cases s.call <;> simp only [deliverResumeReconnect_generation, Nat.le_refl]
  case tick => simp only [deliverResumeReconnect_generation, Nat.le_refl]
  case completed =>
    unfold complete
    dsimp only
    split <;> exact Nat.le_refl _
  case connected =>
    unfold notifyDeviceConnected
    split
    · exact Nat.le_refl _
    dsimp only
    split <;> exact Nat.le_refl _
  case cancel => simp [cancel]
  all_goals exact Nat.le_refl _

/-- A target is pending. -/
def State.Pending (id : WString) (s : State) : Prop :=
  ∃ target ∈ s.resumeState.targets, target.id = id

/-- The target is pending until something is handed out in a later generation. -/
structure Kept (id : WString) (deliveries : List Delivery) (s : State) : Prop where
  grows : deliveries.length ≤ s.deliveries.length
  fresh : ∀ delivery ∈ deliveries, delivery.generation < s.resumeState.generation
  pending : s.deliveries = deliveries → s.Pending id

theorem step_kept {id : WString} {deliveries : List Delivery}
    (he : powerTransitionCoordinator.enabled s e) (hs : Inv s) (hconnected : e ≠ .connected id)
    (hcancel : e ≠ .cancel) (hkept : Kept id deliveries s) :
    Kept id deliveries (powerTransitionCoordinator.step s e) := by
  have hlaw := step_law he hs
  refine ⟨?_, fun delivery hd => ?_, fun hsame => ?_⟩
  · have hgrows := hkept.grows
    rcases hlaw.hands with h | ⟨h, -⟩ <;> rw [h]
    · exact hgrows
    · exact Nat.le_succ_of_le hgrows
  · exact Nat.lt_of_lt_of_le (hkept.fresh delivery hd) (step_generation_le s e)
  · have hbefore : s.deliveries = deliveries := by
      rcases hlaw.hands with h | ⟨h, -⟩
      · rw [← h, hsame]
      · have hlength := congrArg List.length (h.symm.trans hsame)
        have hgrows := hkept.grows
        simp only [List.length_cons] at hlength
        omega
    obtain ⟨target, htarget, rfl⟩ := hkept.pending hbefore
    by_contra hgone
    have hleaves := hlaw.leaves target htarget fun left hleft hid => hgone ⟨left, hleft, hid⟩
    rcases hleaves with h | h | ⟨hattempts, hcancelled⟩
    · exact hconnected h
    · exact hcancel h
    · have hzero := hs.counted.untouched hcancelled
        (fun delivery hd => Nat.ne_of_lt (hkept.fresh delivery (hbefore ▸ hd))) target htarget
      simp [hzero, maxResumeReconnectAttempts] at hattempts

/-- What was pending when a suspend came is among what is handed out first after it, unless it was
connected or the coordinator was cancelled. -/
def Redelivers (s : State) (es : List Event) : Prop :=
  ∀ pre mid rest e id, es = pre ++ .suspend :: mid ++ e :: rest →
    let before := powerTransitionCoordinator.exec s pre
    let after := powerTransitionCoordinator.exec s (pre ++ .suspend :: mid)
    before.exiting = false → before.powerSuspended = false → before.Pending id →
    (∀ e ∈ mid, e ≠ .connected id ∧ e ≠ .cancel) → after.deliveries = before.deliveries →
    ∀ delivery, (powerTransitionCoordinator.step after e).deliveries =
      delivery :: after.deliveries → id ∈ delivery.ids

theorem run_redelivers {es : List Event} (hs : Inv s)
    (hrun : powerTransitionCoordinator.Run s es) : Redelivers s es := by
  rintro pre mid rest e id rfl before after hexiting hpower hpending hquiet hsame delivery hhanded
  obtain ⟨hpre, hpost⟩ := (EventSystem.run_append _).1 hrun
  obtain ⟨hpre, hsuspend, hmid⟩ := (EventSystem.run_append _).1 hpre
  have hbefore : Inv before := run_inv hs hpre
  have hsuspended := step_inv hsuspend hbefore
  have hstep : powerTransitionCoordinator.step before .suspend = beginSuspend before := rfl
  have hkept : Kept id before.deliveries (powerTransitionCoordinator.step before .suspend) := by
    rw [hstep, beginSuspend, if_neg (by simp [hexiting, hpower])]
    refine ⟨Nat.le_refl _, fun delivery hd => ?_, fun _ => hpending⟩
    exact (hbefore.newGeneration (Nat.lt_succ_self _)).2 delivery hd
  have hrest := (hmid.and (EventSystem.always_of_forall hquiet)).invariant
    (I := fun t => Inv t ∧ Kept id before.deliveries t)
    (fun t e h hi => ⟨step_inv h.1 hi.1, step_kept h.1 hi.1 h.2.1 h.2.2 hi.2⟩)
    ⟨hsuspended, hkept⟩
  have hafter : after = powerTransitionCoordinator.exec
      (powerTransitionCoordinator.step before .suspend) mid := by
    simp [after, before, EventSystem.exec_append]
  rw [← hafter] at hrest
  obtain ⟨hinv, hkept⟩ := hrest
  rcases (step_law hpost.1 hinv).hands with h | ⟨h, -, hcancelled, -⟩
  · have hlength := congrArg List.length (h.symm.trans hhanded)
    rw [List.length_cons] at hlength
    exact absurd hlength (Nat.ne_of_lt (Nat.lt_succ_self _))
  · obtain ⟨target, htarget, rfl⟩ := hkept.pending hsame
    have hzero := hinv.counted.untouched hcancelled
      (fun delivery hd => Nat.ne_of_lt (hkept.fresh delivery (hsame ▸ hd))) target htarget
    have hdelivery : delivery = after.delivery :=
      (List.cons.inj (hhanded.symm.trans h)).1
    rw [hdelivery]
    refine List.mem_map.2 ⟨target, List.mem_filter.2 ⟨htarget, ?_⟩, rfl⟩
    simp [ResumeState.Target.isExhausted, hzero, maxResumeReconnectAttempts]

/-- The delivery protocol, for every order of the coordinator's events. -/
theorem resume_delivery_protocol {es : List Event}
    (hrun : powerTransitionCoordinator.Run initial es) :
    Protocol (powerTransitionCoordinator.exec initial es) ∧
      powerTransitionCoordinator.Always
        (fun s e => Law s e (powerTransitionCoordinator.step s e)) initial es ∧
      Redelivers initial es :=
  ⟨(run_inv inv_initial hrun).protocol,
    EventSystem.Always.of_invariant (fun _ _ he hs => step_inv he hs)
      (fun _ _ he hs => step_law he hs) hrun inv_initial,
    run_redelivers inv_initial hrun⟩

/-- A delivery that is interrupted by a suspend whose callback throws, and the two cycles after it. -/
def interruptedDelivery : List Event :=
  [.suspend, .suspended [[65]], .resume 10, .resumed true, .timerScheduled, .tick 1,
    .suspend, .suspendThrew, .resume 20, .resumed true,
    .suspend, .suspended [], .resume 30, .resumed true, .timerScheduled, .completed 1 1 [[65]],
    .tick 3]

theorem resume_delivery_protocol_interruptedDelivery :
    Protocol (powerTransitionCoordinator.exec initial interruptedDelivery) ∧
      powerTransitionCoordinator.Always
        (fun s e => Law s e (powerTransitionCoordinator.step s e)) initial interruptedDelivery ∧
      Redelivers initial interruptedDelivery :=
  resume_delivery_protocol (by decide)

end PowerTransitionCoordinator

end PlaybackConnector
